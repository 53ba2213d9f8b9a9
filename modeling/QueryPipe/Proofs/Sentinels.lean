import QueryPipe.Proofs.ByteOffsets
import QueryPipe.Template.Placeholders
import Mathlib.Data.List.Basic
import Mathlib.Data.List.Infix

/-! How the sentinels that a scan finds in a filled template lie to the
sentinels that were put there.

Both are ways to cut one text into chunks: the layout of a template, where each
verb is a sentinel and everything else is plain, and what the scan makes of the
filled text. The scan finds sentinels that the template already spelled, and it
may lose a filled one behind the text before it. -/

namespace QueryPipe.Template

/-! ## Sentinels at the front of a text -/

theorem Verb.sentinel_ne_nil (verb : Verb) : verb.sentinel ≠ [] := by
  cases verb <;> simp [Verb.sentinel]

theorem sentinelAt?_sentinel_append (verb : Verb) (rest : List Char) :
    sentinelAt? (verb.sentinel ++ rest) = some verb := by
  cases verb <;> simp [sentinelAt?, Verb.all, Verb.sentinel, List.isPrefixOf]

theorem exists_append_of_sentinelAt? {text : List Char} {verb : Verb}
    (found : sentinelAt? text = some verb) : ∃ rest, text = verb.sentinel ++ rest := by
  have isPrefix := List.find?_some found
  rw [List.isPrefixOf_iff_prefix] at isPrefix
  rcases isPrefix with ⟨rest, equal⟩
  exact ⟨rest, equal.symm⟩

/-- A text begins with at most one sentinel. -/
theorem verb_eq_of_sentinel_append {left right : Verb} {leftRest rightRest : List Char}
    (equal : left.sentinel ++ leftRest = right.sentinel ++ rightRest) : left = right := by
  have leftFound := sentinelAt?_sentinel_append left leftRest
  rw [equal, sentinelAt?_sentinel_append] at leftFound
  exact (Option.some.inj leftFound).symm

/-- A sentinel that begins inside another one begins at its last character, and
that one is no number. -/
theorem sentinel_overlap {verb inner : Verb} {before inside rest more : List Char}
    (cut : verb.sentinel = before ++ inside) (beforeNe : before ≠ []) (insideNe : inside ≠ [])
    (equal : inside ++ rest = inner.sentinel ++ more) :
    before = verb.sentinel.dropLast ∧ verb ≠ .decimal := by
  have bordered : ∀ count < verb.sentinel.length, 0 < count →
      (verb.sentinel.drop count <+: inner.sentinel ∨
        inner.sentinel <+: verb.sentinel.drop count) →
      count = verb.sentinel.length - 1 ∧ verb ≠ .decimal := by
    cases verb <;> cases inner <;> decide
  have beforeEq : before = verb.sentinel.take before.length := by simp [cut]
  have insideEq : inside = verb.sentinel.drop before.length := by simp [cut]
  have positive := List.length_pos_of_ne_nil beforeNe
  have shorter : before.length < verb.sentinel.length := by
    have := List.length_pos_of_ne_nil insideNe
    rw [cut, List.length_append]
    omega
  have nested := List.prefix_or_prefix_of_prefix (List.prefix_append inside rest)
    (equal ▸ List.prefix_append inner.sentinel more)
  rw [insideEq] at nested
  rcases bordered before.length shorter positive nested with ⟨last, noNumber⟩
  refine ⟨?_, noNumber⟩
  rw [List.dropLast_eq_take, ← last]
  exact beforeEq

/-! ## Chunks of a text -/

/-- The characters of chunks. -/
def textOf (chunks : List Chunk) : List Char := chunks.flatMap Chunk.text

@[simp] theorem textOf_nil : textOf [] = [] := rfl

@[simp] theorem textOf_plain (char : Char) (chunks : List Chunk) :
    textOf (.plain char :: chunks) = char :: textOf chunks := rfl

@[simp] theorem textOf_sentinel (verb : Verb) (chunks : List Chunk) :
    textOf (.sentinel verb :: chunks) = verb.sentinel ++ textOf chunks := rfl

private theorem chunksFrom_eq_drop (skip : Nat) (text : List Char) :
    chunksFrom skip text = chunks (text.drop skip) := by
  induction text generalizing skip with
  | nil => cases skip <;> simp [chunksFrom, chunks]
  | cons char rest induction =>
      cases skip with
      | zero => rfl
      | succ skip => exact induction skip

@[simp] theorem chunks_nil : chunks [] = [] := rfl

theorem chunks_sentinel_append (verb : Verb) (rest : List Char) :
    chunks (verb.sentinel ++ rest) = .sentinel verb :: chunks rest := by
  have found := sentinelAt?_sentinel_append verb rest
  cases cut : verb.sentinel with
  | nil => exact absurd cut verb.sentinel_ne_nil
  | cons char tail =>
      rw [cut, List.cons_append] at found
      rw [List.cons_append, chunks, chunksFrom, found]
      simp [chunksFrom_eq_drop, cut]

theorem chunks_cons_of_none {char : Char} {rest : List Char}
    (missed : sentinelAt? (char :: rest) = none) :
    chunks (char :: rest) = .plain char :: chunks rest := by
  rw [chunks, chunksFrom, missed]
  rfl

/-- A scan takes a sentinel, or a character where none begins, and goes on behind it. -/
@[elab_as_elim]
theorem scan_induction {motive : List Char → Prop} (nil : motive [])
    (plain : ∀ char rest, sentinelAt? (char :: rest) = none → motive rest → motive (char :: rest))
    (sentinel : ∀ verb rest, motive rest → motive (Verb.sentinel verb ++ rest))
    (text : List Char) : motive text := by
  induction counted : text.length using Nat.strong_induction_on generalizing text with
  | _ count induction =>
      cases text with
      | nil => exact nil
      | cons char rest =>
          cases found : sentinelAt? (char :: rest) with
          | none => exact plain char rest found (induction rest.length (by simp [← counted]) rest rfl)
          | some verb =>
              rcases exists_append_of_sentinelAt? found with ⟨more, equal⟩
              have shorter : more.length < count := by
                have := List.length_pos_of_ne_nil verb.sentinel_ne_nil
                rw [← counted, equal, List.length_append]
                omega
              rw [equal]
              exact sentinel verb more (induction more.length shorter more rfl)

@[simp] theorem textOf_chunks (text : List Char) : textOf (chunks text) = text := by
  induction text using scan_induction with
  | nil => rfl
  | plain char rest missed induction => rw [chunks_cons_of_none missed, textOf_plain, induction]
  | sentinel verb rest induction => rw [chunks_sentinel_append, textOf_sentinel, induction]

/-- Chunks whose text begins with some characters: either these are plain, or a
sentinel begins among them. -/
theorem exists_of_textOf_eq_append {layout : List Chunk} {front rest : List Char}
    (equal : textOf layout = front ++ rest) :
    (∃ after, layout = front.map .plain ++ after ∧ textOf after = rest) ∨
    (∃ before inside verb after, front = before ++ inside ∧ inside ≠ [] ∧
      layout = before.map .plain ++ .sentinel verb :: after ∧
      inside ++ rest = verb.sentinel ++ textOf after) := by
  induction front generalizing layout with
  | nil => exact .inl ⟨layout, by simp, by simpa using equal⟩
  | cons char front induction =>
      cases layout with
      | nil => simp at equal
      | cons chunk layout =>
          cases chunk with
          | sentinel verb =>
              exact .inr ⟨[], char :: front, verb, layout, rfl, by simp, rfl, equal.symm⟩
          | plain other =>
              rw [textOf_plain, List.cons_append, List.cons.injEq] at equal
              rcases equal with ⟨rfl, equal⟩
              rcases induction equal with ⟨after, rfl, afterText⟩ |
                ⟨before, inside, verb, after, rfl, insideNe, rfl, inner⟩
              · exact .inl ⟨after, rfl, afterText⟩
              · exact .inr ⟨other :: before, inside, verb, after, rfl, insideNe, rfl, inner⟩

/-! ## Offsets of sentinels -/

/-- The byte offsets of the sentinels among chunks that begin at an offset. -/
def offsetsFrom (offset : Nat) (chunks : List Chunk) : List Nat :=
  (occurrencesFrom offset chunks).map (·.offset)

@[simp] theorem offsetsFrom_nil (offset : Nat) : offsetsFrom offset [] = [] := rfl

@[simp] theorem offsetsFrom_plain (offset : Nat) (char : Char) (chunks : List Chunk) :
    offsetsFrom offset (.plain char :: chunks) = offsetsFrom (offset + char.utf8Size) chunks := rfl

@[simp] theorem offsetsFrom_sentinel (offset : Nat) (verb : Verb) (chunks : List Chunk) :
    offsetsFrom offset (.sentinel verb :: chunks) =
      offset :: offsetsFrom (offset + Text.Utf8.byteLength verb.sentinel) chunks := rfl

theorem offsetsFrom_map_plain_append (offset : Nat) (front : List Char) (chunks : List Chunk) :
    offsetsFrom offset (front.map .plain ++ chunks) =
      offsetsFrom (offset + Text.Utf8.byteLength front) chunks := by
  induction front generalizing offset with
  | nil => rfl
  | cons char front induction =>
      rw [List.map_cons, List.cons_append, offsetsFrom_plain, induction,
        Text.Utf8.byteLength_cons, Nat.add_assoc]

theorem le_of_mem_offsetsFrom {offset place : Nat} {chunks : List Chunk}
    (member : place ∈ offsetsFrom offset chunks) : offset ≤ place := by
  induction chunks generalizing offset with
  | nil => simp at member
  | cons chunk chunks induction =>
      cases chunk with
      | plain char => exact (Nat.le_add_right _ _).trans (induction member)
      | sentinel verb =>
          rcases List.mem_cons.mp member with rfl | member
          · exact Nat.le_refl _
          · exact (Nat.le_add_right _ _).trans (induction member)

theorem offsetsFrom_sorted (offset : Nat) (chunks : List Chunk) :
    (offsetsFrom offset chunks).Pairwise (· < ·) := by
  induction chunks generalizing offset with
  | nil => exact .nil
  | cons chunk chunks induction =>
      cases chunk with
      | plain char => exact induction _
      | sentinel verb =>
          refine List.Pairwise.cons ?_ (induction _)
          intro place member
          have positive := Text.Utf8.byteLength_pos verb.sentinel_ne_nil
          have bound := le_of_mem_offsetsFrom member
          exact Nat.lt_of_lt_of_le (Nat.lt_add_of_pos_right positive) bound

theorem offsetsFrom_nodup (offset : Nat) (chunks : List Chunk) :
    (offsetsFrom offset chunks).Nodup :=
  (offsetsFrom_sorted offset chunks).imp Nat.ne_of_lt

end QueryPipe.Template
