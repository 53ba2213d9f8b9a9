import QueryPipe.Proofs.Locating
import QueryPipe.Site.Unit

/-! The sites of a source cut it into gaps and literals, and splicing changes the
literals only. -/

namespace QueryPipe

open Go (Token Lexeme spelling tokensFrom)
open Text.Utf8 (byteLength splitAt)

namespace Site

/-! ## Where sites stand -/

/-- Literals stand among lexemes that begin at a byte offset, each behind the one
before it. -/
inductive Stand : (offset : Nat) → List Lexeme → List (Token × Kind) → Prop
  | nil {offset : Nat} {lexemes : List Lexeme} : Stand offset lexemes []
  | cons {offset : Nat} {token : Token} {kind : Kind} {gap rest : List Lexeme}
      {literals : List (Token × Kind)} (isLiteral : token.kind = .stringLiteral)
      (start : token.start = offset + byteLength (spelling gap))
      (stop : token.stop = token.start + byteLength token.text) :
      Stand token.stop rest literals →
      Stand offset (gap ++ .token .stringLiteral token.text :: rest) ((token, kind) :: literals)

theorem stand_of_increasing {literals : List (Token × Kind)} {offset : Nat}
    {lexemes : List Lexeme}
    (among : ∀ literal ∈ literals,
      literal.1 ∈ tokensFrom offset lexemes ∧ literal.1.kind = .stringLiteral)
    (increasing : literals.Pairwise fun left right => left.1.start < right.1.start) :
    Stand offset lexemes literals := by
  induction literals generalizing offset lexemes with
  | nil => exact .nil
  | cons literal literals induction =>
      rcases literal with ⟨token, kind⟩
      rcases among (token, kind) (List.mem_cons_self ..) with ⟨member, isLiteral⟩
      rcases Go.mem_tokensFrom member with ⟨gap, rest, rfl, start, stop⟩
      have stand : Stand token.stop rest literals := by
        refine induction ?_ increasing.of_cons
        intro later laterMember
        rcases among later (List.mem_cons_of_mem _ laterMember) with ⟨among, laterLiteral⟩
        have behind := List.rel_of_pairwise_cons increasing laterMember
        simp only at behind start stop isLiteral
        refine ⟨?_, laterLiteral⟩
        rw [Go.tokensFrom_append, tokensFrom, List.mem_append, List.mem_cons] at among
        rcases among with before | same | after
        · -- A token in the gap begins before the literal.
          rcases Go.mem_tokensFrom before with ⟨front, back, rfl, laterStart, -⟩
          rw [Go.spelling_append, Text.Utf8.byteLength_append] at start
          omega
        · rw [same] at behind
          simp only at behind
          omega
        · rwa [← start, ← stop] at after
      have kindEq : token.kind = .stringLiteral := isLiteral
      rw [kindEq]
      exact .cons isLiteral start stop stand

/-- Sites stand in a text that begins at a byte offset, each behind the one
before it, and each holds the characters between its offsets. -/
inductive Laid : (offset : Nat) → List Site → List Char → Prop
  | nil {offset : Nat} {text : List Char} : Laid offset [] text
  | cons {offset : Nat} {site : Site} {gap rest : List Char} {sites : List Site}
      (start : site.start = offset + byteLength gap)
      (stop : site.stop = site.start + byteLength site.raw.toList) :
      Laid site.stop sites rest → Laid offset (site :: sites) (gap ++ (site.raw.toList ++ rest))

theorem Stand.laid {offset : Nat} {lexemes : List Lexeme} {literals : List (Token × Kind)}
    (stand : Stand offset lexemes literals) (source : List Char) :
    Laid offset (literals.map (ofLiteral source)) (spelling lexemes) := by
  induction stand with
  | nil => exact .nil
  | @cons offset token kind gap rest literals isLiteral start stop _ induction =>
      rw [Go.spelling_append, Go.spelling_cons, List.map_cons]
      have raw : (ofLiteral source (token, kind)).raw.toList = token.text := String.toList_ofList
      rw [Lexeme.text, ← raw]
      exact .cons start (by rw [raw]; exact stop) induction

theorem Laid.behind {offset : Nat} {front text : List Char} {sites : List Site}
    (laid : Laid (offset + byteLength front) sites text) : Laid offset sites (front ++ text) := by
  generalize shifted : offset + byteLength front = place at laid
  cases laid with
  | nil => exact .nil
  | @cons _ site gap rest sites start stop laid =>
      rw [← List.append_assoc]
      refine .cons ?_ stop laid
      rw [start, Text.Utf8.byteLength_append]
      omega

end Site

/-! ## Parsed sources -/

theorem Go.exists_lexemes_of_parse? {source : List Char} {tree : Go.Tree}
    (parsed : Go.parse? source = some tree) :
    ∃ lexemes, Go.Cuts [] lexemes ∧ source = Go.leadingMark source ++ spelling lexemes ∧
      Go.parseTokens? (tokensFrom (byteLength (Go.leadingMark source)) lexemes) = some tree := by
  rw [Go.parse?] at parsed
  split at parsed
  · rename_i tokens lexed
    rcases Go.lex_eq_ok_iff.mp lexed with ⟨lexemes, cuts, spelled, rfl⟩
    exact ⟨lexemes, cuts, spelled, parsed⟩
  · cases parsed

namespace Site

theorem stand_of_parseTokens? {offset : Nat} {lexemes : List Lexeme} {tree : Go.Tree}
    (parsed : Go.parseTokens? (tokensFrom offset lexemes) = some tree) (shape : Shape) :
    Stand offset lexemes (inOrder (shape.literals tree)) := by
  rcases Go.derives_of_parseTokens? parsed with ⟨rest, -, derives⟩
  refine stand_of_increasing ?_ (inOrder_increasing _)
  intro literal member
  rcases mem_tokens_of_mem_literals (inOrder_subset _ member) with ⟨inTree, isLiteral⟩
  refine ⟨derives.tokens_subset.1 ?_, isLiteral⟩
  rw [Go.forestTokens, Go.forestTokens, List.append_nil]
  exact inTree

/-- The sites of a parsed source stand in it, in the order in which they are
located. -/
theorem laid_locate {source : List Char} {tree : Go.Tree}
    (parsed : Go.parse? source = some tree) (shape : Shape) :
    Laid 0 (locate shape source tree) source := by
  rcases Go.exists_lexemes_of_parse? parsed with ⟨lexemes, -, spelled, parsedTokens⟩
  have laid := (stand_of_parseTokens? parsedTokens shape).laid source
  rw [← locate_eq] at laid
  have whole : Laid 0 (locate shape source tree) (Go.leadingMark source ++ spelling lexemes) := by
    apply Laid.behind
    rwa [Nat.zero_add]
  rwa [← spelled] at whole

end Site

/-! ## Gaps -/

/-- The characters of a text from one byte offset to another. -/
def slice (start stop : Nat) (text : List Char) : List Char :=
  (splitAt (stop - start) (splitAt start text).2).1

/-- The gaps of a source from an offset on, with a text in the place of each site. -/
def weave (source : List Char) : (offset : Nat) → List (Site × List Char) → List Char
  | offset, [] => (splitAt offset source).2
  | offset, (site, text) :: rest =>
    slice offset site.start source ++ text ++ weave source site.stop rest

theorem slice_append {before gap rest : List Char} :
    slice (byteLength before) (byteLength before + byteLength gap) (before ++ (gap ++ rest)) =
      gap := by
  rw [slice, Text.Utf8.splitAt_append, Nat.add_sub_cancel_left, Text.Utf8.splitAt_append]

/-- One step of weaving, where the text up to the site is known. -/
theorem weave_cons {source before gap rest text : List Char} {site : Site}
    (whole : source = before ++ (gap ++ rest))
    (start : site.start = byteLength before + byteLength gap)
    (pairs : List (Site × List Char)) :
    weave source (byteLength before) ((site, text) :: pairs) =
      gap ++ text ++ weave source site.stop pairs := by
  rw [weave, start, whole, slice_append]

/-- Weaving from before a stretch that holds no site. -/
theorem weave_behind {source before front text : List Char} {pairs : List (Site × List Char)}
    (whole : source = before ++ (front ++ text))
    (laid : Site.Laid (byteLength (before ++ front)) (pairs.map Prod.fst) text) :
    weave source (byteLength before) pairs =
      front ++ weave source (byteLength (before ++ front)) pairs := by
  generalize standing : pairs.map Prod.fst = sites at laid
  cases laid with
  | nil =>
      rcases List.map_eq_nil_iff.mp standing with rfl
      rw [weave, weave, whole, Text.Utf8.splitAt_append, ← List.append_assoc,
        Text.Utf8.splitAt_append]
  | @cons _ site gap rest sites start stop laid =>
      rcases List.map_eq_cons_iff.mp standing with ⟨⟨site, written⟩, pairs, rfl, rfl, -⟩
      have fromFront : site.start = byteLength before + byteLength (front ++ gap) := by
        rw [start, Text.Utf8.byteLength_append, Text.Utf8.byteLength_append, Nat.add_assoc]
      have divided : source = before ++ ((front ++ gap) ++ (site.raw.toList ++ rest)) := by
        rw [whole, List.append_assoc]
      have wholeFront : source = (before ++ front) ++ (gap ++ (site.raw.toList ++ rest)) := by
        rw [whole, List.append_assoc]
      rw [weave_cons divided fromFront, weave_cons wholeFront start]
      simp only [List.append_assoc]

private theorem stop_eq {before gap : List Char} {site : Site}
    (start : site.start = byteLength before + byteLength gap)
    (stop : site.stop = site.start + byteLength site.raw.toList) :
    site.stop = byteLength (before ++ (gap ++ site.raw.toList)) := by
  rw [stop, start, Text.Utf8.byteLength_append, Text.Utf8.byteLength_append, Nat.add_assoc]

/-- The gaps and the literals of a source are the source. -/
theorem weave_raw {source before text : List Char} {sites : List Site}
    (whole : source = before ++ text) (laid : Site.Laid (byteLength before) sites text) :
    weave source (byteLength before) (sites.map fun site => (site, site.raw.toList)) = text := by
  generalize placed : byteLength before = offset at laid ⊢
  induction laid generalizing before with
  | nil =>
      rw [List.map_nil, weave, ← placed, whole, Text.Utf8.splitAt_append]
  | @cons offset site gap rest sites start stop laid induction =>
      subst placed
      have later := @induction (before ++ (gap ++ site.raw.toList)) (by simp [whole])
        (stop_eq start stop).symm
      rw [List.map_cons, weave_cons whole start, later, List.append_assoc]

/-- One step of splicing, where the text up to the site is known. -/
theorem splice_cons_of_replaced {offset : Nat} {slot : Slot} {replacement : String}
    (replaced : slot.replacement = some replacement) {gap rest : List Char}
    (cut : slot.site.start - offset = byteLength gap)
    (size : slot.site.stop - slot.site.start = byteLength slot.site.raw.toList)
    (slots : List Slot) :
    SourceUnit.splice offset (slot :: slots) (gap ++ (slot.site.raw.toList ++ rest)) =
      gap ++ replacement.toList ++ SourceUnit.splice slot.site.stop slots rest := by
  rw [SourceUnit.splice, replaced]
  simp only [cut, size, Text.Utf8.splitAt_append]

/-- Splicing weaves the replacements into the gaps, and the literals of sites
that have none. -/
theorem splice_eq_weave {source before front text : List Char} {offset : Nat} {slots : List Slot}
    (whole : source = before ++ text) (fronted : byteLength before = offset + byteLength front)
    (laid : Site.Laid (byteLength before) (slots.map (·.site)) text) :
    SourceUnit.splice offset slots (front ++ text) =
      front ++ weave source (byteLength before)
        (slots.map fun slot => (slot.site, (slot.replacement.getD slot.site.raw).toList)) := by
  generalize placed : byteLength before = place at laid ⊢
  generalize standing : slots.map (·.site) = sites at laid
  induction laid generalizing before front offset slots with
  | nil =>
      rcases List.map_eq_nil_iff.mp standing with rfl
      rw [SourceUnit.splice, List.map_nil, weave, ← placed, whole, Text.Utf8.splitAt_append]
  | @cons place site gap rest sites start stop laid induction =>
      subst placed
      cases slots with
      | nil => cases standing
      | cons slot slots =>
          rw [List.map_cons, List.cons.injEq] at standing
          rcases standing with ⟨rfl, standing⟩
          have reached := stop_eq start stop
          have later : source = (before ++ (gap ++ slot.site.raw.toList)) ++ rest := by
            simp [whole]
          rw [List.map_cons, weave_cons whole start]
          cases replacement : slot.replacement with
          | none =>
              rw [SourceUnit.splice, replacement]
              have kept := @induction (before ++ (gap ++ slot.site.raw.toList))
                (front ++ (gap ++ slot.site.raw.toList)) offset slots later
                (by simp only [Text.Utf8.byteLength_append] at fronted ⊢; omega) reached.symm standing
              simp only [List.append_assoc] at kept ⊢
              simpa using kept
          | some text =>
              have cut : slot.site.start - offset = byteLength (front ++ gap) := by
                rw [start, fronted, Text.Utf8.byteLength_append]
                omega
              have size : slot.site.stop - slot.site.start = byteLength slot.site.raw.toList := by
                omega
              have replaced := @induction (before ++ (gap ++ slot.site.raw.toList)) [] slot.site.stop
                slots later (by simp [reached]) reached.symm standing
              simp only [List.nil_append] at replaced
              rw [← List.append_assoc front gap, splice_cons_of_replaced replacement cut size,
                replaced]
              simp only [Option.getD_some, List.append_assoc]

end QueryPipe
