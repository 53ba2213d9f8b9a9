import QueryPipe.Proofs.Framing
import QueryPipe.Proofs.ScannedBytes

/-! When a text is restored, and to what. The text is cut along its sentinels; what stands
between them stays as it is, and each sentinel becomes what stood at the sentinel of the
same number in the template. -/

namespace QueryPipe.Template

open Text.Utf8 (byteLength)

/-! ## Marks of a text

A text that can be restored has one mark for each of its sentinels, in order. -/

inductive Aligned : List Mark → List Chunk → Prop
  | nil : Aligned [] []
  | plain (char : Char) : Aligned marks scanned → Aligned marks (.plain char :: scanned)
  | sentinel (mark : Mark) : Aligned marks scanned →
      Aligned (mark :: marks) (.sentinel mark.verb :: scanned)

theorem aligned_of_verbs {marks : List Mark} {scanned : List Chunk}
    (same : scanned.filterMap Chunk.verb? = marks.map (·.verb)) : Aligned marks scanned := by
  induction scanned generalizing marks with
  | nil =>
      have noMarks : marks = [] := by simpa using same.symm
      rw [noMarks]
      exact .nil
  | cons chunk scanned induction =>
      cases chunk with
      | plain char => exact .plain char (induction same)
      | sentinel verb =>
          cases marks with
          | nil => simp [Chunk.verb?] at same
          | cons mark marks =>
              simp only [List.filterMap_cons, Chunk.verb?, List.map_cons, List.cons.injEq] at same
              rw [same.1]
              exact .sentinel mark (induction same.2)

/-- Restoring a text, where the template has a verb. -/
theorem restore?_eq_some_iff {template output restored : List Char}
    (hasVerb : verbs template ≠ []) :
    (placeholders template).restore? output = some restored ↔
      (placeholders template).isComplete = true ∧
        (chunks output).filterMap Chunk.verb? = (placeholders template).marks.map (·.verb) ∧
        Placeholders.putBack (placeholders template).marks (chunks output) = restored := by
  have notEmpty : ¬ (placeholders template).isEmpty = true := by
    rwa [placeholders_isEmpty_iff]
  rw [Placeholders.restore?, if_neg notEmpty]
  split_ifs with incomplete same
  · simpa using fun complete => absurd complete (by simpa using incomplete)
  · have complete : (placeholders template).isComplete = true := by simpa using incomplete
    simp [complete, beq_iff_eq.mp same]
  · have complete : (placeholders template).isComplete = true := by simpa using incomplete
    simp [beq_eq_false_iff_ne.mp (Bool.not_eq_true _ ▸ same)]

/-! ## Gaps -/

/-- The stretches of a text before, between and behind occurrences, for a text that begins at
a byte offset. -/
def gaps : (offset : Nat) → List Occurrence → List Char → List (List Char)
  | _, [], text => [text]
  | offset, occurrence :: rest, text =>
    let (gap, behind) := Text.Utf8.splitAt (occurrence.offset - offset) text
    let width := byteLength occurrence.verb.sentinel
    gap :: gaps (occurrence.offset + width) rest (Text.Utf8.splitAt width behind).2

/-- The same stretches, cut out of the bytes of a text. -/
def byteGaps : (offset : Nat) → List Occurrence → List UInt8 → List (List UInt8)
  | _, [], bytes => [bytes]
  | offset, occurrence :: rest, bytes =>
    let start := occurrence.offset - offset
    let width := byteLength occurrence.verb.sentinel
    bytes.take start :: byteGaps (occurrence.offset + width) rest ((bytes.drop start).drop width)

/-- Gaps with pieces between them. -/
def woven : (gaps pieces : List (List Char)) → List Char
  | gap :: gaps, piece :: pieces => gap ++ (piece ++ woven gaps pieces)
  | gaps, _ => gaps.flatten

theorem gaps_sentinel (offset : Nat) (front text : List Char) (verb : Verb)
    (rest : List Occurrence) :
    gaps offset (⟨offset + byteLength front, verb⟩ :: rest) (front ++ (verb.sentinel ++ text)) =
      front :: gaps (offset + byteLength front + byteLength verb.sentinel) rest text := by
  simp only [gaps, Nat.add_sub_cancel_left, Text.Utf8.splitAt_append]

theorem byteGaps_sentinel (offset : Nat) (front text : List Char) (verb : Verb)
    (rest : List Occurrence) :
    byteGaps offset (⟨offset + byteLength front, verb⟩ :: rest)
        ((front ++ (verb.sentinel ++ text)).flatMap String.utf8EncodeChar) =
      front.flatMap String.utf8EncodeChar ::
        byteGaps (offset + byteLength front + byteLength verb.sentinel) rest
          (text.flatMap String.utf8EncodeChar) := by
  simp only [byteGaps, Nat.add_sub_cancel_left, List.flatMap_append]
  rw [← Text.Utf8.length_flatMap_utf8EncodeChar front, List.take_left, List.drop_left,
    ← Text.Utf8.length_flatMap_utf8EncodeChar verb.sentinel, List.drop_left]

/-- A text that is read up to a character of the current gap, and with this character. -/
private theorem read_char (offset : Nat) (front rest : List Char) (char : Char) :
    offset + byteLength front + char.utf8Size = offset + byteLength (front ++ [char]) ∧
      front ++ char :: rest = (front ++ [char]) ++ rest := by
  constructor
  · rw [Text.Utf8.byteLength_append, Text.Utf8.byteLength_cons, Text.Utf8.byteLength_nil]
    omega
  · simp

private theorem byteGaps_text (scanned : List Chunk) (offset : Nat) (front : List Char) :
    byteGaps offset (occurrencesFrom (offset + byteLength front) scanned)
        ((front ++ textOf scanned).flatMap String.utf8EncodeChar) =
      (gaps offset (occurrencesFrom (offset + byteLength front) scanned)
        (front ++ textOf scanned)).map (·.flatMap String.utf8EncodeChar) := by
  -- `front` is what was read of the current gap.
  induction scanned generalizing offset front with
  | nil => rfl
  | cons chunk scanned induction =>
      cases chunk with
      | plain char =>
          rcases read_char offset front (textOf scanned) char with ⟨place, text⟩
          rw [occurrencesFrom, textOf_plain, place, text]
          exact induction offset (front ++ [char])
      | sentinel verb =>
          have behind := induction (offset + byteLength front + byteLength verb.sentinel) []
          rw [occurrencesFrom, textOf_sentinel, byteGaps_sentinel, gaps_sentinel, List.map_cons]
          exact congrArg (_ :: ·) behind

/-- Every stretch of bytes between the sentinels of a text is a text. -/
theorem byteGaps_encode (text : List Char) :
    byteGaps 0 (occurrences text) (Text.Utf8.encode (String.ofList text)) =
      (gaps 0 (occurrences text) text).map fun gap => Text.Utf8.encode (String.ofList gap) := by
  have whole := byteGaps_text (chunks text) 0 []
  simp only [Text.Utf8.byteLength_nil, Nat.add_zero, List.nil_append, textOf_chunks] at whole
  simp only [Text.Utf8.encode_ofList]
  exact whole

/-! ## Texts between gaps -/

/-- What a sentinel of a text becomes. -/
def Mark.written (mark : Mark) : List Char :=
  if mark.isFilled then [marker, mark.verb.letter] else mark.verb.sentinel

private theorem Aligned.woven_front {marks : List Mark} {scanned : List Chunk}
    (aligned : Aligned marks scanned) (offset : Nat) (front : List Char) :
    woven (gaps offset (occurrencesFrom (offset + byteLength front) scanned)
        (front ++ textOf scanned)) (marks.map Mark.written) =
      front ++ Placeholders.putBack marks scanned := by
  induction aligned generalizing offset front with
  | nil => simp [occurrencesFrom, gaps, woven, Placeholders.putBack]
  | @plain marks scanned char _ induction =>
      rcases read_char offset front (textOf scanned) char with ⟨place, text⟩
      rw [occurrencesFrom, textOf_plain, place, text, induction, Placeholders.putBack]
      simp
  | sentinel mark _ induction =>
      have behind := induction (offset + byteLength front + byteLength mark.verb.sentinel) []
      rw [occurrencesFrom, textOf_sentinel, gaps_sentinel, List.map_cons, woven,
        Placeholders.putBack, ← Mark.written]
      exact congrArg (fun rest => front ++ (mark.written ++ rest)) behind

theorem Aligned.woven_eq {marks : List Mark} {text : List Char}
    (aligned : Aligned marks (chunks text)) :
    woven (gaps 0 (occurrences text) text) (marks.map Mark.written) =
      Placeholders.putBack marks (chunks text) := by
  have whole := aligned.woven_front 0 []
  simpa [occurrences] using whole

theorem Aligned.putBack_of_unfilled {marks : List Mark} {scanned : List Chunk}
    (aligned : Aligned marks scanned) (unfilled : ∀ mark ∈ marks, mark.isFilled = false) :
    Placeholders.putBack marks scanned = textOf scanned := by
  induction aligned with
  | nil => rfl
  | plain char _ induction => exact congrArg (char :: ·) (induction unfilled)
  | sentinel mark _ induction =>
      have rest := induction fun other member => unfilled other (List.mem_cons_of_mem _ member)
      rw [Placeholders.putBack, unfilled mark (List.mem_cons_self ..), rest]
      rfl

/-- The sentinels between the gaps give the text back. -/
theorem woven_sentinels (text : List Char) :
    woven (gaps 0 (occurrences text) text) ((occurrences text).map (·.verb.sentinel)) = text := by
  have aligned : Aligned ((occurrences text).map (⟨·.verb, false⟩)) (chunks text) := by
    apply aligned_of_verbs
    rw [List.map_map]
    exact (map_verb_occurrencesFrom 0 _).symm
  have unfilled := aligned.putBack_of_unfilled (by simp)
  rw [← aligned.woven_eq, textOf_chunks, List.map_map] at unfilled
  exact unfilled

/-! ## Restored texts -/

/-- What stands in a template where a sentinel of the filled template is. -/
def stoodAt (template : List Char) (occurrence : Occurrence) : List Char :=
  if occurrence.offset ∈ filledOffsets 0 (pieces template) then
    [marker, occurrence.verb.letter]
  else occurrence.verb.sentinel

private theorem map_written_marks (template : List Char) :
    (placeholders template).marks.map Mark.written =
      (occurrences (fill template)).map (stoodAt template) := by
  simp [placeholders, Mark.written, stoodAt, Function.comp_def]

/-- A text is restored just if the scan of the filled template misses no filled sentinel and
the text has the same sentinels. Then only the filled ones change, into the verbs of the
template in order, and the bytes between them are those of texts. -/
theorem restore?_text {template : List Char} (hasVerb : verbs template ≠ [])
    (output : List Char) :
    (((placeholders template).restore? output).isSome = true ↔
      (∀ place ∈ filledOffsets 0 (pieces template),
        place ∈ (occurrences (fill template)).map (·.offset)) ∧
      (occurrences output).map (·.verb) = (occurrences (fill template)).map (·.verb)) ∧
    (∀ restored, (placeholders template).restore? output = some restored →
      output = woven (gaps 0 (occurrences output) output)
        ((occurrences output).map (·.verb.sentinel)) ∧
      restored = woven (gaps 0 (occurrences output) output)
        ((occurrences (fill template)).map (stoodAt template)) ∧
      ((occurrences (fill template)).filter
        (·.offset ∈ filledOffsets 0 (pieces template))).map (·.verb) = verbs template) ∧
    byteOccurrences (Text.Utf8.encode (String.ofList output)) = occurrences output ∧
    byteGaps 0 (occurrences output) (Text.Utf8.encode (String.ofList output)) =
      (gaps 0 (occurrences output) output).map
        fun gap => Text.Utf8.encode (String.ofList gap) := by
  have complete : (placeholders template).isComplete = true ↔
      ∀ place ∈ filledOffsets 0 (pieces template),
        place ∈ (occurrences (fill template)).map (·.offset) := by
    rw [placeholders_isComplete_iff, filledOffsets_eq, List.subset_def]
    rfl
  have same : (chunks output).filterMap Chunk.verb? =
        (placeholders template).marks.map (·.verb) ↔
      (occurrences output).map (·.verb) = (occurrences (fill template)).map (·.verb) := by
    rw [placeholders_verbs, occurrences, occurrences, map_verb_occurrencesFrom,
      map_verb_occurrencesFrom]
  refine ⟨?_, ?_, byteOccurrences_encode output, byteGaps_encode output⟩
  · rw [← complete, ← same, Option.isSome_iff_exists]
    simp [restore?_eq_some_iff hasVerb]
  · intro restored kept
    rw [restore?_eq_some_iff hasVerb] at kept
    rcases kept with ⟨isComplete, sameVerbs, rfl⟩
    refine ⟨(woven_sentinels output).symm, ?_, ?_⟩
    · rw [← map_written_marks, (aligned_of_verbs sameVerbs).woven_eq]
    · have filledVerbs := (recovers_of_isComplete isComplete).filled_verbs
        (marksLayout_contains (layout template))
      rw [filterMap_verb?_layout, layout, ← filledOffsets_eq, marksFrom] at filledVerbs
      rw [← filledVerbs, List.filter_map, List.map_map]
      simp [occurrences, Function.comp_def]

theorem restore?_text_between_accents :
    verbs "é > -999 AND ñ = %s".toList ≠ [] ∧
    (placeholders "é > -999 AND ñ = %s".toList).restore? "é>-999\nAND ñ=_DUMMY_STRING_ü".toList =
      some "é>-999\nAND ñ=%sü".toList ∧
    "é>-999\nAND ñ=%sü".toList =
      woven ["é>".toList, "\nAND ñ=".toList, "ü".toList] ["-999".toList, "%s".toList] := by
  have hasVerb : verbs "é > -999 AND ñ = %s".toList ≠ [] := by
    decide +kernel
  have kept : (placeholders "é > -999 AND ñ = %s".toList).restore?
      "é>-999\nAND ñ=_DUMMY_STRING_ü".toList = some "é>-999\nAND ñ=%sü".toList := by
    decide +kernel
  have gapsEq : gaps 0 (occurrences "é>-999\nAND ñ=_DUMMY_STRING_ü".toList)
      "é>-999\nAND ñ=_DUMMY_STRING_ü".toList =
        ["é>".toList, "\nAND ñ=".toList, "ü".toList] := by
    decide +kernel
  have stood : (occurrences (fill "é > -999 AND ñ = %s".toList)).map
      (stoodAt "é > -999 AND ñ = %s".toList) = ["-999".toList, "%s".toList] := by
    decide +kernel
  have restored := (restore?_text hasVerb _).2.1 _ kept
  rw [gapsEq, stood] at restored
  exact ⟨hasVerb, kept, restored.2.1⟩

end QueryPipe.Template
