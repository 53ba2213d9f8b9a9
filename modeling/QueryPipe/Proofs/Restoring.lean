import QueryPipe.Proofs.Sentinels
import Mathlib.Data.List.Nodup
import Mathlib.Data.List.Perm.Lattice

/-! Putting verbs back into a filled template and into other texts that kept its
sentinels. -/

namespace QueryPipe.Template

/-! ## The layout of a template -/

/-- A piece as chunks of the filled template. -/
def Piece.chunks : Piece → List Chunk
  | plain char => [.plain char]
  | .verb found => [.sentinel found]
  | other char => [.plain marker, .plain char]
  | lone => [.plain marker]

/-- The characters of a chunk in the template. -/
def Chunk.source : Chunk → List Char
  | plain char => [char]
  | sentinel verb => [marker, verb.letter]

/-- What a template is made of: characters, and sentinels where verbs are. -/
def layout (template : List Char) : List Chunk :=
  (pieces template).flatMap Piece.chunks

/-- The template of a layout. -/
def sourceOf (chunks : List Chunk) : List Char := chunks.flatMap Chunk.source

@[simp] theorem sourceOf_map_plain_append (front : List Char) (chunks : List Chunk) :
    sourceOf (front.map .plain ++ chunks) = front ++ sourceOf chunks := by
  simp [sourceOf, List.flatMap_map, Chunk.source]

private theorem Verb.letter_of_ofLetter? {char : Char} {verb : Verb}
    (found : Verb.ofLetter? char = some verb) : verb.letter = char := by
  simpa using List.find?_some found

private theorem Piece.source_ofPair (char : Char) : (Piece.ofPair char).source = [marker, char] := by
  unfold Piece.ofPair
  cases found : Verb.ofLetter? char with
  | none => rfl
  | some verb => simp [Piece.source, Verb.letter_of_ofLetter? found]

private theorem flatMap_source_pieces (template : List Char) :
    (pieces template).flatMap Piece.source = template := by
  induction template using pieces.induct with
  | case1 => rfl
  | case2 char =>
      by_cases isMarker : char = marker <;> simp [pieces, isMarker, Piece.source]
  | case3 first second rest isMarker induction =>
      have firstEq : first = marker := by simpa using isMarker
      simp [pieces, firstEq, Piece.source_ofPair, induction]
  | case4 first second rest isMarker induction =>
      simp [pieces, isMarker, Piece.source, induction]

/-- Reading a template and writing its layout gives the template. -/
@[simp] theorem sourceOf_layout (template : List Char) : sourceOf (layout template) = template := by
  have piecewise : ∀ piece : Piece, piece.chunks.flatMap Chunk.source = piece.source := by
    intro piece
    cases piece <;> rfl
  rw [sourceOf, layout, List.flatMap_assoc]
  simp only [piecewise, flatMap_source_pieces]

theorem textOf_layout (template : List Char) : textOf (layout template) = fill template := by
  have piecewise : ∀ piece : Piece, piece.chunks.flatMap Chunk.text = piece.filled := by
    intro piece
    cases piece <;> simp [Piece.chunks, Chunk.text, Piece.filled, Piece.source]
  rw [textOf, layout, List.flatMap_assoc, fill]
  simp only [piecewise]

theorem filledOffsets_eq (offset : Nat) (read : List Piece) :
    filledOffsets offset read = offsetsFrom offset (read.flatMap Piece.chunks) := by
  induction read generalizing offset with
  | nil => rfl
  | cons piece read induction =>
      cases piece <;>
        simp [filledOffsets, Piece.chunks, Piece.filled, Piece.source, induction, Nat.add_assoc]

theorem filterMap_verb?_layout (template : List Char) :
    (layout template).filterMap Chunk.verb? = verbs template := by
  have piecewise : ∀ piece : Piece, piece.chunks.filterMap Chunk.verb? = piece.verb?.toList := by
    intro piece
    cases piece <;> rfl
  rw [layout, List.filterMap_flatMap, verbs]
  simp only [piecewise]
  induction pieces template with
  | nil => rfl
  | cons piece read induction =>
      cases found : piece.verb? <;> simp [found, induction]

/-! ## Scans that find every filled sentinel -/

/-- The scanned chunks hold each sentinel of the layout; they may hold more, which
the layout spells with plain characters. -/
inductive Recovers : (scanned laid : List Chunk) → Prop
  | nil : Recovers [] []
  | plain (char : Char) : Recovers scanned laid →
      Recovers (.plain char :: scanned) (.plain char :: laid)
  | filled (verb : Verb) : Recovers scanned laid →
      Recovers (.sentinel verb :: scanned) (.sentinel verb :: laid)
  | spelled (verb : Verb) : Recovers scanned laid →
      Recovers (.sentinel verb :: scanned) (verb.sentinel.map .plain ++ laid)

/-- Two ways to cut one text, where the first has a sentinel wherever the second
has one. -/
theorem Recovers.of_subset {scanned laid : List Chunk} {offset : Nat}
    (sameText : textOf scanned = textOf laid)
    (found : offsetsFrom offset laid ⊆ offsetsFrom offset scanned) :
    Recovers scanned laid := by
  induction scanned generalizing laid offset with
  | nil =>
      cases laid with
      | nil => exact .nil
      | cons chunk laid =>
          cases chunk with
          | plain char => simp at sameText
          | sentinel verb => simp [verb.sentinel_ne_nil] at sameText
  | cons chunk scanned induction =>
      cases chunk with
      | plain char =>
          cases laid with
          | nil => simp at sameText
          | cons other laid =>
              cases other with
              | plain other =>
                  rw [textOf_plain, textOf_plain, List.cons.injEq] at sameText
                  rcases sameText with ⟨rfl, sameText⟩
                  exact .plain _ (induction sameText found)
              | sentinel verb =>
                  -- The layout has a sentinel here, and the scan none.
                  have here : offset ∈ offsetsFrom (offset + char.utf8Size) scanned :=
                    found (by simp)
                  have later := le_of_mem_offsetsFrom here
                  have positive := char.utf8Size_pos
                  omega
      | sentinel verb =>
          rw [textOf_sentinel] at sameText
          rcases exists_of_textOf_eq_append sameText.symm with ⟨after, rfl, afterText⟩ |
            ⟨before, inside, other, after, cut, insideNe, rfl, inner⟩
          · refine .spelled verb (@induction after (offset + Text.Utf8.byteLength verb.sentinel)
              afterText.symm ?_)
            intro place member
            rw [offsetsFrom_map_plain_append] at found
            have scannedMember := found member
            rw [offsetsFrom_sentinel] at scannedMember
            rcases List.mem_cons.mp scannedMember with rfl | scannedMember
            · have later := le_of_mem_offsetsFrom member
              have positive := Text.Utf8.byteLength_pos verb.sentinel_ne_nil
              omega
            · exact scannedMember
          · rw [offsetsFrom_map_plain_append] at found
            have here : offset + Text.Utf8.byteLength before ∈
                offsetsFrom offset (.sentinel verb :: scanned) := found (List.mem_cons_self ..)
            by_cases atFront : before = []
            · subst atFront
              rw [List.nil_append] at cut
              rw [← cut] at inner
              rcases verb_eq_of_sentinel_append inner with rfl
              refine .filled verb (@induction after
                (offset + Text.Utf8.byteLength verb.sentinel) ?_ ?_)
              · exact List.append_cancel_left inner
              · intro place member
                have scannedMember := found (List.mem_cons_of_mem _ member)
                rcases List.mem_cons.mp scannedMember with rfl | scannedMember
                · have later := le_of_mem_offsetsFrom member
                  have positive := Text.Utf8.byteLength_pos verb.sentinel_ne_nil
                  omega
                · exact scannedMember
            · -- A sentinel of the layout inside the scanned one was not found.
              have beforePositive := Text.Utf8.byteLength_pos atFront
              have insidePositive := Text.Utf8.byteLength_pos insideNe
              have width : Text.Utf8.byteLength verb.sentinel =
                  Text.Utf8.byteLength before + Text.Utf8.byteLength inside := by
                rw [cut, Text.Utf8.byteLength_append]
              rw [offsetsFrom_sentinel] at here
              rcases List.mem_cons.mp here with atStart | later
              · omega
              · have bound := le_of_mem_offsetsFrom later
                omega

/-- The marks of scanned chunks that begin at an offset, where `isFilled` tells at
which offsets verbs were. -/
def marksFrom (isFilled : Nat → Bool) (offset : Nat) (scanned : List Chunk) : List Mark :=
  (occurrencesFrom offset scanned).map fun occurrence =>
    ⟨occurrence.verb, isFilled occurrence.offset⟩

/-- A test for the places of the sentinels of a layout. -/
def MarksLayout (isFilled : Nat → Bool) (offset : Nat) (laid : List Chunk) : Prop :=
  ∀ place, offset ≤ place → (isFilled place = true ↔ place ∈ offsetsFrom offset laid)

theorem MarksLayout.plain {isFilled : Nat → Bool} {offset : Nat} {char : Char}
    {laid : List Chunk} (marked : MarksLayout isFilled offset (.plain char :: laid)) :
    MarksLayout isFilled (offset + char.utf8Size) laid :=
  fun place later => marked place (by omega)

theorem MarksLayout.filled {isFilled : Nat → Bool} {offset : Nat} {verb : Verb}
    {laid : List Chunk} (marked : MarksLayout isFilled offset (.sentinel verb :: laid)) :
    isFilled offset = true ∧
      MarksLayout isFilled (offset + Text.Utf8.byteLength verb.sentinel) laid := by
  refine ⟨(marked offset (Nat.le_refl _)).mpr (by simp), fun place later => ?_⟩
  have positive := Text.Utf8.byteLength_pos verb.sentinel_ne_nil
  rw [marked place (by omega), offsetsFrom_sentinel, List.mem_cons]
  exact ⟨fun member => member.resolve_left (by omega), .inr⟩

theorem MarksLayout.spelled {isFilled : Nat → Bool} {offset : Nat} {verb : Verb}
    {laid : List Chunk}
    (marked : MarksLayout isFilled offset (verb.sentinel.map .plain ++ laid)) :
    isFilled offset = false ∧
      MarksLayout isFilled (offset + Text.Utf8.byteLength verb.sentinel) laid := by
  have positive := Text.Utf8.byteLength_pos verb.sentinel_ne_nil
  constructor
  · rw [← Bool.not_eq_true, marked offset (Nat.le_refl _), offsetsFrom_map_plain_append]
    intro member
    have later := le_of_mem_offsetsFrom member
    omega
  · intro place later
    rw [marked place (by omega), offsetsFrom_map_plain_append]

/-- Putting verbs back at the filled sentinels gives the template of the layout. -/
theorem Recovers.putBack {scanned laid : List Chunk} (recovers : Recovers scanned laid)
    {isFilled : Nat → Bool} {offset : Nat} (marked : MarksLayout isFilled offset laid) :
    Placeholders.putBack (marksFrom isFilled offset scanned) scanned = sourceOf laid := by
  induction recovers generalizing offset with
  | nil => rfl
  | plain char _ induction =>
      simp only [marksFrom, occurrencesFrom, Placeholders.putBack] at induction ⊢
      rw [induction marked.plain]
      rfl
  | filled verb _ induction =>
      rcases marked.filled with ⟨here, after⟩
      simp only [marksFrom, occurrencesFrom, List.map_cons, Placeholders.putBack] at induction ⊢
      rw [induction after, here]
      rfl
  | spelled verb _ induction =>
      rcases marked.spelled with ⟨here, after⟩
      simp only [marksFrom, occurrencesFrom, List.map_cons, Placeholders.putBack] at induction ⊢
      rw [induction after, here, sourceOf_map_plain_append]
      rfl

/-- The filled marks carry the verbs of the layout, in order. -/
theorem Recovers.filled_verbs {scanned laid : List Chunk} (recovers : Recovers scanned laid)
    {isFilled : Nat → Bool} {offset : Nat} (marked : MarksLayout isFilled offset laid) :
    ((marksFrom isFilled offset scanned).filter (·.isFilled)).map (·.verb) =
      laid.filterMap Chunk.verb? := by
  induction recovers generalizing offset with
  | nil => rfl
  | plain char _ induction => exact induction marked.plain
  | filled verb _ induction =>
      rcases marked.filled with ⟨here, after⟩
      simp only [marksFrom, occurrencesFrom, List.map_cons] at induction ⊢
      simp [here, induction after, Chunk.verb?]
  | spelled verb _ induction =>
      rcases marked.spelled with ⟨here, after⟩
      have noVerb : (verb.sentinel.map Chunk.plain).filterMap Chunk.verb? = [] := by
        simp [Chunk.verb?]
      simp only [marksFrom, occurrencesFrom, List.map_cons] at induction ⊢
      simp [here, induction after, noVerb]

/-! ## The record of a template -/

theorem placeholders_marks (template : List Char) :
    (placeholders template).marks =
      marksFrom (offsetsFrom 0 (layout template)).contains 0 (chunks (fill template)) := by
  rw [layout, ← filledOffsets_eq]
  rfl

theorem placeholders_filled (template : List Char) :
    (placeholders template).filled = (offsetsFrom 0 (layout template)).length := by
  rw [layout, ← filledOffsets_eq]
  rfl

theorem marksLayout_contains (laid : List Chunk) :
    MarksLayout (offsetsFrom 0 laid).contains 0 laid := by
  intro place _
  simp

private theorem countP_isFilled_marksFrom (isFilled : Nat → Bool) (offset : Nat)
    (scanned : List Chunk) :
    (marksFrom isFilled offset scanned).countP (·.isFilled) =
      ((offsetsFrom offset scanned).filter isFilled).length := by
  rw [marksFrom, offsetsFrom, List.countP_map, List.filter_map, List.length_map,
    List.countP_eq_length_filter]
  rfl

/-- As many filled sentinels are found as there are, just if each is found. -/
theorem length_filter_contains_eq_iff {filled found : List Nat} (filledNodup : filled.Nodup)
    (foundNodup : found.Nodup) :
    (found.filter filled.contains).length = filled.length ↔ filled ⊆ found := by
  have shared : (found.filter filled.contains).Perm (filled.filter found.contains) := by
    rw [List.perm_ext_iff_of_nodup (foundNodup.filter _) (filledNodup.filter _)]
    intro place
    simp [and_comm]
  rw [shared.length_eq, List.length_filter_eq_length_iff]
  simp [List.subset_def]

theorem placeholders_isComplete_iff (template : List Char) :
    (placeholders template).isComplete = true ↔
      offsetsFrom 0 (layout template) ⊆ offsetsFrom 0 (chunks (fill template)) := by
  rw [Placeholders.isComplete, beq_iff_eq, placeholders_marks, placeholders_filled,
    countP_isFilled_marksFrom]
  exact length_filter_contains_eq_iff (offsetsFrom_nodup _ _) (offsetsFrom_nodup _ _)

/-- In a complete record the scan finds every verb that was filled. -/
theorem recovers_of_isComplete {template : List Char}
    (complete : (placeholders template).isComplete = true) :
    Recovers (chunks (fill template)) (layout template) :=
  .of_subset (by rw [textOf_chunks, textOf_layout])
    ((placeholders_isComplete_iff template).mp complete)

theorem map_verb_occurrencesFrom (offset : Nat) (scanned : List Chunk) :
    (occurrencesFrom offset scanned).map (·.verb) = scanned.filterMap Chunk.verb? := by
  induction scanned generalizing offset with
  | nil => rfl
  | cons chunk scanned induction =>
      cases chunk with
      | plain char => exact induction _
      | sentinel verb =>
          simp only [occurrencesFrom, List.map_cons, induction]
          rfl

theorem placeholders_verbs (template : List Char) :
    (placeholders template).marks.map (·.verb) =
      (chunks (fill template)).filterMap Chunk.verb? := by
  rw [placeholders_marks, marksFrom, List.map_map]
  exact map_verb_occurrencesFrom 0 _

private theorem textOf_eq_sourceOf {offset : Nat} {laid : List Chunk}
    (noSentinel : offsetsFrom offset laid = []) : textOf laid = sourceOf laid := by
  induction laid generalizing offset with
  | nil => rfl
  | cons chunk laid induction =>
      cases chunk with
      | plain char => exact congrArg (char :: ·) (induction noSentinel)
      | sentinel verb => simp at noSentinel

/-- A template without verbs is filled with itself. -/
theorem fill_of_isEmpty {template : List Char} (empty : (placeholders template).isEmpty = true) :
    fill template = template := by
  rw [Placeholders.isEmpty, beq_iff_eq, placeholders_filled, List.length_eq_zero_iff] at empty
  rw [← textOf_layout, textOf_eq_sourceOf empty, sourceOf_layout]

private theorem putBack_fill {template : List Char}
    (complete : (placeholders template).isComplete = true) :
    Placeholders.putBack (placeholders template).marks (chunks (fill template)) = template := by
  rw [placeholders_marks, (recovers_of_isComplete complete).putBack (marksLayout_contains _),
    sourceOf_layout]

/-- A filled template is restored just if the scan finds all its filled sentinels. -/
theorem restore?_fill_eq (template : List Char) :
    (placeholders template).restore? (fill template) =
      if (placeholders template).isComplete then some template else none := by
  by_cases empty : (placeholders template).isEmpty = true
  · have complete : (placeholders template).isComplete = true := by
      rw [placeholders_isComplete_iff]
      rw [Placeholders.isEmpty, beq_iff_eq, placeholders_filled, List.length_eq_zero_iff] at empty
      simp [empty]
    rw [Placeholders.restore?, if_pos empty, if_pos complete, fill_of_isEmpty empty]
  · rw [Placeholders.restore?, if_neg empty]
    by_cases complete : (placeholders template).isComplete = true
    · simp [complete, placeholders_verbs, putBack_fill complete]
    · simp [complete]

/-! ## Templates that cannot hide a filled sentinel -/

/-- Where a sentinel is swallowed, the template spells all but the last character
of a sentinel before it. -/
theorem recovers_chunks {laid : List Chunk}
    (noString : ¬ Verb.string.sentinel.dropLast <:+: sourceOf laid)
    (noValue : ¬ Verb.value.sentinel.dropLast <:+: sourceOf laid) :
    Recovers (chunks (textOf laid)) laid := by
  induction counted : laid.length using Nat.strong_induction_on generalizing laid with
  | _ count induction =>
      have step : ∀ (front : List Char) {rest : List Chunk}, rest.length < count →
          sourceOf laid = front ++ sourceOf rest → Recovers (chunks (textOf rest)) rest := by
        intro front rest shorter cut
        refine induction rest.length shorter ?_ ?_ rfl
        · exact fun inside => noString (inside.trans ⟨front, [], by simp [cut]⟩)
        · exact fun inside => noValue (inside.trans ⟨front, [], by simp [cut]⟩)
      cases laid with
      | nil => exact .nil
      | cons chunk rest =>
          have shorter : rest.length < count := by simp [← counted]
          cases chunk with
          | sentinel verb =>
              rw [textOf_sentinel, chunks_sentinel_append]
              exact .filled verb (step [marker, verb.letter] shorter (by rfl))
          | plain char =>
              rw [textOf_plain]
              cases found : sentinelAt? (char :: textOf rest) with
              | none =>
                  rw [chunks_cons_of_none found]
                  exact .plain char (step [char] shorter rfl)
              | some verb =>
                  rcases exists_append_of_sentinelAt? found with ⟨more, equal⟩
                  rw [equal, chunks_sentinel_append]
                  have laidText : textOf (.plain char :: rest) = verb.sentinel ++ more := equal
                  rcases exists_of_textOf_eq_append laidText with
                    ⟨after, cut, rfl⟩ | ⟨before, inside, inner, after, cut, insideNe, laidEq, same⟩
                  · rw [cut]
                    refine .spelled verb (step verb.sentinel ?_ ?_)
                    · have positive := List.length_pos_of_ne_nil verb.sentinel_ne_nil
                      have lengths := congrArg List.length cut
                      rw [List.length_append, List.length_map] at lengths
                      omega
                    · rw [cut, sourceOf_map_plain_append]
                  · have beforeNe : before ≠ [] := by
                      rintro rfl
                      simp at laidEq
                    rcases sentinel_overlap cut beforeNe insideNe same with ⟨rfl, noNumber⟩
                    have spelled : verb.sentinel.dropLast <:+: sourceOf (.plain char :: rest) := by
                      refine ⟨[], sourceOf (.sentinel inner :: after), ?_⟩
                      rw [laidEq, sourceOf_map_plain_append, List.nil_append]
                    cases verb with
                    | decimal => exact absurd rfl noNumber
                    | value => exact absurd spelled noValue
                    | string => exact absurd spelled noString

theorem Recovers.offsets_subset {scanned laid : List Chunk} (recovers : Recovers scanned laid)
    (offset : Nat) : offsetsFrom offset laid ⊆ offsetsFrom offset scanned := by
  induction recovers generalizing offset with
  | nil => simp
  | plain char _ induction => exact induction _
  | filled verb _ induction => exact List.cons_subset_cons _ (induction _)
  | spelled verb _ induction =>
      rw [offsetsFrom_map_plain_append, offsetsFrom_sentinel]
      exact List.subset_cons_of_subset _ (induction _)

/-- Filling and restoring gives the template back or nothing, and nothing just
where the scan of the filled text misses a filled sentinel. It misses none in a
template that spells neither `_DUMMY_STRING` nor `_DUMMY_VALUE`. -/
theorem restore?_fill (template : List Char) :
    ((placeholders template).restore? (fill template) = some template ∨
      (placeholders template).restore? (fill template) = none) ∧
    ((placeholders template).restore? (fill template) = none ↔
      verbs template ≠ [] ∧ ∃ place ∈ filledOffsets 0 (pieces template),
        place ∉ (occurrences (fill template)).map (·.offset)) ∧
    (¬ "_DUMMY_STRING".toList <:+: template → ¬ "_DUMMY_VALUE".toList <:+: template →
      (placeholders template).restore? (fill template) = some template) := by
  rw [restore?_fill_eq]
  refine ⟨?_, ?_, ?_⟩
  · by_cases complete : (placeholders template).isComplete = true <;> simp [complete]
  · have missed : ¬ (placeholders template).isComplete = true ↔
        ∃ place ∈ filledOffsets 0 (pieces template),
          place ∉ (occurrences (fill template)).map (·.offset) := by
      rw [placeholders_isComplete_iff, List.subset_def, filledOffsets_eq]
      simp only [not_forall, exists_prop]
      rfl
    have hasVerb : (∃ place ∈ filledOffsets 0 (pieces template),
        place ∉ (occurrences (fill template)).map (·.offset)) → verbs template ≠ [] := by
      rintro ⟨place, filled, -⟩ noVerb
      rw [← filterMap_verb?_layout, ← map_verb_occurrencesFrom 0, List.map_eq_nil_iff] at noVerb
      rw [filledOffsets_eq, offsetsFrom, ← layout, noVerb] at filled
      simp at filled
    rw [← missed] at hasVerb ⊢
    by_cases complete : (placeholders template).isComplete = true
    · simp [complete]
    · simp [complete, hasVerb complete]
  · intro noString noValue
    have recovers : Recovers (chunks (fill template)) (layout template) := by
      rw [← textOf_layout]
      refine recovers_chunks ?_ ?_
      · rw [sourceOf_layout]
        exact noString
      · rw [sourceOf_layout]
        exact noValue
    have complete := (placeholders_isComplete_iff template).mpr (recovers.offsets_subset 0)
    rw [if_pos complete]

end QueryPipe.Template
