import QueryPipe.Proofs.RestoredTexts

/-! Filling a restored text. A text without markers gets markers only where verbs are put
back, so reading the restored text finds these verbs and nothing else, and filling it gives
the text that was restored, with the record that restored it. -/

namespace QueryPipe.Template

/-! ## The layout that marks make of a text -/

/-- Scanned chunks as a layout: sentinels with a filled mark stay, and the others are spelled
with plain characters. -/
def layOut : List Mark → List Chunk → List Chunk
  | _, [] => []
  | marks, .plain char :: rest => .plain char :: layOut marks rest
  | [], .sentinel verb :: rest => verb.sentinel.map .plain ++ layOut [] rest
  | mark :: marks, .sentinel verb :: rest =>
    (if mark.isFilled then [.sentinel verb] else verb.sentinel.map .plain) ++ layOut marks rest

section Aligned

variable {marks : List Mark} {scanned : List Chunk}

theorem Aligned.sourceOf_layOut (aligned : Aligned marks scanned) :
    sourceOf (layOut marks scanned) = Placeholders.putBack marks scanned := by
  induction aligned with
  | nil => rfl
  | plain char _ induction => exact congrArg (char :: ·) induction
  | sentinel mark _ induction =>
      rw [layOut, Placeholders.putBack, ← induction]
      cases mark.isFilled with
      | false => exact sourceOf_map_plain_append _ _
      | true => rfl

theorem Aligned.recovers (aligned : Aligned marks scanned) :
    Recovers scanned (layOut marks scanned) := by
  induction aligned with
  | nil => exact .nil
  | plain char _ induction => exact .plain char induction
  | sentinel mark _ induction =>
      rw [layOut]
      cases mark.isFilled with
      | false => exact .spelled mark.verb induction
      | true => exact .filled mark.verb induction

/-- The sentinels of the layout are where the filled marks are. -/
theorem Aligned.marksFrom_eq (aligned : Aligned marks scanned) {isFilled : Nat → Bool}
    {offset : Nat} (marked : MarksLayout isFilled offset (layOut marks scanned)) :
    marksFrom isFilled offset scanned = marks := by
  induction aligned generalizing offset with
  | nil => rfl
  | plain char _ induction => exact induction marked.plain
  | sentinel mark _ induction =>
      rcases mark with ⟨verb, wasFilled⟩
      rw [layOut] at marked
      simp only [marksFrom, occurrencesFrom, List.map_cons] at induction ⊢
      cases wasFilled with
      | false =>
          rcases marked.spelled with ⟨here, after⟩
          rw [here, induction after]
      | true =>
          rcases marked.filled with ⟨here, after⟩
          rw [here, induction after]

theorem Aligned.length_offsetsFrom (aligned : Aligned marks scanned) (offset : Nat) :
    (offsetsFrom offset (layOut marks scanned)).length = marks.countP (·.isFilled) := by
  induction aligned generalizing offset with
  | nil => rfl
  | plain char _ induction => exact induction _
  | sentinel mark _ induction =>
      rw [layOut, List.countP_cons]
      cases mark.isFilled with
      | false => simp [offsetsFrom_map_plain_append, induction]
      | true => simp [induction]

end Aligned

theorem Recovers.textOf_eq {scanned laid : List Chunk} (recovers : Recovers scanned laid) :
    textOf laid = textOf scanned := by
  induction recovers with
  | nil => rfl
  | plain char _ induction => exact congrArg (char :: ·) induction
  | filled verb _ induction => exact congrArg (verb.sentinel ++ ·) induction
  | spelled verb _ induction =>
      rw [textOf_append, textOf_map_plain, textOf_sentinel, induction]

/-- Reading what a layout without plain markers writes gives the layout. -/
theorem layout_sourceOf {laid : List Chunk} (noMarker : marker ∉ textOf laid) :
    layout (sourceOf laid) = laid := by
  induction laid with
  | nil => rfl
  | cons chunk laid induction =>
      cases chunk with
      | plain char =>
          rw [textOf_plain, List.mem_cons, not_or] at noMarker
          exact (layout_cons (Ne.symm noMarker.1) _).trans
            (congrArg (.plain char :: ·) (induction noMarker.2))
      | sentinel verb =>
          rw [textOf_sentinel, List.mem_append, not_or] at noMarker
          have letter : Piece.ofPair verb.letter = .verb verb := by
            cases verb <;> rfl
          have read : layout (marker :: verb.letter :: sourceOf laid) =
              .sentinel verb :: layout (sourceOf laid) := by
            simp [layout, pieces, letter, Piece.chunks]
          exact read.trans (congrArg (.sentinel verb :: ·) (induction noMarker.2))

/-! ## The restored text -/

/-- Filling a restored text gives the text that was restored and the record that restored
it, where that text has no marker of its own. -/
theorem placeholders_restored {template output restored : List Char}
    (hasVerb : verbs template ≠ []) (noMarker : marker ∉ output)
    (kept : (placeholders template).restore? output = some restored) :
    fill restored = output ∧ placeholders restored = placeholders template := by
  rw [restore?_eq_some_iff hasVerb] at kept
  rcases kept with ⟨complete, same, rfl⟩
  have aligned := aligned_of_verbs same
  have sameText := aligned.recovers.textOf_eq
  rw [textOf_chunks] at sameText
  have read : layout (Placeholders.putBack (placeholders template).marks (chunks output)) =
      layOut (placeholders template).marks (chunks output) := by
    rw [← aligned.sourceOf_layOut, layout_sourceOf]
    rwa [sameText]
  have filled : fill (Placeholders.putBack (placeholders template).marks (chunks output)) =
      output := by
    rw [← textOf_layout, read, sameText]
  refine ⟨filled, ?_⟩
  have sameMarks := placeholders_marks
    (Placeholders.putBack (placeholders template).marks (chunks output))
  have sameFilled := placeholders_filled
    (Placeholders.putBack (placeholders template).marks (chunks output))
  rw [read, filled, aligned.marksFrom_eq (marksLayout_contains _)] at sameMarks
  rw [read, aligned.length_offsetsFrom, beq_iff_eq.mp complete] at sameFilled
  exact (Placeholders.mk.injEq ..).mpr ⟨sameMarks, sameFilled⟩

theorem placeholders_restored_beside_literal :
    verbs "a > -999 AND b = %s%d".toList ≠ [] ∧
    marker ∉ "-999<a\nb=_DUMMY_STRING_-999".toList ∧
    (placeholders "a > -999 AND b = %s%d".toList).restore? "-999<a\nb=_DUMMY_STRING_-999".toList =
      some "-999<a\nb=%s%d".toList ∧
    fill "-999<a\nb=%s%d".toList = "-999<a\nb=_DUMMY_STRING_-999".toList ∧
    placeholders "-999<a\nb=%s%d".toList = placeholders "a > -999 AND b = %s%d".toList := by
  have hasVerb : verbs "a > -999 AND b = %s%d".toList ≠ [] := by
    decide +kernel
  have noMarker : marker ∉ "-999<a\nb=_DUMMY_STRING_-999".toList := by
    decide +kernel
  have kept : (placeholders "a > -999 AND b = %s%d".toList).restore?
      "-999<a\nb=_DUMMY_STRING_-999".toList = some "-999<a\nb=%s%d".toList := by
    decide +kernel
  exact ⟨hasVerb, noMarker, kept, placeholders_restored hasVerb noMarker kept⟩

end QueryPipe.Template
