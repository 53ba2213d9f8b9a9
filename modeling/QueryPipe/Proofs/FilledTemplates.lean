import QueryPipe.Proofs.Framing

/-! Filled templates, read again. A marker and the character that it takes along are either
both kept or both replaced, so that a sentinel never comes between them, and what a filled
template is read as is known from the pieces of the template. -/

namespace QueryPipe.Template

open Text.Utf8 (byteLength)

/-! ## The pieces of a filled template -/

/-- What a piece of a template is read as when the template is filled: a verb as the
characters of its sentinel. -/
def Piece.refilled : Piece → List Piece
  | .verb found => found.sentinel.map .plain
  | piece => [piece]

theorem not_marker_mem_sentinel (verb : Verb) : marker ∉ verb.sentinel :=
  not_mem_sentinel (by decide) verb

theorem pieces_append_of_noMarker {front : List Char} (noMarker : marker ∉ front)
    (rest : List Char) : pieces (front ++ rest) = front.map .plain ++ pieces rest := by
  induction front with
  | nil => rfl
  | cons char front induction =>
      rw [List.mem_cons, not_or] at noMarker
      rw [List.cons_append, pieces_cons (Ne.symm noMarker.1), induction noMarker.2, List.map_cons,
        List.cons_append]

theorem pieces_fill (template : List Char) :
    pieces (fill template) = (pieces template).flatMap Piece.refilled := by
  induction template using pieces.induct with
  | case1 => rfl
  | case2 char =>
      by_cases isMarker : char = marker <;>
        simp [fill, pieces, isMarker, Piece.filled, Piece.source, Piece.refilled]
  | case3 first second rest isMarker induction =>
      rcases beq_iff_eq.mp isMarker with rfl
      rw [fill_marker_cons, pieces_marker_cons, List.flatMap_cons, ← induction]
      cases letter : Verb.ofLetter? second with
      | none =>
          have kept : Piece.ofPair second = .other second := by rw [Piece.ofPair, letter]
          have paired := pieces_marker_cons second (fill rest)
          rw [kept] at paired ⊢
          exact paired
      | some verb =>
          have replaced : Piece.ofPair second = .verb verb := by rw [Piece.ofPair, letter]
          rw [replaced]
          exact pieces_append_of_noMarker (not_marker_mem_sentinel verb) _
  | case4 first second rest isMarker induction =>
      have noMarker : first ≠ marker := by simpa using isMarker
      rw [fill_cons noMarker, pieces_cons noMarker, pieces_cons noMarker, induction]
      rfl

/-! ## Markers that begin no verb -/

/-- Whether a piece is a marker with a character that is no verb's letter, or without one. -/
def Piece.isOther : Piece → Bool
  | other _ | lone => true
  | _ => false

/-- The markers of a text that begin no verb, in order. -/
def otherMarkers (text : List Char) : List Piece := (pieces text).filter Piece.isOther

theorem otherMarkers_fill (template : List Char) :
    otherMarkers (fill template) = otherMarkers template := by
  have piecewise (piece : Piece) :
      piece.refilled.filter Piece.isOther = [piece].filter Piece.isOther := by
    cases piece with
    | verb found => cases found <;> rfl
    | _ => rfl
  rw [otherMarkers, otherMarkers, pieces_fill]
  induction pieces template with
  | nil => rfl
  | cons piece read induction =>
      rw [List.flatMap_cons, List.filter_append, induction, piecewise, ← List.filter_append,
        List.singleton_append]

/-! ## Filling in parts -/

/-- Behind a text that waits for no character, reading starts anew. -/
theorem pieces_append {text : List Char} (closed : endsOpen text = false) (rest : List Char) :
    pieces (text ++ rest) = pieces text ++ pieces rest := by
  induction text using pieces.induct with
  | case1 => rfl
  | case2 char =>
      have noMarker : char ≠ marker := by
        rintro rfl
        cases closed
      rw [List.singleton_append, pieces_cons noMarker, pieces_cons noMarker]
      rfl
  | case3 first second text isMarker induction =>
      rcases beq_iff_eq.mp isMarker with rfl
      rw [endsOpen_marker_cons] at closed
      rw [List.cons_append, List.cons_append, pieces_marker_cons, pieces_marker_cons,
        induction closed, List.cons_append]
  | case4 first second text isMarker induction =>
      have noMarker : first ≠ marker := by simpa using isMarker
      rw [endsOpen_cons noMarker] at closed
      rw [List.cons_append, pieces_cons noMarker, pieces_cons noMarker, induction closed,
        List.cons_append]

theorem fill_append_of_closed {text : List Char} (closed : endsOpen text = false)
    (rest : List Char) : fill (text ++ rest) = fill text ++ fill rest := by
  rw [fill, pieces_append closed, List.flatMap_append, fill, fill]

/-! ## The length of a filled template -/

/-- Every sentinel is longer than the verb that it takes the place of. -/
theorem byteLength_sourceOf (laid : List Chunk) :
    byteLength (sourceOf laid) + (laid.filterMap Chunk.verb?).length ≤ byteLength (textOf laid) := by
  induction laid with
  | nil => exact Nat.le_refl _
  | cons chunk laid induction =>
      rw [sourceOf, List.flatMap_cons, Text.Utf8.byteLength_append, ← sourceOf]
      cases chunk with
      | plain char =>
          rw [textOf_plain, Text.Utf8.byteLength_cons]
          simp only [Chunk.source, List.filterMap_cons, Chunk.verb?, Text.Utf8.byteLength_cons,
            Text.Utf8.byteLength_nil]
          omega
      | sentinel verb =>
          have longer : byteLength [marker, verb.letter] < byteLength verb.sentinel := by
            cases verb <;> decide
          rw [textOf_sentinel, Text.Utf8.byteLength_append]
          simp only [Chunk.source, List.filterMap_cons, Chunk.verb?, List.length_cons]
          omega

theorem byteLength_fill (template : List Char) :
    byteLength template + (verbs template).length ≤ byteLength (fill template) := by
  have longer := byteLength_sourceOf (layout template)
  rwa [sourceOf_layout, filterMap_verb?_layout, textOf_layout] at longer

/-- A filled template stays as it is when it is filled again: it holds no verb, and of the
template's markers those that begin no verb. It is the template itself just if no verb was
filled, and longer otherwise. A text that does not wait for a character may be filled apart
from what follows it. -/
theorem fill_settles (template : List Char) :
    fill (fill template) = fill template ∧
    verbs (fill template) = [] ∧ otherMarkers (fill template) = otherMarkers template ∧
    ((placeholders template).isEmpty = true ↔ fill template = template) ∧
    ((placeholders template).isEmpty = false →
      byteLength template < byteLength (fill template)) ∧
    ∀ rest, endsOpen template = false → fill (template ++ rest) = fill template ++ fill rest := by
  have noVerb := verbs_fill template
  refine ⟨fill_of_noVerb noVerb, noVerb, otherMarkers_fill template, ⟨fill_of_isEmpty, ?_⟩, ?_, ?_⟩
  · intro same
    rw [same] at noVerb
    exact (placeholders_isEmpty_iff template).mpr noVerb
  · intro nonempty
    have hasVerb : verbs template ≠ [] := by
      rw [Ne, ← placeholders_isEmpty_iff, nonempty]
      exact Bool.false_ne_true
    have counted := List.length_pos_iff.mpr hasVerb
    have longer := byteLength_fill template
    omega
  · intro rest closed
    exact fill_append_of_closed closed rest

/-- A verb behind a pair of markers, and a pair that is no verb. -/
theorem fill_settles_paired_markers :
    (placeholders "%%%d%q".toList).isEmpty = false ∧ endsOpen "%%%d%q".toList = false ∧
    byteLength "%%%d%q".toList < byteLength "%%-999%q".toList ∧
    fill ("%%%d%q".toList ++ "s%".toList) = "%%-999%q".toList ++ fill "s%".toList := by
  have nonempty : (placeholders "%%%d%q".toList).isEmpty = false := by
    decide +kernel
  have closed : endsOpen "%%%d%q".toList = false := by
    decide +kernel
  have filled : fill "%%%d%q".toList = "%%-999%q".toList := by
    decide +kernel
  rcases fill_settles "%%%d%q".toList with ⟨-, -, -, -, longer, parts⟩
  rw [filled] at longer parts
  exact ⟨nonempty, closed, longer nonempty, parts "s%".toList closed⟩

end QueryPipe.Template
