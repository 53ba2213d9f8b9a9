import QueryPipe.Proofs.Framing
import QueryPipe.Literal.Requote

/-! Line ends of a template that are written as escapes. A marker takes the backslash
along where it took the line end, so the verbs stay, and no sentinel holds a
character of such an escape, so the scan finds what it found. -/

namespace QueryPipe.Template

/-- A chunk with its line end written as an escape. -/
def Chunk.joined : Chunk → List Chunk
  | plain char => (Literal.joinLine char).map plain
  | sentinel verb => [sentinel verb]

theorem joinLine_of_isNewlineChar {char : Char} (newline : Text.isNewlineChar char = true) :
    ∃ letter, Literal.joinLine char = ['\\', letter] ∧ isForeign letter = true ∧
      letter ≠ marker := by
  rw [Text.isNewlineChar, Bool.or_eq_true, beq_iff_eq, beq_iff_eq] at newline
  rcases newline with rfl | rfl
  · exact ⟨'n', rfl, by decide, by decide⟩
  · exact ⟨'r', rfl, by decide, by decide⟩

theorem joinLine_of_not_isNewlineChar {char : Char} (other : Text.isNewlineChar char = false) :
    Literal.joinLine char = [char] := by
  rw [Text.isNewlineChar, Bool.or_eq_false_iff, beq_eq_false_iff_ne, beq_eq_false_iff_ne] at other
  unfold Literal.joinLine
  split
  · exact absurd rfl other.1
  · exact absurd rfl other.2
  · rfl

theorem joined_of_not_isNewlineChar {char : Char} (other : Text.isNewlineChar char = false) :
    (Chunk.plain char).joined = [.plain char] := by
  rw [Chunk.joined, joinLine_of_not_isNewlineChar other]
  rfl

private theorem layout_joinLine_append {char : Char} (noMarker : char ≠ marker)
    (rest : List Char) :
    layout (Literal.joinLine char ++ rest) = (Chunk.plain char).joined ++ layout rest := by
  cases newline : Text.isNewlineChar char with
  | false =>
      rw [joined_of_not_isNewlineChar newline, joinLine_of_not_isNewlineChar newline]
      exact layout_cons noMarker rest
  | true =>
      rcases joinLine_of_isNewlineChar newline with ⟨letter, joined, -, letterNoMarker⟩
      rw [Chunk.joined, joined, List.cons_append, List.cons_append, List.nil_append,
        layout_cons (by decide), layout_cons letterNoMarker]
      rfl

private theorem layout_pair (char : Char) (rest : List Char) :
    layout (marker :: char :: rest) = (Piece.ofPair char).chunks ++ layout rest := by
  simp [layout, pieces]

theorem layout_flatMap_joinLine (template : List Char) :
    layout (template.flatMap Literal.joinLine) = (layout template).flatMap Chunk.joined := by
  induction template using pieces.induct with
  | case1 => rfl
  | case2 char =>
      by_cases isMarker : char = marker
      · subst isMarker
        rfl
      · have joined := layout_joinLine_append isMarker []
        rw [List.append_nil] at joined
        rw [List.flatMap_cons, List.flatMap_nil, List.append_nil, joined, layout_cons isMarker]
        rfl
  | case3 first second rest isMarker induction =>
      have firstEq : first = marker := by simpa using isMarker
      subst firstEq
      have joinMarker : Literal.joinLine marker = [marker] := rfl
      rw [List.flatMap_cons, List.flatMap_cons, joinMarker, layout_pair, List.flatMap_append,
        ← induction, List.singleton_append]
      cases newline : Text.isNewlineChar second with
      | false =>
          rw [joinLine_of_not_isNewlineChar newline, List.singleton_append, layout_pair]
          have kept : (Piece.ofPair second).chunks.flatMap Chunk.joined =
              (Piece.ofPair second).chunks := by
            rw [Piece.ofPair]
            cases Verb.ofLetter? second with
            | some verb => rfl
            | none =>
                rw [Piece.chunks, List.flatMap_cons, List.flatMap_cons,
                  joined_of_not_isNewlineChar newline]
                rfl
          rw [kept]
      | true =>
          rcases joinLine_of_isNewlineChar newline with ⟨letter, joined, -, letterNoMarker⟩
          rw [Piece.ofPair, noLetter_of_isNewlineChar newline, joined, List.cons_append,
            layout_marker_cons (by decide), List.singleton_append, layout_cons letterNoMarker,
            Piece.chunks, List.flatMap_cons, List.flatMap_cons, List.flatMap_nil, Chunk.joined,
            Chunk.joined, joined, joinMarker]
          rfl
  | case4 first second rest isMarker induction =>
      have noMarker : first ≠ marker := by simpa using isMarker
      rw [List.flatMap_cons, layout_joinLine_append noMarker, induction, layout_cons noMarker,
        List.flatMap_cons]

theorem verbs_flatMap_joinLine (template : List Char) :
    verbs (template.flatMap Literal.joinLine) = verbs template := by
  rw [← filterMap_verb?_layout, layout_flatMap_joinLine, ← filterMap_verb?_layout]
  induction layout template with
  | nil => rfl
  | cons chunk laid induction =>
      rw [List.flatMap_cons, List.filterMap_append, induction]
      cases chunk with
      | plain char =>
          rw [Chunk.joined, filterMap_verb?_map_plain]
          rfl
      | sentinel verb => rfl

private theorem flatMap_joined_of_noNewline {cut : List Chunk}
    (noNewline : ∀ char ∈ textOf cut, Text.isNewlineChar char = false) :
    cut.flatMap Chunk.joined = cut := by
  induction cut with
  | nil => rfl
  | cons chunk cut induction =>
      have rest := induction fun char member => noNewline char (List.mem_append_right _ member)
      rw [List.flatMap_cons, rest]
      cases chunk with
      | plain char =>
          rw [joined_of_not_isNewlineChar (noNewline char (List.mem_cons_self ..))]
          rfl
      | sentinel verb => rfl

theorem flatMap_joinLine_of_noNewline {text : List Char}
    (noNewline : ∀ char ∈ text, Text.isNewlineChar char = false) :
    text.flatMap Literal.joinLine = text := by
  induction text with
  | nil => rfl
  | cons char text induction =>
      rw [List.flatMap_cons, joinLine_of_not_isNewlineChar (noNewline char (by simp)),
        induction fun other member => noNewline other (List.mem_cons_of_mem _ member)]
      rfl

theorem chunks_flatMap_joinLine (text : List Char) :
    chunks (text.flatMap Literal.joinLine) = (chunks text).flatMap Chunk.joined := by
  -- Cut at the first line end; before it nothing changes.
  induction counted : text.length using Nat.strong_induction_on generalizing text with
  | _ count induction =>
      have before : ∀ char ∈ text.takeWhile (!Text.isNewlineChar ·),
          Text.isNewlineChar char = false := by
        intro char member
        simpa using List.mem_takeWhile_imp member
      have scannedBefore : (chunks (text.takeWhile (!Text.isNewlineChar ·))).flatMap Chunk.joined =
          chunks (text.takeWhile (!Text.isNewlineChar ·)) := by
        apply flatMap_joined_of_noNewline
        rwa [textOf_chunks]
      have cut := List.takeWhile_append_dropWhile (p := (!Text.isNewlineChar ·)) (l := text)
      cases behind : text.dropWhile (!Text.isNewlineChar ·) with
      | nil =>
          rw [behind, List.append_nil] at cut
          rw [cut] at before scannedBefore
          rw [flatMap_joinLine_of_noNewline before, scannedBefore]
      | cons char rest =>
          have newline : Text.isNewlineChar char = true := by
            have stops := List.head?_dropWhile_not (!Text.isNewlineChar ·) text
            rw [behind] at stops
            simpa using stops
          have shorter : rest.length < count := by
            rw [← counted, ← cut, behind, List.length_append, List.length_cons]
            omega
          rcases joinLine_of_isNewlineChar newline with ⟨letter, joined, letterForeign, -⟩
          rw [behind] at cut
          rw [← cut, List.flatMap_append, flatMap_joinLine_of_noNewline before, List.flatMap_cons,
            joined, List.cons_append, chunks_append_cons (by decide), List.singleton_append,
            ← List.nil_append (letter :: _), chunks_append_cons letterForeign,
            induction rest.length shorter rest rfl,
            chunks_append_cons (isForeign_of_isNewlineChar newline), List.flatMap_append,
            scannedBefore, List.flatMap_cons, Chunk.joined, joined]
          rfl

private theorem Recovers.plains {scanned laid : List Chunk} (recovers : Recovers scanned laid)
    (text : List Char) : Recovers (text.map .plain ++ scanned) (text.map .plain ++ laid) := by
  induction text with
  | nil => exact recovers
  | cons char text induction => exact .plain char induction

theorem Recovers.joined {scanned laid : List Chunk} (recovers : Recovers scanned laid) :
    Recovers (scanned.flatMap Chunk.joined) (laid.flatMap Chunk.joined) := by
  induction recovers with
  | nil => exact .nil
  | plain char _ induction => exact induction.plains (Literal.joinLine char)
  | filled verb _ induction => exact .filled verb induction
  | spelled verb _ induction =>
      have kept : (verb.sentinel.map Chunk.plain).flatMap Chunk.joined =
          verb.sentinel.map Chunk.plain := by
        apply flatMap_joined_of_noNewline
        rw [textOf_map_plain]
        intro char member
        exact not_isNewlineChar_of_mem_sentinel member
      rw [List.flatMap_append, kept]
      exact .spelled verb induction

private theorem textOf_flatMap_joined (cut : List Chunk) :
    textOf (cut.flatMap Chunk.joined) = (textOf cut).flatMap Literal.joinLine := by
  induction cut with
  | nil => rfl
  | cons chunk cut induction =>
      cases chunk with
      | plain char =>
          rw [List.flatMap_cons, textOf_append, induction, Chunk.joined, textOf_map_plain,
            textOf_plain, List.flatMap_cons]
      | sentinel verb =>
          have kept : verb.sentinel.flatMap Literal.joinLine = verb.sentinel :=
            flatMap_joinLine_of_noNewline fun char => not_isNewlineChar_of_mem_sentinel
          rw [List.flatMap_cons, textOf_append, induction, Chunk.joined, textOf_sentinel,
            textOf_sentinel, List.flatMap_append, kept, textOf_nil, List.append_nil]

/-- The scan of a template finds its filled sentinels also where line ends are
written as escapes. -/
theorem isComplete_flatMap_joinLine {template : List Char}
    (complete : (placeholders template).isComplete = true) :
    (placeholders (template.flatMap Literal.joinLine)).isComplete = true := by
  have recovers := (recovers_of_isComplete complete).joined
  rw [← layout_flatMap_joinLine, ← chunks_flatMap_joinLine, ← textOf_layout,
    ← textOf_flatMap_joined, ← layout_flatMap_joinLine, textOf_layout] at recovers
  exact (placeholders_isComplete_iff _).mpr (recovers.offsets_subset 0)

end QueryPipe.Template
