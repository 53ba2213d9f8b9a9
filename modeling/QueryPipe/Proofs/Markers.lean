import QueryPipe.Proofs.Restoring

/-! Verbs of a restored text. A text that a command printed may hold markers of
its own; where these neither make a verb nor reach into a restored sentinel, the
restored text has the verbs of the template. -/

namespace QueryPipe.Template

/-! ## Reading markers -/

/-- Whether a text ends in a marker that has no character to take along. -/
def endsOpen (text : List Char) : Bool := (pieces text).getLast? == some .lone

/-- The marker that still waits for its character. -/
def pendingMarker (isOpen : Bool) : List Char := if isOpen then [marker] else []

private theorem Piece.ofPair_ne_lone (char : Char) : Piece.ofPair char ≠ .lone := by
  unfold Piece.ofPair
  cases Verb.ofLetter? char <;> simp

theorem pieces_cons {char : Char} (noMarker : char ≠ marker) (rest : List Char) :
    pieces (char :: rest) = .plain char :: pieces rest := by
  cases rest <;> simp [pieces, noMarker]

theorem pieces_marker_cons (char : Char) (rest : List Char) :
    pieces (marker :: char :: rest) = Piece.ofPair char :: pieces rest := by
  rw [pieces, if_pos (beq_self_eq_true marker)]

theorem endsOpen_cons {char : Char} (noMarker : char ≠ marker) (rest : List Char) :
    endsOpen (char :: rest) = endsOpen rest := by
  rw [endsOpen, endsOpen, pieces_cons noMarker, List.getLast?_cons]
  cases (pieces rest).getLast? with
  | none => rfl
  | some piece => rfl

theorem endsOpen_marker_cons (char : Char) (rest : List Char) :
    endsOpen (marker :: char :: rest) = endsOpen rest := by
  rw [endsOpen, endsOpen, pieces_marker_cons, List.getLast?_cons]
  cases (pieces rest).getLast? with
  | none => simp [Piece.ofPair_ne_lone]
  | some piece => rfl

/-- One more character: it is taken along, or it waits if it is a marker. -/
theorem endsOpen_append_singleton (text : List Char) (char : Char) :
    endsOpen (text ++ [char]) = (!endsOpen text && char == marker) := by
  have alone (char : Char) : endsOpen [char] = (char == marker) := by
    by_cases isMarker : char = marker
    · rw [isMarker]
      rfl
    · rw [endsOpen_cons isMarker, beq_false_of_ne isMarker]
      rfl
  induction text using pieces.induct with
  | case1 => exact alone char
  | case2 first =>
      by_cases firstMarker : first = marker
      · subst firstMarker
        exact endsOpen_marker_cons char []
      · rw [List.singleton_append, endsOpen_cons firstMarker, endsOpen_cons firstMarker, alone]
        rfl
  | case3 first second rest isMarker induction =>
      rcases beq_iff_eq.mp isMarker with rfl
      rw [List.cons_append, List.cons_append, endsOpen_marker_cons, endsOpen_marker_cons, induction]
  | case4 first second rest isMarker induction =>
      have noMarker : first ≠ marker := by simpa using isMarker
      rw [List.cons_append, endsOpen_cons noMarker, endsOpen_cons noMarker, induction]

theorem endsOpen_append_sentinel (text : List Char) (verb : Verb) :
    endsOpen (text ++ verb.sentinel) = false := by
  have lastChar : ∃ front char, verb.sentinel = front ++ [char] ∧ char ≠ marker := by
    cases verb with
    | decimal => exact ⟨['-', '9', '9'], '9', rfl, by decide⟩
    | value => exact ⟨Verb.value.sentinel.dropLast, '_', rfl, by decide⟩
    | string => exact ⟨Verb.string.sentinel.dropLast, '_', rfl, by decide⟩
  rcases lastChar with ⟨front, char, equal, noMarker⟩
  rw [equal, ← List.append_assoc, endsOpen_append_singleton]
  simp [noMarker]

/-! ## Verbs read from the left -/

theorem verbs_marker_cons (char : Char) (rest : List Char) :
    verbs (marker :: char :: rest) = (Verb.ofLetter? char).toList ++ verbs rest := by
  rw [verbs, pieces_marker_cons, verbs, Piece.ofPair]
  cases Verb.ofLetter? char <;> rfl

theorem verbs_cons {char : Char} (noMarker : char ≠ marker) (rest : List Char) :
    verbs (char :: rest) = verbs rest := by
  rw [verbs, pieces_cons noMarker]
  rfl

theorem verbs_append {front : List Char} (noMarker : marker ∉ front) (rest : List Char) :
    verbs (front ++ rest) = verbs rest := by
  induction front with
  | nil => rfl
  | cons char front induction =>
      rw [List.mem_cons, not_or] at noMarker
      rw [List.cons_append, verbs_cons (Ne.symm noMarker.1), induction noMarker.2]

/-- A character read after a text that is open or not. -/
theorem verbs_pending_cons (before : List Char) (char : Char) (rest : List Char) :
    verbs (pendingMarker (endsOpen before) ++ char :: rest) =
      (if endsOpen before then (Verb.ofLetter? char).toList else []) ++
        verbs (pendingMarker (endsOpen (before ++ [char])) ++ rest) := by
  rw [endsOpen_append_singleton]
  cases endsOpen before with
  | true => simp [pendingMarker, verbs_marker_cons]
  | false =>
      by_cases isMarker : char = marker
      · simp [pendingMarker, isMarker]
      · simp [pendingMarker, isMarker, verbs_cons isMarker]

/-- A sentinel holds no verb, whatever stands before it. -/
theorem verbs_pending_sentinel (isOpen : Bool) (verb : Verb) (rest : List Char) :
    verbs (pendingMarker isOpen ++ (verb.sentinel ++ rest)) = verbs rest := by
  have shape : ∃ char tail, verb.sentinel = char :: tail ∧ Verb.ofLetter? char = none ∧
      marker ∉ char :: tail := by
    cases verb <;> exact ⟨_, _, rfl, by decide, by decide⟩
  rcases shape with ⟨char, tail, equal, noLetter, noMarker⟩
  rw [equal]
  cases isOpen with
  | false => exact verbs_append noMarker rest
  | true =>
      have tailNoMarker : marker ∉ tail := fun member => noMarker (List.mem_cons_of_mem _ member)
      simp [pendingMarker, verbs_marker_cons, noLetter, verbs_append tailNoMarker]

/-! ## Restored texts -/

/-- What putting back does to the verbs, read behind a text `before`. -/
theorem verbs_putBack {scanned : List Chunk} {marks : List Mark} (before : List Char)
    (aligned : scanned.filterMap Chunk.verb? = marks.map (·.verb))
    (noVerb : verbs (pendingMarker (endsOpen before) ++ textOf scanned) = [])
    (free : ∀ pair ∈ (occurrencesFrom (Text.Utf8.byteLength before) scanned).zip marks,
      pair.2.isFilled = true →
        endsOpen (Text.Utf8.splitAt pair.1.offset (before ++ textOf scanned)).1 = false) :
    verbs (pendingMarker (endsOpen before) ++ Placeholders.putBack marks scanned) =
      (marks.filter (·.isFilled)).map (·.verb) := by
  induction scanned generalizing marks before with
  | nil =>
      have noMarks : marks = [] := by simpa using aligned.symm
      subst noMarks
      simpa [Placeholders.putBack] using noVerb
  | cons chunk scanned induction =>
      cases chunk with
      | plain char =>
          rw [textOf_plain, verbs_pending_cons, List.append_eq_nil_iff] at noVerb
          rw [Placeholders.putBack, verbs_pending_cons, noVerb.1, List.nil_append]
          refine induction (before ++ [char]) aligned noVerb.2 ?_
          simpa [occurrencesFrom] using free
      | sentinel verb =>
          cases marks with
          | nil => simp [Chunk.verb?] at aligned
          | cons mark marks =>
              simp only [List.filterMap_cons, Chunk.verb?, List.map_cons, List.cons.injEq] at aligned
              rcases aligned with ⟨rfl, aligned⟩
              rw [textOf_sentinel, verbs_pending_sentinel] at noVerb
              have after := induction (before ++ mark.verb.sentinel) aligned
                (by rw [endsOpen_append_sentinel]; exact noVerb) (by
                  intro pair member filled
                  rw [Text.Utf8.byteLength_append] at member
                  simpa using free pair (List.mem_cons_of_mem _ member) filled)
              rw [endsOpen_append_sentinel] at after
              rw [Placeholders.putBack]
              cases filled : mark.isFilled with
              | false =>
                  rw [if_neg (by simp), verbs_pending_sentinel,
                    List.filter_cons_of_neg (by simp [filled])]
                  exact after
              | true =>
                  have closed := free _ (List.mem_cons_self ..) filled
                  rw [Text.Utf8.splitAt_append] at closed
                  have letter : Verb.ofLetter? mark.verb.letter = some mark.verb := by
                    cases mark.verb <;> rfl
                  rw [closed, if_pos rfl, List.filter_cons_of_pos (by simp [filled]),
                    List.map_cons, ← after]
                  simp [pendingMarker, verbs_marker_cons, letter]

/-- A restored text has the verbs of its template, provided that the text to
restore holds no verb of its own and that none of its markers takes the first
character of a restored sentinel along. -/
theorem verbs_restored {template output restored : List Char}
    (kept : (placeholders template).restore? output = some restored)
    (noVerb : verbs output = [])
    (free : ∀ pair ∈ (occurrences output).zip (placeholders template).marks,
      pair.2.isFilled = true →
        endsOpen (Text.Utf8.splitAt pair.1.offset output).1 = false) :
    verbs restored = verbs template := by
  unfold Placeholders.restore? at kept
  split at kept
  · rename_i empty
    rcases Option.some.inj kept with rfl
    rw [Placeholders.isEmpty, beq_iff_eq, placeholders_filled, List.length_eq_zero_iff,
      offsetsFrom, List.map_eq_nil_iff] at empty
    rw [noVerb, ← filterMap_verb?_layout, ← map_verb_occurrencesFrom 0, empty]
    rfl
  · split at kept
    · cases kept
    · rename_i complete
      split at kept
      · rename_i same
        rcases Option.some.inj kept with rfl
        rw [Bool.not_eq_true, Bool.not_eq_false'] at complete
        have putBack := verbs_putBack [] (by simpa using same)
          (by simpa [endsOpen, pieces, pendingMarker] using noVerb)
          (by simpa [occurrences] using free)
        have filledVerbs := (recovers_of_isComplete complete).filled_verbs
          (marksLayout_contains (layout template))
        rw [← placeholders_marks, filterMap_verb?_layout] at filledVerbs
        exact putBack.trans filledVerbs
      · cases kept

theorem verbs_restored_percentage :
    (placeholders "WHERE rate > %d".toList).restore? "where rate > 5%%-999".toList =
      some "where rate > 5%%%d".toList ∧
    verbs "where rate > 5%%%d".toList = verbs "WHERE rate > %d".toList := by
  have kept : (placeholders "WHERE rate > %d".toList).restore? "where rate > 5%%-999".toList =
      some "where rate > 5%%%d".toList := by
    decide +kernel
  exact ⟨kept, verbs_restored kept (by decide +kernel) (by decide +kernel)⟩

/-- A lone marker before a sentinel takes the marker of the restored verb along,
and a template without verbs accepts any text. -/
theorem verbs_restored_lost_or_gained :
    ((placeholders "%d".toList).restore? "%-999".toList = some "%%d".toList ∧
      verbs "%%d".toList ≠ verbs "%d".toList) ∧
    ((placeholders "x".toList).restore? "%d".toList = some "%d".toList ∧
      verbs "%d".toList ≠ verbs "x".toList) := by
  decide +kernel

end QueryPipe.Template
