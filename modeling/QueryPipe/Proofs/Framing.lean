import QueryPipe.Proofs.Markers
import QueryPipe.Proofs.Trimming

/-! Line ends around a template change neither its verbs nor what the scan finds of
them, so a template that lost them is filled and restored as before. -/

namespace QueryPipe.Template

/-! ## Characters that no sentinel holds -/

/-- Whether no sentinel holds the character. -/
def isForeign (char : Char) : Bool := Verb.all.all fun verb => !verb.sentinel.contains char

theorem not_mem_sentinel {char : Char} (foreign : isForeign char = true) (verb : Verb) :
    char ∉ verb.sentinel := by
  simp only [isForeign, Verb.all, List.all_cons, List.all_nil, Bool.and_true, Bool.and_eq_true,
    Bool.not_eq_true', List.contains_eq_mem, decide_eq_false_iff_not] at foreign
  cases verb with
  | decimal => exact foreign.1
  | value => exact foreign.2.1
  | string => exact foreign.2.2

theorem isForeign_of_isNewlineChar {char : Char} (newline : Text.isNewlineChar char = true) :
    isForeign char = true := by
  rw [Text.isNewlineChar, Bool.or_eq_true, beq_iff_eq, beq_iff_eq] at newline
  rcases newline with rfl | rfl <;> decide

theorem noLetter_of_isNewlineChar {char : Char} (newline : Text.isNewlineChar char = true) :
    Verb.ofLetter? char = none := by
  rw [Text.isNewlineChar, Bool.or_eq_true, beq_iff_eq, beq_iff_eq] at newline
  rcases newline with rfl | rfl <;> decide

theorem ne_marker_of_isNewlineChar {char : Char} (newline : Text.isNewlineChar char = true) :
    char ≠ marker := by
  rintro rfl
  cases newline

private theorem sentinelAt?_append_cons {text rest : List Char} {char : Char}
    (foreign : isForeign char = true) (missed : sentinelAt? text = none) :
    sentinelAt? (text ++ char :: rest) = none := by
  rw [Option.eq_none_iff_forall_ne_some]
  intro verb found
  rcases exists_append_of_sentinelAt? found with ⟨more, equal⟩
  have begins : ∀ after, text ≠ verb.sentinel ++ after := by
    rintro after rfl
    rw [sentinelAt?_sentinel_append] at missed
    cases missed
  rcases List.append_eq_append_iff.mp equal with ⟨between, longer, cut⟩ | ⟨after, shorter, -⟩
  · cases between with
    | nil => exact begins [] (by simpa using longer.symm)
    | cons other between =>
        rcases List.cons.inj cut with ⟨rfl, -⟩
        exact not_mem_sentinel foreign verb (by simp [longer])
  · exact begins after shorter

/-- The scan finds nothing across a foreign character. -/
theorem chunks_append_cons {char : Char} (foreign : isForeign char = true)
    (text rest : List Char) :
    chunks (text ++ char :: rest) = chunks text ++ .plain char :: chunks rest := by
  induction text using scan_induction with
  | nil =>
      apply chunks_cons_of_none
      exact @sentinelAt?_append_cons [] rest char foreign rfl
  | plain first text found induction =>
      have missed := @sentinelAt?_append_cons _ rest _ foreign found
      rw [List.cons_append] at missed
      rw [List.cons_append, chunks_cons_of_none missed, chunks_cons_of_none found, induction,
        List.cons_append]
  | sentinel verb text induction =>
      rw [List.append_assoc, chunks_sentinel_append, chunks_sentinel_append, induction,
        List.cons_append]

/-- Where a way to cut texts takes some characters at both ends by themselves, it
takes a whole frame of them so. -/
private theorem cut_frame {cut : List Char → List Chunk} {apart : Char → Bool}
    (atFront : ∀ {char}, apart char = true → ∀ rest, cut (char :: rest) = .plain char :: cut rest)
    (atBack : ∀ {char}, apart char = true →
      ∀ text, cut (text ++ [char]) = cut text ++ [.plain char])
    {front back : List Char} (allFront : ∀ char ∈ front, apart char = true)
    (allBack : ∀ char ∈ back, apart char = true) (text : List Char) :
    cut (front ++ (text ++ back)) = front.map .plain ++ (cut text ++ back.map .plain) := by
  have behind : cut (text ++ back) = cut text ++ back.map .plain := by
    induction back using List.reverseRecOn with
    | nil => simp
    | append_singleton back char induction =>
        rw [← List.append_assoc, atBack (allBack char (by simp)),
          induction fun other member => allBack other (List.mem_append_left _ member)]
        simp
  induction front with
  | nil => exact behind
  | cons char front induction =>
      rw [List.cons_append, atFront (allFront char (by simp)),
        induction fun other member => allFront other (List.mem_cons_of_mem _ member)]
      rfl

theorem chunks_frame {front back : List Char}
    (allFront : ∀ char ∈ front, Text.isNewlineChar char = true)
    (allBack : ∀ char ∈ back, Text.isNewlineChar char = true) (text : List Char) :
    chunks (front ++ (text ++ back)) =
      front.map .plain ++ (chunks text ++ back.map .plain) := by
  refine cut_frame ?_ ?_ allFront allBack text
  · intro char newline rest
    exact chunks_append_cons (isForeign_of_isNewlineChar newline) [] rest
  · intro char newline text
    exact chunks_append_cons (isForeign_of_isNewlineChar newline) text []

/-! ## Layouts -/

theorem layout_cons {char : Char} (noMarker : char ≠ marker) (rest : List Char) :
    layout (char :: rest) = .plain char :: layout rest := by
  rw [layout, pieces_cons noMarker]
  rfl

theorem layout_marker_cons {char : Char} (noLetter : Verb.ofLetter? char = none)
    (rest : List Char) :
    layout (marker :: char :: rest) = .plain marker :: .plain char :: layout rest := by
  simp [layout, pieces, Piece.ofPair, noLetter, Piece.chunks]

/-- A character that is no verb's letter stands for itself at the end of a template. -/
theorem layout_append_singleton {char : Char} (noLetter : Verb.ofLetter? char = none)
    (text : List Char) : layout (text ++ [char]) = layout text ++ [.plain char] := by
  induction text using pieces.induct with
  | case1 => by_cases isMarker : char = marker <;> simp [layout, pieces, isMarker, Piece.chunks]
  | case2 first =>
      by_cases firstMarker : first = marker
      · subst firstMarker
        rw [List.singleton_append, layout_marker_cons noLetter]
        rfl
      · rw [List.singleton_append, layout_cons firstMarker, layout_cons firstMarker]
        by_cases isMarker : char = marker <;> simp [layout, pieces, isMarker, Piece.chunks]
  | case3 first second rest isMarker induction =>
      simp only [layout, List.cons_append, pieces, if_pos isMarker, List.flatMap_cons,
        List.append_assoc] at induction ⊢
      rw [induction]
  | case4 first second rest isMarker induction =>
      have noMarker : first ≠ marker := by simpa using isMarker
      rw [List.cons_append, layout_cons noMarker, layout_cons noMarker, induction, List.cons_append]

theorem layout_frame {front back : List Char}
    (allFront : ∀ char ∈ front, Text.isNewlineChar char = true)
    (allBack : ∀ char ∈ back, Text.isNewlineChar char = true) (text : List Char) :
    layout (front ++ (text ++ back)) =
      front.map .plain ++ (layout text ++ back.map .plain) := by
  refine cut_frame ?_ ?_ allFront allBack text
  · intro char newline rest
    exact layout_cons (ne_marker_of_isNewlineChar newline) rest
  · intro char newline text
    exact layout_append_singleton (noLetter_of_isNewlineChar newline) text

/-! ## Filling within a frame of line ends -/

@[simp] theorem textOf_append (first second : List Chunk) :
    textOf (first ++ second) = textOf first ++ textOf second := by
  simp [textOf]

@[simp] theorem textOf_map_plain (text : List Char) : textOf (text.map .plain) = text := by
  induction text with
  | nil => rfl
  | cons char text induction => rw [List.map_cons, textOf_plain, induction]

@[simp] theorem filterMap_verb?_map_plain (text : List Char) :
    (text.map Chunk.plain).filterMap Chunk.verb? = [] := by
  rw [List.filterMap_eq_nil_iff]
  intro chunk member
  rcases List.mem_map.mp member with ⟨char, -, rfl⟩
  rfl

private theorem offsetsFrom_shift (shift offset : Nat) (cut : List Chunk) :
    offsetsFrom (shift + offset) cut = (offsetsFrom offset cut).map (shift + ·) := by
  induction cut generalizing offset with
  | nil => rfl
  | cons chunk cut induction =>
      cases chunk with
      | plain char => simp only [offsetsFrom_plain, Nat.add_assoc, induction]
      | sentinel verb =>
          simp only [offsetsFrom_sentinel, Nat.add_assoc, induction, List.map_cons]

private theorem offsetsFrom_append_plain (offset : Nat) (cut : List Chunk) (back : List Char) :
    offsetsFrom offset (cut ++ back.map .plain) = offsetsFrom offset cut := by
  induction cut generalizing offset with
  | nil =>
      have plain := offsetsFrom_map_plain_append offset back []
      rwa [List.append_nil] at plain
  | cons chunk cut induction =>
      cases chunk with
      | plain char => exact induction _
      | sentinel verb => exact congrArg (offset :: ·) (induction _)

section Frame

variable {front back : List Char} (allFront : ∀ char ∈ front, Text.isNewlineChar char = true)
  (allBack : ∀ char ∈ back, Text.isNewlineChar char = true)

include allFront allBack

theorem fill_frame (text : List Char) :
    fill (front ++ (text ++ back)) = front ++ (fill text ++ back) := by
  simp only [← textOf_layout, layout_frame allFront allBack, textOf_append, textOf_map_plain]

theorem verbs_frame (text : List Char) : verbs (front ++ (text ++ back)) = verbs text := by
  rw [← filterMap_verb?_layout, layout_frame allFront allBack, List.filterMap_append,
    List.filterMap_append, filterMap_verb?_map_plain, filterMap_verb?_map_plain,
    List.nil_append, List.append_nil, filterMap_verb?_layout]

theorem isComplete_frame (text : List Char) :
    (placeholders (front ++ (text ++ back))).isComplete = (placeholders text).isComplete := by
  have shifted (cut : List Chunk) : offsetsFrom 0 (front.map .plain ++ (cut ++ back.map .plain)) =
      (offsetsFrom 0 cut).map (Text.Utf8.byteLength front + ·) := by
    rw [offsetsFrom_map_plain_append, offsetsFrom_append_plain, Nat.add_comm, offsetsFrom_shift]
  rw [Bool.eq_iff_iff, placeholders_isComplete_iff, placeholders_isComplete_iff,
    fill_frame allFront allBack, chunks_frame allFront allBack, layout_frame allFront allBack,
    shifted, shifted]
  exact List.map_subset_iff _ (fun _ _ => Nat.add_left_cancel)

end Frame

theorem not_isNewlineChar_of_mem_sentinel {verb : Verb} {char : Char}
    (member : char ∈ verb.sentinel) : Text.isNewlineChar char = false := by
  by_contra newline
  rw [Bool.not_eq_false] at newline
  exact not_mem_sentinel (isForeign_of_isNewlineChar newline) verb member

/-- A text begins with a line end only if its template does. -/
private theorem head?_textOf {cut : List Chunk} {char : Char}
    (newline : Text.isNewlineChar char = true)
    (first : (textOf cut).head? = some char) : (sourceOf cut).head? = some char := by
  cases cut with
  | nil => cases first
  | cons chunk cut =>
      cases chunk with
      | plain other => exact first
      | sentinel verb =>
          have inside : char ∈ verb.sentinel := by
            rw [textOf_sentinel, List.head?_append_of_ne_nil _ verb.sentinel_ne_nil] at first
            exact List.mem_of_head? first
          rw [not_isNewlineChar_of_mem_sentinel inside] at newline
          cases newline

private theorem getLast?_textOf {cut : List Chunk} {char : Char}
    (newline : Text.isNewlineChar char = true) (last : (textOf cut).getLast? = some char) :
    (sourceOf cut).getLast? = some char := by
  rcases List.eq_nil_or_concat cut with rfl | ⟨cut, chunk, rfl⟩
  · cases last
  · cases chunk with
    | plain other =>
        have same : char = other := by simpa [Chunk.text, textOf] using last.symm
        simp [sourceOf, Chunk.source, same]
    | sentinel verb =>
        have inside : char ∈ verb.sentinel := by
          rw [List.concat_eq_append, textOf_append, textOf_sentinel, textOf_nil, List.append_nil,
            List.getLast?_append_of_ne_nil _ verb.sentinel_ne_nil] at last
          exact List.mem_of_getLast? last
        rw [not_isNewlineChar_of_mem_sentinel inside] at newline
        cases newline

/-- Trimming and filling can be done in either order. -/
theorem trimBoth_fill (template : List Char) :
    Text.trimBoth Text.isNewlineChar (fill template) =
      fill (Text.trimBoth Text.isNewlineChar template) := by
  rcases Text.exists_trimBoth Text.isNewlineChar template with
    ⟨front, back, allFront, allBack, cut⟩
  have ends := Text.ends_trimBoth Text.isNewlineChar template
  generalize Text.trimBoth Text.isNewlineChar template = trimmed at cut ends ⊢
  rw [cut, fill_frame allFront allBack, Text.trimBoth_frame allFront allBack]
  rw [← textOf_layout]
  apply Text.trimBoth_eq_self
  · intro char first
    by_contra newline
    rw [Bool.not_eq_false] at newline
    have inTemplate := head?_textOf newline first
    rw [sourceOf_layout] at inTemplate
    exact absurd newline (by simp [ends.1 char inTemplate])
  · intro char last
    by_contra newline
    rw [Bool.not_eq_false] at newline
    have inTemplate := getLast?_textOf newline last
    rw [sourceOf_layout] at inTemplate
    exact absurd newline (by simp [ends.2 char inTemplate])

/-! ## Filling again -/

theorem placeholders_isEmpty_iff (template : List Char) :
    (placeholders template).isEmpty = true ↔ verbs template = [] := by
  rw [Placeholders.isEmpty, beq_iff_eq, placeholders_filled, List.length_eq_zero_iff, offsetsFrom,
    List.map_eq_nil_iff, ← filterMap_verb?_layout, ← map_verb_occurrencesFrom 0,
    List.map_eq_nil_iff]

theorem mem_of_mem_fill {char : Char} (foreign : isForeign char = true) {template : List Char}
    (member : char ∈ fill template) : char ∈ template := by
  rw [← textOf_layout] at member
  rw [← sourceOf_layout template]
  rcases List.mem_flatMap.mp member with ⟨chunk, chunkMember, inside⟩
  refine List.mem_flatMap.mpr ⟨chunk, chunkMember, ?_⟩
  cases chunk with
  | plain other => exact inside
  | sentinel verb => exact absurd inside (not_mem_sentinel foreign verb)

theorem mem_fill_of_mem {char : Char} (noMarker : char ≠ marker)
    (noLetter : Verb.ofLetter? char = none) {template : List Char} (member : char ∈ template) :
    char ∈ fill template := by
  rw [← sourceOf_layout template] at member
  rw [← textOf_layout]
  rcases List.mem_flatMap.mp member with ⟨chunk, chunkMember, inside⟩
  refine List.mem_flatMap.mpr ⟨chunk, chunkMember, ?_⟩
  cases chunk with
  | plain other => exact inside
  | sentinel verb =>
      rw [Chunk.source, List.mem_cons, List.mem_singleton] at inside
      rcases inside with isMarker | isLetter
      · exact absurd isMarker noMarker
      · rw [isLetter] at noLetter
        cases verb <;> cases noLetter

theorem fill_of_noVerb {template : List Char} (noVerb : verbs template = []) :
    fill template = template :=
  fill_of_isEmpty ((placeholders_isEmpty_iff template).mpr noVerb)

theorem fill_cons {char : Char} (noMarker : char ≠ marker) (rest : List Char) :
    fill (char :: rest) = char :: fill rest := by
  rw [← textOf_layout, layout_cons noMarker, textOf_plain, textOf_layout]

theorem fill_marker_cons (char : Char) (rest : List Char) :
    fill (marker :: char :: rest) = (Piece.ofPair char).filled ++ fill rest := by
  simp [fill, pieces]

theorem fill_append {front : List Char} (noMarker : marker ∉ front) (rest : List Char) :
    fill (front ++ rest) = front ++ fill rest := by
  induction front with
  | nil => rfl
  | cons char front induction =>
      rw [List.mem_cons, not_or] at noMarker
      rw [List.cons_append, fill_cons (Ne.symm noMarker.1), induction noMarker.2, List.cons_append]

/-- A filled template holds no verb. -/
theorem verbs_fill (template : List Char) : verbs (fill template) = [] := by
  induction template using pieces.induct with
  | case1 => rfl
  | case2 char =>
      by_cases isMarker : char = marker <;>
        simp [fill, pieces, isMarker, Piece.filled, Piece.source, verbs, Piece.verb?]
  | case3 first second rest isMarker induction =>
      have firstEq : first = marker := by simpa using isMarker
      rw [firstEq, fill_marker_cons, Piece.ofPair]
      cases letter : Verb.ofLetter? second with
      | none =>
          have paired := verbs_marker_cons second (fill rest)
          rw [letter, induction] at paired
          exact paired
      | some verb => exact (verbs_pending_sentinel false verb _).trans induction
  | case4 first second rest isMarker induction =>
      have noMarker : first ≠ marker := by simpa using isMarker
      rw [fill_cons noMarker, verbs_cons noMarker, induction]

/-! ## Restoring what was trimmed -/

private theorem putBack_frame (front back : List Char) (marks : List Mark) (scanned : List Chunk) :
    Placeholders.putBack marks (front.map .plain ++ (scanned ++ back.map .plain)) =
      front ++ (Placeholders.putBack marks scanned ++ back) := by
  have plain (text : List Char) (marks : List Mark) :
      Placeholders.putBack marks (text.map .plain) = text := by
    induction text with
    | nil => cases marks <;> rfl
    | cons char text induction => rw [List.map_cons, Placeholders.putBack, induction]
  have behind : Placeholders.putBack marks (scanned ++ back.map .plain) =
      Placeholders.putBack marks scanned ++ back := by
    induction scanned generalizing marks with
    | nil => cases marks <;> simp [plain, Placeholders.putBack]
    | cons chunk scanned induction =>
        cases chunk with
        | plain char => simp [Placeholders.putBack, induction]
        | sentinel verb => cases marks <;> simp [Placeholders.putBack, induction]
  induction front with
  | nil => exact behind
  | cons char front induction =>
      rw [List.map_cons, List.cons_append, Placeholders.putBack, induction, List.cons_append]

private theorem isComplete_of_isEmpty {template : List Char}
    (empty : (placeholders template).isEmpty = true) :
    (placeholders template).isComplete = true := by
  have restored := restore?_fill_eq template
  rw [Placeholders.restore?, if_pos empty] at restored
  by_contra incomplete
  rw [if_neg incomplete] at restored
  cases restored

/-- A filled template that lost line ends at its borders is restored to the template
without them, just if the scan finds all filled sentinels. -/
theorem restore?_trimBoth_fill (template : List Char) :
    (placeholders template).restore? (Text.trimBoth Text.isNewlineChar (fill template)) =
      if (placeholders template).isComplete then
        some (Text.trimBoth Text.isNewlineChar template)
      else none := by
  by_cases empty : (placeholders template).isEmpty = true
  · rw [Placeholders.restore?, if_pos empty, fill_of_isEmpty empty,
      if_pos (isComplete_of_isEmpty empty)]
  · by_cases complete : (placeholders template).isComplete = true
    · rcases Text.exists_trimBoth Text.isNewlineChar template with
        ⟨front, back, allFront, allBack, cut⟩
      have scanned : chunks (fill template) = front.map .plain ++
          (chunks (fill (Text.trimBoth Text.isNewlineChar template)) ++ back.map .plain) := by
        rw [← chunks_frame allFront allBack, ← fill_frame allFront allBack, ← cut]
      have sameVerbs : (chunks (fill (Text.trimBoth Text.isNewlineChar template))).filterMap
          Chunk.verb? = (placeholders template).marks.map (·.verb) := by
        rw [placeholders_verbs, scanned, List.filterMap_append, List.filterMap_append,
          filterMap_verb?_map_plain, filterMap_verb?_map_plain, List.nil_append, List.append_nil]
      have whole := (recovers_of_isComplete complete).putBack (marksLayout_contains _)
      rw [← placeholders_marks, sourceOf_layout, scanned, putBack_frame] at whole
      have trimmed := List.append_cancel_right (List.append_cancel_left (whole.trans cut))
      rw [Placeholders.restore?, if_neg empty, trimBoth_fill]
      simp [complete, sameVerbs, trimmed]
    · simp [Placeholders.restore?, empty, complete]

end QueryPipe.Template
