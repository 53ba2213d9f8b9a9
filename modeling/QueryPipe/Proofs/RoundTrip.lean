import QueryPipe.Proofs.JoinedLines
import QueryPipe.Literal.Query

/-! A command that prints what it reads changes a literal once. The literal that it
leaves is settled: what stands in it is quoted as it is, and neither filling nor
trimming finds anything to do. -/

namespace QueryPipe.Literal

open Text (trimBoth isNewlineChar)

/-! ## Delimiters -/

@[simp] theorem stripDelimiters_between_doubleQuote (text : List Char) :
    stripDelimiters (between doubleQuote text) = text := by
  simp [stripDelimiters, between]

@[simp] theorem stripDelimiters_between_backquote (text : List Char) :
    stripDelimiters (between backquote text) = text := by
  simp [stripDelimiters, between]

theorem rawLines_eq (text : List Char) :
    rawLines text = between backquote (['\n'] ++ (text ++ ['\n'])) := by
  simp [rawLines, between]

@[simp] theorem of_between_doubleQuote (text : List Char) :
    Style.of (between doubleQuote text) = .interpreted := rfl

@[simp] theorem of_between_backquote (text : List Char) :
    Style.of (between backquote text) = .raw := rfl

theorem dropBackquotes_of_not_mem {text : List Char} (noBackquote : backquote ∉ text) :
    dropBackquotes text = text := by
  rw [dropBackquotes, List.filter_eq_self]
  intro char member
  rw [bne_iff_ne]
  rintro rfl
  exact noBackquote member

theorem backquote_not_mem_template (raw : List Char) : backquote ∉ template raw := by
  simp [template, dropBackquotes]

/-! ## Ways to quote -/

section Quoting

variable {text : List Char}

theorem requote_interpreted_line (single : '\n' ∉ text) :
    requote text .interpreted = between doubleQuote text := by
  simp [requote, single]

theorem requote_interpreted_joined (several : '\n' ∈ text)
    (escaped : '\\' ∈ text ∨ backquote ∈ text) :
    requote text .interpreted = between doubleQuote (text.flatMap joinLine) := by
  simp [requote, several, escaped]

theorem requote_interpreted_lines (several : '\n' ∈ text) (noEscape : '\\' ∉ text)
    (noBackquote : backquote ∉ text) : requote text .interpreted = rawLines text := by
  simp [requote, several, noEscape, noBackquote]

theorem requote_raw_escaped (inside : backquote ∈ text) :
    requote text .raw = between doubleQuote (text.flatMap escape) := by
  simp [requote, inside]

theorem requote_raw_lines (noBackquote : backquote ∉ text) (several : '\n' ∈ text) :
    requote text .raw = rawLines text := by
  simp [requote, noBackquote, several]

theorem requote_raw_verbatim (noBackquote : backquote ∉ text) (single : '\n' ∉ text)
    (verbatim : doubleQuote ∈ text ∨ '\\' ∈ text) :
    requote text .raw = between backquote text := by
  simp [requote, noBackquote, single, verbatim]

theorem requote_raw_line (noBackquote : backquote ∉ text) (single : '\n' ∉ text)
    (noQuote : doubleQuote ∉ text) (noEscape : '\\' ∉ text) :
    requote text .raw = between doubleQuote text := by
  simp [requote, noBackquote, single, noQuote, noEscape]

end Quoting

/-! ## The literal after a pass -/

theorem roundTrip_eq (raw : List Char) :
    roundTrip raw = requote (Template.fill (trimBoth isNewlineChar (template raw))) (.of raw) := by
  rw [roundTrip, query, Template.trimBoth_fill]

/-- A format template comes back without the line ends at its borders, just if the scan
finds all its verbs. -/
theorem roundTripTemplate?_eq (raw : List Char) :
    roundTripTemplate? raw =
      if (placeholders raw).isComplete then
        some (requote (trimBoth isNewlineChar (template raw)) (.of raw))
      else none := by
  rw [roundTripTemplate?, query, placeholders, Template.restore?_trimBoth_fill]
  split <;> rfl

/-- Within line ends, a text stands in a literal that is quoted as this literal. -/
structure Settled (literal text : List Char) : Prop where
  framed : ∃ front back, (∀ char ∈ front, isNewlineChar char = true) ∧
    (∀ char ∈ back, isNewlineChar char = true) ∧ template literal = front ++ (text ++ back)
  trimmed : trimBoth isNewlineChar text = text
  quoted : requote text (.of literal) = literal

section Settled

variable {literal text : List Char}

theorem Settled.trimBoth_template (settled : Settled literal text) :
    trimBoth isNewlineChar (template literal) = text := by
  rcases settled.framed with ⟨front, back, allFront, allBack, framed⟩
  rw [framed, Text.trimBoth_frame allFront allBack, settled.trimmed]

theorem Settled.roundTrip (settled : Settled literal text)
    (noVerb : Template.verbs text = []) : Literal.roundTrip literal = literal := by
  rw [roundTrip_eq, settled.trimBoth_template, Template.fill_of_noVerb noVerb, settled.quoted]

theorem Settled.roundTripTemplate? (settled : Settled literal text)
    (complete : (Template.placeholders text).isComplete = true) :
    Literal.roundTripTemplate? literal = some literal := by
  have stillComplete : (placeholders literal).isComplete = true := by
    rcases settled.framed with ⟨front, back, allFront, allBack, framed⟩
    rw [placeholders, framed, Template.isComplete_frame allFront allBack, complete]
  rw [roundTripTemplate?_eq, if_pos stillComplete, settled.trimBoth_template, settled.quoted]

/-- A text that is quoted without a frame. -/
private theorem settled_of_template (same : template literal = text)
    (trimmed : trimBoth isNewlineChar text = text)
    (quoted : requote text (.of literal) = literal) : Settled literal text :=
  ⟨⟨[], [], by simp, by simp, by simpa using same⟩, trimmed, quoted⟩

end Settled

private theorem settled_rawLines {text : List Char} (noBackquote : backquote ∉ text)
    (trimmed : trimBoth isNewlineChar text = text) (several : '\n' ∈ text) :
    Settled (rawLines text) text where
  framed := by
    refine ⟨['\n'], ['\n'], by simp [isNewlineChar], by simp [isNewlineChar], ?_⟩
    rw [template, rawLines_eq, stripDelimiters_between_backquote, dropBackquotes_of_not_mem]
    simpa [backquote] using noBackquote
  trimmed := trimmed
  quoted := by
    rw [rawLines_eq, of_between_backquote, ← rawLines_eq, requote_raw_lines noBackquote several]

private theorem not_isNewlineChar_of_mem_joined {text : List Char} {char : Char}
    (member : char ∈ text.flatMap joinLine) : isNewlineChar char = false := by
  rcases List.mem_flatMap.mp member with ⟨other, -, inside⟩
  cases newline : isNewlineChar other with
  | true =>
      rw [isNewlineChar, Bool.or_eq_true, beq_iff_eq, beq_iff_eq] at newline
      rcases newline with rfl | rfl <;>
      · simp only [joinLine, List.mem_cons, List.not_mem_nil, or_false] at inside
        rcases inside with rfl | rfl <;> rfl
  | false =>
      rw [Template.joinLine_of_not_isNewlineChar newline, List.mem_singleton] at inside
      rwa [inside]

private theorem settled_joined {text : List Char} (noBackquote : backquote ∉ text) :
    Settled (between doubleQuote (text.flatMap joinLine)) (text.flatMap joinLine) := by
  have oneLine : '\n' ∉ text.flatMap joinLine := by
    intro member
    cases not_isNewlineChar_of_mem_joined member
  have stillNone : backquote ∉ text.flatMap joinLine := by
    intro member
    rcases List.mem_flatMap.mp member with ⟨other, otherMember, inside⟩
    unfold joinLine at inside
    split at inside
    · simp [backquote] at inside
    · simp [backquote] at inside
    · rw [List.mem_singleton] at inside
      exact noBackquote (inside ▸ otherMember)
  refine settled_of_template ?_ ?_ ?_
  · rw [template, stripDelimiters_between_doubleQuote, dropBackquotes_of_not_mem stillNone]
  · refine Text.trimBoth_eq_self ?_ ?_
    · intro char first
      exact not_isNewlineChar_of_mem_joined (List.mem_of_head? first)
    · intro char last
      exact not_isNewlineChar_of_mem_joined (List.mem_of_getLast? last)
  · rw [of_between_doubleQuote, requote_interpreted_line oneLine]

/-- Escaped text of several lines is settled with its line ends written as escapes. -/
theorem settled_requote_joined {text : List Char} (noBackquote : backquote ∉ text)
    (several : '\n' ∈ text) (escaped : '\\' ∈ text) :
    Settled (requote text .interpreted) (text.flatMap joinLine) := by
  rw [requote_interpreted_joined several (.inl escaped)]
  exact settled_joined noBackquote

/-- Every other text without backquotes is settled as it is. -/
theorem settled_requote_kept {text : List Char} (noBackquote : backquote ∉ text)
    (trimmed : trimBoth isNewlineChar text = text) {style : Style}
    (kept : ¬ (style = .interpreted ∧ '\n' ∈ text ∧ '\\' ∈ text)) :
    Settled (requote text style) text := by
  by_cases several : '\n' ∈ text
  · have lines := settled_rawLines noBackquote trimmed several
    cases style with
    | interpreted =>
        have noEscape : '\\' ∉ text := fun escaped => kept ⟨rfl, several, escaped⟩
        rwa [requote_interpreted_lines several noEscape noBackquote]
    | raw => rwa [requote_raw_lines noBackquote several]
  · have inDoubleQuotes : Settled (between doubleQuote text) text := by
      refine settled_of_template ?_ trimmed ?_
      · rw [template, stripDelimiters_between_doubleQuote, dropBackquotes_of_not_mem noBackquote]
      · rw [of_between_doubleQuote, requote_interpreted_line several]
    cases style with
    | interpreted => rwa [requote_interpreted_line several]
    | raw =>
        by_cases verbatim : doubleQuote ∈ text ∨ '\\' ∈ text
        · have quoted := requote_raw_verbatim noBackquote several verbatim
          rw [quoted]
          refine settled_of_template ?_ trimmed ?_
          · rw [template, stripDelimiters_between_backquote, dropBackquotes_of_not_mem noBackquote]
          · rw [of_between_backquote, quoted]
        · rw [not_or] at verbatim
          rwa [requote_raw_line noBackquote several verbatim.1 verbatim.2]

/-- However a text without backquotes is quoted, the literal is settled: on the text, or
on the text with its line ends written as escapes. -/
theorem settled_requote {text : List Char} (noBackquote : backquote ∉ text)
    (trimmed : trimBoth isNewlineChar text = text) (style : Style) :
    Settled (requote text style) text ∨
      Settled (requote text style) (text.flatMap joinLine) := by
  by_cases joined : style = .interpreted ∧ '\n' ∈ text ∧ '\\' ∈ text
  · rcases joined with ⟨rfl, several, escaped⟩
    exact .inr (settled_requote_joined noBackquote several escaped)
  · exact .inl (settled_requote_kept noBackquote trimmed joined)

/-! ## The second pass -/

theorem backquote_not_mem_trimBoth_template (raw : List Char) :
    backquote ∉ trimBoth isNewlineChar (template raw) :=
  fun member => backquote_not_mem_template raw (Text.mem_of_mem_trimBoth member)

/-- A second pass of a command that prints what it reads changes nothing, whether the
literal is a format template or not. -/
theorem roundTrip_stable (raw : List Char) :
    roundTrip (roundTrip raw) = roundTrip raw ∧
      ∀ literal, roundTripTemplate? raw = some literal →
        roundTripTemplate? literal = some literal := by
  constructor
  · have noBackquote : backquote ∉ Template.fill (trimBoth isNewlineChar (template raw)) := by
      intro member
      exact backquote_not_mem_trimBoth_template raw (Template.mem_of_mem_fill (by decide) member)
    have trimmed : trimBoth isNewlineChar (Template.fill (trimBoth isNewlineChar (template raw))) =
        Template.fill (trimBoth isNewlineChar (template raw)) := by
      rw [Template.trimBoth_fill, Text.trimBoth_trimBoth]
    have noVerb := Template.verbs_fill (trimBoth isNewlineChar (template raw))
    rw [roundTrip_eq raw]
    rcases settled_requote noBackquote trimmed (.of raw) with settled | settled
    · exact settled.roundTrip noVerb
    · exact settled.roundTrip ((Template.verbs_flatMap_joinLine _).trans noVerb)
  · intro literal passed
    rw [roundTripTemplate?_eq] at passed
    split at passed
    · rename_i complete
      rcases Option.some.inj passed with rfl
      have trimmedComplete :
          (Template.placeholders (trimBoth isNewlineChar (template raw))).isComplete = true := by
        rcases Text.exists_trimBoth isNewlineChar (template raw) with
          ⟨front, back, allFront, allBack, cut⟩
        rwa [placeholders, cut, Template.isComplete_frame allFront allBack] at complete
      rcases settled_requote (backquote_not_mem_trimBoth_template raw)
          (Text.trimBoth_trimBoth ..) (.of raw) with settled | settled
      · exact settled.roundTripTemplate? trimmedComplete
      · exact settled.roundTripTemplate? (Template.isComplete_flatMap_joinLine trimmedComplete)
    · cases passed

/-- A marker before a line end, and a verb behind it: the first pass writes the line end
as an escape, and the marker takes its backslash along. -/
theorem roundTrip_stable_joined :
    roundTripTemplate? "\"\\a%\n%d\n\"".toList = some "\"\\a%\\n%d\"".toList ∧
      roundTripTemplate? "\"\\a%\\n%d\"".toList = some "\"\\a%\\n%d\"".toList := by
  have passed : roundTripTemplate? "\"\\a%\n%d\n\"".toList = some "\"\\a%\\n%d\"".toList := by
    decide +kernel
  exact ⟨passed, (roundTrip_stable _).2 _ passed⟩

end QueryPipe.Literal
