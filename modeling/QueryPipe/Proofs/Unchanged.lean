import QueryPipe.Proofs.RoundTrip

/-! Literals that a command leaves byte for byte as they are, where it prints what it reads.
Nothing that is taken from a literal comes back by accident: the literal that a pass gives is
settled, so its body holds no verb, no backquote and nothing to be trimmed. -/

namespace QueryPipe.Literal

open Text (trimBoth isNewlineChar)

/-! ## Passes that change nothing -/

/-- The verbs can be put back into the query of a literal. -/
def IsRestored (raw : List Char) : Prop :=
  ((placeholders raw).restore? (trimBoth isNewlineChar (query raw))).isSome = true
deriving Decidable

theorem Settled.verbs_template {literal text : List Char} (settled : Settled literal text) :
    Template.verbs (template literal) = Template.verbs text := by
  rcases settled.framed with ⟨front, back, allFront, allBack, framed⟩
  rw [framed, Template.verbs_frame allFront allBack]

/-- The literal that a pass gives has no verb, so one that stays the same has none. -/
theorem verbs_template_of_roundTrip {raw : List Char} (same : roundTrip raw = raw) :
    Template.verbs (template raw) = [] := by
  have filledNoVerb := Template.verbs_fill (trimBoth isNewlineChar (template raw))
  have noBackquote : backquote ∉ Template.fill (trimBoth isNewlineChar (template raw)) := by
    intro member
    exact backquote_not_mem_trimBoth_template raw (Template.mem_of_mem_fill (by decide) member)
  have trimmed : trimBoth isNewlineChar (Template.fill (trimBoth isNewlineChar (template raw))) =
      Template.fill (trimBoth isNewlineChar (template raw)) := by
    rw [Template.trimBoth_fill, Text.trimBoth_trimBoth]
  have settled := settled_requote noBackquote trimmed (.of raw)
  rw [← roundTrip_eq, same] at settled
  cases settled with
  | inl settled => exact settled.verbs_template.trans filledNoVerb
  | inr settled =>
      exact settled.verbs_template.trans ((Template.verbs_flatMap_joinLine _).trans filledNoVerb)

theorem roundTrip_eq_self_iff (raw : List Char) :
    roundTrip raw = raw ↔
      Template.verbs (template raw) = [] ∧
        requote (trimBoth isNewlineChar (template raw)) (.of raw) = raw := by
  have unfilled (noVerb : Template.verbs (template raw) = []) :
      roundTrip raw = requote (trimBoth isNewlineChar (template raw)) (.of raw) := by
    rw [roundTrip, query, Template.fill_of_noVerb noVerb]
  constructor
  · intro same
    have noVerb := verbs_template_of_roundTrip same
    exact ⟨noVerb, (unfilled noVerb).symm.trans same⟩
  · intro kept
    exact (unfilled kept.1).trans kept.2

theorem roundTripTemplate?_eq_self_iff (raw : List Char) :
    roundTripTemplate? raw = some raw ↔
      IsRestored raw ∧ requote (trimBoth isNewlineChar (template raw)) (.of raw) = raw := by
  have restored : IsRestored raw ↔ (placeholders raw).isComplete = true := by
    rw [IsRestored, query, placeholders, Template.restore?_trimBoth_fill]
    split_ifs with complete <;> simp [complete]
  rw [roundTripTemplate?_eq, restored]
  split_ifs with complete <;> simp [complete]

/-! ## Borders -/

/-- A text neither begins nor ends with a character. -/
def Unbordered (char : Char) (text : List Char) : Prop :=
  text.head? ≠ some char ∧ text.getLast? ≠ some char
deriving Decidable

theorem unbordered_of_not_mem {char : Char} {text : List Char} (absent : char ∉ text) :
    Unbordered char text := by
  constructor
  · intro first
    exact absent (List.mem_of_head? first)
  · intro last
    exact absent (List.mem_of_getLast? last)

theorem trimBoth_newlines_iff (text : List Char) :
    trimBoth isNewlineChar text = text ↔ Unbordered '\n' text ∧ Unbordered '\r' text := by
  have border (place : Option Char) :
      (∀ char ∈ place, isNewlineChar char = false) ↔ place ≠ some '\n' ∧ place ≠ some '\r' := by
    cases place with
    | none => simp
    | some char => simp [isNewlineChar]
  rw [Text.trimBoth_eq_self_iff, border, border, Unbordered, Unbordered]
  tauto

/-! ## Bodies that quoting keeps -/

theorem between_inj {delimiter : Char} {first second : List Char} :
    between delimiter first = between delimiter second ↔ first = second := by
  simp [between]

theorem requote_interpreted_trimmed_iff {body : List Char} (single : '\n' ∉ body) :
    requote (trimBoth isNewlineChar (dropBackquotes body)) .interpreted =
        between doubleQuote body ↔
      backquote ∉ body ∧ Unbordered '\r' body := by
  have trimmedSingle : '\n' ∉ trimBoth isNewlineChar (dropBackquotes body) := by
    intro member
    exact single (List.mem_of_mem_filter (Text.mem_of_mem_trimBoth member))
  rw [requote_interpreted_line trimmedSingle, between_inj]
  constructor
  · intro same
    have noBackquote : backquote ∉ body := by
      rw [← same]
      intro member
      have kept := Text.mem_of_mem_trimBoth member
      simp [dropBackquotes] at kept
    rw [dropBackquotes_of_not_mem noBackquote, trimBoth_newlines_iff] at same
    exact ⟨noBackquote, same.2⟩
  · intro kept
    rw [dropBackquotes_of_not_mem kept.1, trimBoth_newlines_iff]
    exact ⟨unbordered_of_not_mem single, kept.2⟩

/-- The body of a raw literal that is quoted with backquotes where it is. -/
def KeepsBackquotes (body : List Char) : Prop :=
  ('\n' ∉ body ∧ (doubleQuote ∈ body ∨ '\\' ∈ body) ∧ Unbordered '\r' body) ∨
    ∃ inner, body = ['\n'] ++ (inner ++ ['\n']) ∧ '\n' ∈ inner ∧
      Unbordered '\n' inner ∧ Unbordered '\r' inner

theorem requote_raw_eq_iff {text body : List Char} (noBackquote : backquote ∉ text) :
    requote text .raw = between backquote body ↔
      ('\n' ∈ text ∧ body = ['\n'] ++ (text ++ ['\n'])) ∨
        '\n' ∉ text ∧ (doubleQuote ∈ text ∨ '\\' ∈ text) ∧ body = text := by
  have differ : between doubleQuote text ≠ between backquote body := by
    simp [between, doubleQuote, backquote]
  by_cases several : '\n' ∈ text
  · rw [requote_raw_lines noBackquote several, rawLines_eq, between_inj]
    simp [several, eq_comm]
  by_cases verbatim : doubleQuote ∈ text ∨ '\\' ∈ text
  · rw [requote_raw_verbatim noBackquote several verbatim, between_inj]
    simp [several, verbatim, eq_comm]
  · have plain := not_or.mp verbatim
    rw [requote_raw_line noBackquote several plain.1 plain.2]
    simp [several, verbatim, differ]

theorem requote_raw_trimmed_iff {body : List Char} (noBackquote : backquote ∉ body) :
    requote (trimBoth isNewlineChar body) .raw = between backquote body ↔
      KeepsBackquotes body := by
  have trimmedNoBackquote : backquote ∉ trimBoth isNewlineChar body :=
    fun member => noBackquote (Text.mem_of_mem_trimBoth member)
  rw [requote_raw_eq_iff trimmedNoBackquote, KeepsBackquotes]
  constructor
  · intro quoted
    rcases quoted with ⟨several, framed⟩ | ⟨single, verbatim, same⟩
    · exact .inr ⟨_, framed, several, (trimBoth_newlines_iff _).mp (Text.trimBoth_trimBoth ..)⟩
    · rw [← same] at single verbatim
      exact .inl ⟨single, verbatim, ((trimBoth_newlines_iff body).mp same.symm).2⟩
  · intro kept
    rcases kept with ⟨single, verbatim, borders⟩ | ⟨inner, rfl, several, borders⟩
    · have same := (trimBoth_newlines_iff body).mpr ⟨unbordered_of_not_mem single, borders⟩
      rw [same]
      exact .inr ⟨single, verbatim, rfl⟩
    · have same : trimBoth isNewlineChar (['\n'] ++ (inner ++ ['\n'])) = inner := by
        rw [Text.trimBoth_frame (by simp [isNewlineChar]) (by simp [isNewlineChar]),
          (trimBoth_newlines_iff inner).mpr borders]
      rw [same]
      exact .inl ⟨several, rfl⟩

/-! ## The literals -/

/-- The literals that a command leaves as they are, which prints what it reads: an
interpreted one without line ends, and a raw one, each as a plain literal and as a format
template. -/
theorem unchanged_iff (body : List Char) :
    ('\n' ∉ body →
      (roundTrip (between doubleQuote body) = between doubleQuote body ↔
        backquote ∉ body ∧ Template.verbs body = [] ∧ Unbordered '\r' body) ∧
      (roundTripTemplate? (between doubleQuote body) = some (between doubleQuote body) ↔
        backquote ∉ body ∧ IsRestored (between doubleQuote body) ∧ Unbordered '\r' body)) ∧
    (backquote ∉ body →
      (roundTrip (between backquote body) = between backquote body ↔
        Template.verbs body = [] ∧ KeepsBackquotes body) ∧
      (roundTripTemplate? (between backquote body) = some (between backquote body) ↔
        IsRestored (between backquote body) ∧ KeepsBackquotes body)) := by
  constructor
  · intro single
    have quoted := requote_interpreted_trimmed_iff single
    rw [roundTrip_eq_self_iff, roundTripTemplate?_eq_self_iff, of_between_doubleQuote, template,
      stripDelimiters_between_doubleQuote, quoted]
    constructor
    · constructor
      · intro same
        rcases same with ⟨noVerb, noBackquote, borders⟩
        rw [dropBackquotes_of_not_mem noBackquote] at noVerb
        exact ⟨noBackquote, noVerb, borders⟩
      · intro kept
        rcases kept with ⟨noBackquote, noVerb, borders⟩
        rw [dropBackquotes_of_not_mem noBackquote]
        exact ⟨noVerb, noBackquote, borders⟩
    · tauto
  · intro noBackquote
    rw [roundTrip_eq_self_iff, roundTripTemplate?_eq_self_iff, of_between_backquote, template,
      stripDelimiters_between_backquote, dropBackquotes_of_not_mem noBackquote,
      requote_raw_trimmed_iff noBackquote]
    exact ⟨Iff.rfl, Iff.rfl⟩

theorem unchanged_iff_verb_and_lines :
    ('\n' ∉ "\\\"%d\\\"".toList ∧
      roundTrip "\"\\\"%d\\\"\"".toList ≠ "\"\\\"%d\\\"\"".toList ∧
      roundTripTemplate? "\"\\\"%d\\\"\"".toList = some "\"\\\"%d\\\"\"".toList) ∧
    backquote ∉ "\n%q\r\n?\n".toList ∧
      roundTrip "`\n%q\r\n?\n`".toList = "`\n%q\r\n?\n`".toList ∧
      roundTripTemplate? "`\n%q\r\n?\n`".toList = some "`\n%q\r\n?\n`".toList := by
  have single : '\n' ∉ "\\\"%d\\\"".toList := by
    decide +kernel
  have noBackquote : backquote ∉ "\n%q\r\n?\n".toList := by
    decide +kernel
  have lines : KeepsBackquotes "\n%q\r\n?\n".toList :=
    .inr ⟨"%q\r\n?".toList, by decide +kernel, by decide +kernel, by decide +kernel,
      by decide +kernel⟩
  rcases (unchanged_iff "\\\"%d\\\"".toList).1 single with ⟨plain, format⟩
  rcases (unchanged_iff "\n%q\r\n?\n".toList).2 noBackquote with ⟨plainLines, formatLines⟩
  refine ⟨⟨single, ?_, ?_⟩, noBackquote, ?_, ?_⟩
  · intro same
    exact absurd (plain.mp same).2.1 (by decide +kernel)
  · exact format.mpr ⟨by decide +kernel, by decide +kernel, by decide +kernel⟩
  · exact plainLines.mpr ⟨by decide +kernel, lines⟩
  · exact formatLines.mpr ⟨by decide +kernel, lines⟩

end QueryPipe.Literal
