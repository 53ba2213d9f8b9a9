import QueryPipe.Proofs.LiteralValue

/-! What a command that prints what it reads leaves of the value of a literal. -/

namespace QueryPipe.Go

open Text (trimBoth isNewlineChar isNewlineByte stripNewlines)
open Literal (backquote doubleQuote dropBackquotes)

/-! ## Characters of escapes -/

/-- Characters that may follow a backslash as part of its escape. -/
def isEscapeChar (char : Char) : Bool :=
  isHexDigit char || ['x', 'u', 'U', 't', 'n', 'v', 'r', '"', '\\'].contains char

private theorem isEscapeChar_of_isHexDigit {char : Char} (hex : isHexDigit char = true) :
    isEscapeChar char = true := by
  rw [isEscapeChar, hex, Bool.true_or]

private theorem isHexDigit_of_isOctalDigit {char : Char} (octal : isOctalDigit char = true) :
    isHexDigit char = true := by
  have digit : char.isDigit = true := by
    simp only [isOctalDigit, Bool.and_eq_true, decide_eq_true_eq, Char.le_def] at octal
    simp only [Char.isDigit, Bool.and_eq_true, decide_eq_true_eq]
    grind
  rw [isHexDigit, digit, Bool.true_or, Bool.true_or]

theorem isEscapeChar_of_mem {sequence : List Char} {bytes : List UInt8}
    (known : escapeValue? sequence = some bytes) {char : Char} (member : char ∈ sequence) :
    isEscapeChar char = true := by
  cases sequence with
  | nil => cases known
  | cons lead digits =>
      have width := length_of_escapeValue? known
      have ofDigits (leadOk : isEscapeChar lead = true) (all : digits.all isHexDigit = true) :
          isEscapeChar char = true := by
        rcases List.mem_cons.mp member with rfl | member
        · exact leadOk
        · exact isEscapeChar_of_isHexDigit (List.all_eq_true.mp all char member)
      rw [escapeValue?] at known
      split_ifs at known with _ isHex hexDigits isUnicode leadOctal octalDigits
      · rcases beq_iff_eq.mp isHex with rfl
        exact ofDigits rfl hexDigits
      · unfold codePoint? at known
        split_ifs at known with valid
        rw [Bool.and_eq_true] at valid
        rw [Bool.or_eq_true, beq_iff_eq, beq_iff_eq] at isUnicode
        rcases isUnicode with rfl | rfl
        · exact ofDigits rfl valid.1
        · exact ofDigits rfl valid.1
      · rw [Bool.and_eq_true] at octalDigits
        refine ofDigits (isEscapeChar_of_isHexDigit (isHexDigit_of_isOctalDigit leadOctal)) ?_
        rw [List.all_eq_true]
        intro digit digitMember
        exact isHexDigit_of_isOctalDigit (List.all_eq_true.mp octalDigits.1 digit digitMember)
      · rcases Option.map_eq_some_iff.mp known with ⟨pair, found, -⟩
        have ofTable : ∀ pair ∈ simpleEscapes, isEscapeChar pair.1 = true ∧
            escapeWidth pair.1 = 1 := by
          decide
        have leadEq : pair.1 = lead := by simpa using List.find?_some found
        rcases ofTable pair (List.mem_of_find?_eq_some found) with ⟨leadOk, single⟩
        rw [leadEq] at leadOk single
        rw [single, List.length_cons, Nat.add_eq_right, List.length_eq_zero_iff] at width
        exact ofDigits leadOk (by rw [width]; rfl)

/-! ## Bodies that change and stay well-formed -/

section Bodies

variable {body : List Char} {value : List UInt8}

theorem Unescapes.noLineEnd (unescapes : Unescapes body value) : '\n' ∉ body := by
  induction unescapes with
  | nil => simp
  | char _ _ noLineEnd _ induction =>
      rw [List.mem_cons, not_or]
      exact ⟨noLineEnd.symm, induction⟩
  | escape known _ induction =>
      rw [List.mem_cons, List.mem_append, not_or, not_or]
      refine ⟨by decide, ?_, induction⟩
      intro member
      cases isEscapeChar_of_mem known member

theorem Unescapes.exists_dropBackquotes (unescapes : Unescapes body value) :
    ∃ kept, Unescapes (dropBackquotes body) kept := by
  induction unescapes with
  | nil => exact ⟨[], .nil⟩
  | @char char rest value noBackslash noQuote noLineEnd _ induction =>
      rcases induction with ⟨kept, unescapes⟩
      by_cases isBackquote : char = backquote
      · exact ⟨kept, by simpa [dropBackquotes, isBackquote] using unescapes⟩
      · refine ⟨String.utf8EncodeChar char ++ kept, ?_⟩
        rw [dropBackquotes, List.filter_cons_of_pos (by simpa using isBackquote)]
        exact .char noBackslash noQuote noLineEnd unescapes
  | @escape sequence bytes rest value known _ induction =>
      rcases induction with ⟨kept, unescapes⟩
      have stays : dropBackquotes sequence = sequence := by
        apply Literal.dropBackquotes_of_not_mem
        intro member
        cases isEscapeChar_of_mem known member
      refine ⟨bytes ++ kept, ?_⟩
      rw [dropBackquotes, List.filter_cons_of_pos (by decide), List.filter_append, ← dropBackquotes,
        ← dropBackquotes, stays]
      exact .escape known unescapes

theorem Unescapes.behind {front : List Char} (noBackslash : '\\' ∉ front) (noQuote : '"' ∉ front)
    (noLineEnd : '\n' ∉ front) (unescapes : Unescapes body value) :
    Unescapes (front ++ body) (front.flatMap String.utf8EncodeChar ++ value) := by
  induction front with
  | nil => exact unescapes
  | cons char front induction =>
      rw [List.mem_cons, not_or] at noBackslash noQuote noLineEnd
      rw [List.flatMap_cons, List.append_assoc]
      exact .char (Ne.symm noBackslash.1) (Ne.symm noQuote.1) (Ne.symm noLineEnd.1)
        (induction noBackslash.2 noQuote.2 noLineEnd.2)

/-- Filling keeps a body well-formed, also behind a marker that waits for its character. -/
theorem Unescapes.exists_fill (unescapes : Unescapes body value) :
    (∃ filled, Unescapes (Template.fill body) filled) ∧
      ∃ filled, Unescapes (Template.fill (Template.marker :: body)) filled := by
  have behindMarker {rest : List Char} {filled : List UInt8} (unescapes : Unescapes rest filled) :
      Unescapes (Template.marker :: rest) (String.utf8EncodeChar Template.marker ++ filled) :=
    .char (by decide) (by decide) (by decide) unescapes
  induction unescapes with
  | nil => exact ⟨⟨_, .nil⟩, ⟨_, behindMarker .nil⟩⟩
  | @char char rest value noBackslash noQuote noLineEnd _ induction =>
      rcases induction with ⟨⟨filled, unescapes⟩, waiting⟩
      have kept := Unescapes.char noBackslash noQuote noLineEnd unescapes
      constructor
      · by_cases isMarker : char = Template.marker
        · rwa [isMarker]
        · exact ⟨_, by rwa [Template.fill_cons isMarker]⟩
      · rw [Template.fill_marker_cons, Template.Piece.ofPair]
        cases Template.Verb.ofLetter? char with
        | none => exact ⟨_, behindMarker kept⟩
        | some verb =>
            have plain : '\\' ∉ verb.sentinel ∧ '"' ∉ verb.sentinel ∧ '\n' ∉ verb.sentinel := by
              cases verb <;> decide
            exact ⟨_, unescapes.behind plain.1 plain.2.1 plain.2.2⟩
  | @escape sequence bytes rest value known _ induction =>
      rcases induction with ⟨⟨filled, unescapes⟩, -⟩
      have noMarker : Template.marker ∉ sequence := by
        intro member
        cases isEscapeChar_of_mem known member
      have kept : Unescapes ('\\' :: Template.fill (sequence ++ rest)) (bytes ++ filled) := by
        rw [Template.fill_append noMarker]
        exact .escape known unescapes
      constructor
      · exact ⟨_, by rwa [Template.fill_cons (by decide)]⟩
      · exact ⟨_, by rw [Template.fill_marker_cons]; exact behindMarker kept⟩

/-! ## Line ends at the borders -/

private theorem all_isNewlineByte {front : List Char}
    (all : ∀ char ∈ front, isNewlineChar char = true) :
    ∀ byte ∈ front.flatMap String.utf8EncodeChar, isNewlineByte byte = true := by
  intro byte member
  rcases List.mem_flatMap.mp member with ⟨char, charMember, inside⟩
  have newline := all char charMember
  rw [isNewlineChar, Bool.or_eq_true, beq_iff_eq, beq_iff_eq] at newline
  rcases newline with rfl | rfl
  · rcases List.mem_singleton.mp inside with rfl
    rfl
  · rcases List.mem_singleton.mp inside with rfl
    rfl

theorem stripNewlines_frame {front back : List Char}
    (allFront : ∀ char ∈ front, isNewlineChar char = true)
    (allBack : ∀ char ∈ back, isNewlineChar char = true) (value : List UInt8) :
    stripNewlines (front.flatMap String.utf8EncodeChar ++
      (value ++ back.flatMap String.utf8EncodeChar)) = stripNewlines value :=
  Text.trimBoth_frame (all_isNewlineByte allFront) (all_isNewlineByte allBack) value

private theorem Unescapes.exists_of_front {front : List Char}
    (all : ∀ char ∈ front, isNewlineChar char = true)
    (unescapes : Unescapes (front ++ body) value) :
    ∃ kept, Unescapes body kept ∧ value = front.flatMap String.utf8EncodeChar ++ kept := by
  induction front generalizing value with
  | nil => exact ⟨value, unescapes, rfl⟩
  | cons char front induction =>
      have newline := all char (List.mem_cons_self ..)
      generalize whole : char :: front ++ body = text at unescapes
      cases unescapes with
      | nil => cases whole
      | char _ _ _ unescapes =>
          rcases List.cons.inj whole with ⟨rfl, rfl⟩
          rcases induction (fun other member => all other (List.mem_cons_of_mem _ member))
            unescapes with ⟨kept, inner, rfl⟩
          exact ⟨kept, inner, by simp⟩
      | escape =>
          rcases List.cons.inj whole with ⟨rfl, -⟩
          cases newline

private theorem Unescapes.exists_of_back {back : List Char}
    (all : ∀ char ∈ back, isNewlineChar char = true) (unescapes : Unescapes (body ++ back) value) :
    ∃ kept, Unescapes body kept ∧ value = kept ++ back.flatMap String.utf8EncodeChar := by
  generalize whole : body ++ back = text at unescapes
  induction unescapes generalizing body with
  | nil =>
      rcases List.append_eq_nil_iff.mp whole with ⟨rfl, rfl⟩
      exact ⟨[], .nil, rfl⟩
  | @char char rest value noBackslash noQuote noLineEnd unescapes induction =>
      cases body with
      | nil =>
          rw [List.nil_append] at whole
          have onlyBack := Unescapes.char noBackslash noQuote noLineEnd unescapes
          rw [← whole, ← List.append_nil back] at onlyBack
          rcases onlyBack.exists_of_front all with ⟨kept, inner, equal⟩
          cases inner
          exact ⟨[], .nil, by rw [equal, List.append_nil, List.nil_append]⟩
      | cons first body =>
          rcases List.cons.inj whole with ⟨rfl, behind⟩
          rcases induction behind with ⟨kept, inner, rfl⟩
          exact ⟨_, .char noBackslash noQuote noLineEnd inner, by simp⟩
  | @escape sequence bytes rest value known unescapes induction =>
      cases body with
      | nil =>
          have newline := all '\\' (by rw [List.nil_append] at whole; simp [whole])
          cases newline
      | cons first body =>
          rcases List.cons.inj whole with ⟨rfl, behind⟩
          -- The escape holds no line end, so it lies within the body.
          have inside : ∃ more, body = sequence ++ more ∧ more ++ back = rest := by
            rcases List.append_eq_append_iff.mp behind with
              ⟨between, sequenceEq, backEq⟩ | ⟨more, bodyEq, restEq⟩
            · cases between with
              | nil => exact ⟨[], by simpa using sequenceEq.symm, backEq⟩
              | cons char between =>
                  have newline := all char (by rw [backEq]; simp)
                  have inSequence : char ∈ sequence := by simp [sequenceEq]
                  have escaped := isEscapeChar_of_mem known inSequence
                  rw [isNewlineChar, Bool.or_eq_true, beq_iff_eq, beq_iff_eq] at newline
                  rcases newline with rfl | rfl <;> cases escaped
            · exact ⟨more, bodyEq, restEq.symm⟩
          rcases inside with ⟨more, rfl, behindMore⟩
          rcases induction behindMore with ⟨kept, inner, rfl⟩
          exact ⟨_, .escape known inner, by simp⟩

theorem Unescapes.exists_trimBoth (unescapes : Unescapes body value) :
    ∃ kept, Unescapes (trimBoth isNewlineChar body) kept ∧
      stripNewlines kept = stripNewlines value := by
  rcases Text.exists_trimBoth isNewlineChar body with ⟨front, back, allFront, allBack, cut⟩
  rw [cut] at unescapes
  rcases unescapes.exists_of_front allFront with ⟨inner, unescapesInner, rfl⟩
  rcases unescapesInner.exists_of_back allBack with ⟨kept, unescapesKept, rfl⟩
  exact ⟨kept, unescapesKept, (stripNewlines_frame allFront allBack kept).symm⟩

end Bodies

theorem verbatimBytes_append (first second : List Char) :
    verbatimBytes (first ++ second) = verbatimBytes first ++ verbatimBytes second := by
  simp [verbatimBytes]

theorem verbatimBytes_of_noReturn {body : List Char} (noReturn : '\r' ∉ body) :
    verbatimBytes body = body.flatMap String.utf8EncodeChar := by
  rw [verbatimBytes, List.filter_eq_self.mpr]
  intro char member
  rw [bne_iff_ne]
  rintro rfl
  exact noReturn member

theorem stripNewlines_verbatimBytes_frame {front back : List Char}
    (allFront : ∀ char ∈ front, isNewlineChar char = true)
    (allBack : ∀ char ∈ back, isNewlineChar char = true) (text : List Char) :
    stripNewlines (verbatimBytes (front ++ (text ++ back))) =
      stripNewlines (verbatimBytes text) := by
  rw [verbatimBytes_append, verbatimBytes_append]
  apply stripNewlines_frame
  · intro char member
    exact allFront char (List.mem_of_mem_filter member)
  · intro char member
    exact allBack char (List.mem_of_mem_filter member)

end QueryPipe.Go

namespace QueryPipe.Literal

open Text (trimBoth isNewlineChar stripNewlines)
open Go (stringValue? verbatimBytes)

/-! ## Quoting -/

def Style.delimiter : Style → Char
  | .interpreted => doubleQuote
  | .raw => backquote

theorem stringValue?_requote_interpreted {text : List Char} {value : List UInt8}
    (unescapes : Go.Unescapes text value) :
    stringValue? (requote text .interpreted) = some value := by
  rw [requote_interpreted_line unescapes.noLineEnd, Go.stringValue?_between_doubleQuote, unescapes.unescapeFrom?]

/-- Between double quotes a carriage return stays, and between backquotes it is dropped. -/
def KeepsReturns (text : List Char) : Prop :=
  '\r' ∈ text → '\n' ∈ text ∨ doubleQuote ∈ text ∨ '\\' ∈ text

theorem exists_stringValue?_requote_raw {text : List Char} (noBackquote : backquote ∉ text)
    (returns : KeepsReturns text) :
    ∃ value, stringValue? (requote text .raw) = some value ∧
      stripNewlines value = stripNewlines (verbatimBytes text) := by
  by_cases several : '\n' ∈ text
  · have quoted := requote_raw_lines noBackquote several
    refine ⟨verbatimBytes (['\n'] ++ (text ++ ['\n'])), ?_, ?_⟩
    · rw [quoted, rawLines_eq, Go.stringValue?_between_backquote, if_neg]
      simpa [backquote] using noBackquote
    · exact Go.stripNewlines_verbatimBytes_frame (by simp [isNewlineChar])
        (by simp [isNewlineChar]) text
  · by_cases verbatim : doubleQuote ∈ text ∨ '\\' ∈ text
    · have quoted := requote_raw_verbatim noBackquote several verbatim
      refine ⟨verbatimBytes text, ?_, rfl⟩
      rw [quoted, Go.stringValue?_between_backquote, if_neg noBackquote]
    · have noReturn : '\r' ∉ text := fun member =>
        (returns member).elim several verbatim
      rw [not_or] at verbatim
      have quoted := requote_raw_line noBackquote several verbatim.1 verbatim.2
      have unescapes := Go.Unescapes.nil.behind verbatim.2 verbatim.1 several
      rw [List.append_nil, List.append_nil, ← Go.verbatimBytes_of_noReturn noReturn] at unescapes
      refine ⟨verbatimBytes text, ?_, rfl⟩
      rw [quoted, Go.stringValue?_between_doubleQuote, unescapes.unescapeFrom?]

/-- A body that loses the line ends at its borders keeps its value up to line ends,
however it is quoted. -/
theorem exists_stringValue?_requote {style : Style} {body : List Char} {value : List UInt8}
    (read : stringValue? (between style.delimiter body) = some value)
    (returns : style = .raw → KeepsReturns (trimBoth isNewlineChar body)) :
    ∃ result, stringValue? (requote (trimBoth isNewlineChar body) style) = some result ∧
      stripNewlines result = stripNewlines value := by
  cases style with
  | interpreted =>
      rw [Style.delimiter, Go.stringValue?_between_doubleQuote] at read
      rcases (Go.unescapes_of_unescapeFrom? read).exists_trimBoth with ⟨kept, unescapes, same⟩
      exact ⟨kept, stringValue?_requote_interpreted unescapes, same⟩
  | raw =>
      rw [Style.delimiter, Go.stringValue?_between_backquote] at read
      split_ifs at read with inside
      rcases Option.some.inj read with rfl
      rcases Text.exists_trimBoth isNewlineChar body with ⟨front, back, allFront, allBack, cut⟩
      have noBackquote : backquote ∉ trimBoth isNewlineChar body :=
        fun member => inside (Text.mem_of_mem_trimBoth member)
      rcases exists_stringValue?_requote_raw noBackquote (returns rfl) with ⟨result, quoted, same⟩
      refine ⟨result, quoted, ?_⟩
      rw [same]
      conv => rhs; rw [cut]
      exact (Go.stripNewlines_verbatimBytes_frame allFront allBack _).symm

/-! ## Without backquotes and with verbs filled -/

theorem exists_stringValue?_template {raw : List Char} {value : List UInt8}
    (read : stringValue? raw = some value) :
    ∃ kept, stringValue? (between (Style.of raw).delimiter (template raw)) = some kept ∧
      (backquote ∉ stripDelimiters raw → kept = value) := by
  rcases Go.exists_body_of_stringValue? read with
    ⟨body, rfl, unescapes⟩ | ⟨body, rfl, noBackquote, rfl⟩
  · rcases unescapes.exists_dropBackquotes with ⟨kept, unescapesKept⟩
    refine ⟨kept, ?_, ?_⟩
    · rw [of_between_doubleQuote, template, stripDelimiters_between_doubleQuote, Style.delimiter,
        Go.stringValue?_between_doubleQuote, unescapesKept.unescapeFrom?]
    · intro noBackquote
      rw [stripDelimiters_between_doubleQuote] at noBackquote
      rw [dropBackquotes_of_not_mem noBackquote] at unescapesKept
      exact Option.some.inj (unescapesKept.unescapeFrom?.symm.trans unescapes.unescapeFrom?)
  · refine ⟨verbatimBytes body, ?_, fun _ => rfl⟩
    rw [of_between_backquote, template, stripDelimiters_between_backquote,
      dropBackquotes_of_not_mem noBackquote, Style.delimiter, read]

theorem exists_stringValue?_fill {style : Style} {text : List Char} {kept : List UInt8}
    (read : stringValue? (between style.delimiter text) = some kept) :
    ∃ filled, stringValue? (between style.delimiter (Template.fill text)) = some filled := by
  cases style with
  | interpreted =>
      rw [Style.delimiter, Go.stringValue?_between_doubleQuote] at read
      rcases (Go.unescapes_of_unescapeFrom? read).exists_fill.1 with ⟨filled, unescapes⟩
      refine ⟨filled, ?_⟩
      rw [Style.delimiter, Go.stringValue?_between_doubleQuote, unescapes.unescapeFrom?]
  | raw =>
      rw [Style.delimiter, Go.stringValue?_between_backquote] at read ⊢
      split_ifs at read with inside
      rw [if_neg]
      · exact ⟨_, rfl⟩
      · intro member
        exact inside (Template.mem_of_mem_fill (by decide) member)

theorem KeepsReturns.fill {text : List Char} (returns : KeepsReturns text) :
    KeepsReturns (Template.fill text) := by
  intro member
  rcases returns (Template.mem_of_mem_fill (by decide) member) with inside | inside | inside
  · exact .inl (Template.mem_fill_of_mem (by decide) (by decide) inside)
  · exact .inr (.inl (Template.mem_fill_of_mem (by decide) (by decide) inside))
  · exact .inr (.inr (Template.mem_fill_of_mem (by decide) (by decide) inside))

/-- A command that prints what it reads leaves a well-formed literal of the same value, up
to line ends at its borders and save what is taken from the literal before the command
reads it: its backquotes, and its verbs where it is no format template. -/
theorem stringValue?_roundTrip {raw : List Char} {value : List UInt8}
    (wellFormed : stringValue? raw = some value)
    (returns : Style.of raw = .raw → KeepsReturns (trimBoth isNewlineChar (template raw))) :
    ∃ kept filled,
      stringValue? (between (Style.of raw).delimiter (template raw)) = some kept ∧
      stringValue? (between (Style.of raw).delimiter (query raw)) = some filled ∧
      (backquote ∉ stripDelimiters raw → kept = value) ∧
      (Template.verbs (template raw) = [] → filled = kept) ∧
      (∃ result, stringValue? (roundTrip raw) = some result ∧
        stripNewlines result = stripNewlines filled) ∧
      ∀ literal, roundTripTemplate? raw = some literal →
        ∃ result, stringValue? literal = some result ∧
          stripNewlines result = stripNewlines kept := by
  rcases exists_stringValue?_template wellFormed with ⟨kept, readKept, keptValue⟩
  rcases exists_stringValue?_fill readKept with ⟨filled, readFilled⟩
  refine ⟨kept, filled, readKept, readFilled, keptValue, ?_, ?_, ?_⟩
  · intro noVerb
    rw [Template.fill_of_noVerb noVerb, readKept] at readFilled
    exact (Option.some.inj readFilled).symm
  · rw [roundTrip]
    refine exists_stringValue?_requote readFilled ?_
    intro isRaw
    rw [query, Template.trimBoth_fill]
    exact (returns isRaw).fill
  · intro literal passed
    rw [roundTripTemplate?_eq] at passed
    split_ifs at passed
    rcases Option.some.inj passed with rfl
    exact exists_stringValue?_requote readKept returns

theorem stringValue?_roundTrip_lines :
    stringValue? "`SELECT\r\n%d\r\n`".toList = some "SELECT\n%d\n".toUTF8.data.toList ∧
    (∃ result, stringValue? (roundTrip "`SELECT\r\n%d\r\n`".toList) = some result ∧
      stripNewlines result = "SELECT\n-999".toUTF8.data.toList) ∧
    ∃ result, stringValue? "`\nSELECT\r\n%d\n`".toList = some result ∧
      stripNewlines result = "SELECT\n%d".toUTF8.data.toList := by
  have wellFormed : stringValue? "`SELECT\r\n%d\r\n`".toList =
      some "SELECT\n%d\n".toUTF8.data.toList := by
    decide +kernel
  rcases stringValue?_roundTrip wellFormed (fun _ _ => .inl (by decide +kernel)) with
    ⟨kept, filled, readKept, readFilled, -, -, plain, format⟩
  rcases Option.some.inj (readKept.symm.trans wellFormed) with rfl
  have filledValue : filled = "SELECT\n-999\n".toUTF8.data.toList := by
    have read : stringValue? (between (Style.of "`SELECT\r\n%d\r\n`".toList).delimiter
        (query "`SELECT\r\n%d\r\n`".toList)) = some "SELECT\n-999\n".toUTF8.data.toList := by
      decide +kernel
    exact Option.some.inj (readFilled.symm.trans read)
  refine ⟨wellFormed, ?_, ?_⟩
  · rcases plain with ⟨result, read, same⟩
    refine ⟨result, read, ?_⟩
    rw [same, filledValue]
    decide +kernel
  · rcases format "`\nSELECT\r\n%d\n`".toList (by decide +kernel) with ⟨result, read, same⟩
    refine ⟨result, read, ?_⟩
    rw [same]
    decide +kernel

/-- A backquote between double quotes is lost, whether the literal is a format template or
not, and a verb is lost where it is none. -/
theorem stringValue?_roundTrip_lost :
    (stringValue? "\"a`b\"".toList = some [97, 96, 98] ∧
      (stringValue? (roundTrip "\"a`b\"".toList)).map stripNewlines ≠
        some (stripNewlines [97, 96, 98]) ∧
      ((roundTripTemplate? "\"a`b\"".toList).bind stringValue?).map stripNewlines ≠
        some (stripNewlines [97, 96, 98])) ∧
    stringValue? "\"%d\"".toList = some [37, 100] ∧
      (stringValue? (roundTrip "\"%d\"".toList)).map stripNewlines ≠
        some (stripNewlines [37, 100]) := by
  decide +kernel

end QueryPipe.Literal
