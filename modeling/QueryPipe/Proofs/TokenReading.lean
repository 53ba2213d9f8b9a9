import QueryPipe.Proofs.Delimited

/-! What a token is made of and how much of the text behind it decides where it
ends. Beyond its own characters a token looks at one character or at a run of
characters of numbers; only a slash looks further, for the end of a comment. -/

namespace QueryPipe.Go

/-- The character `char` and those of `tail` are one token where `after` follows. -/
inductive Reads : (char : Char) → (tail after : List Char) → TokenKind → Prop
  | lineEnd : Reads '\n' [] after .lineEnd
  | nul : Reads '\x00' [] after .nul
  | interpreted (body : InterpretedTail tail) : Reads '"' tail after .stringLiteral
  | raw (body : RawTail tail) : Reads '`' tail after .stringLiteral
  | rune (body : RuneTail tail) : Reads '\'' tail after .rune
  | comment (comments : Comments ('/' :: tail) after) : Reads '/' tail after .comment
  | slash (noComment : commentLength? ('/' :: after) = none) : Reads '/' [] after (.mark '/')
  | number (begins : char = '.' ∨ char.isDigit = true)
      (length : numberLength (char :: (tail ++ after)) = tail.length + 1) :
      Reads char tail after .number
  | point (begins : char = '.' ∨ char.isDigit = true)
      (length : numberLength (char :: after) = 0) : Reads char [] after (.mark char)
  | mark (isMark : isMark char = true) (noSlash : char ≠ '/') (noPoint : char ≠ '.') :
      Reads char [] after (.mark char)
  | word (start : isNameStart char = true) (inside : ∀ next ∈ tail, isNameContinue next = true)
      (ends : ∀ next ∈ after.head?, isNameContinue next = false) :
      Reads char tail after (wordKind (char :: tail))

/-! ## Numbers -/

/-- The longest number lies within the characters that occur in numbers. -/
theorem numberLength_le (text : List Char) :
    numberLength text ≤ (text.takeWhile isNumberChar).length := by
  have fold : ∀ (step : Nat → (List Char → Option (List Char)) → Nat) (length : Nat),
      (∀ longest skip, longest ≤ length → step longest skip ≤ length) →
      ∀ (forms : List (List Char → Option (List Char))) (longest : Nat),
        longest ≤ length → forms.foldl step longest ≤ length := by
    intro step length kept forms
    induction forms with
    | nil => exact fun _ bound => bound
    | cons skip forms induction =>
        intro longest bound
        rw [List.foldl_cons]
        exact induction _ (kept longest skip bound)
  rw [numberLength]
  apply fold _ _ _ _ _ (Nat.zero_le _)
  intro longest skip bound
  cases skip (text.takeWhile isNumberChar) with
  | none => exact bound
  | some rest => simp only; omega

theorem numberLength_congr {text other : List Char}
    (same : text.takeWhile isNumberChar = other.takeWhile isNumberChar) :
    numberLength text = numberLength other := by
  simp only [numberLength, same]

/-! ## Agreement with the lexer -/

private theorem ne_of_isDigit {char : Char} (begins : char = '.' ∨ char.isDigit = true) :
    char ≠ '\n' ∧ char ≠ '\x00' ∧ char ≠ '"' ∧ char ≠ '`' ∧ char ≠ '\'' ∧ char ≠ '/' := by
  refine ⟨?_, ?_, ?_, ?_, ?_, ?_⟩ <;>
    (intro equal; subst equal; revert begins; decide)

private theorem noDigit_of_isMark {char : Char} (marked : isMark char = true) :
    char.isDigit = false ∧ isNameStart char = false := by
  rw [isMark, List.contains_iff_mem] at marked
  have checked := (List.all_eq_true (p := fun mark => !mark.isDigit && !isNameStart mark)).mp
    (by decide) char marked
  simpa using checked

private theorem ne_of_isMark {char : Char} (marked : isMark char = true) :
    char ≠ '\n' ∧ char ≠ '\x00' ∧ char ≠ '"' ∧ char ≠ '`' ∧ char ≠ '\'' := by
  refine ⟨?_, ?_, ?_, ?_, ?_⟩ <;>
    (intro equal; subst equal; revert marked; decide)

private theorem isDigit_of_isNameStart {char : Char} (start : isNameStart char = true) :
    char.isDigit = false := by
  unfold isNameStart at start
  rw [← Bool.not_eq_true]
  intro digit
  have range : 48 ≤ char.toNat ∧ char.toNat ≤ 57 := by
    simp only [Char.isDigit, Bool.and_eq_true, decide_eq_true_eq, ge_iff_le] at digit
    exact digit
  rw [if_pos (by omega)] at start
  unfold Char.isAlpha Char.isUpper Char.isLower at start
  simp only [Bool.or_eq_true, Bool.and_eq_true, decide_eq_true_eq, beq_iff_eq] at start
  rcases start with (upper | lower) | rfl
  · have : 65 ≤ char.toNat := upper.1
    omega
  · have : 97 ≤ char.toNat := lower.1
    omega
  · revert range
    decide

private theorem ne_of_isNameStart {char : Char} (start : isNameStart char = true) :
    char ≠ '\n' ∧ char ≠ '\x00' ∧ char ≠ '"' ∧ char ≠ '`' ∧ char ≠ '\'' ∧ char ≠ '/' ∧
      char ≠ '.' := by
  refine ⟨?_, ?_, ?_, ?_, ?_, ?_, ?_⟩ <;>
    (intro equal; subst equal; revert start; decide)

private theorem isMark_of_isNameStart {char : Char} (start : isNameStart char = true) :
    isMark char = false := by
  rw [← Bool.not_eq_true]
  intro marked
  rw [(noDigit_of_isMark marked).2] at start
  cases start

/-- The lexer reads every token. -/
theorem Reads.nextToken? {char : Char} {tail after : List Char} {kind : TokenKind}
    (reads : Reads char tail after kind) :
    Go.nextToken? char (tail ++ after) = some (kind, tail.length + 1) := by
  cases reads with
  | lineEnd => rfl
  | nul => rfl
  | interpreted body =>
      simp [Go.nextToken?, body.length, Nat.add_comm]
  | raw body =>
      simp [Go.nextToken?, body.length, Nat.add_comm]
  | rune body => simp [Go.nextToken?, body.length]
  | comment comments =>
      have length := comments.length
      rw [List.cons_append] at length
      simp [Go.nextToken?, length]
  | slash noComment => simp [Go.nextToken?, noComment]
  | number begins length =>
      simp [Go.nextToken?, ne_of_isDigit begins, length, begins]
  | point begins length =>
      simp [Go.nextToken?, ne_of_isDigit begins, length, begins]
  | mark isMark noSlash noPoint =>
      simp [Go.nextToken?, ne_of_isMark isMark, noDigit_of_isMark isMark, noSlash, noPoint, isMark]
  | word start inside ends =>
      have run := takeWhile_append_eq_iff.mpr ⟨inside, ends⟩
      simp [Go.nextToken?, ne_of_isNameStart start, isMark_of_isNameStart start,
        isDigit_of_isNameStart start, start, run]

/-- Whatever the lexer reads is a token. -/
theorem exists_reads_of_nextToken? {char : Char} {rest : List Char} {kind : TokenKind}
    {length : Nat} (read : Go.nextToken? char rest = some (kind, length)) :
    ∃ tail after, rest = tail ++ after ∧ length = tail.length + 1 ∧ Reads char tail after kind := by
  unfold Go.nextToken? at read
  split_ifs at read with isLineEnd isNul isQuote isBackquote isSingle isSlash isNumber marked start
  · rcases Prod.mk.inj (Option.some.inj read) with ⟨rfl, rfl⟩
    rcases beq_iff_eq.mp isLineEnd with rfl
    exact ⟨[], rest, rfl, rfl, .lineEnd⟩
  · rcases Prod.mk.inj (Option.some.inj read) with ⟨rfl, rfl⟩
    rcases beq_iff_eq.mp isNul with rfl
    exact ⟨[], rest, rfl, rfl, .nul⟩
  · rcases Option.map_eq_some_iff.mp read with ⟨total, measured, equal⟩
    rcases Prod.mk.inj equal with ⟨rfl, rfl⟩
    rcases beq_iff_eq.mp isQuote with rfl
    rcases exists_of_interpretedLength? measured with ⟨known, tail, after, rfl, isNil, rfl, body⟩
    rcases List.length_eq_zero_iff.mp isNil with rfl
    exact ⟨tail, after, rfl, by simp; omega, .interpreted body⟩
  · rcases Option.map_eq_some_iff.mp read with ⟨total, measured, equal⟩
    rcases Prod.mk.inj equal with ⟨rfl, rfl⟩
    rcases beq_iff_eq.mp isBackquote with rfl
    rcases exists_of_rawLength? measured with ⟨tail, after, rfl, rfl, body⟩
    exact ⟨tail, after, rfl, by omega, .raw body⟩
  · rcases Option.map_eq_some_iff.mp read with ⟨total, measured, equal⟩
    rcases Prod.mk.inj equal with ⟨rfl, rfl⟩
    rcases beq_iff_eq.mp isSingle with rfl
    rcases exists_of_runeLength? measured with ⟨tail, after, rfl, rfl, body⟩
    exact ⟨tail, after, rfl, rfl, .rune body⟩
  · rcases beq_iff_eq.mp isSlash with rfl
    split at read
    · rename_i total measured
      rcases Prod.mk.inj (Option.some.inj read) with ⟨rfl, rfl⟩
      rcases exists_of_commentLength? measured with ⟨comment, after, cut, rfl, comments⟩
      cases comments with
      | line stays ends =>
          rcases (List.cons.inj cut).2 with rfl
          exact ⟨_, after, rfl, rfl, .comment (.line stays ends)⟩
      | block block =>
          rcases (List.cons.inj cut).2 with rfl
          exact ⟨_, after, rfl, rfl, .comment (.block block)⟩
    · rename_i noComment
      rcases Prod.mk.inj (Option.some.inj read) with ⟨rfl, rfl⟩
      exact ⟨[], rest, rfl, rfl, .slash noComment⟩
  · have begins : char = '.' ∨ char.isDigit = true := by simpa using isNumber
    split at read
    · rename_i noNumber
      rcases Prod.mk.inj (Option.some.inj read) with ⟨rfl, rfl⟩
      exact ⟨[], rest, rfl, rfl, .point begins noNumber⟩
    · rename_i positive
      rcases Prod.mk.inj (Option.some.inj read) with ⟨rfl, rfl⟩
      rcases Nat.exists_eq_succ_of_ne_zero positive with ⟨count, counted⟩
      have bound := (numberLength_le (char :: rest)).trans
        (List.takeWhile_sublist isNumberChar (l := char :: rest)).length_le
      rw [counted, List.length_cons] at bound
      have taken : (rest.take count).length = count := by
        rw [List.length_take]
        omega
      refine ⟨rest.take count, rest.drop count, (List.take_append_drop ..).symm, ?_, ?_⟩
      · rw [taken, counted]
      · refine .number begins ?_
        rw [List.take_append_drop, taken, counted]
  · rcases Prod.mk.inj (Option.some.inj read) with ⟨rfl, rfl⟩
    simp only [Bool.or_eq_true, beq_iff_eq, not_or] at isSlash isNumber
    exact ⟨[], rest, rfl, rfl, .mark marked isSlash isNumber.1⟩
  · rcases Prod.mk.inj (Option.some.inj read) with ⟨rfl, rfl⟩
    have cut := List.takeWhile_append_dropWhile (p := isNameContinue) (l := rest)
    rcases takeWhile_border isNameContinue rest with ⟨inside, ends⟩
    exact ⟨_, _, cut.symm, rfl, .word start inside ends⟩

/-! ## What stands behind a token -/

/-- Two texts before which the same tokens end: no number and no word goes on
into either, and a line comment goes on into both or neither. -/
structure SameBorder (after other : List Char) : Prop where
  stops : ∀ char ∈ after.head?, isNumberChar char = false ∧ isNameContinue char = false
  otherStops : ∀ char ∈ other.head?, isNumberChar char = false ∧ isNameContinue char = false
  line : (∀ char ∈ after.head?, staysOnLine char = false) ↔
    ∀ char ∈ other.head?, staysOnLine char = false

theorem SameBorder.symm {after other : List Char} (border : SameBorder after other) :
    SameBorder other after :=
  ⟨border.otherStops, border.stops, border.line.symm⟩

private theorem Comments.transfer {comment rest after other : List Char}
    (border : SameBorder after other) (comments : Comments comment (rest ++ after)) :
    Comments comment (rest ++ other) := by
  cases comments with
  | line stays ends =>
      refine .line stays ?_
      cases rest with
      | nil => exact border.line.mp ends
      | cons => exact ends
  | block block => exact .block block

/-- A token stays one when the text behind it changes into one with the same
border, except that a slash must not begin a comment there. -/
theorem Reads.transfer {char : Char} {tail rest after other : List Char} {kind : TokenKind}
    (border : SameBorder after other) (reads : Reads char tail (rest ++ after) kind)
    (slash : kind = .mark '/' → commentLength? ('/' :: (rest ++ other)) = none) :
    Reads char tail (rest ++ other) kind := by
  have sameNumber (front : List Char) :
      numberLength (front ++ (rest ++ after)) = numberLength (front ++ (rest ++ other)) := by
    apply numberLength_congr
    rw [← List.append_assoc, takeWhile_append_of_stop _ fun char head => (border.stops char head).1,
      ← List.append_assoc, takeWhile_append_of_stop _ fun char head => (border.otherStops char head).1]
  cases reads with
  | lineEnd => exact .lineEnd
  | nul => exact .nul
  | interpreted body => exact .interpreted body
  | raw body => exact .raw body
  | rune body => exact .rune body
  | comment comments => exact .comment (comments.transfer border)
  | slash => exact .slash (slash rfl)
  | number begins length => exact .number begins ((sameNumber (char :: tail)).symm.trans length)
  | point begins length => exact .point begins ((sameNumber [char]).symm.trans length)
  | mark isMark noSlash noPoint => exact .mark isMark noSlash noPoint
  | word start inside ends =>
      refine .word start inside ?_
      cases rest with
      | nil => exact fun next head => (border.otherStops next head).2
      | cons => exact ends

private theorem wordKind_ne_mark (word : List Char) (char : Char) : wordKind word ≠ .mark char := by
  unfold wordKind
  cases Keyword.ofWord? word <;> simp

theorem Reads.tail_of_mark {char mark : Char} {tail after : List Char}
    (reads : Reads char tail after (.mark mark)) : tail = [] := by
  generalize kindEq : TokenKind.mark mark = kind at reads
  cases reads with
  | slash => rfl
  | point => rfl
  | mark => rfl
  | word => exact absurd kindEq.symm (wordKind_ne_mark _ mark)
  | lineEnd | nul | interpreted | raw | rune | comment | number => cases kindEq

theorem Reads.slash_of_mark {char : Char} {tail after : List Char}
    (reads : Reads char tail after (.mark '/')) :
    char = '/' ∧ commentLength? ('/' :: after) = none := by
  generalize kindEq : TokenKind.mark '/' = kind at reads
  cases reads with
  | slash noComment => exact ⟨rfl, noComment⟩
  | point begins =>
      rw [← TokenKind.mark.inj kindEq] at begins
      exact absurd begins (by decide)
  | mark _ noSlash => exact absurd (TokenKind.mark.inj kindEq).symm noSlash
  | word => exact absurd kindEq.symm (wordKind_ne_mark _ '/')
  | lineEnd | nul | interpreted | raw | rune | comment | number => cases kindEq

private theorem Reads.agree_of_noSlash {char : Char} {tail rest after : List Char}
    {kind : TokenKind} {otherTail otherRest other : List Char} {otherKind : TokenKind}
    (border : SameBorder after other) (reads : Reads char tail (rest ++ after) kind)
    (otherReads : Reads char otherTail (otherRest ++ other) otherKind)
    (same : tail ++ rest = otherTail ++ otherRest) (noSlash : kind ≠ .mark '/') :
    tail = otherTail ∧ kind = otherKind := by
  have moved := (reads.transfer border fun slash => absurd slash noSlash).nextToken?
  have otherToken := otherReads.nextToken?
  rw [← List.append_assoc, same, List.append_assoc, otherToken, Option.some.injEq,
    Prod.mk.injEq] at moved
  refine ⟨(List.append_inj same ?_).1, moved.1.symm⟩
  omega

/-- Of a text that is followed by one or the other text with the same border, the
same characters are the first token, as long as the token ends within the text. -/
theorem Reads.agree {char : Char} {tail rest after : List Char} {kind : TokenKind}
    {otherTail otherRest other : List Char} {otherKind : TokenKind}
    (border : SameBorder after other) (reads : Reads char tail (rest ++ after) kind)
    (otherReads : Reads char otherTail (otherRest ++ other) otherKind)
    (same : tail ++ rest = otherTail ++ otherRest) : tail = otherTail ∧ kind = otherKind := by
  by_cases slash : kind = .mark '/'
  · by_cases otherSlash : otherKind = .mark '/'
    · subst slash otherSlash
      exact ⟨reads.tail_of_mark.trans otherReads.tail_of_mark.symm, rfl⟩
    · rcases Reads.agree_of_noSlash border.symm otherReads reads same.symm otherSlash with
        ⟨tailEq, kindEq⟩
      exact ⟨tailEq.symm, kindEq.symm⟩
  · exact Reads.agree_of_noSlash border reads otherReads same slash

/-- No token but a line end ends in one. -/
theorem Reads.last_ne {char : Char} {tail after : List Char} {kind : TokenKind}
    (reads : Reads char tail after kind) (noLineEnd : kind ≠ .lineEnd) :
    (char :: tail).getLast? ≠ some '\n' := by
  cases reads with
  | lineEnd => exact absurd rfl noLineEnd
  | nul => decide
  | interpreted body => simp [List.getLast?_cons, body.last]
  | raw body => simp [List.getLast?_cons, body.last]
  | rune body => simp [List.getLast?_cons, body.last]
  | comment comments => exact comments.last_ne
  | slash => decide
  | number begins length =>
      intro last
      have bound := numberLength_le (char :: (tail ++ after))
      rw [length] at bound
      have cut : (char :: tail) <+: (char :: (tail ++ after)).takeWhile isNumberChar :=
        List.prefix_of_prefix_length_le ⟨after, rfl⟩ (List.takeWhile_prefix _) bound
      have accepted := List.mem_takeWhile_imp (cut.subset (List.mem_of_getLast? last))
      exact absurd accepted (by decide)
  | point begins =>
      intro last
      have equal : char = '\n' := by simpa using last
      subst equal
      exact absurd begins (by decide)
  | mark isMark =>
      intro last
      have equal : char = '\n' := by simpa using last
      subst equal
      exact absurd isMark (by decide)
  | word start inside =>
      intro last
      rcases List.mem_cons.mp (List.mem_of_getLast? last) with equal | member
      · rw [← equal] at start
        exact absurd start (by decide)
      · exact absurd (inside _ member) (by decide)

/-! ## String literals -/

/-- Whether a text is one string literal. -/
def isStringLiteral : List Char → Bool
  | char :: rest => Go.nextToken? char rest == some (.stringLiteral, rest.length + 1)
  | [] => false

theorem Reads.quote {char : Char} {tail after : List Char}
    (reads : Reads char tail after .stringLiteral) :
    (char = '"' ∧ InterpretedTail tail) ∨ (char = '`' ∧ RawTail tail) := by
  generalize kindEq : TokenKind.stringLiteral = kind at reads
  cases reads with
  | interpreted body => exact .inl ⟨rfl, body⟩
  | raw body => exact .inr ⟨rfl, body⟩
  | word =>
      unfold wordKind at kindEq
      split at kindEq <;> cases kindEq
  | lineEnd | nul | rune | comment | slash | number | point | mark => cases kindEq

/-- A string literal is one whatever follows it. -/
theorem Reads.literal_congr {char : Char} {tail after : List Char}
    (reads : Reads char tail after .stringLiteral) (other : List Char) :
    Reads char tail other .stringLiteral := by
  rcases reads.quote with ⟨rfl, body⟩ | ⟨rfl, body⟩
  · exact .interpreted body
  · exact .raw body

theorem isStringLiteral_iff {text : List Char} (after : List Char) :
    isStringLiteral text = true ↔
      ∃ char tail, text = char :: tail ∧ Reads char tail after .stringLiteral := by
  constructor
  · intro literal
    cases text with
    | nil => cases literal
    | cons char rest =>
        rw [isStringLiteral, beq_iff_eq] at literal
        rcases exists_reads_of_nextToken? literal with ⟨tail, behind, rfl, length, reads⟩
        rw [List.length_append] at length
        have empty : behind = [] := List.length_eq_zero_iff.mp (by omega)
        subst empty
        rw [List.append_nil]
        exact ⟨char, tail, rfl, reads.literal_congr after⟩
  · rintro ⟨char, tail, rfl, reads⟩
    have token := (reads.literal_congr []).nextToken?
    rw [List.append_nil] at token
    rw [isStringLiteral, token]
    exact beq_self_eq_true _

end QueryPipe.Go
