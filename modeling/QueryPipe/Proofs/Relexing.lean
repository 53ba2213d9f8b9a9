import QueryPipe.Proofs.Lexing

/-! Two changes of a source that leave its other lexemes as they are: another
string literal in the place of one, and more or fewer line ends at the end.

The lexer looks ahead without a bound in one case only. A slash and a star begin a
comment if it ends anywhere behind them, and are two marks otherwise; so a new
literal that holds a star and a slash completes such a comment. -/

namespace QueryPipe.Go

/-! ## String literals among lexemes -/

theorem isStringLiteral_of_cuts {after text : List Char} {rest : List Lexeme}
    (cuts : Cuts after (.token .stringLiteral text :: rest)) : isStringLiteral text = true := by
  cases cuts with
  | token begins reads => exact (isStringLiteral_iff _).mpr ⟨_, _, rfl, reads⟩

theorem head?_of_isStringLiteral {text : List Char} (literal : isStringLiteral text = true) :
    text.head? = some '"' ∨ text.head? = some '`' := by
  rcases (isStringLiteral_iff []).mp literal with ⟨char, tail, rfl, reads⟩
  rcases reads.quote with ⟨rfl, -⟩ | ⟨rfl, -⟩
  · exact .inl rfl
  · exact .inr rfl

theorem ne_nil_of_isStringLiteral {text : List Char} (literal : isStringLiteral text = true) :
    text ≠ [] := by
  intro empty
  rw [empty] at literal
  cases literal

theorem getLast?_of_isStringLiteral {text : List Char} (literal : isStringLiteral text = true) :
    text.getLast? = some '"' ∨ text.getLast? = some '`' := by
  rcases (isStringLiteral_iff []).mp literal with ⟨char, tail, rfl, reads⟩
  rcases reads.quote with ⟨rfl, body⟩ | ⟨rfl, body⟩
  · exact .inl (by rw [List.getLast?_cons, body.last]; rfl)
  · exact .inr (by rw [List.getLast?_cons, body.last]; rfl)

theorem noNul_of_isStringLiteral {text : List Char} (literal : isStringLiteral text = true) :
    '\x00' ∉ text := by
  rcases (isStringLiteral_iff []).mp literal with ⟨char, tail, rfl, reads⟩
  rcases reads.quote with ⟨rfl, body⟩ | ⟨rfl, body⟩
  · exact List.not_mem_cons_of_ne_of_not_mem (by decide) body.noNul
  · exact List.not_mem_cons_of_ne_of_not_mem (by decide) body.noNul

theorem cuts_literal_iff {after text : List Char} {rest : List Lexeme} :
    Cuts after (.token .stringLiteral text :: rest) ↔
      isStringLiteral text = true ∧ Cuts after rest := by
  constructor
  · intro cuts
    refine ⟨isStringLiteral_of_cuts cuts, ?_⟩
    cases cuts with
    | token _ _ cuts => exact cuts
  · rintro ⟨literal, cuts⟩
    rcases (isStringLiteral_iff (spelling rest ++ after)).mp literal with ⟨char, tail, rfl, reads⟩
    refine .token (.inl ?_) reads cuts
    rcases reads.quote with ⟨rfl, -⟩ | ⟨rfl, -⟩ <;> rfl

theorem Cuts.rest {after : List Char} {lexeme : Lexeme} {rest : List Lexeme}
    (cuts : Cuts after (lexeme :: rest)) : Cuts after rest := by
  cases cuts <;> assumption

private theorem quote_border {text : List Char}
    (quoted : text.head? = some '"' ∨ text.head? = some '`') :
    (∀ char ∈ text.head?, isNumberChar char = false ∧ isNameContinue char = false) ∧
      ¬ ∀ char ∈ text.head?, staysOnLine char = false := by
  have ofQuote (quote : Char) (head : text.head? = some quote)
      (stops : isNumberChar quote = false ∧ isNameContinue quote = false)
      (stays : staysOnLine quote = true) :
      (∀ char ∈ text.head?, isNumberChar char = false ∧ isNameContinue char = false) ∧
        ¬ ∀ char ∈ text.head?, staysOnLine char = false := by
    constructor
    · intro char isHead
      rcases Option.some.inj (head.symm.trans isHead) with rfl
      exact stops
    · intro none
      have leaves := none quote head
      rw [stays] at leaves
      cases leaves
  rcases quoted with head | head
  · exact ofQuote '"' head (by decide) (by decide)
  · exact ofQuote '`' head (by decide) (by decide)

theorem sameBorder_of_quotes {after other : List Char}
    (quoted : after.head? = some '"' ∨ after.head? = some '`')
    (otherQuoted : other.head? = some '"' ∨ other.head? = some '`') : SameBorder after other where
  stops := (quote_border quoted).1
  otherStops := (quote_border otherQuoted).1
  line := iff_of_false (quote_border quoted).2 (quote_border otherQuoted).2

theorem head?_literal_append {text : List Char} (literal : isStringLiteral text = true)
    (rest : List Char) : (text ++ rest).head? = some '"' ∨ (text ++ rest).head? = some '`' := by
  rcases head?_of_isStringLiteral literal with head | head
  · exact .inl (by rw [List.head?_append, head]; rfl)
  · exact .inr (by rw [List.head?_append, head]; rfl)

/-! ## Slashes -/

/-- A slash stands for itself if no line comment begins with it and no block
comment that begins with it ends. -/
theorem commentLength?_slash_eq_none_iff {text : List Char} :
    commentLength? ('/' :: text) = none ↔
      text.head? ≠ some '/' ∧ ∀ inside, text = '*' :: inside → ¬ closesComment inside := by
  cases text with
  | nil => simp [commentLength?]
  | cons char rest =>
      by_cases isSlash : char = '/'
      · subst isSlash
        simp [commentLength?]
      · by_cases isStar : char = '*'
        · subst isStar
          simp [commentLength?, blockCommentLength?_eq_none_iff]
        · simp [commentLength?, isSlash, isStar]

private theorem slash_congr {back after other : List Char}
    (noComment : commentLength? ('/' :: (back ++ after)) = none)
    (noSlash : other.head? ≠ some '/') (noStar : other.head? ≠ some '*')
    (blocks : ∀ inside, back = '*' :: inside → ¬ closesComment (inside ++ after) →
      ¬ closesComment (inside ++ other)) : commentLength? ('/' :: (back ++ other)) = none := by
  rw [commentLength?_slash_eq_none_iff] at noComment ⊢
  cases back with
  | nil =>
      refine ⟨noSlash, ?_⟩
      rintro inside rfl
      exact absurd rfl noStar
  | cons char back =>
      refine ⟨noComment.1, ?_⟩
      intro inside equal
      rcases List.cons.inj equal with ⟨rfl, rfl⟩
      exact blocks back rfl (noComment.2 _ rfl)

/-- Whether a slash and a star among the lexemes begin a comment that the text
behind the lexemes may end. -/
def leavesCommentOpen (lexemes : List Lexeme) : Prop :=
  ∃ front back inside, lexemes = front ++ .token (.mark '/') ['/'] :: back ∧
    spelling back = '*' :: inside ∧ '\x00' ∉ inside

theorem Cuts.text_of_slash {after text : List Char} {rest : List Lexeme}
    (cuts : Cuts after (.token (.mark '/') text :: rest)) : text = ['/'] := by
  cases cuts with
  | token _ reads =>
      rcases reads.tail_of_mark with rfl
      rcases reads.slash_of_mark with ⟨rfl, -⟩
      rfl

theorem leavesCommentOpen_cons (lexeme : Lexeme) (rest : List Lexeme) :
    leavesCommentOpen (lexeme :: rest) ↔
      (lexeme = .token (.mark '/') ['/'] ∧ (spelling rest).head? = some '*' ∧
        '\x00' ∉ spelling rest) ∨ leavesCommentOpen rest := by
  constructor
  · intro isOpen
    rcases isOpen with ⟨front, back, inside, equal, starts, noNul⟩
    cases front with
    | nil =>
        rcases List.cons.inj equal with ⟨rfl, rfl⟩
        exact .inl ⟨rfl, by rw [starts]; rfl, by rw [starts]; simpa using noNul⟩
    | cons first front =>
        rcases List.cons.inj equal with ⟨rfl, rfl⟩
        exact .inr ⟨front, back, inside, rfl, starts, noNul⟩
  · intro either
    rcases either with ⟨rfl, star, noNul⟩ | ⟨front, back, inside, rfl, starts, noNul⟩
    · rcases List.head?_eq_some_iff.mp star with ⟨inside, starts⟩
      rw [starts] at noNul
      exact ⟨[], rest, inside, rfl, starts, fun member => noNul (List.mem_cons_of_mem _ member)⟩
    · exact ⟨lexeme :: front, back, inside, rfl, starts, noNul⟩

private theorem closesComment_literal {inside text after : List Char}
    (literal : isStringLiteral text = true) :
    closesComment (inside ++ (text ++ after)) ↔
      closesComment inside ∨ '\x00' ∉ inside ∧ (closesComment text ∨ closesComment after) := by
  have apart : inside.getLast? = some '*' → (text ++ after).head? ≠ some '/' := by
    intro _
    rcases head?_literal_append literal after with head | head <;> rw [head] <;> decide
  have textApart : text.getLast? = some '*' → after.head? ≠ some '/' := by
    intro last
    rcases getLast?_of_isStringLiteral literal with quote | quote <;> rw [quote] at last <;> cases last
  rw [closesComment_append apart, closesComment_append textApart]
  simp [noNul_of_isStringLiteral literal]

/-- A literal behind an open comment does not end it. -/
theorem Cuts.not_closesComment {first second : List Lexeme} {text : List Char}
    (cuts : Cuts [] (first ++ .token .stringLiteral text :: second))
    (isOpen : leavesCommentOpen first) : ¬ closesComment text := by
  rcases isOpen with ⟨front, back, inside, rfl, starts, noNul⟩
  rcases cuts_append_iff.mp cuts with ⟨-, behind⟩
  have literal := isStringLiteral_of_cuts behind
  rw [List.append_assoc, List.cons_append, cuts_append_iff] at cuts
  cases cuts.2 with
  | token _ reads =>
      have noComment := reads.slash_of_mark.2
      rw [List.append_nil, spelling_append, starts, spelling_cons, Lexeme.text, List.cons_append,
        commentLength?_slash_eq_none_iff] at noComment
      have stays := noComment.2 _ rfl
      rw [closesComment_literal literal] at stays
      intro closes
      exact stays (.inr ⟨noNul, .inl closes⟩)

/-- A string literal may take the place of another one, unless it ends a comment
that is open before it. -/
theorem Cuts.replace {first second : List Lexeme} {text literal : List Char}
    (cuts : Cuts [] (first ++ .token .stringLiteral text :: second))
    (isLiteral : isStringLiteral literal = true)
    (closed : leavesCommentOpen first → ¬ closesComment literal) :
    Cuts [] (first ++ .token .stringLiteral literal :: second) := by
  rcases cuts_append_iff.mp cuts with ⟨cutsFirst, cutsText⟩
  rcases cuts_literal_iff.mp cutsText with ⟨isText, cutsSecond⟩
  rw [cuts_append_iff]
  refine ⟨?_, cuts_literal_iff.mpr ⟨isLiteral, cutsSecond⟩⟩
  rw [List.append_nil, spelling_cons, Lexeme.text] at cutsFirst ⊢
  have head := head?_literal_append isLiteral (spelling second)
  refine cutsFirst.transfer (sameBorder_of_quotes (head?_literal_append isText _) head) ?_
  rintro front back rfl noComment
  refine slash_congr noComment ?_ ?_ ?_
  · rcases head with head | head <;> rw [head] <;> decide
  · rcases head with head | head <;> rw [head] <;> decide
  · intro inside starts stays
    rw [closesComment_literal isText] at stays
    rw [closesComment_literal isLiteral]
    rintro (closes | ⟨noNul, closes | closes⟩)
    · exact stays (.inl closes)
    · exact closed ⟨front, back, inside, rfl, starts, noNul⟩ closes
    · exact stays (.inr ⟨noNul, .inr closes⟩)

/-! ## Lexemes with other literals -/

/-- The same lexemes, but for the texts of string literals. -/
inductive AlikeButLiterals : List Lexeme → List Lexeme → Prop
  | nil : AlikeButLiterals [] []
  | same {lexemes others : List Lexeme} (lexeme : Lexeme) :
      AlikeButLiterals lexemes others → AlikeButLiterals (lexeme :: lexemes) (lexeme :: others)
  | literal {lexemes others : List Lexeme} {text other : List Char}
      (isText : isStringLiteral text = true) (isOther : isStringLiteral other = true) :
      AlikeButLiterals lexemes others →
      AlikeButLiterals (.token .stringLiteral text :: lexemes) (.token .stringLiteral other :: others)

namespace AlikeButLiterals

theorem refl (lexemes : List Lexeme) : AlikeButLiterals lexemes lexemes := by
  induction lexemes with
  | nil => exact .nil
  | cons lexeme lexemes induction => exact .same lexeme induction

theorem append {first other second otherSecond : List Lexeme}
    (alike : AlikeButLiterals first other) (later : AlikeButLiterals second otherSecond) :
    AlikeButLiterals (first ++ second) (other ++ otherSecond) := by
  induction alike with
  | nil => exact later
  | same lexeme _ induction => exact .same lexeme induction
  | literal isText isOther _ induction => exact .literal isText isOther induction

private theorem noNul {lexemes others : List Lexeme} (alike : AlikeButLiterals lexemes others)
    (none : '\x00' ∉ spelling lexemes) : '\x00' ∉ spelling others := by
  induction alike with
  | nil => exact none
  | same lexeme _ induction =>
      rw [spelling_cons, List.mem_append, not_or] at none ⊢
      exact ⟨none.1, induction none.2⟩
  | literal _ isOther _ induction =>
      rw [spelling_cons, List.mem_append, not_or] at none ⊢
      exact ⟨noNul_of_isStringLiteral isOther, induction none.2⟩

private theorem head? {after : List Char} {lexemes others : List Lexeme}
    (alike : AlikeButLiterals lexemes others) (cuts : Cuts after lexemes)
    (star : (spelling lexemes).head? = some '*') : (spelling others).head? = some '*' := by
  cases alike with
  | nil => exact star
  | same lexeme =>
      rcases List.exists_cons_of_ne_nil cuts.text_ne_nil with ⟨char, tail, text⟩
      rw [spelling_cons, text] at star ⊢
      exact star
  | @literal _ _ text _ isText =>
      rw [spelling_cons, Lexeme.text] at star
      rcases head?_literal_append isText (spelling _) with quote | quote <;> rw [quote] at star <;>
        cases star

/-- String literals hold no NUL and begin with no star, so they leave the same
comments open. -/
theorem leavesCommentOpen {after : List Char} {lexemes others : List Lexeme}
    (alike : AlikeButLiterals lexemes others) (cuts : Cuts after lexemes)
    (isOpen : Go.leavesCommentOpen lexemes) : Go.leavesCommentOpen others := by
  induction alike with
  | nil => exact isOpen
  | same lexeme alike induction =>
      rw [leavesCommentOpen_cons] at isOpen ⊢
      rcases isOpen with ⟨isSlash, star, none⟩ | isOpen
      · exact .inl ⟨isSlash, alike.head? cuts.rest star, alike.noNul none⟩
      · exact .inr (induction cuts.rest isOpen)
  | literal isText isOther alike induction =>
      rw [leavesCommentOpen_cons] at isOpen ⊢
      rcases isOpen with ⟨isSlash, -⟩ | isOpen
      · cases isSlash
      · exact .inr (induction cuts.rest isOpen)

end AlikeButLiterals

/-! ## Line ends at the end -/

/-- A number of line ends. -/
def lineEnds (count : Nat) : List Lexeme := List.replicate count (.token .lineEnd ['\n'])

@[simp] theorem spelling_lineEnds (count : Nat) :
    spelling (lineEnds count) = List.replicate count '\n' := by
  induction count with
  | zero => rfl
  | succ count induction =>
      rw [lineEnds, List.replicate_succ, spelling_cons, ← lineEnds, induction]
      rfl

private theorem cuts_lineEnds (count : Nat) : Cuts [] (lineEnds count) := by
  induction count with
  | zero => exact .nil
  | succ count induction => exact .token (.inr rfl) .lineEnd induction

private theorem not_closesComment_lineEnds (count : Nat) :
    ¬ closesComment (List.replicate count '\n') := by
  intro closes
  have noNul : '\x00' ∉ List.replicate count '\n' := by
    intro member
    cases List.eq_of_mem_replicate member
  rw [closesComment_iff_starSlash noNul] at closes
  cases List.eq_of_mem_replicate (closes.subset (List.mem_cons_self ..))

private theorem eq_of_head?_replicate {count : Nat} {line char : Char}
    (head : char ∈ (List.replicate count line).head?) : char = line :=
  List.eq_of_mem_replicate (List.mem_of_head? head)

private theorem sameBorder_lineEnds (count other : Nat) :
    SameBorder (List.replicate count '\n') (List.replicate other '\n') := by
  have stops (count : Nat) : ∀ char ∈ (List.replicate count '\n').head?,
      isNumberChar char = false ∧ isNameContinue char = false := by
    intro char head
    rw [eq_of_head?_replicate head]
    decide
  have line (count : Nat) : ∀ char ∈ (List.replicate count '\n').head?,
      staysOnLine char = false := by
    intro char head
    rw [eq_of_head?_replicate head]
    decide
  exact ⟨stops count, stops other, iff_of_true (line count) (line other)⟩

private theorem closesComment_append_lineEnds (inside : List Char) (count : Nat) :
    closesComment (inside ++ List.replicate count '\n') ↔ closesComment inside := by
  rw [closesComment_append]
  · simp [not_closesComment_lineEnds]
  · intro _ head
    cases eq_of_head?_replicate head

/-- Line ends at the end may be added and left out. -/
theorem Cuts.change_lineEnds {first : List Lexeme} {count : Nat}
    (cuts : Cuts [] (first ++ lineEnds count)) (other : Nat) :
    Cuts [] (first ++ lineEnds other) := by
  rcases cuts_append_iff.mp cuts with ⟨cutsFirst, -⟩
  refine cuts_append_iff.mpr ⟨?_, cuts_lineEnds other⟩
  rw [List.append_nil, spelling_lineEnds] at cutsFirst ⊢
  refine cutsFirst.transfer (sameBorder_lineEnds count other) ?_
  rintro front back rfl noComment
  refine slash_congr noComment ?_ ?_ ?_
  · intro head
    cases eq_of_head?_replicate head
  · intro head
    cases eq_of_head?_replicate head
  · intro inside _ stays
    rw [closesComment_append_lineEnds] at stays ⊢
    exact stays

private theorem Cuts.eq_lineEnd {after : List Char} {lexeme : Lexeme} {rest : List Lexeme}
    (cuts : Cuts after (lexeme :: rest)) (last : lexeme.text.getLast? = some '\n') :
    lexeme = .token .lineEnd ['\n'] := by
  cases cuts with
  | space _ sameLine => exact absurd (Option.some.inj last) sameLine
  | @token _ _ _ kind _ reads =>
      by_cases isLineEnd : kind = .lineEnd
      · subst isLineEnd
        generalize kindEq : TokenKind.lineEnd = kind at reads
        cases reads with
        | lineEnd => rfl
        | word =>
            unfold wordKind at kindEq
            split at kindEq <;> cases kindEq
        | nul | interpreted | raw | rune | comment | slash | number | point | mark => cases kindEq
      · exact absurd last (reads.last_ne isLineEnd)

private theorem Cuts.eq_nil {after : List Char} {lexemes : List Lexeme} (cuts : Cuts after lexemes)
    (empty : spelling lexemes = []) : lexemes = [] := by
  cases lexemes with
  | nil => rfl
  | cons lexeme rest => exact absurd (List.append_eq_nil_iff.mp empty).1 cuts.text_ne_nil

/-- The line ends at the end of a text are lexemes of their own. -/
theorem Cuts.exists_lineEnds {lexemes : List Lexeme} (cuts : Cuts [] lexemes) {body : List Char}
    {count : Nat} (spelled : spelling lexemes = body ++ List.replicate count '\n')
    (bodyEnds : body.getLast? ≠ some '\n') :
    ∃ first, lexemes = first ++ lineEnds count ∧ spelling first = body := by
  induction lexemes generalizing body count with
  | nil =>
      rcases List.append_eq_nil_iff.mp spelled.symm with ⟨rfl, noEnds⟩
      rcases List.replicate_eq_nil_iff '\n' |>.mp noEnds with rfl
      exact ⟨[], rfl, rfl⟩
  | cons lexeme rest induction =>
      rw [spelling_cons] at spelled
      rcases List.append_eq_append_iff.mp spelled with ⟨within, rfl, restEq⟩ | ⟨beyond, textEq, ends⟩
      · -- The first lexeme lies in the body.
        have withinEnds : within.getLast? ≠ some '\n' := by
          intro last
          exact bodyEnds (by rw [List.getLast?_append, last]; rfl)
        rcases induction cuts.rest restEq withinEnds with ⟨first, rfl, rfl⟩
        exact ⟨lexeme :: first, rfl, rfl⟩
      · cases last : beyond.getLast? with
        | none =>
            rcases List.getLast?_eq_none_iff.mp last with rfl
            rw [List.append_nil] at textEq
            have restEq : spelling rest = [] ++ List.replicate count '\n' := ends.symm
            rcases induction cuts.rest restEq (by simp) with ⟨first, rfl, empty⟩
            exact ⟨lexeme :: first, rfl, by rw [spelling_cons, empty, textEq, List.append_nil]⟩
        | some char =>
            -- The first lexeme reaches into the line ends, so it is the first of them.
            have member : char ∈ List.replicate count '\n' := by
              rw [ends]
              exact List.mem_append_left _ (List.mem_of_getLast? last)
            rcases List.eq_of_mem_replicate member with rfl
            have isLineEnd := cuts.eq_lineEnd (by rw [textEq, List.getLast?_append, last]; rfl)
            subst isLineEnd
            have bodyNil : body = [] := by
              cases body with
              | nil => rfl
              | cons char body =>
                  rcases List.append_eq_nil_iff.mp (List.cons.inj textEq).2.symm with ⟨-, rfl⟩
                  cases last
            subst bodyNil
            rw [List.nil_append] at textEq
            rw [← textEq] at ends
            cases count with
            | zero => cases ends
            | succ count =>
                have restEq : spelling rest = [] ++ List.replicate count '\n' :=
                  (List.cons.inj ends).2.symm
                rcases induction cuts.rest restEq (by simp) with ⟨first, rfl, empty⟩
                rcases (cuts_append_iff.mp cuts.rest).1.eq_nil empty with rfl
                exact ⟨[], rfl, rfl⟩

end QueryPipe.Go
