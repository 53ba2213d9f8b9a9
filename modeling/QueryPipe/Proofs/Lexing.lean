import QueryPipe.Proofs.ByteOffsets
import QueryPipe.Proofs.TokenReading

/-! A source as a row of lexemes. Lexemes carry no offsets, so that the two
sources of an edit can be compared lexeme by lexeme; the tokens of the lexer are
the lexemes with their places. -/

namespace QueryPipe.Go

open Text.Utf8 (byteLength)

/-- A stretch of a source: a character that only separates, or a token. -/
inductive Lexeme where
  | space (char : Char)
  | token (kind : TokenKind) (text : List Char)
deriving DecidableEq, Repr

def Lexeme.text : Lexeme → List Char
  | space char => [char]
  | token _ text => text

/-- The characters of lexemes. -/
def spelling (lexemes : List Lexeme) : List Char := lexemes.flatMap Lexeme.text

/-- The tokens of lexemes that begin at a byte offset. -/
def tokensFrom : (offset : Nat) → List Lexeme → List Token
  | _, [] => []
  | offset, .space char :: rest => tokensFrom (offset + char.utf8Size) rest
  | offset, .token kind text :: rest =>
    ⟨kind, offset, offset + byteLength text, text⟩ :: tokensFrom (offset + byteLength text) rest

/-- The lexer cuts a text into these lexemes where `after` follows. -/
inductive Cuts (after : List Char) : List Lexeme → Prop
  | nil : Cuts after []
  | space (blank : isSpace char = true) (sameLine : char ≠ '\n') :
      Cuts after rest → Cuts after (.space char :: rest)
  | token (begins : isSpace char = false ∨ char = '\n')
      (reads : Reads char tail (spelling rest ++ after) kind) :
      Cuts after rest → Cuts after (.token kind (char :: tail) :: rest)

@[simp] theorem spelling_nil : spelling [] = [] := rfl

@[simp] theorem spelling_cons (lexeme : Lexeme) (rest : List Lexeme) :
    spelling (lexeme :: rest) = lexeme.text ++ spelling rest := rfl

@[simp] theorem spelling_append (first second : List Lexeme) :
    spelling (first ++ second) = spelling first ++ spelling second := by
  simp [spelling]

theorem tokensFrom_append (offset : Nat) (first second : List Lexeme) :
    tokensFrom offset (first ++ second) =
      tokensFrom offset first ++ tokensFrom (offset + byteLength (spelling first)) second := by
  induction first generalizing offset with
  | nil => rfl
  | cons lexeme first induction =>
      cases lexeme with
      | space char =>
          simp only [List.cons_append, tokensFrom, induction, spelling_cons, Lexeme.text,
            List.nil_append, Text.Utf8.byteLength_cons, Nat.add_assoc]
      | token kind text =>
          simp only [List.cons_append, tokensFrom, induction, spelling_cons, Lexeme.text,
            Text.Utf8.byteLength_append, Nat.add_assoc]

theorem mem_tokensFrom {offset : Nat} {lexemes : List Lexeme} {token : Token}
    (member : token ∈ tokensFrom offset lexemes) :
    ∃ front back, lexemes = front ++ .token token.kind token.text :: back ∧
      token.start = offset + byteLength (spelling front) ∧
      token.stop = token.start + byteLength token.text := by
  induction lexemes generalizing offset with
  | nil => cases member
  | cons lexeme lexemes induction =>
      cases lexeme with
      | space char =>
          rcases induction member with ⟨front, back, rfl, start, stop⟩
          refine ⟨.space char :: front, back, rfl, ?_, stop⟩
          simp only [start, spelling_cons, Lexeme.text, Text.Utf8.byteLength_append,
            Text.Utf8.byteLength_cons, Text.Utf8.byteLength_nil]
          omega
      | token kind text =>
          rcases List.mem_cons.mp member with rfl | member
          · exact ⟨[], lexemes, rfl, rfl, rfl⟩
          · rcases induction member with ⟨front, back, rfl, start, stop⟩
            refine ⟨.token kind text :: front, back, rfl, ?_, stop⟩
            simp only [start, spelling_cons, Lexeme.text, Text.Utf8.byteLength_append]
            omega

/-! ## Putting together and taking apart -/

theorem cuts_append_iff {after : List Char} {first second : List Lexeme} :
    Cuts after (first ++ second) ↔ Cuts (spelling second ++ after) first ∧ Cuts after second := by
  induction first with
  | nil =>
      constructor
      · intro cuts
        exact ⟨.nil, cuts⟩
      · intro both
        exact both.2
  | cons lexeme first induction =>
      constructor
      · intro cuts
        cases cuts with
        | space blank sameLine cuts =>
            rcases induction.mp cuts with ⟨cutsFirst, cutsSecond⟩
            exact ⟨.space blank sameLine cutsFirst, cutsSecond⟩
        | token begins reads cuts =>
            rcases induction.mp cuts with ⟨cutsFirst, cutsSecond⟩
            have together : spelling (first ++ second) ++ after =
                spelling first ++ (spelling second ++ after) := by simp
            rw [List.append_eq, together] at reads
            exact ⟨.token begins reads cutsFirst, cutsSecond⟩
      · rintro ⟨cuts, cutsSecond⟩
        cases cuts with
        | space blank sameLine cuts =>
            exact .space blank sameLine (induction.mpr ⟨cuts, cutsSecond⟩)
        | token begins reads cuts =>
            rw [← List.append_assoc, ← spelling_append] at reads
            exact .token begins reads (induction.mpr ⟨cuts, cutsSecond⟩)

/-- The lexemes stay when the text behind them changes into one with the same
border, unless it completes a comment that one of their slashes begins. -/
theorem Cuts.transfer {after other : List Char} {lexemes : List Lexeme} (cuts : Cuts after lexemes)
    (border : SameBorder after other)
    (slashes : ∀ front back, lexemes = front ++ .token (.mark '/') ['/'] :: back →
      commentLength? ('/' :: (spelling back ++ after)) = none →
      commentLength? ('/' :: (spelling back ++ other)) = none) : Cuts other lexemes := by
  induction cuts with
  | nil => exact .nil
  | @space char rest blank sameLine _ induction =>
      refine .space blank sameLine (induction ?_)
      intro front back equal
      exact slashes (.space char :: front) back (by rw [equal]; rfl)
  | @token char tail rest kind begins reads _ induction =>
      refine .token begins (reads.transfer border ?_) (induction ?_)
      · rintro rfl
        rcases reads.tail_of_mark with rfl
        rcases reads.slash_of_mark with ⟨rfl, noComment⟩
        exact slashes [] rest rfl noComment
      · intro front back equal
        exact slashes (.token kind (char :: tail) :: front) back (by rw [equal]; rfl)

theorem Cuts.text_ne_nil {after : List Char} {lexeme : Lexeme} {rest : List Lexeme}
    (cuts : Cuts after (lexeme :: rest)) : lexeme.text ≠ [] := by
  cases cuts <;> simp [Lexeme.text]

/-- A text has one row of lexemes, before any text with the same border. -/
theorem Cuts.unique {after other : List Char} {first second : List Lexeme}
    (cuts : Cuts after first) (otherCuts : Cuts other second) (border : SameBorder after other)
    (same : spelling first = spelling second) : first = second := by
  induction cuts generalizing second with
  | nil =>
      cases second with
      | nil => rfl
      | cons lexeme rest =>
          rw [spelling_nil, spelling_cons] at same
          exact absurd (List.append_eq_nil_iff.mp same.symm).1 otherCuts.text_ne_nil
  | @space char rest blank sameLine _ induction =>
      cases otherCuts with
      | nil => simp [Lexeme.text] at same
      | space otherBlank otherSameLine otherCuts =>
          simp only [spelling_cons, Lexeme.text, List.cons_append, List.nil_append,
            List.cons.injEq] at same
          rcases same with ⟨rfl, same⟩
          rw [induction otherCuts same]
      | token begins reads otherCuts =>
          simp only [spelling_cons, Lexeme.text, List.cons_append, List.cons.injEq] at same
          rcases same with ⟨rfl, -⟩
          rcases begins with noSpace | isLineEnd
          · rw [noSpace] at blank
            cases blank
          · exact absurd isLineEnd sameLine
  | @token char tail rest kind begins reads _ induction =>
      cases otherCuts with
      | nil => simp [Lexeme.text] at same
      | space otherBlank otherSameLine otherCuts =>
          simp only [spelling_cons, Lexeme.text, List.cons_append, List.cons.injEq] at same
          rcases same with ⟨rfl, -⟩
          rcases begins with noSpace | isLineEnd
          · rw [noSpace] at otherBlank
            cases otherBlank
          · exact absurd isLineEnd otherSameLine
      | token otherBegins otherReads otherCuts =>
          simp only [spelling_cons, Lexeme.text, List.cons_append, List.cons.injEq] at same
          rcases same with ⟨rfl, same⟩
          rcases reads.agree border otherReads same with ⟨rfl, rfl⟩
          rw [induction otherCuts (List.append_cancel_left same)]

/-! ## Agreement with the lexer -/

private theorem utf8Size_of_isSpace {char : Char} (blank : isSpace char = true) :
    char.utf8Size = 1 := by
  simp only [isSpace, Bool.or_eq_true, beq_iff_eq] at blank
  rcases blank with ((((rfl | rfl) | rfl) | rfl) | rfl) | rfl <;> rfl

private theorem lexInto_skip (found : List Token) (offset : Nat) (skipped rest : List Char) :
    lexInto found skipped.length offset (skipped ++ rest) =
      lexInto found 0 (offset + byteLength skipped) rest := by
  induction skipped generalizing offset with
  | nil => rfl
  | cons char skipped induction =>
      rw [List.length_cons, List.cons_append, lexInto, induction, Text.Utf8.byteLength_cons,
        Nat.add_assoc]

private theorem lexInto_space {char : Char} (blank : isSpace char = true) (sameLine : char ≠ '\n')
    (found : List Token) (offset : Nat) (rest : List Char) :
    lexInto found 0 offset (char :: rest) = lexInto found 0 (offset + char.utf8Size) rest := by
  rw [lexInto, if_pos (by simp [blank, sameLine]), utf8Size_of_isSpace blank]

private theorem lexInto_token {char : Char} {tail rest : List Char} {kind : TokenKind}
    (begins : isSpace char = false ∨ char = '\n') (reads : Reads char tail rest kind)
    (found : List Token) (offset : Nat) :
    lexInto found 0 offset (char :: (tail ++ rest)) =
      lexInto (⟨kind, offset, offset + byteLength (char :: tail), char :: tail⟩ :: found) 0
        (offset + byteLength (char :: tail)) rest := by
  have noSpace : (isSpace char && char != '\n') = false := by
    rcases begins with noSpace | rfl
    · simp [noSpace]
    · rfl
  have taken : (char :: (tail ++ rest)).take (tail.length + 1) = char :: tail := by simp
  rw [lexInto, if_neg (by simp [noSpace]), reads.nextToken?]
  simp only [taken, Nat.add_sub_cancel]
  rw [lexInto_skip, Nat.add_assoc, ← Text.Utf8.byteLength_cons]

theorem Cuts.lexInto {lexemes : List Lexeme} (cuts : Cuts [] lexemes) (found : List Token)
    (offset : Nat) :
    Go.lexInto found 0 offset (spelling lexemes) =
      .ok (found.reverse ++ tokensFrom offset lexemes) := by
  induction cuts generalizing found offset with
  | nil => simp [Go.lexInto, tokensFrom]
  | space blank sameLine _ induction =>
      rw [spelling_cons, Lexeme.text, List.singleton_append, lexInto_space blank sameLine, induction,
        tokensFrom]
  | token begins reads _ induction =>
      rw [List.append_nil] at reads
      rw [spelling_cons, Lexeme.text, List.cons_append, lexInto_token begins reads, induction,
        tokensFrom, List.reverse_cons, List.append_assoc, List.singleton_append]

theorem exists_cuts_of_lexInto {found tokens : List Token} {offset : Nat} {text : List Char}
    (lexed : Go.lexInto found 0 offset text = .ok tokens) :
    ∃ lexemes, Cuts [] lexemes ∧ spelling lexemes = text ∧
      tokens = found.reverse ++ tokensFrom offset lexemes := by
  -- A token covers one character at least, so the text behind it is shorter.
  induction length : text.length using Nat.strong_induction_on generalizing found offset text with
  | _ count induction =>
      cases text with
      | nil =>
          have equal : found.reverse = tokens := by simpa [Go.lexInto] using lexed
          exact ⟨[], .nil, rfl, by simp [tokensFrom, equal]⟩
      | cons char rest =>
          by_cases blank : isSpace char = true ∧ char ≠ '\n'
          · rw [lexInto_space blank.1 blank.2] at lexed
            rcases induction rest.length (by simp [← length]) lexed rfl with
              ⟨lexemes, cuts, rfl, rfl⟩
            exact ⟨.space char :: lexemes, .space blank.1 blank.2 cuts, rfl, rfl⟩
          · have begins : isSpace char = false ∨ char = '\n' := by
              cases spaced : isSpace char with
              | false => exact .inl rfl
              | true => exact .inr (by simpa [spaced] using blank)
            cases read : nextToken? char rest with
            | none =>
                have noSpace : ¬ (isSpace char && char != '\n') = true := by simpa using blank
                rw [Go.lexInto, if_neg noSpace, read] at lexed
                cases lexed
            | some token =>
                rcases token with ⟨kind, size⟩
                rcases exists_reads_of_nextToken? read with ⟨tail, after, rfl, -, reads⟩
                rw [lexInto_token begins reads] at lexed
                have shorter : after.length < count := by
                  rw [← length, List.length_cons, List.length_append]
                  omega
                rcases induction after.length shorter lexed rfl with ⟨lexemes, cuts, rfl, rfl⟩
                refine ⟨.token kind (char :: tail) :: lexemes, ?_, rfl, by simp [tokensFrom]⟩
                exact .token begins (by rwa [List.append_nil]) cuts

/-- The byte order mark that a source begins with, if it begins with one. -/
def leadingMark (source : List Char) : List Char :=
  if source.head? = some byteOrderMark then [byteOrderMark] else []

/-- The tokens of a source are the lexemes behind its byte order mark. -/
theorem lex_eq_ok_iff {source : List Char} {tokens : List Token} :
    lex source = .ok tokens ↔ ∃ lexemes, Cuts [] lexemes ∧
      source = leadingMark source ++ spelling lexemes ∧
      tokens = tokensFrom (byteLength (leadingMark source)) lexemes := by
  have reduced : lex source = Go.lexInto [] 0 (byteLength (leadingMark source))
      (source.drop (leadingMark source).length) := by
    cases source with
    | nil => rfl
    | cons char rest =>
        by_cases marked : char = byteOrderMark
        · subst marked
          rfl
        · simp [lex, leadingMark, marked]
  have divided : leadingMark source ++ source.drop (leadingMark source).length = source := by
    cases source with
    | nil => rfl
    | cons char rest =>
        by_cases marked : char = byteOrderMark <;> simp [leadingMark, marked]
  rw [reduced]
  constructor
  · intro lexed
    rcases exists_cuts_of_lexInto lexed with ⟨lexemes, cuts, spelled, rfl⟩
    exact ⟨lexemes, cuts, by rw [spelled, divided], rfl⟩
  · rintro ⟨lexemes, cuts, spelled, rfl⟩
    have body : source.drop (leadingMark source).length = spelling lexemes :=
      List.append_cancel_left (divided.trans spelled)
    rw [body, cuts.lexInto]
    rfl

end QueryPipe.Go
