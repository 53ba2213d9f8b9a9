import QueryPipe.Go.Lexer
import Mathlib.Data.List.Basic
import Mathlib.Data.List.TakeWhile

/-! Comments and quoted tokens without lengths: which characters they are made
of, and on what behind them they depend. The measures of the lexer agree with
these descriptions. -/

namespace QueryPipe.Go

/-! ## Character classes -/

/-- A class stops right behind `body` in a text just if `body` is of the class
and the next character, if there is one, is not. -/
theorem takeWhile_append_eq_iff {p : Char → Bool} {body rest : List Char} :
    (body ++ rest).takeWhile p = body ↔
      (∀ char ∈ body, p char = true) ∧ ∀ char ∈ rest.head?, p char = false := by
  induction body with
  | nil =>
      cases rest with
      | nil => simp
      | cons char rest => by_cases accepted : p char = true <;> simp [accepted]
  | cons first body induction =>
      by_cases accepted : p first = true
      · simp [accepted, induction]
      · simp [accepted]

theorem takeWhile_append_of_length_lt {p : Char → Bool} {front rest : List Char}
    (inside : ((front ++ rest).takeWhile p).length < front.length) (other : List Char) :
    (front ++ other).takeWhile p = (front ++ rest).takeWhile p := by
  induction front with
  | nil => simp at inside
  | cons char front induction =>
      by_cases accepted : p char = true
      · simp only [List.cons_append, List.takeWhile_cons, accepted, if_true, List.length_cons,
          Nat.add_lt_add_iff_right] at inside ⊢
        rw [induction inside]
      · simp [accepted]

/-- A text cut where a class stops. -/
theorem takeWhile_border (p : Char → Bool) (text : List Char) :
    (∀ char ∈ text.takeWhile p, p char = true) ∧
      ∀ char ∈ (text.dropWhile p).head?, p char = false := by
  apply takeWhile_append_eq_iff.mp
  rw [List.takeWhile_append_dropWhile]

theorem takeWhile_append_of_stop {p : Char → Bool} (front : List Char) {after : List Char}
    (stops : ∀ char ∈ after.head?, p char = false) :
    (front ++ after).takeWhile p = front.takeWhile p := by
  induction front with
  | nil => exact takeWhile_append_eq_iff.mpr ⟨by simp, stops⟩
  | cons char front induction =>
      by_cases accepted : p char = true <;> simp [accepted, induction]

/-! ## Comments -/

/-- A character that a line comment goes on with. -/
def staysOnLine (char : Char) : Bool := char != '\n' && char != '\x00'

/-- What follows `/*` up to the end of the comment. -/
inductive BlockTail : List Char → Prop
  | close : BlockTail ['*', '/']
  | cons (goesOn : ¬ (char = '*' ∧ tail.head? = some '/')) (noNul : char ≠ '\x00') :
      BlockTail tail → BlockTail (char :: tail)

private theorem blockCommentLength?_cons {length : Nat} {char : Char} {rest : List Char}
    (goesOn : ¬ (char = '*' ∧ rest.head? = some '/')) (noNul : char ≠ '\x00') :
    blockCommentLength? length (char :: rest) = blockCommentLength? (length + 1) rest := by
  refine blockCommentLength?.eq_3 _ _ _ ?_ noNul
  rintro tail rfl rfl
  exact goesOn ⟨rfl, rfl⟩

theorem BlockTail.length {tail : List Char} (block : BlockTail tail) (length : Nat)
    (rest : List Char) :
    blockCommentLength? length (tail ++ rest) = some (length + tail.length) := by
  induction block generalizing length with
  | close => rfl
  | @cons char tail goesOn noNul block induction =>
      have tailNe : tail ≠ [] := by cases block <;> simp
      rw [List.cons_append, blockCommentLength?_cons _ noNul, induction, List.length_cons]
      · congr 1
        omega
      · rw [List.head?_append_of_ne_nil _ tailNe]
        exact goesOn

theorem exists_of_blockCommentLength? {length total : Nat} {text : List Char}
    (read : blockCommentLength? length text = some total) :
    ∃ tail rest, text = tail ++ rest ∧ total = length + tail.length ∧ BlockTail tail := by
  induction text generalizing length with
  | nil => simp [blockCommentLength?] at read
  | cons char text induction =>
      by_cases noNul : char = '\x00'
      · subst noNul
        simp [blockCommentLength?] at read
      · by_cases closes : char = '*' ∧ text.head? = some '/'
        · rcases closes with ⟨rfl, head⟩
          rcases List.head?_eq_some_iff.mp head with ⟨rest, rfl⟩
          have total_eq := Option.some.inj read
          exact ⟨['*', '/'], rest, rfl, total_eq.symm, .close⟩
        · rw [blockCommentLength?_cons closes noNul] at read
          rcases induction read with ⟨tail, rest, rfl, rfl, block⟩
          have tailNe : tail ≠ [] := by cases block <;> simp
          rw [List.head?_append_of_ne_nil _ tailNe] at closes
          refine ⟨char :: tail, rest, rfl, ?_, .cons closes noNul block⟩
          rw [List.length_cons]
          omega

/-- Whether a block comment that is open before a text ends in it. -/
def closesComment (text : List Char) : Prop := ∃ length, blockCommentLength? 0 text = some length

theorem closesComment_iff_of_length {length : Nat} {text : List Char} :
    (∃ total, blockCommentLength? length text = some total) ↔ closesComment text := by
  constructor
  · rintro ⟨total, read⟩
    rcases exists_of_blockCommentLength? read with ⟨tail, rest, rfl, -, block⟩
    exact ⟨_, block.length 0 rest⟩
  · rintro ⟨total, read⟩
    rcases exists_of_blockCommentLength? read with ⟨tail, rest, rfl, -, block⟩
    exact ⟨_, block.length length rest⟩

theorem blockCommentLength?_eq_none_iff {length : Nat} {text : List Char} :
    blockCommentLength? length text = none ↔ ¬ closesComment text := by
  rw [← closesComment_iff_of_length, Option.eq_none_iff_forall_not_mem, not_exists]
  rfl

private theorem closesComment_cons {char : Char} {rest : List Char}
    (goesOn : ¬ (char = '*' ∧ rest.head? = some '/')) (noNul : char ≠ '\x00') :
    closesComment (char :: rest) ↔ closesComment rest := by
  rw [closesComment, blockCommentLength?_cons goesOn noNul, closesComment_iff_of_length]

private theorem not_closesComment_nul (rest : List Char) : ¬ closesComment ('\x00' :: rest) := by
  rintro ⟨length, read⟩
  cases read

theorem not_closesComment_nil : ¬ closesComment [] := by
  rintro ⟨length, read⟩
  cases read

/-- A comment ends in a text just if it ends in the first part, or in the second
one where no NUL comes before; its last two characters stand in one part. -/
theorem closesComment_append {first second : List Char}
    (apart : first.getLast? = some '*' → second.head? ≠ some '/') :
    closesComment (first ++ second) ↔
      closesComment first ∨ '\x00' ∉ first ∧ closesComment second := by
  induction first with
  | nil => simp [not_closesComment_nil]
  | cons char first induction =>
      by_cases isNul : char = '\x00'
      · subst isNul
        simp [not_closesComment_nul]
      · by_cases closes : char = '*' ∧ (first ++ second).head? = some '/'
        · rcases closes with ⟨rfl, head⟩
          cases first with
          | nil => exact absurd head (apart rfl)
          | cons next first =>
              rcases Option.some.inj head with rfl
              have here : ∀ rest, closesComment ('*' :: '/' :: rest) := fun rest => ⟨2, rfl⟩
              simp [here]
        · have firstOpen : ¬ (char = '*' ∧ first.head? = some '/') := by
            rintro ⟨isStar, head⟩
            refine closes ⟨isStar, ?_⟩
            rcases List.head?_eq_some_iff.mp head with ⟨rest, rfl⟩
            rfl
          have restApart : first.getLast? = some '*' → second.head? ≠ some '/' := by
            intro last
            exact apart (by rw [List.getLast?_cons, last]; rfl)
          rw [List.cons_append, closesComment_cons closes isNul, closesComment_cons firstOpen isNul,
            induction restApart]
          simp [Ne.symm isNul]

/-- Where there is no NUL, a comment ends just at a star and a slash. -/
theorem closesComment_iff_starSlash {text : List Char} (noNul : '\x00' ∉ text) :
    closesComment text ↔ ['*', '/'] <:+: text := by
  induction text with
  | nil => simp [not_closesComment_nil]
  | cons char text induction =>
      rw [List.mem_cons, not_or] at noNul
      rw [List.infix_cons_iff, ← induction noNul.2]
      by_cases closes : char = '*' ∧ text.head? = some '/'
      · rcases closes with ⟨rfl, head⟩
        rcases List.head?_eq_some_iff.mp head with ⟨rest, rfl⟩
        have here : closesComment ('*' :: '/' :: rest) := ⟨2, rfl⟩
        simp [here]
      · have noPrefix : ¬ ['*', '/'] <+: char :: text := by
          rintro ⟨rest, equal⟩
          rcases List.cons.inj equal with ⟨rfl, rfl⟩
          exact closes ⟨rfl, rfl⟩
        simp [closesComment_cons closes (Ne.symm noNul.1), noPrefix]

/-- A comment with what stands behind it. -/
inductive Comments : (comment after : List Char) → Prop
  | line (stays : ∀ char ∈ body, staysOnLine char = true)
      (ends : ∀ char ∈ after.head?, staysOnLine char = false) : Comments ('/' :: '/' :: body) after
  | block (closes : BlockTail tail) : Comments ('/' :: '*' :: tail) after

theorem Comments.length {comment after : List Char} (comments : Comments comment after) :
    commentLength? (comment ++ after) = some comment.length := by
  cases comments with
  | @line body _ stays ends =>
      have body_eq := takeWhile_append_eq_iff.mpr ⟨stays, ends⟩
      simp only [List.cons_append, commentLength?, lineLength, List.length_cons]
      rw [show (body ++ after).takeWhile (fun char => char != '\n' && char != '\x00') = body
        from body_eq]
  | @block tail _ block =>
      simp only [List.cons_append, commentLength?, block.length, List.length_cons]
      congr 1
      omega

theorem exists_of_commentLength? {text : List Char} {length : Nat}
    (read : commentLength? text = some length) :
    ∃ comment after, text = comment ++ after ∧ length = comment.length ∧
      Comments comment after := by
  unfold commentLength? at read
  split at read
  · rename_i rest
    have total_eq := Option.some.inj read
    have cut := List.takeWhile_append_dropWhile (p := staysOnLine) (l := rest)
    refine ⟨'/' :: '/' :: rest.takeWhile staysOnLine, rest.dropWhile staysOnLine, ?_, ?_, ?_⟩
    · simp [cut]
    · rw [← total_eq]
      rfl
    · rcases takeWhile_border staysOnLine rest with ⟨stays, ends⟩
      exact .line stays ends
  · rcases exists_of_blockCommentLength? read with ⟨tail, after, rfl, rfl, block⟩
    exact ⟨'/' :: '*' :: tail, after, rfl, by simp; omega, .block block⟩
  · cases read

/-- Whether a comment ends depends on the next character only. -/
theorem Comments.congr {comment after other : List Char} (comments : Comments comment after)
    (sameHead : after.head? = other.head?) : Comments comment other := by
  cases comments with
  | line stays ends => exact .line stays (sameHead ▸ ends)
  | block block => exact .block block

theorem BlockTail.noNul {tail : List Char} (block : BlockTail tail) : '\x00' ∉ tail := by
  induction block with
  | close => decide
  | cons _ noNul _ induction => exact List.not_mem_cons_of_ne_of_not_mem noNul.symm induction

theorem Comments.noNul {comment after : List Char} (comments : Comments comment after) :
    '\x00' ∉ comment := by
  cases comments with
  | line stays _ =>
      intro member
      simp only [List.mem_cons, Char.reduceEq, false_or] at member
      exact absurd (stays _ member) (by decide)
  | block block =>
      have inside := block.noNul
      simpa using inside

theorem BlockTail.last {tail : List Char} (block : BlockTail tail) : tail.getLast? = some '/' := by
  induction block with
  | close => rfl
  | cons _ _ _ induction => rw [List.getLast?_cons, induction]; rfl

theorem Comments.last_ne {comment after : List Char} (comments : Comments comment after) :
    comment.getLast? ≠ some '\n' := by
  cases comments with
  | @line body _ stays _ =>
      intro last
      have member := List.mem_of_getLast? last
      simp only [List.mem_cons, Char.reduceEq, false_or] at member
      exact absurd (stays _ member) (by decide)
  | block block => simp [List.getLast?_cons, block.last]

theorem Comments.two_le {comment after : List Char} (comments : Comments comment after) :
    2 ≤ comment.length := by
  cases comments <;> simp

/-! ## Raw literals -/

/-- What follows the opening backquote of a raw literal, up to the closing one. -/
inductive RawTail : List Char → Prop
  | close : RawTail ['`']
  | cons (inside : char ≠ '`') (noNul : char ≠ '\x00') : RawTail tail → RawTail (char :: tail)

theorem RawTail.length {tail : List Char} (raw : RawTail tail) (length : Nat) (rest : List Char) :
    rawLength? length (tail ++ rest) = some (length + tail.length) := by
  induction raw generalizing length with
  | close => rfl
  | cons inside noNul _ induction =>
      rw [List.cons_append, rawLength?.eq_3 _ _ _ inside noNul, induction, List.length_cons]
      congr 1
      omega

theorem exists_of_rawLength? {length total : Nat} {text : List Char}
    (read : rawLength? length text = some total) :
    ∃ tail rest, text = tail ++ rest ∧ total = length + tail.length ∧ RawTail tail := by
  induction text generalizing length with
  | nil => simp [rawLength?] at read
  | cons char text induction =>
      by_cases closes : char = '`'
      · subst closes
        exact ⟨['`'], text, rfl, (Option.some.inj read).symm, .close⟩
      · by_cases noNul : char = '\x00'
        · subst noNul
          simp [rawLength?] at read
        · rw [rawLength?.eq_3 _ _ _ closes noNul] at read
          rcases induction read with ⟨tail, rest, rfl, rfl, raw⟩
          refine ⟨char :: tail, rest, rfl, ?_, .cons closes noNul raw⟩
          rw [List.length_cons]
          omega

theorem RawTail.noNul {tail : List Char} (raw : RawTail tail) : '\x00' ∉ tail := by
  induction raw with
  | close => decide
  | cons _ noNul _ induction => exact List.not_mem_cons_of_ne_of_not_mem noNul.symm induction

theorem RawTail.last {tail : List Char} (raw : RawTail tail) : tail.getLast? = some '`' := by
  induction raw with
  | close => rfl
  | cons _ _ _ induction => rw [List.getLast?_cons, induction]; rfl

/-! ## Interpreted literals -/

theorem beginsWith_append {accepts : Char → Bool} {count : Nat} {text : List Char}
    (begins : beginsWith accepts count text = true) (rest : List Char) :
    beginsWith accepts count (text ++ rest) = true := by
  unfold beginsWith at begins ⊢
  have long : count ≤ text.length := by
    simp only [List.length_take, Bool.and_eq_true, beq_iff_eq] at begins
    omega
  rwa [List.take_append_of_le_length long]

theorem beginsWith_take {accepts : Char → Bool} {count : Nat} {text : List Char}
    (begins : beginsWith accepts count text = true) :
    beginsWith accepts count (text.take count) = true ∧ count ≤ text.length := by
  unfold beginsWith at begins ⊢
  simp only [List.take_take, Nat.min_self]
  refine ⟨begins, ?_⟩
  simp only [List.length_take, Bool.and_eq_true, beq_iff_eq] at begins
  omega

private theorem cut_of_beginsWith {accepts : Char → Bool} {count : Nat} {digits : List Char}
    (letter : Char) (begins : beginsWith accepts count digits = true) :
    letter :: digits = letter :: digits.take count ++ digits.drop count ∧
      count + 1 = (letter :: digits.take count).length := by
  have long := (beginsWith_take begins).2
  constructor
  · simp
  · simp only [List.length_cons, List.length_take]
    omega

/-- What may follow a backslash, whatever comes next. -/
theorem escapeLength?_append {escape : List Char}
    (whole : escapeLength? escape = some escape.length) (rest : List Char) :
    escapeLength? (escape ++ rest) = some escape.length := by
  unfold escapeLength? at whole
  split at whole
  case h_1 digits | h_2 digits | h_3 digits =>
    split at whole
    · rename_i begins
      simp [escapeLength?, beginsWith_append begins, ← Option.some.inj whole]
    · cases whole
  case h_4 => cases whole
  case h_5 char digits notX notU notLong notNul =>
    rw [List.cons_append, escapeLength?.eq_5 _ _ notX notU notLong notNul, whole]
  case h_6 => cases whole

/-- Every escape is a front of the text. -/
theorem exists_of_escapeLength? {text : List Char} {length : Nat}
    (read : escapeLength? text = some length) :
    ∃ escape rest, text = escape ++ rest ∧ length = escape.length ∧
      escapeLength? escape = some escape.length := by
  unfold escapeLength? at read
  split at read
  case h_1 digits | h_2 digits | h_3 digits =>
    split at read
    · rename_i begins
      rcases cut_of_beginsWith _ begins with ⟨cut, counted⟩
      refine ⟨_, _, cut, (Option.some.inj read).symm.trans counted, ?_⟩
      rw [← counted]
      simp [escapeLength?, (beginsWith_take begins).1]
    · cases read
  case h_4 => cases read
  case h_5 char digits notX notU notLong notNul =>
    refine ⟨[char], digits, rfl, (Option.some.inj read).symm, ?_⟩
    exact escapeLength?.eq_5 _ _ notX notU notLong notNul
  case h_6 => cases read

/-- A line end with the comment behind it depends on one further character. -/
theorem brokenLineLength?_congr {line after other : List Char}
    (read : brokenLineLength? (line ++ after) = some line.length)
    (sameHead : after.head? = other.head?) :
    brokenLineLength? (line ++ other) = some line.length := by
  simp only [brokenLineLength?] at read ⊢
  rcases Option.map_eq_some_iff.mp read with ⟨length, comment, total⟩
  rcases exists_of_commentLength? comment with ⟨body, bodyAfter, cut, rfl, comments⟩
  have atLeast := comments.two_le
  have shorter : ((line ++ after).takeWhile isSpace).length < line.length := by omega
  have sameBlank := takeWhile_append_of_length_lt shorter other
  rw [sameBlank]
  rw [List.drop_append_of_le_length (by omega)] at cut ⊢
  have bodyLength : (line.drop ((line ++ after).takeWhile isSpace).length).length =
      body.length := by
    rw [List.length_drop]
    omega
  rcases List.append_inj cut bodyLength with ⟨bodyEq, rfl⟩
  rw [bodyEq, (comments.congr sameHead).length]
  exact congrArg some total

/-- What follows the opening double quote of an interpreted literal, up to the
closing one. A line end stands there only with a comment behind it. -/
inductive InterpretedTail : List Char → Prop
  | close : InterpretedTail ['"']
  | escape (whole : escapeLength? escape = some escape.length) :
      InterpretedTail tail → InterpretedTail ('\\' :: escape ++ tail)
  | broken (whole : brokenLineLength? (line ++ tail) = some line.length) :
      InterpretedTail tail → InterpretedTail ('\n' :: line ++ tail)
  | plain (noQuote : char ≠ '"') (noEscape : char ≠ '\\') (noLine : char ≠ '\n')
      (noNul : char ≠ '\x00') : InterpretedTail tail → InterpretedTail (char :: tail)

theorem InterpretedTail.ne_nil {tail : List Char} (body : InterpretedTail tail) : tail ≠ [] := by
  cases body <;> simp

private theorem interpretedLength?_skip (known front : List Char) (length : Nat) :
    interpretedLength? known.length length (known ++ front) =
      interpretedLength? 0 (length + known.length) front := by
  induction known generalizing length with
  | nil => rfl
  | cons char known induction =>
      rw [List.cons_append, List.length_cons, interpretedLength?.eq_1, induction]
      congr 1
      omega

theorem InterpretedTail.length {tail : List Char} (body : InterpretedTail tail) (length : Nat)
    (rest : List Char) :
    interpretedLength? 0 length (tail ++ rest) = some (length + tail.length) := by
  induction body generalizing length with
  | close => rfl
  | @escape escape tail whole body induction =>
      rw [List.cons_append, List.cons_append, List.append_assoc, interpretedLength?.eq_3,
        escapeLength?_append whole]
      simp only [interpretedLength?_skip, induction, List.length_cons, List.length_append]
      congr 1
      omega
  | @broken line tail whole body induction =>
      have sameHead : tail.head? = (tail ++ rest).head? :=
        (List.head?_append_of_ne_nil _ body.ne_nil).symm
      rw [List.cons_append, List.cons_append, List.append_assoc, interpretedLength?.eq_4,
        brokenLineLength?_congr whole sameHead]
      simp only [interpretedLength?_skip, induction, List.length_cons, List.length_append]
      congr 1
      omega
  | plain noQuote noEscape noLine noNul body induction =>
      rw [List.cons_append, interpretedLength?.eq_5 _ _ _ noQuote noEscape noLine,
        if_neg (by simpa using noNul), induction, List.length_cons]
      congr 1
      omega

/-- Every interpreted literal is a front of the text; the first characters may be
known to belong to it. -/
theorem exists_of_interpretedLength? {skip length total : Nat} {text : List Char}
    (read : interpretedLength? skip length text = some total) :
    ∃ known tail rest, text = known ++ (tail ++ rest) ∧ known.length = skip ∧
      total = length + known.length + tail.length ∧ InterpretedTail tail := by
  induction skip, length, text using interpretedLength?.induct with
  | case1 skip length char rest induction =>
      rw [interpretedLength?.eq_1] at read
      rcases induction read with ⟨known, tail, after, rfl, rfl, rfl, body⟩
      refine ⟨char :: known, tail, after, rfl, rfl, ?_, body⟩
      rw [List.length_cons]
      omega
  | case2 length rest => exact ⟨[], ['"'], rest, rfl, rfl, (Option.some.inj read).symm, .close⟩
  | case3 length text known escaped induction =>
      rw [interpretedLength?.eq_3, escaped] at read
      rcases induction read with ⟨front, tail, after, cut, fronted, rfl, body⟩
      rcases exists_of_escapeLength? escaped with ⟨escape, rest, equal, counted, whole⟩
      rcases List.append_inj (cut.symm.trans equal) (fronted.trans counted) with ⟨rfl, rfl⟩
      refine ⟨[], '\\' :: front ++ tail, after, by simp [cut], rfl, ?_, .escape whole body⟩
      simp only [List.length_nil, List.length_cons, List.length_append]
      omega
  | case4 length rest refused => simp [interpretedLength?.eq_3, refused] at read
  | case5 length text known commented induction =>
      rw [interpretedLength?.eq_4, commented] at read
      rcases induction read with ⟨line, tail, after, rfl, rfl, rfl, body⟩
      have sameHead : (tail ++ after).head? = tail.head? :=
        List.head?_append_of_ne_nil _ body.ne_nil
      refine ⟨[], '\n' :: line ++ tail, after, by simp, rfl, ?_,
        .broken (brokenLineLength?_congr commented sameHead) body⟩
      simp only [List.length_nil, List.length_cons, List.length_append]
      omega
  | case6 length rest refused => simp [interpretedLength?.eq_4, refused] at read
  | case7 length char rest noQuote noEscape noLine isNul =>
      rw [interpretedLength?.eq_5 _ _ _ noQuote noEscape noLine, if_pos isNul] at read
      cases read
  | case8 length char text noQuote noEscape noLine noNul induction =>
      rw [interpretedLength?.eq_5 _ _ _ noQuote noEscape noLine, if_neg noNul] at read
      rcases induction read with ⟨known, tail, after, rfl, isNil, rfl, body⟩
      rcases List.length_eq_zero_iff.mp isNil with rfl
      refine ⟨[], char :: tail, after, rfl, rfl, ?_,
        .plain noQuote noEscape noLine (by simpa using noNul) body⟩
      simp only [List.length_nil, List.length_cons]
      omega
  | case9 skip length => simp [interpretedLength?] at read

private theorem noNul_of_beginsWith {accepts : Char → Bool} {digits : List Char}
    (refused : accepts '\x00' = false) (begins : beginsWith accepts digits.length digits = true) :
    '\x00' ∉ digits := by
  intro member
  simp only [beginsWith, List.take_length, beq_self_eq_true, Bool.true_and, List.all_eq_true]
    at begins
  rw [begins _ member] at refused
  cases refused

private theorem noNul_of_escapeLength? {escape : List Char}
    (whole : escapeLength? escape = some escape.length) : '\x00' ∉ escape := by
  unfold escapeLength? at whole
  split at whole
  case h_1 digits | h_2 digits | h_3 digits =>
    split at whole
    · rename_i begins
      have count := Nat.add_right_cancel (m := 1) (Option.some.inj whole)
      rw [count] at begins
      have inside := noNul_of_beginsWith (by decide) begins
      simpa using inside
    · cases whole
  case h_4 => cases whole
  case h_5 char digits _ _ _ notNul =>
    have count := Option.some.inj whole
    rw [List.length_cons, Nat.right_eq_add, List.length_eq_zero_iff] at count
    simpa [count] using fun equal => notNul equal.symm
  case h_6 => cases whole

private theorem noNul_of_brokenLineLength? {line after : List Char}
    (whole : brokenLineLength? (line ++ after) = some line.length) : '\x00' ∉ line := by
  unfold brokenLineLength? at whole
  rcases Option.map_eq_some_iff.mp whole with ⟨commentLength, comment, total⟩
  rcases exists_of_commentLength? comment with ⟨body, behind, cut, rfl, comments⟩
  have blank : (line ++ after).takeWhile isSpace ++ (body ++ behind) = line ++ after := by
    rw [← cut]
    conv_rhs => rw [← List.takeWhile_append_dropWhile (p := isSpace) (l := line ++ after)]
    rw [List.dropWhile_eq_drop_findIdx_not, List.takeWhile_eq_take_findIdx_not,
      List.length_take, Nat.min_eq_left List.findIdx_le_length]
  rw [← List.append_assoc] at blank
  rcases List.append_inj blank (by rw [List.length_append]; omega) with ⟨lineEq, -⟩
  rw [← lineEq]
  intro member
  rcases List.mem_append.mp member with space | inside
  · exact absurd (List.mem_takeWhile_imp space) (by decide)
  · exact comments.noNul inside

theorem InterpretedTail.noNul {tail : List Char} (body : InterpretedTail tail) :
    '\x00' ∉ tail := by
  induction body with
  | close => decide
  | escape whole _ induction =>
      have escaped := noNul_of_escapeLength? whole
      simp [escaped, induction]
  | broken whole _ induction =>
      have line := noNul_of_brokenLineLength? whole
      simp [line, induction]
  | plain _ _ _ noNul _ induction => exact List.not_mem_cons_of_ne_of_not_mem noNul.symm induction

theorem InterpretedTail.last {tail : List Char} (body : InterpretedTail tail) :
    tail.getLast? = some '"' := by
  induction body with
  | close => rfl
  | escape _ _ induction => rw [List.getLast?_append, induction]; rfl
  | broken _ _ induction => rw [List.getLast?_append, induction]; rfl
  | plain _ _ _ _ _ induction => rw [List.getLast?_cons, induction]; rfl

/-! ## Characters between single quotes -/

theorem runeEscapeLength?_append {escape : List Char}
    (whole : runeEscapeLength? escape = some escape.length) (rest : List Char) :
    runeEscapeLength? (escape ++ rest) = some escape.length := by
  unfold runeEscapeLength? at whole
  split at whole
  case h_1 digits | h_2 digits | h_3 digits =>
    split at whole
    · rename_i begins
      simp [runeEscapeLength?, beginsWith_append begins, ← Option.some.inj whole]
    · cases whole
  case h_4 char digits notX notU notLong =>
    rw [List.cons_append, runeEscapeLength?.eq_4 _ _ notX notU notLong]
    split at whole
    · rename_i isOctal
      split at whole
      · rename_i begins
        rw [if_pos isOctal, if_pos (beginsWith_append begins rest), whole]
      · cases whole
    · rename_i notOctal
      rw [if_neg notOctal]
      exact whole
  case h_5 => cases whole

theorem exists_of_runeEscapeLength? {text : List Char} {length : Nat}
    (read : runeEscapeLength? text = some length) :
    ∃ escape rest, text = escape ++ rest ∧ length = escape.length ∧
      runeEscapeLength? escape = some escape.length := by
  unfold runeEscapeLength? at read
  split at read
  case h_1 digits | h_2 digits | h_3 digits =>
    split at read
    · rename_i begins
      rcases cut_of_beginsWith _ begins with ⟨cut, counted⟩
      refine ⟨_, _, cut, (Option.some.inj read).symm.trans counted, ?_⟩
      rw [← counted]
      simp [runeEscapeLength?, (beginsWith_take begins).1]
    · cases read
  case h_4 char digits notX notU notLong =>
    split at read
    · rename_i isOctal
      split at read
      · rename_i begins
        rcases cut_of_beginsWith char begins with ⟨cut, counted⟩
        refine ⟨_, _, cut, (Option.some.inj read).symm.trans counted, ?_⟩
        rw [← counted, runeEscapeLength?.eq_4 _ _ notX notU notLong, if_pos isOctal,
          if_pos (beginsWith_take begins).1]
      · cases read
    · rename_i notOctal
      split at read
      · rename_i named
        refine ⟨[char], digits, rfl, (Option.some.inj read).symm, ?_⟩
        rw [runeEscapeLength?.eq_4 _ _ notX notU notLong, if_neg notOctal, if_pos named]
        rfl
      · cases read
  case h_5 => cases read

/-- What follows an opening single quote, up to the closing one. -/
inductive RuneTail : List Char → Prop
  | plain (noEscape : char ≠ '\\') (noQuote : char ≠ '\'') (noNul : char ≠ '\x00') :
      RuneTail [char, '\'']
  | escape (whole : runeEscapeLength? escape = some escape.length) :
      RuneTail ('\\' :: escape ++ ['\''])

theorem RuneTail.length {tail : List Char} (rune : RuneTail tail) (rest : List Char) :
    runeLength? (tail ++ rest) = some tail.length := by
  cases rune with
  | @plain char noEscape noQuote noNul =>
      simp only [List.cons_append, List.nil_append, runeLength?]
      rfl
  | @escape escape whole =>
      have dropped : ('\\' :: (escape ++ ('\'' :: rest))).drop (escape.length + 1) =
          '\'' :: rest := by
        simp
      simp only [List.cons_append, List.append_assoc, List.nil_append, runeLength?,
        runeEscapeLength?_append whole, Option.map_some, dropped]
      simp

theorem RuneTail.last {tail : List Char} (rune : RuneTail tail) :
    tail.getLast? = some '\'' := by
  cases rune with
  | plain => rfl
  | escape => rw [List.getLast?_append]; rfl

theorem exists_of_runeLength? {text : List Char} {length : Nat}
    (read : runeLength? text = some length) :
    ∃ tail rest, text = tail ++ rest ∧ length = tail.length ∧ RuneTail tail := by
  simp only [runeLength?] at read
  split at read
  · rename_i known found
    split at read
    · rename_i rest after
      rcases Option.some.inj read with rfl
      split at found
      · rcases Option.map_eq_some_iff.mp found with ⟨escaped, readEscape, rfl⟩
        rcases exists_of_runeEscapeLength? readEscape with ⟨escape, behind, rfl, rfl, whole⟩
        rw [List.drop_succ_cons, List.drop_left] at after
        subst after
        refine ⟨'\\' :: escape ++ ['\''], rest, by simp, by simp, .escape whole⟩
      · cases found
      · cases found
      · rename_i char behind noEscape noQuote noNul
        rcases Option.some.inj found with rfl
        rw [List.drop_succ_cons, List.drop_zero] at after
        subst after
        exact ⟨[char, '\''], rest, rfl, rfl, .plain noEscape noQuote noNul⟩
      · cases found
    · cases read
  · cases read

end QueryPipe.Go
