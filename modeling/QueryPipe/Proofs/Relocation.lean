import QueryPipe.Proofs.ParserAlteration
import QueryPipe.Proofs.Relexing

/-! A literal of another length. What stands behind it moves, and everything else
stays as it was, so the parser finds the same literals in their new places. -/

namespace QueryPipe

open Text.Utf8 (byteLength)

namespace Go

/-- An offset once `size` bytes at `place` became `newSize` bytes. -/
def moved (place size newSize offset : Nat) : Nat :=
  if offset ≤ place then offset else offset + newSize - size

/-- A token once the one of `size` bytes at `place` became another literal. -/
def Token.refit (place size : Nat) (literal : List Char) (token : Token) : Token where
  kind := token.kind
  start := moved place size (byteLength literal) token.start
  stop := moved place size (byteLength literal) token.stop
  text := if token.stop ≤ place ∨ place + size ≤ token.start then token.text else literal

/-- Outside the bytes that are exchanged. -/
def Outside (place size offset : Nat) : Prop := offset ≤ place ∨ place + size ≤ offset

theorem moved_le_iff {place size newSize first second : Nat} (nonempty : 0 < size)
    (larger : 0 < newSize) (firstOutside : Outside place size first)
    (secondOutside : Outside place size second) :
    first ≤ second ↔ moved place size newSize first ≤ moved place size newSize second := by
  unfold Outside at firstOutside secondOutside
  unfold moved
  split <;> split <;> omega

/-- A token stands before the literal, is the literal, or stands behind it. -/
inductive Around (place size : Nat) (text : List Char) (token : Token) : Prop
  | before (ordered : token.start ≤ token.stop) (stop : token.stop ≤ place)
  | here (equal : token = ⟨.stringLiteral, place, place + size, text⟩)
  | behind (ordered : token.start ≤ token.stop) (start : place + size ≤ token.start)

section Around

variable {place size : Nat} {text literal : List Char} {token : Token}

theorem Around.outside (around : Around place size text token) :
    Outside place size token.start ∧ Outside place size token.stop := by
  cases around with
  | before ordered stop => exact ⟨.inl (by omega), .inl stop⟩
  | here equal =>
      rw [equal]
      exact ⟨.inl (Nat.le_refl _), .inr (Nat.le_refl _)⟩
  | behind ordered start => exact ⟨.inr start, .inr (by omega)⟩

theorem Token.refit_before (ordered : token.start ≤ token.stop) (stop : token.stop ≤ place) :
    token.refit place size literal = token := by
  have start := Nat.le_trans ordered stop
  rw [Token.refit, moved, moved, if_pos start, if_pos stop, if_pos (.inl stop)]

theorem Token.refit_here (nonempty : 0 < size) :
    Token.refit place size literal ⟨.stringLiteral, place, place + size, text⟩ =
      ⟨.stringLiteral, place, place + byteLength literal, literal⟩ := by
  have moves : ¬ place + size ≤ place := by omega
  have stop : place + size + byteLength literal - size = place + byteLength literal := by omega
  simp only [Token.refit, moved, Nat.le_refl, if_true, if_neg moves, stop, or_self]

theorem Token.refit_behind (nonempty : 0 < size) (ordered : token.start ≤ token.stop)
    (start : place + size ≤ token.start) :
    token.refit place size literal =
      { token with
        start := token.start + byteLength literal - size
        stop := token.stop + byteLength literal - size } := by
  have startMoves : ¬ token.start ≤ place := by omega
  have stopMoves : ¬ token.stop ≤ place := by omega
  rw [Token.refit, moved, moved, if_neg startMoves, if_neg stopMoves, if_pos (.inr start)]

theorem Around.keeps (nonempty : 0 < size) (around : Around place size text token) :
    Keeps (Token.refit place size literal) token := by
  refine ⟨rfl, ?_⟩
  intro noLiteral
  cases around with
  | before ordered stop => rw [Token.refit_before ordered stop]
  | here equal => exact absurd (by rw [equal]) noLiteral
  | behind ordered start => rw [Token.refit_behind nonempty ordered start]

end Around

/-! ## Tokens -/

theorem le_of_mem_tokensFrom {offset : Nat} {lexemes : List Lexeme} {token : Token}
    (member : token ∈ tokensFrom offset lexemes) :
    offset ≤ token.start ∧ token.start ≤ token.stop ∧
      token.stop ≤ offset + byteLength (spelling lexemes) := by
  rcases mem_tokensFrom member with ⟨front, back, rfl, start, stop⟩
  simp only [spelling_append, spelling_cons, Lexeme.text, Text.Utf8.byteLength_append]
  omega

section Replacing

variable {offset : Nat} {first second : List Lexeme} {text literal : List Char}

theorem around_of_mem_tokensFrom {token : Token}
    (member : token ∈ tokensFrom offset (first ++ .token .stringLiteral text :: second)) :
    Around (offset + byteLength (spelling first)) (byteLength text) text token := by
  rw [tokensFrom_append, tokensFrom, List.mem_append, List.mem_cons] at member
  rcases member with before | here | behind
  · have bounds := le_of_mem_tokensFrom before
    exact .before bounds.2.1 bounds.2.2
  · exact .here here
  · have bounds := le_of_mem_tokensFrom behind
    exact .behind bounds.2.1 bounds.1

private theorem tokensFrom_moved {place size : Nat} (nonempty : 0 < size)
    (behind : place + size ≤ offset) (lexemes : List Lexeme) :
    tokensFrom (offset + byteLength literal - size) lexemes =
      (tokensFrom offset lexemes).map (Token.refit place size literal) := by
  induction lexemes generalizing offset with
  | nil => rfl
  | cons lexeme lexemes induction =>
      cases lexeme with
      | space char =>
          have next := @induction (offset + char.utf8Size) (by omega)
          rw [tokensFrom, tokensFrom, ← next]
          congr 1
          omega
      | token kind characters =>
          have next := @induction (offset + byteLength characters) (by omega)
          have stop : offset + byteLength literal - size + byteLength characters =
              offset + byteLength characters + byteLength literal - size := by omega
          rw [tokensFrom, tokensFrom, List.map_cons, ← next, stop,
            Token.refit_behind nonempty (Nat.le_add_right ..) behind]

theorem tokensFrom_replace (nonempty : text ≠ []) :
    tokensFrom offset (first ++ .token .stringLiteral literal :: second) =
      (tokensFrom offset (first ++ .token .stringLiteral text :: second)).map
        (Token.refit (offset + byteLength (spelling first)) (byteLength text) literal) := by
  have positive := Text.Utf8.byteLength_pos nonempty
  have before : (tokensFrom offset first).map
      (Token.refit (offset + byteLength (spelling first)) (byteLength text) literal) =
      tokensFrom offset first := by
    refine (List.map_congr_left ?_).trans (List.map_id _)
    intro token member
    have bounds := le_of_mem_tokensFrom member
    exact Token.refit_before bounds.2.1 bounds.2.2
  have behind := @tokensFrom_moved
    (offset + byteLength (spelling first) + byteLength text) literal
    (offset + byteLength (spelling first)) (byteLength text) positive (Nat.le_refl _) second
  have stop : offset + byteLength (spelling first) + byteLength text + byteLength literal -
      byteLength text = offset + byteLength (spelling first) + byteLength literal := by omega
  rw [stop] at behind
  rw [tokensFrom_append, tokensFrom_append, tokensFrom, tokensFrom, List.map_append, List.map_cons,
    before, Token.refit_here positive, behind]

theorem faithful_refit (nonempty : text ≠ []) (isLiteral : literal ≠ []) :
    Faithful (Token.refit (offset + byteLength (spelling first)) (byteLength text) literal)
      (tokensFrom offset (first ++ .token .stringLiteral text :: second)) := by
  have positive := Text.Utf8.byteLength_pos nonempty
  have newPositive := Text.Utf8.byteLength_pos isLiteral
  constructor
  · intro token member
    exact (around_of_mem_tokensFrom member).keeps positive
  · intro one oneMember other otherMember
    have oneStop := (around_of_mem_tokensFrom oneMember).outside.2
    have otherStart := (around_of_mem_tokensFrom otherMember).outside.1
    have below := moved_le_iff positive newPositive otherStart oneStop
    have above := moved_le_iff positive newPositive oneStop otherStart
    rw [Token.refit, Token.refit]
    dsimp only
    omega

end Replacing

end Go

/-! ## The end of a source -/

namespace Go

theorem endsLine_map {change : Token → Token} {tokens : List Token}
    (keeps : ∀ token ∈ tokens, Keeps change token) :
    endsLine (tokens.map change) = endsLine tokens := by
  have kept : (tokens.map change).filter (!·.isComment) =
      (tokens.filter (!·.isComment)).map change := by
    rw [List.filter_map]
    congr 1
    apply List.filter_congr
    intro token member
    simp only [Function.comp_apply, (keeps token member).isComment]
  rw [endsLine, endsLine, kept, List.getLast?_map]
  cases last : (tokens.filter (!·.isComment)).getLast? with
  | none => rfl
  | some token =>
      have member := List.mem_of_mem_filter (List.mem_of_getLast? last)
      simp only [Option.map_some, Option.any_some, (keeps token member).kind]

theorem endsLine_lineEnds (offset : Nat) (lexemes : List Lexeme) (count : Nat) :
    endsLine (tokensFrom offset (lexemes ++ lineEnds (count + 1))) = true := by
  rw [lineEnds, List.replicate_succ', ← List.append_assoc, tokensFrom_append, endsLine,
    List.filter_append]
  simp [tokensFrom, Token.isComment]

end Go

/-! ## Literals in their new places -/

namespace Site

open Go (Token Lexeme Cuts spelling tokensFrom lineEnds)

/-- The parser accepts lexemes behind a byte offset, and these are the literals of
the shape, in order. -/
structure Found (shape : Shape) (offset : Nat) (lexemes : List Lexeme)
    (literals : List (Token × Kind)) : Prop where
  cuts : Cuts [] lexemes
  parses : ∃ tree, Go.parseTokens? (tokensFrom offset lexemes) = some tree ∧
    inOrder (shape.literals tree) = literals

variable {shape : Shape} {offset : Nat} {literals : List (Token × Kind)}

theorem Found.replace {first second : List Lexeme} {text literal : List Char}
    (found : Found shape offset (first ++ .token .stringLiteral text :: second) literals)
    (isLiteral : Go.isStringLiteral literal = true)
    (closed : Go.leavesCommentOpen first → ¬ Go.closesComment literal) :
    Found shape offset (first ++ .token .stringLiteral literal :: second)
      (literals.map (Prod.map (Token.refit (offset + byteLength (spelling first))
        (byteLength text) literal) id)) := by
  rcases found.parses with ⟨tree, parsed, rfl⟩
  have isText := Go.isStringLiteral_of_cuts (Go.cuts_append_iff.mp found.cuts).2
  have nonempty := Go.ne_nil_of_isStringLiteral isText
  have newNonempty := Go.ne_nil_of_isStringLiteral isLiteral
  have positive := Text.Utf8.byteLength_pos nonempty
  have newPositive := Text.Utf8.byteLength_pos newNonempty
  have faithful := @Go.faithful_refit offset first second text literal nonempty newNonempty
  have alike : Go.TokensAlike _ _ (tokensFrom offset (first ++ .token .stringLiteral literal :: second)) :=
    ⟨_, [], [], (List.append_nil _).symm, by rw [List.append_nil, Go.tokensFrom_replace nonempty],
      faithful, by simp [Go.AllLineEnds], by simp [Go.AllLineEnds]⟩
  have ends : Go.endsLine (tokensFrom offset (first ++ .token .stringLiteral literal :: second)) =
      Go.endsLine (tokensFrom offset (first ++ .token .stringLiteral text :: second)) := by
    rw [Go.tokensFrom_replace nonempty]
    exact Go.endsLine_map faithful.keeps
  rcases Go.exists_parseTokens?_alike alike faithful.keeps ends.trans parsed with
    ⟨newTree, newParsed, same⟩
  refine ⟨found.cuts.replace isLiteral closed, newTree, newParsed, ?_⟩
  rw [same]
  apply inOrder_map
  rcases Go.derives_of_parseTokens? parsed with ⟨rest, -, derives⟩
  have outside : ∀ one ∈ shape.literals tree,
      Go.Outside (offset + byteLength (spelling first)) (byteLength text) one.1.start := by
    intro one member
    have inTree := (mem_tokens_of_mem_literals member).1
    have among := derives.tokens_subset.1 (by simpa [Go.forestTokens] using inTree)
    exact (Go.around_of_mem_tokensFrom among).outside.1
  intro one oneMember other otherMember
  exact Go.moved_le_iff positive newPositive (outside one oneMember) (outside other otherMember)

/-- Line ends at the end may come and go, but for the last one. -/
theorem Found.change_lineEnds {lexemes : List Lexeme} {count : Nat}
    (found : Found shape offset (lexemes ++ lineEnds count) literals) (other : Nat) :
    Found shape offset (lexemes ++ lineEnds (other + 1)) literals := by
  rcases found.parses with ⟨tree, parsed, rfl⟩
  have ends (count : Nat) : Go.AllLineEnds
      (tokensFrom (offset + byteLength (spelling lexemes)) (lineEnds count)) := by
    intro token member
    rcases Go.mem_tokensFrom member with ⟨front, back, equal, -, -⟩
    have inside : Lexeme.token token.kind token.text ∈ lineEnds count := by simp [equal]
    have lexeme := List.eq_of_mem_replicate inside
    injection lexeme
  have alike : Go.TokensAlike id (tokensFrom offset (lexemes ++ lineEnds count))
      (tokensFrom offset (lexemes ++ lineEnds (other + 1))) := by
    refine ⟨tokensFrom offset lexemes, _, _, Go.tokensFrom_append .., ?_, ?_, ends count,
      ends (other + 1)⟩
    · rw [List.map_id, Go.tokensFrom_append]
    · exact ⟨fun _ _ => ⟨rfl, fun _ => rfl⟩, fun _ _ _ _ => Iff.rfl⟩
  rcases Go.exists_parseTokens?_alike alike (fun _ _ => ⟨rfl, fun _ => rfl⟩)
      (fun _ => Go.endsLine_lineEnds ..) parsed with ⟨newTree, newParsed, same⟩
  refine ⟨found.cuts.change_lineEnds (other + 1), newTree, newParsed, ?_⟩
  rw [same]
  exact congrArg inOrder (List.map_id _)

end Site

end QueryPipe
