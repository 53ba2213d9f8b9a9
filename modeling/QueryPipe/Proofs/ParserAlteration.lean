import QueryPipe.Proofs.Nesting
import QueryPipe.Proofs.Simulation
import QueryPipe.Proofs.TreeAlteration

/-! The parser on changed tokens. It looks at the kinds of tokens and at whether
marks touch, and a line end at the end of a source does what the end itself does;
so a change that keeps these changes the trees only as it changes the tokens. -/

namespace QueryPipe.Go

/-- A change that keeps what rules look at. -/
structure Faithful (change : Token → Token) (tokens : List Token) : Prop where
  keeps : ∀ token ∈ tokens, Keeps change token
  touch : ∀ first ∈ tokens, ∀ second ∈ tokens,
    (second.start = first.stop ↔ (change second).start = (change first).stop)

theorem Faithful.of_subset {change : Token → Token} {tokens fewer : List Token}
    (faithful : Faithful change tokens) (subset : fewer ⊆ tokens) : Faithful change fewer where
  keeps token member := faithful.keeps token (subset member)
  touch first firstMember second secondMember :=
    faithful.touch first (subset firstMember) second (subset secondMember)

/-- Only line ends. -/
def AllLineEnds (tokens : List Token) : Prop := ∀ token ∈ tokens, token.kind = .lineEnd

/-- Changed tokens, up to the line ends behind them. -/
def TokensAlike (change : Token → Token) (left right : List Token) : Prop :=
  ∃ tokens ends otherEnds, left = tokens ++ ends ∧ right = tokens.map change ++ otherEnds ∧
    Faithful change tokens ∧ AllLineEnds ends ∧ AllLineEnds otherEnds

/-- Changed trees, up to line ends. -/
def TreesAlike (change : Token → Token) (left right : List Tree) : Prop :=
  alterForest change left = alterForest id right

/-! ## Leaves -/

private theorem span (p : Token → Bool) (tokens : List Token) :
    (∀ token ∈ tokens, p token = true) ∨
      ∃ front token back, tokens = front ++ token :: back ∧ (∀ other ∈ front, p other = true) ∧
        p token = false := by
  induction tokens with
  | nil => exact .inl (by simp)
  | cons first tokens induction =>
      cases accepted : p first with
      | false => exact .inr ⟨[], first, tokens, rfl, by simp, accepted⟩
      | true =>
          rcases induction with all | ⟨front, token, back, rfl, all, refused⟩
          · exact .inl (by simpa [accepted] using all)
          · exact .inr ⟨first :: front, token, back, rfl, by simpa [accepted] using all, refused⟩

private theorem span_eq {p : Token → Bool} {front : List Token} {token : Token}
    (all : ∀ other ∈ front, p other = true) (refused : p token = false) (rest : List Token) :
    (front ++ token :: rest).takeWhile p = front ∧
      (front ++ token :: rest).dropWhile p = token :: rest := by
  constructor
  · rw [List.takeWhile_append_of_pos all, List.takeWhile_cons_of_neg (by simp [refused]),
      List.append_nil]
  · rw [List.dropWhile_append_of_pos all, List.dropWhile_cons_of_neg (by simp [refused])]

private theorem takeTrivia_front {front : List Token} {token : Token}
    (all : ∀ other ∈ front, other.isTrivia = true) (refused : token.isTrivia = false)
    (rest : List Token) :
    takeTrivia [] (front ++ token :: rest) =
      (((front.filter Token.isComment).map Tree.leaf).reverse, token :: rest) := by
  rcases span_eq all refused rest with ⟨taken, dropped⟩
  rw [takeTrivia_eq, taken, dropped, List.append_nil]

private theorem takeTrivia_all {tokens : List Token}
    (all : ∀ token ∈ tokens, token.isTrivia = true) : (takeTrivia [] tokens).2 = [] := by
  rw [takeTrivia_eq]
  exact List.dropWhile_eq_nil_iff.mpr all

private theorem takeComments_front {front : List Token} {token : Token}
    (all : ∀ other ∈ front, other.isComment = true) (refused : token.isComment = false)
    (rest : List Token) :
    takeComments [] (front ++ token :: rest) =
      ((front.map Tree.leaf).reverse, token :: rest) := by
  rcases span_eq all refused rest with ⟨taken, dropped⟩
  rw [takeComments_eq, taken, dropped, List.append_nil]

private theorem takeComments_all {tokens : List Token}
    (all : ∀ token ∈ tokens, token.isComment = true) :
    takeComments [] tokens = ((tokens.map Tree.leaf).reverse, []) := by
  rw [takeComments_eq, List.takeWhile_eq_self_iff.mpr all, List.dropWhile_eq_nil_iff.mpr all,
    List.append_nil]

section Leaves

variable {change : Token → Token}

private theorem alterForest_leaves {tokens : List Token}
    (keeps : ∀ token ∈ tokens, Keeps change token) :
    TreesAlike change (tokens.map Tree.leaf) ((tokens.map change).map Tree.leaf) := by
  induction tokens with
  | nil => rfl
  | cons token tokens induction =>
      have later := induction fun other member => keeps other (List.mem_cons_of_mem _ member)
      have kind := (keeps token (List.mem_cons_self ..)).kind
      rw [TreesAlike] at later ⊢
      simp only [List.map_cons, alterForest, Tree.isLineEnd, kind, later, Tree.alter, id]

private theorem alterForest_lineEnds {ends : List Token} (allEnds : AllLineEnds ends)
    (change : Token → Token) : alterForest change (ends.map Tree.leaf) = [] := by
  induction ends with
  | nil => rfl
  | cons token ends induction =>
      have isLineEnd := allEnds token (List.mem_cons_self ..)
      rw [List.map_cons, alterForest, if_pos (by simp [Tree.isLineEnd, isLineEnd])]
      exact induction fun other member => allEnds other (List.mem_cons_of_mem _ member)

theorem TreesAlike.append {left right moreLeft moreRight : List Tree}
    (alike : TreesAlike change left right) (moreAlike : TreesAlike change moreLeft moreRight) :
    TreesAlike change (left ++ moreLeft) (right ++ moreRight) := by
  rw [TreesAlike] at alike moreAlike ⊢
  rw [alterForest_append, alterForest_append, alike, moreAlike]

/-- The comments before a token, on both sides. -/
private theorem comments_alike {front : List Token}
    (keeps : ∀ token ∈ front, Keeps change token) :
    TreesAlike change ((front.filter Token.isComment).map Tree.leaf)
      (((front.map change).filter Token.isComment).map Tree.leaf) := by
  have filtered : (front.map change).filter Token.isComment =
      (front.filter Token.isComment).map change := by
    rw [List.filter_map]
    congr 1
    apply List.filter_congr
    intro token member
    exact (keeps token member).isComment
  rw [filtered]
  apply alterForest_leaves
  intro token member
  exact keeps token (List.mem_of_mem_filter member)

end Leaves

/-! ## Tokens, marks and ends of statements -/

section Steps

variable {change : Token → Token}

private theorem accepts_change {token : Token} (keeps : Keeps change token) (terminal : Terminal) :
    terminal.accepts (change token) = terminal.accepts token := by
  unfold Terminal.accepts
  rw [keeps.kind]

private theorem isTrivia_of_allLineEnds {ends : List Token} (allEnds : AllLineEnds ends) :
    ∀ token ∈ ends, token.isTrivia = true := by
  intro token member
  simp [Token.isTrivia, allEnds token member]

private theorem isTrivia_append_lineEnds {tokens ends : List Token}
    (all : ∀ token ∈ tokens, token.isTrivia = true) (allEnds : AllLineEnds ends) :
    ∀ token ∈ tokens ++ ends, token.isTrivia = true := by
  intro token member
  rcases List.mem_append.mp member with inside | inside
  · exact all token inside
  · exact isTrivia_of_allLineEnds allEnds token inside

private theorem isTrivia_change {tokens : List Token} (keeps : ∀ token ∈ tokens, Keeps change token)
    (all : ∀ token ∈ tokens, token.isTrivia = true) :
    ∀ token ∈ tokens.map change, token.isTrivia = true := by
  intro token member
  rcases List.mem_map.mp member with ⟨original, originalMember, rfl⟩
  rw [(keeps original originalMember).isTrivia]
  exact all original originalMember

private theorem isComment_change {tokens : List Token} (keeps : ∀ token ∈ tokens, Keeps change token)
    (all : ∀ token ∈ tokens, token.isComment = true) :
    ∀ token ∈ tokens.map change, token.isComment = true := by
  intro token member
  rcases List.mem_map.mp member with ⟨original, originalMember, rfl⟩
  rw [(keeps original originalMember).isComment]
  exact all original originalMember

/-- On both sides nothing but comments and line ends is left, or the same token
comes next behind them. -/
private theorem trivia_cases {tokens ends otherEnds : List Token} (faithful : Faithful change tokens)
    (allEnds : AllLineEnds ends) (allOtherEnds : AllLineEnds otherEnds) :
    ((takeTrivia [] (tokens ++ ends)).2 = [] ∧
      (takeTrivia [] (tokens.map change ++ otherEnds)).2 = []) ∨
    ∃ comments otherComments token back, TreesAlike change comments.reverse otherComments.reverse ∧
      token ∈ tokens ∧ Faithful change (token :: back) ∧
      takeTrivia [] (tokens ++ ends) = (comments, token :: back ++ ends) ∧
      takeTrivia [] (tokens.map change ++ otherEnds) =
        (otherComments, (token :: back).map change ++ otherEnds) := by
  rcases span Token.isTrivia tokens with all | ⟨front, token, back, rfl, all, refused⟩
  · have otherAll := isTrivia_change faithful.keeps all
    exact .inl ⟨takeTrivia_all (isTrivia_append_lineEnds all allEnds),
      takeTrivia_all (isTrivia_append_lineEnds otherAll allOtherEnds)⟩
  · have frontKeeps : ∀ other ∈ front, Keeps change other := fun other member =>
      faithful.keeps other (List.mem_append_left _ member)
    have inTokens : token ∈ front ++ token :: back := by simp
    have otherRefused : (change token).isTrivia = false := by
      rw [(faithful.keeps token inTokens).isTrivia, refused]
    have left := takeTrivia_front all refused (back ++ ends)
    have right := takeTrivia_front (isTrivia_change frontKeeps all) otherRefused
      (back.map change ++ otherEnds)
    rw [List.map_append, List.append_assoc, List.append_assoc]
    refine .inr ⟨_, _, token, back, ?_, inTokens, ?_, left, right⟩
    · rw [List.reverse_reverse, List.reverse_reverse]
      exact comments_alike frontKeeps
    · exact faithful.of_subset (List.subset_append_right front (token :: back))

private theorem leaf_alike {token : Token} (keeps : Keeps change token) :
    TreesAlike change [.leaf token] [.leaf (change token)] := by
  have single : ∀ other ∈ [token], Keeps change other := by simpa using keeps
  exact alterForest_leaves single

private theorem matchToken_alike (terminal : Terminal) {left right : List Token}
    (tokens : TokensAlike change left right) :
    List.Forall₂ (Corresponds (TokensAlike change) (TreesAlike change))
      (matchToken terminal left) (matchToken terminal right) := by
  rcases tokens with ⟨tokens, ends, otherEnds, rfl, rfl, faithful, allEnds, allOtherEnds⟩
  rw [matchToken, matchToken]
  rcases trivia_cases faithful allEnds allOtherEnds with ⟨noMatch, otherNone⟩ |
    ⟨comments, otherComments, token, back, alike, inTokens, later, leftEq, rightEq⟩
  · split
    · rename_i next equal
      rw [equal] at noMatch
      cases noMatch
    · split
      · rename_i next equal
        rw [equal] at otherNone
        cases otherNone
      · exact .nil
  · have keeps := faithful.keeps token inTokens
    rw [leftEq, rightEq]
    simp only [List.cons_append, List.map_cons, accepts_change keeps]
    split
    · refine .cons ⟨?_, ?_⟩ .nil
      · rw [List.reverse_cons, List.reverse_cons]
        exact alike.append (leaf_alike keeps)
      · exact ⟨back, ends, otherEnds, rfl, rfl,
          later.of_subset (List.subset_cons_self ..), allEnds, allOtherEnds⟩
    · exact .nil

private theorem matchGlued_alike (marks : List Char) {stop otherStop : Nat}
    {found otherFound : List Tree} {tokens ends otherEnds : List Token}
    (faithful : Faithful change tokens) (allEnds : AllLineEnds ends)
    (allOtherEnds : AllLineEnds otherEnds)
    (touches : ∀ token ∈ tokens.head?, (token.start = stop ↔ (change token).start = otherStop))
    (alike : TreesAlike change found.reverse otherFound.reverse) :
    List.Forall₂ (Corresponds (TokensAlike change) (TreesAlike change))
      (matchGlued stop found marks (tokens ++ ends))
      (matchGlued otherStop otherFound marks (tokens.map change ++ otherEnds)) := by
  induction marks generalizing stop otherStop found otherFound tokens with
  | nil =>
      exact .cons ⟨alike, tokens, ends, otherEnds, rfl, rfl, faithful, allEnds, allOtherEnds⟩ .nil
  | cons char marks induction =>
      have noMark : ∀ {ends : List Token}, AllLineEnds ends → ∀ stop found,
          matchGlued stop found (char :: marks) ends = [] := by
        intro ends allEnds stop found
        cases ends with
        | nil => rfl
        | cons token ends =>
            simp [matchGlued, allEnds token (List.mem_cons_self ..)]
      cases tokens with
      | nil =>
          rw [List.map_nil, List.nil_append, List.nil_append, noMark allEnds, noMark allOtherEnds]
          exact .nil
      | cons token tokens =>
          have keeps := faithful.keeps token (List.mem_cons_self ..)
          have here := touches token rfl
          have same : ((change token).start == otherStop) = (token.start == stop) := by
            rw [Bool.eq_iff_iff, beq_iff_eq, beq_iff_eq, here]
          rw [List.map_cons, List.cons_append, List.cons_append, matchGlued, matchGlued, keeps.kind,
            same]
          split
          · apply induction (faithful.of_subset (List.subset_cons_self ..))
            · intro next isNext
              exact faithful.touch token (List.mem_cons_self ..) next
                (List.mem_cons_of_mem _ (List.mem_of_head? isNext))
            · rw [List.reverse_cons, List.reverse_cons]
              exact alike.append (leaf_alike keeps)
          · exact .nil

private theorem matchMarks_alike (marks : List Char) {left right : List Token}
    (tokens : TokensAlike change left right) :
    List.Forall₂ (Corresponds (TokensAlike change) (TreesAlike change))
      (matchMarks marks left) (matchMarks marks right) := by
  rcases tokens with ⟨tokens, ends, otherEnds, rfl, rfl, faithful, allEnds, allOtherEnds⟩
  rw [matchMarks, matchMarks]
  rcases trivia_cases faithful allEnds allOtherEnds with ⟨noMatch, otherNone⟩ |
    ⟨comments, otherComments, token, back, alike, inTokens, later, leftEq, rightEq⟩
  · split
    · rename_i next equal
      rw [equal] at noMatch
      cases noMatch
    · split
      · rename_i next equal
        rw [equal] at otherNone
        cases otherNone
      · exact .nil
  · rw [leftEq, rightEq]
    refine matchGlued_alike marks later allEnds allOtherEnds ?_ alike
    intro first isFirst
    rcases Option.some.inj isFirst with rfl
    exact iff_of_true rfl rfl

/-- On both sides only comments are left before the line ends at the end, or the
same token comes next behind them. -/
private theorem comments_cases {tokens : List Token} (faithful : Faithful change tokens)
    (ends otherEnds : List Token) :
    (∀ token ∈ tokens, token.isComment = true) ∨
    ∃ comments otherComments token back, TreesAlike change comments.reverse otherComments.reverse ∧
      token ∈ tokens ∧ Faithful change back ∧
      takeComments [] (tokens ++ ends) = (comments, token :: (back ++ ends)) ∧
      takeComments [] (tokens.map change ++ otherEnds) =
        (otherComments, change token :: (back.map change ++ otherEnds)) := by
  rcases span Token.isComment tokens with all | ⟨front, token, back, rfl, all, refused⟩
  · exact .inl all
  · have frontKeeps : ∀ other ∈ front, Keeps change other := fun other member =>
      faithful.keeps other (List.mem_append_left _ member)
    have inTokens : token ∈ front ++ token :: back := by simp
    have otherRefused : (change token).isComment = false := by
      rw [(faithful.keeps token inTokens).isComment, refused]
    have left := takeComments_front all refused (back ++ ends)
    have right := takeComments_front (isComment_change frontKeeps all) otherRefused
      (back.map change ++ otherEnds)
    rw [List.map_append, List.append_assoc, List.append_assoc]
    refine .inr ⟨_, _, token, back, ?_, inTokens, ?_, left, right⟩
    · rw [List.reverse_reverse, List.reverse_reverse]
      exact alterForest_leaves frontKeeps
    · refine faithful.of_subset ?_
      intro other member
      simp [member]

/-- The end of the source and the first of the line ends before it end a statement. -/
private theorem matchTerminator_lineEnds {comments ends : List Token}
    (all : ∀ token ∈ comments, token.isComment = true) (allEnds : AllLineEnds ends) :
    matchTerminator (comments ++ ends) =
      [(comments.map Tree.leaf ++ (ends.take 1).map Tree.leaf, ends.tail)] := by
  rw [matchTerminator]
  cases ends with
  | nil => simp [takeComments_all all]
  | cons token ends =>
      have isLineEnd := allEnds token (List.mem_cons_self ..)
      rw [takeComments_front all (by simp [Token.isComment, isLineEnd])]
      simp [isLineEnd]

private theorem matchTerminator_alike {left right : List Token}
    (tokens : TokensAlike change left right) :
    List.Forall₂ (Corresponds (TokensAlike change) (TreesAlike change))
      (matchTerminator left) (matchTerminator right) := by
  rcases tokens with ⟨tokens, ends, otherEnds, rfl, rfl, faithful, allEnds, allOtherEnds⟩
  rcases comments_cases faithful ends otherEnds with all |
    ⟨comments, otherComments, token, back, alike, inTokens, later, leftEq, rightEq⟩
  · rw [matchTerminator_lineEnds all allEnds,
      matchTerminator_lineEnds (isComment_change faithful.keeps all) allOtherEnds]
    have firstEnds : AllLineEnds (ends.take 1) := fun token member =>
      allEnds token (List.mem_of_mem_take member)
    have firstOtherEnds : AllLineEnds (otherEnds.take 1) := fun token member =>
      allOtherEnds token (List.mem_of_mem_take member)
    refine .cons ⟨?_, ?_⟩ .nil
    · refine (alterForest_leaves faithful.keeps).append ?_
      rw [TreesAlike, alterForest_lineEnds firstEnds, alterForest_lineEnds firstOtherEnds]
    · refine ⟨[], ends.tail, otherEnds.tail, rfl, rfl, faithful.of_subset (List.nil_subset _), ?_, ?_⟩
      · exact fun token member => allEnds token (List.mem_of_mem_tail member)
      · exact fun token member => allOtherEnds token (List.mem_of_mem_tail member)
  · have keeps := faithful.keeps token inTokens
    have single : List.Forall₂ (Corresponds (TokensAlike change) (TreesAlike change))
        [((.leaf token :: comments).reverse, back ++ ends)]
        [((.leaf (change token) :: otherComments).reverse, back.map change ++ otherEnds)] := by
      refine .cons ⟨?_, back, ends, otherEnds, rfl, rfl, later, allEnds, allOtherEnds⟩ .nil
      rw [List.reverse_cons, List.reverse_cons]
      exact alike.append (leaf_alike keeps)
    rw [matchTerminator, matchTerminator, leftEq, rightEq]
    simp only [keeps.kind]
    split
    · exact single
    · exact single
    · exact single
    · exact .nil

private theorem continuesLine_lineEnds {comments ends : List Token}
    (all : ∀ token ∈ comments, token.isComment = true) (allEnds : AllLineEnds ends) :
    continuesLine (comments ++ ends) = false := by
  rw [continuesLine]
  cases ends with
  | nil => simp [takeComments_all all]
  | cons token ends =>
      have isLineEnd := allEnds token (List.mem_cons_self ..)
      rw [takeComments_front all (by simp [Token.isComment, isLineEnd])]
      simp [isLineEnd]

private theorem continuesLine_alike {left right : List Token}
    (tokens : TokensAlike change left right) : continuesLine left = continuesLine right := by
  rcases tokens with ⟨tokens, ends, otherEnds, rfl, rfl, faithful, allEnds, allOtherEnds⟩
  rcases comments_cases faithful ends otherEnds with all |
    ⟨comments, otherComments, token, back, -, inTokens, -, leftEq, rightEq⟩
  · rw [continuesLine_lineEnds all allEnds,
      continuesLine_lineEnds (isComment_change faithful.keeps all) allOtherEnds]
  · rw [continuesLine, continuesLine, leftEq, rightEq]
    simp only [(faithful.keeps token inTokens).kind]

end Steps

/-! ## The parser -/

theorem simulation_of_change (change : Token → Token) :
    Simulation (TokensAlike change) (TreesAlike change) where
  token terminal _ _ tokens := matchToken_alike terminal tokens
  spelled marks _ _ tokens := matchMarks_alike marks tokens
  terminator _ _ tokens := matchTerminator_alike tokens
  line _ _ tokens := continuesLine_alike tokens
  nil := rfl
  append alike moreAlike := alike.append moreAlike
  node kind alike := by
    rw [TreesAlike] at alike ⊢
    simp [alterForest, Tree.isLineEnd, Tree.alter, alike]
  graft alike nodes := by
    rw [TreesAlike] at alike nodes ⊢
    simp only [alterForest, Tree.isLineEnd, Tree.alter, Bool.false_eq_true, if_false,
      List.cons.injEq, Tree.node.injEq, and_true, alterForest_append, alike] at nodes ⊢
    exact ⟨nodes.1, by rw [nodes.2]⟩

private theorem isFinished_iff {tokens : List Token} :
    isFinished tokens = true ↔ ∀ token ∈ tokens, token.isTrivia = true := by
  rw [isFinished, List.all_eq_true]
  rfl

private theorem isFinished_alike {change : Token → Token} {left right : List Token}
    (tokens : TokensAlike change left right) : isFinished left = isFinished right := by
  rcases tokens with ⟨tokens, ends, otherEnds, rfl, rfl, faithful, allEnds, allOtherEnds⟩
  rw [Bool.eq_iff_iff, isFinished_iff, isFinished_iff]
  constructor
  · intro all
    refine isTrivia_append_lineEnds (isTrivia_change faithful.keeps ?_) allOtherEnds
    exact fun token member => all token (List.mem_append_left _ member)
  · intro all
    refine isTrivia_append_lineEnds ?_ allEnds
    intro token member
    rw [← (faithful.keeps token member).isTrivia]
    exact all _ (List.mem_append_left _ (List.mem_map_of_mem member))

private theorem find?_alike {change : Token → Token} {left right : List Match}
    (related : List.Forall₂ (Corresponds (TokensAlike change) (TreesAlike change)) left right)
    {found : Match} (isFirst : left.find? (fun (_, rest) => isFinished rest) = some found) :
    ∃ otherFound, right.find? (fun (_, rest) => isFinished rest) = some otherFound ∧
      TreesAlike change found.1 otherFound.1 := by
  induction related with
  | nil => cases isFirst
  | @cons first second left right here _ induction =>
      have same := isFinished_alike here.2
      rw [List.find?_cons] at isFirst ⊢
      dsimp only at isFirst ⊢
      rw [← same]
      cases finished : isFinished first.2 with
      | true =>
          rw [finished] at isFirst
          rcases Option.some.inj isFirst with rfl
          exact ⟨second, rfl, here.1⟩
      | false =>
          rw [finished] at isFirst
          exact induction isFirst

/-- What the rule of a source builds is a single node of the shape that the grammar
promises. -/
private theorem exists_source_of_derives {tokens : List Token} {trees : List Tree}
    {rest : List Token} (derives : Derives Grammar.rule (.ref .sourceFile) tokens trees rest) :
    ∃ children, trees = [.node .sourceFile children] ∧ (Tree.node .sourceFile children).Proper := by
  have audited : Rule.audit Symbol.isLoose (.ref Symbol.sourceFile) = true := rfl
  have shaped := derives.shaped Grammar.audit_rule (fun _ => Grammar.isLoose_rule) audited
  have proper := shaped.proper
  cases derives with
  | ref inner =>
      cases inner with
      | node => exact ⟨_, rfl, proper.1⟩

/-- A change that keeps all tokens of a derived tree may be made in it. -/
private theorem alterable_of_deriveTree? {change : Token → Token} {tokens : List Token} {tree : Tree}
    (keeps : ∀ token ∈ tokens, Keeps change token) (derived : deriveTree? tokens = some tree) :
    Alterable change tree := by
  rcases derives_of_deriveTree? derived with ⟨_, -, derives⟩
  rcases exists_source_of_derives derives with ⟨children, equal, proper⟩
  rcases List.singleton_inj.mp equal with rfl
  refine ⟨proper, fun token member => keeps token (derives.tokens_subset.1 ?_)⟩
  rwa [forestTokens, forestTokens, List.append_nil]

/-- The grammar derives a tree from the changed tokens; but for line ends, it is the changed
tree. -/
private theorem exists_deriveTree?_alike {change : Token → Token} {left right : List Token}
    {tree : Tree} (alike : TokensAlike change left right) (derived : deriveTree? left = some tree) :
    ∃ otherTree, deriveTree? right = some otherTree ∧ tree.alter change = otherTree.alter id := by
  have audited : Rule.audit Symbol.isLoose (.ref Symbol.sourceFile) = true := rfl
  have matched := (simulation_of_change change).matches_alike Grammar.audit_rule
    (fun _ => Grammar.isLoose_rule) (nestingBound (max left.length right.length)) audited left right
    alike
  -- Both bounds are large enough, so the larger one may stand for either.
  rw [matches_sourceFile_eq (Nat.le_max_left ..), matches_sourceFile_eq (Nat.le_max_right ..)]
    at matched
  rw [deriveTree?] at derived
  split at derived
  case h_2 => cases derived
  rename_i found finished isFirst
  rcases Option.some.inj derived with rfl
  rcases find?_alike matched isFirst with ⟨⟨otherTrees, otherRest⟩, otherFirst, trees⟩
  have derives := derives_of_mem_matches (List.mem_of_find?_eq_some isFirst)
  have otherDerives := derives_of_mem_matches (List.mem_of_find?_eq_some otherFirst)
  rcases exists_source_of_derives derives with ⟨children, equal, -⟩
  rcases List.singleton_inj.mp equal with rfl
  rcases exists_source_of_derives otherDerives with ⟨otherChildren, rfl, -⟩
  refine ⟨.node .sourceFile otherChildren, by simp only [deriveTree?, otherFirst], ?_⟩
  simpa [TreesAlike, alterForest, Tree.isLineEnd] using trees

/-- The parser accepts the changed tokens, and finds the changed literals. Where a line end
was needed at the end, there must still be one. -/
theorem exists_parseTokens?_alike {change : Token → Token} {left right : List Token} {tree : Tree}
    (alike : TokensAlike change left right) (keeps : ∀ token ∈ left, Keeps change token)
    (ends : endsLine left = true → endsLine right = true)
    (parsed : parseTokens? left = some tree) :
    ∃ otherTree, parseTokens? right = some otherTree ∧
      ∀ shape : Site.Shape, shape.literals otherTree =
        (shape.literals tree).map (Prod.map change id) := by
  rcases parseTokens?_eq_some_iff.mp parsed with ⟨derived, ended⟩
  rcases exists_deriveTree?_alike alike derived with ⟨otherTree, otherDerived, same⟩
  have alterable := alterable_of_deriveTree? keeps derived
  have otherAlterable : Alterable id otherTree :=
    alterable_of_deriveTree? (fun _ _ => ⟨rfl, fun _ => rfl⟩) otherDerived
  refine ⟨otherTree, parseTokens?_eq_some_iff.mpr ⟨otherDerived, ended.imp ends ?_⟩, ?_⟩
  · rw [← Tree.mayEnd_alter alterable.keeps, same, Tree.mayEnd_alter otherAlterable.keeps]
    exact id
  · intro shape
    rw [← Site.literals_alter shape alterable, same, Site.literals_alter shape otherAlterable]
    exact (List.map_id _).symm

end QueryPipe.Go
