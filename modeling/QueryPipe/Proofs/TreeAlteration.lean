import QueryPipe.Proofs.GrammarShape
import QueryPipe.Proofs.Locating

/-! Trees whose tokens are changed and whose line ends are left out. Where string
literals change their texts only and other tokens keep theirs, the changed tree has
the changed literals. -/

namespace QueryPipe

namespace Go

def Tree.isLineEnd : Tree → Bool
  | .leaf token => token.kind == .lineEnd
  | .node _ _ => false

mutual

/-- A tree with its tokens changed, and without line ends below it. -/
def Tree.alter (change : Token → Token) : Tree → Tree
  | .leaf token => .leaf (change token)
  | .node kind children => .node kind (alterForest change children)

def alterForest (change : Token → Token) : List Tree → List Tree
  | [] => []
  | tree :: rest =>
    if tree.isLineEnd then alterForest change rest
    else tree.alter change :: alterForest change rest

end

/-- The change keeps the kind of a token, and the text of all but string literals. -/
structure Keeps (change : Token → Token) (token : Token) : Prop where
  kind : (change token).kind = token.kind
  text : token.kind ≠ .stringLiteral → (change token).text = token.text

variable {change : Token → Token}

theorem Keeps.isTrivia {token : Token} (keeps : Keeps change token) :
    (change token).isTrivia = token.isTrivia := by
  rw [Token.isTrivia, Token.isTrivia, keeps.kind]

theorem Keeps.isComment {token : Token} (keeps : Keeps change token) :
    (change token).isComment = token.isComment := by
  rw [Token.isComment, Token.isComment, keeps.kind]

theorem alterForest_eq (trees : List Tree) :
    alterForest change trees = (trees.filter (!·.isLineEnd)).map (Tree.alter change) := by
  induction trees with
  | nil => rfl
  | cons tree trees induction =>
      rw [alterForest, induction]
      cases lineEnd : tree.isLineEnd <;> simp [lineEnd]

@[simp] theorem alterForest_append (first second : List Tree) :
    alterForest change (first ++ second) = alterForest change first ++ alterForest change second := by
  simp [alterForest_eq]

@[simp] theorem Tree.hasKind_alter (kind : NodeKind) (tree : Tree) :
    (tree.alter change).hasKind kind = tree.hasKind kind := by
  cases tree <;> rfl

theorem Tree.isComment_alter {tree : Tree} (keeps : ∀ token ∈ tree.tokens, Keeps change token) :
    (tree.alter change).isComment = tree.isComment := by
  cases tree with
  | leaf token =>
      rw [Tree.alter, Tree.isComment, Tree.isComment, (keeps token (by simp [Tree.tokens])).kind]
  | node => rfl

theorem Tree.isTrivia_alter {tree : Tree} (keeps : ∀ token ∈ tree.tokens, Keeps change token) :
    (tree.alter change).isTrivia = tree.isTrivia := by
  cases tree with
  | leaf token =>
      rw [Tree.alter, Tree.isTrivia, Tree.isTrivia, (keeps token (by simp [Tree.tokens])).isTrivia]
  | node => rfl

theorem ForestProper.of_mem {tree : Tree} {trees : List Tree} (proper : ForestProper trees)
    (member : tree ∈ trees) : tree.Proper := by
  induction trees with
  | nil => cases member
  | cons first trees induction =>
      rw [ForestProper] at proper
      rcases List.mem_cons.mp member with rfl | member
      · exact proper.1
      · exact induction proper.2 member

/-! ## Parts of an altered tree -/

/-- A tree of the shape that the grammar promises, whose tokens the change keeps. -/
structure Alterable (change : Token → Token) (tree : Tree) : Prop where
  proper : tree.Proper
  keeps : ∀ token ∈ tree.tokens, Keeps change token

theorem Alterable.of_part {tree part : Tree} (alterable : Alterable change tree)
    (member : part ∈ tree.parts) : Alterable change part := by
  have inside := Site.tokens_subset_of_mem_parts member
  refine ⟨?_, fun token found => alterable.keeps token (inside found)⟩
  cases tree with
  | leaf => cases member
  | node kind children =>
      have proper := alterable.proper
      rw [Tree.Proper] at proper
      exact proper.2.2.of_mem (List.mem_of_mem_filter member)

theorem Alterable.parts_alter {tree : Tree} (alterable : Alterable change tree) :
    (tree.alter change).parts =
      (tree.parts.filter (!·.isLineEnd)).map (Tree.alter change) := by
  cases tree with
  | leaf token => rfl
  | node kind children =>
      have comments : ∀ child ∈ children, (child.alter change).isComment = child.isComment := by
        intro child member
        apply Tree.isComment_alter
        intro token inChild
        apply alterable.keeps
        rw [Tree.tokens]
        exact tokens_subset_forestTokens member inChild
      rw [Tree.alter, Tree.parts, Tree.parts, alterForest_eq, List.filter_map, List.filter_filter,
        List.filter_filter]
      congr 1
      apply List.filter_congr
      intro child member
      simp [comments child member, Bool.and_comm]

theorem Alterable.parts_alter_of_noStatements {kind : NodeKind} {children : List Tree}
    (alterable : Alterable change (.node kind children))
    (noStatements : kind.holdsStatements = false) :
    (Tree.alter change (.node kind children)).parts =
      (Tree.node kind children).parts.map (Tree.alter change) := by
  have proper := alterable.proper
  rw [Tree.Proper] at proper
  rw [alterable.parts_alter]
  congr 1
  apply List.filter_eq_self.mpr
  intro part member
  cases part with
  | node => rfl
  | leaf token =>
      have noLineEnd := proper.1 noStatements token (List.mem_of_mem_filter member)
      simp [Tree.isLineEnd, noLineEnd]

theorem Alterable.last_part {kind : NodeKind} {children : List Tree}
    (alterable : Alterable change (.node kind children)) (isNamed : kind.isNamed = true) :
    EndsInWord (Tree.node kind children).parts := by
  have proper := alterable.proper
  rw [Tree.Proper] at proper
  rcases proper.2.1 isNamed with ⟨token, last, isWord⟩
  rcases List.getLast?_eq_some_iff.mp last with ⟨front, rfl⟩
  have noComment : (Tree.leaf token).isComment = false := by
    unfold Token.isWord at isWord
    cases kindEq : token.kind <;> simp [kindEq] at isWord <;> simp [Tree.isComment, kindEq]
  refine ⟨token, ?_, isWord⟩
  simp [Tree.parts, noComment]

theorem Alterable.stringLiteral?_alter {tree : Tree} (alterable : Alterable change tree) :
    (tree.alter change).stringLiteral? = tree.stringLiteral?.map change := by
  cases tree with
  | leaf token =>
      have kept := (alterable.keeps token (by simp [Tree.tokens])).kind
      rw [Tree.alter, Tree.stringLiteral?, Tree.stringLiteral?, kept]
      split <;> rfl
  | node => rfl

theorem Alterable.operandName?_alter {tree : Tree} (alterable : Alterable change tree) :
    (tree.alter change).operandName? = tree.operandName? := by
  cases tree with
  | leaf token =>
      have keeps := alterable.keeps token (by simp [Tree.tokens])
      rw [Tree.alter, Tree.operandName?, Tree.operandName?, keeps.kind]
      split
      · rename_i kindEq
        rw [keeps.text (by simp [kindEq])]
      · rename_i kindEq
        rw [keeps.text (by simp [kindEq])]
      · rename_i kindEq
        rw [keeps.text (by simp [kindEq])]
      · rfl
  | node => rfl

private theorem text?_alter_of_isWord {token : Token} (keeps : Keeps change token)
    (isWord : token.isWord = true) :
    ((Tree.leaf token).alter change).text? = (Tree.leaf token).text? := by
  rw [Tree.alter, Tree.text?, Tree.text?, keeps.text]
  intro kindEq
  rw [Token.isWord, kindEq] at isWord
  cases isWord

/-- The last of three parts of a named node keeps its text. -/
theorem Alterable.text?_last {kind : NodeKind} {children : List Tree}
    (alterable : Alterable change (.node kind children)) (isNamed : kind.isNamed = true)
    {first second last : Tree} (parts : (Tree.node kind children).parts = [first, second, last]) :
    (last.alter change).text? = last.text? := by
  rcases alterable.last_part isNamed with ⟨token, lastEq, isWord⟩
  rw [parts] at lastEq
  rcases Option.some.inj lastEq with rfl
  have isPart : Tree.leaf token ∈ (Tree.node kind children).parts := by simp [parts]
  exact text?_alter_of_isWord ((alterable.of_part isPart).keeps token (by simp [Tree.tokens])) isWord

/-! ## The end of an altered tree -/

theorem Tree.isTrivia_of_isLineEnd {tree : Tree} (lineEnd : tree.isLineEnd = true) :
    tree.isTrivia = true := by
  cases tree with
  | leaf token =>
      rw [Tree.isLineEnd] at lineEnd
      rw [Tree.isTrivia, Token.isTrivia, lineEnd, Bool.or_true]
  | node => cases lineEnd

private theorem all_isTrivia_alterForest {trees : List Tree}
    (keeps : ∀ token ∈ forestTokens trees, Keeps change token) :
    (alterForest change trees).all (·.isTrivia) = trees.all (·.isTrivia) := by
  induction trees with
  | nil => rfl
  | cons tree trees induction =>
      rw [forestTokens] at keeps
      have later := induction fun token member => keeps token (List.mem_append_right _ member)
      have here := Tree.isTrivia_alter fun token member =>
        keeps token (List.mem_append_left _ member)
      rw [alterForest, List.all_cons]
      cases lineEnd : tree.isLineEnd with
      | true => simpa [Tree.isTrivia_of_isLineEnd lineEnd] using later
      | false => simp [here, later]

private theorem forestEndsInValue_of_trivia {trees : List Tree}
    (trivia : trees.all (·.isTrivia) = true) : forestEndsInValue trees = false := by
  cases trees with
  | nil => rfl
  | cons tree trees =>
      rw [List.all_cons, Bool.and_eq_true] at trivia
      rw [forestEndsInValue, if_pos trivia.2]
      cases tree with
      | leaf => rfl
      | node => cases trivia.1

mutual

theorem Tree.endsInValue_alter : ∀ {tree : Tree}, (∀ token ∈ tree.tokens, Keeps change token) →
    (tree.alter change).endsInValue = tree.endsInValue
  | .leaf _, _ => rfl
  | .node kind children, keeps => by
      rw [Tree.tokens] at keeps
      rw [Tree.alter, Tree.endsInValue, Tree.endsInValue, forestEndsInValue_alter keeps]

theorem forestEndsInValue_alter : ∀ {trees : List Tree},
    (∀ token ∈ forestTokens trees, Keeps change token) →
    forestEndsInValue (alterForest change trees) = forestEndsInValue trees
  | [], _ => rfl
  | tree :: rest, keeps => by
      rw [forestTokens] at keeps
      have restKeeps := fun token member => keeps token (List.mem_append_right _ member)
      have later := forestEndsInValue_alter restKeeps
      have here := Tree.endsInValue_alter fun token member =>
        keeps token (List.mem_append_left _ member)
      rw [alterForest, forestEndsInValue]
      cases lineEnd : tree.isLineEnd with
      | true =>
          rw [if_pos rfl, later]
          split
          · rename_i trivia
            rw [forestEndsInValue_of_trivia trivia]
            cases tree with
            | leaf => rfl
            | node => cases lineEnd
          · rfl
      | false =>
          rw [if_neg (by simp), forestEndsInValue, all_isTrivia_alterForest restKeeps, here, later]

end

/-- Without line ends, and with its tokens changed, a source may end where it might end. -/
theorem Tree.mayEnd_alter {tree : Tree} (keeps : ∀ token ∈ tree.tokens, Keeps change token) :
    (tree.alter change).mayEnd = tree.mayEnd := by
  cases tree with
  | leaf => rfl
  | node kind children =>
      rw [Tree.tokens] at keeps
      have childKeeps : ∀ child ∈ children, ∀ token ∈ child.tokens, Keeps change token :=
        fun child member token inChild => keeps token (tokens_subset_forestTokens member inChild)
      have kept : (alterForest change children).filter (!·.isTrivia) =
          (children.filter (!·.isTrivia)).map (Tree.alter change) := by
        rw [alterForest_eq, List.filter_map, List.filter_filter]
        congr 1
        apply List.filter_congr
        intro child member
        cases lineEnd : child.isLineEnd with
        | true => simp [Tree.isTrivia_of_isLineEnd lineEnd]
        | false => simp [Tree.isTrivia_alter (childKeeps child member)]
      rw [Tree.alter, Tree.mayEnd, Tree.mayEnd, kept, List.getLast?_map]
      cases last : (children.filter (!·.isTrivia)).getLast? with
      | none => rfl
      | some child =>
          have member := List.mem_of_mem_filter (List.mem_of_getLast? last)
          have ends := Tree.endsInValue_alter (childKeeps child member)
          cases child with
          | leaf token =>
              have kind := (childKeeps _ member token (by simp [Tree.tokens])).kind
              simp only [Option.map_some, Tree.alter, kind]
          | node childKind grandchildren =>
              rw [Tree.alter] at ends
              simp only [Option.map_some, Tree.alter, ends, Tree.hasKind]

end Go

namespace Site

open Go (Tree Token Alterable alterForest forestTokens)

variable {change : Token → Token}

/-! ## Literals of an altered tree -/

private theorem isTargetType_alter {type : Tree} (alterable : Alterable change type)
    (shape : Shape) : shape.isTargetType (type.alter change) = shape.isTargetType type := by
  rw [Shape.isTargetType, Shape.isTargetType, Tree.hasKind_alter]
  cases type with
  | leaf => rfl
  | node kind children =>
      by_cases qualified : kind = .qualifiedType
      · subst qualified
        have named := @Alterable.text?_last change _ children alterable rfl
        rw [alterable.parts_alter_of_noStatements rfl]
        generalize (Go.Tree.node _ children).parts = parts at named ⊢
        rcases parts with _ | ⟨first, _ | ⟨second, _ | ⟨last, _ | ⟨fourth, rest⟩⟩⟩⟩
        · rfl
        · rfl
        · rfl
        · simp [named rfl]
        · rfl
      · rw [Tree.hasKind, beq_eq_false_iff_ne.mpr qualified, Bool.false_and, Bool.false_and]

private theorem isFormatFunction_alter {function : Tree} (alterable : Alterable change function)
    (shape : Shape) :
    shape.isFormatFunction (function.alter change) = shape.isFormatFunction function := by
  rw [Shape.isFormatFunction, Shape.isFormatFunction, Tree.hasKind_alter]
  cases function with
  | leaf => rfl
  | node kind children =>
      by_cases selector : kind = .selector
      · subst selector
        have named := @Alterable.text?_last change _ children alterable rfl
        have parts_alterable := fun part => @Alterable.of_part change _ part alterable
        rw [alterable.parts_alter_of_noStatements rfl]
        generalize (Go.Tree.node _ children).parts = parts at named parts_alterable ⊢
        rcases parts with _ | ⟨first, _ | ⟨second, _ | ⟨last, _ | ⟨fourth, rest⟩⟩⟩⟩
        · rfl
        · rfl
        · rfl
        · simp [named rfl, (parts_alterable first (by simp)).operandName?_alter]
        · rfl
      · rw [Tree.hasKind, beq_eq_false_iff_ne.mpr selector, Bool.false_and, Bool.false_and]

private theorem firstArgument?_alter {call : Tree} (alterable : Alterable change call)
    (isCall : call.hasKind .call = true) :
    firstArgument? (call.alter change) = (firstArgument? call).map (Tree.alter change) := by
  cases call with
  | leaf => cases isCall
  | node kind children =>
      rcases beq_iff_eq.mp isCall with rfl
      rw [firstArgument?, firstArgument?, alterable.parts_alter_of_noStatements rfl,
        List.getLast?_map]
      cases last : (Go.Tree.node .call children).parts.getLast? with
      | none => rfl
      | some arguments =>
          simp only [Option.map_some, Tree.hasKind_alter]
          split
          · rename_i isArguments
            have inner := alterable.of_part (List.mem_of_getLast? last)
            cases arguments with
            | leaf => cases isArguments
            | node argumentsKind elements =>
                rcases beq_iff_eq.mp isArguments with rfl
                rw [inner.parts_alter_of_noStatements rfl, List.getElem?_map]
          · rfl

private theorem alterable_firstArgument? {call argument : Tree} (alterable : Alterable change call)
    (isFirst : firstArgument? call = some argument) : Alterable change argument := by
  rw [firstArgument?] at isFirst
  split at isFirst
  · rename_i arguments isLast
    split at isFirst
    · exact (alterable.of_part (List.mem_of_getLast? isLast)).of_part (List.mem_of_getElem? isFirst)
    · cases isFirst
  · cases isFirst

private theorem literalOfValue?_alter {value : Tree} (alterable : Alterable change value)
    (shape : Shape) :
    shape.literalOfValue? (value.alter change) =
      (shape.literalOfValue? value).map (Prod.map change id) := by
  rw [Shape.literalOfValue?, Shape.literalOfValue?, alterable.stringLiteral?_alter]
  cases value.stringLiteral? with
  | some token => rfl
  | none =>
      simp only [Option.map_none, Tree.hasKind_alter]
      cases isCall : value.hasKind .call with
      | false => rfl
      | true =>
          have formats : (value.alter change).parts.head?.any shape.isFormatFunction =
              value.parts.head?.any shape.isFormatFunction := by
            cases value with
            | leaf => rfl
            | node kind children =>
                rcases beq_iff_eq.mp isCall with rfl
                rw [alterable.parts_alter_of_noStatements rfl, List.head?_map]
                cases first : (Go.Tree.node .call children).parts.head? with
                | none => rfl
                | some function =>
                    have inner := alterable.of_part (List.mem_of_head? first)
                    exact isFormatFunction_alter inner shape
          rw [formats, Bool.true_and]
          split
          · rw [firstArgument?_alter alterable isCall]
            cases isFirst : firstArgument? value with
            | none => rfl
            | some argument =>
                have inner := alterable_firstArgument? alterable isFirst
                simp only [Option.map_some, Option.bind_some, inner.stringLiteral?_alter]
                cases argument.stringLiteral? <;> rfl
          · rfl

private theorem literalOfElement?_alter {element : Tree} (alterable : Alterable change element)
    (shape : Shape) :
    shape.literalOfElement? (element.alter change) =
      (shape.literalOfElement? element).map (Prod.map change id) := by
  rw [Shape.literalOfElement?, Shape.literalOfElement?, Tree.hasKind_alter]
  cases element with
  | leaf => rfl
  | node kind children =>
      by_cases keyed : kind = .keyedElement
      · subst keyed
        have parts_alterable := fun part => @Alterable.of_part change _ part alterable
        rw [alterable.parts_alter_of_noStatements rfl]
        generalize (Go.Tree.node _ children).parts = parts at parts_alterable ⊢
        rcases parts with _ | ⟨key, _ | ⟨colon, _ | ⟨value, _ | ⟨fourth, rest⟩⟩⟩⟩
        · rfl
        · rfl
        · rfl
        · simp only [List.map_cons, List.map_nil, Tree.hasKind, beq_self_eq_true, if_true,
            (parts_alterable key (by simp)).operandName?_alter,
            literalOfValue?_alter (parts_alterable value (by simp))]
          split <;> rfl
        · rfl
      · simp [Tree.hasKind, keyed]

private theorem filterMap_alter {parts : List Tree}
    (alterable : ∀ part ∈ parts, Alterable change part) (shape : Shape) :
    ((parts.filter (!·.isLineEnd)).map (Tree.alter change)).filterMap shape.literalOfElement? =
      (parts.filterMap shape.literalOfElement?).map (Prod.map change id) := by
  induction parts with
  | nil => rfl
  | cons part parts induction =>
      have later := induction fun other member => alterable other (List.mem_cons_of_mem _ member)
      have here := literalOfElement?_alter (alterable part (List.mem_cons_self ..)) shape
      cases lineEnd : part.isLineEnd with
      | true =>
          have noElement : shape.literalOfElement? part = none := by
            cases part with
            | leaf => rfl
            | node => cases lineEnd
          rw [List.filter_cons_of_neg (by simp [lineEnd]), later, List.filterMap_cons, noElement]
      | false =>
          rw [List.filter_cons_of_pos (by simp [lineEnd]), List.map_cons, List.filterMap_cons, here,
            List.filterMap_cons]
          cases shape.literalOfElement? part with
          | none => exact later
          | some literal => exact congrArg (Prod.map change id literal :: ·) later

private theorem literalsOf_alter {tree : Tree} (alterable : Alterable change tree)
    (shape : Shape) :
    shape.literalsOf (tree.alter change) =
      (shape.literalsOf tree).map (Prod.map change id) := by
  rw [Shape.literalsOf, Shape.literalsOf, Tree.hasKind_alter]
  cases tree with
  | leaf => rfl
  | node kind children =>
      by_cases composite : kind = .compositeLiteral
      · subst composite
        have parts_alterable := fun part => @Alterable.of_part change _ part alterable
        rw [alterable.parts_alter_of_noStatements rfl]
        generalize (Go.Tree.node _ children).parts = parts at parts_alterable ⊢
        rcases parts with _ | ⟨type, _ | ⟨body, _ | ⟨third, rest⟩⟩⟩
        · rfl
        · rfl
        · have bodyAlterable := parts_alterable body (by simp)
          simp only [List.map_cons, List.map_nil, Tree.hasKind, beq_self_eq_true, if_true,
            isTargetType_alter (parts_alterable type (by simp))]
          split
          · rw [bodyAlterable.parts_alter]
            exact filterMap_alter (fun part => bodyAlterable.of_part) shape
          · rfl
        · rfl
      · simp [Tree.hasKind, composite]

mutual

theorem literals_alter (shape : Shape) : ∀ {tree : Tree}, Alterable change tree →
    shape.literals (tree.alter change) = (shape.literals tree).map (Prod.map change id)
  | .leaf _, _ => rfl
  | .node kind children, alterable => by
      have proper := alterable.proper
      have keeps := alterable.keeps
      rw [Tree.Proper] at proper
      rw [Tree.tokens] at keeps
      have here := literalsOf_alter alterable shape
      rw [Tree.alter] at here
      rw [Tree.alter, Shape.literals, Shape.literals, List.map_append, here,
        forestLiterals_alter shape proper.2.2 keeps]

/-- The literals of changed trees are the changed literals. -/
theorem forestLiterals_alter (shape : Shape) : ∀ {trees : List Tree}, Go.ForestProper trees →
    (∀ token ∈ forestTokens trees, Go.Keeps change token) →
    shape.forestLiterals (alterForest change trees) =
      (shape.forestLiterals trees).map (Prod.map change id)
  | [], _, _ => rfl
  | tree :: rest, proper, keeps => by
      rw [Go.ForestProper] at proper
      rw [forestTokens] at keeps
      have later := forestLiterals_alter shape proper.2 fun token member =>
        keeps token (List.mem_append_right _ member)
      rw [alterForest, Shape.forestLiterals, List.map_append]
      cases lineEnd : tree.isLineEnd with
      | true =>
          have noLiteral : shape.literals tree = [] := by
            cases tree with
            | leaf => rfl
            | node => cases lineEnd
          rw [noLiteral]
          exact later
      | false =>
          have alterable : Alterable change tree :=
            ⟨proper.1, fun token member => keeps token (List.mem_append_left _ member)⟩
          rw [if_neg (by simp), Shape.forestLiterals, literals_alter shape alterable, later]

end

end Site

end QueryPipe
