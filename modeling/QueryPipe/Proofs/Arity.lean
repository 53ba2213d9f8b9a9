import QueryPipe.Proofs.GrammarShape
import QueryPipe.Proofs.Subtrees

/-! How many parts the nodes of a parsed source have. The checks below count the parts of
the matches of a rule; a grammar that passes them builds composite literals of two parts,
and keyed elements, qualified types and selectors of three. -/

namespace QueryPipe.Go

/-- How many parts a node of a kind has, where the kind fixes it. -/
def NodeKind.arity? : NodeKind → Option Nat
  | .compositeLiteral => some 2
  | .keyedElement | .qualifiedType | .selector => some 3
  | _ => none

/-- How many of the trees are no comments. -/
def partCount (trees : List Tree) : Nat := trees.countP (!·.isComment)

/-! ## Checks of rules -/

mutual

/-- How many parts every match of the rule has, where the rule fixes it; `symbols` tells it
of the nonterminals. -/
def Rule.width? (symbols : σ → Option Nat) : Rule σ → Option Nat
  | .token _ => some 1
  | .spelled marks => some marks.length
  | .onLine rule => rule.width? symbols
  | .seq rules => Rule.totalWidth? symbols rules
  | .union rules => Rule.commonWidth? symbols rules
  | .first rules => Rule.commonWidth? symbols rules
  | .absent _ => some 0
  | .node _ _ => some 1
  | .extend _ base step => if base.width? symbols = some 1 ∧ step.wraps then some 1 else none
  | .chain base step => if base.width? symbols = some 1 ∧ step.wraps then some 1 else none
  | .ref symbol => symbols symbol
  | _ => none

def Rule.totalWidth? (symbols : σ → Option Nat) : List (Rule σ) → Option Nat
  | [] => some 0
  | rule :: rules =>
    (rule.width? symbols).bind fun width => (Rule.totalWidth? symbols rules).map (width + ·)

def Rule.commonWidth? (symbols : σ → Option Nat) : List (Rule σ) → Option Nat
  | [] => none
  | [rule] => rule.width? symbols
  | rule :: next :: rules =>
    if rule.width? symbols = Rule.commonWidth? symbols (next :: rules) then rule.width? symbols
    else none

end

mutual

/-- Whether the nodes that the rule builds have as many parts as their kind asks for, once
`extra` parts are put before those of a match that is a single node. -/
def Rule.sizes (symbols : σ → Option Nat) : (extra : Nat) → Rule σ → Bool
  | extra, .node kind rule =>
    rule.sizes symbols 0
      && kind.arity?.all fun arity => (rule.width? symbols).any fun width => width + extra == arity
  | _, .extend _ base step =>
    base.sizes symbols 0 && step.sizes symbols 1 && step.wraps && base.width? symbols == some 1
  | _, .chain base step =>
    base.sizes symbols 0 && step.sizes symbols 1 && step.wraps && base.width? symbols == some 1
  | extra, .onLine rule => rule.sizes symbols extra
  | extra, .union rules => Rule.allSize symbols extra rules
  | extra, .first rules => Rule.allSize symbols extra rules
  | _, .seq rules => Rule.allSize symbols 0 rules
  | _, .optional rule => rule.sizes symbols 0
  | _, .many rule => rule.sizes symbols 0
  | _, _ => true

def Rule.allSize (symbols : σ → Option Nat) (extra : Nat) : List (Rule σ) → Bool
  | [] => true
  | rule :: rules => rule.sizes symbols extra && Rule.allSize symbols extra rules

end

section Members

variable {symbols : σ → Option Nat} {rule : Rule σ} {rules : List (Rule σ)}

theorem Rule.width?_of_mem {width : Nat} (common : Rule.commonWidth? symbols rules = some width)
    (member : rule ∈ rules) : rule.width? symbols = some width := by
  induction rules with
  | nil => cases member
  | cons first rules induction =>
      cases rules with
      | nil =>
          rcases List.mem_singleton.mp member with rfl
          exact common
      | cons second rules =>
          rw [Rule.commonWidth?] at common
          split_ifs at common with same
          rcases List.mem_cons.mp member with rfl | later
          · exact common
          · exact induction (same.symm.trans common) later

theorem Rule.sizes_of_mem {extra : Nat} (all : Rule.allSize symbols extra rules = true)
    (member : rule ∈ rules) : rule.sizes symbols extra = true := by
  induction rules with
  | nil => cases member
  | cons first rules induction =>
      rw [Rule.allSize, Bool.and_eq_true] at all
      rcases List.mem_cons.mp member with rfl | later
      · exact all.1
      · exact induction all.2 later

end Members

/-! ## Derivations have as many parts -/

@[simp] theorem partCount_append (first second : List Tree) :
    partCount (first ++ second) = partCount first + partCount second :=
  List.countP_append

private theorem partCount_commentsBefore (tokens : List Token) :
    partCount (commentsBefore tokens) = 0 := by
  rw [partCount, List.countP_eq_zero, commentsBefore]
  intro tree member
  rcases List.mem_map.mp member with ⟨token, isFound, rfl⟩
  have isComment := (List.mem_filter.mp isFound).2
  simpa [Tree.isComment, Token.isComment] using isComment

private theorem partCount_leaves {tokens : List Token}
    (noComments : ∀ token ∈ tokens, token.kind ≠ .comment) :
    partCount (tokens.map Tree.leaf) = tokens.length := by
  rw [partCount, List.countP_map, List.countP_eq_length]
  intro token member
  simpa [Tree.isComment] using noComments token member

private theorem kind_ne_comment_of_accepts {terminal : Terminal} {token : Token}
    (accepted : terminal.accepts token = true) : token.kind ≠ .comment := by
  intro isComment
  unfold Terminal.accepts at accepted
  rw [isComment] at accepted
  cases terminal <;> cases accepted

section Derivations

variable {grammar : σ → Rule σ} {symbols : σ → Option Nat}

theorem Derives.wrapped {rule : Rule σ} {tokens : List Token} {trees : List Tree}
    {rest : List Token} (derives : Derives grammar rule tokens trees rest)
    (wraps : rule.wraps = true) : ∃ kind children, trees = [.node kind children] := by
  induction derives with
  | node => exact ⟨_, _, rfl⟩
  | onLine _ induction => exact induction wraps
  | union member _ induction => exact induction (Rule.wraps_of_mem wraps member)
  | first member _ induction => exact induction (Rule.wraps_of_mem wraps member)
  | _ => cases wraps

private theorem partCount_graft {step : Rule σ} {middle : List Token} {trees more : List Tree}
    {rest : List Token} (derives : Derives grammar step middle more rest)
    (wraps : step.wraps = true) : partCount (graft trees more) = 1 := by
  rcases derives.wrapped wraps with ⟨kind, children, rfl⟩
  rfl

/-- A match has as many parts as its rule fixes. -/
theorem Derives.partCount_eq
    (grammarWidth : ∀ symbol width, symbols symbol = some width →
      (grammar symbol).width? symbols = some width)
    {rule : Rule σ} {tokens : List Token} {trees : List Tree} {rest : List Token}
    (derives : Derives grammar rule tokens trees rest) {width : Nat}
    (fixed : rule.width? symbols = some width) : partCount trees = width := by
  induction derives generalizing width with
  | token found =>
      rcases exists_of_mem_matchToken found with ⟨token, -, accepted, rfl⟩
      have leaf : partCount ([token].map Tree.leaf) = 1 := by
        apply partCount_leaves
        intro other member
        rcases List.mem_singleton.mp member with rfl
        exact kind_ne_comment_of_accepts accepted
      rw [partCount_append, partCount_commentsBefore, Nat.zero_add]
      exact leaf.trans (Option.some.inj fixed)
  | @spelled marks _ _ _ found =>
      rcases exists_of_mem_matchMarks found with ⟨glued, -, rfl, kinds⟩
      have length : glued.length = marks.length := by simpa using congrArg List.length kinds
      rw [partCount_append, partCount_commentsBefore, Nat.zero_add, partCount_leaves, length]
      · exact Option.some.inj fixed
      · intro token member isComment
        have isMark : TokenKind.comment ∈ glued.map Token.kind :=
          List.mem_map.mpr ⟨token, member, isComment⟩
        rw [kinds] at isMark
        rcases List.mem_map.mp isMark with ⟨char, -, equal⟩
        cases equal
  | onLine _ induction => exact induction fixed
  | seqNil => exact Option.some.inj fixed
  | seqCons _ _ first second =>
      rw [Rule.width?, Rule.totalWidth?] at fixed
      rcases Option.bind_eq_some_iff.mp fixed with ⟨firstWidth, firstFixed, fixed⟩
      rcases Option.map_eq_some_iff.mp fixed with ⟨restWidth, restFixed, rfl⟩
      rw [partCount_append, first firstFixed, second restFixed]
  | union member _ induction => exact induction (Rule.width?_of_mem fixed member)
  | first member _ induction => exact induction (Rule.width?_of_mem fixed member)
  | absent => exact Option.some.inj fixed
  | node => exact Option.some.inj fixed
  | extendBase _ induction =>
      rw [Rule.width?] at fixed
      split_ifs at fixed with single
      exact (induction single.1).trans (Option.some.inj fixed)
  | extendStep _ derives =>
      rw [Rule.width?] at fixed
      split_ifs at fixed with single
      exact (partCount_graft derives single.2).trans (Option.some.inj fixed)
  | chainBase _ induction =>
      rw [Rule.width?] at fixed
      split_ifs at fixed with single
      exact (induction single.1).trans (Option.some.inj fixed)
  | chainStep _ derives =>
      rw [Rule.width?] at fixed
      split_ifs at fixed with single
      exact (partCount_graft derives single.2).trans (Option.some.inj fixed)
  | ref _ induction => exact induction (grammarWidth _ _ fixed)
  | _ => cases fixed

end Derivations

/-! ## Sizes of nodes -/

/-- Every node of the tree has as many parts as its kind asks for. -/
def Tree.Sized (tree : Tree) : Prop :=
  ∀ kind children, Within (.node kind children) tree →
    ∀ arity, kind.arity? = some arity → partCount children = arity

theorem Tree.Sized.within {inner tree : Tree} (sized : tree.Sized) (within : Within inner tree) :
    inner.Sized := by
  intro kind children deeper
  exact sized kind children (deeper.trans within)

theorem Tree.sized_leaf (token : Token) : (Tree.leaf token).Sized := by
  intro kind children within
  cases within

theorem Tree.sized_node_iff {kind : NodeKind} {children : List Tree} :
    (Tree.node kind children).Sized ↔
      (∀ arity, kind.arity? = some arity → partCount children = arity) ∧
        ∀ child ∈ children, child.Sized := by
  constructor
  · intro sized
    refine ⟨sized kind children .here, ?_⟩
    intro child member
    exact sized.within (.under member .here)
  · rintro ⟨counted, below⟩ inner innerChildren within
    cases within with
    | here => exact counted
    | under member within => exact below _ member inner innerChildren within

private theorem sized_leaves (tokens : List Token) :
    ∀ tree ∈ tokens.map Tree.leaf, tree.Sized := by
  intro tree member
  rcases List.mem_map.mp member with ⟨token, -, rfl⟩
  exact Tree.sized_leaf token

private theorem sized_append {first second : List Tree} (firstSized : ∀ tree ∈ first, tree.Sized)
    (secondSized : ∀ tree ∈ second, tree.Sized) : ∀ tree ∈ first ++ second, tree.Sized := by
  intro tree member
  rcases List.mem_append.mp member with inFirst | inSecond
  · exact firstSized tree inFirst
  · exact secondSized tree inSecond

/-- Trees that have the sizes their kinds ask for, once `extra` parts are put before those of
a single node. -/
structure SizedBehind (extra : Nat) (wraps : Bool) (trees : List Tree) : Prop where
  sized : extra = 0 → ∀ tree ∈ trees, tree.Sized
  wrapped : wraps = true → ∃ kind children, trees = [.node kind children] ∧
    (∀ child ∈ children, child.Sized) ∧
    ∀ arity, kind.arity? = some arity → partCount children + extra = arity

private theorem sizedBehind_of_sized {extra : Nat} {trees : List Tree}
    (sized : ∀ tree ∈ trees, tree.Sized) : SizedBehind extra false trees :=
  ⟨fun _ => sized, by rintro ⟨⟩⟩

/-- A node with one part put before its own. -/
private theorem sized_graft {trees more : List Tree} (sized : ∀ tree ∈ trees, tree.Sized)
    (single : partCount trees = 1) (behind : SizedBehind 1 true more) :
    ∀ tree ∈ graft trees more, tree.Sized := by
  rcases behind.wrapped rfl with ⟨kind, children, rfl, childrenSized, counted⟩
  intro tree member
  rcases List.mem_singleton.mp member with rfl
  refine Tree.sized_node_iff.mpr ⟨?_, sized_append sized childrenSized⟩
  intro arity fixed
  rw [partCount_append, single, Nat.add_comm, counted arity fixed]

section Derivations

variable {grammar : σ → Rule σ} {symbols : σ → Option Nat}

/-- Every node that a checked grammar builds has as many parts as its kind asks for. -/
theorem Derives.sized
    (grammarWidth : ∀ symbol width, symbols symbol = some width →
      (grammar symbol).width? symbols = some width)
    (grammarSizes : ∀ symbol, (grammar symbol).sizes symbols 0 = true)
    {rule : Rule σ} {tokens : List Token} {trees : List Tree} {rest : List Token}
    (derives : Derives grammar rule tokens trees rest) {extra : Nat}
    (sizes : rule.sizes symbols extra = true) : SizedBehind extra rule.wraps trees := by
  induction derives generalizing extra with
  | token found =>
      rcases exists_of_mem_matchToken found with ⟨token, -, -, rfl⟩
      exact sizedBehind_of_sized (sized_append (sized_leaves _) (sized_leaves [token]))
  | spelled found =>
      rcases exists_of_mem_matchMarks found with ⟨glued, -, rfl, -⟩
      exact sizedBehind_of_sized (sized_append (sized_leaves _) (sized_leaves glued))
  | terminator found =>
      rcases exists_of_mem_matchTerminator found with ⟨ending, -, rfl⟩
      exact sizedBehind_of_sized (sized_append (sized_leaves _) (sized_leaves ending))
  | onLine _ induction => exact induction sizes
  | seqNil => exact sizedBehind_of_sized (by simp)
  | seqCons _ _ first second =>
      rw [Rule.sizes, Rule.allSize, Bool.and_eq_true] at sizes
      exact sizedBehind_of_sized
        (sized_append ((first sizes.1).sized rfl) ((@second 0 sizes.2).sized rfl))
  | union member _ induction =>
      have behind := induction (Rule.sizes_of_mem sizes member)
      exact ⟨behind.sized, fun wraps => behind.wrapped (Rule.wraps_of_mem wraps member)⟩
  | first member _ induction =>
      have behind := induction (Rule.sizes_of_mem sizes member)
      exact ⟨behind.sized, fun wraps => behind.wrapped (Rule.wraps_of_mem wraps member)⟩
  | optionalNone => exact sizedBehind_of_sized (by simp)
  | optionalSome _ induction => exact sizedBehind_of_sized ((induction sizes).sized rfl)
  | manyNil => exact sizedBehind_of_sized (by simp)
  | manyMore _ _ first second =>
      exact sizedBehind_of_sized
        (sized_append ((@first 0 sizes).sized rfl) ((second sizes).sized rfl))
  | absent => exact sizedBehind_of_sized (by simp)
  | @node rule _ children _ kind derives induction =>
      rw [Rule.sizes, Bool.and_eq_true] at sizes
      have childrenSized := (induction sizes.1).sized rfl
      have counted : ∀ arity, kind.arity? = some arity → partCount children + extra = arity := by
        intro arity fixed
        have checked := sizes.2
        rw [fixed, Option.all_some, Option.any_eq_true] at checked
        rcases checked with ⟨width, widthFixed, total⟩
        rw [derives.partCount_eq grammarWidth widthFixed]
        exact beq_iff_eq.mp total
      refine ⟨?_, fun _ => ⟨kind, children, rfl, childrenSized, counted⟩⟩
      rintro rfl tree member
      rcases List.mem_singleton.mp member with rfl
      exact Tree.sized_node_iff.mpr ⟨counted, childrenSized⟩
  | extendBase _ induction =>
      rw [Rule.sizes, Bool.and_eq_true, Bool.and_eq_true, Bool.and_eq_true] at sizes
      exact sizedBehind_of_sized ((induction sizes.1.1.1).sized rfl)
  | extendStep baseDerives _ base step =>
      rw [Rule.sizes, Bool.and_eq_true, Bool.and_eq_true, Bool.and_eq_true, beq_iff_eq] at sizes
      rcases sizes with ⟨⟨⟨baseSizes, stepSizes⟩, wraps⟩, single⟩
      have behind := step stepSizes
      rw [wraps] at behind
      exact sizedBehind_of_sized (sized_graft ((base baseSizes).sized rfl)
        (baseDerives.partCount_eq grammarWidth single) behind)
  | chainBase _ induction =>
      rw [Rule.sizes, Bool.and_eq_true, Bool.and_eq_true, Bool.and_eq_true] at sizes
      exact sizedBehind_of_sized ((induction sizes.1.1.1).sized rfl)
  | chainStep chainDerives _ chain step =>
      have chainSized := (@chain 0 sizes).sized rfl
      rw [Rule.sizes, Bool.and_eq_true, Bool.and_eq_true, Bool.and_eq_true, beq_iff_eq] at sizes
      rcases sizes with ⟨⟨⟨-, stepSizes⟩, wraps⟩, single⟩
      have behind := step stepSizes
      rw [wraps] at behind
      -- What a chain has built so far is one part, however often the step was made.
      refine sizedBehind_of_sized (sized_graft chainSized ?_ behind)
      apply chainDerives.partCount_eq grammarWidth
      rw [Rule.width?, if_pos ⟨single, wraps⟩]
  | ref _ induction => exact sizedBehind_of_sized ((induction (grammarSizes _)).sized rfl)

end Derivations

/-! ## The grammar of Go -/

/-- The nonterminals that are a single part. -/
def Symbol.width? : Symbol → Option Nat
  | .expression _ | .unary _ | .primary _ | .literalBody | .element | .arguments
  | .typeArguments => some 1
  | _ => none

private theorem sized_rule (symbol : Symbol) :
    ((Grammar.rule symbol).sizes Symbol.width? 0
      && (symbol.width?.isNone || (Grammar.rule symbol).width? Symbol.width? == symbol.width?)) =
      true := by
  cases symbol with
  | simple first rest | expression first | unary first | primary first | expressionList first =>
      rcases first with ⟨terminator, block, step, send⟩
      cases terminator <;> cases block <;> cases step <;> cases send <;> rfl
  | typeName ends | simpleType ends | anyType ends | typeElement ends | result ends =>
      cases ends <;> rfl
  | _ => rfl

theorem Grammar.sizes_rule (symbol : Symbol) :
    (Grammar.rule symbol).sizes Symbol.width? 0 = true := by
  have sized := sized_rule symbol
  rw [Bool.and_eq_true] at sized
  exact sized.1

theorem Grammar.width?_rule {symbol : Symbol} {width : Nat} (fixed : symbol.width? = some width) :
    (Grammar.rule symbol).width? Symbol.width? = some width := by
  have sized := sized_rule symbol
  rw [Bool.and_eq_true, fixed, Option.isNone_some, Bool.false_or, beq_iff_eq] at sized
  exact sized.2

theorem sized_of_parse? {source : List Char} {tree : Tree} (parsed : parse? source = some tree) :
    tree.Sized := by
  rcases exists_lexemes_of_parse? parsed with ⟨lexemes, -, -, parsedTokens⟩
  rcases derives_of_parseTokens? parsedTokens with ⟨rest, -, derives⟩
  have behind := @Derives.sized _ _ Symbol.width? (fun _ _ => Grammar.width?_rule)
    Grammar.sizes_rule _ _ _ _ derives 0 rfl
  exact behind.sized rfl tree (List.mem_singleton_self tree)

end QueryPipe.Go
