import QueryPipe.Proofs.Derivations

/-! What the grammar says about the shape of its trees. The checks below look at
rules only; a grammar that passes them builds trees where

- a line end stands directly below a group or a whole source only, and
- a qualified type and a selector end in a name. -/

namespace QueryPipe.Go

/-! ## Checks of rules -/

mutual

/-- Whether every match of the rule is a single node. -/
def Rule.wraps : Rule σ → Bool
  | .node _ _ => true
  | .onLine rule => rule.wraps
  | .union rules => Rule.allWrap rules
  | .first rules => Rule.allWrap rules
  | _ => false

def Rule.allWrap : List (Rule σ) → Bool
  | [] => true
  | rule :: rules => rule.wraps && Rule.allWrap rules

end

mutual

/-- Whether a match of the rule may hold a line end outside of nodes; `symbols`
tells it of the nonterminals. -/
def Rule.isLoose (symbols : σ → Bool) : Rule σ → Bool
  | .terminator => true
  | .onLine rule => rule.isLoose symbols
  | .optional rule => rule.isLoose symbols
  | .many rule => rule.isLoose symbols
  | .seq rules => Rule.anyLoose symbols rules
  | .union rules => Rule.anyLoose symbols rules
  | .first rules => Rule.anyLoose symbols rules
  | .extend _ base _ => base.isLoose symbols
  | .chain base _ => base.isLoose symbols
  | .ref symbol => symbols symbol
  | _ => false

def Rule.anyLoose (symbols : σ → Bool) : List (Rule σ) → Bool
  | [] => false
  | rule :: rules => rule.isLoose symbols || Rule.anyLoose symbols rules

end

mutual

/-- Whether every match of the rule ends in a name. -/
def Rule.endsInName : Rule σ → Bool
  | .token .plainName => true
  | .token .name => true
  | .seq rules => Rule.lastEndsInName rules
  | _ => false

def Rule.lastEndsInName : List (Rule σ) → Bool
  | [] => false
  | [rule] => rule.endsInName
  | _ :: rules => Rule.lastEndsInName rules

end

/-- Nodes that statements stand in. -/
def NodeKind.holdsStatements (kind : NodeKind) : Bool := kind == .group || kind == .sourceFile

/-- Nodes that end in a name. -/
def NodeKind.isNamed (kind : NodeKind) : Bool := kind == .qualifiedType || kind == .selector

mutual

/-- Whether all nodes that the rule builds have the shape described above, and
whatever extends a match is a single node. -/
def Rule.audit (symbols : σ → Bool) : Rule σ → Bool
  | .node kind rule =>
    rule.audit symbols && (kind.holdsStatements || !rule.isLoose symbols)
      && (!kind.isNamed || rule.endsInName)
  | .extend _ base step =>
    base.audit symbols && step.audit symbols && step.wraps && !base.isLoose symbols
  | .chain base step =>
    base.audit symbols && step.audit symbols && step.wraps && !base.isLoose symbols
  | .onLine rule => rule.audit symbols
  | .optional rule => rule.audit symbols
  | .many rule => rule.audit symbols
  | .absent rule => rule.audit symbols
  | .seq rules => Rule.auditAll symbols rules
  | .union rules => Rule.auditAll symbols rules
  | .first rules => Rule.auditAll symbols rules
  | _ => true

def Rule.auditAll (symbols : σ → Bool) : List (Rule σ) → Bool
  | [] => true
  | rule :: rules => rule.audit symbols && Rule.auditAll symbols rules

end

section Members

variable {symbols : σ → Bool} {rule : Rule σ} {rules : List (Rule σ)}

theorem Rule.wraps_of_mem (all : Rule.allWrap rules = true) (member : rule ∈ rules) :
    rule.wraps = true := by
  induction rules with
  | nil => cases member
  | cons first rules induction =>
      rw [Rule.allWrap, Bool.and_eq_true] at all
      rcases List.mem_cons.mp member with rfl | member
      · exact all.1
      · exact induction all.2 member

theorem Rule.isLoose_of_mem (noneLoose : Rule.anyLoose symbols rules = false) (member : rule ∈ rules) :
    rule.isLoose symbols = false := by
  induction rules with
  | nil => cases member
  | cons first rules induction =>
      rw [Rule.anyLoose, Bool.or_eq_false_iff] at noneLoose
      rcases List.mem_cons.mp member with rfl | member
      · exact noneLoose.1
      · exact induction noneLoose.2 member

theorem Rule.audit_of_mem (all : Rule.auditAll symbols rules = true) (member : rule ∈ rules) :
    rule.audit symbols = true := by
  induction rules with
  | nil => cases member
  | cons first rules induction =>
      rw [Rule.auditAll, Bool.and_eq_true] at all
      rcases List.mem_cons.mp member with rfl | member
      · exact all.1
      · exact induction all.2 member

end Members

/-! ## Shapes of trees -/

def Token.isWord (token : Token) : Bool :=
  match token.kind with
  | .name | .keyword _ => true
  | _ => false

/-- No line end stands directly among the trees. -/
def NoLineEnd (trees : List Tree) : Prop :=
  ∀ token, .leaf token ∈ trees → token.kind ≠ .lineEnd

/-- The last of the trees is a word. -/
def EndsInWord (trees : List Tree) : Prop :=
  ∃ token, trees.getLast? = some (.leaf token) ∧ token.isWord = true

mutual

def Tree.Proper : Tree → Prop
  | .leaf _ => True
  | .node kind children =>
    (kind.holdsStatements = false → NoLineEnd children) ∧
      (kind.isNamed = true → EndsInWord children) ∧ ForestProper children

def ForestProper : List Tree → Prop
  | [] => True
  | tree :: rest => tree.Proper ∧ ForestProper rest

end

theorem forestProper_append {first second : List Tree} :
    ForestProper (first ++ second) ↔ ForestProper first ∧ ForestProper second := by
  induction first with
  | nil => simp [ForestProper]
  | cons tree first induction => simp [ForestProper, induction, and_assoc]

theorem forestProper_leaves (tokens : List Token) : ForestProper (tokens.map Tree.leaf) := by
  induction tokens with
  | nil => trivial
  | cons token tokens induction => exact ⟨trivial, induction⟩

private theorem noLineEnd_append {first second : List Tree} :
    NoLineEnd (first ++ second) ↔ NoLineEnd first ∧ NoLineEnd second := by
  simp only [NoLineEnd, List.mem_append, or_imp, forall_and]

private theorem noLineEnd_leaves {tokens : List Token}
    (noLineEnds : ∀ token ∈ tokens, token.kind ≠ .lineEnd) : NoLineEnd (tokens.map Tree.leaf) := by
  intro token member
  rcases List.mem_map.mp member with ⟨other, otherMember, equal⟩
  rcases Tree.leaf.inj equal with rfl
  exact noLineEnds other otherMember

private theorem noLineEnd_commentsBefore (tokens : List Token) :
    NoLineEnd (commentsBefore tokens) := by
  apply noLineEnd_leaves
  intro token member isLineEnd
  have isComment := (List.mem_filter.mp member).2
  rw [Token.isComment, isLineEnd] at isComment
  cases isComment

private theorem endsInWord_append {first second : List Tree} (ends : EndsInWord second) :
    EndsInWord (first ++ second) := by
  rcases ends with ⟨token, last, isWord⟩
  exact ⟨token, by rw [List.getLast?_append, last]; rfl, isWord⟩

/-! ## Derivations have the shape -/

/-- What the checks of a rule promise of a match. -/
structure Shaped (symbols : σ → Bool) (rule : Rule σ) (trees : List Tree) : Prop where
  proper : ForestProper trees
  tight : rule.isLoose symbols = false → NoLineEnd trees
  named : rule.endsInName = true → EndsInWord trees
  wrapped : rule.wraps = true → ∃ kind children, trees = [.node kind children]

section Derivations

variable {symbols : σ → Bool} {grammar : σ → Rule σ}

private theorem shaped_token {terminal : Terminal} {tokens : List Token} {trees : List Tree}
    {rest : List Token} (found : (trees, rest) ∈ matchToken terminal tokens) :
    Shaped symbols (.token terminal) trees := by
  rcases exists_of_mem_matchToken found with ⟨token, -, accepted, rfl⟩
  refine ⟨?_, ?_, ?_, ?_⟩
  · exact forestProper_append.mpr ⟨forestProper_leaves _, forestProper_leaves [token]⟩
  · intro _
    refine noLineEnd_append.mpr ⟨noLineEnd_commentsBefore _, ?_⟩
    intro other member isLineEnd
    rcases Tree.leaf.inj (List.mem_singleton.mp member) with rfl
    unfold Terminal.accepts at accepted
    rw [isLineEnd] at accepted
    cases terminal <;> cases accepted
  · intro isName
    refine ⟨token, by simp, ?_⟩
    unfold Token.isWord
    unfold Terminal.accepts at accepted
    cases terminal with
    | plainName | name =>
        cases kindEq : token.kind <;> simp [kindEq] at accepted ⊢
    | keyword | number | rune | stringLiteral => cases isName
  · rintro ⟨⟩

private theorem shaped_spelled {marks : List Char} {tokens : List Token} {trees : List Tree}
    {rest : List Token} (found : (trees, rest) ∈ matchMarks marks tokens) :
    Shaped symbols (.spelled marks) trees := by
  rcases exists_of_mem_matchMarks found with ⟨glued, -, rfl, kinds⟩
  refine ⟨?_, ?_, by rintro ⟨⟩, by rintro ⟨⟩⟩
  · exact forestProper_append.mpr ⟨forestProper_leaves _, forestProper_leaves glued⟩
  · intro _
    refine noLineEnd_append.mpr ⟨noLineEnd_commentsBefore _, noLineEnd_leaves ?_⟩
    intro token member isLineEnd
    have isMark : token.kind ∈ marks.map TokenKind.mark := by
      rw [← kinds]
      exact List.mem_map_of_mem member
    rcases List.mem_map.mp isMark with ⟨char, -, equal⟩
    rw [isLineEnd] at equal
    cases equal

private theorem shaped_terminator {tokens : List Token} {trees : List Tree} {rest : List Token}
    (found : (trees, rest) ∈ matchTerminator tokens) :
    Shaped symbols (.terminator : Rule σ) trees := by
  rcases exists_of_mem_matchTerminator found with ⟨ending, -, rfl⟩
  refine ⟨?_, by rintro ⟨⟩, by rintro ⟨⟩, by rintro ⟨⟩⟩
  exact forestProper_append.mpr ⟨forestProper_leaves _, forestProper_leaves ending⟩

private theorem shaped_nil {rule : Rule σ} (noName : rule.endsInName = false)
    (noNode : rule.wraps = false) : Shaped symbols rule [] := by
  refine ⟨trivial, ?_, ?_, ?_⟩
  · intro _ token member
    cases member
  · intro isName
    rw [noName] at isName
    cases isName
  · intro isNode
    rw [noNode] at isNode
    cases isNode

/-- A node that a step builds, with the base put before its children. -/
private theorem shaped_graft {base step : Rule σ} {trees more : List Tree}
    (tight : base.isLoose symbols = false) (wraps : step.wraps = true)
    (baseShaped : Shaped symbols base trees) (stepShaped : Shaped symbols step more) :
    ForestProper (graft trees more) ∧ NoLineEnd (graft trees more) := by
  rcases stepShaped.wrapped wraps with ⟨kind, children, rfl⟩
  have stepProper := stepShaped.proper
  rw [ForestProper, Tree.Proper] at stepProper
  rcases stepProper with ⟨⟨noLineEnd, named, proper⟩, -⟩
  constructor
  · refine ⟨⟨?_, ?_, ?_⟩, trivial⟩
    · intro noStatements
      exact noLineEnd_append.mpr ⟨baseShaped.tight tight, noLineEnd noStatements⟩
    · intro isNamed
      exact endsInWord_append (named isNamed)
    · exact forestProper_append.mpr ⟨baseShaped.proper, proper⟩
  · intro token member
    cases List.mem_singleton.mp member

/-- Every tree that a checked grammar builds has the shape that the checks promise. -/
theorem Derives.shaped (grammarAudit : ∀ symbol, (grammar symbol).audit symbols = true)
    (grammarLoose : ∀ symbol, symbols symbol = false → (grammar symbol).isLoose symbols = false)
    {rule : Rule σ} {tokens : List Token} {trees : List Tree} {rest : List Token}
    (derives : Derives grammar rule tokens trees rest) (audited : rule.audit symbols = true) :
    Shaped symbols rule trees := by
  induction derives with
  | token found => exact shaped_token found
  | spelled found => exact shaped_spelled found
  | terminator found => exact shaped_terminator found
  | onLine _ induction =>
      have shaped := induction audited
      exact ⟨shaped.proper, shaped.tight, by rintro ⟨⟩, shaped.wrapped⟩
  | seqNil => exact shaped_nil rfl rfl
  | @seqCons rule _ trees _ rules more _ derives rest first second =>
      rw [Rule.audit, Rule.auditAll, Bool.and_eq_true] at audited
      have firstShaped := first audited.1
      have restShaped := second audited.2
      refine ⟨forestProper_append.mpr ⟨firstShaped.proper, restShaped.proper⟩, ?_, ?_, by rintro ⟨⟩⟩
      · intro tight
        rw [Rule.isLoose, Rule.anyLoose, Bool.or_eq_false_iff] at tight
        exact noLineEnd_append.mpr ⟨firstShaped.tight tight.1, restShaped.tight tight.2⟩
      · intro isName
        cases rules with
        | nil =>
            cases rest
            rw [List.append_nil]
            exact firstShaped.named isName
        | cons next rules => exact endsInWord_append (restShaped.named isName)
  | union member _ induction =>
      have shaped := induction (Rule.audit_of_mem audited member)
      exact ⟨shaped.proper, fun tight => shaped.tight (Rule.isLoose_of_mem tight member),
        by rintro ⟨⟩, fun wraps => shaped.wrapped (Rule.wraps_of_mem wraps member)⟩
  | first member _ induction =>
      have shaped := induction (Rule.audit_of_mem audited member)
      exact ⟨shaped.proper, fun tight => shaped.tight (Rule.isLoose_of_mem tight member),
        by rintro ⟨⟩, fun wraps => shaped.wrapped (Rule.wraps_of_mem wraps member)⟩
  | optionalNone => exact shaped_nil rfl rfl
  | optionalSome _ induction =>
      have shaped := induction audited
      exact ⟨shaped.proper, shaped.tight, by rintro ⟨⟩, by rintro ⟨⟩⟩
  | manyNil => exact shaped_nil rfl rfl
  | manyMore _ _ first second =>
      have firstShaped := first audited
      have restShaped := second audited
      refine ⟨forestProper_append.mpr ⟨firstShaped.proper, restShaped.proper⟩, ?_, by rintro ⟨⟩,
        by rintro ⟨⟩⟩
      intro tight
      exact noLineEnd_append.mpr ⟨firstShaped.tight tight, restShaped.tight tight⟩
  | absent => exact shaped_nil rfl rfl
  | @node rule _ trees _ kind _ induction =>
      rw [Rule.audit, Bool.and_eq_true, Bool.and_eq_true] at audited
      rcases audited with ⟨⟨audited, statements⟩, names⟩
      have shaped := induction audited
      refine ⟨⟨⟨?_, ?_, shaped.proper⟩, trivial⟩, ?_, by rintro ⟨⟩, fun _ => ⟨kind, trees, rfl⟩⟩
      · intro noStatements
        rw [noStatements, Bool.false_or, Bool.not_eq_true'] at statements
        exact shaped.tight statements
      · intro isNamed
        rw [isNamed, Bool.not_true, Bool.false_or] at names
        exact shaped.named names
      · intro _ token member
        cases List.mem_singleton.mp member
  | extendBase _ induction =>
      rw [Rule.audit, Bool.and_eq_true, Bool.and_eq_true, Bool.and_eq_true] at audited
      have shaped := induction audited.1.1.1
      exact ⟨shaped.proper, shaped.tight, by rintro ⟨⟩, by rintro ⟨⟩⟩
  | extendStep _ _ base step =>
      rw [Rule.audit, Bool.and_eq_true, Bool.and_eq_true, Bool.and_eq_true,
        Bool.not_eq_true'] at audited
      rcases audited with ⟨⟨⟨baseAudit, stepAudit⟩, wraps⟩, tight⟩
      have grafted := shaped_graft tight wraps (base baseAudit) (step stepAudit)
      exact ⟨grafted.1, fun _ => grafted.2, by rintro ⟨⟩, by rintro ⟨⟩⟩
  | chainBase _ induction =>
      rw [Rule.audit, Bool.and_eq_true, Bool.and_eq_true, Bool.and_eq_true] at audited
      have shaped := induction audited.1.1.1
      exact ⟨shaped.proper, shaped.tight, by rintro ⟨⟩, by rintro ⟨⟩⟩
  | chainStep _ _ chain step =>
      have chainShaped := chain audited
      rw [Rule.audit, Bool.and_eq_true, Bool.and_eq_true, Bool.and_eq_true,
        Bool.not_eq_true'] at audited
      rcases audited with ⟨⟨⟨-, stepAudit⟩, wraps⟩, tight⟩
      have grafted := shaped_graft (show Rule.isLoose symbols (.chain _ _) = false from tight) wraps
        chainShaped (step stepAudit)
      exact ⟨grafted.1, fun _ => grafted.2, by rintro ⟨⟩, by rintro ⟨⟩⟩
  | @ref symbol _ _ _ _ induction =>
      have shaped := induction (grammarAudit symbol)
      exact ⟨shaped.proper, fun tight => shaped.tight (grammarLoose symbol tight), by rintro ⟨⟩,
        by rintro ⟨⟩⟩

end Derivations

/-! ## The grammar of Go -/

/-- The nonterminals that are rows of statements. -/
def Symbol.isLoose : Symbol → Bool
  | .statementList | .caseBody => true
  | _ => false

private theorem shaped_rule (symbol : Symbol) :
    ((Grammar.rule symbol).audit Symbol.isLoose
      && (symbol.isLoose || !(Grammar.rule symbol).isLoose Symbol.isLoose)) = true := by
  cases symbol with
  | simple first rest | expression first | unary first | primary first | expressionList first =>
      rcases first with ⟨terminator, block, step, send⟩
      cases terminator <;> cases block <;> cases step <;> cases send <;> rfl
  | typeName ends | simpleType ends | anyType ends | typeElement ends | result ends =>
      cases ends <;> rfl
  | _ => rfl

theorem Grammar.audit_rule (symbol : Symbol) :
    (Grammar.rule symbol).audit Symbol.isLoose = true := by
  have shaped := shaped_rule symbol
  rw [Bool.and_eq_true] at shaped
  exact shaped.1

theorem Grammar.isLoose_rule {symbol : Symbol} (tight : symbol.isLoose = false) :
    (Grammar.rule symbol).isLoose Symbol.isLoose = false := by
  have shaped := shaped_rule symbol
  rw [Bool.and_eq_true, tight, Bool.false_or, Bool.not_eq_true'] at shaped
  exact shaped.2

end QueryPipe.Go
