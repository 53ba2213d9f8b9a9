import QueryPipe.Proofs.Derivations

/-! The bound on how deeply rules are nested is never reached. Between two tokens
a grammar without left recursion enters a bounded number of rules: the rank of a
nonterminal counts them, and a check of the rules confirms the count. Where the
bound leaves room for the rank at every token, a larger one changes nothing. -/

namespace QueryPipe.Go

/-! ## Rules that take a token -/

mutual

/-- Whether the rule may match and take no token; `symbols` tells it of the
nonterminals. -/
def Rule.isNullable (symbols : σ → Bool) : Rule σ → Bool
  | .token _ => false
  | .spelled marks => marks.isEmpty
  | .terminator => true
  | .onLine rule => rule.isNullable symbols
  | .seq rules => Rule.allNullable symbols rules
  | .union rules => Rule.anyNullable symbols rules
  | .first rules => Rule.anyNullable symbols rules
  | .optional _ => true
  | .many _ => true
  | .absent _ => true
  | .node _ rule => rule.isNullable symbols
  | .extend _ base _ => base.isNullable symbols
  | .chain base _ => base.isNullable symbols
  | .ref symbol => symbols symbol

def Rule.allNullable (symbols : σ → Bool) : List (Rule σ) → Bool
  | [] => true
  | rule :: rules => rule.isNullable symbols && Rule.allNullable symbols rules

def Rule.anyNullable (symbols : σ → Bool) : List (Rule σ) → Bool
  | [] => false
  | rule :: rules => rule.isNullable symbols || Rule.anyNullable symbols rules

end

section Taking

variable {symbols : σ → Bool} {grammar : σ → Rule σ}

private theorem isNullable_of_mem {rule : Rule σ} {rules : List (Rule σ)}
    (noneNullable : Rule.anyNullable symbols rules = false) (member : rule ∈ rules) :
    rule.isNullable symbols = false := by
  induction rules with
  | nil => cases member
  | cons first rules induction =>
      rw [Rule.anyNullable, Bool.or_eq_false_iff] at noneNullable
      rcases List.mem_cons.mp member with rfl | member
      · exact noneNullable.1
      · exact induction noneNullable.2 member

theorem Derives.length_le {rule : Rule σ} {tokens : List Token} {trees : List Tree}
    {rest : List Token} (derives : Derives grammar rule tokens trees rest) :
    rest.length ≤ tokens.length :=
  derives.tokens_subset.2.length_le

private theorem length_lt_of_dropWhile {p : Token → Bool} {tokens front rest : List Token}
    (next : tokens.dropWhile p = front ++ rest) (taken : front ≠ []) :
    rest.length < tokens.length := by
  have shorter := (List.dropWhile_suffix p (l := tokens)).length_le
  have positive := List.length_pos_of_ne_nil taken
  rw [next, List.length_append] at shorter
  omega

/-- A rule that is not nullable takes a token. -/
theorem Derives.length_lt
    (grammarNullable : ∀ symbol, symbols symbol = false →
      (grammar symbol).isNullable symbols = false)
    {rule : Rule σ} {tokens : List Token} {trees : List Tree} {rest : List Token}
    (derives : Derives grammar rule tokens trees rest)
    (taking : rule.isNullable symbols = false) : rest.length < tokens.length := by
  induction derives with
  | token found =>
      rcases exists_of_mem_matchToken found with ⟨token, next, -, -⟩
      have taken : [token] ≠ [] := List.cons_ne_nil _ _
      exact length_lt_of_dropWhile next taken
  | spelled found =>
      rcases exists_of_mem_matchMarks found with ⟨glued, next, -, kinds⟩
      apply length_lt_of_dropWhile next
      intro empty
      rw [empty] at kinds
      rw [Rule.isNullable, List.isEmpty_eq_false_iff] at taking
      exact taking (List.map_eq_nil_iff.mp kinds.symm)
  | terminator | optionalNone | optionalSome | manyNil | manyMore | absent => cases taking
  | onLine _ induction => exact induction taking
  | seqNil => cases taking
  | seqCons first second firstLt secondLt =>
      rw [Rule.isNullable, Rule.allNullable, Bool.and_eq_false_iff] at taking
      have firstLe := first.length_le
      have secondLe := second.length_le
      rcases taking with taking | taking
      · have := firstLt taking
        omega
      · have := secondLt taking
        omega
  | union member _ induction => exact induction (isNullable_of_mem taking member)
  | first member _ induction => exact induction (isNullable_of_mem taking member)
  | node _ induction => exact induction taking
  | extendBase _ induction => exact induction taking
  | extendStep _ second firstLt _ =>
      have := firstLt taking
      have := second.length_le
      omega
  | chainBase _ induction => exact induction taking
  | chainStep _ second firstLt _ =>
      have := firstLt taking
      have := second.length_le
      omega
  | @ref symbol _ _ _ _ induction => exact induction (grammarNullable symbol taking)

end Taking

/-! ## How deeply rules are nested -/

mutual

/-- How many rules may be entered, one in the other, before a token is taken;
`ranks` counts them for the nonterminals. -/
def Rule.depth (symbols : σ → Bool) (ranks : σ → Nat) : Rule σ → Nat
  | .token _ => 1
  | .spelled _ => 1
  | .terminator => 1
  | .onLine rule => rule.depth symbols ranks + 1
  | .seq rules => Rule.seqDepth symbols ranks rules + 1
  | .union rules => Rule.anyDepth symbols ranks rules + 1
  | .first rules => Rule.anyDepth symbols ranks rules + 1
  | .optional rule => rule.depth symbols ranks + 1
  | .many rule => rule.depth symbols ranks + 1
  | .absent rule => rule.depth symbols ranks + 1
  | .node _ rule => rule.depth symbols ranks + 1
  | .extend _ base step =>
    max (base.depth symbols ranks) (if base.isNullable symbols then step.depth symbols ranks else 0) + 1
  | .chain base step =>
    max (base.depth symbols ranks) (if base.isNullable symbols then step.depth symbols ranks else 0) + 1
  | .ref symbol => ranks symbol + 1

/-- The depth of rules one after the other: a later one counts while no token was
taken. -/
def Rule.seqDepth (symbols : σ → Bool) (ranks : σ → Nat) : List (Rule σ) → Nat
  | [] => 0
  | rule :: rules =>
    max (rule.depth symbols ranks)
      (if rule.isNullable symbols then Rule.seqDepth symbols ranks rules else 0)

def Rule.anyDepth (symbols : σ → Bool) (ranks : σ → Nat) : List (Rule σ) → Nat
  | [] => 0
  | rule :: rules => max (rule.depth symbols ranks) (Rule.anyDepth symbols ranks rules)

end

mutual

/-- Whether every rule that may begin behind a token is at most `factor` deep, and
whatever is repeated takes a token. -/
def Rule.isBounded (symbols : σ → Bool) (ranks : σ → Nat) (factor : Nat) : Rule σ → Bool
  | .onLine rule => rule.isBounded symbols ranks factor
  | .seq rules => Rule.allBounded symbols ranks factor rules
  | .union rules => Rule.allBounded symbols ranks factor rules
  | .first rules => Rule.allBounded symbols ranks factor rules
  | .optional rule => rule.isBounded symbols ranks factor
  | .many rule => rule.isBounded symbols ranks factor && !rule.isNullable symbols
  | .absent rule => rule.isBounded symbols ranks factor
  | .node _ rule => rule.isBounded symbols ranks factor
  | .extend _ base step =>
    base.isBounded symbols ranks factor && step.isBounded symbols ranks factor
      && decide (step.depth symbols ranks ≤ factor)
  | .chain base step =>
    base.isBounded symbols ranks factor && step.isBounded symbols ranks factor
      && decide (step.depth symbols ranks ≤ factor) && !step.isNullable symbols
  | _ => true

def Rule.allBounded (symbols : σ → Bool) (ranks : σ → Nat) (factor : Nat) : List (Rule σ) → Bool
  | [] => true
  | rule :: rules =>
    rule.isBounded symbols ranks factor && decide (rule.depth symbols ranks ≤ factor)
      && Rule.allBounded symbols ranks factor rules

end

section Bounds

variable (symbols : σ → Bool) (ranks : σ → Nat)

theorem Rule.depth_pos (rule : Rule σ) : 0 < rule.depth symbols ranks := by
  cases rule <;> simp [Rule.depth]

private theorem depth_le_anyDepth {rule : Rule σ} {rules : List (Rule σ)} (member : rule ∈ rules) :
    rule.depth symbols ranks ≤ Rule.anyDepth symbols ranks rules := by
  induction rules with
  | nil => cases member
  | cons first rules induction =>
      rw [Rule.anyDepth]
      rcases List.mem_cons.mp member with rfl | member
      · exact Nat.le_max_left _ _
      · exact Nat.le_trans (induction member) (Nat.le_max_right _ _)

variable {symbols ranks} {factor : Nat}

private theorem isBounded_of_mem {rule : Rule σ} {rules : List (Rule σ)}
    (bounded : Rule.allBounded symbols ranks factor rules = true) (member : rule ∈ rules) :
    rule.isBounded symbols ranks factor = true := by
  induction rules with
  | nil => cases member
  | cons first rules induction =>
      rw [Rule.allBounded, Bool.and_eq_true, Bool.and_eq_true] at bounded
      rcases List.mem_cons.mp member with rfl | member
      · exact bounded.1.1
      · exact induction bounded.2 member

private theorem seqDepth_le {rules : List (Rule σ)}
    (bounded : Rule.allBounded symbols ranks factor rules = true) :
    Rule.seqDepth symbols ranks rules ≤ factor := by
  induction rules with
  | nil => exact Nat.zero_le _
  | cons first rules induction =>
      rw [Rule.allBounded, Bool.and_eq_true, Bool.and_eq_true, decide_eq_true_eq] at bounded
      rw [Rule.seqDepth]
      apply Nat.max_le.mpr ⟨bounded.1.2, ?_⟩
      split
      · exact induction bounded.2
      · exact Nat.zero_le _

end Bounds

/-! ## A larger bound changes nothing -/

section Steps

variable {apply otherApply : Rule σ → List Token → List Match}

private theorem matchFirst_congr {rules : List (Rule σ)} {tokens : List Token}
    (same : ∀ rule ∈ rules, apply rule tokens = otherApply rule tokens) :
    matchFirst apply rules tokens = matchFirst otherApply rules tokens := by
  induction rules with
  | nil => rfl
  | cons rule rules induction =>
      rw [matchFirst, matchFirst, same rule (List.mem_cons_self ..),
        induction fun later member => same later (List.mem_cons_of_mem _ member)]

end Steps

section Repeating

variable {run : (List Token → List Match) → Nat → List Tree → List Token → List Match}
  {finish : List Tree → List Tree} {extend : List Tree → List Tree → List Tree}

/-- A step that takes a token is repeated at most once for each. -/
theorem Repeats.enough (repeats : Repeats run finish extend)
    {step otherStep : List Token → List Match} {size : Nat}
    (same : ∀ tokens, tokens.length ≤ size → step tokens = otherStep tokens)
    (taking : ∀ tokens, ∀ one ∈ step tokens, one.2.length < tokens.length)
    {limit otherLimit : Nat} {tokens : List Token} (small : tokens.length ≤ size)
    (within : tokens.length ≤ limit) (otherWithin : tokens.length ≤ otherLimit)
    (found : List Tree) :
    run step limit found tokens = run otherStep otherLimit found tokens := by
  induction limit generalizing otherLimit tokens found with
  | zero =>
      have none : step tokens = [] := by
        apply List.eq_nil_iff_forall_not_mem.mpr
        intro one member
        have := taking tokens one member
        omega
      rw [repeats.stops none, repeats.stops (same tokens small ▸ none)]
  | succ limit induction =>
      by_cases none : step tokens = []
      · rw [repeats.stops none, repeats.stops (same tokens small ▸ none)]
      · rcases List.exists_mem_of_ne_nil _ none with ⟨one, member⟩
        have shorter := taking tokens one member
        rcases Nat.exists_eq_add_one_of_ne_zero (n := otherLimit) (by omega) with ⟨less, rfl⟩
        rw [repeats.succ, repeats.succ, ← same tokens small, if_neg none, if_neg none]
        apply List.flatMap_congr
        intro later laterMember
        have laterShorter := taking tokens later laterMember
        exact induction (by omega) (by omega) (by omega) _

end Repeating

section Enough

variable {symbols : σ → Bool} {ranks : σ → Nat} {factor : Nat} {grammar : σ → Rule σ}
  (grammarNullable : ∀ symbol, symbols symbol = false →
    (grammar symbol).isNullable symbols = false)

include grammarNullable

/-- Behind a match there is room for a rule, since a token was taken or the rule
was counted. -/
private theorem room_behind {rule : Rule σ} {fuel bound size : Nat} {tokens : List Token}
    {found : Match} (member : found ∈ Rule.matches grammar size rule tokens)
    (within : bound ≤ factor)
    (enough : (if rule.isNullable symbols then bound else 0) + factor * tokens.length ≤ fuel) :
    bound + factor * found.2.length ≤ fuel := by
  have derives := derives_of_mem_matches member
  cases nullable : rule.isNullable symbols with
  | true =>
      rw [if_pos nullable] at enough
      have shorter := Nat.mul_le_mul_left factor derives.length_le
      omega
  | false =>
      rw [if_neg (by simp [nullable])] at enough
      have taken : found.2.length + 1 ≤ tokens.length := derives.length_lt grammarNullable nullable
      have shorter := Nat.mul_le_mul_left factor taken
      rw [Nat.mul_add, Nat.mul_one] at shorter
      omega

private theorem matchSeq_enough {size otherSize fuel : Nat}
    (same : ∀ rule tokens, rule.isBounded symbols ranks factor = true →
      rule.depth symbols ranks + factor * tokens.length ≤ fuel →
      Rule.matches grammar size rule tokens = Rule.matches grammar otherSize rule tokens)
    {rules : List (Rule σ)} {tokens : List Token}
    (bounded : Rule.allBounded symbols ranks factor rules = true)
    (enough : Rule.seqDepth symbols ranks rules + factor * tokens.length ≤ fuel) :
    matchSeq (Rule.matches grammar size) rules tokens =
      matchSeq (Rule.matches grammar otherSize) rules tokens := by
  induction rules generalizing tokens with
  | nil => rfl
  | cons rule rules induction =>
      rw [Rule.allBounded, Bool.and_eq_true, Bool.and_eq_true] at bounded
      rw [Rule.seqDepth] at enough
      rw [matchSeq_cons, matchSeq_cons, same rule tokens bounded.1.1 (by omega)]
      apply List.flatMap_congr
      intro found member
      have room : Rule.seqDepth symbols ranks rules + factor * found.2.length ≤ fuel :=
        room_behind grammarNullable member (seqDepth_le bounded.2) (by omega)
      dsimp only
      rw [induction bounded.2 room]

/-- Bounds that leave room for the depth of the rule and for `factor` rules at every
token give the same matches. -/
theorem Rule.matches_eq_of_room (positive : 0 < factor)
    (grammarBounded : ∀ symbol, (grammar symbol).isBounded symbols ranks factor = true)
    (grammarDepth : ∀ symbol, (grammar symbol).depth symbols ranks ≤ ranks symbol)
    {fuel size otherSize : Nat} (within : fuel ≤ size) (otherWithin : fuel ≤ otherSize)
    {rule : Rule σ} {tokens : List Token} (bounded : rule.isBounded symbols ranks factor = true)
    (enough : rule.depth symbols ranks + factor * tokens.length ≤ fuel) :
    Rule.matches grammar size rule tokens = Rule.matches grammar otherSize rule tokens := by
  induction fuel generalizing size otherSize rule tokens with
  | zero =>
      have := rule.depth_pos symbols ranks
      omega
  | succ fuel induction =>
      rcases Nat.exists_eq_add_one_of_ne_zero (Nat.ne_zero_of_lt within) with ⟨size, rfl⟩
      rcases Nat.exists_eq_add_one_of_ne_zero (Nat.ne_zero_of_lt otherWithin) with ⟨otherSize, rfl⟩
      have within := Nat.le_of_add_le_add_right within
      have otherWithin := Nat.le_of_add_le_add_right otherWithin
      have same := fun rule tokens => @induction size otherSize within otherWithin rule tokens
      have allTokens := Nat.le_mul_of_pos_left tokens.length positive
      cases rule with
      | token | spelled | terminator => rfl
      | onLine rule =>
          rw [Rule.depth] at enough
          simp only [Rule.matches, same rule tokens bounded (by omega)]
      | seq rules =>
          rw [Rule.depth] at enough
          exact matchSeq_enough grammarNullable same bounded (by omega)
      | union rules =>
          rw [Rule.depth] at enough
          simp only [Rule.matches]
          rw [List.flatMap_def, List.flatMap_def]
          congr 1
          apply List.map_congr_left
          intro rule member
          have shallower := depth_le_anyDepth symbols ranks member
          exact same rule tokens (isBounded_of_mem bounded member) (by omega)
      | first rules =>
          rw [Rule.depth] at enough
          apply matchFirst_congr
          intro rule member
          have shallower := depth_le_anyDepth symbols ranks member
          exact same rule tokens (isBounded_of_mem bounded member) (by omega)
      | optional rule | absent rule | node kind rule =>
          rw [Rule.depth] at enough
          simp only [Rule.matches, same rule tokens bounded (by omega)]
      | many rule =>
          rw [Rule.depth] at enough
          rw [Rule.isBounded, Bool.and_eq_true, Bool.not_eq_true'] at bounded
          refine repeats_matchMany.enough ?_ ?_ (Nat.le_refl _) (by omega) (by omega) []
          · intro others shorter
            have := Nat.mul_le_mul_left factor shorter
            exact same rule others bounded.1 (by omega)
          · intro others found member
            exact (derives_of_mem_matches member).length_lt grammarNullable bounded.2
      | extend needed base step =>
          rw [Rule.depth] at enough
          rw [Rule.isBounded, Bool.and_eq_true, Bool.and_eq_true, decide_eq_true_eq] at bounded
          rcases bounded with ⟨⟨baseBounded, stepBounded⟩, shallow⟩
          simp only [Rule.matches, same base tokens baseBounded (by omega)]
          apply List.flatMap_congr
          intro found member
          have room : step.depth symbols ranks + factor * found.2.length ≤ fuel :=
            room_behind grammarNullable member shallow (by omega)
          simp only [same step found.2 stepBounded room]
      | chain base step =>
          rw [Rule.depth] at enough
          rw [Rule.isBounded, Bool.and_eq_true, Bool.and_eq_true, Bool.and_eq_true,
            decide_eq_true_eq, Bool.not_eq_true'] at bounded
          rcases bounded with ⟨⟨⟨baseBounded, stepBounded⟩, shallow⟩, taking⟩
          simp only [Rule.matches, same base tokens baseBounded (by omega)]
          apply List.flatMap_congr
          intro found member
          have room : step.depth symbols ranks + factor * found.2.length ≤ fuel :=
            room_behind grammarNullable member shallow (by omega)
          have fewer := Nat.le_mul_of_pos_left found.2.length positive
          refine repeats_matchChain.enough ?_ ?_ (Nat.le_refl _) (by omega) (by omega) _
          · intro others shorter
            have := Nat.mul_le_mul_left factor shorter
            exact same step others stepBounded (by omega)
          · intro others later laterMember
            exact (derives_of_mem_matches laterMember).length_lt grammarNullable taking
      | ref symbol =>
          rw [Rule.depth] at enough
          have shallower := grammarDepth symbol
          exact same (grammar symbol) tokens (grammarBounded symbol) (by omega)

end Enough

/-! ## The grammar of Go -/

/-- The nonterminals that may take no token. -/
def Symbol.isNullable : Symbol → Bool
  | .sourceFile | .caseBody => true
  | _ => false

/-- How many rules a nonterminal may enter before it takes a token. -/
def Symbol.rank : Symbol → Nat
  | .sourceFile => 28
  | .constSpec | .varSpec => 4
  | .topLevel | .importSpec => 5
  | .typeSpec | .block | .ifStatement | .literalBody | .arguments => 3
  | .typeName _ | .typeArguments | .typeParameters | .parameters => 3
  | .simpleType _ => 5
  | .anyType _ | .result _ => 7
  | .typeElement _ => 9
  | .primary _ => 11
  | .unary _ => 13
  | .expression _ => 15
  | .expressionList _ | .simple _ _ | .element => 17
  | .statement => 21
  | .statementList => 25
  | .caseBody => 27

/-- The number of rules for each token in `nestingBound`. -/
def Grammar.nestingFactor : Nat := 128

private theorem nested_rule (symbol : Symbol) :
    ((Grammar.rule symbol).isBounded Symbol.isNullable Symbol.rank Grammar.nestingFactor
      && (Grammar.rule symbol).depth Symbol.isNullable Symbol.rank ≤ symbol.rank
      && (symbol.isNullable || !(Grammar.rule symbol).isNullable Symbol.isNullable)) = true := by
  cases symbol with
  | simple first rest | expression first | unary first | primary first | expressionList first =>
      rcases first with ⟨terminator, block, step, send⟩
      cases terminator <;> cases block <;> cases step <;> cases send <;> rfl
  | typeName ends | simpleType ends | anyType ends | typeElement ends | result ends =>
      cases ends <;> rfl
  | _ => rfl

theorem Grammar.isBounded_rule (symbol : Symbol) :
    (Grammar.rule symbol).isBounded Symbol.isNullable Symbol.rank Grammar.nestingFactor = true := by
  have nested := nested_rule symbol
  rw [Bool.and_eq_true, Bool.and_eq_true] at nested
  exact nested.1.1

theorem Grammar.depth_rule (symbol : Symbol) :
    (Grammar.rule symbol).depth Symbol.isNullable Symbol.rank ≤ symbol.rank := by
  have nested := nested_rule symbol
  rw [Bool.and_eq_true, Bool.and_eq_true, decide_eq_true_eq] at nested
  exact nested.1.2

theorem Grammar.isNullable_rule (symbol : Symbol) (taking : symbol.isNullable = false) :
    (Grammar.rule symbol).isNullable Symbol.isNullable = false := by
  have nested := nested_rule symbol
  rw [Bool.and_eq_true, taking, Bool.false_or, Bool.not_eq_true'] at nested
  exact nested.2

/-- The parser finds the same with any bound for at least as many tokens. -/
theorem matches_sourceFile_eq {tokens : List Token} {count : Nat} (more : tokens.length ≤ count) :
    Rule.matches Grammar.rule (nestingBound count) (.ref Symbol.sourceFile) tokens =
      Rule.matches Grammar.rule (nestingBound tokens.length) (.ref Symbol.sourceFile) tokens := by
  have positive : 0 < Grammar.nestingFactor := by decide
  have larger : nestingBound tokens.length ≤ nestingBound count := by
    rw [nestingBound, nestingBound]
    omega
  refine Rule.matches_eq_of_room Grammar.isNullable_rule positive Grammar.isBounded_rule
    Grammar.depth_rule larger (Nat.le_refl _) rfl ?_
  rw [Rule.depth, Symbol.rank, nestingBound, Grammar.nestingFactor]
  omega

end QueryPipe.Go
