import QueryPipe.Proofs.GrammarShape
import Mathlib.Data.List.Forall2

/-! Two token lists on which every rule does the same. Where a relation between
token lists and one between rows of trees agree on single tokens, marks, ends of
statements and line ends, they agree on every rule: the matches on both sides
correspond one by one. -/

namespace QueryPipe.Go

/-- Two matches correspond: so do their trees, and so do the tokens left. -/
def Corresponds (tokensAlike : List Token → List Token → Prop)
    (treesAlike : List Tree → List Tree → Prop) (left right : Match) : Prop :=
  treesAlike left.1 right.1 ∧ tokensAlike left.2 right.2

/-- A relation between token lists and one between rows of trees that agree on
what rules are made of. -/
structure Simulation (tokensAlike : List Token → List Token → Prop)
    (treesAlike : List Tree → List Tree → Prop) : Prop where
  token : ∀ terminal left right, tokensAlike left right →
    List.Forall₂ (Corresponds tokensAlike treesAlike)
      (matchToken terminal left) (matchToken terminal right)
  spelled : ∀ marks left right, tokensAlike left right →
    List.Forall₂ (Corresponds tokensAlike treesAlike) (matchMarks marks left) (matchMarks marks right)
  terminator : ∀ left right, tokensAlike left right →
    List.Forall₂ (Corresponds tokensAlike treesAlike) (matchTerminator left) (matchTerminator right)
  line : ∀ left right, tokensAlike left right → continuesLine left = continuesLine right
  nil : treesAlike [] []
  append : ∀ {left right moreLeft moreRight}, treesAlike left right →
    treesAlike moreLeft moreRight → treesAlike (left ++ moreLeft) (right ++ moreRight)
  node : ∀ {left right} kind, treesAlike left right →
    treesAlike [.node kind left] [.node kind right]
  graft : ∀ {left right kind children otherKind otherChildren}, treesAlike left right →
    treesAlike [.node kind children] [.node otherKind otherChildren] →
    treesAlike [.node kind (left ++ children)] [.node otherKind (right ++ otherChildren)]

private theorem forall₂_flatMap {P Q : Match → Match → Prop} {left right : List Match}
    {next otherNext : Match → List Match} (related : List.Forall₂ P left right)
    (step : ∀ first ∈ left, ∀ second ∈ right, P first second →
      List.Forall₂ Q (next first) (otherNext second)) :
    List.Forall₂ Q (left.flatMap next) (right.flatMap otherNext) := by
  induction related with
  | nil => exact .nil
  | @cons first second left right here _ induction =>
      rw [List.flatMap_cons, List.flatMap_cons]
      refine List.rel_append ?_ (induction ?_)
      · exact step first (List.mem_cons_self ..) second (List.mem_cons_self ..) here
      · intro laterFirst firstMember laterSecond secondMember
        exact step laterFirst (List.mem_cons_of_mem _ firstMember) laterSecond
          (List.mem_cons_of_mem _ secondMember)

private theorem forall₂_map {P Q : Match → Match → Prop} {left right : List Match}
    {change otherChange : Match → Match} (related : List.Forall₂ P left right)
    (step : ∀ first ∈ left, ∀ second ∈ right, P first second →
      Q (change first) (otherChange second)) :
    List.Forall₂ Q (left.map change) (right.map otherChange) := by
  rw [List.map_eq_flatMap, List.map_eq_flatMap]
  apply forall₂_flatMap related
  intro first firstMember second secondMember here
  exact .cons (step first firstMember second secondMember here) .nil

private theorem eq_nil_iff_of_forall₂ {P : Match → Match → Prop} {left right : List Match}
    (related : List.Forall₂ P left right) : left = [] ↔ right = [] := by
  cases related <;> simp

section Rules

variable {tokensAlike : List Token → List Token → Prop} {treesAlike : List Tree → List Tree → Prop}
  (simulation : Simulation tokensAlike treesAlike) {apply : Rule σ → List Token → List Match}

/-- A rule matches alike on token lists that are alike. -/
def MatchesAlike (tokensAlike : List Token → List Token → Prop)
    (treesAlike : List Tree → List Tree → Prop) (step : List Token → List Match) : Prop :=
  ∀ left right, tokensAlike left right →
    List.Forall₂ (Corresponds tokensAlike treesAlike) (step left) (step right)

include simulation

private theorem matchSeq_alike {rules : List (Rule σ)}
    (alike : ∀ rule ∈ rules, MatchesAlike tokensAlike treesAlike (apply rule)) :
    MatchesAlike tokensAlike treesAlike (matchSeq apply rules) := by
  induction rules with
  | nil =>
      intro left right tokens
      exact .cons ⟨simulation.nil, tokens⟩ .nil
  | cons rule rules induction =>
      intro left right tokens
      rw [matchSeq_cons, matchSeq_cons]
      have rest := induction fun rule member => alike rule (List.mem_cons_of_mem _ member)
      apply forall₂_flatMap (alike rule (List.mem_cons_self ..) left right tokens)
      intro first _ second _ here
      apply forall₂_map (rest first.2 second.2 here.2)
      intro more _ otherMore _ later
      exact ⟨simulation.append here.1 later.1, later.2⟩

omit simulation in
private theorem matchFirst_alike {rules : List (Rule σ)}
    (alike : ∀ rule ∈ rules, MatchesAlike tokensAlike treesAlike (apply rule)) :
    MatchesAlike tokensAlike treesAlike (matchFirst apply rules) := by
  induction rules with
  | nil => exact fun _ _ _ => .nil
  | cons rule rules induction =>
      intro left right tokens
      have here := alike rule (List.mem_cons_self ..) left right tokens
      have rest := induction (fun rule member => alike rule (List.mem_cons_of_mem _ member))
        left right tokens
      rw [matchFirst, matchFirst]
      cases leftEq : apply rule left with
      | nil =>
          rw [leftEq] at here
          rw [(eq_nil_iff_of_forall₂ here).mp rfl]
          exact rest
      | cons =>
          rw [leftEq] at here
          cases rightEq : apply rule right with
          | nil =>
              rw [rightEq] at here
              cases here
          | cons =>
              rw [rightEq] at here
              exact here

omit simulation in
private theorem repeats_alike
    {run : (List Token → List Match) → Nat → List Tree → List Token → List Match}
    {finish : List Tree → List Tree} {extend : List Tree → List Tree → List Tree}
    (repeats : Repeats run finish extend) {step : List Token → List Match}
    (alike : MatchesAlike tokensAlike treesAlike step)
    (extending : ∀ {found otherFound left right first second},
      treesAlike (finish found) (finish otherFound) → first ∈ step left → second ∈ step right →
      treesAlike first.1 second.1 →
      treesAlike (finish (extend found first.1)) (finish (extend otherFound second.1)))
    (limit : Nat) {found otherFound : List Tree}
    (trees : treesAlike (finish found) (finish otherFound)) {left right : List Token}
    (tokens : tokensAlike left right) :
    List.Forall₂ (Corresponds tokensAlike treesAlike)
      (run step limit found left) (run step limit otherFound right) := by
  induction limit generalizing found otherFound left right with
  | zero =>
      rw [repeats.zero, repeats.zero]
      exact .cons ⟨trees, tokens⟩ .nil
  | succ limit induction =>
      have steps := alike left right tokens
      have same := eq_nil_iff_of_forall₂ steps
      rw [repeats.succ, repeats.succ]
      by_cases noMatch : step left = []
      · rw [if_pos noMatch, if_pos (same.mp noMatch)]
        exact .cons ⟨trees, tokens⟩ .nil
      · rw [if_neg noMatch, if_neg (mt same.mpr noMatch)]
        apply forall₂_flatMap steps
        intro first firstMember second secondMember here
        exact induction (extending trees firstMember secondMember here.1) here.2

private theorem matchMany_alike {step : List Token → List Match}
    (alike : MatchesAlike tokensAlike treesAlike step) (limit : Nat) {left right : List Token}
    (tokens : tokensAlike left right) :
    List.Forall₂ (Corresponds tokensAlike treesAlike)
      (matchMany step limit [] left) (matchMany step limit [] right) := by
  have start : treesAlike (List.reverse []) (List.reverse []) := simulation.nil
  refine repeats_alike repeats_matchMany alike ?_ limit start tokens
  intro found otherFound _ _ first second trees _ _ here
  rw [List.reverse_append, List.reverse_append, List.reverse_reverse, List.reverse_reverse]
  exact simulation.append trees here

/-- Every match of a step is a single node. -/
private def Wraps (step : List Token → List Match) : Prop :=
  ∀ tokens, ∀ found ∈ step tokens, ∃ kind children, found.1 = [Tree.node kind children]

private theorem graft_alike {base otherBase : List Tree} {first second : Match}
    (trees : treesAlike base otherBase) (nodes : treesAlike first.1 second.1)
    (firstNode : ∃ kind children, first.1 = [Tree.node kind children])
    (secondNode : ∃ kind children, second.1 = [Tree.node kind children]) :
    treesAlike (graft base first.1) (graft otherBase second.1) := by
  rcases firstNode with ⟨kind, children, firstEq⟩
  rcases secondNode with ⟨otherKind, otherChildren, secondEq⟩
  rw [firstEq, secondEq] at nodes ⊢
  exact simulation.graft trees nodes

private theorem matchChain_alike {step : List Token → List Match}
    (alike : MatchesAlike tokensAlike treesAlike step) (wraps : Wraps step) (limit : Nat)
    {base otherBase : List Tree} (trees : treesAlike base otherBase) {left right : List Token}
    (tokens : tokensAlike left right) :
    List.Forall₂ (Corresponds tokensAlike treesAlike)
      (matchChain step limit base left) (matchChain step limit otherBase right) := by
  refine repeats_alike repeats_matchChain alike ?_ limit trees tokens
  intro found otherFound left right first second trees firstMember secondMember here
  exact graft_alike simulation trees here (wraps left first firstMember)
    (wraps right second secondMember)

end Rules

/-! ## Every rule -/

section Grammar

variable {tokensAlike : List Token → List Token → Prop} {treesAlike : List Tree → List Tree → Prop}
  {symbols : σ → Bool} {grammar : σ → Rule σ}

private theorem wraps_matches (grammarAudit : ∀ symbol, (grammar symbol).audit symbols = true)
    (grammarLoose : ∀ symbol, symbols symbol = false → (grammar symbol).isLoose symbols = false)
    {step : Rule σ} (audited : step.audit symbols = true) (wraps : step.wraps = true) (fuel : Nat) :
    Wraps (Rule.matches grammar fuel step) := by
  intro tokens found member
  have derives := derives_of_mem_matches member
  exact (derives.shaped grammarAudit grammarLoose audited).wrapped wraps

/-- With the same fuel, a rule of a checked grammar matches alike on token lists
that are alike. -/
theorem Simulation.matches_alike (simulation : Simulation tokensAlike treesAlike)
    (grammarAudit : ∀ symbol, (grammar symbol).audit symbols = true)
    (grammarLoose : ∀ symbol, symbols symbol = false → (grammar symbol).isLoose symbols = false)
    (fuel : Nat) {rule : Rule σ} (audited : rule.audit symbols = true) :
    MatchesAlike tokensAlike treesAlike (Rule.matches grammar fuel rule) := by
  induction fuel generalizing rule with
  | zero => exact fun _ _ _ => .nil
  | succ fuel induction =>
      intro left right tokens
      cases rule with
      | token terminal => exact simulation.token terminal left right tokens
      | spelled marks => exact simulation.spelled marks left right tokens
      | terminator => exact simulation.terminator left right tokens
      | onLine rule =>
          simp only [Rule.matches, simulation.line left right tokens]
          split
          · exact @induction rule audited left right tokens
          · exact .nil
      | seq rules =>
          have alike := fun rule (member : rule ∈ rules) =>
            @induction rule (Rule.audit_of_mem audited member)
          exact matchSeq_alike simulation alike left right tokens
      | union rules =>
          have alike := fun rule (member : rule ∈ rules) =>
            @induction rule (Rule.audit_of_mem audited member) left right tokens
          simp only [Rule.matches]
          clear audited
          induction rules with
          | nil => exact .nil
          | cons rule rules inner =>
              rw [List.flatMap_cons, List.flatMap_cons]
              refine List.rel_append (alike rule (List.mem_cons_self ..)) (inner ?_)
              intro later member
              exact alike later (List.mem_cons_of_mem _ member)
      | first rules =>
          have alike := fun rule (member : rule ∈ rules) =>
            @induction rule (Rule.audit_of_mem audited member)
          exact matchFirst_alike alike left right tokens
      | optional rule =>
          have alike := @induction rule audited left right tokens
          have same := eq_nil_iff_of_forall₂ alike
          simp only [Rule.matches]
          cases leftEq : Rule.matches grammar fuel rule left with
          | nil =>
              rw [same.mp leftEq]
              exact .cons ⟨simulation.nil, tokens⟩ .nil
          | cons =>
              cases rightEq : Rule.matches grammar fuel rule right with
              | nil =>
                  rw [same.mpr rightEq] at leftEq
                  cases leftEq
              | cons =>
                  rw [leftEq, rightEq] at alike
                  exact alike
      | many rule =>
          exact matchMany_alike simulation (@induction rule audited) fuel tokens
      | absent rule =>
          have same := eq_nil_iff_of_forall₂ (@induction rule audited left right tokens)
          simp only [Rule.matches, List.isEmpty_iff]
          by_cases noMatch : Rule.matches grammar fuel rule left = []
          · rw [if_pos noMatch, if_pos (same.mp noMatch)]
            exact .cons ⟨simulation.nil, tokens⟩ .nil
          · rw [if_neg noMatch, if_neg (mt same.mpr noMatch)]
            exact .nil
      | node kind rule =>
          rw [Rule.audit, Bool.and_eq_true, Bool.and_eq_true] at audited
          apply forall₂_map (@induction rule audited.1.1 left right tokens)
          intro first _ second _ here
          exact ⟨simulation.node kind here.1, here.2⟩
      | extend needed base step =>
          rw [Rule.audit, Bool.and_eq_true, Bool.and_eq_true, Bool.and_eq_true] at audited
          rcases audited with ⟨⟨⟨baseAudit, stepAudit⟩, wraps⟩, -⟩
          have wrapped := wraps_matches grammarAudit grammarLoose stepAudit wraps fuel
          apply forall₂_flatMap (@induction base baseAudit left right tokens)
          intro first _ second _ here
          have alike := @induction step stepAudit first.2 second.2 here.2
          have same := eq_nil_iff_of_forall₂ alike
          dsimp only
          cases firstEq : Rule.matches grammar fuel step first.2 with
          | nil =>
              rw [same.mp firstEq]
              cases needed with
              | true => exact .nil
              | false => exact .cons here .nil
          | cons =>
              cases secondEq : Rule.matches grammar fuel step second.2 with
              | nil =>
                  rw [same.mpr secondEq] at firstEq
                  cases firstEq
              | cons =>
                  rw [firstEq, secondEq] at alike
                  apply forall₂_map alike
                  intro more moreMember otherMore otherMember later
                  rw [← firstEq] at moreMember
                  rw [← secondEq] at otherMember
                  exact ⟨graft_alike simulation here.1 later.1 (wrapped _ more moreMember)
                    (wrapped _ otherMore otherMember), later.2⟩
      | chain base step =>
          rw [Rule.audit, Bool.and_eq_true, Bool.and_eq_true, Bool.and_eq_true] at audited
          rcases audited with ⟨⟨⟨baseAudit, stepAudit⟩, wraps⟩, -⟩
          apply forall₂_flatMap (@induction base baseAudit left right tokens)
          intro first _ second _ here
          exact matchChain_alike simulation (induction stepAudit)
            (wraps_matches grammarAudit grammarLoose stepAudit wraps fuel) fuel here.1 here.2
      | ref symbol => exact induction (grammarAudit symbol) left right tokens

end Grammar

end QueryPipe.Go
