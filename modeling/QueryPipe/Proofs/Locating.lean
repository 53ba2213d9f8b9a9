import QueryPipe.Proofs.Lexing
import QueryPipe.Proofs.Derivations
import QueryPipe.Site.Locate
import Mathlib.Data.List.Sort

/-! The sites of a source are string literals among its tokens, in strictly
increasing order. -/

namespace QueryPipe.Site

open Go (Tree Token forestTokens)

/-! ## Literals of a tree -/

theorem tokens_subset_of_mem_parts {tree part : Tree} (member : part ∈ tree.parts) :
    part.tokens ⊆ tree.tokens := by
  cases tree with
  | leaf token => cases member
  | node kind children =>
      rw [Tree.tokens]
      exact Go.tokens_subset_forestTokens (List.mem_of_mem_filter member)

/-- A literal that is a token of a tree. -/
private def LiteralOf (tree : Tree) (literal : Token × Kind) : Prop :=
  literal.1 ∈ tree.tokens ∧ literal.1.kind = .stringLiteral

private theorem LiteralOf.of_part {tree part : Tree} {literal : Token × Kind}
    (member : part ∈ tree.parts) (inPart : LiteralOf part literal) : LiteralOf tree literal :=
  ⟨tokens_subset_of_mem_parts member inPart.1, inPart.2⟩

private theorem literalOf_of_stringLiteral? {tree : Tree} {token : Token}
    (found : tree.stringLiteral? = some token) (kind : Kind) : LiteralOf tree (token, kind) := by
  cases tree with
  | leaf leafToken =>
      rw [Tree.stringLiteral?] at found
      split at found
      · rename_i isLiteral
        rcases Option.some.inj found with rfl
        exact ⟨by simp [Tree.tokens], beq_iff_eq.mp isLiteral⟩
      · cases found
  | node => cases found

private theorem literalOf_of_literalOfValue? {shape : Shape} {value : Tree}
    {literal : Token × Kind} (found : shape.literalOfValue? value = some literal) :
    LiteralOf value literal := by
  rw [Shape.literalOfValue?] at found
  split at found
  · rename_i token isLiteral
    rcases Option.some.inj found with rfl
    exact literalOf_of_stringLiteral? isLiteral _
  · split at found
    · rcases Option.bind_eq_some_iff.mp found with ⟨argument, isFirst, found⟩
      rcases Option.map_eq_some_iff.mp found with ⟨token, isLiteral, rfl⟩
      rw [firstArgument?] at isFirst
      split at isFirst
      · rename_i arguments isLast
        split at isFirst
        · exact .of_part (List.mem_of_getLast? isLast)
            (.of_part (List.mem_of_getElem? isFirst) (literalOf_of_stringLiteral? isLiteral _))
        · cases isFirst
      · cases isFirst
    · cases found

private theorem literalOf_of_literalOfElement? {shape : Shape} {element : Tree}
    {literal : Token × Kind} (found : shape.literalOfElement? element = some literal) :
    LiteralOf element literal := by
  rw [Shape.literalOfElement?] at found
  split at found
  · split at found
    · rename_i key colon value parts
      split at found
      · refine .of_part ?_ (literalOf_of_literalOfValue? found)
        simp [parts]
      · cases found
    · cases found
  · cases found

private theorem literalOf_of_mem_literalsOf {shape : Shape} {tree : Tree}
    {literal : Token × Kind} (found : literal ∈ shape.literalsOf tree) :
    LiteralOf tree literal := by
  rw [Shape.literalsOf] at found
  split at found
  · split at found
    · rename_i type body parts
      split at found
      · rcases List.mem_filterMap.mp found with ⟨element, member, found⟩
        have isPart : body ∈ tree.parts := by simp [parts]
        exact .of_part isPart (.of_part member (literalOf_of_literalOfElement? found))
      · cases found
    · cases found
  · cases found

mutual

private theorem literalOf_of_mem_literals {shape : Shape} {literal : Token × Kind} :
    ∀ {tree : Tree}, literal ∈ shape.literals tree → LiteralOf tree literal
  | .leaf _, found => by cases found
  | .node kind children, found => by
      rw [Shape.literals] at found
      rcases List.mem_append.mp found with here | below
      · exact literalOf_of_mem_literalsOf here
      · rcases mem_tokens_of_mem_forestLiterals below with ⟨member, isLiteral⟩
        exact ⟨by rwa [Tree.tokens], isLiteral⟩

private theorem mem_tokens_of_mem_forestLiterals {shape : Shape} {literal : Token × Kind} :
    ∀ {trees : List Tree}, literal ∈ shape.forestLiterals trees →
      literal.1 ∈ forestTokens trees ∧ literal.1.kind = .stringLiteral
  | [], found => by cases found
  | tree :: rest, found => by
      rw [Shape.forestLiterals] at found
      rw [forestTokens, List.mem_append]
      rcases List.mem_append.mp found with here | later
      · rcases literalOf_of_mem_literals here with ⟨member, isLiteral⟩
        exact ⟨.inl member, isLiteral⟩
      · rcases mem_tokens_of_mem_forestLiterals later with ⟨member, isLiteral⟩
        exact ⟨.inr member, isLiteral⟩

end

/-- A literal of a tree is a string literal among the tokens of the tree. -/
theorem mem_tokens_of_mem_literals {shape : Shape} {tree : Tree} {literal : Token × Kind}
    (found : literal ∈ shape.literals tree) :
    literal.1 ∈ tree.tokens ∧ literal.1.kind = .stringLiteral :=
  literalOf_of_mem_literals found

/-! ## Order -/

/-- Drops a literal that begins where the one before it begins. -/
def distinct : List (Token × Kind) → List (Token × Kind)
  | first :: second :: rest =>
    if first.1.start == second.1.start then distinct (first :: rest)
    else first :: distinct (second :: rest)
  | literals => literals
termination_by literals => literals.length

/-- Literals in source order, each once. -/
def inOrder (literals : List (Token × Kind)) : List (Token × Kind) :=
  distinct (literals.mergeSort fun left right => left.1.start ≤ right.1.start)

private theorem eq_nil_or_singleton {literals : List (Token × Kind)}
    (short : ∀ first second rest, literals = first :: second :: rest → False) :
    literals = [] ∨ ∃ literal, literals = [literal] := by
  rcases literals with _ | ⟨first, _ | ⟨second, rest⟩⟩
  · exact .inl rfl
  · exact .inr ⟨first, rfl⟩
  · exact absurd rfl (short first second rest)

private theorem dropRepeated_map_ofLiteral (source : List Char) (literals : List (Token × Kind)) :
    dropRepeated (literals.map (ofLiteral source)) =
      (distinct literals).map (ofLiteral source) := by
  induction literals using distinct.induct with
  | case1 first second rest same induction =>
      rw [distinct, if_pos same, ← induction]
      simp only [List.map_cons]
      rw [dropRepeated, if_pos (by simpa [ofLiteral] using same)]
  | case2 first second rest different induction =>
      rw [distinct, if_neg different, List.map_cons (l := distinct _), ← induction]
      simp only [List.map_cons]
      rw [dropRepeated, if_neg (by simpa [ofLiteral] using different)]
  | case3 literals short =>
      rcases eq_nil_or_singleton short with rfl | ⟨literal, rfl⟩ <;> simp [distinct, dropRepeated]

theorem locate_eq (shape : Shape) (source : List Char) (tree : Tree) :
    locate shape source tree = (inOrder (shape.literals tree)).map (ofLiteral source) := by
  rw [inOrder, ← dropRepeated_map_ofLiteral, locate, List.map_mergeSort]
  intro left _ right _
  rfl

private theorem distinct_subset (literals : List (Token × Kind)) :
    distinct literals ⊆ literals := by
  induction literals using distinct.induct with
  | case1 first second rest same induction =>
      rw [distinct, if_pos same]
      refine List.Subset.trans induction (List.cons_subset_cons _ ?_)
      exact List.subset_cons_self ..
  | case2 first second rest different induction =>
      rw [distinct, if_neg different]
      exact List.cons_subset_cons _ induction
  | case3 literals short =>
      rcases eq_nil_or_singleton short with rfl | ⟨literal, rfl⟩ <;> simp [distinct]

private theorem distinct_increasing {literals : List (Token × Kind)}
    (sorted : literals.Pairwise fun left right => left.1.start ≤ right.1.start) :
    (distinct literals).Pairwise fun left right => left.1.start < right.1.start := by
  induction literals using distinct.induct with
  | case1 first second rest same induction =>
      rw [distinct, if_pos same]
      apply induction
      exact sorted.sublist (List.Sublist.cons_cons _ (List.sublist_cons_self ..))
  | case2 first second rest different induction =>
      rw [distinct, if_neg different, List.pairwise_cons]
      refine ⟨?_, induction sorted.of_cons⟩
      intro literal member
      have notEqual : first.1.start ≠ second.1.start := by simpa using different
      have toSecond := List.rel_of_pairwise_cons sorted (List.mem_cons_self ..)
      rcases List.mem_cons.mp (distinct_subset _ member) with rfl | later
      · omega
      · have toLater := List.rel_of_pairwise_cons sorted.of_cons later
        omega
  | case3 literals short =>
      rcases eq_nil_or_singleton short with rfl | ⟨literal, rfl⟩ <;> simp [distinct]

theorem inOrder_subset (literals : List (Token × Kind)) : inOrder literals ⊆ literals := by
  intro literal member
  exact List.mem_mergeSort.mp (distinct_subset _ member)

private theorem pairwise_mergeSort_start {α : Type} (start : α → Nat) (items : List α) :
    (items.mergeSort fun left right => start left ≤ start right).Pairwise
      fun left right => start left ≤ start right := by
  have transitive : ∀ first second third : α, decide (start first ≤ start second) = true →
      decide (start second ≤ start third) = true → decide (start first ≤ start third) = true := by
    simp only [decide_eq_true_eq]
    omega
  have total : ∀ first second : α,
      (decide (start first ≤ start second) || decide (start second ≤ start first)) = true := by
    simp only [Bool.or_eq_true, decide_eq_true_eq]
    omega
  simpa using List.pairwise_mergeSort transitive total items

theorem inOrder_increasing (literals : List (Token × Kind)) :
    (inOrder literals).Pairwise fun left right => left.1.start < right.1.start :=
  distinct_increasing (pairwise_mergeSort_start _ literals)

private theorem dropRepeated_of_increasing {sites : List Site}
    (increasing : sites.Pairwise fun left right => left.start < right.start) :
    dropRepeated sites = sites := by
  induction sites using dropRepeated.induct with
  | case1 first second rest same =>
      have less := List.rel_of_pairwise_cons increasing (List.mem_cons_self ..)
      exact absurd (beq_iff_eq.mp same) (Nat.ne_of_lt less)
  | case2 first second rest different induction =>
      rw [dropRepeated, if_neg different, induction increasing.of_cons]
  | case3 sites short => rw [dropRepeated]; exact short

/-- Sites that are found in some order, and begin one behind the other in this one, are located
in this one. -/
theorem locate_eq_of_perm {shape : Shape} {source : List Char} {tree : Tree} {sites : List Site}
    (found : sites.Perm ((shape.literals tree).map (ofLiteral source)))
    (increasing : sites.Pairwise fun left right => left.start < right.start) :
    locate shape source tree = sites := by
  have apart : (sites.map start).Nodup :=
    List.pairwise_map.mpr (increasing.imp fun less => Nat.ne_of_lt less)
  have same : ((shape.literals tree).map (ofLiteral source)).mergeSort
      (fun left right => left.start ≤ right.start) = sites := by
    refine List.Perm.eq_of_pairwise ?_ (pairwise_mergeSort_start start _)
      (increasing.imp fun less => Nat.le_of_lt less) ((List.mergeSort_perm ..).trans found.symm)
    intro left right leftMember rightMember before behind
    rw [List.mem_mergeSort, ← found.mem_iff] at leftMember
    exact List.inj_on_of_nodup_map apart leftMember rightMember (Nat.le_antisymm before behind)
  rw [locate, same, dropRepeated_of_increasing increasing]

private theorem mem_distinct_iff {literals : List (Token × Kind)}
    (unique : ∀ first ∈ literals, ∀ second ∈ literals,
      first.1.start = second.1.start → first = second) {literal : Token × Kind} :
    literal ∈ distinct literals ↔ literal ∈ literals := by
  induction literals using distinct.induct with
  | case1 first second rest same induction =>
      rcases unique first (by simp) second (by simp) (beq_iff_eq.mp same) with rfl
      rw [distinct, if_pos same, induction]
      · simp
      · intro left leftMember right rightMember
        exact unique left (List.mem_cons_of_mem _ leftMember) right
          (List.mem_cons_of_mem _ rightMember)
  | case2 first second rest different induction =>
      rw [distinct, if_neg different, List.mem_cons, induction, List.mem_cons (l := second :: rest)]
      intro left leftMember right rightMember
      exact unique left (List.mem_cons_of_mem _ leftMember) right
        (List.mem_cons_of_mem _ rightMember)
  | case3 literals short =>
      rcases eq_nil_or_singleton short with rfl | ⟨only, rfl⟩ <;> simp [distinct]

/-- Where literals that begin at one offset are one, none of them is lost. -/
theorem mem_inOrder_iff {literals : List (Token × Kind)}
    (unique : ∀ first ∈ literals, ∀ second ∈ literals,
      first.1.start = second.1.start → first = second) {literal : Token × Kind} :
    literal ∈ inOrder literals ↔ literal ∈ literals := by
  rw [inOrder, mem_distinct_iff, List.mem_mergeSort]
  intro first firstMember second secondMember
  exact unique first (List.mem_mergeSort.mp firstMember) second
    (List.mem_mergeSort.mp secondMember)

private theorem distinct_map {change : Token → Token} {literals : List (Token × Kind)}
    (faithful : ∀ first ∈ literals, ∀ second ∈ literals,
      (first.1.start = second.1.start ↔ (change first.1).start = (change second.1).start)) :
    distinct (literals.map (Prod.map change id)) =
      (distinct literals).map (Prod.map change id) := by
  induction literals using distinct.induct with
  | case1 first second rest same induction =>
      have sameChanged : (change first.1).start = (change second.1).start :=
        (faithful first (by simp) second (by simp)).mp (beq_iff_eq.mp same)
      rw [distinct, if_pos same, ← induction]
      · simp only [List.map_cons]
        rw [distinct, if_pos (by simpa using sameChanged)]
      · intro left leftMember right rightMember
        refine faithful left ?_ right ?_
        · exact List.cons_subset_cons _ (List.subset_cons_self ..) leftMember
        · exact List.cons_subset_cons _ (List.subset_cons_self ..) rightMember
  | case2 first second rest different induction =>
      have differentChanged : (change first.1).start ≠ (change second.1).start := by
        rw [ne_eq, ← faithful first (by simp) second (by simp)]
        simpa using different
      have restMapped := induction fun left leftMember right rightMember =>
        faithful left (List.mem_cons_of_mem _ leftMember) right (List.mem_cons_of_mem _ rightMember)
      rw [distinct, if_neg different]
      simp only [List.map_cons] at restMapped ⊢
      rw [distinct, if_neg (by simpa using differentChanged), restMapped]
  | case3 literals short =>
      rcases eq_nil_or_singleton short with rfl | ⟨literal, rfl⟩ <;> simp [distinct]

/-- A change of tokens that keeps their order keeps the order of literals. -/
theorem inOrder_map {change : Token → Token} {literals : List (Token × Kind)}
    (monotone : ∀ first ∈ literals, ∀ second ∈ literals,
      (first.1.start ≤ second.1.start ↔ (change first.1).start ≤ (change second.1).start)) :
    inOrder (literals.map (Prod.map change id)) =
      (inOrder literals).map (Prod.map change id) := by
  have sameOrder : (literals.mergeSort fun left right => left.1.start ≤ right.1.start).map
      (Prod.map change id) =
      (literals.map (Prod.map change id)).mergeSort
        fun left right => left.1.start ≤ right.1.start := by
    apply List.map_mergeSort
    intro first firstMember second secondMember
    simpa using monotone first firstMember second secondMember
  rw [inOrder, ← sameOrder, inOrder]
  apply distinct_map
  intro first firstMember second secondMember
  rw [List.mem_mergeSort] at firstMember secondMember
  have below := monotone first firstMember second secondMember
  have above := monotone second secondMember first firstMember
  omega

end QueryPipe.Site
