import QueryPipe.Go.Parser
import Mathlib.Data.List.Basic

/-! What a match of a rule is made of. A derivation forgets which alternative was
committed to and how deeply rules were nested, and keeps how the trees of a rule
come from those of its parts. Every match is a derivation, so what holds of all
derivations holds of every tree that the parser builds. -/

namespace QueryPipe.Go

/-- A rule can build `trees` from the front of `tokens` and leave `rest`. -/
inductive Derives (grammar : σ → Rule σ) :
    Rule σ → (tokens : List Token) → (trees : List Tree) → (rest : List Token) → Prop
  | token : (trees, rest) ∈ matchToken terminal tokens →
      Derives grammar (.token terminal) tokens trees rest
  | spelled : (trees, rest) ∈ matchMarks marks tokens →
      Derives grammar (.spelled marks) tokens trees rest
  | terminator : (trees, rest) ∈ matchTerminator tokens →
      Derives grammar .terminator tokens trees rest
  | onLine : Derives grammar rule tokens trees rest →
      Derives grammar (.onLine rule) tokens trees rest
  | seqNil : Derives grammar (.seq []) tokens [] tokens
  | seqCons : Derives grammar rule tokens trees middle →
      Derives grammar (.seq rules) middle more rest →
      Derives grammar (.seq (rule :: rules)) tokens (trees ++ more) rest
  | union (member : rule ∈ rules) : Derives grammar rule tokens trees rest →
      Derives grammar (.union rules) tokens trees rest
  | first (member : rule ∈ rules) : Derives grammar rule tokens trees rest →
      Derives grammar (.first rules) tokens trees rest
  | optionalNone : Derives grammar (.optional rule) tokens [] tokens
  | optionalSome : Derives grammar rule tokens trees rest →
      Derives grammar (.optional rule) tokens trees rest
  | manyNil : Derives grammar (.many rule) tokens [] tokens
  | manyMore : Derives grammar (.many rule) tokens trees middle →
      Derives grammar rule middle more rest →
      Derives grammar (.many rule) tokens (trees ++ more) rest
  | absent : Derives grammar (.absent rule) tokens [] tokens
  | node : Derives grammar rule tokens trees rest →
      Derives grammar (.node kind rule) tokens [.node kind trees] rest
  | extendBase : Derives grammar base tokens trees rest →
      Derives grammar (.extend needed base step) tokens trees rest
  | extendStep : Derives grammar base tokens trees middle →
      Derives grammar step middle more rest →
      Derives grammar (.extend needed base step) tokens (graft trees more) rest
  | chainBase : Derives grammar base tokens trees rest →
      Derives grammar (.chain base step) tokens trees rest
  | chainStep : Derives grammar (.chain base step) tokens trees middle →
      Derives grammar step middle more rest →
      Derives grammar (.chain base step) tokens (graft trees more) rest
  | ref : Derives grammar (grammar symbol) tokens trees rest →
      Derives grammar (.ref symbol) tokens trees rest

/-! ## Steps that repeat -/

/-- A step is repeated as long as it matches, within a limit: `extend` adds the trees
of a match to those that were found, and `finish` gives all of them. -/
structure Repeats (run : (List Token → List Match) → Nat → List Tree → List Token → List Match)
    (finish : List Tree → List Tree) (extend : List Tree → List Tree → List Tree) : Prop where
  zero : ∀ step found tokens, run step 0 found tokens = [(finish found, tokens)]
  succ : ∀ step limit found tokens, run step (limit + 1) found tokens =
    if step tokens = [] then [(finish found, tokens)]
    else (step tokens).flatMap fun one => run step limit (extend found one.1) one.2

theorem repeats_matchMany :
    Repeats matchMany List.reverse fun found trees => trees.reverse ++ found where
  zero _ _ _ := rfl
  succ step limit found tokens := by
    -- A single match and several are treated alike.
    rw [matchMany]
    split
    · rename_i noMatch
      rw [if_pos noMatch]
    · rename_i trees rest one
      rw [if_neg (by simp [one]), one, List.flatMap_singleton]
    · rename_i matched several _
      rw [if_neg several]

theorem repeats_matchChain : Repeats matchChain id graft where
  zero _ _ _ := rfl
  succ step limit base tokens := by
    rw [matchChain]
    split
    · rename_i noMatch
      rw [if_pos noMatch, id]
    · rename_i trees rest one
      rw [if_neg (by simp [one]), one, List.flatMap_singleton]
    · rename_i matched several _
      rw [if_neg several]

section Repeating

variable {run : (List Token → List Match) → Nat → List Tree → List Token → List Match}
  {finish : List Tree → List Tree} {extend : List Tree → List Tree → List Tree}
  {step : List Token → List Match}

theorem Repeats.stops (repeats : Repeats run finish extend) {tokens : List Token}
    (noMatch : step tokens = []) (limit : Nat) (found : List Tree) :
    run step limit found tokens = [(finish found, tokens)] := by
  cases limit with
  | zero => exact repeats.zero step found tokens
  | succ limit => rw [repeats.succ, if_pos noMatch]

/-- What the step keeps holds of all that was found. -/
theorem Repeats.invariant (repeats : Repeats run finish extend)
    (holds : List Tree → List Token → Prop)
    (kept : ∀ {found tokens one}, holds found tokens → one ∈ step tokens →
      holds (extend found one.1) one.2)
    {limit : Nat} {found : List Tree} {tokens : List Token} (start : holds found tokens)
    {last : Match} (member : last ∈ run step limit found tokens) :
    ∃ all, last.1 = finish all ∧ holds all last.2 := by
  have done : ∀ {found tokens}, holds found tokens → last ∈ [(finish found, tokens)] →
      ∃ all, last.1 = finish all ∧ holds all last.2 := by
    intro found tokens start member
    rcases List.mem_singleton.mp member with rfl
    exact ⟨found, rfl, start⟩
  induction limit generalizing found tokens with
  | zero =>
      rw [repeats.zero] at member
      exact done start member
  | succ limit induction =>
      rw [repeats.succ] at member
      split at member
      · exact done start member
      · rcases List.mem_flatMap.mp member with ⟨one, oneMember, later⟩
        exact induction (kept start oneMember) later

end Repeating

theorem matchSeq_cons (apply : Rule σ → List Token → List Match) (rule : Rule σ)
    (rules : List (Rule σ)) (tokens : List Token) :
    matchSeq apply (rule :: rules) tokens =
      (apply rule tokens).flatMap fun (trees, rest) =>
        (matchSeq apply rules rest).map fun (more, left) => (trees ++ more, left) := by
  cases rules with
  | nil => simp [matchSeq]
  | cons => rfl

/-! ## Matches are derivations -/

section Soundness

variable {grammar : σ → Rule σ} {apply : Rule σ → List Token → List Match}

private theorem derives_of_mem_matchSeq
    (sound : ∀ {rule tokens trees rest}, (trees, rest) ∈ apply rule tokens →
      Derives grammar rule tokens trees rest)
    {rules : List (Rule σ)} {tokens : List Token} {trees : List Tree} {rest : List Token}
    (found : (trees, rest) ∈ matchSeq apply rules tokens) :
    Derives grammar (.seq rules) tokens trees rest := by
  induction rules generalizing tokens trees with
  | nil =>
      rw [matchSeq, List.mem_singleton, Prod.mk.injEq] at found
      rcases found with ⟨rfl, rfl⟩
      exact .seqNil
  | cons rule rules induction =>
      rw [matchSeq_cons] at found
      rcases List.mem_flatMap.mp found with ⟨⟨front, middle⟩, front_mem, found⟩
      rcases List.mem_map.mp found with ⟨⟨more, left⟩, more_mem, equal⟩
      rcases Prod.mk.inj equal with ⟨rfl, rfl⟩
      exact .seqCons (sound front_mem) (induction more_mem)

private theorem exists_of_mem_matchFirst {rules : List (Rule σ)} {tokens : List Token}
    {found : Match} (member : found ∈ matchFirst apply rules tokens) :
    ∃ rule ∈ rules, found ∈ apply rule tokens := by
  induction rules with
  | nil => cases member
  | cons rule rules induction =>
      rw [matchFirst] at member
      split at member
      · rcases induction member with ⟨later, laterMember, laterFound⟩
        exact ⟨later, List.mem_cons_of_mem _ laterMember, laterFound⟩
      · exact ⟨rule, List.mem_cons_self .., member⟩

theorem derives_of_mem_matches {fuel : Nat} {rule : Rule σ} {tokens : List Token}
    {trees : List Tree} {rest : List Token}
    (found : (trees, rest) ∈ Rule.matches grammar fuel rule tokens) :
    Derives grammar rule tokens trees rest := by
  induction fuel generalizing rule tokens trees rest with
  | zero => cases found
  | succ fuel induction =>
      cases rule with
      | token terminal => exact .token found
      | spelled marks => exact .spelled found
      | terminator => exact .terminator found
      | onLine rule =>
          simp only [Rule.matches] at found
          split at found
          · exact .onLine (induction found)
          · cases found
      | seq rules => exact derives_of_mem_matchSeq induction found
      | union rules =>
          rcases List.mem_flatMap.mp found with ⟨rule, member, found⟩
          exact .union member (induction found)
      | first rules =>
          rcases exists_of_mem_matchFirst found with ⟨rule, member, found⟩
          exact .first member (induction found)
      | optional rule =>
          simp only [Rule.matches] at found
          split at found
          · rw [List.mem_singleton, Prod.mk.injEq] at found
            rcases found with ⟨rfl, rfl⟩
            exact .optionalNone
          · exact .optionalSome (induction found)
      | many rule =>
          have kept : ∀ {before rest one},
              Derives grammar (.many rule) tokens (List.reverse before) rest →
              one ∈ Rule.matches grammar fuel rule rest →
              Derives grammar (.many rule) tokens (one.1.reverse ++ before).reverse one.2 := by
            intro before rest one reached member
            rw [List.reverse_append, List.reverse_reverse]
            exact .manyMore reached (induction member)
          rcases repeats_matchMany.invariant
              (fun before rest => Derives grammar (.many rule) tokens before.reverse rest)
              kept .manyNil found with ⟨all, rfl, derives⟩
          exact derives
      | absent rule =>
          simp only [Rule.matches] at found
          split at found
          · rw [List.mem_singleton, Prod.mk.injEq] at found
            rcases found with ⟨rfl, rfl⟩
            exact .absent
          · cases found
      | node kind rule =>
          rcases List.mem_map.mp found with ⟨⟨inner, left⟩, innerFound, equal⟩
          rcases Prod.mk.inj equal with ⟨rfl, rfl⟩
          exact .node (induction innerFound)
      | extend needed base step =>
          rcases List.mem_flatMap.mp found with ⟨⟨front, middle⟩, frontFound, found⟩
          dsimp only at found
          split at found
          · split at found
            · cases found
            · rw [List.mem_singleton, Prod.mk.injEq] at found
              rcases found with ⟨rfl, rfl⟩
              exact .extendBase (induction frontFound)
          · rcases List.mem_map.mp found with ⟨⟨more, left⟩, moreFound, equal⟩
            rcases Prod.mk.inj equal with ⟨rfl, rfl⟩
            exact .extendStep (induction frontFound) (induction moreFound)
      | chain base step =>
          rcases List.mem_flatMap.mp found with ⟨⟨front, middle⟩, frontFound, found⟩
          have kept := repeats_matchChain.invariant (Derives grammar (.chain base step) tokens)
            (fun reached member => .chainStep reached (induction member))
            (.chainBase (induction frontFound)) found
          rcases kept with ⟨all, rfl, derives⟩
          exact derives
      | ref symbol => exact .ref (induction found)

end Soundness

theorem derives_of_deriveTree? {tokens : List Token} {tree : Tree}
    (derived : deriveTree? tokens = some tree) :
    ∃ rest, isFinished rest = true ∧
      Derives Grammar.rule (.ref .sourceFile) tokens [tree] rest := by
  rw [deriveTree?] at derived
  split at derived
  · rename_i found rest isFirst
    rcases Option.some.inj derived with rfl
    have finished := List.find?_some isFirst
    exact ⟨rest, finished, derives_of_mem_matches (List.mem_of_find?_eq_some isFirst)⟩
  · cases derived

theorem parseTokens?_eq_some_iff {tokens : List Token} {tree : Tree} :
    parseTokens? tokens = some tree ↔
      deriveTree? tokens = some tree ∧ (endsLine tokens = true ∨ tree.mayEnd = true) := by
  rw [parseTokens?, Option.filter_eq_some_iff, Bool.or_eq_true]

theorem derives_of_parseTokens? {tokens : List Token} {tree : Tree}
    (parsed : parseTokens? tokens = some tree) :
    ∃ rest, isFinished rest = true ∧
      Derives Grammar.rule (.ref .sourceFile) tokens [tree] rest :=
  derives_of_deriveTree? (parseTokens?_eq_some_iff.mp parsed).1

/-! ## Comments and line ends before a token -/

theorem takeComments_eq (found : List Tree) (tokens : List Token) :
    takeComments found tokens =
      (((tokens.takeWhile Token.isComment).map Tree.leaf).reverse ++ found,
        tokens.dropWhile Token.isComment) := by
  induction tokens generalizing found with
  | nil => rfl
  | cons token tokens induction =>
      by_cases comment : token.kind = .comment
      · simp [takeComments, Token.isComment, comment, induction]
      · simp [takeComments, Token.isComment, comment]

theorem takeTrivia_eq (found : List Tree) (tokens : List Token) :
    takeTrivia found tokens =
      ((((tokens.takeWhile Token.isTrivia).filter Token.isComment).map Tree.leaf).reverse ++ found,
        tokens.dropWhile Token.isTrivia) := by
  induction tokens generalizing found with
  | nil => rfl
  | cons token tokens induction =>
      rw [takeTrivia]
      split
      · rename_i comment
        simp [Token.isTrivia, Token.isComment, comment, induction]
      · rename_i lineEnd
        simp [Token.isTrivia, Token.isComment, lineEnd, induction]
      · rename_i noComment noLineEnd
        have notTrivia : ¬ token.isTrivia = true := by
          rw [Token.isTrivia, Bool.or_eq_true, beq_iff_eq, beq_iff_eq]
          rintro (comment | lineEnd)
          · exact noComment comment
          · exact noLineEnd lineEnd
        rw [List.takeWhile_cons_of_neg notTrivia, List.dropWhile_cons_of_neg notTrivia]
        rfl

/-- The comments before the first token that is neither a comment nor a line end. -/
def commentsBefore (tokens : List Token) : List Tree :=
  ((tokens.takeWhile Token.isTrivia).filter Token.isComment).map Tree.leaf

theorem exists_of_mem_matchToken {terminal : Terminal} {tokens : List Token} {trees : List Tree}
    {rest : List Token} (found : (trees, rest) ∈ matchToken terminal tokens) :
    ∃ token, tokens.dropWhile Token.isTrivia = token :: rest ∧ terminal.accepts token = true ∧
      trees = commentsBefore tokens ++ [.leaf token] := by
  rw [matchToken, takeTrivia_eq] at found
  split at found
  · rename_i trivia token after equal
    rcases Prod.mk.inj equal with ⟨rfl, next⟩
    split at found
    · rename_i accepted
      rw [List.mem_singleton, Prod.mk.injEq] at found
      rcases found with ⟨rfl, rfl⟩
      exact ⟨token, next, accepted, by simp [commentsBefore]⟩
    · cases found
  · cases found

theorem exists_of_mem_matchGlued {stop : Nat} {before : List Tree} {marks : List Char}
    {tokens : List Token} {trees : List Tree} {rest : List Token}
    (found : (trees, rest) ∈ matchGlued stop before marks tokens) :
    ∃ glued, tokens = glued ++ rest ∧ trees = before.reverse ++ glued.map Tree.leaf ∧
      glued.map Token.kind = marks.map TokenKind.mark := by
  induction marks generalizing stop before tokens with
  | nil =>
      rw [matchGlued, List.mem_singleton, Prod.mk.injEq] at found
      rcases found with ⟨rfl, rfl⟩
      exact ⟨[], by simp⟩
  | cons char marks induction =>
      cases tokens with
      | nil => cases found
      | cons token tokens =>
          rw [matchGlued] at found
          split at found
          · rename_i glue
            rw [Bool.and_eq_true, beq_iff_eq] at glue
            rcases induction found with ⟨glued, rfl, rfl, kinds⟩
            refine ⟨token :: glued, rfl, by simp, ?_⟩
            rw [List.map_cons, List.map_cons, kinds, glue.1]
          · cases found

theorem exists_of_mem_matchMarks {marks : List Char} {tokens : List Token} {trees : List Tree}
    {rest : List Token} (found : (trees, rest) ∈ matchMarks marks tokens) :
    ∃ glued, tokens.dropWhile Token.isTrivia = glued ++ rest ∧
      trees = commentsBefore tokens ++ glued.map Tree.leaf ∧
      glued.map Token.kind = marks.map TokenKind.mark := by
  rw [matchMarks, takeTrivia_eq] at found
  split at found
  · rename_i trivia token after equal
    rcases Prod.mk.inj equal with ⟨rfl, next⟩
    rcases exists_of_mem_matchGlued found with ⟨glued, cut, rfl, kinds⟩
    exact ⟨glued, next.trans cut, by simp [commentsBefore], kinds⟩
  · cases found

theorem exists_of_mem_matchTerminator {tokens : List Token} {trees : List Tree}
    {rest : List Token} (found : (trees, rest) ∈ matchTerminator tokens) :
    ∃ ending, tokens.dropWhile Token.isComment = ending ++ rest ∧
      trees = (tokens.takeWhile Token.isComment).map Tree.leaf ++ ending.map Tree.leaf := by
  rw [matchTerminator, takeComments_eq] at found
  split at found
  · rename_i comments token after equal
    rcases Prod.mk.inj equal with ⟨rfl, next⟩
    have single : (trees, rest) = ((tokens.takeWhile Token.isComment).map Tree.leaf ++ [.leaf token], after) →
        ∃ ending, tokens.dropWhile Token.isComment = ending ++ rest ∧
          trees = (tokens.takeWhile Token.isComment).map Tree.leaf ++ ending.map Tree.leaf := by
      intro matched
      rcases Prod.mk.inj matched with ⟨rfl, rfl⟩
      exact ⟨[token], next, rfl⟩
    split at found
    · exact single (by simpa using found)
    · exact single (by simpa using found)
    · exact single (by simpa using found)
    · cases found
  · rename_i comments equal
    rcases Prod.mk.inj equal with ⟨rfl, next⟩
    rw [List.mem_singleton, Prod.mk.injEq] at found
    rcases found with ⟨rfl, rfl⟩
    exact ⟨[], by simp [next]⟩

/-! ## Tokens of the trees -/

@[simp] theorem forestTokens_append (first second : List Tree) :
    forestTokens (first ++ second) = forestTokens first ++ forestTokens second := by
  induction first with
  | nil => rfl
  | cons tree first induction => simp [forestTokens, induction]

@[simp] theorem forestTokens_leaves (tokens : List Token) :
    forestTokens (tokens.map Tree.leaf) = tokens := by
  induction tokens with
  | nil => rfl
  | cons token tokens induction => simp [forestTokens, Tree.tokens, induction]

theorem forestTokens_graft (base trees : List Tree) :
    forestTokens (graft base trees) = forestTokens base ++ forestTokens trees := by
  unfold graft
  split
  · simp [forestTokens, Tree.tokens]
  · simp

theorem tokens_subset_forestTokens {tree : Tree} {trees : List Tree} (member : tree ∈ trees) :
    tree.tokens ⊆ forestTokens trees := by
  induction trees with
  | nil => cases member
  | cons first trees induction =>
      rw [forestTokens]
      rcases List.mem_cons.mp member with rfl | member
      · exact List.subset_append_left ..
      · exact List.Subset.trans (induction member) (List.subset_append_right ..)

private theorem commentsBefore_subset (tokens : List Token) :
    forestTokens (commentsBefore tokens) ⊆ tokens := by
  rw [commentsBefore, forestTokens_leaves]
  exact List.Subset.trans (List.filter_subset_self _) (List.takeWhile_sublist _).subset

private theorem suffix_of_dropWhile {p : Token → Bool} {tokens left : List Token}
    (next : tokens.dropWhile p = left) : left <:+ tokens := by
  rw [← next]
  exact List.dropWhile_suffix p

/-- The trees of a derivation hold tokens it was given, and it leaves an end of them. -/
theorem Derives.tokens_subset {grammar : σ → Rule σ} {rule : Rule σ} {tokens : List Token}
    {trees : List Tree} {rest : List Token} (derives : Derives grammar rule tokens trees rest) :
    forestTokens trees ⊆ tokens ∧ rest <:+ tokens := by
  induction derives with
  | token found =>
      rcases exists_of_mem_matchToken found with ⟨token, next, -, rfl⟩
      have after := suffix_of_dropWhile next
      refine ⟨?_, (List.suffix_cons ..).trans after⟩
      rw [forestTokens_append, List.append_subset]
      refine ⟨commentsBefore_subset _, ?_⟩
      simpa [forestTokens, Tree.tokens] using after.subset (List.mem_cons_self ..)
  | spelled found =>
      rcases exists_of_mem_matchMarks found with ⟨glued, next, rfl, -⟩
      have after := suffix_of_dropWhile next
      refine ⟨?_, (List.suffix_append ..).trans after⟩
      rw [forestTokens_append, List.append_subset, forestTokens_leaves]
      exact ⟨commentsBefore_subset _, List.Subset.trans (List.subset_append_left ..) after.subset⟩
  | terminator found =>
      rcases exists_of_mem_matchTerminator found with ⟨ending, next, rfl⟩
      have after := suffix_of_dropWhile next
      refine ⟨?_, (List.suffix_append ..).trans after⟩
      rw [forestTokens_append, List.append_subset, forestTokens_leaves, forestTokens_leaves]
      exact ⟨(List.takeWhile_sublist _).subset, List.Subset.trans (List.subset_append_left ..) after.subset⟩
  | onLine _ induction => exact induction
  | seqNil => exact ⟨List.nil_subset _, List.suffix_refl _⟩
  | seqCons _ _ first second =>
      rw [forestTokens_append, List.append_subset]
      exact ⟨⟨first.1, List.Subset.trans second.1 first.2.subset⟩, second.2.trans first.2⟩
  | union _ _ induction => exact induction
  | first _ _ induction => exact induction
  | optionalNone => exact ⟨List.nil_subset _, List.suffix_refl _⟩
  | optionalSome _ induction => exact induction
  | manyNil => exact ⟨List.nil_subset _, List.suffix_refl _⟩
  | manyMore _ _ first second =>
      rw [forestTokens_append, List.append_subset]
      exact ⟨⟨first.1, List.Subset.trans second.1 first.2.subset⟩, second.2.trans first.2⟩
  | absent => exact ⟨List.nil_subset _, List.suffix_refl _⟩
  | node _ induction => exact ⟨by simpa [forestTokens, Tree.tokens] using induction.1, induction.2⟩
  | extendBase _ induction => exact induction
  | extendStep _ _ first second =>
      rw [forestTokens_graft, List.append_subset]
      exact ⟨⟨first.1, List.Subset.trans second.1 first.2.subset⟩, second.2.trans first.2⟩
  | chainBase _ induction => exact induction
  | chainStep _ _ first second =>
      rw [forestTokens_graft, List.append_subset]
      exact ⟨⟨first.1, List.Subset.trans second.1 first.2.subset⟩, second.2.trans first.2⟩
  | ref _ induction => exact induction

end QueryPipe.Go
