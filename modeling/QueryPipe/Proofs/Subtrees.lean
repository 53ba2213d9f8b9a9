import QueryPipe.Proofs.Splicing

/-! Where the trees below a tree stand. The tokens of a parsed source are those of its
tree, from left to right, so that a token stands at one place of the tree only. -/

namespace QueryPipe.Go

open Text.Utf8 (byteLength)

/-! ## Trees below a tree -/

/-- A tree is another one or stands below it, at any depth. -/
inductive Within (inner : Tree) : (outer : Tree) → Prop
  | here : Within inner inner
  | under {kind : NodeKind} {children : List Tree} {child : Tree} (member : child ∈ children) :
      Within inner child → Within inner (.node kind children)

theorem Within.trans {inner middle outer : Tree} (within : Within inner middle)
    (middleWithin : Within middle outer) : Within inner outer := by
  induction middleWithin with
  | here => exact within
  | under member _ induction => exact .under member induction

theorem Within.part {part tree : Tree} (member : part ∈ tree.parts) : Within part tree := by
  cases tree with
  | leaf token => cases member
  | node kind children => exact .under (List.mem_of_mem_filter member) .here

theorem Within.tokens_subset {inner outer : Tree} (within : Within inner outer) :
    inner.tokens ⊆ outer.tokens := by
  induction within with
  | here => exact List.Subset.refl _
  | under member _ induction =>
      rw [Tree.tokens]
      exact List.Subset.trans induction (tokens_subset_forestTokens member)

/-! ## Trees that share a token -/

theorem eq_of_mem_tokens {token : Token} {trees : List Tree} (nodup : (forestTokens trees).Nodup)
    {first second : Tree} (firstMember : first ∈ trees) (secondMember : second ∈ trees)
    (inFirst : token ∈ first.tokens) (inSecond : token ∈ second.tokens) : first = second := by
  induction trees with
  | nil => cases firstMember
  | cons tree trees induction =>
      rw [forestTokens, List.nodup_append] at nodup
      rcases nodup with ⟨-, restNodup, apart⟩
      have elsewhere : ∀ other ∈ trees, token ∈ other.tokens → token ∉ tree.tokens := by
        intro other member inOther inTree
        exact apart token inTree token (tokens_subset_forestTokens member inOther) rfl
      rcases List.mem_cons.mp firstMember with rfl | firstLater
      · rcases List.mem_cons.mp secondMember with rfl | secondLater
        · rfl
        · exact absurd inFirst (elsewhere second secondLater inSecond)
      · rcases List.mem_cons.mp secondMember with rfl | secondLater
        · exact absurd inSecond (elsewhere first firstLater inFirst)
        · exact induction restNodup firstLater secondLater

private theorem nodup_child {children : List Tree} (nodup : (forestTokens children).Nodup)
    {child : Tree} (member : child ∈ children) : child.tokens.Nodup := by
  induction children with
  | nil => cases member
  | cons tree children induction =>
      rw [forestTokens, List.nodup_append] at nodup
      rcases List.mem_cons.mp member with rfl | later
      · exact nodup.1
      · exact induction nodup.2.1 later

private theorem mem_tokens_of_leaf {token : Token} {kind : NodeKind} {children : List Tree}
    (leaf : .leaf token ∈ children) : token ∈ (Tree.node kind children).tokens := by
  rw [Tree.tokens]
  exact tokens_subset_forestTokens leaf (List.mem_singleton_self token)

/-- A token that stands directly below a node stands below no child of it but itself. -/
private theorem not_within_child {token : Token} {children : List Tree}
    (nodup : (forestTokens children).Nodup) (leaf : .leaf token ∈ children) {child : Tree}
    (member : child ∈ children) {kind : NodeKind} {inner : List Tree}
    (innerLeaf : .leaf token ∈ inner) : ¬ Within (.node kind inner) child := by
  intro within
  have inChild := within.tokens_subset (mem_tokens_of_leaf innerLeaf)
  have same : .leaf token = child :=
    eq_of_mem_tokens nodup leaf member (List.mem_singleton_self token) inChild
  subst same
  cases within

/-- A token has one parent. -/
theorem kind_eq_of_shared_leaf {tree : Tree} (nodup : tree.tokens.Nodup) {token : Token}
    {kind other : NodeKind} {children others : List Tree}
    (within : Within (.node kind children) tree) (otherWithin : Within (.node other others) tree)
    (leaf : .leaf token ∈ children) (otherLeaf : .leaf token ∈ others) : kind = other := by
  induction within with
  | here =>
      rw [Tree.tokens] at nodup
      cases otherWithin with
      | here => rfl
      | under member within => exact absurd within (not_within_child nodup leaf member otherLeaf)
  | @under outer siblings child member within induction =>
      rw [Tree.tokens] at nodup
      cases otherWithin with
      | here => exact absurd within (not_within_child nodup otherLeaf member leaf)
      | @under _ _ otherChild otherMember otherWithin =>
          -- Both nodes hold the token, so they stand below the same child.
          have same : child = otherChild := eq_of_mem_tokens nodup member otherMember
            (within.tokens_subset (mem_tokens_of_leaf leaf))
            (otherWithin.tokens_subset (mem_tokens_of_leaf otherLeaf))
          subst same
          exact induction (nodup_child nodup member) otherWithin

/-! ## The order of tokens -/

private theorem sublist_of_dropWhile {skips : Token → Bool} {tokens front taken rest : List Token}
    (next : tokens.dropWhile skips = taken ++ rest)
    (skipped : front.Sublist (tokens.takeWhile skips)) :
    (front ++ taken ++ rest).Sublist tokens := by
  rw [List.append_assoc, ← next]
  have sublist := skipped.append (List.Sublist.refl (tokens.dropWhile skips))
  rwa [List.takeWhile_append_dropWhile] at sublist

private theorem sublist_of_seq {first second middle rest tokens : List Token}
    (before : (first ++ middle).Sublist tokens) (behind : (second ++ rest).Sublist middle) :
    (first ++ second ++ rest).Sublist tokens := by
  rw [List.append_assoc]
  exact ((List.Sublist.refl first).append behind).trans before

/-- The trees of a derivation and what it leaves hold tokens in the order it was given. -/
theorem Derives.tokens_sublist {grammar : σ → Rule σ} {rule : Rule σ} {tokens : List Token}
    {trees : List Tree} {rest : List Token} (derives : Derives grammar rule tokens trees rest) :
    (forestTokens trees ++ rest).Sublist tokens := by
  induction derives with
  | token found =>
      rcases exists_of_mem_matchToken found with ⟨token, next, -, rfl⟩
      rw [forestTokens_append, commentsBefore, forestTokens_leaves]
      exact sublist_of_dropWhile next List.filter_sublist
  | spelled found =>
      rcases exists_of_mem_matchMarks found with ⟨glued, next, rfl, -⟩
      rw [forestTokens_append, commentsBefore, forestTokens_leaves, forestTokens_leaves]
      exact sublist_of_dropWhile next List.filter_sublist
  | terminator found =>
      rcases exists_of_mem_matchTerminator found with ⟨ending, next, rfl⟩
      rw [forestTokens_append, forestTokens_leaves, forestTokens_leaves]
      exact sublist_of_dropWhile next (List.Sublist.refl _)
  | onLine _ induction => exact induction
  | seqNil => exact List.Sublist.refl _
  | seqCons _ _ first second =>
      rw [forestTokens_append]
      exact sublist_of_seq first second
  | union _ _ induction => exact induction
  | first _ _ induction => exact induction
  | optionalNone => exact List.Sublist.refl _
  | optionalSome _ induction => exact induction
  | manyNil => exact List.Sublist.refl _
  | manyMore _ _ first second =>
      rw [forestTokens_append]
      exact sublist_of_seq first second
  | absent => exact List.Sublist.refl _
  | node _ induction =>
      rw [forestTokens, forestTokens, List.append_nil, Tree.tokens]
      exact induction
  | extendBase _ induction => exact induction
  | extendStep _ _ first second =>
      rw [forestTokens_graft]
      exact sublist_of_seq first second
  | chainBase _ induction => exact induction
  | chainStep _ _ first second =>
      rw [forestTokens_graft]
      exact sublist_of_seq first second
  | ref _ induction => exact induction

private theorem le_start_of_mem_tokensFrom {offset : Nat} {lexemes : List Lexeme} {token : Token}
    (member : token ∈ tokensFrom offset lexemes) : offset ≤ token.start := by
  rcases mem_tokensFrom member with ⟨front, back, -, start, -⟩
  omega

theorem Cuts.increasing {after : List Char} {lexemes : List Lexeme} (cuts : Cuts after lexemes)
    (offset : Nat) :
    (tokensFrom offset lexemes).Pairwise fun left right => left.start < right.start := by
  induction cuts generalizing offset with
  | nil => exact .nil
  | space _ _ _ induction => exact induction _
  | @token char tail rest kind begins reads _ induction =>
      refine .cons ?_ (induction _)
      intro later member
      have behind := le_start_of_mem_tokensFrom member
      have positive := Text.Utf8.byteLength_pos (List.cons_ne_nil char tail)
      simp only
      omega

/-- A token of the tree of a source is a lexeme of the source, and stands where its offsets
say. -/
theorem exists_lexemes_of_mem_tokens {source : List Char} {tree : Tree}
    (parsed : parse? source = some tree) {token : Token} (member : token ∈ tree.tokens) :
    ∃ front back, Cuts [] (front ++ .token token.kind token.text :: back) ∧
      source = leadingMark source ++ (spelling front ++ (token.text ++ spelling back)) ∧
      token.start = byteLength (leadingMark source ++ spelling front) ∧
      token.stop = token.start + byteLength token.text := by
  rcases exists_lexemes_of_parse? parsed with ⟨lexemes, cuts, spelled, parsedTokens⟩
  rcases derives_of_parseTokens? parsedTokens with ⟨rest, -, derives⟩
  have among := derives.tokens_subset.1 (by rwa [forestTokens, forestTokens, List.append_nil])
  rcases mem_tokensFrom among with ⟨front, back, rfl, start, stop⟩
  rw [spelling_append, spelling_cons, Lexeme.text] at spelled
  refine ⟨front, back, cuts, spelled, ?_, stop⟩
  rw [start, Text.Utf8.byteLength_append]

/-- The tokens of the tree of a source, from left to right, begin one behind the other. -/
theorem tokens_increasing_of_parse? {source : List Char} {tree : Tree}
    (parsed : parse? source = some tree) :
    tree.tokens.Pairwise fun left right => left.start < right.start := by
  rcases exists_lexemes_of_parse? parsed with ⟨lexemes, cuts, -, parsedTokens⟩
  rcases derives_of_parseTokens? parsedTokens with ⟨rest, -, derives⟩
  have sublist := derives.tokens_sublist
  rw [forestTokens, forestTokens, List.append_nil] at sublist
  exact (cuts.increasing _).sublist ((List.sublist_append_left ..).trans sublist)

end QueryPipe.Go
