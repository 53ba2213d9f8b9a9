import QueryPipe.Proofs.Relocation
import QueryPipe.Proofs.Splicing
import QueryPipe.Text.Newlines

/-! A source with new texts in the places of its sites. Where every text is one
string literal, and ends no comment that is open before it, the sites are found
again, in the places that the texts have; where they are found there, the texts
are such. -/

namespace QueryPipe

open Go (Token Lexeme Cuts spelling tokensFrom lineEnds leadingMark)
open Text.Utf8 (byteLength)

/-! ## Sources -/

private theorem ne_byteOrderMark_of_cuts {after : List Char} {lexemes : List Lexeme}
    (cuts : Cuts after lexemes) : (spelling lexemes).head? ≠ some Go.byteOrderMark := by
  intro head
  cases cuts with
  | nil => cases head
  | space blank =>
      rcases Option.some.inj head with rfl
      revert blank
      decide
  | token begins reads =>
      rcases Option.some.inj head with rfl
      have noName : Go.isNameStart Go.byteOrderMark = false := by decide +kernel
      have noMark : Go.isMark Go.byteOrderMark = false := by decide
      have noToken : ∀ rest, Go.nextToken? Go.byteOrderMark rest = none := by
        intro rest
        simp only [Go.nextToken?, noName, noMark]
        rfl
      have read := reads.nextToken?
      rw [noToken] at read
      cases read

/-- A byte order mark before lexemes is the one that a source begins with. -/
theorem Go.leadingMark_append {mark : List Char} {lexemes : List Lexeme}
    (isMark : mark = [] ∨ mark = [byteOrderMark]) (cuts : Cuts [] lexemes) :
    leadingMark (mark ++ spelling lexemes) = mark := by
  rcases isMark with rfl | rfl
  · rw [List.nil_append, leadingMark, if_neg (ne_byteOrderMark_of_cuts cuts)]
  · rfl

theorem Go.leadingMark_eq (source : List Char) :
    leadingMark source = [] ∨ leadingMark source = [byteOrderMark] := by
  unfold leadingMark
  split
  · exact .inr rfl
  · exact .inl rfl

namespace Site

theorem exists_found_of_parse? {source : List Char} {tree : Go.Tree}
    (parsed : Go.parse? source = some tree) (shape : Shape) :
    ∃ lexemes, source = leadingMark source ++ spelling lexemes ∧
      Found shape (byteLength (leadingMark source)) lexemes (inOrder (shape.literals tree)) := by
  rcases Go.exists_lexemes_of_parse? parsed with ⟨lexemes, cuts, spelled, parsedTokens⟩
  exact ⟨lexemes, spelled, cuts, tree, parsedTokens, rfl⟩

theorem Found.exists_parse? {shape : Shape} {mark : List Char} {lexemes : List Lexeme}
    {literals : List (Token × Kind)} (found : Found shape (byteLength mark) lexemes literals)
    (isMark : mark = [] ∨ mark = [Go.byteOrderMark]) :
    ∃ tree, Go.parse? (mark ++ spelling lexemes) = some tree ∧
      inOrder (shape.literals tree) = literals := by
  rcases found.parses with ⟨tree, parsed, located⟩
  have leading := Go.leadingMark_append isMark found.cuts
  have lexed : Go.lex (mark ++ spelling lexemes) = .ok (tokensFrom (byteLength mark) lexemes) :=
    Go.lex_eq_ok_iff.mpr ⟨lexemes, found.cuts, by rw [leading], by rw [leading]⟩
  exact ⟨tree, by rw [Go.parse?, lexed]; exact parsed, located⟩

theorem Found.stand {shape : Shape} {offset : Nat} {lexemes : List Lexeme}
    {literals : List (Token × Kind)} (found : Found shape offset lexemes literals) :
    Stand offset lexemes literals := by
  rcases found.parses with ⟨tree, parsed, rfl⟩
  exact stand_of_parseTokens? parsed shape

end Site

/-! ## Comments left open -/

/-- Before a place stands a slash with a star right behind it, which begin no
comment because none ends; no NUL stands between, so that the text at the place may
end it. -/
def commentOpenAt (source : List Char) (place : Nat) : Prop :=
  ∃ tokens, Go.lex source = .ok tokens ∧ ∃ token ∈ tokens, token.kind = .mark '/' ∧
    token.stop ≤ place ∧ ∃ inside, slice token.stop place source = '*' :: inside ∧ '\x00' ∉ inside

/-- A text that can take the place of a literal and be read as one literal there. -/
structure Fits (source : List Char) (place : Nat) (text : List Char) : Prop where
  literal : Go.isStringLiteral text = true
  closed : commentOpenAt source place → ¬ ['*', '/'] <:+: text

section Open

variable {source : List Char} {first rest : List Lexeme}

/-- The text between a lexeme and the end of those that are counted. -/
private theorem slice_back {mark : List Char} {front back : List Lexeme} {text : List Char}
    (spelled : source = mark ++ spelling (front ++ .token (.mark '/') text :: (back ++ rest))) :
    slice (byteLength mark + byteLength (spelling front) + byteLength text)
      (byteLength mark + byteLength (spelling (front ++ .token (.mark '/') text :: back))) source =
      spelling back := by
  have cut := @slice_append (mark ++ (spelling front ++ text)) (spelling back) (spelling rest)
  simp only [Text.Utf8.byteLength_append, List.append_assoc, Go.spelling_append, Go.spelling_cons,
    Lexeme.text, ← Nat.add_assoc] at cut spelled ⊢
  rw [spelled]
  exact cut

theorem commentOpenAt_iff (cuts : Cuts [] (first ++ rest))
    (spelled : source = leadingMark source ++ spelling (first ++ rest)) :
    commentOpenAt source (byteLength (leadingMark source) + byteLength (spelling first)) ↔
      Go.leavesCommentOpen first := by
  have lexed := Go.lex_eq_ok_iff.mpr ⟨first ++ rest, cuts, spelled, rfl⟩
  constructor
  · intro isOpen
    rcases isOpen with ⟨tokens, otherLexed, token, member, isSlash, before, inside, starts, noNul⟩
    rcases Except.ok.inj (otherLexed.symm.trans lexed) with rfl
    rw [Go.tokensFrom_append, List.mem_append] at member
    rcases member with member | behind
    · rcases Go.mem_tokensFrom member with ⟨front, back, rfl, start, stop⟩
      rw [isSlash, List.append_assoc, List.cons_append] at spelled
      rw [isSlash, stop, start, slice_back spelled] at starts
      rw [isSlash] at cuts ⊢
      rw [(Go.cuts_append_iff.mp (Go.cuts_append_iff.mp cuts).1).2.text_of_slash]
      exact ⟨front, back, inside, rfl, starts, noNul⟩
    · rcases Go.mem_tokensFrom behind with ⟨front, back, rfl, start, stop⟩
      rw [isSlash] at cuts
      have text := (Go.cuts_append_iff.mp (Go.cuts_append_iff.mp cuts).2).2.text_of_slash
      have size : byteLength ['/'] = 1 := rfl
      rw [text, size] at stop
      omega
  · intro isOpen
    rcases isOpen with ⟨front, back, inside, rfl, starts, noNul⟩
    rw [List.append_assoc, List.cons_append] at spelled
    have between := slice_back spelled
    refine ⟨_, lexed, ⟨.mark '/', byteLength (leadingMark source) + byteLength (spelling front),
      byteLength (leadingMark source) + byteLength (spelling front) + byteLength ['/'], ['/']⟩,
      ?_, rfl, ?_, inside, ?_, noNul⟩
    · simp [Go.tokensFrom_append, tokensFrom]
    · simp [Lexeme.text]
      omega
    · rw [between, starts]

end Open

/-! ## New places -/

/-- Where a literal stands, its characters and how it stands in its statement. -/
def Site.place (site : Site) : Nat × List Char × Site.Kind :=
  (site.start, site.raw.toList, site.kind)

/-- The places of sites once texts took the places of their literals: what stood at
`offset` stands at `target`. -/
def relocated : (offset target : Nat) → List (Site × List Char) → List (Nat × List Char × Site.Kind)
  | _, _, [] => []
  | offset, target, (site, text) :: rest =>
    (target + (site.start - offset), text, site.kind) ::
      relocated site.stop (target + (site.start - offset) + byteLength text) rest

private theorem le_of_mem_relocated {offset target : Nat} {pairs : List (Site × List Char)}
    {entry : Nat × List Char × Site.Kind} (member : entry ∈ relocated offset target pairs) :
    target ≤ entry.1 := by
  induction pairs generalizing offset target with
  | nil => cases member
  | cons pair pairs induction =>
      rw [relocated, List.mem_cons] at member
      rcases member with rfl | later
      · exact Nat.le_add_right ..
      · have := induction later
        omega

private theorem relocated_moved {offset target size newSize : Nat} (within : size ≤ target)
    (pairs : List (Site × List Char)) :
    relocated offset (target + newSize - size) pairs =
      (relocated offset target pairs).map (Prod.map (· + newSize - size) id) := by
  induction pairs generalizing offset target with
  | nil => rfl
  | cons pair pairs induction =>
      have start : target + newSize - size + (pair.1.start - offset) =
          target + (pair.1.start - offset) + newSize - size := by omega
      have stop : target + (pair.1.start - offset) + newSize - size + byteLength pair.2 =
          target + (pair.1.start - offset) + byteLength pair.2 + newSize - size := by omega
      rw [relocated, relocated, start, stop, induction (by omega)]
      rfl

/-- Nothing has moved before the first site. -/
private theorem relocated_start {offset : Nat} {pairs : List (Site × List Char)} {text : List Char}
    (laid : Site.Laid offset (pairs.map Prod.fst) text) :
    relocated 0 0 pairs = relocated offset offset pairs := by
  generalize standing : pairs.map Prod.fst = sites at laid
  cases laid with
  | nil =>
      rcases List.map_eq_nil_iff.mp standing with rfl
      rfl
  | @cons _ site gap rest sites start =>
      rcases List.map_eq_cons_iff.mp standing with ⟨⟨site, written⟩, pairs, rfl, rfl, -⟩
      have behind : offset ≤ site.start := start ▸ Nat.le_add_right ..
      have same : 0 + (site.start - 0) = offset + (site.start - offset) := by omega
      rw [relocated, relocated, same]

theorem map_snd_relocated (offset target : Nat) (pairs : List (Site × List Char)) :
    (relocated offset target pairs).map Prod.snd =
      pairs.map fun pair => (pair.2, pair.1.kind) := by
  induction pairs generalizing offset target with
  | nil => rfl
  | cons pair pairs induction => rw [relocated, List.map_cons, induction, List.map_cons]

namespace Site

/-- The place of a literal. -/
def placeOf (literal : Token × Kind) : Nat × List Char × Kind :=
  (literal.1.start, literal.1.text, literal.2)

private theorem placeOf_refit_here {token : Token} {kind : Kind} {text : List Char}
    (nonempty : 0 < byteLength token.text)
    (stop : token.stop = token.start + byteLength token.text) :
    placeOf (Prod.map (Token.refit token.start (byteLength token.text) text) id (token, kind)) =
      (token.start, text, kind) := by
  have inside : ¬ (token.stop ≤ token.start ∨
      token.start + byteLength token.text ≤ token.start) := by omega
  simp only [placeOf, Prod.map, Token.refit, Go.moved, Nat.le_refl, if_true, if_neg inside, id]

private theorem placeOf_refit_behind {literal : Token × Kind} {place size : Nat} {text : List Char}
    (nonempty : 0 < size) (behind : place + size ≤ literal.1.start) :
    placeOf (Prod.map (Token.refit place size text) id literal) =
      Prod.map (· + byteLength text - size) id (placeOf literal) := by
  have moves : ¬ literal.1.start ≤ place := by omega
  have outside : literal.1.stop ≤ place ∨ place + size ≤ literal.1.start := .inr behind
  simp only [placeOf, Prod.map, Token.refit, Go.moved, if_neg moves, if_pos outside, id]

/-- Literals behind a replaced one move as far as it grows. -/
private theorem map_placeOf_refit {literals : List (Token × Kind)} {offset place size : Nat}
    {text : List Char} {pairs : List (Site × List Char)} (nonempty : 0 < size)
    (places : literals.map placeOf = relocated offset (place + size) pairs) :
    (literals.map (Prod.map (Token.refit place size text) id)).map placeOf =
      relocated offset (place + byteLength text) pairs := by
  have grown : place + byteLength text = place + size + byteLength text - size := by omega
  rw [grown, relocated_moved (Nat.le_add_left ..), ← places, List.map_map, List.map_map]
  apply List.map_congr_left
  intro literal member
  have behind : place + size ≤ (placeOf literal).1 := by
    apply le_of_mem_relocated
    rw [← places]
    exact List.mem_map_of_mem member
  exact placeOf_refit_behind nonempty behind

private theorem append_gap (before gap rest : List Lexeme) (lexeme : Lexeme) :
    before ++ (gap ++ lexeme :: rest) = before ++ (gap ++ [lexeme]) ++ rest := by
  simp

section Literal

variable {source mark : List Char} {offset : Nat} {token : Token} {before gap rest : List Lexeme}
  (spelled : source = mark ++ spelling (before ++ (gap ++ .token .stringLiteral token.text :: rest)))
  (placed : offset = byteLength mark + byteLength (spelling before))
  (start : token.start = offset + byteLength (spelling gap))

include placed start

private theorem stop_literal (stop : token.stop = token.start + byteLength token.text) :
    token.stop = byteLength mark +
      byteLength (spelling (before ++ (gap ++ [.token .stringLiteral token.text]))) := by
  simp only [Go.spelling_append, Go.spelling_cons, Go.spelling_nil, Lexeme.text,
    Text.Utf8.byteLength_append, Text.Utf8.byteLength_nil]
  omega

include spelled

private theorem weave_literal (kind : Kind) (text : List Char) (pairs : List (Site × List Char)) :
    weave source offset ((ofLiteral source (token, kind), text) :: pairs) =
      spelling gap ++ text ++ weave source token.stop pairs := by
  have siteStart : (ofLiteral source (token, kind)).start =
      byteLength (mark ++ spelling before) + byteLength (spelling gap) := by
    rw [Text.Utf8.byteLength_append, ← placed]
    exact start
  have divided : source =
      (mark ++ spelling before) ++ (spelling gap ++ (token.text ++ spelling rest)) := by
    rw [spelled]
    simp [Lexeme.text]
  have woven := @weave_cons source _ _ _ text _ divided siteStart pairs
  rw [Text.Utf8.byteLength_append, ← placed] at woven
  exact woven

private theorem commentOpenAt_literal (leading : leadingMark source = mark)
    (cuts : Cuts [] (before ++ (gap ++ .token .stringLiteral token.text :: rest))) :
    commentOpenAt source token.start ↔ Go.leavesCommentOpen (before ++ gap) := by
  rw [← List.append_assoc] at cuts spelled
  have place : token.start = byteLength mark + byteLength (spelling (before ++ gap)) := by
    rw [start, placed, Go.spelling_append, Text.Utf8.byteLength_append, Nat.add_assoc]
  rw [place, ← leading]
  exact commentOpenAt_iff cuts (by rwa [leading])

end Literal

/-- New texts for the literals behind some lexemes. The last literal is replaced
first, so that what stands before a literal is what stood there before. -/
theorem Stand.exists_refilled {shape : Shape} {source mark : List Char} {offset : Nat}
    {lexemes : List Lexeme} {literals : List (Token × Kind)} (stand : Stand offset lexemes literals)
    (leading : leadingMark source = mark) {before : List Lexeme} {passed : List (Token × Kind)}
    {pairs : List (Site × List Char)} (spelled : source = mark ++ spelling (before ++ lexemes))
    (placed : offset = byteLength mark + byteLength (spelling before))
    (found : Found shape (byteLength mark) (before ++ lexemes) (passed ++ literals))
    (ordered : ∀ literal ∈ passed, literal.1.start ≤ literal.1.stop ∧ literal.1.stop ≤ offset)
    (sites : pairs.map Prod.fst = literals.map (ofLiteral source))
    (fits : ∀ pair ∈ pairs, Fits source pair.1.start pair.2) :
    ∃ refilled newLiterals, spelling refilled = weave source offset pairs ∧
      Found shape (byteLength mark) (before ++ refilled) (passed ++ newLiterals) ∧
      newLiterals.map placeOf = relocated offset offset pairs := by
  induction stand generalizing before passed pairs with
  | @nil offset lexemes =>
      rcases List.map_eq_nil_iff.mp sites with rfl
      refine ⟨lexemes, [], ?_, found, rfl⟩
      rw [Go.spelling_append, ← List.append_assoc] at spelled
      rw [weave, placed, ← Text.Utf8.byteLength_append, spelled, Text.Utf8.splitAt_append]
  | @cons offset token kind gap rest literals isLiteral start stop _ induction =>
      rcases List.map_eq_cons_iff.mp sites with ⟨⟨site, text⟩, pairs, rfl, rfl, laterSites⟩
      have here : Fits source token.start text := fits _ (List.mem_cons_self ..)
      have reached := stop_literal placed start stop
      have orderedHere : ∀ literal ∈ passed ++ [(token, kind)],
          literal.1.start ≤ literal.1.stop ∧ literal.1.stop ≤ token.stop := by
        intro literal member
        rcases List.mem_append.mp member with earlier | last
        · have bounds := ordered literal earlier
          omega
        · rcases List.mem_singleton.mp last with rfl
          exact ⟨stop ▸ Nat.le_add_right .., Nat.le_refl _⟩
      have isOpen := commentOpenAt_literal spelled placed start leading found.cuts
      have woven := weave_literal spelled placed start kind text pairs
      -- The literals behind this one, with this one still as it was.
      rw [append_gap] at found spelled
      rw [List.append_cons passed] at found
      rcases induction spelled reached found orderedHere laterSites
          (fun pair member => fits pair (List.mem_cons_of_mem _ member)) with
        ⟨refilled, newLiterals, spells, foundBehind, places⟩
      -- Now this one.
      rw [← append_gap, ← List.append_assoc, ← List.append_cons] at foundBehind
      have place : byteLength mark + byteLength (spelling (before ++ gap)) = token.start := by
        rw [start, placed, Go.spelling_append, Text.Utf8.byteLength_append]
        omega
      have closed : Go.leavesCommentOpen (before ++ gap) → ¬ Go.closesComment text := by
        rw [← isOpen, Go.closesComment_iff_starSlash (Go.noNul_of_isStringLiteral here.literal)]
        exact here.closed
      have replaced := foundBehind.replace here.literal closed
      have nonempty := Text.Utf8.byteLength_pos (Go.ne_nil_of_isStringLiteral
        (Go.isStringLiteral_of_cuts (Go.cuts_append_iff.mp foundBehind.cuts).2))
      have kept : passed.map (Prod.map (Token.refit token.start (byteLength token.text) text) id) =
          passed := by
        refine (List.map_congr_left ?_).trans (List.map_id _)
        intro literal member
        have bounds := ordered literal member
        have stays := @Token.refit_before token.start (byteLength token.text) text literal.1 bounds.1
          (by omega)
        rw [Prod.map, stays]
        rfl
      rw [place, List.map_append, List.map_cons, kept, List.append_assoc] at replaced
      refine ⟨_, _, ?_, replaced, ?_⟩
      · rw [woven, Go.spelling_append, Go.spelling_cons, spells, ← List.append_assoc]
        rfl
      · have behind : offset ≤ token.start := by omega
        have reachedHere : offset + ((ofLiteral source (token, kind)).start - offset) = token.start :=
          Nat.add_sub_cancel' behind
        rw [stop] at places
        rw [List.map_cons, placeOf_refit_here nonempty stop, map_placeOf_refit nonempty places,
          relocated, reachedHere, ← stop]
        rfl

/-- Between literals that begin at one place and follow the same text, the lexemes
are the same. -/
private theorem gap_unique {before otherBefore gap otherGap rest otherRest : List Lexeme}
    {text otherText : List Char}
    (cuts : Cuts [] (before ++ (gap ++ .token .stringLiteral text :: rest)))
    (otherCuts : Cuts [] (otherBefore ++ (otherGap ++ .token .stringLiteral otherText :: otherRest)))
    (same : spelling gap = spelling otherGap) : gap = otherGap := by
  rcases Go.cuts_append_iff.mp (Go.cuts_append_iff.mp cuts).2 with ⟨cutsGap, cutsText⟩
  rcases Go.cuts_append_iff.mp (Go.cuts_append_iff.mp otherCuts).2 with ⟨cutsOther, cutsOtherText⟩
  rw [Go.spelling_cons, List.append_assoc] at cutsGap cutsOther
  refine cutsGap.unique cutsOther (Go.sameBorder_of_quotes ?_ ?_) same
  · exact Go.head?_literal_append (Go.isStringLiteral_of_cuts cutsText) _
  · exact Go.head?_literal_append (Go.isStringLiteral_of_cuts cutsOtherText) _

/-- Texts that are found in their places fit there. What stands before a literal
differs from what stood there before in literals only. -/
theorem Stand.fits {source mark : List Char} {offset target : Nat} {lexemes others : List Lexeme}
    {literals otherLiterals : List (Token × Kind)} (stand : Stand offset lexemes literals)
    (otherStand : Stand target others otherLiterals) (leading : leadingMark source = mark)
    {before otherBefore : List Lexeme} {pairs : List (Site × List Char)}
    (spelled : source = mark ++ spelling (before ++ lexemes))
    (placed : offset = byteLength mark + byteLength (spelling before))
    (cuts : Cuts [] (before ++ lexemes)) (otherCuts : Cuts [] (otherBefore ++ others))
    (alike : Go.AlikeButLiterals before otherBefore)
    (sites : pairs.map Prod.fst = literals.map (ofLiteral source))
    (spells : spelling others = weave source offset pairs)
    (places : otherLiterals.map placeOf = relocated offset target pairs) :
    ∀ pair ∈ pairs, Fits source pair.1.start pair.2 := by
  induction stand generalizing target others otherLiterals before otherBefore pairs with
  | nil =>
      rcases List.map_eq_nil_iff.mp sites with rfl
      simp
  | @cons offset token kind gap rest literals isLiteral start stop _ induction =>
      rcases List.map_eq_cons_iff.mp sites with ⟨⟨site, text⟩, pairs, rfl, rfl, laterSites⟩
      rw [relocated] at places
      rcases List.map_eq_cons_iff.mp places with ⟨⟨other, otherKind⟩, otherLiterals, rfl, place, laterPlaces⟩
      cases otherStand with
      | @cons _ _ _ otherGap otherRest _ _ otherStart otherStop otherStand =>
          have otherPlace : other.start = target + (token.start - offset) := congrArg Prod.fst place
          have otherText : other.text = text := congrArg (·.2.1) place
          subst otherText
          -- The texts before both literals are the same, so the lexemes are.
          have isOpen := commentOpenAt_literal spelled placed start leading cuts
          rw [weave_literal spelled placed start, Go.spelling_append, List.append_assoc] at spells
          rcases Text.Utf8.append_inj_of_byteLength spells (by omega) with ⟨sameGap, sameRest⟩
          rcases gap_unique cuts otherCuts sameGap.symm with rfl
          have isText := Go.isStringLiteral_of_cuts
            (Go.cuts_append_iff.mp (Go.cuts_append_iff.mp cuts).2).2
          have isOther := Go.isStringLiteral_of_cuts
            (Go.cuts_append_iff.mp (Go.cuts_append_iff.mp otherCuts).2).2
          have alikeGap := alike.append (.refl gap)
          intro pair member
          rcases List.mem_cons.mp member with rfl | later
          · refine ⟨isOther, ?_⟩
            rw [← List.append_assoc] at cuts otherCuts
            rw [← Go.closesComment_iff_starSlash (Go.noNul_of_isStringLiteral isOther)]
            intro openAt
            apply otherCuts.not_closesComment
            exact alikeGap.leavesCommentOpen (Go.cuts_append_iff.mp cuts).1 (isOpen.mp openAt)
          · have alikeLater := alike.append ((Go.AlikeButLiterals.refl gap).append
              (.literal isText isOther .nil))
            rw [append_gap] at spelled cuts otherCuts
            have otherStopped : target + (token.start - offset) + byteLength other.text =
                other.stop := by omega
            have behind := laterPlaces
            rw [show (ofLiteral source (token, kind)).start = token.start from rfl, otherStopped]
              at behind
            exact induction otherStand spelled (stop_literal placed start stop) cuts otherCuts
              alikeLater laterSites (List.append_cancel_left sameRest) behind pair later

/-- Texts that fit are found as the literals of the source that they are put into. -/
theorem exists_found_weave {shape : Shape} {source : List Char} {tree : Go.Tree}
    (parsed : Go.parse? source = some tree) {pairs : List (Site × List Char)}
    (sites : pairs.map Prod.fst = locate shape source tree)
    (fits : ∀ pair ∈ pairs, Fits source pair.1.start pair.2) :
    ∃ lexemes literals, weave source 0 pairs = leadingMark source ++ spelling lexemes ∧
      Found shape (byteLength (leadingMark source)) lexemes literals ∧
      literals.map placeOf = relocated 0 0 pairs := by
  rcases exists_found_of_parse? parsed shape with ⟨lexemes, spelled, found⟩
  rw [locate_eq] at sites
  have laid := found.stand.laid source
  rw [← sites] at laid
  rcases @Stand.exists_refilled shape source _ _ lexemes _ found.stand rfl [] [] pairs spelled rfl
    found (by simp) sites fits with ⟨refilled, literals, spells, newFound, places⟩
  refine ⟨refilled, literals, ?_, newFound, ?_⟩
  · rw [spells]
    exact @weave_behind source [] (leadingMark source) (spelling lexemes) pairs spelled laid
  · rw [places]
    exact (relocated_start laid).symm

private theorem Stand.le_start {offset : Nat} {lexemes : List Lexeme}
    {literals : List (Token × Kind)} (stand : Stand offset lexemes literals) :
    ∀ literal ∈ literals, offset ≤ literal.1.start := by
  induction stand with
  | nil => simp
  | cons _ start stop _ induction =>
      intro literal member
      rcases List.mem_cons.mp member with rfl | later
      · exact start ▸ Nat.le_add_right ..
      · have := induction literal later
        omega

/-- A byte order mark that ends before the first site is the one of the source. -/
private theorem leadingMark_weave {source : List Char} {pairs : List (Site × List Char)}
    (laid : Laid 0 (pairs.map Prod.fst) source)
    (ahead : ∀ pair ∈ pairs.head?, byteLength (leadingMark source) ≤ pair.1.start ∧
      byteLength (leadingMark (weave source 0 pairs)) ≤ pair.1.start) :
    leadingMark (weave source 0 pairs) = leadingMark source := by
  generalize standing : pairs.map Prod.fst = sites at laid
  cases laid with
  | nil =>
      rcases List.map_eq_nil_iff.mp standing with rfl
      rw [weave, Text.Utf8.splitAt_zero]
  | @cons _ site gap rest sites start =>
      rcases List.map_eq_cons_iff.mp standing with ⟨⟨site, text⟩, pairs, rfl, rfl, -⟩
      have woven := @weave_cons _ [] gap (site.raw.toList ++ rest) text site rfl start pairs
      rw [Text.Utf8.byteLength_nil, List.nil_append] at woven
      rcases ahead _ rfl with ⟨sourceMark, newMark⟩
      cases gap with
      | nil =>
          rw [start, Text.Utf8.byteLength_nil, Nat.add_zero, Nat.le_zero] at sourceMark newMark
          rw [Text.Utf8.byteLength_eq_zero sourceMark, Text.Utf8.byteLength_eq_zero newMark]
      | cons char gap =>
          rw [woven]
          rfl

/-- The texts that are put into a source are found in their places just if they fit. -/
theorem places_weave_iff {shape : Shape} {source : List Char} {tree newTree : Go.Tree}
    {pairs : List (Site × List Char)} (parsed : Go.parse? source = some tree)
    (sites : pairs.map Prod.fst = locate shape source tree)
    (newParsed : Go.parse? (weave source 0 pairs) = some newTree) :
    (∀ pair ∈ pairs, Fits source pair.1.start pair.2) ↔
      (inOrder (shape.literals newTree)).map placeOf = relocated 0 0 pairs := by
  constructor
  · intro fits
    rcases exists_found_weave parsed sites fits with ⟨lexemes, literals, spells, found, places⟩
    rcases found.exists_parse? (Go.leadingMark_eq source) with ⟨otherTree, otherParsed, same⟩
    rw [← spells, newParsed] at otherParsed
    rcases Option.some.inj otherParsed with rfl
    rw [same, places]
  · intro places
    rcases exists_found_of_parse? parsed shape with ⟨lexemes, spelled, found⟩
    rcases exists_found_of_parse? newParsed shape with ⟨others, newSpelled, newFound⟩
    have wholeLaid := laid_locate parsed shape
    rw [locate_eq] at sites wholeLaid
    have laid := found.stand.laid source
    rw [← sites] at laid wholeLaid
    have sameMark : leadingMark (weave source 0 pairs) = leadingMark source := by
      apply leadingMark_weave wholeLaid
      intro pair isFirst
      rcases List.head?_eq_some_iff.mp isFirst with ⟨later, rfl⟩
      rcases List.map_eq_cons_iff.mp sites.symm with ⟨literal, literals, standing, same, -⟩
      rw [relocated, Nat.zero_add, Nat.sub_zero] at places
      rcases List.map_eq_cons_iff.mp places with ⟨other, others, newStanding, place, -⟩
      have start : literal.1.start = pair.1.start := congrArg Site.start same
      have newStart : other.1.start = pair.1.start := congrArg Prod.fst place
      have ahead := found.stand.le_start literal (by simp [standing])
      have newAhead := newFound.stand.le_start other (by simp [newStanding])
      exact ⟨start ▸ ahead, newStart ▸ newAhead⟩
    rw [sameMark] at newSpelled newFound
    have woven := @weave_behind source [] (leadingMark source) (spelling lexemes) pairs spelled laid
    have spells := List.append_cancel_left (newSpelled.symm.trans woven)
    rw [relocated_start laid] at places
    exact @Stand.fits source _ _ _ lexemes others _ _ found.stand newFound.stand rfl [] [] pairs
      spelled rfl found.cuts newFound.cuts .nil sites spells places

theorem map_place_locate (shape : Shape) (source : List Char) (tree : Go.Tree) :
    (locate shape source tree).map Site.place = (inOrder (shape.literals tree)).map placeOf := by
  rw [locate_eq, List.map_map]
  apply List.map_congr_left
  intro literal _
  simp [Site.place, ofLiteral, placeOf]

private theorem relocated_raw {offset : Nat} {sites : List Site} {text : List Char}
    (laid : Laid offset sites text) :
    relocated offset offset (sites.map fun site => (site, site.raw.toList)) =
      sites.map Site.place := by
  induction laid with
  | nil => rfl
  | @cons offset site gap rest sites start stop laid induction =>
      have reached : offset + (site.start - offset) = site.start := by omega
      rw [List.map_cons, relocated, List.map_cons, reached, ← stop, induction]
      rfl

/-- A literal fits in its own place. -/
theorem fits_raw {shape : Shape} {source : List Char} {tree : Go.Tree}
    (parsed : Go.parse? source = some tree) {site : Site}
    (member : site ∈ locate shape source tree) : Fits source site.start site.raw.toList := by
  have laid := laid_locate parsed shape
  have woven := @weave_raw source [] source (locate shape source tree) rfl laid
  rw [Text.Utf8.byteLength_nil] at woven
  have standing : ((locate shape source tree).map fun site => (site, site.raw.toList)).map Prod.fst =
      locate shape source tree := by
    simp [Function.comp_def]
  have fits := (places_weave_iff parsed standing (by rwa [woven])).mpr
    ((map_place_locate ..).symm.trans (relocated_raw laid).symm)
  exact fits _ (List.mem_map_of_mem member)

end Site

/-! ## The end of a source -/

private theorem exists_body (text : List Char) :
    ∃ body count, text = body ++ List.replicate count '\n' ∧ body.getLast? ≠ some '\n' := by
  refine ⟨(text.reverse.dropWhile (· == '\n')).reverse,
    (text.reverse.takeWhile (· == '\n')).length, ?_, ?_⟩
  · have ends : text.reverse.takeWhile (· == '\n') =
        List.replicate (text.reverse.takeWhile (· == '\n')).length '\n' := by
      apply List.eq_replicate_of_mem
      intro char member
      have isLineEnd := List.mem_takeWhile_imp member
      exact beq_iff_eq.mp isLineEnd
    rw [← List.reverse_replicate, ← ends, ← List.reverse_append, List.takeWhile_append_dropWhile,
      List.reverse_reverse]
  · rw [List.getLast?_reverse]
    intro head
    have stops := List.head?_dropWhile_not (· == '\n') text.reverse
    rw [head] at stops
    cases stops

private theorem endWithNewline_append {body : List Char} (ends : body.getLast? ≠ some '\n')
    (count : Nat) :
    (Text.endWithNewline (String.ofList (body ++ List.replicate count '\n'))).toList =
      body ++ ['\n'] := by
  have dropped : (body ++ List.replicate count '\n').reverse.dropWhile (· == '\n') =
      body.reverse := by
    rw [List.reverse_append, List.reverse_replicate, List.dropWhile_append_of_pos (by simp)]
    rw [← List.head?_reverse] at ends
    cases reversed : body.reverse with
    | nil => rfl
    | cons char rest =>
        rw [reversed] at ends
        exact List.dropWhile_cons_of_neg (by simpa using ends)
  rw [Text.endWithNewline, String.toList_ofList, String.toList_ofList, dropped,
    List.reverse_reverse]

theorem Site.Found.exists_endWithNewline {shape : Site.Shape} {mark : List Char}
    {lexemes : List Lexeme} {literals : List (Token × Site.Kind)}
    (found : Site.Found shape (byteLength mark) lexemes literals)
    (isMark : mark = [] ∨ mark = [Go.byteOrderMark]) :
    ∃ ended, (Text.endWithNewline (String.ofList (mark ++ spelling lexemes))).toList =
        mark ++ spelling ended ∧
      Site.Found shape (byteLength mark) ended literals := by
  rcases exists_body (spelling lexemes) with ⟨body, count, spelled, bodyEnds⟩
  rcases found.cuts.exists_lineEnds spelled bodyEnds with ⟨first, rfl, rfl⟩
  have ends : (mark ++ spelling first).getLast? ≠ some '\n' := by
    rw [List.getLast?_append]
    cases last : (spelling first).getLast? with
    | some char =>
        rw [last] at bodyEnds
        exact bodyEnds
    | none => rcases isMark with rfl | rfl <;> decide
  refine ⟨first ++ lineEnds 1, ?_, found.change_lineEnds 0⟩
  rw [spelled, ← List.append_assoc, endWithNewline_append ends, Go.spelling_append,
    List.append_assoc]
  rfl

end QueryPipe
