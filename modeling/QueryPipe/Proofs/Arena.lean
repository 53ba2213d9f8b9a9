import QueryPipe.Proofs.Subtrees
import Mathlib.Data.List.Induction

/-! A unit over a whole run of steps. The shape located last decides its sites, and the
texts recorded since then decide what it renders. -/

namespace QueryPipe

open Text.Utf8 (byteLength)

/-! ## Checked slices -/

/-- Cuts a text after `count` bytes. There is no result where the text is too short, or the
cut within a character. -/
def Text.Utf8.cut? : Nat → List Char → Option (List Char × List Char)
  | 0, text => some ([], text)
  | _ + 1, [] => none
  | count + 1, char :: rest =>
    if char.utf8Size ≤ count + 1 then
      (cut? (count + 1 - char.utf8Size) rest).map fun halves => (char :: halves.1, halves.2)
    else none

theorem Text.Utf8.cut?_append (front back : List Char) :
    cut? (byteLength front) (front ++ back) = some (front, back) := by
  induction front with
  | nil => cases back <;> rfl
  | cons char front induction =>
      rcases exists_byteLength_cons char front with ⟨count, counted, fits, left⟩
      rw [counted, List.cons_append, cut?, if_pos fits, left, induction, Option.map_some]

theorem Text.Utf8.cut?_eq_some_iff {count : Nat} {text front back : List Char} :
    cut? count text = some (front, back) ↔ text = front ++ back ∧ byteLength front = count := by
  constructor
  · intro found
    induction count, text using cut?.induct generalizing front with
    | case1 text =>
        rw [cut?] at found
        cases found
        exact ⟨rfl, rfl⟩
    | case2 count => cases found
    | case3 count char rest fits induction =>
        rw [cut?, if_pos fits, Option.map_eq_some_iff] at found
        rcases found with ⟨⟨restFront, restBack⟩, found, same⟩
        rcases Prod.mk.inj same with ⟨rfl, rfl⟩
        rcases induction found with ⟨rfl, counted⟩
        refine ⟨rfl, ?_⟩
        rw [byteLength_cons, counted]
        omega
    | case4 count char rest wide =>
        rw [cut?, if_neg wide] at found
        cases found
  · rintro ⟨rfl, rfl⟩
    exact cut?_append front back

/-- The characters from one byte offset to another. There is no result where the offsets are
out of order, beyond the text or within a character. -/
def slice? (start stop : Nat) (text : List Char) : Option (List Char) :=
  (Text.Utf8.cut? stop text).bind fun halves => (Text.Utf8.cut? start halves.1).map Prod.snd

theorem slice?_eq_some_iff {start stop : Nat} {text piece : List Char} :
    slice? start stop text = some piece ↔
      ∃ before after, text = before ++ (piece ++ after) ∧ byteLength before = start ∧
        start + byteLength piece = stop := by
  rw [slice?, Option.bind_eq_some_iff]
  constructor
  · rintro ⟨⟨front, after⟩, cutStop, found⟩
    rcases Option.map_eq_some_iff.mp found with ⟨⟨before, last⟩, cutStart, rfl⟩
    rcases Text.Utf8.cut?_eq_some_iff.mp cutStop with ⟨rfl, stopAt⟩
    rcases Text.Utf8.cut?_eq_some_iff.mp cutStart with ⟨frontEq, startAt⟩
    simp only at frontEq
    refine ⟨before, after, by rw [frontEq, List.append_assoc], startAt, ?_⟩
    rw [← stopAt, ← startAt, frontEq, Text.Utf8.byteLength_append]
  · rintro ⟨before, after, rfl, rfl, rfl⟩
    refine ⟨(before ++ piece, after), ?_, ?_⟩
    · apply Text.Utf8.cut?_eq_some_iff.mpr
      exact ⟨(List.append_assoc ..).symm, Text.Utf8.byteLength_append ..⟩
    · rw [Text.Utf8.cut?_append, Option.map_some]

/-! ## Where the sites of an arena stand -/

/-- Sites in source order that do not overlap, each with the slice of its range. -/
structure Site.Arranged (source : List Char) (sites : List Site) : Prop where
  increasing : sites.Pairwise fun left right => left.start < right.start
  disjoint : sites.Pairwise fun left right => left.stop ≤ right.start
  inside : ∀ site ∈ sites, site.start < site.stop ∧ site.stop ≤ byteLength source
  sliced : ∀ site ∈ sites, slice? site.start site.stop source = some site.raw.toList

namespace Site

theorem Laid.le_start {offset : Nat} {sites : List Site} {text : List Char}
    (laid : Laid offset sites text) : ∀ site ∈ sites, offset ≤ site.start := by
  induction laid with
  | nil => simp
  | @cons offset site gap rest sites start stop _ induction =>
      intro member isMember
      rcases List.mem_cons.mp isMember with rfl | later
      · omega
      · have behind := induction member later
        omega

theorem Laid.disjoint {offset : Nat} {sites : List Site} {text : List Char}
    (laid : Laid offset sites text) :
    sites.Pairwise fun left right => left.stop ≤ right.start := by
  induction laid with
  | nil => exact .nil
  | cons start stop laid induction => exact .cons laid.le_start induction

theorem Laid.sliced {source before text : List Char} {sites : List Site}
    (whole : source = before ++ text) (laid : Laid (byteLength before) sites text) :
    ∀ site ∈ sites, slice? site.start site.stop source = some site.raw.toList := by
  generalize placed : byteLength before = offset at laid
  induction laid generalizing before with
  | nil => simp
  | @cons offset site gap rest sites start stop _ induction =>
      intro member isMember
      rcases List.mem_cons.mp isMember with rfl | later
      · apply slice?_eq_some_iff.mpr
        refine ⟨before ++ gap, rest, by rw [whole, List.append_assoc], ?_, stop.symm⟩
        rw [start, ← placed, Text.Utf8.byteLength_append]
      · refine @induction (before ++ (gap ++ site.raw.toList)) (by simp [whole]) ?_ member later
        rw [stop, start, ← placed, Text.Utf8.byteLength_append, Text.Utf8.byteLength_append,
          Nat.add_assoc]

theorem raw_ne_nil_of_mem_locate {source : List Char} {tree : Go.Tree}
    (parsed : Go.parse? source = some tree) {shape : Shape} {site : Site}
    (located : site ∈ locate shape source tree) : site.raw.toList ≠ [] := by
  rw [locate_eq, List.mem_map] at located
  rcases located with ⟨literal, member, rfl⟩
  have inTree := (mem_tokens_of_mem_literals (inOrder_subset _ member)).1
  rcases Go.exists_lexemes_of_mem_tokens parsed inTree with ⟨front, back, cuts, -, -, -⟩
  rw [show (ofLiteral source literal).raw.toList = literal.1.text from String.toList_ofList]
  exact (Go.cuts_append_iff.mp cuts).2.text_ne_nil

theorem arranged_locate {source : List Char} {tree : Go.Tree}
    (parsed : Go.parse? source = some tree) (shape : Shape) :
    Arranged source (locate shape source tree) := by
  have laid := laid_locate parsed shape
  have sliced := @Laid.sliced source [] source _ rfl laid
  refine ⟨?_, laid.disjoint, ?_, sliced⟩
  · rw [locate_eq, List.pairwise_map]
    exact inOrder_increasing _
  · intro site member
    have width := Text.Utf8.byteLength_pos (raw_ne_nil_of_mem_locate parsed member)
    rcases slice?_eq_some_iff.mp (sliced site member) with ⟨before, after, whole, startAt, stopAt⟩
    constructor
    · omega
    · rw [whole, Text.Utf8.byteLength_append, Text.Utf8.byteLength_append]
      omega

end Site

namespace SourceUnit

/-! ## Rendering with checked slices -/

/-- Walks a cursor through a source, and puts each replacement in the place of its slice.
There is no result where one of the slices has none. -/
def walk? (source : List Char) : (cursor : Nat) → List Slot → Option (List Char)
  | cursor, [] => slice? cursor (byteLength source) source
  | cursor, slot :: slots =>
    match slot.replacement with
    | none => walk? source cursor slots
    | some text =>
      (slice? cursor slot.site.start source).bind fun gap =>
        (walk? source slot.site.stop slots).map fun rest => gap ++ text.toList ++ rest

theorem walk?_eq_splice {source before front text : List Char} {slots : List Slot}
    (whole : source = before ++ (front ++ text))
    (laid : Site.Laid (byteLength before + byteLength front) (slots.map (·.site)) text) :
    walk? source (byteLength before) slots =
      some (splice (byteLength before) slots (front ++ text)) := by
  generalize placed : byteLength before + byteLength front = place at laid
  generalize standing : slots.map (·.site) = sites at laid
  induction laid generalizing before front slots with
  | nil =>
      rcases List.map_eq_nil_iff.mp standing with rfl
      rw [walk?, splice, slice?_eq_some_iff]
      refine ⟨before, [], by rw [whole, List.append_nil], rfl, ?_⟩
      rw [whole, Text.Utf8.byteLength_append before]
  | @cons place site gap rest sites start stop laid induction =>
      cases slots with
      | nil => cases standing
      | cons slot slots =>
          rw [List.map_cons, List.cons.injEq] at standing
          rcases standing with ⟨rfl, standing⟩
          cases replacement : slot.replacement with
          | none =>
              -- The characters of a site that stays belong to the next slice.
              have kept := @induction before (front ++ (gap ++ slot.site.raw.toList)) slots
                (by simp [whole]) (by simp only [Text.Utf8.byteLength_append]; omega) standing
              rw [walk?, splice, replacement]
              simpa using kept
          | some text =>
              have gapped : slice? (byteLength before) slot.site.start source =
                  some (front ++ gap) := by
                apply slice?_eq_some_iff.mpr
                refine ⟨before, slot.site.raw.toList ++ rest, by simp [whole], rfl, ?_⟩
                rw [start, ← placed, Text.Utf8.byteLength_append, Nat.add_assoc]
              have reached : slot.site.stop =
                  byteLength (before ++ (front ++ (gap ++ slot.site.raw.toList))) := by
                simp only [Text.Utf8.byteLength_append]
                omega
              have replaced := @induction (before ++ (front ++ (gap ++ slot.site.raw.toList))) []
                slots (by simp [whole]) (by rw [reached]; rfl) standing
              have cut : slot.site.start - byteLength before = byteLength (front ++ gap) := by
                rw [start, ← placed, Text.Utf8.byteLength_append]
                omega
              have size : slot.site.stop - slot.site.start = byteLength slot.site.raw.toList := by
                omega
              rw [← reached, List.nil_append] at replaced
              rw [← List.append_assoc front gap, splice_cons_of_replaced replacement cut size,
                walk?, replacement]
              simp only
              rw [gapped, replaced, Option.bind_some, Option.map_some]

/-- Rendering as it is done with checked slices. -/
def render? (unit : SourceUnit) : Option String :=
  (walk? unit.source.toList 0 unit.slots).map String.ofList

/-! ## Runs -/

/-- A unit after several steps. A step that cannot be made leaves it as it is. -/
def run (unit : SourceUnit) (steps : List Step) : SourceUnit :=
  steps.foldl (fun unit step => (unit.step? step).getD unit) unit

@[simp] theorem run_nil (unit : SourceUnit) : unit.run [] = unit := rfl

@[simp] theorem run_cons (unit : SourceUnit) (step : Step) (steps : List Step) :
    unit.run (step :: steps) = ((unit.step? step).getD unit).run steps := rfl

@[simp] theorem run_append (unit : SourceUnit) (first second : List Step) :
    unit.run (first ++ second) = (unit.run first).run second :=
  List.foldl_append

/-- The shape that a step locates. -/
def Step.shape? : Step → Option Site.Shape
  | .locate shape => some shape
  | .overwrite _ _ => none

/-- The text that a step records for a handle. -/
def Step.textFor? (handle : Nat) : Step → Option String
  | .locate _ => none
  | .overwrite other text => if other = handle then some text else none

/-- The shape located last. -/
def lastShape? (steps : List Step) : Option Site.Shape :=
  steps.reverse.findSome? Step.shape?

/-- The text recorded last for a handle, since sites were located last. -/
def latest? (handle : Nat) (steps : List Step) : Option String :=
  (steps.reverse.takeWhile (·.shape?.isNone)).findSome? (Step.textFor? handle)

@[simp] theorem lastShape?_locate (steps : List Step) (shape : Site.Shape) :
    lastShape? (steps ++ [.locate shape]) = some shape := by
  rw [lastShape?, List.reverse_append, List.reverse_singleton, List.singleton_append]
  rfl

@[simp] theorem lastShape?_overwrite (steps : List Step) (handle : Nat) (text : String) :
    lastShape? (steps ++ [.overwrite handle text]) = lastShape? steps := by
  rw [lastShape?, List.reverse_append, List.reverse_singleton, List.singleton_append]
  rfl

@[simp] theorem latest?_locate (handle : Nat) (steps : List Step) (shape : Site.Shape) :
    latest? handle (steps ++ [.locate shape]) = none := by
  simp [latest?, Step.shape?]

@[simp] theorem latest?_overwrite (handle other : Nat) (steps : List Step) (text : String) :
    latest? handle (steps ++ [.overwrite other text]) =
      if other = handle then some text else latest? handle steps := by
  by_cases same : other = handle <;> simp [latest?, Step.shape?, Step.textFor?, same]

/-- The sites of a unit of a source after steps. -/
def located (source : String) (tree : Go.Tree) (steps : List Step) : List Site :=
  match lastShape? steps with
  | some shape => Site.locate shape source.toList tree
  | none => []

/-- Sites with the texts that steps record for them. -/
def recorded (steps : List Step) (sites : List Site) : List Slot :=
  sites.mapIdx fun handle site => { site, replacement := latest? handle steps }

theorem located_overwrite (source : String) (tree : Go.Tree) (steps : List Step) (handle : Nat)
    (text : String) :
    located source tree (steps ++ [.overwrite handle text]) = located source tree steps := by
  rw [located, located, lastShape?_overwrite]

theorem map_site_recorded (steps : List Step) (sites : List Site) :
    (recorded steps sites).map (·.site) = sites := by
  apply List.ext_getElem?
  intro handle
  simp [recorded, Function.comp_def]

/-- A text for a slot. -/
def record (text : String) (slot : Slot) : Slot :=
  { slot with replacement := some text }

theorem step?_overwrite_eq_none_iff {unit : SourceUnit} {handle : Nat} {text : String} :
    unit.step? (.overwrite handle text) = none ↔ unit.sites.length ≤ handle := by
  simp [step?, overwrite?, sites]

/-- Recording a text changes one slot, or none where there is no such slot. -/
theorem getD_step?_overwrite (unit : SourceUnit) (handle : Nat) (text : String) :
    (unit.step? (.overwrite handle text)).getD unit =
      { unit with slots := unit.slots.modify handle (record text) } := by
  rw [step?, overwrite?]
  cases found : unit.slots[handle]? with
  | none =>
      have beyond := List.getElem?_eq_none_iff.mp found
      rw [Option.map_none, Option.getD_none, List.modify_eq_self beyond]
  | some slot =>
      rw [Option.map_some, Option.getD_some]
      congr 1
      apply List.ext_getElem?
      intro other
      rw [List.getElem?_set, List.getElem?_modify]
      by_cases same : handle = other
      · subst same
        rcases List.getElem?_eq_some_iff.mp found with ⟨bound, rfl⟩
        simp [bound, record]
      · simp [same]

theorem run_overwrite_comm (unit : SourceUnit) {first second : Nat} (different : first ≠ second)
    (left right : String) :
    unit.run [.overwrite first left, .overwrite second right] =
      unit.run [.overwrite second right, .overwrite first left] := by
  simp only [run_cons, run_nil, getD_step?_overwrite]
  rw [List.modify_modify_ne _ _ _ different]

/-- What one step makes of the slots that earlier steps left. -/
theorem getD_step?_recorded (path source : String) (tree : Go.Tree) (steps : List Step)
    (step : Step) :
    ((step? ⟨path, source, tree, recorded steps (located source tree steps)⟩ step).getD
      ⟨path, source, tree, recorded steps (located source tree steps)⟩) =
      ⟨path, source, tree, recorded (steps ++ [step]) (located source tree (steps ++ [step]))⟩ := by
  cases step with
  | locate shape =>
      have fresh : recorded (steps ++ [.locate shape])
          (located source tree (steps ++ [.locate shape])) =
          (Site.locate shape source.toList tree).map ({ site := · }) := by
        rw [located, lastShape?_locate]
        apply List.ext_getElem?
        intro handle
        simp [recorded]
      rw [step?, Option.getD_some, locate, fresh]
  | overwrite handle text =>
      have slots : (recorded steps (located source tree steps)).modify handle (record text) =
          recorded (steps ++ [.overwrite handle text]) (located source tree steps) := by
        -- A handle beyond the sites changes no slot, and no slot asks for its text.
        apply List.ext_getElem?
        intro other
        rw [List.getElem?_modify, recorded, recorded, List.getElem?_mapIdx, List.getElem?_mapIdx,
          Option.map_eq_map, Option.map_map]
        congr 1
        funext site
        by_cases same : handle = other <;> simp [same, record]
      rw [getD_step?_overwrite, slots]
      rw [located_overwrite]

/-- A run leaves the sites of the shape located last, each with the text recorded last. -/
theorem run_eq (path source : String) (tree : Go.Tree) (steps : List Step) :
    run ⟨path, source, tree, []⟩ steps =
      ⟨path, source, tree, recorded steps (located source tree steps)⟩ := by
  induction steps using List.reverseRecOn with
  | nil => rfl
  | append_singleton steps step induction =>
      rw [run_append, induction, run_cons, run_nil, getD_step?_recorded]

/-! ## Rendering -/

/-- A site and the text that a unit renders in its place. -/
def written (slot : Slot) : Site × List Char :=
  (slot.site, (slot.replacement.getD slot.site.raw).toList)

theorem render?_of_laid {unit : SourceUnit} (laid : Site.Laid 0 unit.sites unit.source.toList) :
    unit.render? = some unit.render := by
  have walked := @walk?_eq_splice unit.source.toList [] [] unit.source.toList unit.slots rfl laid
  exact congrArg (Option.map String.ofList) walked

theorem render_of_laid {unit : SourceUnit} (laid : Site.Laid 0 unit.sites unit.source.toList) :
    unit.render = String.ofList (weave unit.source.toList 0 (unit.slots.map written)) := by
  have spliced := @splice_eq_weave unit.source.toList [] [] unit.source.toList 0 unit.slots
    rfl rfl laid
  exact congrArg String.ofList spliced

/-- Sites and the texts that stand in their places after steps. -/
def texts (steps : List Step) (sites : List Site) : List (Site × List Char) :=
  sites.mapIdx fun handle site => (site, ((latest? handle steps).getD site.raw).toList)

theorem getD_of_unchanged {recorded : Option String} {raw : String}
    (unchanged : ∀ text ∈ recorded, text = raw) : recorded.getD raw = raw := by
  cases recorded with
  | none => rfl
  | some text => exact unchanged text rfl

/-! ## Units of a source after a run -/

section Ran

variable {path source : String} {tree : Go.Tree}

theorem sites_run (steps : List Step) :
    (run ⟨path, source, tree, []⟩ steps).sites = located source tree steps := by
  rw [run_eq]
  exact map_site_recorded ..

theorem arranged_run (parsed : Go.parse? source.toList = some tree) (steps : List Step) :
    Site.Arranged source.toList (run ⟨path, source, tree, []⟩ steps).sites := by
  rw [sites_run, located]
  split
  · exact Site.arranged_locate parsed _
  · exact ⟨.nil, .nil, by simp, by simp⟩

theorem laid_located (parsed : Go.parse? source.toList = some tree) (steps : List Step) :
    Site.Laid 0 (located source tree steps) source.toList := by
  rw [located]
  split
  · exact Site.laid_locate parsed _
  · exact .nil

theorem laid_run (parsed : Go.parse? source.toList = some tree) (steps : List Step) :
    Site.Laid 0 (run ⟨path, source, tree, []⟩ steps).sites
      (run ⟨path, source, tree, []⟩ steps).source.toList := by
  rw [sites_run, run_eq]
  exact laid_located parsed steps

theorem render_run (parsed : Go.parse? source.toList = some tree) (steps : List Step) :
    (run ⟨path, source, tree, []⟩ steps).render =
      String.ofList (weave source.toList 0 (texts steps (located source tree steps))) := by
  have pairs : (recorded steps (located source tree steps)).map written =
      texts steps (located source tree steps) := by
    apply List.ext_getElem?
    intro handle
    simp [recorded, written, texts, Function.comp_def]
  rw [render_of_laid (laid_run parsed steps), run_eq, pairs]

theorem render_run_of_raw (parsed : Go.parse? source.toList = some tree) {steps : List Step}
    (unchanged : ∀ handle site, (located source tree steps)[handle]? = some site →
      ∀ text ∈ latest? handle steps, text = site.raw) :
    (run ⟨path, source, tree, []⟩ steps).render = source := by
  have raws : texts steps (located source tree steps) =
      (located source tree steps).map fun site => (site, site.raw.toList) := by
    apply List.ext_getElem?
    intro handle
    rw [texts, List.getElem?_mapIdx, List.getElem?_map]
    cases found : (located source tree steps)[handle]? with
    | none => rfl
    | some site => simp [getD_of_unchanged (unchanged handle site found)]
  have whole := @weave_raw source.toList [] source.toList _ rfl (laid_located parsed steps)
  rw [render_run parsed, raws]
  exact (congrArg String.ofList whole).trans String.ofList_toList

theorem render_run_overwrite_raw (parsed : Go.parse? source.toList = some tree)
    {steps : List Step} {handle : Nat} {site : Site}
    (found : (located source tree steps)[handle]? = some site)
    (unchanged : ∀ text ∈ latest? handle steps, text = site.raw) :
    (run ⟨path, source, tree, []⟩ (steps ++ [.overwrite handle site.raw])).render =
      (run ⟨path, source, tree, []⟩ steps).render := by
  have same : texts (steps ++ [.overwrite handle site.raw]) (located source tree steps) =
      texts steps (located source tree steps) := by
    apply List.ext_getElem?
    intro other
    rw [texts, texts, List.getElem?_mapIdx, List.getElem?_mapIdx]
    by_cases isHandle : handle = other
    · subst isHandle
      simp [found, getD_of_unchanged unchanged]
    · simp [isHandle]
  rw [render_run parsed, render_run parsed, located_overwrite, same]

theorem isModified_run (steps : List Step) :
    (run ⟨path, source, tree, []⟩ steps).isModified = true ↔
      ∃ handle < (run ⟨path, source, tree, []⟩ steps).sites.length,
        latest? handle steps ≠ none := by
  rw [isModified, sites_run, run_eq, List.any_eq_true]
  constructor
  · rintro ⟨slot, member, isSome⟩
    rcases List.mem_iff_getElem?.mp member with ⟨handle, found⟩
    rw [recorded, List.getElem?_mapIdx, Option.map_eq_some_iff] at found
    rcases found with ⟨site, located, rfl⟩
    rcases List.getElem?_eq_some_iff.mp located with ⟨bound, -⟩
    exact ⟨handle, bound, Option.isSome_iff_ne_none.mp isSome⟩
  · rintro ⟨handle, bound, isSome⟩
    refine ⟨⟨(located source tree steps)[handle], latest? handle steps⟩, ?_,
      Option.isSome_iff_ne_none.mpr isSome⟩
    apply List.mem_iff_getElem?.mpr
    exact ⟨handle, by simp [recorded, bound]⟩

end Ran

theorem exists_tree_of_ofSource {path source : String} {unit : SourceUnit}
    (accepted : ofSource path source = .ok unit) :
    ∃ tree, Go.parse? source.toList = some tree ∧ unit = ⟨path, source, tree, []⟩ := by
  rw [ofSource] at accepted
  split at accepted
  · rename_i tree parsed
    exact ⟨tree, parsed, (Except.ok.inj accepted).symm⟩
  · cases accepted

/-- Whatever is located and recorded, in any order, the sites of a unit stand apart in its
source, and it renders the source with the text recorded last in the place of each site. -/
theorem run_of_ofSource {path source : String} {unit : SourceUnit}
    (accepted : ofSource path source = .ok unit) (steps : List Step) :
    (unit.run steps).source = source ∧
    (unit.run steps).sites = located source unit.tree steps ∧
    Site.Arranged source.toList (unit.run steps).sites ∧
    (unit.run steps).render? = some (unit.run steps).render ∧
    (unit.run steps).render =
      String.ofList (weave source.toList 0 (texts steps (unit.run steps).sites)) ∧
    ((∀ handle site, (unit.run steps).site? handle = some site →
      ∀ text ∈ latest? handle steps, text = site.raw) → (unit.run steps).render = source) ∧
    (∀ handle site, (unit.run steps).site? handle = some site →
      (∀ text ∈ latest? handle steps, text = site.raw) →
      (unit.run (steps ++ [.overwrite handle site.raw])).render = (unit.run steps).render) ∧
    (∀ first second left right, first ≠ second →
      unit.run (steps ++ [.overwrite first left, .overwrite second right]) =
        unit.run (steps ++ [.overwrite second right, .overwrite first left])) ∧
    ((unit.run steps).isModified = true ↔
      ∃ handle < (unit.run steps).sites.length, latest? handle steps ≠ none) ∧
    (∀ handle text, (unit.run steps).sites.length ≤ handle →
      (unit.run steps).step? (.overwrite handle text) = none ∧
        unit.run (steps ++ [.overwrite handle text]) = unit.run steps) ∧
    ∀ handle text, handle < (unit.run steps).sites.length →
      ∃ slot, (unit.run steps).slots[handle]? = some slot ∧
        (unit.run steps).site? handle = some slot.site ∧
        (unit.run steps).step? (.overwrite handle text) = some { unit.run steps with
          slots := (unit.run steps).slots.set handle { slot with replacement := some text } } := by
  rcases exists_tree_of_ofSource accepted with ⟨tree, parsed, rfl⟩
  have addressed : ∀ handle, (run ⟨path, source, tree, []⟩ steps).site? handle =
      (located source tree steps)[handle]? := by
    intro handle
    rw [site?, ← List.getElem?_map, ← sites_run, sites]
  refine ⟨by rw [run_eq], sites_run steps, arranged_run parsed steps,
    render?_of_laid (laid_run parsed steps), ?_, ?_, ?_, ?_, isModified_run steps, ?_, ?_⟩
  · rw [sites_run, render_run parsed]
  · intro unchanged
    apply render_run_of_raw parsed
    intro handle site found
    exact unchanged handle site (by rwa [addressed])
  · intro handle site found unchanged
    rw [addressed] at found
    exact render_run_overwrite_raw parsed found unchanged
  · intro first second left right different
    rw [run_append, run_append, run_overwrite_comm _ different]
  · intro handle text beyond
    have refused := (@step?_overwrite_eq_none_iff _ _ text).mpr beyond
    refine ⟨refused, ?_⟩
    rw [run_append, run_cons, run_nil, refused, Option.getD_none]
  · intro handle text within
    rw [sites, List.length_map] at within
    refine ⟨_, List.getElem?_eq_getElem within, ?_, ?_⟩
    · rw [site?, List.getElem?_eq_getElem within, Option.map_some]
    · rw [step?, overwrite?, List.getElem?_eq_getElem within, Option.map_some]

/-- Two sites with a text each, one of them with another text before, and a text for a handle
that no site has; then the site of another shape, where none of these texts is left. -/
theorem run_of_ofSource_statement :
    let source := "p.Statement\x7bSQL:\"q\",SQL:`r`\x7d\nq.T\x7bA:\"s\"\x7d\n"
    ∃ unit, ofSource "q.go" source = .ok unit ∧
      (unit.run [.locate {}, .overwrite 1 "x", .overwrite 0 "y", .overwrite 2 "z",
        .overwrite 1 "`x`"]).render = "p.Statement\x7bSQL:y,SQL:`x`\x7d\nq.T\x7bA:\"s\"\x7d\n" ∧
      unit.run [.locate {}, .overwrite 1 "x", .overwrite 0 "y"] =
        unit.run [.locate {}, .overwrite 0 "y", .overwrite 1 "x"] ∧
      (unit.run [.locate {}, .overwrite 1 "x", .locate { typeName := "T", fieldName := "A" },
        .overwrite 1 "y", .overwrite 0 "t"]).render =
          "p.Statement\x7bSQL:\"q\",SQL:`r`\x7d\nq.T\x7bA:t\x7d\n" := by
  intro source
  have found : (ofSource "q.go" source).toOption.map
      (fun unit => (
        (Site.Shape.literals {} unit.tree).map (Site.ofLiteral unit.source.toList),
        (Site.Shape.literals { typeName := "T", fieldName := "A" } unit.tree).map
          (Site.ofLiteral unit.source.toList))) =
      some ([⟨16, 19, ⟨1, 17⟩, "\"q\"", .plain⟩, ⟨24, 27, ⟨1, 25⟩, "`r`", .plain⟩],
        [⟨35, 38, ⟨2, 7⟩, "\"s\"", .plain⟩]) := by
    decide +kernel
  cases accepted : ofSource "q.go" source with
  | error cause =>
      rw [accepted] at found
      cases found
  | ok unit =>
      rw [accepted] at found
      rcases Prod.mk.inj (Option.some.inj found) with ⟨literals, otherLiterals⟩
      have isSource : unit.source = source := by
        rcases exists_tree_of_ofSource accepted with ⟨tree, -, rfl⟩
        rfl
      rw [isSource] at literals otherLiterals
      have sites := Site.locate_eq_of_perm (.of_eq literals.symm) (by decide)
      have otherSites := Site.locate_eq_of_perm (.of_eq otherLiterals.symm) (by decide)
      refine ⟨unit, rfl, ?_, ?_, ?_⟩
      · rcases run_of_ofSource accepted [.locate {}, .overwrite 1 "x", .overwrite 0 "y",
          .overwrite 2 "z", .overwrite 1 "`x`"] with ⟨-, located, -, -, rendered, -⟩
        rw [rendered, located.trans sites]
        decide +kernel
      · rcases run_of_ofSource accepted [.locate {}] with ⟨-, -, -, -, -, -, -, commute, -⟩
        exact commute 1 0 "x" "y" (by decide)
      · rcases run_of_ofSource accepted [.locate {}, .overwrite 1 "x",
          .locate { typeName := "T", fieldName := "A" }, .overwrite 1 "y", .overwrite 0 "t"] with
          ⟨-, located, -, -, rendered, -⟩
        rw [rendered, located.trans otherSites]
        decide +kernel

end SourceUnit

end QueryPipe
