import QueryPipe.Run.Process

/-! Visits to the sites of a file, one after the other. Each query is read from the file as
the visits before have left it, and an accepted literal is put in its place before the next
visit. Giving all queries first and replacing the literals afterwards comes to the same. -/

namespace QueryPipe.Run

/-- Puts an accepted literal in the place of its site, if literals are to be replaced. -/
def replaceSite (replaces : Bool) (handle : Nat) (unit : SourceUnit) : Verdict → SourceUnit
  | .accepted literal =>
    if replaces then (unit.overwrite? handle literal).getD unit else unit
  | .rejected _ => unit

/-- Visits sites by their handles, up to the first whose query cannot be given. -/
def visit (run : Command.Runner World) (command : String) (replaces : Bool) :
    List Nat → SourceUnit → World →
      Except Command.Error (List Verdict × SourceUnit) × World
  | [], unit, world => (.ok ([], unit), world)
  | handle :: rest, unit, world =>
    match unit.site? handle with
    | none => visit run command replaces rest unit world
    | some site =>
      match run command (queryOf site) world with
      | (.error cause, world) => (.error cause, world)
      | (.ok answer, world) =>
        let verdict := judge replaces site answer
        match visit run command replaces rest (replaceSite replaces handle unit verdict) world with
        | (.error cause, world) => (.error cause, world)
        | (.ok (verdicts, unit), world) => (.ok (verdict :: verdicts, unit), world)

/-- Processes a source by visits to its sites. -/
def processByVisits (config : Config) (run : Command.Runner World)
    (command path source : String) (replaces : Bool) (world : World) :
    Except Error FileResult × World :=
  match SourceUnit.ofSource path source with
  | .error cause => (.error (.parse cause), world)
  | .ok parsed =>
    let unit := parsed.locate config.shape
    match visit run command replaces (List.range unit.sites.length) unit world with
    | (.error cause, world) => (.error (.command cause), world)
    | (.ok (verdicts, unit), world) =>
      let failures := verdicts.filterMap Verdict.failure?
      if replaces && verdicts.any (·.literal?.isSome) then
        match canonicalize run config.formatter path unit.render world with
        | (.error cause, world) => (.error cause, world)
        | (.ok output, world) =>
          (.ok { path, output := some output, failures, isChanged := true }, world)
      else (.ok { path, failures }, world)

/-! ## What visits leave behind -/

/-- The slot of a site that was visited. -/
def visitedSlot (replaces : Bool) (site : Site) (verdict : Verdict) : Slot :=
  { site, replacement := if replaces then verdict.literal? else none }

section Visits

variable {run : Command.Runner World} {command : String} {replaces : Bool}
  {path source : String} {tree : Go.Tree} {front : List Slot} {site : Site} {sites : List Site}

theorem site?_front (behind : List Slot) :
    SourceUnit.site? { path, source, tree, slots := front ++ { site } :: behind } front.length =
      some site := by
  simp [SourceUnit.site?]

/-- A visit changes the slot of its own site and no other. -/
theorem replaceSite_front (verdict : Verdict) (behind : List Slot) :
    replaceSite replaces front.length
        { path, source, tree, slots := front ++ { site } :: behind } verdict =
      { path, source, tree, slots := front ++ visitedSlot replaces site verdict :: behind } := by
  cases verdict with
  | accepted literal =>
      cases replaces with
      | false => rfl
      | true => simp [replaceSite, SourceUnit.overwrite?, visitedSlot, Verdict.literal?]
  | rejected failure => cases replaces <;> rfl

/-- The visits that are still to come give the command the queries of the sites that are
still to be visited, whatever was done to the others. -/
theorem visit_eq (front : List Slot) (sites : List Site) (world : World) :
    visit run command replaces (List.range' front.length sites.length)
        { path, source, tree, slots := front ++ sites.map ({ site := · }) } world =
      match ask run command (sites.map queryOf) world with
      | (.error cause, after) => (.error cause, after)
      | (.ok answers, after) =>
        (.ok (List.zipWith (judge replaces) sites answers,
          { path, source, tree,
            slots := front ++ List.zipWith (visitedSlot replaces) sites
              (List.zipWith (judge replaces) sites answers) }), after) := by
  induction sites generalizing front world with
  | nil => rfl
  | cons site sites induction =>
      rw [List.length_cons, List.range'_succ, visit, List.map_cons, List.map_cons, ask,
        site?_front]
      simp only
      rcases run command (queryOf site) world with ⟨cause | answer, next⟩
      · rfl
      · have later := induction (front ++ [visitedSlot replaces site (judge replaces site answer)])
          next
        rw [List.length_append, List.length_singleton, List.append_assoc, List.singleton_append]
          at later
        simp only
        rw [replaceSite_front, later]
        rcases ask run command (sites.map queryOf) next with ⟨cause | answers, after⟩
        · rfl
        · simp

end Visits

/-! ## Visits and batches -/

private theorem zipWith_visitedSlot (sites : List Site) (verdicts : List Verdict) :
    List.zipWith (visitedSlot true) sites verdicts =
      List.zipWith edited.refill (sites.map ({ site := · })) verdicts := by
  rw [List.zipWith_map_left]
  rfl

/-- Where sites were located, none has a replacement yet. -/
theorem slots_locate (unit : SourceUnit) (shape : Site.Shape) :
    (unit.locate shape).slots = (unit.locate shape).sites.map ({ site := · }) := by
  simp [SourceUnit.locate, SourceUnit.sites]

/-- Processing gives the command the queries that visits would give it, and ends as visits
would: no replaced literal bears on a later query. -/
theorem process_eq_visits (config : Config) (run : Command.Runner World)
    (command path source : String) (replaces : Bool) (world : World) :
    process config run command path source replaces world =
      processByVisits config run command path source replaces world := by
  rw [process, processByVisits]
  cases SourceUnit.ofSource path source with
  | error cause => rfl
  | ok parsed =>
      have located := slots_locate parsed config.shape
      simp only
      generalize parsed.locate config.shape = unit at located ⊢
      have visits := @visit_eq _ run command replaces unit.path unit.source unit.tree []
        unit.sites world
      rw [List.nil_append, ← located, List.length_nil, ← List.range_eq_range'] at visits
      simp only [visits]
      rcases ask run command (unit.sites.map queryOf) world with ⟨cause | answers, after⟩
      · rfl
      · cases replaces with
        | false => rfl
        | true =>
            simp only [List.nil_append, zipWith_visitedSlot, ← located]
            rfl

end QueryPipe.Run
