import QueryPipe.Proofs.Splicing
import QueryPipe.Run.Process

/-! The result of one file, said in terms of its sites and of what the command
answers to their queries. -/

namespace QueryPipe.Run

/-! ## Answers -/

/-- The command is run on the query of each site, one after the other, and
answers. -/
inductive Answered (run : Command.Runner World) (command : String) :
    List Site → World → List Command.Answer → World → Prop
  | nil {world : World} : Answered run command [] world [] world
  | cons {site : Site} {sites : List Site} {answer : Command.Answer}
      {answers : List Command.Answer} {world next after : World}
      (ran : run command (queryOf site) world = (.ok answer, next)) :
      Answered run command sites next answers after →
      Answered run command (site :: sites) world (answer :: answers) after

section Answers

variable {run : Command.Runner World} {command : String} {sites : List Site}
  {answers : List Command.Answer} {world after : World}

theorem Answered.ask (answered : Answered run command sites world answers after) :
    Run.ask run command (sites.map queryOf) world = (.ok answers, after) := by
  induction answered with
  | nil => rfl
  | cons ran _ induction => simp only [List.map_cons, Run.ask, ran, induction]

/-- Where every query could be given, the command answered each. -/
theorem answered_of_ask
    (asked : Run.ask run command (sites.map queryOf) world = (.ok answers, after)) :
    Answered run command sites world answers after := by
  induction sites generalizing world answers with
  | nil =>
      simp only [List.map_nil, Run.ask, Prod.mk.injEq, Except.ok.injEq] at asked
      rcases asked with ⟨rfl, rfl⟩
      exact .nil
  | cons site sites induction =>
      rw [List.map_cons, Run.ask] at asked
      split at asked
      · cases asked
      · rename_i answer next ran
        split at asked
        · cases asked
        · rename_i later final rest
          simp only [Prod.mk.injEq, Except.ok.injEq] at asked
          rcases asked with ⟨rfl, rfl⟩
          exact .cons ran (induction rest)

end Answers

/-! ## Verdicts -/

/-- The command accepts the query of a site, and its output can take the place of
the literal if it is to. -/
def Succeeds (replaces : Bool) (site : Site) (answer : Command.Answer) : Prop :=
  answer.exitCode = 0 ∧ ¬ (replaces = true ∧ site.kind = .template ∧
    (Literal.placeholders site.raw.toList).restore? answer.output.toList = none)

instance (replaces : Bool) (site : Site) (answer : Command.Answer) :
    Decidable (Succeeds replaces site answer) :=
  inferInstanceAs (Decidable (_ ∧ ¬ _))

/-- The report of a site that does not succeed. -/
def failureOf (site : Site) (answer : Command.Answer) : Failure where
  message := if answer.exitCode = 0 then placeholdersChanged else answer.output
  position := site.position
  query := queryOf site

/-- What stands in the place of a site once its answer was accepted or refused. -/
def literalAfter (site : Site) (answer : Command.Answer) : List Char :=
  match replacement? site answer.output with
  | some text =>
    if answer.exitCode = 0 then Literal.requote text (.of site.raw.toList) else site.raw.toList
  | none => site.raw.toList

private theorem replacement?_eq_none_iff (site : Site) (output : String) :
    replacement? site output = none ↔ site.kind = .template ∧
      (Literal.placeholders site.raw.toList).restore? output.toList = none := by
  rw [replacement?]
  cases site.kind <;> simp

theorem succeeds_iff (replaces : Bool) (site : Site) (answer : Command.Answer) :
    Succeeds replaces site answer ↔
      answer.exitCode = 0 ∧ ¬ (replaces = true ∧ replacement? site answer.output = none) := by
  rw [Succeeds, replacement?_eq_none_iff]

theorem judge_failure? (replaces : Bool) (site : Site) (answer : Command.Answer) :
    (judge replaces site answer).failure? =
      if Succeeds replaces site answer then none else some (failureOf site answer) := by
  have condition := succeeds_iff replaces site answer
  by_cases accepted : answer.exitCode = 0
  · cases found : replacement? site answer.output with
    | some text =>
        simp [judge, Command.Answer.isSuccess, accepted, found, Verdict.failure?, condition]
    | none =>
        cases replaces <;>
          simp [judge, Command.Answer.isSuccess, accepted, found, Verdict.failure?, condition, failureOf]
  · simp [judge, Command.Answer.isSuccess, accepted, Verdict.failure?, condition, failureOf]

theorem judge_literal?_isSome (replaces : Bool) (site : Site) (answer : Command.Answer) :
    (judge replaces site answer).literal?.isSome = decide (Succeeds replaces site answer) := by
  have failure := judge_failure? replaces site answer
  cases judged : judge replaces site answer with
  | accepted literal =>
      rw [judged, Verdict.failure?] at failure
      split at failure
      · rename_i succeeds
        simp [Verdict.literal?, succeeds]
      · cases failure
  | rejected refusal =>
      rw [judged, Verdict.failure?] at failure
      split at failure
      · cases failure
      · rename_i fails
        simp [Verdict.literal?, fails]

theorem judge_literal (site : Site) (answer : Command.Answer) :
    ((judge true site answer).literal?.getD site.raw).toList = literalAfter site answer := by
  rw [judge, literalAfter]
  by_cases accepted : answer.exitCode = 0
  · cases replacement? site answer.output with
    | some text => simp [Command.Answer.isSuccess, accepted, Verdict.literal?]
    | none => simp [Command.Answer.isSuccess, accepted, Verdict.literal?]
  · cases replacement? site answer.output <;>
      simp [Command.Answer.isSuccess, accepted, Verdict.literal?]

/-! ## The edited source -/

/-- Each site with what stands in its place. -/
def literalsAfter (sites : List Site) (answers : List Command.Answer) : List (Site × List Char) :=
  List.zipWith (fun site answer => (site, literalAfter site answer)) sites answers

/-- The source with the new literals in the place of its sites. -/
def contentAfter (source : String) (sites : List Site) (answers : List Command.Answer) : String :=
  String.ofList (weave source.toList 0 (literalsAfter sites answers))

private theorem zipWith_edited (sites : List Site) (answers : List Command.Answer) :
    (List.zipWith edited.refill (sites.map ({ site := · }))
        (List.zipWith (judge true) sites answers)).map
      (fun slot => (slot.site, (slot.replacement.getD slot.site.raw).toList)) =
      literalsAfter sites answers := by
  unfold literalsAfter
  induction sites generalizing answers with
  | nil => rfl
  | cons site sites induction =>
      cases answers with
      | nil => rfl
      | cons answer answers =>
          simp only [List.map_cons, List.zipWith_cons_cons, edited.refill, judge_literal, induction]

private theorem map_site_zipWith {sites : List Site} {verdicts : List Verdict}
    (sameLength : verdicts.length = sites.length) :
    (List.zipWith edited.refill (sites.map ({ site := · })) verdicts).map (·.site) = sites := by
  induction sites generalizing verdicts with
  | nil => rfl
  | cons site sites induction =>
      cases verdicts with
      | nil => cases sameLength
      | cons verdict verdicts =>
          rw [List.map_cons, List.zipWith_cons_cons, List.map_cons,
            induction (Nat.succ.inj sameLength)]
          rfl

theorem Answered.length {run : Command.Runner World} {command : String} {sites : List Site}
    {answers : List Command.Answer} {world after : World}
    (answered : Answered run command sites world answers after) :
    answers.length = sites.length := by
  induction answered with
  | nil => rfl
  | cons _ _ induction => rw [List.length_cons, List.length_cons, induction]

theorem sites_locate (unit : SourceUnit) (shape : Site.Shape) :
    (unit.locate shape).sites = Site.locate shape unit.source.toList unit.tree := by
  simp [SourceUnit.locate, SourceUnit.sites, Function.comp_def]

/-- Rendering the edited unit puts the new literals into the gaps of the source. -/
theorem render_edited {path source : String} {tree : Go.Tree} {shape : Site.Shape}
    (parsed : Go.parse? source.toList = some tree) {answers : List Command.Answer}
    (sameLength : answers.length = (Site.locate shape source.toList tree).length) :
    (edited (SourceUnit.locate { path, source, tree } shape) (List.zipWith (judge true)
      (SourceUnit.locate { path, source, tree } shape).sites answers)).render =
      contentAfter source (Site.locate shape source.toList tree) answers := by
  have standing : Site.Laid 0 ((List.zipWith edited.refill
      ((Site.locate shape source.toList tree).map ({ site := · }))
      (List.zipWith (judge true) (Site.locate shape source.toList tree) answers)).map (·.site))
      source.toList := by
    rw [map_site_zipWith (by simp [sameLength])]
    exact Site.laid_locate parsed shape
  have spliced := @splice_eq_weave source.toList [] [] source.toList 0 _ rfl rfl standing
  rw [sites_locate, SourceUnit.render, contentAfter, ← zipWith_edited]
  exact congrArg String.ofList spliced

/-! ## Processing -/

/-- The reports of the sites that do not succeed, in source order. -/
def failuresOf (replaces : Bool) (sites : List Site) (answers : List Command.Answer) :
    List Failure :=
  ((sites.zip answers).filter fun pair => ¬ Succeeds replaces pair.1 pair.2).map
    fun pair => failureOf pair.1 pair.2

theorem filterMap_failure? (replaces : Bool) (sites : List Site)
    (answers : List Command.Answer) :
    (List.zipWith (judge replaces) sites answers).filterMap Verdict.failure? =
      failuresOf replaces sites answers := by
  unfold failuresOf
  induction sites generalizing answers with
  | nil => rfl
  | cons site sites induction =>
      cases answers with
      | nil => rfl
      | cons answer answers =>
          rw [List.zipWith_cons_cons, List.zip_cons_cons, List.filterMap_cons, judge_failure?,
            induction, List.filter_cons]
          by_cases succeeds : Succeeds replaces site answer <;> simp [succeeds]

private theorem any_literal?_iff (replaces : Bool) (sites : List Site)
    (answers : List Command.Answer) :
    (List.zipWith (judge replaces) sites answers).any (·.literal?.isSome) = true ↔
      ∃ pair ∈ sites.zip answers, Succeeds replaces pair.1 pair.2 := by
  induction sites generalizing answers with
  | nil => simp
  | cons site sites induction =>
      cases answers with
      | nil => simp
      | cons answer answers =>
          rw [List.zipWith_cons_cons, List.zip_cons_cons, List.any_cons, Bool.or_eq_true, induction,
            judge_literal?_isSome, decide_eq_true_eq, List.exists_mem_cons_iff]

/-- The answers decide what comes of a parsed file, with no formatter. -/
theorem process_eq {config : Config} {run : Command.Runner World} {command path source : String}
    {tree : Go.Tree} {replaces : Bool} {world after : World} {sites : List Site}
    {answers : List Command.Answer} (parsed : Go.parse? source.toList = some tree)
    (noFormatter : config.formatter = none)
    (located : Site.locate config.shape source.toList tree = sites)
    (answered : Answered run command sites world answers after) :
    process config run command path source replaces world =
      if replaces = true ∧ ∃ pair ∈ sites.zip answers, Succeeds replaces pair.1 pair.2 then
        match Go.parse? (contentAfter source sites answers).toList with
        | none => (.error (.format path (Go.SourceError.message ⟨{ path }⟩)), after)
        | some _ => (.ok {
            path
            output := some (Text.endWithNewline (contentAfter source sites answers))
            failures := failuresOf replaces sites answers
            isChanged := true }, after)
      else (.ok { path, failures := failuresOf replaces sites answers }, after) := by
  subst located
  have unitOk : SourceUnit.ofSource path source = .ok { path, source, tree } := by
    rw [SourceUnit.ofSource, parsed]
  have replaced := (Bool.and_eq_true replaces _).to_iff.trans
    (and_congr_right fun _ => any_literal?_iff replaces
      (Site.locate config.shape source.toList tree) answers)
  rw [process, unitOk]
  simp only [sites_locate, answered.ask, filterMap_failure?]
  by_cases changes : replaces = true ∧
      ∃ pair ∈ (Site.locate config.shape source.toList tree).zip answers,
        Succeeds replaces pair.1 pair.2
  · have rendered := @render_edited path source tree config.shape parsed answers answered.length
    rw [if_pos (replaced.mpr changes), if_pos changes]
    rcases changes with ⟨rfl, -⟩
    rw [sites_locate] at rendered
    rw [rendered, canonicalize, noFormatter]
    cases Go.parse? (contentAfter source _ answers).toList with
    | none =>
        simp only
        rfl
    | some newTree => rfl
  · rw [if_neg (mt replaced.mp changes), if_neg changes]

/-- The work on one parsed file, with no formatter. The gaps and the literals of
the sites make up the source. Where nothing is to be replaced, and where the new
literals leave a source that parses, the result reports the sites that fail, in
source order, and holds the new content just if something was replaced. Where the
new content does not parse, it is refused. -/
theorem process_of_answered {config : Config} {run : Command.Runner World}
    {command path source : String} {tree : Go.Tree} {replaces : Bool} {world after : World}
    {answers : List Command.Answer}
    (parsed : Go.parse? source.toList = some tree) (noFormatter : config.formatter = none)
    (answered : Answered run command (Site.locate config.shape source.toList tree) world
      answers after) :
    let sites := Site.locate config.shape source.toList tree
    let changes := replaces = true ∧ ∃ pair ∈ sites.zip answers, Succeeds replaces pair.1 pair.2
    let content := contentAfter source sites answers
    weave source.toList 0 (sites.map fun site => (site, site.raw.toList)) = source.toList ∧
    (changes ∧ Go.parse? content.toList = none →
      process config run command path source replaces world =
        (.error (.format path (Go.SourceError.message ⟨{ path }⟩)), after)) ∧
    (¬ (changes ∧ Go.parse? content.toList = none) →
      ∃ result, process config run command path source replaces world = (.ok result, after) ∧
        result.path = path ∧
        result.failures = failuresOf replaces sites answers ∧
        (result.isChanged = true ↔ result.output.isSome = true) ∧
        (result.output.isSome = true ↔ changes) ∧
        ∀ output ∈ result.output, output = Text.endWithNewline content) := by
  intro sites changes content
  have processed := @process_eq _ config run command path source tree replaces world after sites
    answers parsed noFormatter rfl answered
  refine ⟨@weave_raw source.toList [] source.toList sites rfl
    (Site.laid_locate parsed config.shape), ?_, ?_⟩
  · intro refused
    rw [processed, if_pos refused.1, refused.2]
  · intro accepted
    by_cases changed : changes
    · cases reparsed : Go.parse? content.toList with
      | none => exact absurd ⟨changed, reparsed⟩ accepted
      | some newTree =>
          rw [if_pos changed, reparsed] at processed
          refine ⟨_, processed, rfl, rfl, iff_of_true rfl rfl, iff_of_true rfl changed, ?_⟩
          intro output isOutput
          exact (Option.some.inj isOutput).symm
    · rw [if_neg changed] at processed
      refine ⟨_, processed, rfl, rfl, iff_of_false nofun nofun, iff_of_false nofun changed, ?_⟩
      intro output isOutput
      cases isOutput

/-- A command that prints the same on every query. -/
def printing (output : String) : Command.Runner Unit := fun _ _ world => (.ok ⟨output, 0⟩, world)

/-- A command that rejects one query and prints the same on all others. -/
def rejecting (query output : String) : Command.Runner Unit := fun _ input world =>
  (.ok (if input = query then ⟨"no", 1⟩ else ⟨output, 0⟩), world)

/-- A source with a template between two literals. -/
def threeQueries : String :=
  "p.Statement\x7bSQL:\"q\",SQL:fmt.Sprintf(\"%d\"),SQL:`r`\x7d\n"

theorem exists_located_threeQueries :
    ∃ tree, Go.parse? threeQueries.toList = some tree ∧
      Site.locate {} threeQueries.toList tree =
        [⟨16, 19, ⟨1, 17⟩, "\"q\"", .plain⟩, ⟨36, 40, ⟨1, 37⟩, "\"%d\"", .template⟩,
          ⟨46, 49, ⟨1, 47⟩, "`r`", .plain⟩] := by
  have found : (Go.parse? threeQueries.toList).map (fun tree =>
      (Site.Shape.literals {} tree).map (Site.ofLiteral threeQueries.toList)) =
      some [⟨16, 19, ⟨1, 17⟩, "\"q\"", .plain⟩, ⟨36, 40, ⟨1, 37⟩, "\"%d\"", .template⟩,
        ⟨46, 49, ⟨1, 47⟩, "`r`", .plain⟩] := by
    decide +kernel
  rcases Option.map_eq_some_iff.mp found with ⟨tree, parsed, literals⟩
  exact ⟨tree, parsed, Site.locate_eq_of_perm (.of_eq literals.symm) (by decide)⟩

/-- The first literal is replaced; the others stay, one for its lost verb and one for a query
that is rejected. -/
theorem process_of_answered_rejecting :
    ∃ result, process {} (rejecting "r" "xyz") "c" "q.go" threeQueries true () =
        (.ok result, ()) ∧
      result.isChanged = true ∧
      result.failures = [⟨placeholdersChanged, ⟨1, 37⟩, "-999"⟩, ⟨"no", ⟨1, 47⟩, "r"⟩] ∧
      ∀ output ∈ result.output, output =
        "p.Statement\x7bSQL:\"xyz\",SQL:fmt.Sprintf(\"%d\"),SQL:`r`\x7d\n" := by
  rcases exists_located_threeQueries with ⟨tree, parsed, located⟩
  have answered : Answered (rejecting "r" "xyz") "c" (Site.locate {} threeQueries.toList tree) ()
      [⟨"xyz", 0⟩, ⟨"xyz", 0⟩, ⟨"no", 1⟩] () := by
    rw [located]
    exact answered_of_ask (by decide +kernel)
  have spec := @process_of_answered Unit {} (rejecting "r" "xyz") "c" "q.go" _ tree true () () _
    parsed rfl answered
  rw [located] at spec
  rcases spec.2.2 (by decide +kernel) with
    ⟨result, processed, -, failures, isChanged, isOutput, output⟩
  refine ⟨result, processed, ?_, ?_, ?_⟩
  · exact isChanged.mpr (isOutput.mpr (by decide +kernel))
  · rw [failures]
    decide +kernel
  · intro text found
    rw [output text found]
    decide +kernel

/-- An accepted answer may leave a source that is refused. -/
theorem process_refused_quote :
    (Go.parse? "p.Statement\x7bSQL:\"q\"\x7d\n".toList).isSome = true ∧
    ¬ ∃ result after, process {} (printing "x\"y") "c" "q.go" "p.Statement\x7bSQL:\"q\"\x7d\n"
      true () = (.ok result, after) := by
  refine ⟨by decide +kernel, ?_⟩
  rintro ⟨result, after, processed⟩
  have refused : (match (process {} (printing "x\"y") "c" "q.go"
      "p.Statement\x7bSQL:\"q\"\x7d\n" true ()).1 with
      | .ok _ => false
      | .error _ => true) = true := by
    decide +kernel
  rw [processed] at refused
  cases refused

end QueryPipe.Run
