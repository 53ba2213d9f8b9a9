import QueryPipe.Proofs.Processing
import QueryPipe.Proofs.SiteVisits

/-! A run that only reports and a run that replaces, over the same source. They give the
command the same queries, and what the first one reports the second one reports as well. -/

namespace QueryPipe.Run

/-- Command lines that answer a query always alike. What they are given is written down. -/
def recording (answer : (command input : String) → Except Command.Error Command.Answer) :
    Command.Runner (List (String × String)) :=
  fun command input given => (answer command input, given ++ [(command, input)])

/-! ## What a command is given -/

/-- The queries up to the first that cannot be given, and this one. -/
def throughError (answer : String → Except Command.Error Command.Answer) (queries : List String) :
    List String :=
  queries.takeWhile (fun query => (answer query).isOk) ++
    (queries.dropWhile fun query => (answer query).isOk).take 1

section Recorded

variable {answer : (command input : String) → Except Command.Error Command.Answer}
  {command : String}

theorem throughError_cons_of_error {query : String} {rest : List String} {cause : Command.Error}
    (refused : answer command query = .error cause) :
    throughError (answer command) (query :: rest) = [query] := by
  simp [throughError, refused, Except.isOk, Except.toBool]

theorem throughError_cons_of_ok {query : String} {rest : List String} {given : Command.Answer}
    (answered : answer command query = .ok given) :
    throughError (answer command) (query :: rest) =
      query :: throughError (answer command) rest := by
  simp [throughError, answered, Except.isOk, Except.toBool]

theorem snd_ask_recording (queries : List String) (given : List (String × String)) :
    (ask (recording answer) command queries given).2 =
      given ++ (throughError (answer command) queries).map (command, ·) := by
  induction queries generalizing given with
  | nil => exact (List.append_nil given).symm
  | cons query rest induction =>
      rw [ask, recording]
      cases answered : answer command query with
      | error cause => rw [throughError_cons_of_error answered, List.map_singleton]
      | ok found =>
          have later := induction (given ++ [(command, query)])
          rw [List.append_assoc, List.singleton_append] at later
          rw [throughError_cons_of_ok answered, List.map_cons, ← later]
          simp only
          split <;> rename_i asked <;> rw [asked]

theorem forall₂_of_answered {sites : List Site} {answers : List Command.Answer}
    {given after : List (String × String)}
    (answered : Answered (recording answer) command sites given answers after) :
    List.Forall₂ (fun site found => answer command (queryOf site) = .ok found) sites answers := by
  induction answered with
  | nil => exact .nil
  | cons ran _ induction => exact .cons (congrArg Prod.fst ran) induction

/-- The formatter is given one text at most. What it ends with an error, ends because it
refuses the text or cannot be run. -/
theorem canonicalize_recording (formatter : Option String) (path text : String)
    (given : List (String × String)) :
    ∃ formatting : List (String × String),
      (canonicalize (recording answer) formatter path text given).2 = given ++ formatting ∧
      formatting.length ≤ 1 ∧ (∀ call ∈ formatting, formatter = some call.1) ∧
      ∀ error, (canonicalize (recording answer) formatter path text given).1 = .error error →
        (∃ reason, error = .format path reason) ∨
        ∃ call cause, formatting = [call] ∧ answer call.1 call.2 = .error cause ∧
          error = .command cause := by
  rw [canonicalize]
  split
  · refine ⟨[], (List.append_nil given).symm, by simp, by simp, ?_⟩
    rintro error ⟨⟩
    exact .inl ⟨_, rfl⟩
  · cases formatter with
    | none => exact ⟨[], (List.append_nil given).symm, by simp, by simp, by simp⟩
    | some line =>
        simp only
        split
        · exact ⟨[], (List.append_nil given).symm, by simp, by simp, by simp⟩
        · rw [recording]
          refine ⟨[(line, Text.endWithNewline text)], ?_, by simp, by simp, ?_⟩
          · cases answer line (Text.endWithNewline text) <;> rfl
          · intro error ended
            cases answered : answer line (Text.endWithNewline text) with
            | error cause =>
                rw [answered] at ended
                cases ended
                exact .inr ⟨_, cause, rfl, answered, rfl⟩
            | ok found =>
                rw [answered] at ended
                simp only [formatted] at ended
                split at ended
                · cases ended
                · cases ended
                  exact .inl ⟨_, rfl⟩

end Recorded

/-! ## What is reported -/

/-- Whether the query of a template is accepted with an output that has lost placeholders. -/
def losesPlaceholders (answer : String → Except Command.Error Command.Answer) (site : Site) :
    Bool :=
  match answer (queryOf site) with
  | .ok found =>
    found.exitCode == 0 && site.kind == .template &&
      ((Literal.placeholders site.raw.toList).restore? found.output.toList).isNone
  | .error _ => false

/-- The report of a template that has lost its placeholders. -/
def refusal (site : Site) : Failure := ⟨placeholdersChanged, site.position, queryOf site⟩

theorem failuresOf_cons (replaces : Bool) (site : Site) (sites : List Site)
    (answer : Command.Answer) (answers : List Command.Answer) :
    failuresOf replaces (site :: sites) (answer :: answers) =
      if Succeeds replaces site answer then failuresOf replaces sites answers
      else failureOf site answer :: failuresOf replaces sites answers := by
  rw [failuresOf, List.zip_cons_cons, List.filter_cons]
  by_cases succeeds : Succeeds replaces site answer <;> simp [succeeds, failuresOf]

section Reported

variable {answer : String → Except Command.Error Command.Answer} {site : Site}
  {found : Command.Answer}

theorem succeeds_reporting_iff : Succeeds false site found ↔ found.exitCode = 0 := by
  simp [Succeeds]

theorem succeeds_replacing_iff (answered : answer (queryOf site) = .ok found) :
    Succeeds true site found ↔ found.exitCode = 0 ∧ losesPlaceholders answer site = false := by
  simp only [Succeeds, losesPlaceholders, answered]
  by_cases accepted : found.exitCode = 0 <;> simp [accepted, Option.isSome_iff_ne_none]

theorem failureOf_eq_refusal (accepted : found.exitCode = 0) :
    failureOf site found = refusal site := by
  simp [failureOf, refusal, accepted]

/-- A run that replaces reports what a run that only reports does, and besides it just the
templates that have lost their placeholders. -/
theorem failuresOf_replacing {sites : List Site} {answers : List Command.Answer}
    (answered : List.Forall₂ (fun site found => answer (queryOf site) = .ok found) sites answers) :
    (failuresOf false sites answers).Sublist (failuresOf true sites answers) ∧
      (failuresOf true sites answers).Perm
        (failuresOf false sites answers ++
          (sites.filter (losesPlaceholders answer)).map refusal) := by
  induction answered with
  | nil => exact ⟨.slnil, .refl _⟩
  | @cons site found sites answers isFound _ induction =>
      rcases induction with ⟨sublist, perm⟩
      rw [failuresOf_cons, failuresOf_cons, List.filter_cons]
      simp only [succeeds_reporting_iff, succeeds_replacing_iff isFound]
      by_cases accepted : found.exitCode = 0
      · cases loses : losesPlaceholders answer site with
        | false => simpa [accepted] using ⟨sublist, perm⟩
        | true =>
            simp only [accepted, failureOf_eq_refusal accepted]
            exact ⟨sublist.cons _, (perm.cons _).trans List.perm_middle.symm⟩
      · have keeps : losesPlaceholders answer site = false := by
          simp [losesPlaceholders, isFound, accepted]
        simp only [accepted, keeps]
        exact ⟨sublist.cons_cons _, perm.cons _⟩

end Reported

/-! ## Both runs -/

section Runs

variable {config : Config} {run : Command.Runner World} {command path source : String}
  {unit : SourceUnit} {world after : World}

theorem process_of_ask_error {replaces : Bool} {cause : Command.Error}
    (parsed : SourceUnit.ofSource path source = .ok unit)
    (asked : ask run command ((unit.locate config.shape).sites.map queryOf) world =
      (.error cause, after)) :
    process config run command path source replaces world = (.error (.command cause), after) := by
  simp only [process, parsed, asked]

theorem process_reporting {answers : List Command.Answer}
    (parsed : SourceUnit.ofSource path source = .ok unit)
    (asked : ask run command ((unit.locate config.shape).sites.map queryOf) world =
      (.ok answers, after)) :
    process config run command path source false world =
      (.ok { path, failures := failuresOf false (unit.locate config.shape).sites answers },
        after) := by
  simp only [process, parsed, asked, filterMap_failure?]
  rfl

/-- Where all queries are answered, a run that replaces ends as the check of the new source
does, or has nothing to replace. -/
theorem process_replacing {answers : List Command.Answer}
    (parsed : SourceUnit.ofSource path source = .ok unit)
    (asked : ask run command ((unit.locate config.shape).sites.map queryOf) world =
      (.ok answers, after)) :
    let failures := failuresOf true (unit.locate config.shape).sites answers
    process config run command path source true world = (.ok { path, failures }, after) ∨
      ∃ text, process config run command path source true world =
        ((canonicalize run config.formatter path text after).1.map fun output =>
          { path, output := some output, failures, isChanged := true },
        (canonicalize run config.formatter path text after).2) := by
  intro failures
  simp only [process, parsed, asked, filterMap_failure?]
  split
  · refine .inr ⟨(edited (unit.locate config.shape)
      (List.zipWith (judge true) (unit.locate config.shape).sites answers)).render, ?_⟩
    split <;> rename_i canonical <;> rw [canonical] <;> rfl
  · exact .inl rfl

/-- Two runs that differ in whether they replace end with the same error before anything
could be replaced, or all queries are answered, in both of them alike. -/
theorem process_cases (config : Config) (run : Command.Runner World) (command path source : String)
    (world : World) :
    (∃ error : Error, ((∃ cause, error = .parse cause) ∨ ∃ cause, error = .command cause) ∧
      ∃ after, ∀ replaces,
        process config run command path source replaces world = (.error error, after)) ∨
    ∃ unit answers after, SourceUnit.ofSource path source = .ok unit ∧
      ask run command ((unit.locate config.shape).sites.map queryOf) world =
        (.ok answers, after) := by
  cases parsed : SourceUnit.ofSource path source with
  | error cause =>
      refine .inl ⟨.parse cause, .inl ⟨cause, rfl⟩, world, ?_⟩
      intro replaces
      simp only [process, parsed]
  | ok unit =>
      rcases asked : ask run command ((unit.locate config.shape).sites.map queryOf) world with
        ⟨cause | answers, after⟩
      · refine .inl ⟨.command cause, .inr ⟨cause, rfl⟩, after, ?_⟩
        intro replaces
        exact process_of_ask_error parsed asked
      · exact .inr ⟨unit, answers, after, rfl, asked⟩

end Runs

section Agreement

variable {config : Config}
  {answer : (command input : String) → Except Command.Error Command.Answer}
  {command path source : String}

/-- What the command is given is known from the sites, and the formatter is not among it. -/
theorem snd_process_reporting {unit : SourceUnit}
    (parsed : SourceUnit.ofSource path source = .ok unit) :
    (process config (recording answer) command path source false []).2 =
      (throughError (answer command) ((unit.locate config.shape).sites.map queryOf)).map
        (command, ·) := by
  have given := @snd_ask_recording answer command
    ((unit.locate config.shape).sites.map queryOf) []
  rw [List.nil_append] at given
  rw [← given]
  rcases asked : ask (recording answer) command ((unit.locate config.shape).sites.map queryOf) []
    with ⟨cause | answers, after⟩
  · rw [process_of_ask_error parsed asked]
  · rw [process_reporting parsed asked]

/-- A run that replaces gives the command what a run that only reports gives it, then the
formatter one text at most. -/
theorem replacing_extends_reporting :
    ∃ formatting,
      (process config (recording answer) command path source true []).2 =
        (process config (recording answer) command path source false []).2 ++ formatting ∧
      formatting.length ≤ 1 ∧ (∀ call ∈ formatting, config.formatter = some call.1) ∧
      ∀ error, (process config (recording answer) command path source true []).1 = .error error →
        (process config (recording answer) command path source false []).1 = .error error ∨
        (∃ reason, error = .format path reason) ∨
        ∃ call cause, formatting = [call] ∧ answer call.1 call.2 = .error cause ∧
          error = .command cause := by
  rcases process_cases config (recording answer) command path source [] with
    ⟨error, -, after, ended⟩ | ⟨unit, answers, after, parsed, asked⟩
  · rw [ended true, ended false]
    exact ⟨[], (List.append_nil after).symm, by simp, by simp, fun _ same => .inl same⟩
  · rw [process_reporting parsed asked]
    rcases process_replacing parsed asked with unchanged | ⟨text, changed⟩
    · rw [unchanged]
      exact ⟨[], (List.append_nil after).symm, by simp, by simp, by simp⟩
    · rw [changed]
      rcases @canonicalize_recording answer config.formatter path text after with
        ⟨formatting, given, once, isFormatter, refusals⟩
      refine ⟨formatting, given, once, isFormatter, ?_⟩
      intro error ended
      right
      apply refusals
      cases canonical : (canonicalize (recording answer) config.formatter path text after).1 with
      | error cause =>
          rw [canonical] at ended
          cases ended
          rfl
      | ok output =>
          rw [canonical] at ended
          cases ended

/-- Where both runs come to a result, what they report differs just by the templates that
have lost their placeholders. -/
theorem failures_replacing_reporting {unit : SourceUnit} {reported replaced : FileResult}
    (parsed : SourceUnit.ofSource path source = .ok unit)
    (reporting : (process config (recording answer) command path source false []).1 =
      .ok reported)
    (replacing : (process config (recording answer) command path source true []).1 =
      .ok replaced) :
    reported.failures.Sublist replaced.failures ∧
      replaced.failures.Perm (reported.failures ++
        ((unit.locate config.shape).sites.filter (losesPlaceholders (answer command))).map
          refusal) := by
  rcases asked : ask (recording answer) command ((unit.locate config.shape).sites.map queryOf) []
    with ⟨cause | answers, after⟩
  · rw [process_of_ask_error parsed asked] at reporting
    cases reporting
  · have differ := failuresOf_replacing (forall₂_of_answered (answered_of_ask asked))
    rw [process_reporting parsed asked] at reporting
    cases reporting
    have failures : replaced.failures =
        failuresOf true (unit.locate config.shape).sites answers := by
      rcases process_replacing parsed asked with unchanged | ⟨text, changed⟩
      · rw [unchanged] at replacing
        cases replacing
        rfl
      · rw [changed] at replacing
        cases canonical : (canonicalize (recording answer) config.formatter path text after).1 with
        | error cause =>
            rw [canonical] at replacing
            cases replacing
        | ok output =>
            rw [canonical] at replacing
            cases replacing
            rfl
    rwa [failures]

theorem exitCode_eq_one_iff (result : FileResult) : result.exitCode = 1 ↔ result.failures ≠ [] := by
  rw [FileResult.exitCode]
  cases result.failures <;> simp

/-- A run that only reports and one that replaces, with the same command. Both visit the
sites one after the other and give the command the same queries, those of the literals as
they stand in the source, up to the first that cannot be given. Where the first one ends
with an error, the second one ends just so; by itself the second one fails only over the
text that it would write. Where both come to a result, the second one reports in
addition just the templates that have lost their placeholders. -/
theorem process_replacing_reporting (config : Config)
    (answer : (command input : String) → Except Command.Error Command.Answer)
    (command path source : String) :
    let reporting := process config (recording answer) command path source false []
    let replacing := process config (recording answer) command path source true []
    (∀ replaces, process config (recording answer) command path source replaces [] =
      processByVisits config (recording answer) command path source replaces []) ∧
    (∀ cause, SourceUnit.ofSource path source = .error cause →
      reporting = (.error (.parse cause), [])) ∧
    (∀ error, reporting.1 = .error error → replacing = reporting ∧
      ((∃ cause, error = .parse cause) ∨ ∃ cause, error = .command cause)) ∧
    (∃ formatting, replacing.2 = reporting.2 ++ formatting ∧ formatting.length ≤ 1 ∧
      (∀ call ∈ formatting, config.formatter = some call.1) ∧
      ∀ error, replacing.1 = .error error →
        reporting.1 = .error error ∨ (∃ reason, error = .format path reason) ∨
        ∃ call cause, formatting = [call] ∧ answer call.1 call.2 = .error cause ∧
          error = .command cause) ∧
    ∀ unit, SourceUnit.ofSource path source = .ok unit →
      let sites := (unit.locate config.shape).sites
      reporting.2 = (throughError (answer command) (sites.map queryOf)).map (command, ·) ∧
      ∀ reported replaced, reporting.1 = .ok reported → replacing.1 = .ok replaced →
        reported.failures.Sublist replaced.failures ∧
        replaced.failures.Perm
          (reported.failures ++ (sites.filter (losesPlaceholders (answer command))).map refusal) ∧
        (reported.exitCode = 1 → replaced.exitCode = 1) := by
  intro reporting replacing
  refine ⟨fun replaces => process_eq_visits .., ?_, ?_, replacing_extends_reporting, ?_⟩
  · intro cause refused
    simp only [reporting, process, refused]
  · intro error failed
    rcases process_cases config (recording answer) command path source [] with
      ⟨other, kinds, after, ended⟩ | ⟨unit, answers, after, parsed, asked⟩
    · have same : replacing = reporting := (ended true).trans (ended false).symm
      rw [show reporting = _ from ended false] at failed
      cases failed
      exact ⟨same, kinds⟩
    · rw [show reporting = _ from process_reporting parsed asked] at failed
      cases failed
  · intro unit parsed sites
    refine ⟨snd_process_reporting parsed, ?_⟩
    intro reported replaced isReported isReplaced
    rcases failures_replacing_reporting parsed isReported isReplaced with ⟨sublist, perm⟩
    refine ⟨sublist, perm, ?_⟩
    rw [exitCode_eq_one_iff, exitCode_eq_one_iff]
    intro some none
    rw [none, List.sublist_nil] at sublist
    exact some sublist

end Agreement

/-- Of three queries one is rejected in both runs, and one belongs to a template whose verb
the output does not keep. -/
theorem process_replacing_reporting_lost_verb :
    let answer : String → String → Except Command.Error Command.Answer := fun _ query =>
      .ok (if query = "r" then ⟨"no", 1⟩ else ⟨"xyz", 0⟩)
    let reporting := process {} (recording answer) "c" "q.go" threeQueries false []
    let replacing := process {} (recording answer) "c" "q.go" threeQueries true []
    ∃ reported replaced, reporting.1 = .ok reported ∧ replacing.1 = .ok replaced ∧
      reporting.2 = [("c", "q"), ("c", "-999"), ("c", "r")] ∧
      reported.failures = [⟨"no", ⟨1, 47⟩, "r"⟩] ∧
      reported.failures.Sublist replaced.failures ∧
      replaced.failures.Perm
        (reported.failures ++ [⟨placeholdersChanged, ⟨1, 37⟩, "-999"⟩]) := by
  intro answer reporting replacing
  rcases exists_located_threeQueries with ⟨tree, parsed, located⟩
  have answered : Answered (recording answer) "c" (Site.locate {} threeQueries.toList tree) []
      [⟨"xyz", 0⟩, ⟨"xyz", 0⟩, ⟨"no", 1⟩] [("c", "q"), ("c", "-999"), ("c", "r")] := by
    rw [located]
    exact answered_of_ask (by decide +kernel)
  have reported : reporting.1 = .ok ⟨"q.go", none, [⟨"no", ⟨1, 47⟩, "r"⟩], false⟩ := by
    rw [show reporting = _ from process_eq parsed rfl located (located ▸ answered)]
    decide +kernel
  have replaced : replacing.1 = .ok ⟨"q.go",
      some "p.Statement\x7bSQL:\"xyz\",SQL:fmt.Sprintf(\"%d\"),SQL:`r`\x7d\n",
      [⟨placeholdersChanged, ⟨1, 37⟩, "-999"⟩, ⟨"no", ⟨1, 47⟩, "r"⟩], true⟩ := by
    rw [show replacing = _ from process_eq parsed rfl located (located ▸ answered)]
    decide +kernel
  have accepted : SourceUnit.ofSource "q.go" threeQueries =
      .ok { path := "q.go", source := threeQueries, tree } := by
    rw [SourceUnit.ofSource, parsed]
  rcases (process_replacing_reporting {} answer "c" "q.go" threeQueries).2.2.2.2 _ accepted with
    ⟨given, reports⟩
  rcases reports _ _ reported replaced with ⟨sublist, perm, -⟩
  rw [sites_locate, located] at given perm
  refine ⟨_, _, reported, replaced, ?_, rfl, sublist, ?_⟩
  · exact given.trans (by decide +kernel)
  · exact perm.trans (.of_eq (by decide +kernel))

end QueryPipe.Run
