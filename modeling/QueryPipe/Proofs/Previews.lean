import QueryPipe.Proofs.RunWrites

/-! The printed differences are those between the files as they are and the files as the
mode that writes would leave them. -/

namespace QueryPipe.Run

namespace Sink

/-- The texts of a list that reach a sink. -/
abbrev reaching (texts : List String) : List String :=
  texts.filter (!·.isEmpty)

theorem join_reaching (texts : List String) : String.join (reaching texts) = String.join texts := by
  induction texts with
  | nil => rfl
  | cons text texts induction =>
      rw [reaching, List.filter_cons]
      split
      · rw [String.join_cons, String.join_cons, induction]
      · rename_i empty
        have isEmpty : text = "" := by
          simpa using empty
        rw [induction, String.join_cons, isEmpty, String.empty_append]

/-- A text that is taken stands after all others, unless it is empty. -/
theorem written_write {sink : Sink} {text : String} (taken : (sink.write text).failure? = none) :
    (sink.write text).written = sink.written ++ reaching [text] := by
  rw [write] at taken ⊢
  cases failed : sink.failure? with
  | some failure =>
      simp only [failed] at taken
      cases taken
  | none =>
      simp only [failed] at taken ⊢
      by_cases empty : text.isEmpty
      · simp [empty]
      · simp only [if_neg empty] at taken ⊢
        cases refusal : sink.refusal? (sink.written ++ [text]) with
        | some refusal =>
            simp only [refusal] at taken
            cases taken
        | none => simp [empty]

end Sink

/-! ## Printing -/

/-- A file as it is and as it would be written. -/
structure Preview where
  path : String
  before : String
  after : String

namespace Preview

/-- How the two contents differ. -/
def render (preview : Preview) : String :=
  Patch.unified preview.path preview.before preview.after

/-- A preview shows a result against the file it would replace. -/
structure Shows [Files.WorkingDirectory] (preview : Preview) (tree : Files.Node) (limit : Nat)
    (result : FileResult) : Prop where
  path : preview.path = result.path
  read : Files.readText tree preview.path limit = .ok preview.before
  output : result.output = some preview.after

end Preview

section Printing

variable [Files.WorkingDirectory] {tree : Files.Node} {limit : Nat}

/-- Where the sink takes all, the files that have an output are printed in order, up to one
that cannot be read. -/
theorem printDiffs_previews {results : List FileResult} (sink : Sink)
    (taken : (printDiffs limit tree results sink).2.failure? = none) :
    ∃ previews : List Preview,
      previews.map Preview.path <+: (results.filter (·.output.isSome)).map (·.path) ∧
      ((printDiffs limit tree results sink).1 = none →
        previews.map Preview.path = (results.filter (·.output.isSome)).map (·.path)) ∧
      (∀ preview ∈ previews, ∃ result ∈ results, preview.Shows tree limit result) ∧
      (printDiffs limit tree results sink).2.written =
        sink.written ++ Sink.reaching (previews.map Preview.render) := by
  induction results generalizing sink with
  | nil => exact ⟨[], List.prefix_rfl, fun _ => rfl, by simp, (List.append_nil _).symm⟩
  | cons result rest induction =>
      cases isOutput : result.output with
      | none =>
          have skipped : (result :: rest).filter (·.output.isSome) =
              rest.filter (·.output.isSome) :=
            List.filter_cons_of_neg (by simp [isOutput])
          simp only [printDiffs, isOutput] at taken ⊢
          rw [skipped]
          rcases induction sink taken with ⟨previews, front, all, shown, printed⟩
          refine ⟨previews, front, all, ?_, printed⟩
          intro preview member
          rcases shown preview member with ⟨other, inRest, shows⟩
          exact ⟨other, List.mem_cons_of_mem result inRest, shows⟩
      | some output =>
          have listed : (result :: rest).filter (·.output.isSome) =
              result :: rest.filter (·.output.isSome) :=
            List.filter_cons_of_pos (by simp [isOutput])
          rw [listed]
          cases read : Files.readText tree result.path limit with
          | error cause =>
              simp only [printDiffs, isOutput, read]
              refine ⟨[], List.nil_prefix, ?_, by simp, (List.append_nil _).symm⟩
              intro unfailing
              cases unfailing
          | ok source =>
              simp only [printDiffs, isOutput, read] at taken ⊢
              cases failed : (sink.write (Patch.unified result.path source output)).failure? with
              | some failure =>
                  simp only [failed] at taken
                  cases taken
              | none =>
                  simp only [failed] at taken ⊢
                  rcases induction _ taken with ⟨previews, front, all, shown, printed⟩
                  refine ⟨⟨result.path, source, output⟩ :: previews,
                    List.cons_prefix_cons.mpr ⟨rfl, front⟩,
                    fun unfailing => congrArg (result.path :: ·) (all unfailing), ?_, ?_⟩
                  · intro preview member
                    rcases List.mem_cons.mp member with rfl | member
                    · exact ⟨result, List.mem_cons_self, rfl, read, isOutput⟩
                    · rcases shown preview member with ⟨other, inRest, shows⟩
                      exact ⟨other, List.mem_cons_of_mem result inRest, shows⟩
                  · rw [printed, Sink.written_write failed, List.append_assoc,
                      ← List.filter_append, List.map_cons, List.singleton_append]
                    rfl

/-- Where the files can be read, only the sink can end the printing. -/
theorem printDiffs_of_readable {results : List FileResult}
    (readable : ∀ result ∈ results, ∃ source, Files.readText tree result.path limit = .ok source)
    (sink : Sink) (taken : (printDiffs limit tree results sink).2.failure? = none) :
    (printDiffs limit tree results sink).1 = none := by
  induction results generalizing sink with
  | nil => rfl
  | cons result rest induction =>
      have readableRest := fun other member => readable other (List.mem_cons_of_mem result member)
      rcases readable result List.mem_cons_self with ⟨source, read⟩
      cases isOutput : result.output with
      | none =>
          simp only [printDiffs, isOutput] at taken ⊢
          exact induction readableRest sink taken
      | some output =>
          simp only [printDiffs, isOutput, read] at taken ⊢
          cases failed : (sink.write (Patch.unified result.path source output)).failure? with
          | some failure =>
              simp only [failed] at taken
              cases taken
          | none =>
              simp only [failed] at taken ⊢
              exact induction readableRest _ taken

/-- A run that prints differences ends as the printing does. -/
theorem sink_conclude_diff {report : Report} (accepted : report.verdict? = none)
    (fates : String → Files.Fate) :
    (conclude .diff limit report tree fates).2.1 =
      (printDiffs limit tree report.changed report.sink).2 := by
  simp only [conclude, accepted]
  split <;> rename_i ends <;> rw [ends]

/-- A run that prints differences and whose sink takes all succeeds. -/
theorem conclude_diff_of_readable {report : Report} {fates : String → Files.Fate}
    (accepted : report.verdict? = none)
    (readable : ∀ result ∈ report.changed,
      ∃ source, Files.readText tree result.path limit = .ok source)
    (taken : (conclude .diff limit report tree fates).2.1.failure? = none) :
    (conclude .diff limit report tree fates).1 = .ok (summary report []) := by
  rw [sink_conclude_diff accepted] at taken
  have unfailing := printDiffs_of_readable readable report.sink taken
  simp only [conclude, accepted]
  split
  · rename_i ends
    rw [ends] at unfailing
    cases unfailing
  · rfl

theorem conclude_diff_spec {report : Report} {fates : String → Files.Fate}
    (accepted : report.verdict? = none)
    (changed : ∀ result ∈ report.changed, result.output.isSome)
    (readable : ∀ result ∈ report.changed,
      ∃ source, Files.readText tree result.path limit = .ok source)
    (taken : (conclude .diff limit report tree fates).2.1.failure? = none) :
    (conclude .diff limit report tree fates).1 = .ok (summary report []) ∧
      ∃ previews : List Preview, previews.map Preview.path = report.changed.map (·.path) ∧
        (∀ preview ∈ previews, ∃ result ∈ report.changed, preview.Shows tree limit result) ∧
        (conclude .diff limit report tree fates).2.1.written =
          report.sink.written ++ Sink.reaching (previews.map Preview.render) := by
  refine ⟨conclude_diff_of_readable accepted readable taken, ?_⟩
  rw [sink_conclude_diff accepted] at taken ⊢
  have unfailing := printDiffs_of_readable readable report.sink taken
  rcases printDiffs_previews report.sink taken with ⟨previews, -, all, shown, printed⟩
  have allChanged := List.filter_eq_self.mpr changed
  exact ⟨previews, (all unfailing).trans (congrArg _ allChanged), shown, printed⟩

end Printing

/-! ## Both modes -/

section Modes

variable [Files.WorkingDirectory] {config : Config} {run : Command.Runner Files.Node}
  {command : String} {paths : List String} {tree : Files.Node}

/-- Each file's outcome, where commands touch no file. -/
theorem outcomesOf_processFile (replaces : Bool) (paths : List String) (tree : Files.Node) :
    OutcomesOf paths
      (paths.map fun path => (processFile config run command path replaces tree).1) := by
  rw [OutcomesOf, List.forall₂_map_right_iff, List.forall₂_same]
  intro path _ result processed
  exact (exists_read_of_processFile processed).1.1

/-- A changed file can be read, and there is an output to take its place. -/
theorem readable_of_mem_changed {replaces : Bool} {result : FileResult}
    (member : result ∈ (paths.map fun path =>
      (processFile config run command path replaces tree).1).filterMap changed?) :
    result.output.isSome ∧
      ∃ source, Files.readText tree result.path config.limit = .ok source := by
  rcases mem_changed.mp member with ⟨inOutcomes, changes⟩
  rcases List.mem_map.mp inOutcomes with ⟨path, -, processed⟩
  rcases exists_read_of_processFile processed with ⟨⟨rfl, isChanged⟩, readable⟩
  exact ⟨isChanged.symm.trans changes, readable⟩

/-- No write fails just if every output comes to stand in its file. -/
theorem WrittenBack.isWritten {after : Files.Node} {fates : String → Files.Fate}
    {results : List FileResult} (back : WrittenBack tree fates results [] after)
    {result : FileResult} (member : result ∈ results) {output : String}
    (isOutput : result.output = some output) : result.isWritten tree fates := by
  have none := List.map_eq_nil_iff.mp back.failed.symm
  simpa [isOutput] using List.filter_eq_nil_iff.mp none result member

/-- A file whose output is written reads as that output. -/
theorem WrittenBack.readBytes_of_isWritten {after : Files.Node} {fates : String → Files.Fate}
    {results : List FileResult} {failures : List WriteFailure}
    (back : WrittenBack tree fates results failures after)
    (apart : results.Pairwise fun left right => Files.Apart tree left.path right.path)
    {result : FileResult} (member : result ∈ results) {output : String}
    (isOutput : result.output = some output) (written : result.isWritten tree fates) :
    Files.readBytes after result.path = .ok (Text.Utf8.encode output) := by
  rw [isWritten_eq, Bool.and_eq_true] at written
  rw [back.readBytes apart member isOutput written.1]
  cases fate : fates result.path with
  | done => rfl
  | refused | brokenOff =>
      rw [fate] at written
      cases written.2

/-- One mode prints how files differ from what the other mode writes. Both fail alike, or
both succeed with the same reports and the same totals; then the first prints after the
reports, for each changed file in order, how it differs from what the other, if all its
writes succeed, leaves there. -/
theorem diff_previews_fmt (harmless : run.Harmless) (apart : paths.Pairwise (Files.Apart tree))
    (sink : Sink) (fates : String → Files.Fate)
    (taken : (batch config run command .diff paths sink tree).2.1.failure? = none) :
    let previewed := batch config run command .diff paths sink tree
    let formatted := batch config run command .fmt paths sink tree fates
    (∀ error, previewed.1 = .error error ∨ formatted.1 = .error error →
      previewed.1 = formatted.1 ∧ previewed.2.1 = formatted.2.1) ∧
    (∀ summary, formatted.1 = .ok summary →
      previewed.1 = .ok { summary with writeErrors := [] } ∧
      ∃ previews : List Preview,
        previews.map Preview.path = summary.changed ∧
        (∀ preview ∈ previews,
          Files.readText tree preview.path config.limit = .ok preview.before ∧
          (summary.writeErrors = [] →
            Files.readBytes formatted.2.2 preview.path =
              .ok (Text.Utf8.encode preview.after))) ∧
        previewed.2.1.written =
          formatted.2.1.written ++ Sink.reaching (previews.map Preview.render) ∧
        previewed.2.1.text =
          formatted.2.1.text ++ String.join (previews.map Preview.render)) := by
  intro previewed formatted
  let outcomes := paths.map fun path => (processFile config run command path true tree).1
  let report := Report.collect sink (indexed outcomes)
  have isPreviewed : previewed = conclude .diff config.limit report tree := batch_eq harmless ..
  have isFormatted : formatted = conclude .fmt config.limit report tree fates :=
    batch_eq harmless ..
  have isChanged : report.changed = outcomes.filterMap changed? :=
    Report.changed_collect (.refl _) sink
  change previewed.2.1.failure? = none at taken
  cases verdict : report.verdict? with
  | some error =>
      have same : previewed.1 = formatted.1 ∧ previewed.2.1 = formatted.2.1 := by
        simp only [isPreviewed, isFormatted, conclude, verdict, and_self]
      refine ⟨fun _ _ => same, ?_⟩
      intro summary succeeded
      rw [isFormatted] at succeeded
      exact absurd (verdict?_of_ok succeeded) (by simp [verdict])
  | none =>
      have readable : ∀ result ∈ report.changed, result.output.isSome ∧
          ∃ source, Files.readText tree result.path config.limit = .ok source :=
        fun _ member => readable_of_mem_changed (isChanged ▸ member)
      rw [isPreviewed] at taken
      rcases conclude_diff_spec verdict (fun result member => (readable result member).1)
        (fun result member => (readable result member).2) taken with
        ⟨succeeds, previews, samePaths, shown, written⟩
      rw [← isPreviewed] at succeeds written
      rw [conclude_fmt verdict] at isFormatted
      refine ⟨?_, ?_⟩
      · intro error failed
        rw [succeeds, isFormatted] at failed
        rcases failed with failed | failed <;> cases failed
      · intro summary succeeded
        rw [isFormatted] at succeeded
        cases succeeded
        have named : OutcomesOf paths outcomes := outcomesOf_processFile true paths tree
        have changedApart := named.apart_changed apart
        rw [← isChanged] at changedApart
        refine ⟨succeeds, previews, samePaths, ?_, ?_, ?_⟩
        · intro preview member
          rcases shown preview member with ⟨result, inChanged, shows⟩
          refine ⟨shows.read, ?_⟩
          intro unrefused
          have back := @writtenBack_writeBack _ tree fates report.changed changedApart
          rw [show (writeBack fates report.changed tree).1 = [] from unrefused] at back
          rw [isFormatted, shows.path]
          exact back.readBytes_of_isWritten changedApart inChanged shows.output
            (back.isWritten inChanged shows.output)
        · rw [written, isFormatted]
        · rw [Sink.text, written, isFormatted, String.join_append, Sink.join_reaching]
          rfl

end Modes

/-- Two files are changed. The query of a third between them is rejected, so that both modes
have something to report. -/
theorem diff_previews_fmt_statements :
    let _ : Files.WorkingDirectory := ⟨["home"]⟩
    let content (query : String) : Files.Node :=
      .file (Text.Utf8.encode ("p.Statement\x7bSQL:\"" ++ query ++ "\"\x7d\n")) false
    let tree : Files.Node := .directory
      [("home", .directory [("a.go", content "q"), ("b.go", content "x"), ("c.go", content "qq")])]
    let run : Command.Runner Files.Node := fun _ query world =>
      (.ok ⟨query ++ "r", if query = "x" then 1 else 0⟩, world)
    let paths := ["a.go", "/home/b.go", "/home/c.go"]
    let formatted := batch {} run "c" .fmt paths {} tree
    ∃ first second : Preview, first.path = "a.go" ∧ second.path = "/home/c.go" ∧
      (batch {} run "c" .diff paths {} tree).2.1.text =
        formatted.2.1.text ++ (first.render ++ second.render) ∧
      formatted.2.1.text = "/home/b.go:1:17:\nx\nxr\n" ∧
      ∀ preview ∈ [first, second],
        Files.readBytes formatted.2.2 preview.path = .ok (Text.Utf8.encode preview.after) := by
  intro _ content tree run paths formatted
  have harmless : run.Harmless := fun _ _ _ => rfl
  have opened : paths.map (Files.opened? tree) =
      [some (["home", "a.go"], false), some (["home", "b.go"], false),
        some (["home", "c.go"], false)] := by
    decide +kernel
  simp only [paths, List.map_cons, List.map_nil, List.cons.injEq, and_true] at opened
  rcases opened with ⟨openedA, openedB, openedC⟩
  have apart : paths.Pairwise (Files.Apart tree) := by
    simp [paths, Files.Apart, openedA, openedB, openedC]
  have taken : (batch {} run "c" .diff paths {} tree).2.1.failure? = none := by
    decide +kernel
  have succeeded : formatted.1 = .ok ⟨1, 3, 1, ["a.go", "/home/c.go"], []⟩ := by
    decide +kernel
  rcases (diff_previews_fmt harmless apart {} (fun _ => .done) taken).2 _ succeeded with
    ⟨-, previews, isPath, shown, -, printed⟩
  rcases List.map_eq_cons_iff.mp isPath with ⟨first, others, rfl, isFirst, isPath⟩
  rcases List.map_eq_singleton_iff.mp isPath with ⟨second, rfl, isSecond⟩
  refine ⟨first, second, isFirst, isSecond, ?_, ?_, ?_⟩
  · rw [printed, List.map_cons, List.map_singleton, String.join_cons, String.join_cons,
      String.join_nil, String.append_empty]
  · decide +kernel
  · intro preview member
    exact (shown preview member).2 rfl

end QueryPipe.Run
