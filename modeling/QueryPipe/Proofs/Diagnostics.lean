import QueryPipe.Proofs.Previews

/-! What a run prints about rejected queries, and its totals, where no file was ended by an
error. Files without rejected queries leave no trace in the text. -/

namespace QueryPipe.Run

/-! ## The reports of some files -/

/-- A rejected query as it is reported. -/
def Failure.describe (path : String) (failure : Failure) : String :=
  path ++ ":" ++ toString failure.position.line ++ ":" ++ toString failure.position.column ++
    ":\n" ++ failure.query ++ "\n" ++ failure.message

namespace FileResult

def hasFailures (result : FileResult) : Bool := !result.failures.isEmpty

/-- The reports of a file, with one blank line between any two. -/
def describe (result : FileResult) : String :=
  "\n\n".intercalate (result.failures.map (Failure.describe result.path)) ++ "\n"

theorem describe_eq (result : FileResult) : result.describe = result.render ++ "\n" := by
  have blocks : Failure.describe result.path = block result.path := by
    funext failure
    simp only [Failure.describe, block, Text.Position.render, String.append_assoc]
    rfl
  rw [describe, render, blocks]

end FileResult

theorem join_intercalate (separator : String) (groups : List (List String)) :
    String.join ([separator].intercalate groups) =
      separator.intercalate (groups.map String.join) := by
  induction groups with
  | nil => rfl
  | cons group groups induction =>
      cases groups with
      | nil => rw [List.intercalate_singleton, List.map_singleton, String.intercalate_singleton]
      | cons next groups =>
          rw [List.intercalate_cons_cons, String.join_append, String.join_append, induction,
            String.join_cons, String.join_nil, String.append_empty]
          simp only [List.map_cons, String.intercalate_cons_cons]

namespace FileResult

/-- The pieces of a file's reports make them up. -/
theorem join_pieces (result : FileResult) : String.join result.pieces = result.render := by
  have blocks : String.join ∘ blockPieces result.path = block result.path := by
    funext failure
    simp [blockPieces, block, Text.Position.pieces, Text.Position.render, String.append_assoc]
    rfl
  rw [pieces, join_intercalate, List.map_map, blocks, render]

end FileResult

/-- The reports of all files that have any, with one blank line between any two. -/
def diagnostics (results : List FileResult) : String :=
  "\n".intercalate ((results.filter (·.hasFailures)).map (·.describe))

def rejections (results : List FileResult) : Nat :=
  (results.flatMap (·.failures)).length

theorem rejections_concat (results : List FileResult) (result : FileResult) :
    rejections (results ++ [result]) = rejections results + result.failures.length := by
  rw [rejections, List.flatMap_append, List.length_append, List.flatMap_singleton]
  rfl

theorem diagnostics_concat_clean (results : List FileResult) {result : FileResult}
    (clean : result.hasFailures = false) :
    diagnostics (results ++ [result]) = diagnostics results := by
  rw [diagnostics, List.filter_append, List.filter_singleton, clean, cond_false, List.append_nil]
  rfl

/-- What separates a file's reports from those before them depends on whether there are any,
not on how many files came before. -/
theorem diagnostics_concat_failing (results : List FileResult) {result : FileResult}
    (failing : result.hasFailures) :
    diagnostics (results ++ [result]) =
      diagnostics results ++ String.join (Report.texts (results.any (·.hasFailures)) result) := by
  have join_newline : String.join ["\n"] = "\n" := by
    rw [String.join_cons, String.join_nil, String.append_empty]
  rw [diagnostics, diagnostics, List.filter_append, List.filter_singleton, failing, cond_true,
    List.map_append, List.map_singleton, Report.texts, String.join_append, String.join_append,
    FileResult.join_pieces, String.append_assoc, join_newline, ← FileResult.describe_eq]
  cases reported : results.any (·.hasFailures) with
  | false =>
      have none : results.filter (·.hasFailures) = [] := by
        simpa [List.filter_eq_nil_iff] using reported
      simp [none]
  | true =>
      have some : (results.filter (·.hasFailures)).map (·.describe) ≠ [] := by
        simpa [List.filter_eq_nil_iff] using reported
      rw [String.intercalate_append_of_ne_nil some (List.cons_ne_nil _ _)]
      simp [String.append_assoc]

/-! ## One result after the other -/

namespace Sink

theorem text_write {sink : Sink} {text : String} (taken : (sink.write text).failure? = none) :
    (sink.write text).text = sink.text ++ text := by
  rw [Sink.text, written_write taken, String.join_append, join_reaching, String.join_cons,
    String.join_nil, String.append_empty]
  rfl

theorem failure?_of_writeAll {sink : Sink} {texts : List String}
    (taken : (sink.writeAll texts).failure? = none) : sink.failure? = none := by
  cases failed : sink.failure? with
  | none => rfl
  | some failure =>
      rw [writeAll_of_failure failed, failed] at taken
      cases taken

theorem text_writeAll {sink : Sink} {texts : List String}
    (taken : (sink.writeAll texts).failure? = none) :
    (sink.writeAll texts).text = sink.text ++ String.join texts := by
  induction texts generalizing sink with
  | nil => rw [String.join_nil, String.append_empty]; rfl
  | cons text texts induction =>
      have first : (sink.write text).failure? = none := failure?_of_writeAll taken
      rw [writeAll, List.foldl_cons, ← writeAll, induction taken, text_write first,
        String.join_cons, String.append_assoc]

end Sink

namespace Report

/-- A report accounts for some results: it has printed their diagnostics and counted them. -/
structure Accounts (start : Sink) (results : List FileResult) (report : Report) : Prop where
  text : report.sink.failure? = none → report.sink.text = start.text ++ diagnostics results
  hasPrinted : report.hasPrinted = results.any (·.hasFailures)
  files : report.files = results.length
  failures : report.failures = rejections results
  exitCode : report.exitCode = if 0 < rejections results then 1 else 0

section Accepting

variable {start : Sink} {results : List FileResult} {report : Report}

theorem accounts_start (start : Sink) : Accounts start [] { sink := start } where
  text _ := by rw [diagnostics, List.filter_nil, List.map_nil, String.intercalate_nil,
    String.append_empty]
  hasPrinted := rfl
  files := rfl
  failures := rfl
  exitCode := rfl

theorem exitCode_eq_zero_iff (result : FileResult) :
    (result.exitCode == 0) = !result.hasFailures := by
  rw [FileResult.exitCode, FileResult.hasFailures]
  cases result.failures <;> rfl

theorem max_exitCode (count : Nat) (result : FileResult) :
    max (if 0 < count then 1 else 0) result.exitCode =
      if 0 < count + result.failures.length then 1 else 0 := by
  rw [FileResult.exitCode]
  cases result.failures with
  | nil => rw [List.isEmpty_nil, if_pos rfl, List.length_nil, Nat.add_zero, Nat.max_zero]
  | cons failure failures =>
      have some : 0 < count + (failure :: failures).length := by
        rw [List.length_cons]
        omega
      rw [List.isEmpty_cons, if_neg Bool.false_ne_true, if_pos some]
      split <;> rfl

theorem Accounts.accept (accounts : Accounts start results report) (index : Nat)
    (result : FileResult) :
    Accounts start (results ++ [result]) (report.accept (index, .ok result)) := by
  have counted : (report.count result).exitCode =
      if 0 < rejections (results ++ [result]) then 1 else 0 := by
    rw [rejections_concat, ← max_exitCode, ← accounts.exitCode]
    rfl
  have files : (report.count result).files = (results ++ [result]).length := by
    rw [List.length_append, List.length_singleton, ← accounts.files]
    rfl
  have failures : (report.count result).failures = rejections (results ++ [result]) := by
    rw [rejections_concat, ← accounts.failures]
    rfl
  rw [Report.accept, exitCode_eq_zero_iff]
  cases failing : result.hasFailures with
  | false =>
      refine ⟨?_, ?_, files, failures, counted⟩
      · intro taken
        rw [diagnostics_concat_clean results failing]
        exact accounts.text taken
      · rw [List.any_append, List.any_cons, failing, List.any_nil, Bool.or_false, Bool.or_false]
        exact accounts.hasPrinted
  | true =>
      refine ⟨?_, ?_, files, failures, counted⟩
      · intro taken
        rw [diagnostics_concat_failing results failing, ← accounts.hasPrinted,
          ← String.append_assoc, ← accounts.text (Sink.failure?_of_writeAll taken)]
        exact Sink.text_writeAll taken
      · rw [List.any_append, List.any_cons, failing, Bool.true_or, Bool.or_true]
        rfl

/-- The induction is on the results still to come; those accounted for grow at their end. -/
theorem Accounts.foldl_accept (accounts : Accounts start results report)
    {rest : List FileResult} {entries : List (Nat × Outcome)}
    (unfailing : entries.map Prod.snd = rest.map .ok) :
    Accounts start (results ++ rest) (entries.foldl Report.accept report) := by
  induction rest generalizing results report entries with
  | nil =>
      rw [List.map_nil, List.map_eq_nil_iff] at unfailing
      rw [unfailing, List.append_nil]
      exact accounts
  | cons result rest induction =>
      rcases List.map_eq_cons_iff.mp unfailing with ⟨⟨index, outcome⟩, others, rfl, isOk, othersOk⟩
      cases isOk
      rw [List.foldl_cons, List.append_cons]
      exact induction (accounts.accept index result) othersOk

end Accepting

section Collected

variable {results : List FileResult} {arrivals : List (Nat × Outcome)}

theorem accounts_collect (arrived : arrivals.Perm (indexed (results.map .ok))) (sink : Sink) :
    Accounts sink results (collect sink arrivals) := by
  rw [collect, inOrder_eq arrived]
  exact (accounts_start sink).foldl_accept (map_snd_indexed _)

theorem changed_collect_ok (arrived : arrivals.Perm (indexed (results.map .ok))) (sink : Sink) :
    (collect sink arrivals).changed = results.filter (·.isChanged) := by
  rw [changed_collect arrived, List.filterMap_map, ← List.filterMap_eq_filter]
  apply List.filterMap_congr
  intro result _
  rw [Function.comp_apply, changed?, Option.guard_apply]

theorem firstError?_collect_ok (arrived : arrivals.Perm (indexed (results.map .ok)))
    (sink : Sink) : (collect sink arrivals).firstError? = none := by
  rw [firstError?_collect arrived, Option.map_eq_none_iff, List.findSome?_eq_none_iff]
  rintro ⟨index, outcome⟩ member
  have isOk : outcome ∈ results.map .ok := by
    rw [← map_snd_indexed (results.map .ok)]
    exact List.mem_map_of_mem member
  rcases List.mem_map.mp isOk with ⟨result, -, rfl⟩
  rfl

end Collected

end Report

/-! ## Whole runs -/

section Whole

variable [Files.WorkingDirectory] {results : List FileResult} {arrivals : List (Nat × Outcome)}
  {limit : Nat} {sink : Sink} {tree : Files.Node} {fates : String → Files.Fate}

theorem failure?_of_conclude {mode : Mode} {report : Report}
    (taken : (conclude mode limit report tree fates).2.1.failure? = none) :
    report.sink.failure? = none := by
  cases failed : report.sink.failure? with
  | none => rfl
  | some failure =>
      rw [conclude_of_failure failed, failed] at taken
      cases taken

/-- After its reports an accepted run prints differences in one mode, and nothing in the
others. -/
theorem text_conclude {mode : Mode} {report : Report} (accepted : report.verdict? = none)
    (taken : (conclude mode limit report tree fates).2.1.failure? = none) :
    ∃ previews : List Preview,
      (conclude mode limit report tree fates).2.1.text =
        report.sink.text ++ String.join (previews.map Preview.render) ∧
      (mode ≠ .diff → previews = []) ∧
      previews.map Preview.path <+: (report.changed.filter (·.output.isSome)).map (·.path) ∧
      ∀ preview ∈ previews, ∃ result ∈ report.changed, preview.Shows tree limit result := by
  cases mode with
  | lint | fmt =>
      refine ⟨[], ?_, fun _ => rfl, List.nil_prefix, by simp⟩
      simp only [conclude, accepted, List.map_nil, String.join_nil, String.append_empty]
  | diff =>
      rw [sink_conclude_diff accepted] at taken ⊢
      rcases printDiffs_previews report.sink taken with ⟨previews, front, -, shown, printed⟩
      refine ⟨previews, ?_, fun other => absurd rfl other, front, shown⟩
      rw [Sink.text, printed, String.join_append, Sink.join_reaching]
      rfl

theorem exists_summary_of_ok {mode : Mode} {report : Report} {ending : Summary}
    (succeeded : (conclude mode limit report tree fates).1 = .ok ending) :
    ∃ writeErrors, ending = summary report writeErrors := by
  have accepted := verdict?_of_ok succeeded
  simp only [conclude, accepted] at succeeded
  cases mode with
  | lint | fmt =>
      cases succeeded
      exact ⟨_, rfl⟩
  | diff =>
      simp only at succeeded
      split at succeeded
      · cases succeeded
      · cases succeeded
        exact ⟨[], rfl⟩

theorem exists_ok_conclude {mode : Mode} {report : Report} (accepted : report.verdict? = none)
    (readable : mode = .diff → ∀ result ∈ report.changed,
      ∃ source, Files.readText tree result.path limit = .ok source)
    (taken : (conclude mode limit report tree fates).2.1.failure? = none) :
    ∃ ending, (conclude mode limit report tree fates).1 = .ok ending := by
  cases mode with
  | lint | fmt =>
      simp only [conclude, accepted]
      exact ⟨_, rfl⟩
  | diff => exact ⟨_, conclude_diff_of_readable accepted (readable rfl) taken⟩

/-- A run all of whose files come to a result, and whose sink takes all, prints the reports of
the files that have any, then differences if it is to show them; a file without rejected
queries leaves no trace among the reports. It can fail only over a changed file that cannot be
read again, and its totals are those of all files. -/
theorem settle_diagnostics (arrived : arrivals.Perm (indexed (results.map .ok))) (mode : Mode)
    (taken : (settle mode limit sink arrivals tree fates).2.1.failure? = none) :
    let ended := settle mode limit sink arrivals tree fates
    (∃ previews : List Preview,
      ended.2.1.text =
        sink.text ++ diagnostics results ++ String.join (previews.map Preview.render) ∧
      (mode ≠ .diff → previews = []) ∧
      previews.map Preview.path <+:
        (results.filter fun result => result.output.isSome && result.isChanged).map (·.path) ∧
      ∀ preview ∈ previews, ∃ result ∈ results, preview.Shows tree limit result) ∧
    ((mode = .diff → ∀ result ∈ results, result.isChanged →
        ∃ source, Files.readText tree result.path limit = .ok source) →
      ∃ summary, ended.1 = .ok summary) ∧
    (∀ summary, ended.1 = .ok summary →
      summary.files = results.length ∧
      summary.failures = (results.flatMap (·.failures)).length ∧
      summary.exitCode = (if 0 < summary.failures then 1 else 0) ∧
      summary.changed = (results.filter (·.isChanged)).map (·.path)) ∧
    ∀ config run command paths before, config.limit = limit →
      processAll config run command mode.replaces paths before = (results.map .ok, tree) →
      batch config run command mode paths sink before fates = ended := by
  intro ended
  have accounts := Report.accounts_collect arrived sink
  have isChanged := Report.changed_collect_ok arrived sink
  have accepted : (Report.collect sink arrivals).verdict? = none := by
    rw [Report.verdict?, failure?_of_conclude taken]
    exact Report.firstError?_collect_ok arrived sink
  refine ⟨?_, ?_, ?_, ?_⟩
  · rcases text_conclude accepted taken with ⟨previews, text, elsewhere, front, shown⟩
    rw [isChanged, List.filter_filter] at front
    rw [isChanged] at shown
    refine ⟨previews, ?_, elsewhere, front, ?_⟩
    · exact text.trans (congrArg (· ++ _) (accounts.text (failure?_of_conclude taken)))
    · intro preview member
      rcases shown preview member with ⟨result, inChanged, shows⟩
      exact ⟨result, List.mem_of_mem_filter inChanged, shows⟩
  · intro readable
    apply exists_ok_conclude accepted _ taken
    intro isDiff result member
    rw [isChanged] at member
    exact readable isDiff result (List.mem_of_mem_filter member) (List.mem_filter.mp member).2
  · intro ending succeeded
    rcases exists_summary_of_ok succeeded with ⟨writeErrors, rfl⟩
    have exitCode := accounts.exitCode
    rw [← accounts.failures] at exitCode
    have changed := congrArg (List.map FileResult.path) isChanged
    exact ⟨accounts.files, accounts.failures, exitCode, changed⟩
  · intro config run command paths before isLimit processed
    rw [batch, processed, isLimit]
    exact (settle_indexed arrived mode limit sink tree fates).symm

end Whole

/-- Files with and without rejected queries in turn. -/
theorem settle_diagnostics_in_turn :
    let clean : FileResult := ⟨"a.go", none, [], false⟩
    let first : FileResult := ⟨"b.go", none, [⟨"no", ⟨1, 2⟩, "q"⟩, ⟨"never", ⟨3, 4⟩, "r"⟩], false⟩
    let changed : FileResult := ⟨"c.go", some "x", [], true⟩
    let last : FileResult := ⟨"d.go", none, [⟨"bad", ⟨5, 6⟩, "s"⟩], false⟩
    let arrivals : List (Nat × Outcome) :=
      [(2, .ok changed), (3, .ok last), (0, .ok clean), (1, .ok first)]
    let ended := settle .fmt 9 {} arrivals .empty
    ended.2.1.text =
      "b.go:1:2:\nq\nno\n\nb.go:3:4:\nr\nnever\n\nd.go:5:6:\ns\nbad\n" ∧
    ∃ summary, ended.1 = .ok summary ∧ summary.files = 4 ∧ summary.failures = 3 ∧
      summary.exitCode = 1 ∧ summary.changed = ["c.go"] := by
  intro clean first changed last arrivals
  have arrived : arrivals.Perm (indexed ([clean, first, changed, last].map .ok)) := by
    decide
  have taken : (settle .fmt 9 {} arrivals .empty).2.1.failure? = none := by
    decide +kernel
  have spec := settle_diagnostics arrived .fmt taken
  -- a comparison of two runs would evaluate them, so the run is given a name
  generalize settle .fmt 9 {} arrivals .empty = ended at spec ⊢
  rcases spec with ⟨⟨previews, text, none, -⟩, succeeds, totals, -⟩
  rw [none (by decide)] at text
  refine ⟨text.trans (by decide +kernel), ?_⟩
  rcases succeeds nofun with ⟨summary, succeeded⟩
  rcases totals summary succeeded with ⟨files, failures, exitCode, paths⟩
  rw [failures] at exitCode
  exact ⟨summary, succeeded, files, failures, exitCode, paths⟩

end QueryPipe.Run
