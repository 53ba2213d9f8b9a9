import Mathlib.Data.List.Pairwise
import QueryPipe.Proofs.ArrivalOrder
import QueryPipe.Proofs.FileWrites

/-! What a run leaves behind. A run that fails has written nothing; one that succeeds has
touched just the changed files, each of them whatever became of the others. -/

namespace QueryPipe

/-! ## Commands that touch no file -/

/-- Running commands changes nothing around them. -/
def Command.Runner.Harmless (run : Command.Runner World) : Prop :=
  ∀ command input world, (run command input world).2 = world

theorem Command.Runner.Harmless.eq {run : Command.Runner World} (harmless : run.Harmless)
    (command input : String) (world : World) :
    run command input world = ((run command input world).1, world) :=
  Prod.ext rfl (harmless command input world)

namespace Run

section Harmless

variable {config : Config} {run : Command.Runner World} {command : String}

theorem snd_ask (harmless : run.Harmless) (queries : List String) (world : World) :
    (ask run command queries world).2 = world := by
  induction queries with
  | nil => rfl
  | cons query queries induction =>
      rw [ask, harmless.eq]
      cases (run command query world).1 with
      | error => rfl
      | ok answer =>
          simp only
          split
          · rename_i asked
            rw [asked] at induction
            exact induction
          · rename_i asked
            rw [asked] at induction
            exact induction

theorem snd_canonicalize (harmless : run.Harmless) (formatter : Option String)
    (path source : String) (world : World) :
    (canonicalize run formatter path source world).2 = world := by
  rw [canonicalize]
  split
  · rfl
  · simp only
    split
    · rfl
    · rename_i line
      split
      · rfl
      · rw [harmless.eq]
        cases (run line (Text.endWithNewline source) world).1 <;> rfl

theorem snd_process (harmless : run.Harmless) (path source : String) (replaces : Bool)
    (world : World) : (process config run command path source replaces world).2 = world := by
  rw [process]
  split
  · rfl
  · rename_i parsed _
    have unchanged := @snd_ask _ run command harmless
      ((parsed.locate config.shape).sites.map queryOf) world
    simp only
    split
    · rename_i asked
      rwa [asked] at unchanged
    · rename_i answers next asked
      rw [asked] at unchanged
      cases unchanged
      split
      · split
        · rename_i canonical
          exact (congrArg Prod.snd canonical).symm.trans (snd_canonicalize harmless ..)
        · rename_i canonical
          exact (congrArg Prod.snd canonical).symm.trans (snd_canonicalize harmless ..)
      · rfl

/-- A result names its file, and it has an output just if the file is to be changed. -/
theorem fields_of_process {path source : String} {replaces : Bool} {world : World}
    {result : FileResult}
    (processed : (process config run command path source replaces world).1 = .ok result) :
    result.path = path ∧ result.isChanged = result.output.isSome := by
  rw [process] at processed
  split at processed
  · cases processed
  · simp only at processed
    split at processed
    · cases processed
    · split at processed
      · split at processed
        · cases processed
        · cases processed
          exact ⟨rfl, rfl⟩
      · cases processed
        exact ⟨rfl, rfl⟩

end Harmless

section Files

variable [Files.WorkingDirectory] {config : Config} {run : Command.Runner Files.Node}
  {command : String}

theorem snd_processFile (harmless : run.Harmless) (path : String) (replaces : Bool)
    (tree : Files.Node) : (processFile config run command path replaces tree).2 = tree := by
  rw [processFile]
  split
  · rfl
  · exact snd_process harmless ..

/-- A result that is come to is that of a file that has been read. -/
theorem exists_read_of_processFile {path : String} {replaces : Bool} {tree : Files.Node}
    {result : FileResult}
    (processed : (processFile config run command path replaces tree).1 = .ok result) :
    (result.path = path ∧ result.isChanged = result.output.isSome) ∧
      ∃ source, Files.readText tree path config.limit = .ok source := by
  rw [processFile] at processed
  split at processed
  · cases processed
  · rename_i source read
    exact ⟨fields_of_process processed, source, read⟩

/-- Where commands touch no file, each file is processed as the first one would be. -/
theorem processAll_eq (harmless : run.Harmless) (replaces : Bool) (paths : List String)
    (tree : Files.Node) :
    processAll config run command replaces paths tree =
      (paths.map fun path => (processFile config run command path replaces tree).1, tree) := by
  induction paths with
  | nil => rfl
  | cons path rest induction =>
      have first : processFile config run command path replaces tree =
          ((processFile config run command path replaces tree).1, tree) :=
        Prod.ext rfl (snd_processFile harmless path replaces tree)
      rw [processAll, first]
      simp only [induction, List.map_cons]

end Files

/-! ## What a report holds -/

/-- The result of an outcome that changes its file. -/
def changed? : Outcome → Option FileResult
  | .ok result => if result.isChanged then some result else none
  | .error _ => none

theorem mem_changed {outcomes : List Outcome} {result : FileResult} :
    result ∈ outcomes.filterMap changed? ↔ .ok result ∈ outcomes ∧ result.isChanged := by
  rw [List.mem_filterMap]
  constructor
  · rintro ⟨error | other, member, isChanged⟩
    · cases isChanged
    · rw [changed?] at isChanged
      split at isChanged
      · rename_i changes
        rcases Option.some.inj isChanged with rfl
        exact ⟨member, changes⟩
      · cases isChanged
  · rintro ⟨member, changes⟩
    exact ⟨.ok result, member, if_pos changes⟩

/-- The error of an outcome, with its index. -/
def failed? : Nat × Outcome → Option (Nat × Error)
  | (index, .error error) => some (index, error)
  | (_, .ok _) => none

/-- The error of the first file that has one. -/
def FirstError (outcomes : List Outcome) (error : Error) : Prop :=
  ∃ index : Nat, outcomes[index]? = some (.error error) ∧
    ∀ earlier < index, ∃ result, outcomes[earlier]? = some (.ok result)

namespace Report

theorem changed_foldl_accept (report : Report) (entries : List (Nat × Outcome)) :
    (entries.foldl accept report).changed =
      report.changed ++ entries.filterMap fun entry => changed? entry.2 := by
  induction entries generalizing report with
  | nil => exact (List.append_nil _).symm
  | cons entry rest induction =>
      rw [List.foldl_cons, induction, List.filterMap_cons]
      rcases entry with ⟨index, error | result⟩
      · rfl
      · have accepted : (report.accept (index, .ok result)).changed =
            if result.isChanged then report.changed ++ [result] else report.changed := by
          rw [accept]
          split <;> rfl
        rw [accepted, changed?]
        split <;> simp

theorem errors_foldl_accept (report : Report) (entries : List (Nat × Outcome)) :
    (entries.foldl accept report).errors = report.errors ++ entries.filterMap failed? := by
  induction entries generalizing report with
  | nil => exact (List.append_nil _).symm
  | cons entry rest induction =>
      rw [List.foldl_cons, induction, List.filterMap_cons]
      rcases entry with ⟨index, error | result⟩
      · simp [accept, failed?]
      · have accepted : (report.accept (index, .ok result)).errors = report.errors := by
          rw [accept]
          split <;> rfl
        rw [accepted, failed?]

/-- Of errors by increasing index the first is taken. -/
theorem foldl_earlier {errors : List (Nat × Error)} (increasing : errors.Pairwise (·.1 < ·.1)) :
    errors.foldl earlier none = errors.head? := by
  cases errors with
  | nil => rfl
  | cons first rest =>
      have least := (List.pairwise_cons.mp increasing).1
      have kept : rest.foldl earlier (some first) = some first := by
        clear increasing
        induction rest with
        | nil => rfl
        | cons entry rest induction =>
            have later := least entry List.mem_cons_self
            rw [List.foldl_cons, earlier, if_neg (Nat.not_lt_of_gt later)]
            exact induction fun other member => least other (List.mem_cons_of_mem entry member)
      exact kept

section Collected

variable {outcomes : List Outcome} {arrivals : List (Nat × Outcome)}

theorem map_snd_indexed (outcomes : List Outcome) : (indexed outcomes).map Prod.snd = outcomes := by
  apply List.ext_getElem?
  intro index
  simp [indexed, Function.comp_def]

theorem filterMap_indexed {β : Type} (choose : Outcome → Option β) (outcomes : List Outcome) :
    ((indexed outcomes).filterMap fun entry => choose entry.2) = outcomes.filterMap choose := by
  rw [← congrArg (List.filterMap choose) (map_snd_indexed outcomes), List.filterMap_map]
  rfl

theorem changed_collect (arrived : arrivals.Perm (indexed outcomes)) (sink : Sink) :
    (collect sink arrivals).changed = outcomes.filterMap changed? := by
  rw [collect, inOrder_eq arrived, changed_foldl_accept, filterMap_indexed, List.nil_append]

theorem firstError?_collect (arrived : arrivals.Perm (indexed outcomes)) (sink : Sink) :
    (collect sink arrivals).firstError? = ((indexed outcomes).findSome? failed?).map Prod.snd := by
  have increasing : ((indexed outcomes).filterMap failed?).Pairwise (·.1 < ·.1) := by
    refine List.Pairwise.filterMap failed? ?_ (indexed_increasing outcomes)
    intro left right before first isFirst second isSecond
    rcases left with ⟨index, error | result⟩
    · rcases right with ⟨other, otherError | otherResult⟩
      · cases isFirst
        cases isSecond
        exact before
      · cases isSecond
    · cases isFirst
  rw [firstError?, collect, inOrder_eq arrived, errors_foldl_accept, List.nil_append,
    foldl_earlier increasing, List.head?_filterMap]

theorem firstError?_of_firstError (arrived : arrivals.Perm (indexed outcomes)) (sink : Sink)
    {error : Error} (first : FirstError outcomes error) :
    (collect sink arrivals).firstError? = some error := by
  rcases first with ⟨index, found, earlier⟩
  have isFailed : (indexed outcomes)[index]? = some (index, .error error) := by
    rw [indexed, List.getElem?_mapIdx, found, Option.map_some]
  have isFirst : (indexed outcomes).findSome? failed? = some (index, error) := by
    rcases List.getElem?_eq_some_iff.mp isFailed with ⟨bound, isFailed⟩
    refine List.findSome?_eq_some_iff.mpr ⟨(indexed outcomes).take index, (index, .error error),
      (indexed outcomes).drop (index + 1), ?_, rfl, ?_⟩
    · rw [← isFailed, List.getElem_cons_drop, List.take_append_drop]
    · intro entry member
      rcases List.mem_take_iff_getElem.mp member with ⟨place, low, isEntry⟩
      rcases earlier place (Nat.lt_of_lt_of_le low (Nat.min_le_left ..)) with ⟨result, isResult⟩
      have listed : (indexed outcomes)[place]? = some (place, .ok result) := by
        rw [indexed, List.getElem?_mapIdx, isResult, Option.map_some]
      rcases List.getElem?_eq_some_iff.mp listed with ⟨_, isListed⟩
      rw [← isEntry, isListed, failed?]
  rw [firstError?_collect arrived, isFirst, Option.map_some]

end Collected

end Report

/-! ## Writing back -/

section Writing

variable [Files.WorkingDirectory]

/-- Whether the output of a result comes to stand in its file as a whole. -/
def FileResult.isWritten (tree : Files.Node) (fates : String → Files.Fate)
    (result : FileResult) : Bool :=
  (Files.replaceText tree result.path (result.output.getD "") (fates result.path)).1.isNone

/-- The second tree is the first after some results were written, each with the fate of its
path. The outputs that do not stand in their files as a whole are among the failures. A file
that was opened holds what its write has come to, and no other place has changed. -/
structure WrittenBack (tree : Files.Node) (fates : String → Files.Fate)
    (results : List FileResult) (failures : List WriteFailure) (after : Files.Node) : Prop where
  failed : failures.map (·.path) =
    (results.filter fun result => result.output.isSome && !result.isWritten tree fates).map
      (·.path)
  written : ∀ result ∈ results, ∀ output ∈ result.output, ∀ location isExecutable,
    Files.opened? tree result.path = some (location, isExecutable) →
      (fates result.path).opens = true → after.standsAt? location =
        some (.file ((fates result.path).reaching (Text.Utf8.encode output)) isExecutable)
  kept : ∀ location, (∀ result ∈ results, result.output.isSome →
    (fates result.path).opens = true → ∀ isExecutable,
      Files.opened? tree result.path ≠ some (location, isExecutable)) →
        after.standsAt? location = tree.standsAt? location
  led : ∀ path spot, Files.resolve tree path true = .ok spot →
    ∃ node?, Files.resolve after path true = .ok ⟨spot.location, node?⟩

variable {tree after : Files.Node} {fates : String → Files.Fate} {result : FileResult}
  {rest : List FileResult} {new failures : List WriteFailure}

/-- An output is written if its path can be opened and nothing disturbs the write. -/
theorem isWritten_eq : result.isWritten tree fates =
    ((Files.opened? tree result.path).isSome && (fates result.path).fault?.isNone) := by
  rw [FileResult.isWritten]
  cases opened : Files.opened? tree result.path with
  | none =>
      rcases Files.replaceText_of_closed opened (result.output.getD "") (fates result.path)
        with ⟨error, attempt⟩
      rw [attempt]
      rfl
  | some target =>
      rw [Files.replaceText_of_opened opened]
      cases (fates result.path).fault? <;> rfl

/-- Whether a write is reported depends on that write alone. -/
def Reports (tree : Files.Node) (fates : String → Files.Fate) (result : FileResult)
    (new : List WriteFailure) : Prop :=
  new.map (·.path) =
    if result.output.isSome && !result.isWritten tree fates then [result.path] else []

theorem WrittenBack.failed_cons (reports : Reports tree fates result new)
    (later : failures.map (·.path) =
      (rest.filter fun result => result.output.isSome && !result.isWritten tree fates).map
        (·.path)) :
    (new ++ failures).map (·.path) =
      ((result :: rest).filter fun result =>
        result.output.isSome && !result.isWritten tree fates).map (·.path) := by
  rw [List.map_append, reports, later, List.filter_cons]
  split <;> rfl

/-- Where a result is not written, the others go on from the same files. -/
theorem WrittenBack.cons_left (reports : Reports tree fates result new)
    (left : result.output.isSome → (fates result.path).opens = true →
      Files.opened? tree result.path = none)
    (later : WrittenBack tree fates rest failures after) :
    WrittenBack tree fates (result :: rest) (new ++ failures) after where
  failed := failed_cons reports later.failed
  written other member := by
    rcases List.mem_cons.mp member with rfl | member
    · intro _ isOutput location isExecutable opened opens
      rw [left (Option.isSome_of_eq_some isOutput) opens] at opened
      cases opened
    · exact later.written other member
  kept location untouched := by
    apply later.kept
    intro other member
    exact untouched other (List.mem_cons_of_mem result member)
  led := later.led

/-- After a file was written, the others are opened as before it. -/
theorem opened?_of_apart {place : Files.Location} {mode : Bool}
    (opened : Files.opened? tree result.path = some (place, mode))
    (apart : ∀ other ∈ rest, Files.Apart tree result.path other.path) (content : List UInt8) :
    ∀ other ∈ rest, Files.opened? (tree.put (.file content mode) place) other.path =
      Files.opened? tree other.path := by
  intro other member
  apply Files.opened?_rewritten (Files.rewritten_of_opened? opened content)
  intro isExecutable
  exact apart other member place mode isExecutable opened

/-- A file that is opened gets what its write comes to, and the others go on from there. -/
theorem WrittenBack.cons_opened {output : String} {place : Files.Location} {mode : Bool}
    (reports : Reports tree fates result new) (isOutput : result.output = some output)
    (opened : Files.opened? tree result.path = some (place, mode))
    (opens : (fates result.path).opens = true)
    (apart : ∀ other ∈ rest, Files.Apart tree result.path other.path)
    (later : WrittenBack
      (tree.put (.file ((fates result.path).reaching (Text.Utf8.encode output)) mode) place) fates
      rest failures after) :
    WrittenBack tree fates (result :: rest) (new ++ failures) after := by
  have isReached : ∀ text, result.output = some text →
      (fates result.path).reaching (Text.Utf8.encode text) =
        (fates result.path).reaching (Text.Utf8.encode output) := by
    intro text isText
    rw [Option.some.inj (isText.symm.trans isOutput)]
  generalize (fates result.path).reaching (Text.Utf8.encode output) = content at later isReached
  have same := opened?_of_apart opened apart content
  have put := Files.Node.standsAt?_put (Files.room_of_opened? opened) content mode
  have led := Files.stillLeads_resolve (Files.rewritten_of_opened? opened content)
  -- from here on only what stands where in the next tree matters, not how it was made
  generalize tree.put (.file content mode) place = next at later same put led
  refine ⟨WrittenBack.failed_cons reports ?_, ?_, ?_, ?_⟩
  · have sameWritten : ∀ other ∈ rest,
        (other.output.isSome && !other.isWritten next fates) =
          (other.output.isSome && !other.isWritten tree fates) := by
      intro other member
      rw [isWritten_eq, isWritten_eq, same other member]
    rw [later.failed, List.filter_congr sameWritten]
  · intro other member text isText location isExecutable openedOther opensOther
    rcases List.mem_cons.mp member with isResult | member
    · rw [isResult] at isText openedOther ⊢
      rw [opened] at openedOther
      rcases Option.some.inj openedOther with ⟨⟩
      rw [isReached text isText, later.kept place, put, if_pos rfl]
      intro another member _ _ otherMode
      rw [same another member]
      exact apart another member place mode otherMode opened
    · exact later.written other member text isText location isExecutable
        ((same other member).trans openedOther) opensOther
  · intro location untouched
    have elsewhere : location ≠ place := by
      intro isPlace
      exact untouched result List.mem_cons_self (Option.isSome_of_eq_some isOutput) opens mode
        (isPlace ▸ opened)
    rw [later.kept location, put, if_neg elsewhere]
    intro other member
    rw [same other member]
    exact untouched other (List.mem_cons_of_mem result member)
  · intro path spot found
    have still := led path true
    rw [found] at still
    rcases still with ⟨node?, foundNext⟩
    exact later.led path ⟨spot.location, node?⟩ foundNext

theorem writeBack_cons {output : String} (isOutput : result.output = some output)
    (rest : List FileResult) (tree : Files.Node) :
    writeBack fates (result :: rest) tree =
      (let attempt := Files.replaceText tree result.path output (fates result.path)
      ((attempt.1.map fun cause => ⟨result.path, cause.message⟩).toList ++
        (writeBack fates rest attempt.2).1, (writeBack fates rest attempt.2).2)) := by
  simp only [writeBack, isOutput]
  split <;> (rename_i attempted; rw [attempted]; rfl)

/-- Results that lead to different places are written, each of them whatever becomes of the
others. -/
theorem writtenBack_writeBack {results : List FileResult}
    (apart : results.Pairwise fun left right => Files.Apart tree left.path right.path) :
    WrittenBack tree fates results (writeBack fates results tree).1
      (writeBack fates results tree).2 := by
  induction results generalizing tree with
  | nil => exact ⟨rfl, by simp, fun _ _ => rfl, fun _ spot found => ⟨spot.node?, found⟩⟩
  | cons result rest induction =>
      have parts := List.pairwise_cons.mp apart
      cases isOutput : result.output with
      | none =>
          simp only [writeBack, isOutput]
          have reports : Reports tree fates result [] := by
            rw [Reports, isOutput]
            rfl
          refine (induction parts.2).cons_left reports ?_
          rw [isOutput]
          exact nofun
      | some output =>
          rw [writeBack_cons isOutput]
          have reports : Reports tree fates result
              (((Files.replaceText tree result.path output (fates result.path)).1.map
                fun cause => ⟨result.path, cause.message⟩).toList) := by
            rw [Reports, FileResult.isWritten, isOutput, Option.getD_some]
            cases (Files.replaceText tree result.path output (fates result.path)).1 <;> rfl
          cases opened : Files.opened? tree result.path with
          | none =>
              rcases Files.replaceText_of_closed opened output (fates result.path)
                with ⟨error, attempt⟩
              rw [attempt] at reports ⊢
              exact (induction parts.2).cons_left reports fun _ _ => opened
          | some target =>
              rw [Files.replaceText_of_opened opened] at reports ⊢
              cases opens : (fates result.path).opens with
              | false =>
                  refine (induction parts.2).cons_left reports ?_
                  rw [opens]
                  exact nofun
              | true =>
                  have same := opened?_of_apart opened parts.1
                    ((fates result.path).reaching (Text.Utf8.encode output))
                  refine WrittenBack.cons_opened reports isOutput opened opens parts.1
                    (induction ?_)
                  -- the rest leads to different places also once the first file is written
                  refine parts.2.imp_of_mem ?_
                  intro left right isLeft isRight distinct location leftMode rightMode
                  rw [same left isLeft, same right isRight]
                  exact distinct location leftMode rightMode

/-- A file that is opened reads as what its write has come to, and else as before. -/
theorem WrittenBack.readBytes {results : List FileResult}
    (back : WrittenBack tree fates results failures after)
    (apart : results.Pairwise fun left right => Files.Apart tree left.path right.path)
    (member : result ∈ results) {output : String} (isOutput : result.output = some output)
    (opened : (Files.opened? tree result.path).isSome) :
    Files.readBytes after result.path =
      if (fates result.path).opens then
        .ok ((fates result.path).reaching (Text.Utf8.encode output))
      else Files.readBytes tree result.path := by
  rcases Option.isSome_iff_exists.mp opened with ⟨⟨place, mode⟩, opened⟩
  rcases Files.exists_spot_of_opened? opened with ⟨spot, found, isPlace, -⟩
  rcases back.led result.path spot found with ⟨node?, foundAfter⟩
  have atPlace : spot.location = place := isPlace
  rw [Files.readBytes_eq found, Files.readBytes_eq foundAfter, atPlace]
  by_cases opens : (fates result.path).opens = true
  · rw [if_pos opens, back.written result member output isOutput place mode opened opens]
  · rw [if_neg opens, back.kept place]
    intro other isOther _ opensOther isExecutable openedOther
    have different : result ≠ other := by
      rintro rfl
      exact opens opensOther
    have : Std.Symm fun left right : FileResult => Files.Apart tree left.path right.path :=
      ⟨fun _ _ => Files.Apart.symm⟩
    exact apart.forall member isOther different place mode isExecutable opened openedOther

end Writing

/-! ## Whole runs -/

/-- Outcomes of the files at some paths, in the same order. -/
def OutcomesOf (paths : List String) (outcomes : List Outcome) : Prop :=
  List.Forall₂ (fun path outcome => ∀ result, outcome = .ok result → result.path = path)
    paths outcomes

section Whole

variable [Files.WorkingDirectory] {tree : Files.Node} {fates : String → Files.Fate}
  {paths : List String} {outcomes : List Outcome} {arrivals : List (Nat × Outcome)}

/-- Distinct files have distinct results. -/
theorem OutcomesOf.apart_changed (named : OutcomesOf paths outcomes)
    (apart : paths.Pairwise (Files.Apart tree)) :
    (outcomes.filterMap changed?).Pairwise fun left right =>
      Files.Apart tree left.path right.path := by
  have sub : ((outcomes.filterMap changed?).map (·.path)).Sublist paths := by
    clear apart
    induction named with
    | nil => exact .slnil
    | @cons path outcome _ _ isNamed _ induction =>
        cases outcome with
        | error => exact induction.cons path
        | ok result =>
            rw [List.filterMap_cons, changed?]
            split
            · rename_i unchanged
              exact induction.cons path
            · rename_i isChanged
              split at isChanged
              · rcases Option.some.inj isChanged with rfl
                rw [List.map_cons, isNamed _ rfl]
                exact induction.cons_cons path
              · cases isChanged
  exact List.pairwise_map.mp (apart.sublist sub)

/-- A run that fails has written nothing. -/
theorem conclude_of_error {mode : Mode} {limit : Nat} {report : Report} {error : Error}
    (failed : (conclude mode limit report tree fates).1 = .error error) :
    (conclude mode limit report tree fates).2.2 = tree := by
  unfold conclude at failed ⊢
  split
  · rfl
  · rename_i verdict
    rw [verdict] at failed
    cases mode with
    | lint => rfl
    | fmt => cases failed
    | diff =>
        simp only
        split <;> rfl

theorem verdict?_of_ok {mode : Mode} {limit : Nat} {report : Report} {summary : Summary}
    (succeeded : (conclude mode limit report tree fates).1 = .ok summary) :
    report.verdict? = none := by
  rw [conclude.eq_def] at succeeded
  cases verdict : report.verdict? with
  | none => rfl
  | some error =>
      rw [verdict] at succeeded
      cases succeeded

theorem conclude_fmt {report : Report} (accepted : report.verdict? = none) (limit : Nat)
    (tree : Files.Node) (fates : String → Files.Fate) :
    conclude .fmt limit report tree fates =
      (.ok (summary report (writeBack fates report.changed tree).1), report.sink,
        (writeBack fates report.changed tree).2) := by
  simp only [conclude, accepted]

/-- Only one mode writes. -/
theorem conclude_of_not_fmt {mode : Mode} (other : mode ≠ .fmt) {limit : Nat} {report : Report}
    {ending : Summary} (succeeded : (conclude mode limit report tree fates).1 = .ok ending) :
    (conclude mode limit report tree fates).2.2 = tree ∧ ending.writeErrors = [] := by
  have accepted := verdict?_of_ok succeeded
  simp only [conclude, accepted] at succeeded ⊢
  cases mode with
  | fmt => exact absurd rfl other
  | lint =>
      cases succeeded
      exact ⟨rfl, rfl⟩
  | diff =>
      simp only at succeeded ⊢
      split at succeeded
      · cases succeeded
      · cases succeeded
        exact ⟨rfl, rfl⟩

/-- The error of the first file that has one is what a run fails with, unless its report
could not be written. -/
theorem conclude_of_firstError {mode : Mode} {limit : Nat} {report : Report} {error : Error}
    (first : report.firstError? = some error)
    (taken : (conclude mode limit report tree fates).2.1.failure? = none) :
    (conclude mode limit report tree fates).1 = .error error := by
  cases failed : report.sink.failure? with
  | none =>
      have verdict : report.verdict? = some error := by
        rw [Report.verdict?, failed, first]
      simp only [conclude, verdict]
  | some failure =>
      rw [conclude_of_failure failed] at taken
      rw [failed] at taken
      cases taken

theorem settle_indexed (arrived : arrivals.Perm (indexed outcomes)) (mode : Mode) (limit : Nat)
    (sink : Sink) (tree : Files.Node) (fates : String → Files.Fate) :
    settle mode limit sink arrivals tree fates =
      settle mode limit sink (indexed outcomes) tree fates := by
  rw [settle, settle, Report.collect, Report.collect, inOrder_eq arrived, inOrder_eq (.refl _)]

/-- What becomes of the files does not show in the report. -/
theorem settle_fmt {limit : Nat} {sink : Sink} (arrived : arrivals.Perm (indexed outcomes))
    (accepted : (Report.collect sink arrivals).verdict? = none) (tree : Files.Node)
    (fates : String → Files.Fate) :
    settle .fmt limit sink arrivals tree fates =
      (.ok (summary (Report.collect sink arrivals)
          (writeBack fates (outcomes.filterMap changed?) tree).1),
        (Report.collect sink arrivals).sink,
        (writeBack fates (outcomes.filterMap changed?) tree).2) := by
  rw [settle, conclude_fmt accepted, Report.changed_collect arrived]

/-- Where commands touch no file, a run settles what each file comes to at the start. -/
theorem batch_eq {config : Config} {run : Command.Runner Files.Node} {command : String}
    (harmless : run.Harmless) (mode : Mode) (paths : List String) (sink : Sink)
    (tree : Files.Node) (fates : String → Files.Fate) :
    batch config run command mode paths sink tree fates =
      settle mode config.limit sink
        (indexed (paths.map fun path =>
          (processFile config run command path mode.replaces tree).1)) tree fates := by
  rw [batch, processAll_eq harmless]

/-- What a run leaves behind, for outcomes of distinct files that arrive in any order. A run
that fails has written nothing, and it fails with the error of the first file that has one
unless its report could not be written. A run that succeeds writes in one mode only: each
changed file that can be opened then holds what its write has come to, those that do not hold
their outputs as a whole are just the reported ones, and nothing else has changed; all other
totals are those of any other tree and of writes that fare otherwise. And where neither the
command nor the formatter touches a file, this is what a whole run does. -/
theorem settle_files (arrived : arrivals.Perm (indexed outcomes))
    (named : OutcomesOf paths outcomes) (apart : paths.Pairwise (Files.Apart tree))
    (mode : Mode) (limit : Nat) (sink : Sink) (fates : String → Files.Fate) :
    let ended := settle mode limit sink arrivals tree fates
    let changed := outcomes.filterMap changed?
    (∀ error, ended.1 = .error error → ended.2.2 = tree) ∧
    (∀ error, FirstError outcomes error → ended.2.1.failure? = none → ended.1 = .error error) ∧
    (∀ summary, ended.1 = .ok summary →
      (mode ≠ .fmt → ended.2.2 = tree ∧ summary.writeErrors = []) ∧
      (mode = .fmt → WrittenBack tree fates changed summary.writeErrors ended.2.2 ∧
        (∀ result ∈ changed, ∀ output, result.output = some output →
          (Files.opened? tree result.path).isSome →
          Files.readBytes ended.2.2 result.path =
            if (fates result.path).opens then
              .ok ((fates result.path).reaching (Text.Utf8.encode output))
            else Files.readBytes tree result.path) ∧
        ∀ other otherFates, ∃ failures,
          (settle mode limit sink arrivals other otherFates).1 =
            .ok { summary with writeErrors := failures })) ∧
    (∀ config run command, Command.Runner.Harmless run → config.limit = limit →
      (processAll config run command mode.replaces paths tree).1 = outcomes →
      batch config run command mode paths sink tree fates = ended) := by
  intro ended changed
  refine ⟨fun error => conclude_of_error, ?_, ?_, ?_⟩
  · intro error first
    exact conclude_of_firstError (Report.firstError?_of_firstError arrived sink first)
  · intro summary succeeded
    refine ⟨fun other => conclude_of_not_fmt other succeeded, ?_⟩
    rintro rfl
    have accepted := verdict?_of_ok succeeded
    have concluded := @settle_fmt _ _ _ limit sink arrived accepted
    have isSummary : summary = Run.summary (Report.collect sink arrivals)
        (writeBack fates changed tree).1 :=
      Except.ok.inj (succeeded.symm.trans (congrArg Prod.fst (concluded tree fates)))
    have changedApart := named.apart_changed apart
    have written : WrittenBack tree fates changed summary.writeErrors ended.2.2 := by
      rw [show ended = _ from concluded tree fates, isSummary]
      exact writtenBack_writeBack changedApart
    refine ⟨written, ?_, ?_⟩
    · intro result member output isOutput opened
      exact written.readBytes changedApart member isOutput opened
    · intro other otherFates
      exact ⟨(writeBack otherFates changed other).1, by rw [concluded other, isSummary]; rfl⟩
  · intro config run command harmless isLimit processed
    rw [processAll_eq harmless] at processed
    simp only at processed
    rw [batch_eq harmless, processed, isLimit]
    exact (settle_indexed arrived mode limit sink tree fates).symm

end Whole

/-- Of four changed files the first is written, the second breaks off, the third is refused, and
the last is in a directory that is not there. They are done in another order. -/
theorem settle_files_partial :
    let _ : Files.WorkingDirectory := ⟨["home"]⟩
    let tree : Files.Node := .directory [("home", .directory
      [("a.go", .file [] true), ("b.go", .file [0x30, 0x31] false), ("c.go", .file [0x32] false)])]
    let result (path output : String) : FileResult := ⟨path, some output, [], true⟩
    let arrivals : List (Nat × Outcome) :=
      [(1, .ok (result "/home/b.go" "yz")), (0, .ok (result "a.go" "x")),
        (3, .ok (result "gone/d.go" "v")), (2, .ok (result "c.go" "w"))]
    let fates (path : String) : Files.Fate :=
      if path = "/home/b.go" then .brokenOff 1 .noSpace
      else if path = "c.go" then .refused .notPermitted
      else .done
    let ended := settle .fmt 9 {} arrivals tree fates
    Files.readBytes ended.2.2 "a.go" = .ok [0x78] ∧
      Files.readBytes ended.2.2 "/home/b.go" = .ok [0x79] ∧
      Files.readBytes ended.2.2 "c.go" = .ok [0x32] ∧
      ended.1.toOption.map (·.writeErrors.map (·.path)) =
        some ["/home/b.go", "c.go", "gone/d.go"] := by
  intro _ tree result arrivals fates ended
  have openedA : Files.opened? tree "a.go" = some (["home", "a.go"], true) := by
    decide +kernel
  have openedB : Files.opened? tree "/home/b.go" = some (["home", "b.go"], false) := by
    decide +kernel
  have openedC : Files.opened? tree "c.go" = some (["home", "c.go"], false) := by
    decide +kernel
  have closed : Files.opened? tree "gone/d.go" = none := by
    decide +kernel
  have apart : ["a.go", "/home/b.go", "c.go", "gone/d.go"].Pairwise (Files.Apart tree) := by
    simp [Files.Apart, openedA, openedB, openedC, closed]
  have arrived : arrivals.Perm (indexed [.ok (result "a.go" "x"), .ok (result "/home/b.go" "yz"),
      .ok (result "c.go" "w"), .ok (result "gone/d.go" "v")]) := by
    decide +kernel
  have named : OutcomesOf ["a.go", "/home/b.go", "c.go", "gone/d.go"]
      [.ok (result "a.go" "x"), .ok (result "/home/b.go" "yz"), .ok (result "c.go" "w"),
        .ok (result "gone/d.go" "v")] := by
    simp [OutcomesOf, result]
  have settled := settle_files arrived named apart .fmt 9 {} fates
  have succeeded : ended.1 = .ok ⟨0, 4, 0, ["a.go", "/home/b.go", "c.go", "gone/d.go"],
      [⟨"/home/b.go", (Files.Error.system .noSpace).message⟩,
        ⟨"c.go", (Files.Error.system .notPermitted).message⟩,
        ⟨"gone/d.go", (Files.Error.system .missing).message⟩]⟩ := by
    decide +kernel
  rcases (settled.2.2.1 _ succeeded).2 rfl with ⟨-, left, -⟩
  refine ⟨?_, ?_, ?_, ?_⟩
  · exact left (result "a.go" "x") (by simp [changed?, result]) "x" rfl (by decide +kernel)
  · exact left (result "/home/b.go" "yz") (by simp [changed?, result]) "yz" rfl
      (by decide +kernel)
  · refine (left (result "c.go" "w") (by simp [changed?, result]) "w" rfl
      (by decide +kernel)).trans ?_
    decide +kernel
  · rw [succeeded]
    rfl

/-- A write that breaks off leaves a changed file that is among the failures; and a formatter
can take away a file that no result names. -/
theorem batch_changes_unwritten :
    let tree : Files.Node := .directory
      [("a.go", .file (Text.Utf8.encode "p.Statement\x7bSQL:\"q\"\x7d\n") false),
        ("b.txt", .file [0x62, 0x0A] false)]
    let run := Command.withShell [] "sh"
    let broken := batch {} run "tr a-z A-Z" .fmt ["a.go"] {} tree fun _ => .brokenOff 1 .noSpace
    let formatted := batch { formatter := some "rm b.txt; cat" } run "tr a-z A-Z" .fmt ["a.go"] {}
      tree
    (broken.1.toOption.map (·.writeErrors.map (·.path)) = some ["a.go"] ∧
      Files.readBytes broken.2.2 "a.go" = .ok [0x70] ∧
      Files.readBytes tree "a.go" ≠ .ok [0x70]) ∧
    formatted.1 = .ok ⟨0, 1, 0, ["a.go"], []⟩ ∧
      Files.readBytes tree "b.txt" = .ok [0x62, 0x0A] ∧
      Files.readBytes formatted.2.2 "b.txt" = .error .missing := by
  decide +kernel

end Run

end QueryPipe
