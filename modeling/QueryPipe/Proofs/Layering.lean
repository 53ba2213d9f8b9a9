import QueryPipe.CommandLine.Program

/-! Which layer of settings decides. Whatever can be set is read off a layer by an entry, and
two layers together say about an entry what the upper one says, or else what the lower one
says. So of any number of layers the highest that sets an entry decides it, and a blank text
is a decision like any other. -/

namespace QueryPipe

namespace Settings

/-! ## Merging -/

namespace Target

theorem merge_assoc (first second third : Target) :
    (first.merge second).merge third = first.merge (second.merge third) := by
  simp [merge, Option.or_assoc]

@[simp] theorem empty_merge (target : Target) : merge {} target = target := by
  simp [merge]

@[simp] theorem merge_empty (target : Target) : target.merge {} = target := by
  simp [merge]

end Target

theorem merge_assoc (first second third : Settings) :
    (first.merge second).merge third = first.merge (second.merge third) := by
  simp [merge, Target.merge_assoc, Option.or_assoc]

@[simp] theorem empty_merge (layer : Settings) : merge {} layer = layer := by
  simp [merge]

@[simp] theorem merge_empty (layer : Settings) : layer.merge {} = layer := by
  simp [merge]

theorem mergeAll_reverse_cons (highest : Settings) (lower : List Settings) :
    mergeAll (highest :: lower).reverse = (mergeAll lower.reverse).merge highest := by
  rw [mergeAll, List.reverse_cons, List.foldl_append, mergeAll]
  rfl

/-! ## Entries -/

/-- One thing that a layer may set. -/
structure Entry (α : Type) where
  read : Settings → Option α
  read_empty : read {} = none
  read_merge : ∀ lower upper, read (lower.merge upper) = (read upper <|> read lower)

namespace Entry

def command : Entry String := ⟨Settings.command, rfl, fun _ _ => rfl⟩

def mode : Entry Run.Mode := ⟨Settings.mode, rfl, fun _ _ => rfl⟩

def shell : Entry String := ⟨Settings.shell, rfl, fun _ _ => rfl⟩

def formatter : Entry String := ⟨Settings.formatter, rfl, fun _ _ => rfl⟩

def limit : Entry Nat := ⟨Settings.limit, rfl, fun _ _ => rfl⟩

def typeName : Entry String := ⟨fun layer => layer.target.typeName, rfl, fun _ _ => rfl⟩

def fieldName : Entry String := ⟨fun layer => layer.target.fieldName, rfl, fun _ _ => rfl⟩

def formatPackage : Entry String := ⟨fun layer => layer.target.formatPackage, rfl, fun _ _ => rfl⟩

def formatFunction : Entry String :=
  ⟨fun layer => layer.target.formatFunction, rfl, fun _ _ => rfl⟩

variable (entry : Entry α) {layers : List Settings}

/-- The highest layer that sets the entry sets it to a value; the highest layer comes first. -/
def SetTo (layers : List Settings) (value : α) : Prop :=
  ∃ above layer below, layers = above ++ layer :: below ∧
    entry.read layer = some value ∧ ∀ other ∈ above, entry.read other = none

/-- No layer sets the entry. -/
def Unset (layers : List Settings) : Prop := ∀ layer ∈ layers, entry.read layer = none

/-- The layers give the entry a value: that of the highest layer that sets it, or a default. -/
def Gives (layers : List Settings) (default value : α) : Prop :=
  entry.SetTo layers value ∨ entry.Unset layers ∧ value = default

/-- The merged layers say what the highest layer that sets the entry says. -/
theorem read_mergeAll (layers : List Settings) :
    entry.read (mergeAll layers.reverse) = layers.findSome? entry.read := by
  induction layers with
  | nil => exact entry.read_empty
  | cons highest lower induction =>
      rw [mergeAll_reverse_cons, entry.read_merge, induction, List.findSome?_cons]
      cases entry.read highest <;> rfl

theorem read_mergeAll_eq_some_iff {value : α} :
    entry.read (mergeAll layers.reverse) = some value ↔ entry.SetTo layers value := by
  rw [read_mergeAll, List.findSome?_eq_some_iff, SetTo]

theorem read_mergeAll_eq_none_iff :
    entry.read (mergeAll layers.reverse) = none ↔ entry.Unset layers := by
  rw [read_mergeAll, List.findSome?_eq_none_iff, Unset]

theorem gives_getD (layers : List Settings) (default : α) :
    entry.Gives layers default ((entry.read (mergeAll layers.reverse)).getD default) := by
  cases decided : entry.read (mergeAll layers.reverse) with
  | none => exact .inr ⟨entry.read_mergeAll_eq_none_iff.mp decided, rfl⟩
  | some value => exact .inl (entry.read_mergeAll_eq_some_iff.mp decided)

variable {entry} {value other : α}

theorem SetTo.unique (setTo : entry.SetTo layers value) (again : entry.SetTo layers other) :
    value = other := by
  rw [← read_mergeAll_eq_some_iff] at setTo again
  exact Option.some.inj (setTo.symm.trans again)

theorem SetTo.not_unset (setTo : entry.SetTo layers value) : ¬ entry.Unset layers := by
  rw [← read_mergeAll_eq_some_iff] at setTo
  rw [← read_mergeAll_eq_none_iff, setTo]
  exact Option.some_ne_none value

end Entry

/-! ## The formatter and the command -/

/-- The default formatter is set below all layers. -/
theorem withDefaultFormatter_eq (settings : Settings) (isThere : Bool) :
    settings.withDefaultFormatter isThere = { settings with
      formatter := settings.formatter <|> if isThere then some defaultFormatter else none } := by
  rcases settings with ⟨command, mode, shell, formatter, limit, target⟩
  cases formatter <;> cases isThere <;> rfl

theorem unlessBlank_some (text : String) :
    unlessBlank (some text) = if Text.isBlank text then none else some text := by
  cases blank : Text.isBlank text <;> simp [unlessBlank, blank]

theorem formatter_withDefaultFormatter (layers : List Settings) (isThere : Bool) :
    (∃ text, Entry.formatter.SetTo layers text ∧
      ((mergeAll layers.reverse).withDefaultFormatter isThere).config.formatter =
        if Text.isBlank text then none else some text) ∨
    Entry.formatter.Unset layers ∧
      ((mergeAll layers.reverse).withDefaultFormatter isThere).config.formatter =
        if isThere then some "gofmt" else none := by
  rw [withDefaultFormatter_eq]
  cases decided : Entry.formatter.read (mergeAll layers.reverse) with
  | some text =>
      refine .inl ⟨text, Entry.formatter.read_mergeAll_eq_some_iff.mp decided, ?_⟩
      have set : (mergeAll layers.reverse).formatter = some text := decided
      rw [config, set]
      exact unlessBlank_some text
  | none =>
      refine .inr ⟨Entry.formatter.read_mergeAll_eq_none_iff.mp decided, ?_⟩
      have unset : (mergeAll layers.reverse).formatter = none := decided
      rw [config, unset]
      cases isThere with
      | false => rfl
      | true => exact unlessBlank_some defaultFormatter

end Settings

namespace Run.Request

open Settings

theorem ofSettings_of_some {settings : Settings} {command : String}
    (set : settings.command = some command) (root : String) :
    ofSettings root settings =
      if Text.isBlank command then .error .noCommand
      else .ok ⟨root, command, settings.runMode, settings.config⟩ := by
  rw [ofSettings, set, unlessBlank_some]
  cases Text.isBlank command <;> rfl

theorem ofSettings_eq_error_iff {settings : Settings} {root : String} {refusal : Refusal} :
    ofSettings root settings = .error refusal ↔ refusal = .noCommand ∧
      (settings.command = none ∨
        ∃ command, settings.command = some command ∧ Text.isBlank command = true) := by
  cases set : settings.command with
  | none =>
      have refused : ofSettings root settings = .error .noCommand := by
        rw [ofSettings, set]
        rfl
      rw [refused, Except.error.injEq]
      exact ⟨fun equal => ⟨equal.symm, .inl rfl⟩, fun equal => equal.1.symm⟩
  | some command =>
      rw [ofSettings_of_some set]
      cases blank : Text.isBlank command with
      | true =>
          rw [if_pos rfl, Except.error.injEq]
          exact ⟨fun equal => ⟨equal.symm, .inr ⟨command, rfl, blank⟩⟩, fun equal => equal.1.symm⟩
      | false => simp [blank]

theorem ofSettings_eq_ok_iff {settings : Settings} {root : String} {request : Request} :
    ofSettings root settings = .ok request ↔
      settings.command = some request.command ∧ Text.isBlank request.command = false ∧
        request = ⟨root, request.command, settings.runMode, settings.config⟩ := by
  constructor
  · intro made
    cases set : settings.command with
    | none =>
        rw [ofSettings, set] at made
        cases made
    | some command =>
        rw [ofSettings_of_some set] at made
        by_cases blank : Text.isBlank command = true
        · rw [if_pos blank] at made
          cases made
        · rw [if_neg blank] at made
          cases made
          exact ⟨rfl, eq_false_of_ne_true blank, rfl⟩
  · rintro ⟨set, notBlank, equal⟩
    rw [ofSettings_of_some set, if_neg (Bool.not_eq_true _ ▸ notBlank)]
    exact congrArg Except.ok equal.symm

/-- Once there is a request, a command is not missing. -/
theorem perform_ne_noCommand [Files.WorkingDirectory] (request : Request)
    (run : Command.Runner Files.Node) (sink : Sink) (tree : Files.Node)
    (fates : String → Files.Fate) :
    (request.perform run sink tree fates).1 ≠ .error .noCommand := by
  rw [perform]
  cases Files.discover tree request.root {} with
  | error cause => simp
  | ok paths =>
      dsimp only
      rcases batch request.config run request.command request.mode paths sink tree fates with
        ⟨cause | summary, sink, tree⟩
      · simp
      · dsimp only
        cases (sink.writeAll (writeReport summary)).failure? <;> simp

end Run.Request

namespace Settings

/-! ## What the layers decide -/

/-- No layer sets a command, or the highest that does sets it to blanks. -/
def LacksCommand (layers : List Settings) : Prop :=
  Entry.command.Unset layers ∨
    ∃ text, Entry.command.SetTo layers text ∧ Text.isBlank text = true

/-- What settings mean for a run, given the layers that they come from, the highest first, and
whether the default formatter is there. -/
structure Resolves (layers : List Settings) (isThere : Bool) (merged : Settings) : Prop where
  mode : Entry.mode.Gives layers .lint merged.runMode
  shell : Entry.shell.Gives layers "sh" merged.config.shell
  limit : Entry.limit.Gives layers 1048576 merged.config.limit
  typeName : Entry.typeName.Gives layers "Statement" merged.config.shape.typeName
  fieldName : Entry.fieldName.Gives layers "SQL" merged.config.shape.fieldName
  formatPackage : Entry.formatPackage.Gives layers "fmt" merged.config.shape.formatPackage
  formatFunction : Entry.formatFunction.Gives layers "Sprintf" merged.config.shape.formatFunction
  /-- A blank formatter is none, and keeps the default one away. -/
  formatter :
    (∃ text, Entry.formatter.SetTo layers text ∧
      merged.config.formatter = if Text.isBlank text then none else some text) ∨
    Entry.formatter.Unset layers ∧
      merged.config.formatter = if isThere then some "gofmt" else none
  /-- A blank command is none, whatever the layers below it set. -/
  refused : ∀ root, (∃ refusal, Run.Request.ofSettings root merged = .error refusal) ↔
    LacksCommand layers
  accepted : ∀ root request, Run.Request.ofSettings root merged = .ok request →
    Entry.command.SetTo layers request.command ∧
      request = ⟨root, request.command, merged.runMode, merged.config⟩

/-- Any number of layers, merged from the lowest to the highest. -/
theorem resolves_mergeAll (layers : List Settings) (isThere : Bool) :
    Resolves layers isThere ((mergeAll layers.reverse).withDefaultFormatter isThere) := by
  have formatter := formatter_withDefaultFormatter layers isThere
  rw [withDefaultFormatter_eq] at formatter ⊢
  exact {
    mode := Entry.mode.gives_getD layers _
    shell := Entry.shell.gives_getD layers _
    limit := Entry.limit.gives_getD layers _
    typeName := Entry.typeName.gives_getD layers _
    fieldName := Entry.fieldName.gives_getD layers _
    formatPackage := Entry.formatPackage.gives_getD layers _
    formatFunction := Entry.formatFunction.gives_getD layers _
    formatter
    refused := by
      intro root
      simp only [Run.Request.ofSettings_eq_error_iff, exists_eq_left, LacksCommand,
        ← Entry.read_mergeAll_eq_none_iff, ← Entry.read_mergeAll_eq_some_iff]
      rfl
    accepted := by
      intro root request made
      rcases Run.Request.ofSettings_eq_ok_iff.mp made with ⟨set, -, equal⟩
      exact ⟨Entry.command.read_mergeAll_eq_some_iff.mp set, equal⟩ }

end Settings

namespace CommandLine

variable [Files.WorkingDirectory]

/-- The layers of a run, the highest first. -/
def layers (environment : Environment) (arguments : Arguments) (tree : Files.Node) :
    List Settings :=
  let places := Settings.places {
    projectRoot := environment.projectRoot
    configHome := environment.configHome
    override := arguments.configHome
    workingDirectory }
  [arguments.settings, Settings.ofContent (Files.readBytes tree places.user),
    Settings.ofContent (Files.readBytes tree places.system)]

theorem resolves_settingsOf (environment : Environment) (arguments : Arguments)
    (tree : Files.Node) :
    Settings.Resolves (layers environment arguments tree)
      (Settings.hasDefaultFormatter tree environment.searchPath)
      (settingsOf environment arguments tree) := by
  have resolves := Settings.resolves_mergeAll (layers environment arguments tree)
    (Settings.hasDefaultFormatter tree environment.searchPath)
  have merged : Settings.mergeAll (layers environment arguments tree).reverse =
      (Settings.load tree (Settings.places {
        projectRoot := environment.projectRoot
        configHome := environment.configHome
        override := arguments.configHome
        workingDirectory })).merge arguments.settings := by
    simp [Settings.mergeAll, layers, Settings.load]
  rwa [merged] at resolves

/-- A run asks for a command where the layers lack one, and nowhere else; it then leaves the
files alone. -/
theorem run_of_lacksCommand {environment : Environment} {given : List String}
    {arguments : Arguments} (accepted : Arguments.parse given = .ok arguments)
    (tree : Files.Node) (fates : String → Files.Fate) :
    ((run environment given tree fates).1 = .refused .noCommand ↔
      Settings.LacksCommand (layers environment arguments tree)) ∧
    (Settings.LacksCommand (layers environment arguments tree) →
      run environment given tree fates =
        (.refused .noCommand, Ending.text (.refused .noCommand), tree)) := by
  rw [← (resolves_settingsOf environment arguments tree).refused arguments.directory, run,
    accepted]
  cases made : Run.Request.ofSettings arguments.directory
      (settingsOf environment arguments tree) with
  | error refusal =>
      rcases (Run.Request.ofSettings_eq_error_iff.mp made).1 with rfl
      simp [made]
  | ok request =>
      have other := request.perform_ne_noCommand
        (Command.withShell environment.searchPath request.config.shell) {} tree fates
      rcases ended : request.perform (Command.withShell environment.searchPath
        request.config.shell) {} tree fates with ⟨refusal | summary, sink, after⟩
      · simpa [made, ended] using other
      · simp [made, ended]

end CommandLine

namespace Settings

/-- Layers can be merged in any grouping, and one that sets nothing changes nothing. Of the
settings of a project, those of its user and those of the command line, the highest that sets
a thing decides it. The program takes them from two files and its arguments. -/
theorem merge_resolves [Files.WorkingDirectory] :
    (∀ first second third : Settings,
      (first.merge second).merge third = first.merge (second.merge third)) ∧
    (∀ layer : Settings, merge {} layer = layer ∧ layer.merge {} = layer) ∧
    (∀ (system user overlay : Settings) (isThere : Bool),
      Resolves [overlay, user, system] isThere
        (((system.merge user).merge overlay).withDefaultFormatter isThere)) ∧
    ∀ (environment : CommandLine.Environment) (arguments : CommandLine.Arguments)
      (tree : Files.Node),
      Resolves (CommandLine.layers environment arguments tree)
        (hasDefaultFormatter tree environment.searchPath)
        (CommandLine.settingsOf environment arguments tree) := by
  refine ⟨merge_assoc, fun layer => ⟨empty_merge layer, merge_empty layer⟩, ?_,
    CommandLine.resolves_settingsOf⟩
  intro system user overlay isThere
  have resolves := resolves_mergeAll [overlay, user, system] isThere
  have merged : mergeAll [overlay, user, system].reverse =
      (system.merge user).merge overlay := by
    simp [mergeAll]
  rwa [merged] at resolves

/-- A user who sets the command to blanks is asked for one, though the project has one; a
formatter of blanks keeps the default one away. -/
theorem merge_resolves_blank :
    let system : Settings :=
      { command := some "cat", shell := some "bash", formatter := some " ", limit := some 2048 }
    let user : Settings := { command := some " \t", shell := some "dash" }
    let overlay : Settings := { target := { fieldName := some "Query" } }
    let merged := ((system.merge user).merge overlay).withDefaultFormatter true
    (∃ refusal, Run.Request.ofSettings "." merged = .error refusal) ∧
    merged.config.shell = "dash" ∧ merged.config.formatter = none ∧
    merged.config.shape.typeName = "Statement" := by
  intro system user overlay merged
  have resolves := merge_resolves.2.2.1 system user overlay true
  have blank : Entry.command.SetTo [overlay, user, system] " \t" :=
    ⟨[overlay], user, [system], rfl, rfl, by simp [Entry.command, overlay]⟩
  have dash : Entry.shell.SetTo [overlay, user, system] "dash" :=
    ⟨[overlay], user, [system], rfl, rfl, by simp [Entry.shell, overlay]⟩
  have blankFormatter : Entry.formatter.SetTo [overlay, user, system] " " :=
    ⟨[overlay, user], system, [], rfl, rfl, by simp [Entry.formatter, overlay, user]⟩
  have noType : Entry.typeName.Unset [overlay, user, system] := by
    simp [Entry.Unset, Entry.typeName, overlay, user, system]
  refine ⟨(resolves.refused ".").mpr (.inr ⟨_, blank, by decide⟩), ?_, ?_, ?_⟩
  · rcases resolves.shell with given | ⟨unset, -⟩
    · exact given.unique dash
    · exact absurd unset dash.not_unset
  · rcases resolves.formatter with ⟨text, given, equal⟩ | ⟨unset, -⟩
    · rw [given.unique blankFormatter] at equal
      exact equal
    · exact absurd unset blankFormatter.not_unset
  · rcases resolves.typeName with given | ⟨-, equal⟩
    · exact absurd noType given.not_unset
    · exact equal

end Settings

end QueryPipe
