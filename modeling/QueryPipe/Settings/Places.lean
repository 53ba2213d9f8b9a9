import QueryPipe.Settings.Document

/-!
Where settings are kept.
-/

namespace QueryPipe.Settings

/-- What decides where settings are looked for. -/
structure Surroundings where
  /-- The directory of the project, if it is named. -/
  projectRoot : Option String := none
  /-- The directory of configurations, if it is named. -/
  configHome : Option String := none
  /-- A directory of configurations that wins over the one named. -/
  override : Option String := none
  /-- The directory that relative paths start from. -/
  workingDirectory : String
deriving DecidableEq, Repr

/-- A name without blanks around it, if anything is left. -/
def named (text : Option String) : Option String :=
  (text.map Text.trim).filter (!·.isEmpty)

/-- The paths of the project's settings and of the user's. -/
structure Places where
  system : String
  user : String
deriving DecidableEq, Repr

/-- Below the project's root. -/
def systemFile : String := ".spqex.yaml"

/-- Below the directory of configurations. -/
def userFile : String := "spqex/settings.yaml"

/-- Below the project's root. -/
def defaultConfigHome : String := ".config"

/-- The paths where settings are looked for. -/
def places (surroundings : Surroundings) : Places :=
  let root := (named surroundings.projectRoot).getD surroundings.workingDirectory
  let home := match surroundings.override with
    | some home => home
    | none => (named surroundings.configHome).getD defaultConfigHome
  { system := Files.Path.join root systemFile
    user := Files.Path.join (Files.Path.join root home) userFile }

/-- The settings in a file; empty if it cannot be read. -/
def ofContent (content : Except Files.Fault (List UInt8)) : Settings :=
  match content with
  | .error _ => {}
  | .ok bytes =>
    match Text.Utf8.decode bytes with
    | .error _ => {}
    | .ok text => if Text.isBlank text then {} else ofText text

/-- The settings of a project with those of its user on top. -/
def load [Files.WorkingDirectory] (tree : Files.Node) (places : Places) : Settings :=
  (ofContent (Files.readBytes tree places.system)).merge
    (ofContent (Files.readBytes tree places.user))

end QueryPipe.Settings
