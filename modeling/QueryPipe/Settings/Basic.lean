import QueryPipe.Run.Mode
import QueryPipe.Run.Process

/-!
Settings in layers.  A layer sets what it wants to set; of two layers the upper
one wins.
-/

namespace QueryPipe

namespace Settings

/-- Which literals are queries, as far as it is set. -/
structure Target where
  typeName : Option String := none
  fieldName : Option String := none
  formatPackage : Option String := none
  formatFunction : Option String := none
deriving DecidableEq, Repr

namespace Target

/-- A layer below another one. -/
def merge (lower upper : Target) : Target where
  typeName := upper.typeName <|> lower.typeName
  fieldName := upper.fieldName <|> lower.fieldName
  formatPackage := upper.formatPackage <|> lower.formatPackage
  formatFunction := upper.formatFunction <|> lower.formatFunction

/-- The shape with defaults for what is not set. -/
def shape (target : Target) : Site.Shape :=
  let default : Site.Shape := {}
  { typeName := target.typeName.getD default.typeName
    fieldName := target.fieldName.getD default.fieldName
    formatPackage := target.formatPackage.getD default.formatPackage
    formatFunction := target.formatFunction.getD default.formatFunction }

end Target

end Settings

/-- A layer of settings. -/
structure Settings where
  command : Option String := none
  mode : Option Run.Mode := none
  shell : Option String := none
  formatter : Option String := none
  /-- The largest source that is read, in bytes. -/
  limit : Option Nat := none
  target : Settings.Target := {}
deriving DecidableEq, Repr

namespace Settings

/-- A layer below another one. -/
def merge (lower upper : Settings) : Settings where
  command := upper.command <|> lower.command
  mode := upper.mode <|> lower.mode
  shell := upper.shell <|> lower.shell
  formatter := upper.formatter <|> lower.formatter
  limit := upper.limit <|> lower.limit
  target := lower.target.merge upper.target

/-- Layers from the lowest to the highest. -/
def mergeAll (layers : List Settings) : Settings :=
  layers.foldl merge {}

/-- A text that is not blank. -/
def unlessBlank (text : Option String) : Option String :=
  text.filter (!Text.isBlank ·)

/-- The formatter that is used if none is set and this one is there. -/
def defaultFormatter : String := "gofmt"

/-- Whether a directory of the search path holds the default formatter. -/
def hasDefaultFormatter [Files.WorkingDirectory] (tree : Files.Node) (searchPath : List String) :
    Bool :=
  (searchPath.map (Files.Path.join · defaultFormatter)).any (Files.isExecutableFile tree)

/-- Sets the default formatter if it is there and no layer sets one, not even to
blank text. -/
def withDefaultFormatter (settings : Settings) (isThere : Bool) : Settings :=
  if settings.formatter.isNone && isThere then
    { settings with formatter := some defaultFormatter }
  else settings

/-- The mode of a run. -/
def runMode (settings : Settings) : Run.Mode := settings.mode.getD .lint

/-- How files are processed, with defaults for what is not set.  A blank formatter
is none. -/
def config (settings : Settings) : Run.Config :=
  let default : Run.Config := {}
  { shape := settings.target.shape
    shell := settings.shell.getD default.shell
    formatter := unlessBlank settings.formatter
    limit := settings.limit.getD default.limit }

end Settings

end QueryPipe
