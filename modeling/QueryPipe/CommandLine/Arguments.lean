import QueryPipe.Settings.Basic

/-!
Reading the arguments of the command line.
-/

namespace QueryPipe.CommandLine

/-- An option with a value. -/
inductive Field where
  | mode
  | command
  | formatter
  | shell
  | typeName
  | fieldName
  | configHome
  /-- The directory, which is given without a name. -/
  | directory
deriving DecidableEq, Repr

/-- What a long name stands for. -/
inductive Meaning where
  | field (field : Field)
  | verbose
  | help
deriving DecidableEq, Repr

/-- The long names of options. -/
def long? : String → Option Meaning
  | "mode" => some (.field .mode)
  | "cmd" => some (.field .command)
  | "format-cmd" => some (.field .formatter)
  | "shell" => some (.field .shell)
  | "type" => some (.field .typeName)
  | "field" => some (.field .fieldName)
  | "conf" => some (.field .configHome)
  | "verbose" => some .verbose
  | "help" => some .help
  | _ => none

/-- The short names of options. -/
def short? : Char → Option Meaning
  | 'v' => some .verbose
  | 'h' => some .help
  | _ => none

/-- Why arguments are refused. -/
inductive UsageError where
  | missingRequiredArgument
  | valueValidation
  | invalidValue
  | unknownArgument
  | argumentConflict
  | tooManyValues
  /-- Help was asked for. -/
  | displayHelp
deriving DecidableEq, Repr

namespace UsageError

/-- Only those who ask for help get what they ask for. -/
def exitCode : UsageError → Nat
  | displayHelp => 0
  | _ => 2

end UsageError

/-- What has been read.  The value of an option is judged when the next argument
is understood, or at the end. -/
structure Reading where
  values : List (Field × String) := []
  isVerbose : Bool := false
  /-- The option read last, with its value if it has come. -/
  pending? : Option (Field × Option String) := none

namespace Reading

/-- Whether an option takes a value. -/
def validate (field : Field) (value : String) : Except UsageError Unit :=
  match field with
  | .mode =>
    match Run.Mode.parse value with
    | .ok _ => .ok ()
    | .error _ => .error .valueValidation
  | .configHome => if value.isEmpty then .error .invalidValue else .ok ()
  | .directory => if value.isEmpty then .error .invalidValue else .ok ()
  | _ => .ok ()

/-- Sets an option, which must not be set already. -/
def assign (reading : Reading) (field : Field) (value : String) : Except UsageError Reading :=
  if reading.values.any (·.1 == field) then .error .argumentConflict
  else
    match validate field value with
    | .error error => .error error
    | .ok () => .ok { reading with values := reading.values ++ [(field, value)] }

/-- Judges the option read last. -/
def resolve (reading : Reading) : Except UsageError Reading :=
  match reading.pending? with
  | none => .ok reading
  | some (_, none) => .error .invalidValue
  | some (field, some value) => { reading with pending? := none }.assign field value

/-- Reads an option without a value. -/
def readSwitch (reading : Reading) (meaning : Meaning) : Except UsageError Reading := do
  let reading ← reading.resolve
  match meaning with
  | .help => .error .displayHelp
  | .verbose =>
    if reading.isVerbose then .error .argumentConflict
    else return { reading with isVerbose := true }
  | .field field => return { reading with pending? := some (field, none) }

/-- Reads an option by its long name, with the value attached to it. -/
def readLong (reading : Reading) (name : String) (value? : Option String) :
    Except UsageError Reading :=
  match long? name, value? with
  | none, _ => .error .unknownArgument
  | some (.field field), some value => do (← reading.resolve).assign field value
  | some _, some _ => .error .tooManyValues
  | some meaning, none => reading.readSwitch meaning

/-- Reads short names that stand together. -/
def readShort (reading : Reading) (names : List Char) : Except UsageError Reading :=
  names.foldlM (fun reading name =>
    match short? name with
    | none => .error .unknownArgument
    | some meaning => reading.readSwitch meaning) reading

/-- Reads an argument that stands on its own. -/
def readPlain (reading : Reading) (argument : String) : Except UsageError Reading :=
  let hasDirectory := reading.values.any (·.1 == .directory)
    || reading.pending?.any (·.1 == .directory)
  if hasDirectory then .error .unknownArgument
  else do
    let reading ← reading.resolve
    return { reading with pending? := some (.directory, some argument) }

/-- Reads arguments up to the end.  After two dashes all stand on their own. -/
def readAll : (isPlain : Bool) → Reading → List String → Except UsageError Reading
  | _, reading, [] => reading.resolve
  | true, reading, argument :: rest => do readAll true (← reading.readPlain argument) rest
  | false, reading, argument :: rest =>
    match argument.toList with
    | ['-', '-'] => readAll true reading rest
    | '-' :: '-' :: long => do
      let name := long.takeWhile (· != '=')
      let value? := (long.dropWhile (· != '=')).tail?.map String.ofList
      readAll false (← reading.readLong (String.ofList name) value?) rest
    | '-' :: short :: others => do readAll false (← reading.readShort (short :: others)) rest
    | _ =>
      match reading.pending? with
      | some (field, none) =>
        readAll false { reading with pending? := some (field, some argument) } rest
      | _ => do readAll false (← reading.readPlain argument) rest

/-- The value of an option. -/
def value? (reading : Reading) (field : Field) : Option String :=
  reading.values.lookup field

end Reading

/-- The arguments of the command line. -/
structure Arguments where
  directory : String
  configHome : Option String
  isVerbose : Bool
  /-- The settings that options make. -/
  settings : Settings
deriving DecidableEq, Repr

namespace Arguments

/-- The settings that options make. -/
def settingsOf (reading : Reading) : Settings where
  command := reading.value? .command
  mode := (reading.value? .mode).bind fun text => (Run.Mode.parse text).toOption
  shell := reading.value? .shell
  formatter := reading.value? .formatter
  target := {
    typeName := reading.value? .typeName
    fieldName := reading.value? .fieldName }

/-- Reads arguments. -/
def parse (arguments : List String) : Except UsageError Arguments := do
  let reading ← Reading.readAll false {} arguments
  match reading.value? .directory with
  | none => .error .missingRequiredArgument
  | some directory => return {
      directory
      configHome := reading.value? .configHome
      isVerbose := reading.isVerbose
      settings := settingsOf reading }

end Arguments

end QueryPipe.CommandLine
