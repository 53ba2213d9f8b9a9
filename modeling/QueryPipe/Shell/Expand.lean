import QueryPipe.Shell.Pattern
import QueryPipe.Shell.State

/-!
From words to the arguments of a command.  The value of an unquoted expansion is
cut into fields at blanks; fields with wildcards become the names they match.
-/

namespace QueryPipe.Shell

open Text (Octets)

/-- A piece of an expanded word. -/
inductive Item where
  | char (char : Char) (isQuoted : Bool)
  /-- A blank between fields. -/
  | blank
  /-- Something was quoted here, if only an empty text. -/
  | quoted
deriving DecidableEq, Repr

/-- The number that the script knows itself by. -/
def ownNumber : Octets := "4242".toList

/-- The value of a parameter. -/
def parameterValue (setting : Setting) (state : State) (name : Octets) : Octets :=
  match name with
  | ['$'] => ownNumber
  | ['?'] => (toString state.status).toList
  | ['#'] => (toString setting.arguments.length).toList
  | ['@'] => List.intercalate [' '] setting.arguments
  | ['*'] => List.intercalate [' '] setting.arguments
  | ['0'] => setting.name
  | [char] =>
    if char.isDigit then (setting.arguments[char.toNat - '1'.toNat]?).getD []
    else (state.value? name).getD []
  | _ => (state.value? name).getD []

/-- Characters that separate fields. -/
def isFieldBlank (char : Char) : Bool := char == ' ' || char == '\t' || char == '\n'

/-- The items of an expansion's value. -/
def valueItems (isQuoted : Bool) (value : Octets) : List Item :=
  if isQuoted then .quoted :: value.map (.char · true)
  else value.map fun char => if isFieldBlank char then .blank else .char char false

/-- Runs the script of a substitution. -/
abbrev Substitute := (source : Octets) → (line : Nat) → State → Octets × State

/-- Expands the parts of a word, from left to right. -/
def expandParts (setting : Setting) (substitute : Substitute) (splits : Bool) :
    Word → State → List Item × State
  | [], state => ([], state)
  | part :: rest, state =>
    let (items, state) := match part with
      | .text content isQuoted =>
        ((if isQuoted then [.quoted] else []) ++ content.map (Item.char · isQuoted), state)
      | .parameter name isQuoted =>
        (valueItems (isQuoted || !splits) (parameterValue setting state name), state)
      | .substitution source line isQuoted =>
        let (value, state) := substitute source line state
        (valueItems (isQuoted || !splits) value, state)
    let (others, state) := expandParts setting substitute splits rest state
    (items ++ others, state)

/-- The characters among items. -/
def glyphs (items : List Item) : List Pattern.Glyph :=
  items.filterMap fun
    | .char char isQuoted => some (char, isQuoted)
    | _ => none

/-- Cuts items into fields at blanks. -/
def fields (items : List Item) : List (List Pattern.Glyph) :=
  ((Text.splitOn .blank items).filter (!·.isEmpty)).map glyphs

/-- A word that stays one field. -/
def expandWhole (setting : Setting) (substitute : Substitute) (word : Word) (state : State) :
    Octets × State :=
  let (items, state) := expandParts setting substitute false word state
  ((glyphs items).map (·.1), state)

/-- A word as a pattern. -/
def expandPattern (setting : Setting) (substitute : Substitute) (word : Word) (state : State) :
    Pattern × State :=
  let (items, state) := expandParts setting substitute false word state
  (Pattern.ofGlyphs (glyphs items), state)

variable [Files.WorkingDirectory]

/-- The names in the working directory that a field with wildcards matches, in order;
the field itself if there are none. -/
def matchNames (tree : Files.Node) (field : List Pattern.Glyph) : List Octets :=
  let plain := field.map (·.1)
  if !Pattern.isActive field || plain.contains '/' then [plain]
  else
    match tree.get? Files.WorkingDirectory.location with
    | some (.directory entries) =>
      let pattern := Pattern.ofGlyphs field
      let names := (entries.map fun entry => Octets.ofString entry.1).filter fun name =>
        (name.head? != some '.' || plain.head? == some '.') && pattern.covers name
      if names.isEmpty then [plain]
      else names.mergeSort (Text.precedes Text.isLessChar)
    | _ => [plain]

/-- The arguments that words become. -/
def expandWords (setting : Setting) (substitute : Substitute) :
    List Word → State → List Octets × State
  | [], state => ([], state)
  | word :: rest, state =>
    let (items, state) := expandParts setting substitute true word state
    let found := (fields items).flatMap (matchNames state.tree)
    let (others, state) := expandWords setting substitute rest state
    (found ++ others, state)

end QueryPipe.Shell
