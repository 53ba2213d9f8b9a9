import QueryPipe.Shell.Tool.Regex
import QueryPipe.Text.Split

/-!
Editing a text line by line.
-/

namespace QueryPipe.Shell.Tool

open Text (Octets)

namespace Sed

/-- A part of a replacement. -/
inductive Insert where
  | text (char : Char)
  /-- The text of a group; group zero is the whole match. -/
  | group (index : Nat)
deriving DecidableEq, Repr

/-- What is done to a line. -/
inductive Action where
  | substitute (regex : Regex) (replacement : List Insert) (isGlobal : Bool) (first : Nat)
      (prints ignoreCase : Bool)
  | replaceChars (table : List (Char × Char))
  | print
  | delete
  | quit
deriving DecidableEq, Repr

/-- Which lines are meant. -/
inductive Address where
  | line (number : Nat)
  | last
  | containing (regex : Regex)
deriving DecidableEq, Repr

/-- An action for the lines from one address to another. -/
structure Command where
  start? : Option Address
  stop? : Option Address
  isNegated : Bool
  action : Action
deriving DecidableEq, Repr

/-! ## Reading -/

/-- The text up to an unescaped delimiter, and what follows.  An escaped delimiter
loses its backslash, unless it is kept as an escape by `keeps`. -/
def upToDelimiter (delimiter : Char) (keeps : Bool) : Octets → Octets → Option (Octets × Octets)
  | _, [] => none
  | taken, '\\' :: char :: rest =>
    if char == delimiter then
      upToDelimiter delimiter keeps
        (if keeps then char :: '\\' :: taken else char :: taken) rest
    else upToDelimiter delimiter keeps (char :: '\\' :: taken) rest
  | taken, char :: rest =>
    if char == delimiter then some (taken.reverse, rest)
    else upToDelimiter delimiter keeps (char :: taken) rest

/-- The parts of a replacement. -/
def inserts : Octets → List Insert
  | [] => []
  | '\\' :: char :: rest =>
    (if char.isDigit then .group (char.toNat - '0'.toNat)
      else if char == 'n' then .text '\n'
      else if char == 't' then .text '\t'
      else .text char) :: inserts rest
  | '&' :: rest => .group 0 :: inserts rest
  | char :: rest => .text char :: inserts rest

/-- The characters of a transliteration. -/
def transliterated : Octets → Octets
  | [] => []
  | '\\' :: char :: rest => (if char == 'n' then '\n' else char) :: transliterated rest
  | char :: rest => char :: transliterated rest

/-- Why a script is refused. -/
inductive Refusal where
  | unterminated (command : Char)
  | unknownOption
  | unknownCommand (command : Char)
  | badExpression
  | missingCommand
  | unequalLengths
deriving DecidableEq, Repr

namespace Refusal

/-- The message; `position` counts the characters read. -/
def message (position : Nat) (refusal : Refusal) : String :=
  "sed: -e expression #1, char " ++ toString position ++ ": " ++ match refusal with
    | unterminated command =>
      if command == 'y' then "unterminated `y' command"
      else if command == '/' then "unterminated address regex"
      else "unterminated `s' command"
    | unknownOption => "unknown option to `s'"
    | unknownCommand command => "unknown command: `" ++ String.singleton command ++ "'"
    | badExpression => "Invalid preceding regular expression"
    | missingCommand => "missing command"
    | unequalLengths => "strings for `y' command are different lengths"

end Refusal

/-- Flags of a substitution. -/
structure Flags where
  isGlobal : Bool := false
  first : Nat := 1
  prints : Bool := false
  ignoreCase : Bool := false

/-- Reads the flags of a substitution. -/
def readFlags : (fuel : Nat) → Flags → Octets → Flags × Octets
  | 0, flags, text => (flags, text)
  | fuel + 1, flags, text =>
    match text with
    | 'g' :: rest => readFlags fuel { flags with isGlobal := true } rest
    | 'p' :: rest => readFlags fuel { flags with prints := true } rest
    | 'i' :: rest => readFlags fuel { flags with ignoreCase := true } rest
    | 'I' :: rest => readFlags fuel { flags with ignoreCase := true } rest
    | char :: _ =>
      if char.isDigit then
        readFlags fuel { flags with first := Regex.number (text.takeWhile Char.isDigit) }
          (text.dropWhile Char.isDigit)
      else (flags, text)
    | [] => (flags, [])

/-- Reads a regular expression up to a delimiter. -/
def readRegex (way : Regex.Dialect) (command delimiter : Char) (text : Octets) :
    Except Refusal (Regex × Octets) :=
  match upToDelimiter delimiter false [] text with
  | none => .error (.unterminated command)
  | some (source, rest) =>
    match Regex.parse? way source with
    | some regex => .ok (regex, rest)
    | none => .error .badExpression

/-- Reads an action. -/
def readAction (way : Regex.Dialect) (text : Octets) : Except Refusal (Action × Octets) :=
  match text with
  | [] => .error .missingCommand
  | 's' :: delimiter :: rest => do
    let (regex, rest) ← readRegex way 's' delimiter rest
    match upToDelimiter delimiter true [] rest with
    | none => .error (.unterminated 's')
    | some (replacement, rest) =>
      let (flags, rest) := readFlags rest.length {} rest
      .ok (.substitute regex (inserts replacement) flags.isGlobal flags.first flags.prints
        flags.ignoreCase, rest)
  | 's' :: [] => .error (.unterminated 's')
  | 'y' :: delimiter :: rest =>
    match upToDelimiter delimiter false [] rest with
    | none => .error (.unterminated 'y')
    | some (source, rest) =>
      match upToDelimiter delimiter false [] rest with
      | none => .error (.unterminated 'y')
      | some (image, rest) =>
        let source := transliterated source
        let image := transliterated image
        if source.length == image.length then .ok (.replaceChars (source.zip image), rest)
        else .error .unequalLengths
  | 'p' :: rest => .ok (.print, rest)
  | 'd' :: rest => .ok (.delete, rest)
  | 'q' :: rest => .ok (.quit, rest)
  | char :: _ => .error (.unknownCommand char)

/-- Reads an address, if there is one. -/
def readAddress (way : Regex.Dialect) (text : Octets) :
    Except Refusal (Option Address × Octets) :=
  match text with
  | '$' :: rest => .ok (some .last, rest)
  | '/' :: rest => (readRegex way '/' '/' rest).map fun (regex, rest) =>
      (some (.containing regex), rest)
  | char :: _ =>
    if char.isDigit then
      .ok (some (.line (Regex.number (text.takeWhile Char.isDigit))),
        text.dropWhile Char.isDigit)
    else .ok (none, text)
  | [] => .ok (none, [])

def isSeparator (char : Char) : Bool := [' ', '\t', '\n', ';'].contains char

/-- Reads the commands of a script; on refusal also what was left to read. -/
def readCommands (way : Regex.Dialect) :
    (fuel : Nat) → List Command → Octets → Except (Refusal × Octets) (List Command)
  | 0, commands, _ => .ok commands
  | fuel + 1, commands, text =>
    match text.dropWhile isSeparator with
    | [] => .ok commands
    | '#' :: rest => readCommands way fuel commands (rest.dropWhile (· != '\n'))
    | text =>
      match readOne text with
      | .error refusal => .error (refusal, text)
      | .ok (command, rest) =>
        match rest.dropWhile (fun char => char == ' ' || char == '\t') with
        | [] => .ok (commands ++ [command])
        | char :: after =>
          if char == ';' || char == '\n' then
            readCommands way fuel (commands ++ [command]) after
          else .error (.unknownOption, after)
where
  /-- One command with its addresses. -/
  readOne (text : Octets) : Except Refusal (Command × Octets) := do
    let (start?, rest) ← readAddress way text
    let (stop?, rest) ← match start?, rest with
      | some _, ',' :: rest => readAddress way rest
      | _, rest => .ok (none, rest)
    let rest := rest.dropWhile (· == ' ')
    let (isNegated, rest) := match rest with
      | '!' :: rest => (true, rest.dropWhile (· == ' '))
      | rest => (false, rest)
    let (action, rest) ← readAction way rest
    return (⟨start?, stop?, isNegated, action⟩, rest)

/-! ## Running -/

/-- The text of a replacement for a match. -/
def insertText (start stop : Regex.Place) : Insert → Octets
  | .text char => [char]
  | .group 0 => (stop.before.take (stop.before.length - start.before.length)).reverse
  | .group index => ((stop.groups.find? (·.1 == index)).map (·.2)).getD []

/-- Replaces matches from a place on, and counts those passed.  The result is
reversed; `lastEnd` is where the match before ended. -/
def substituteFrom (regex : Regex) (replacement : List Insert) (isGlobal : Bool) (first : Nat)
    (ignoreCase : Bool) : (fuel : Nat) → (count : Nat) → (lastEnd : Option Nat) →
    (changed : Bool) → Octets → Regex.Place → Octets × Bool
  | 0, _, _, changed, done, place => (place.rest.reverse ++ done, changed)
  | fuel + 1, count, lastEnd, changed, done, place =>
    match regex.search? ignoreCase (place.rest.length + 1) { place with groups := [] } with
    | none => (place.rest.reverse ++ done, changed)
    | some (start, stop) =>
      let skipped := start.before.take (start.before.length - place.before.length)
      let done := skipped ++ done
      let isEmpty := start.rest.length == stop.rest.length
      let isRepeat := isEmpty && lastEnd == some start.before.length
      let count := if isRepeat then count else count + 1
      let replaces := !isRepeat && (if isGlobal then first ≤ count else count == first)
      let matched := stop.before.take (stop.before.length - start.before.length)
      let done :=
        if replaces then (replacement.flatMap (insertText start stop)).reverse ++ done
        else matched ++ done
      let changed := changed || replaces
      if replaces && !isGlobal then (stop.rest.reverse ++ done, changed)
      else if isEmpty then
        match stop.rest with
        | [] => (done, changed)
        | char :: rest =>
          substituteFrom regex replacement isGlobal first ignoreCase fuel count
            (some stop.before.length) changed (char :: done)
            { stop with before := char :: stop.before, rest }
      else
        substituteFrom regex replacement isGlobal first ignoreCase fuel count
          (some stop.before.length) changed done stop

/-- A line with its matches replaced, and whether there was any. -/
def substitute (regex : Regex) (replacement : List Insert) (isGlobal : Bool) (first : Nat)
    (ignoreCase : Bool) (line : Octets) : Octets × Bool :=
  let (reversed, changed) := substituteFrom regex replacement isGlobal first ignoreCase
    (line.length + 1) 0 none false [] ⟨[], line, []⟩
  (reversed.reverse, changed)

/-- A line of the input. -/
structure Line where
  number : Nat
  isLast : Bool

/-- Whether an address means a line with a text. -/
def Address.selects (line : Line) (text : Octets) : Address → Bool
  | .line number => number == line.number
  | .last => line.isLast
  | .containing regex => (regex.search? false (text.length + 1) ⟨[], text, []⟩).isSome

/-- Whether a command applies to a line. -/
def Command.applies (line : Line) (text : Octets) (command : Command) : Bool :=
  let isSelected := match command.start?, command.stop? with
    | none, _ => true
    | some start, none => start.selects line text
    | some (.line start), some (.line stop) =>
      start == line.number || (start ≤ line.number && line.number ≤ stop)
    | some (.line start), some .last => start ≤ line.number
    | some start, some stop => start.selects line text || stop.selects line text
  isSelected != command.isNegated

/-- A line in the course of a script. -/
structure Progress where
  text : Octets
  /-- Lines printed before the line itself, in order. -/
  printed : List Octets := []
  isDeleted : Bool := false
  quits : Bool := false

/-- Runs one command over a line. -/
def step (line : Line) (progress : Progress) (command : Command) : Progress :=
  if progress.isDeleted || progress.quits || !command.applies line progress.text then progress
  else
    match command.action with
    | .substitute regex replacement isGlobal first prints ignoreCase =>
      let (text, changed) := substitute regex replacement isGlobal first ignoreCase progress.text
      { progress with
        text
        printed := if changed && prints then progress.printed ++ [text] else progress.printed }
    | .replaceChars table =>
      { progress with text := progress.text.map fun char => (table.lookup char).getD char }
    | .print => { progress with printed := progress.printed ++ [progress.text] }
    | .delete => { progress with isDeleted := true }
    | .quit => { progress with quits := true }

/-- Runs a script over lines; the result is the printed lines, in reverse, and
whether the last of them comes from the last line. -/
def runLines (commands : List Command) (isQuiet : Bool) :
    (number : Nat) → List Octets → List Octets → List Octets × Bool
  | _, printed, [] => (printed, false)
  | number, printed, text :: rest =>
    let progress := commands.foldl (step ⟨number, rest.isEmpty⟩) { text }
    let own := if isQuiet || progress.isDeleted then [] else [progress.text]
    let added := progress.printed ++ own
    let printed := added.reverse ++ printed
    if rest.isEmpty then (printed, !added.isEmpty)
    else if progress.quits then (printed, false)
    else runLines commands isQuiet (number + 1) printed rest

end Sed

/-- What `sed` prints for an input.  A last line that is not ended stays so, if it
is printed. -/
def sed (way : Regex.Dialect) (isQuiet : Bool) (script input : Octets) : Except String Octets :=
  match Sed.readCommands way (script.length + 1) [] script with
  | .error (refusal, rest) => .error (refusal.message (script.length - rest.length))
  | .ok commands =>
    if input.isEmpty then .ok []
    else
      let isEnded := input.getLast? == some '\n'
      let lines := Text.splitOn '\n' (if isEnded then input.dropLast else input)
      let (printed, hasLast) := Sed.runLines commands isQuiet 1 [] lines
      .ok (List.intercalate ['\n'] printed.reverse
        ++ (if (isEnded || !hasLast) && !printed.isEmpty then ['\n'] else []))

end QueryPipe.Shell.Tool
