import QueryPipe.Text.Octets

/-!
Backslash escapes in the texts that tools print.
-/

namespace QueryPipe.Shell.Tool

open Text (Octets)

def isOctalDigit (char : Char) : Bool := '0' ≤ char && char ≤ '7'

/-- The byte that octal digits name. -/
def ofOctal (digits : List Char) : Char :=
  Char.ofNat ((digits.foldl (fun value digit => 8 * value + (digit.toNat - '0'.toNat)) 0) % 256)

/-- Characters that are named by a letter after a backslash. -/
def namedEscape? : Char → Option Char
  | '\\' => some '\\'
  | 'a' => some '\x07'
  | 'b' => some '\x08'
  | 'e' => some '\x1b'
  | 'f' => some '\x0c'
  | 'n' => some '\n'
  | 'r' => some '\r'
  | 't' => some '\t'
  | 'v' => some '\x0b'
  | _ => none

/-- Reads an escape after its backslash: a named character, or up to three octal
digits.  A backslash before anything else stands for itself. -/
def readEscape (text : Octets) : Char × Octets :=
  match text with
  | [] => ('\\', [])
  | char :: rest =>
    match namedEscape? char with
    | some named => (named, rest)
    | none =>
      let digits := (text.take 3).takeWhile isOctalDigit
      if digits.isEmpty then ('\\', text) else (ofOctal digits, text.drop digits.length)

/-- A text with its escapes read, and whether it asks to stop all printing.  An
octal number may follow a zero. -/
def unescapeWith : (fuel : Nat) → Octets → Octets × Bool
  | 0, text => (text, false)
  | _ + 1, [] => ([], false)
  | fuel + 1, '\\' :: rest =>
    match rest with
    | 'c' :: _ => ([], true)
    | '0' :: digits =>
      let octal := (digits.take 3).takeWhile isOctalDigit
      let (text, stops) := unescapeWith fuel (digits.drop octal.length)
      (ofOctal octal :: text, stops)
    | _ =>
      let (char, rest) := readEscape rest
      let (text, stops) := unescapeWith fuel rest
      (char :: text, stops)
  | fuel + 1, char :: rest =>
    let (text, stops) := unescapeWith fuel rest
    (char :: text, stops)

def unescape (text : Octets) : Octets × Bool :=
  unescapeWith (text.length + 1) text

/-- Words with blanks between them. -/
def joinWords (words : List Octets) : Octets :=
  List.intercalate [' '] words

/-- What `echo` prints.  Escapes are read if `readsEscapes` holds. -/
def echo (readsEscapes : Bool) (words : List Octets) : Octets :=
  let (words, ending) := match words with
    | first :: rest => if first == ['-', 'n'] then (rest, []) else (words, ['\n'])
    | [] => (words, ['\n'])
  if readsEscapes then
    let (text, stops) := unescape (joinWords words)
    text ++ (if stops then [] else ending)
  else joinWords words ++ ending

end QueryPipe.Shell.Tool
