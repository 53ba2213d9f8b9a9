import QueryPipe.Shell.Tool.Escape

/-!
Printing by a format.
-/

namespace QueryPipe.Shell.Tool

open Text (Octets)

namespace Printf

/-- How a value is printed. -/
structure Directive where
  flags : List Char
  width : Nat
  precision? : Option Nat
  conversion : Char
deriving DecidableEq, Repr

/-- A piece of a format. -/
inductive Piece where
  | text (content : Octets)
  | directive (directive : Directive)
  | invalid (directive : Octets)
  /-- A directive without its last character. -/
  | incomplete
deriving DecidableEq, Repr

def number (digits : List Char) : Nat :=
  digits.foldl (fun value digit => 10 * value + (digit.toNat - '0'.toNat)) 0

def isFlag (char : Char) : Bool := ['-', '+', ' ', '#', '0'].contains char

def isConversion (char : Char) : Bool :=
  ['s', 'b', 'c', 'd', 'i', 'u', 'o', 'x', 'X'].contains char

/-- Reads a directive after its percent sign. -/
def readDirective (text : Octets) : Piece × Octets :=
  let flags := text.takeWhile isFlag
  let rest := text.dropWhile isFlag
  let width := rest.takeWhile Char.isDigit
  let rest := rest.dropWhile Char.isDigit
  let (precision?, rest) := match rest with
    | '.' :: rest => (some (number (rest.takeWhile Char.isDigit)), rest.dropWhile Char.isDigit)
    | rest => (none, rest)
  match rest with
  | char :: rest =>
    if isConversion char then (.directive ⟨flags, number width, precision?, char⟩, rest)
    else (.invalid ('%' :: text.take (text.length - rest.length)), rest)
  | [] => (.incomplete, [])

/-- The pieces of a format; each step of `fuel` reads at least one character. -/
def piecesWith : (fuel : Nat) → Octets → List Piece
  | 0, _ => []
  | _ + 1, [] => []
  | fuel + 1, '%' :: '%' :: rest => .text ['%'] :: piecesWith fuel rest
  | fuel + 1, '%' :: rest =>
    let (piece, rest) := readDirective rest
    piece :: piecesWith fuel rest
  | fuel + 1, '\\' :: rest =>
    let (char, rest) := readEscape rest
    .text [char] :: piecesWith fuel rest
  | fuel + 1, char :: rest => .text [char] :: piecesWith fuel rest

/-- Adds blanks or zeros up to the width. -/
def pad (directive : Directive) (text : Octets) : Octets :=
  let missing := directive.width - text.length
  if directive.flags.contains '-' then text ++ List.replicate missing ' '
  else List.replicate missing ' ' ++ text

/-- The digits of a number in a base. -/
def digits (base : Nat) (isUpper : Bool) (value : Nat) : Octets :=
  (Nat.toDigits base value).map fun digit => if isUpper then digit.toUpper else digit

/-- The value that an argument spells, and what there is to complain about. -/
def readInt (argument : Octets) : Int × Option String :=
  match argument with
  | '\'' :: char :: _ => (char.toNat, none)
  | '"' :: char :: _ => (char.toNat, none)
  | _ =>
    let (isNegative, rest) := match argument with
      | '-' :: rest => (true, rest)
      | '+' :: rest => (false, rest)
      | rest => (false, rest)
    let (base, rest) := match rest with
      | '0' :: 'x' :: rest => (16, rest)
      | '0' :: 'X' :: rest => (16, rest)
      | '0' :: rest => (8, '0' :: rest)
      | rest => (10, rest)
    let value? (char : Char) : Option Nat :=
      let value :=
        if char.isDigit then some (char.toNat - '0'.toNat)
        else if 'a' ≤ char && char ≤ 'f' then some (char.toNat - 'a'.toNat + 10)
        else if 'A' ≤ char && char ≤ 'F' then some (char.toNat - 'A'.toNat + 10)
        else none
      value.filter (· < base)
    let understood := rest.takeWhile fun char => (value? char).isSome
    let value := understood.foldl (fun value char => base * value + (value? char).getD 0) 0
    let complaint? :=
      if argument.isEmpty then none
      else if understood.isEmpty then some "expected numeric value"
      else if understood.length < rest.length then some "not completely converted"
      else none
    ((if isNegative then -(value : Int) else value), complaint?)

/-- Numbers without a sign are counted modulo this one. -/
def wordModulus : Int := 18446744073709551616

/-- A number by a directive. -/
def formatInt (directive : Directive) (value : Int) : Octets :=
  let isSigned := directive.conversion == 'd' || directive.conversion == 'i'
  let magnitude := if isSigned then value.natAbs else (value % wordModulus).toNat
  let body := match directive.conversion with
    | 'o' => digits 8 false magnitude
    | 'x' => digits 16 false magnitude
    | 'X' => digits 16 true magnitude
    | _ => digits 10 false magnitude
  let body := List.replicate ((directive.precision?.getD 1) - body.length) '0' ++ body
  let sign :=
    if !isSigned then []
    else if value < 0 then ['-']
    else if directive.flags.contains '+' then ['+']
    else if directive.flags.contains ' ' then [' ']
    else []
  if directive.flags.contains '0' && !directive.flags.contains '-'
      && directive.precision?.isNone then
    sign ++ List.replicate (directive.width - sign.length - body.length) '0' ++ body
  else pad directive (sign ++ body)

/-- What is left of a run over a format. -/
structure Progress where
  printed : Octets := []
  arguments : List Octets
  complaints : List Octets := []
  status : Nat := 0
  isStopped : Bool := false

/-- Prints one piece. -/
def step (progress : Progress) (piece : Piece) : Progress :=
  if progress.isStopped then progress
  else
    match piece with
    | .text content => { progress with printed := progress.printed ++ content }
    | .invalid directive =>
      { progress with
        complaints := progress.complaints ++ [directive ++ ": invalid directive".toList]
        status := 2
        isStopped := true }
    | .incomplete =>
      { progress with
        complaints := progress.complaints ++ ["missing format character".toList]
        status := 2
        isStopped := true }
    | .directive directive =>
      let argument := progress.arguments.head?.getD []
      let progress := { progress with arguments := progress.arguments.drop 1 }
      let cut (text : Octets) : Octets := match directive.precision? with
        | some precision => text.take precision
        | none => text
      match directive.conversion with
      | 's' => { progress with printed := progress.printed ++ pad directive (cut argument) }
      | 'c' =>
        { progress with
          printed := progress.printed ++ pad directive [argument.head?.getD '\x00'] }
      | 'b' =>
        let (text, stops) := unescape argument
        { progress with
          printed := progress.printed ++ pad directive (cut text)
          isStopped := stops }
      | _ =>
        let (value, complaint?) := readInt argument
        let progress := { progress with
          printed := progress.printed ++ formatInt directive value }
        match complaint? with
        | none => progress
        | some complaint =>
          { progress with
            complaints := progress.complaints ++ [argument ++ ": ".toList ++ complaint.toList]
            status := max progress.status 1 }

/-- Runs over the format as long as arguments are left; `fuel` bounds the runs. -/
def run (pieces : List Piece) : (fuel : Nat) → Progress → Progress
  | 0, progress => progress
  | fuel + 1, progress =>
    let next := pieces.foldl step progress
    if next.isStopped || next.arguments.isEmpty
        || next.arguments.length == progress.arguments.length then next
    else run pieces fuel next

end Printf

/-- What `printf` prints for a format and its arguments, its complaints and its
status. -/
def printf (format : Octets) (arguments : List Octets) : Octets × List Octets × Nat :=
  let pieces := Printf.piecesWith (format.length + 1) format
  let progress := Printf.run pieces (arguments.length + 1) { arguments }
  (progress.printed, progress.complaints, progress.status)

end QueryPipe.Shell.Tool
