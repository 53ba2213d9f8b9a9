import QueryPipe.Shell.Tool.Escape

/-!
Replacing characters by characters.
-/

namespace QueryPipe.Shell.Tool

open Text (Octets)

namespace Tr

/-- The characters from one to another. -/
def between (low high : Char) : Octets :=
  (List.range (high.toNat + 1 - low.toNat)).map fun offset => Char.ofNat (low.toNat + offset)

/-- All characters below 256. -/
def allOctets : Octets := (List.range 256).map Char.ofNat

/-- The members of a named class. -/
def classMembers? (name : String) : Option Octets :=
  let members (test : Char → Bool) : Option Octets := some (allOctets.filter test)
  let isPrinted (char : Char) : Bool := ' ' ≤ char && char ≤ '~'
  match name with
  | "alnum" => members Char.isAlphanum
  | "alpha" => members Char.isAlpha
  | "blank" => members fun char => char == ' ' || char == '\t'
  | "cntrl" => members fun char => char < ' ' || char == '\x7f'
  | "digit" => members Char.isDigit
  | "graph" => members fun char => isPrinted char && char != ' '
  | "lower" => members Char.isLower
  | "print" => members isPrinted
  | "punct" => members fun char => isPrinted char && char != ' ' && !char.isAlphanum
  | "space" => members fun char => char == ' ' || ('\t' ≤ char && char ≤ '\r')
  | "upper" => members Char.isUpper
  | "xdigit" => members fun char =>
      char.isDigit || ('a' ≤ char && char ≤ 'f') || ('A' ≤ char && char ≤ 'F')
  | _ => none

/-- A class such as `[:upper:]` at the front of a text. -/
def class? (text : Octets) : Option (Octets × Octets) :=
  match text with
  | '[' :: ':' :: rest =>
    let name := rest.takeWhile (· != ':')
    match rest.dropWhile (· != ':') with
    | ':' :: ']' :: rest => (classMembers? (String.ofList name)).map (·, rest)
    | _ => none
  | _ => none

/-- Reads the members of a set; each step of `fuel` reads at least one character. -/
def membersWith : (fuel : Nat) → Octets → Octets
  | 0, _ => []
  | _ + 1, [] => []
  | fuel + 1, char :: rest =>
    match class? (char :: rest) with
    | some (members, rest) => members ++ membersWith fuel rest
    | none =>
      let (low, rest) := readOne char rest
      match rest with
      | '-' :: next :: rest' =>
        let (high, rest') := readOne next rest'
        between low high ++ membersWith fuel rest'
      | rest => low :: membersWith fuel rest
where
  /-- One character, which may be escaped. -/
  readOne (char : Char) (rest : Octets) : Char × Octets :=
    if char == '\\' then
      match rest with
      | [] => (char, [])
      | escaped :: after =>
        match readEscape rest with
        | ('\\', _) => (escaped, after)
        | read => read
    else (char, rest)

/-- A range of a set whose ends are in the wrong order. -/
def reversedRange? : Octets → Option Octets
  | low :: '-' :: high :: rest =>
    if low != '\\' && high != '\\' && high < low then some [low, '-', high]
    else reversedRange? rest
  | _ :: rest => reversedRange? rest
  | [] => none

/-- The members of a set, in order. -/
def members (set : Octets) : Octets :=
  membersWith (set.length + 1) set

/-- What a character becomes.  A second set that is too short is extended by its
last character. -/
def image (first second : Octets) (char : Char) : Char :=
  match second.getLast? with
  | none => char
  | some last =>
    let padded := second ++ List.replicate (first.length - second.length) last
    match ((first.zip padded).reverse.find? (·.1 == char)) with
    | some (_, image) => image
    | none => char

/-- Drops members of a set that follow themselves. -/
def squeeze (set : Octets) (text : Octets) : Octets :=
  (text.foldl (fun taken char =>
    if set.contains char && taken.head? == some char then taken else char :: taken) []).reverse

end Tr

/-- What `tr` is asked to do. -/
structure TrOptions where
  deletes : Bool := false
  complements : Bool := false
  squeezes : Bool := false
deriving DecidableEq, Repr

/-- What `tr` prints for an input. -/
def tr (options : TrOptions) (first second : Octets) (input : Octets) : Octets :=
  let named := Tr.members first
  let first := if options.complements then Tr.allOctets.filter (!named.contains ·) else named
  let second := Tr.members second
  if options.deletes then
    let kept := input.filter (!first.contains ·)
    if options.squeezes then Tr.squeeze second kept else kept
  else if second.isEmpty then Tr.squeeze first input
  else
    let table := (Tr.allOctets.map (Tr.image first second)).toArray
    let replaced := input.map fun char => (table[char.toNat]?).getD char
    if options.squeezes then Tr.squeeze second replaced else replaced

end QueryPipe.Shell.Tool
