import QueryPipe.Shell.Pattern

/-!
Regular expressions over lines.
-/

namespace QueryPipe.Shell.Tool

open Text (Octets)

/-- A regular expression. -/
inductive Regex where
  | empty
  | literal (char : Char)
  | any
  | oneOf (isNegated : Bool) (ranges : List (Char × Char))
  | lineStart
  | lineEnd
  | group (index : Nat) (body : Regex)
  | seq (first second : Regex)
  | alt (first second : Regex)
  | star (body : Regex)
deriving DecidableEq, Repr

namespace Regex

/-- A place in a line, with the groups matched on the way. -/
structure Place where
  before : Octets
  rest : Octets
  groups : List (Nat × Octets)
deriving DecidableEq, Repr

namespace Place

/-- The place after one more character. -/
def advance? (place : Place) (test : Char → Bool) : Option Place :=
  match place.rest with
  | char :: rest =>
    if test char then some { place with before := char :: place.before, rest } else none
  | [] => none

end Place

/-- Repeats a step that must get on; `fuel` bounds the repetitions. -/
def repeated (step : Place → List Place) : (fuel : Nat) → Place → List Place
  | 0, place => [place]
  | fuel + 1, place =>
    ((step place).filter (·.rest.length < place.rest.length)).flatMap (repeated step fuel)
      ++ [place]

/-- The places that a match can end at. -/
def ends (ignoreCase : Bool) : Regex → Place → List Place
  | empty, place => [place]
  | literal expected, place =>
    (place.advance? fun char =>
      if ignoreCase then char.toLower == expected.toLower else char == expected).toList
  | any, place => (place.advance? fun _ => true).toList
  | oneOf isNegated ranges, place =>
    (place.advance? fun char =>
      (Pattern.inRanges ranges char
        || (ignoreCase && (Pattern.inRanges ranges char.toLower
          || Pattern.inRanges ranges char.toUpper))) != isNegated).toList
  | lineStart, place => if place.before.isEmpty then [place] else []
  | lineEnd, place => if place.rest.isEmpty then [place] else []
  | group index body, place =>
    (ends ignoreCase body place).map fun after =>
      let matched := (after.before.take (after.before.length - place.before.length)).reverse
      { after with groups := (index, matched) :: after.groups }
  | seq first second, place => (ends ignoreCase first place).flatMap (ends ignoreCase second)
  | alt first second, place => ends ignoreCase first place ++ ends ignoreCase second place
  | star body, place => repeated (ends ignoreCase body) place.rest.length place

/-- The end of the longest match that begins at a place. -/
def longest? (regex : Regex) (ignoreCase : Bool) (place : Place) : Option Place :=
  (ends ignoreCase regex place).foldl (fun best candidate =>
    match best with
    | none => some candidate
    | some found =>
      if candidate.rest.length < found.rest.length then some candidate else some found) none

/-- The first place at or after one where a match begins, and where it ends. -/
def search? (regex : Regex) (ignoreCase : Bool) : (fuel : Nat) → Place → Option (Place × Place)
  | 0, _ => none
  | fuel + 1, place =>
    match regex.longest? ignoreCase place with
    | some stop => some (place, stop)
    | none => (place.advance? fun _ => true).bind (regex.search? ignoreCase fuel)

/-! ## Reading -/

/-- The two ways to write expressions: marks are written plainly in the extended
one and after a backslash in the basic one. -/
inductive Dialect where
  | basic
  | extended
deriving DecidableEq, Repr

/-- A mark of an expression. -/
inductive Mark where
  | literal (char : Char)
  | any
  | oneOf (isNegated : Bool) (ranges : List (Char × Char))
  | lineStart
  | lineEnd
  | opening
  | closing
  | bar
  | star
  | plus
  | optional
  | times (least : Nat) (most? : Option Nat)
deriving DecidableEq, Repr

def number (digits : List Char) : Nat :=
  digits.foldl (fun value digit => 10 * value + (digit.toNat - '0'.toNat)) 0

/-- Reads the bounds of a repetition, up to its closing brace. -/
def bounds? (way : Dialect) (text : Octets) : Option (Mark × Octets) :=
  let least := text.takeWhile Char.isDigit
  let rest := text.dropWhile Char.isDigit
  let (most?, rest) := match rest with
    | ',' :: rest =>
      let most := rest.takeWhile Char.isDigit
      ((if most.isEmpty then none else some (number most)), rest.dropWhile Char.isDigit)
    | rest => (some (number least), rest)
  let mark := Mark.times (number least) most?
  match way, rest with
  | .basic, '\\' :: '\x7d' :: rest => some (mark, rest)
  | .extended, '\x7d' :: rest => some (mark, rest)
  | _, _ => none

/-- Whether a mark can be repeated by a following one. -/
def beginsExpression : Option Mark → Bool
  | none => true
  | some .opening => true
  | some .bar => true
  | _ => false

/-- Reads the marks of an expression, in reverse; none if it is malformed. -/
def marksWith (way : Dialect) : (fuel : Nat) → List Mark → Octets → Option (List Mark)
  | 0, marks, _ => some marks
  | _ + 1, marks, [] => some marks
  | fuel + 1, marks, char :: rest =>
    let isFirst := beginsExpression marks.head?
    let add (mark : Mark) (rest : Octets) := marksWith way fuel (mark :: marks) rest
    match way, char, rest with
    | _, '\\', 'n' :: rest => add (.literal '\n') rest
    | _, '\\', 't' :: rest => add (.literal '\t') rest
    | .basic, '\\', '(' :: rest => add .opening rest
    | .basic, '\\', ')' :: rest => add .closing rest
    | .basic, '\\', '|' :: rest => add .bar rest
    | .basic, '\\', '+' :: rest => add .plus rest
    | .basic, '\\', '?' :: rest => add .optional rest
    | .basic, '\\', '\x7b' :: rest => (bounds? way rest).bind fun (mark, rest) => add mark rest
    | .extended, '(', rest => add .opening rest
    | .extended, ')', rest => add .closing rest
    | .extended, '|', rest => add .bar rest
    | .extended, '+', rest => add .plus rest
    | .extended, '?', rest => add .optional rest
    | .extended, '\x7b', rest => (bounds? way rest).bind fun (mark, rest) => add mark rest
    | _, '\\', escaped :: rest => add (.literal escaped) rest
    | _, '\\', [] => none
    | _, '.', rest => add .any rest
    | _, '*', rest => if isFirst then add (.literal '*') rest else add .star rest
    | .extended, '^', rest => add .lineStart rest
    | .extended, '$', rest => add .lineEnd rest
    | .basic, '^', rest => if isFirst then add .lineStart rest else add (.literal '^') rest
    | .basic, '$', rest =>
      if rest.isEmpty || ['\\', ')'].isPrefixOf rest || ['\\', '|'].isPrefixOf rest then
        add .lineEnd rest
      else add (.literal '$') rest
    | _, '[', rest =>
      match Pattern.bracket? (rest.map (·, false)) with
      | some (.oneOf isNegated ranges, rest) => add (.oneOf isNegated ranges) (rest.map (·.1))
      | _ => none
    | _, char, rest => add (.literal char) rest

/-- A body as often as asked for. -/
def timesOf (body : Regex) (least : Nat) (most? : Option Nat) : Regex :=
  let required := (List.replicate least body).foldr seq empty
  match most? with
  | none => seq required (star body)
  | some most =>
    seq required ((List.replicate (most - least) body).foldl
      (fun rest body => alt (seq body rest) empty) empty)

/-- Applies the repetitions that follow an atom. -/
def repetitions (atom : Regex) : List Mark → Regex × List Mark
  | .star :: rest => repetitions (star atom) rest
  | .plus :: rest => repetitions (seq atom (star atom)) rest
  | .optional :: rest => repetitions (alt atom empty) rest
  | .times least most? :: rest => repetitions (timesOf atom least most?) rest
  | rest => (atom, rest)

/-- The expression for one character that a mark stands for. -/
def atom? : Mark → Option Regex
  | .literal char => some (literal char)
  | .any => some any
  | .oneOf isNegated ranges => some (oneOf isNegated ranges)
  | _ => none

/-- Reads alternatives up to a closing mark or the end; `groups` counts the groups
opened so far. -/
def alternatives : (fuel : Nat) → (groups : Nat) → (done : Option Regex) → (current : Regex) →
    List Mark → Option (Regex × Nat × List Mark)
  | 0, _, _, _, _ => none
  | fuel + 1, groups, done, current, marks =>
    let whole (current : Regex) : Regex := match done with
      | some done => alt done current
      | none => current
    match marks with
    | [] => some (whole current, groups, [])
    | .closing :: rest => some (whole current, groups, .closing :: rest)
    | .bar :: rest => alternatives fuel groups (some (whole current)) empty rest
    | .opening :: rest =>
      match alternatives fuel (groups + 1) none empty rest with
      | some (body, groups', .closing :: rest) =>
        let (atom, rest) := repetitions (group (groups + 1) body) rest
        alternatives fuel groups' done (seq current atom) rest
      | _ => none
    | .lineStart :: rest => alternatives fuel groups done (seq current .lineStart) rest
    | .lineEnd :: rest => alternatives fuel groups done (seq current .lineEnd) rest
    | mark :: rest =>
      match atom? mark with
      | some atom =>
        let (atom, rest) := repetitions atom rest
        alternatives fuel groups done (seq current atom) rest
      | none => none

/-- Reads an expression. -/
def parse? (way : Dialect) (text : Octets) : Option Regex :=
  match marksWith way (text.length + 1) [] text with
  | none => none
  | some marks =>
    match alternatives (marks.length + 1) 0 none empty marks.reverse with
    | some (regex, _, []) => some regex
    | _ => none

end Regex

end QueryPipe.Shell.Tool
