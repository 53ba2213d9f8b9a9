import QueryPipe.Text.Octets

/-!
Patterns with wildcards.
-/

namespace QueryPipe.Shell

open Text (Octets)

/-- An element of a pattern. -/
inductive Wildcard where
  | char (char : Char)
  /-- Any one character. -/
  | one
  /-- Any characters, or none. -/
  | many
  /-- One character in a range, or in none of them. -/
  | oneOf (isNegated : Bool) (ranges : List (Char × Char))
deriving DecidableEq, Repr

abbrev Pattern := List Wildcard

namespace Pattern

def inRanges (ranges : List (Char × Char)) (char : Char) : Bool :=
  ranges.any fun (low, high) => low ≤ char && char ≤ high

/-- A text and all that is left of it after some of its characters. -/
def suffixes : Octets → List Octets
  | [] => [[]]
  | char :: rest => (char :: rest) :: suffixes rest

/-- Whether a pattern covers a text. -/
def covers : Pattern → Octets → Bool
  | [], text => text.isEmpty
  | .many :: rest, text => (suffixes text).any (covers rest)
  | .char expected :: rest, char :: text => char == expected && covers rest text
  | .one :: rest, _ :: text => covers rest text
  | .oneOf isNegated ranges :: rest, char :: text =>
    (inRanges ranges char != isNegated) && covers rest text
  | _ :: _, [] => false

/-- A character, and whether it was quoted. -/
abbrev Glyph := Char × Bool

/-- Whether a glyph closes a bracket expression; at the front it is a member. -/
def isClosing (isFirst : Bool) (glyph : Glyph) : Bool :=
  glyph == (']', false) && !isFirst

/-- The ranges inside brackets, up to the closing one. -/
def ranges (found : List (Char × Char)) :
    (isFirst : Bool) → List Glyph → Option (List (Char × Char) × List Glyph)
  | _, [] => none
  | isFirst, low :: ('-', false) :: high :: rest =>
    if isClosing isFirst low then some (found.reverse, ('-', false) :: high :: rest)
    else if isClosing false high then
      some ((('-', '-') :: (low.1, low.1) :: found).reverse, rest)
    else ranges ((low.1, high.1) :: found) false rest
  | isFirst, glyph :: rest =>
    if isClosing isFirst glyph then some (found.reverse, rest)
    else ranges ((glyph.1, glyph.1) :: found) false rest

/-- Reads a bracket expression after its opening bracket. -/
def bracket? : List Glyph → Option (Wildcard × List Glyph)
  | ('!', false) :: rest => (ranges [] true rest).map fun (found, rest) => (.oneOf true found, rest)
  | ('^', false) :: rest => (ranges [] true rest).map fun (found, rest) => (.oneOf true found, rest)
  | rest => (ranges [] true rest).map fun (found, rest) => (.oneOf false found, rest)

/-- The pattern that glyphs spell; quoted characters stand for themselves.  Each
step of `fuel` reads a glyph. -/
def ofGlyphsWith : (fuel : Nat) → List Glyph → Pattern
  | 0, _ => []
  | _ + 1, [] => []
  | fuel + 1, (char, true) :: rest => .char char :: ofGlyphsWith fuel rest
  | fuel + 1, (char, false) :: rest =>
    if char == '*' then .many :: ofGlyphsWith fuel rest
    else if char == '?' then .one :: ofGlyphsWith fuel rest
    else if char == '[' then
      match bracket? rest with
      | some (wildcard, rest) => wildcard :: ofGlyphsWith fuel rest
      | none => .char char :: ofGlyphsWith fuel rest
    else .char char :: ofGlyphsWith fuel rest

def ofGlyphs (glyphs : List Glyph) : Pattern :=
  ofGlyphsWith glyphs.length glyphs

/-- Whether glyphs hold a wildcard. -/
def isActive (glyphs : List Glyph) : Bool :=
  glyphs.any fun (char, isQuoted) => !isQuoted && ['*', '?', '['].contains char

end Pattern

end QueryPipe.Shell
