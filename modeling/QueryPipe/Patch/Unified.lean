import QueryPipe.Patch.Hunk

/-!
The unified format of a patch.
-/

namespace QueryPipe.Patch

/-- A line behind a sign; a missing line end is added. -/
def signed (sign : Char) (line : String) : String :=
  String.singleton sign ++ line ++ if isEnded line then "" else "\n"

/-- Some lines, each behind a sign. -/
def signedLines (sign : Char) (lines : Array String) (start length : Nat) : String :=
  String.join ((lines.toList.drop start).take length |>.map (signed sign))

/-- The lines of a stretch: kept ones, or deleted ones and then inserted ones. -/
def Stretch.render (sides : Sides) (stretch : Stretch) : String :=
  if stretch.isEqual then signedLines ' ' sides.old stretch.old stretch.oldLength
  else
    signedLines '-' sides.old stretch.old stretch.oldLength
      ++ signedLines '+' sides.new stretch.new stretch.newLength

/-- How many lines are counted from one place to another, in machine words of 64 bits. -/
def extent (start stop : Nat) : Nat :=
  if start ≤ stop then stop - start else UInt64.size - (start - stop)

/-- Some lines of either side, by where they begin and how many they are. -/
structure Span where
  old : Nat
  oldLength : Nat
  new : Nat
  newLength : Nat
deriving DecidableEq, Repr

/-- The line that says which lines a hunk shows. -/
def Span.header (span : Span) : String :=
  s!"@@ -{span.old + 1},{span.oldLength} +{span.new + 1},{span.newLength} @@\n"

/-- The lines that a hunk is said to show, by its outer stretches. -/
def Hunk.span (first last : Stretch) : Span where
  old := first.old
  oldLength := extent first.old last.oldStop
  new := first.new
  newLength := extent first.new last.newStop

/-- A hunk below its header. -/
def Hunk.render (sides : Sides) (hunk : Hunk) : String :=
  match hunk.head?, hunk.getLast? with
  | some first, some last =>
    (Hunk.span first last).header ++ String.join (hunk.map (Stretch.render sides))
  | _, _ => ""

/-- The two lines above the hunks. -/
def fileHeader (path : String) : String :=
  "--- " ++ path ++ "\n+++ " ++ path ++ "\n"

/-- The hunks between two texts. -/
def hunksBetween (sides : Sides) : List Hunk :=
  hunks (stretches (compact sides (shortestScript sides)))

/-- Hunks below the name of their file; nothing if there are none. -/
def renderHunks (path : String) (sides : Sides) : List Hunk → String
  | [] => ""
  | hunks => fileHeader path ++ String.join (hunks.map (Hunk.render sides))

/-- The lines of two texts. -/
def Sides.ofTexts (before after : String) : Sides :=
  ⟨(lines before).toArray, (lines after).toArray⟩

/-- A patch that turns the text before into the text after; empty if they
are the same. -/
def unified (path before after : String) : String :=
  renderHunks path (.ofTexts before after) (hunksBetween (.ofTexts before after))

end QueryPipe.Patch
