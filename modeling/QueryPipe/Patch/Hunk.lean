import QueryPipe.Patch.Line
import QueryPipe.Patch.Script

/-!
Hunks: changes with a few equal lines around them.
-/

namespace QueryPipe.Patch

/-- A stretch of lines on both sides that is either the same or was replaced. -/
structure Stretch where
  isEqual : Bool
  old : Nat
  oldLength : Nat
  new : Nat
  newLength : Nat
deriving DecidableEq, Repr

namespace Stretch

def oldStop (stretch : Stretch) : Nat := stretch.old + stretch.oldLength

def newStop (stretch : Stretch) : Nat := stretch.new + stretch.newLength

/-- The last lines of an equal stretch. -/
def lastLines (count : Nat) (stretch : Stretch) : Stretch :=
  let dropped := stretch.oldLength - count
  { stretch with
    old := stretch.old + dropped, oldLength := stretch.oldLength - dropped
    new := stretch.new + dropped, newLength := stretch.newLength - dropped }

/-- The first lines of an equal stretch. -/
def firstLines (count : Nat) (stretch : Stretch) : Stretch :=
  { stretch with
    oldLength := min count stretch.oldLength
    newLength := min count stretch.newLength }

end Stretch

/-- Deletions and insertions between equal lines, gathered. -/
structure Gathered where
  deleted : Option (Nat × Nat × Nat) := none
  inserted : Option (Nat × Nat × Nat) := none

namespace Gathered

/-- The stretch that was replaced, if anything was. -/
def stretches (gathered : Gathered) : List Stretch :=
  match gathered.deleted, gathered.inserted with
  | some (old, _, oldLength), some (_, new, newLength) => [⟨false, old, oldLength, new, newLength⟩]
  | some (old, new, oldLength), none => [⟨false, old, oldLength, new, 0⟩]
  | none, some (old, new, newLength) => [⟨false, old, 0, new, newLength⟩]
  | none, none => []

/-- Adds to what was gathered of one side; the place of the first edit stays. -/
def add (old new length : Nat) : Option (Nat × Nat × Nat) → Option (Nat × Nat × Nat)
  | some (firstOld, firstNew, before) => some (firstOld, firstNew, before + length)
  | none => some (old, new, length)

end Gathered

/-- Adds an equal stretch, joined with the one before it. -/
def pushEqual (old new length : Nat) : List Stretch → List Stretch
  | last :: rest =>
    if last.isEqual then
      { last with oldLength := last.oldLength + length, newLength := last.newLength + length }
        :: rest
    else ⟨true, old, length, new, length⟩ :: last :: rest
  | [] => [⟨true, old, length, new, length⟩]

/-- Joins the edits of a script into stretches; `found` is in reverse. -/
def stretchesInto (found : List Stretch) (gathered : Gathered) : List Edit → List Stretch
  | [] => (gathered.stretches ++ found).reverse
  | .keep old new length :: rest =>
    stretchesInto (pushEqual old new length (gathered.stretches ++ found)) {} rest
  | .delete old new length :: rest =>
    stretchesInto found
      { gathered with deleted := Gathered.add old new length gathered.deleted } rest
  | .insert old new length :: rest =>
    stretchesInto found
      { gathered with inserted := Gathered.add old new length gathered.inserted } rest

/-- The stretches of a script, alternating between equal and replaced. -/
def stretches (script : List Edit) : List Stretch := stretchesInto [] {} script

/-- How many equal lines are shown around a change. -/
def contextSize : Nat := 3

/-- A hunk: the stretches it shows. -/
abbrev Hunk := List Stretch

/-- Divides stretches into hunks at long equal ones; `current` is in reverse. -/
def divideHunks (current : Hunk) : List Stretch → List Hunk
  | [] =>
    match current with
    | [] => []
    | [stretch] => if stretch.isEqual then [] else [[stretch]]
    | _ => [current.reverse]
  | stretch :: rest =>
    if stretch.isEqual && 2 * contextSize < stretch.oldLength then
      (stretch.firstLines contextSize :: current).reverse
        :: divideHunks [stretch.lastLines contextSize] rest
    else divideHunks (stretch :: current) rest

/-- Shortens an equal stretch at the front. -/
def trimFirst : List Stretch → List Stretch
  | stretch :: rest =>
    (if stretch.isEqual then stretch.lastLines contextSize else stretch) :: rest
  | [] => []

/-- Shortens an equal stretch at the end. -/
def trimLast (stretches : List Stretch) : List Stretch :=
  match stretches.reverse with
  | stretch :: rest =>
    ((if stretch.isEqual then stretch.firstLines contextSize else stretch) :: rest).reverse
  | [] => []

/-- The hunks of a list of stretches. -/
def hunks (stretches : List Stretch) : List Hunk :=
  divideHunks [] (trimLast (trimFirst stretches))

end QueryPipe.Patch
