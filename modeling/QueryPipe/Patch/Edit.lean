/-!
Edits between two lists of lines, by line numbers counted from zero.
-/

namespace QueryPipe.Patch

/-- A step from an old list of lines to a new one.  `old` and `new` are the
lines where it begins on either side. -/
inductive Edit where
  /-- On both sides `length` lines are the same. -/
  | keep (old new length : Nat)
  /-- Of the old lines, `length` are left out. -/
  | delete (old new length : Nat)
  /-- Of the new lines, `length` are put in. -/
  | insert (old new length : Nat)
deriving DecidableEq, Repr

namespace Edit

def length : Edit → Nat
  | keep _ _ length | delete _ _ length | insert _ _ length => length

/-- The number of new lines covered. -/
def newLength : Edit → Nat
  | keep _ _ length | insert _ _ length => length
  | delete _ _ _ => 0

def new : Edit → Nat
  | keep _ new _ | delete _ new _ | insert _ new _ => new

/-- The edit with another place and length. -/
def adjust (place length : Nat → Nat) : Edit → Edit
  | keep old new size => keep (place old) (place new) (length size)
  | delete old new size => delete (place old) (place new) (length size)
  | insert old new size => insert (place old) (place new) (length size)

def growLeft (count : Nat) : Edit → Edit := adjust (· - count) (· + count)

def growRight (count : Nat) : Edit → Edit := adjust id (· + count)

def shiftLeft (count : Nat) : Edit → Edit := adjust (· - count) id

def shiftRight (count : Nat) : Edit → Edit := adjust (· + count) id

def dropLeft (count : Nat) : Edit → Edit := adjust (· + count) (· - count)

def dropRight (count : Nat) : Edit → Edit := adjust id (· - count)

end Edit

/-- Two lists of lines to compare. -/
structure Sides where
  old : Array String
  new : Array String

namespace Sides

/-- Whether an old line equals a new one. -/
def same (sides : Sides) (old new : Nat) : Bool :=
  match sides.old[old]?, sides.new[new]? with
  | some left, some right => left == right
  | _, _ => false

/-- How many lines are the same from two places on, at most `limit`. -/
def commonAfter (sides : Sides) : (limit old new : Nat) → Nat
  | 0, _, _ => 0
  | limit + 1, old, new =>
    if sides.same old new then commonAfter sides limit (old + 1) (new + 1) + 1 else 0

/-- How many lines are the same right before two places, at most `limit`. -/
def commonBefore (sides : Sides) : (limit old new : Nat) → Nat
  | 0, _, _ => 0
  | limit + 1, old, new =>
    if 0 < old && 0 < new && sides.same (old - 1) (new - 1) then
      commonBefore sides limit (old - 1) (new - 1) + 1
    else 0

end Sides

end QueryPipe.Patch
