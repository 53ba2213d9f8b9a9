import QueryPipe.Patch.Edit

/-!
An edit script for two lists of lines.

The script comes from the search for a shortest one from both ends at once:
common lines at the borders are set aside, the two searches meet somewhere in
the middle, and both halves are done the same way.  Insertions are then moved
over equal lines, first up and then down, which joins them with neighbours.
-/

namespace QueryPipe.Patch

/-! ## The search -/

/-- How far each diagonal was followed.  Diagonals are numbered from minus
`center` on. -/
structure Frontier where
  center : Nat
  reach : Array Nat

namespace Frontier

def empty (size : Nat) : Frontier := ⟨size, Array.replicate (2 * size) 0⟩

def get (frontier : Frontier) (diagonal : Int) : Nat :=
  (frontier.reach[(diagonal + frontier.center).toNat]?).getD 0

def set (frontier : Frontier) (diagonal : Int) (value : Nat) : Frontier :=
  { frontier with
    reach := frontier.reach.setIfInBounds (diagonal + frontier.center).toNat value }

/-- Where the search on a diagonal begins after `depth` edits: the farther of
what its two neighbours reached. -/
def start (frontier : Frontier) (depth : Nat) (diagonal : Int) : Nat :=
  if diagonal == -depth
      || (diagonal != depth && frontier.get (diagonal - 1) < frontier.get (diagonal + 1)) then
    frontier.get (diagonal + 1)
  else frontier.get (diagonal - 1) + 1

end Frontier

/-- A part of both sides. -/
structure Window where
  old : Nat
  oldStop : Nat
  new : Nat
  newStop : Nat
deriving DecidableEq, Repr

namespace Window

def oldLength (window : Window) : Nat := window.oldStop - window.old

def newLength (window : Window) : Nat := window.newStop - window.new

/-- The diagonal on which the window ends. -/
def delta (window : Window) : Int := (window.oldLength : Int) - window.newLength

/-- Whether the searches can only meet after a step of the forward one. -/
def meetsForward (window : Window) : Bool := window.delta % 2 != 0

end Window

/-- The diagonals of a round, from the highest to the lowest. -/
def diagonals (depth : Nat) : List Int :=
  (List.range (depth + 1)).map fun (index : Nat) => (depth : Int) - 2 * index

/-- What a round finds: a place where to divide the window, or where the
searches stand now. -/
abbrev Round := Except (Nat × Nat) Frontier

/-- One step of the search from the front.  `x` counts old lines passed and
`y` new lines; a negative `y` lies outside the window. -/
def forwardStep (sides : Sides) (window : Window) (depth : Nat) (backward : Frontier)
    (frontier : Frontier) (diagonal : Int) : Round :=
  let x := frontier.start depth diagonal
  let y := (x : Int) - diagonal
  let run :=
    if x < window.oldLength && 0 ≤ y && y < window.newLength then
      sides.commonAfter (min (window.oldLength - x) (window.newLength - y.toNat))
        (window.old + x) (window.new + y.toNat)
    else 0
  let frontier := frontier.set diagonal (x + run)
  let distance := diagonal - window.delta
  if window.meetsForward && distance.natAbs + 1 ≤ depth
      && window.oldLength ≤ x + run + backward.get (-distance) then
    .error (x, y.toNat)
  else .ok frontier

/-- One step of the search from the back. -/
def backwardStep (sides : Sides) (window : Window) (depth : Nat) (forward : Frontier)
    (frontier : Frontier) (diagonal : Int) : Round :=
  let x := frontier.start depth diagonal
  let y := (x : Int) - diagonal
  let run :=
    if x < window.oldLength && 0 ≤ y && y < window.newLength then
      sides.commonBefore (min (window.oldLength - x) (window.newLength - y.toNat))
        (window.oldStop - x) (window.newStop - y.toNat)
    else 0
  let frontier := frontier.set diagonal (x + run)
  let distance := diagonal - window.delta
  if !window.meetsForward && distance.natAbs ≤ depth
      && window.oldLength ≤ x + run + forward.get (-distance) then
    .error (window.oldLength - (x + run), window.newLength - (y.toNat + run))
  else .ok frontier

/-- Both searches, and a place where to divide the window if they have met. -/
structure Search where
  forward : Frontier
  backward : Frontier
  meeting : Option (Nat × Nat) := none

/-- Runs rounds of growing depth until the searches meet. -/
def searchFrom (sides : Sides) (window : Window) :
    (rounds depth : Nat) → Search → Search
  | 0, _, search => search
  | rounds + 1, depth, search =>
    match (diagonals depth).foldlM (forwardStep sides window depth search.backward)
        search.forward with
    | .error meeting => { search with meeting := some meeting }
    | .ok forward =>
      match (diagonals depth).foldlM (backwardStep sides window depth forward)
          search.backward with
      | .error meeting => { search with forward, meeting := some meeting }
      | .ok backward => searchFrom sides window rounds (depth + 1) { forward, backward }

/-- How many rounds a window may need. -/
def roundBound (oldLength newLength : Nat) : Nat := (oldLength + newLength + 1) / 2 + 1

/-- Where to divide a window. -/
def divide (sides : Sides) (window : Window) (search : Search) : Search :=
  searchFrom sides window (roundBound window.oldLength window.newLength) 0
    { forward := search.forward.set 1 0, backward := search.backward.set 1 0 }

/-- An edit, unless it covers nothing. -/
def unlessEmpty (edit : Edit) : List Edit :=
  if edit.length == 0 then [] else [edit]

/-- The edits of a window. -/
def editsOf (sides : Sides) : (fuel : Nat) → Window → Search → List Edit × Search
  | 0, window, search =>
    ([.delete window.old window.new window.oldLength,
      .insert window.old window.new window.newLength], search)
  | fuel + 1, window, search =>
    let front := sides.commonAfter (min window.oldLength window.newLength) window.old window.new
    let inner := { window with old := window.old + front, new := window.new + front }
    let back := sides.commonBefore (min inner.oldLength inner.newLength)
      inner.oldStop inner.newStop
    let inner := { inner with oldStop := inner.oldStop - back, newStop := inner.newStop - back }
    let (middle, search) :=
      if inner.oldLength == 0 && inner.newLength == 0 then ([], search)
      else if inner.newLength == 0 then
        ([.delete inner.old inner.new inner.oldLength], search)
      else if inner.oldLength == 0 then
        ([.insert inner.old inner.new inner.newLength], search)
      else
        let search := divide sides inner search
        match search.meeting with
        | some (x, y) =>
          let upper := { inner with oldStop := inner.old + x, newStop := inner.new + y }
          let lower := { inner with old := inner.old + x, new := inner.new + y }
          let (above, search) := editsOf sides fuel upper search
          let (below, search) := editsOf sides fuel lower search
          (above ++ below, search)
        | none =>
          ([.delete inner.old inner.new inner.oldLength,
            .insert inner.old inner.new inner.newLength], search)
    (unlessEmpty (.keep window.old window.new front) ++ middle
      ++ unlessEmpty (.keep inner.oldStop inner.newStop back), search)

/-- A shortest edit script. -/
def shortestScript (sides : Sides) : List Edit :=
  let oldLength := sides.old.size
  let newLength := sides.new.size
  let frontier := Frontier.empty (roundBound oldLength newLength)
  (editsOf sides (oldLength + newLength + 1) ⟨0, oldLength, 0, newLength⟩
    { forward := frontier, backward := frontier }).1

/-! ## Moving insertions

The script is held open at one edit: `before` are the edits before it, the
nearest first, and `after` are the edits after it. -/

/-- A script held open at an edit. -/
structure Opened where
  before : List Edit
  focus : Edit
  after : List Edit

namespace Opened

/-- Moves the edit in focus up as far as it goes. -/
def moveUp (sides : Sides) : (fuel : Nat) → Opened → Opened
  | 0, script => script
  | fuel + 1, script =>
    match script.before with
    | [] => script
    | previous :: before =>
      match script.focus, previous with
      | .insert _ _ _, .keep old _ length =>
        let focus := script.focus
        let count := sides.commonBefore (min length focus.newLength) (old + length)
          (focus.new + focus.newLength)
        if 0 < count then
          let after := match script.after with
            | .keep kept keptNew size :: rest =>
              Edit.growLeft count (.keep kept keptNew size) :: rest
            | rest =>
              .keep (old + length - count) (focus.new + focus.newLength - count) count :: rest
          let shortened := previous.dropRight count
          let before := if shortened.length == 0 then before else shortened :: before
          moveUp sides fuel ⟨before, focus.shiftLeft count, after⟩
        else if length == 0 then moveUp sides fuel { script with before }
        else script
      | .delete _ _ _, .keep _ _ length =>
        if length == 0 then moveUp sides fuel { script with before } else script
      | .insert _ _ _, .insert _ _ _ | .delete _ _ _, .delete _ _ _ =>
        moveUp sides fuel ⟨before, previous.growRight script.focus.length, script.after⟩
      | .insert _ _ _, .delete _ _ _ | .delete _ _ _, .insert _ _ _ =>
        moveUp sides fuel ⟨before, script.focus, previous :: script.after⟩
      | .keep _ _ _, _ => script

/-- Moves the edit in focus down as far as it goes. -/
def moveDown (sides : Sides) : (fuel : Nat) → Opened → Opened
  | 0, script => script
  | fuel + 1, script =>
    match script.after with
    | [] => script
    | next :: after =>
      match script.focus, next with
      | .insert _ _ _, .keep old _ length =>
        let focus := script.focus
        let count := sides.commonAfter (min length focus.newLength) old focus.new
        if 0 < count then
          let before := match script.before with
            | .keep kept keptNew size :: rest =>
              Edit.growRight count (.keep kept keptNew size) :: rest
            | rest => .keep old focus.new count :: rest
          let shortened := next.dropLeft count
          let after := if shortened.length == 0 then after else shortened :: after
          moveDown sides fuel ⟨before, focus.shiftRight count, after⟩
        else if length == 0 then moveDown sides fuel { script with after }
        else script
      | .delete _ _ _, .keep _ _ length =>
        if length == 0 then moveDown sides fuel { script with after } else script
      | .insert _ _ _, .insert _ _ _ | .delete _ _ _, .delete _ _ _ =>
        moveDown sides fuel ⟨script.before, script.focus.growRight next.length, after⟩
      | .insert _ _ _, .delete _ _ _ | .delete _ _ _, .insert _ _ _ =>
        moveDown sides fuel ⟨next :: script.before, script.focus, after⟩
      | .keep _ _ _, _ => script

end Opened

/-- Moves each edit that is chosen, from the front to the back. -/
def moveEach (sides : Sides) (chosen : Edit → Bool) :
    (fuel : Nat) → List Edit → List Edit → List Edit
  | 0, before, after => before.reverse ++ after
  | _ + 1, before, [] => before.reverse
  | fuel + 1, before, edit :: after =>
    if chosen edit then
      let bound := sides.old.size + sides.new.size + before.length + after.length + 1
      let moved := (Opened.mk before edit after).moveUp sides bound
      let moved := moved.moveDown sides (2 * bound)
      moveEach sides chosen fuel (moved.focus :: moved.before) moved.after
    else moveEach sides chosen fuel (edit :: before) after

/-- Whether the edit leaves lines out. -/
def Edit.isDelete : Edit → Bool
  | delete _ _ _ => true
  | _ => false

/-- Whether the edit puts lines in. -/
def Edit.isInsert : Edit → Bool
  | insert _ _ _ => true
  | _ => false

/-- A script with its deletions and then its insertions moved. -/
def compact (sides : Sides) (script : List Edit) : List Edit :=
  let bound := 2 * (sides.old.size + sides.new.size + script.length + 1)
  let script := moveEach sides Edit.isDelete bound [] script
  moveEach sides Edit.isInsert bound [] script

end QueryPipe.Patch
