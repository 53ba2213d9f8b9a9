/-!
Putting results back in order.  Results arrive in any order, each with its index;
each is released as soon as all with smaller indices have been.
-/

namespace QueryPipe.Run

/-- Results that wait for their turn. -/
structure Queue (α : Type) where
  /-- Results with their indices, by increasing index. -/
  waiting : List (Nat × α) := []
  /-- The index that is released next. -/
  next : Nat := 0

namespace Queue

/-- Puts a result among those that wait; it takes the place of one with the same
index. -/
def insert (index : Nat) (result : α) : List (Nat × α) → List (Nat × α)
  | [] => [(index, result)]
  | entry :: rest =>
    if index < entry.1 then (index, result) :: entry :: rest
    else if index == entry.1 then (index, result) :: rest
    else entry :: insert index result rest

/-- Releases results from an index on, as long as the next one is there. -/
def release (next : Nat) : List (Nat × α) → List (Nat × α) × Queue α
  | [] => ([], ⟨[], next⟩)
  | entry :: rest =>
    if entry.1 == next then
      let (released, queue) := release (next + 1) rest
      (entry :: released, queue)
    else ([], ⟨entry :: rest, next⟩)

/-- Takes a result in, and gives those out whose turn has come. -/
def receive (queue : Queue α) (arrival : Nat × α) : List (Nat × α) × Queue α :=
  release queue.next (insert arrival.1 arrival.2 queue.waiting)

/-- The results in the order of their release.  What still waits at the end is
released by index. -/
def order (queue : Queue α) : List (Nat × α) → List (Nat × α)
  | [] => queue.waiting
  | arrival :: rest =>
    let (released, queue) := queue.receive arrival
    released ++ queue.order rest

end Queue

/-- The order in which results are accepted. -/
def inOrder (arrivals : List (Nat × α)) : List (Nat × α) :=
  Queue.order {} arrivals

end QueryPipe.Run
