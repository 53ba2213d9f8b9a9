import QueryPipe.Text.Newlines
import Mathlib.Data.List.TakeWhile

/-! What trimming leaves of a list, and what it does not look at. -/

namespace QueryPipe.Text

variable {drop : α → Bool}

private theorem exists_dropWhile (drop : α → Bool) (items : List α) :
    ∃ front, (∀ item ∈ front, drop item = true) ∧ items = front ++ items.dropWhile drop :=
  ⟨items.takeWhile drop, fun _ => List.mem_takeWhile_imp, (List.takeWhile_append_dropWhile ..).symm⟩

private theorem head?_dropWhile {items : List α} {item : α}
    (first : item ∈ (items.dropWhile drop).head?) : drop item = false := by
  have stops := List.head?_dropWhile_not drop items
  rw [Option.mem_def] at first
  rw [first] at stops
  exact stops

/-- Trimming takes a front and a back away that are to be dropped throughout. -/
theorem exists_trimBoth (drop : α → Bool) (items : List α) :
    ∃ front back, (∀ item ∈ front, drop item = true) ∧ (∀ item ∈ back, drop item = true) ∧
      items = front ++ (trimBoth drop items ++ back) := by
  rcases exists_dropWhile drop items with ⟨front, allFront, cut⟩
  rcases exists_dropWhile drop (items.dropWhile drop).reverse with ⟨back, allBack, cutBack⟩
  refine ⟨front, back.reverse, allFront, ?_, ?_⟩
  · intro item member
    exact allBack item (List.mem_reverse.mp member)
  · have rest := congrArg List.reverse cutBack
    rw [List.reverse_reverse, List.reverse_append] at rest
    rw [trimBoth, ← rest]
    exact cut

theorem mem_of_mem_trimBoth {items : List α} {item : α} (member : item ∈ trimBoth drop items) :
    item ∈ items := by
  rcases exists_trimBoth drop items with ⟨front, back, -, -, cut⟩
  rw [cut]
  exact List.mem_append_right _ (List.mem_append_left _ member)

/-- What is left begins and ends with what stays. -/
theorem ends_trimBoth (drop : α → Bool) (items : List α) :
    (∀ item ∈ (trimBoth drop items).head?, drop item = false) ∧
      ∀ item ∈ (trimBoth drop items).getLast?, drop item = false := by
  constructor
  · intro item first
    rcases exists_dropWhile drop (items.dropWhile drop).reverse with ⟨back, -, cutBack⟩
    have rest := congrArg List.reverse cutBack
    rw [List.reverse_reverse, List.reverse_append, ← trimBoth] at rest
    have stays : item ∈ (items.dropWhile drop).head? := by
      rw [rest, List.head?_append, Option.mem_def.mp first]
      rfl
    exact head?_dropWhile stays
  · intro item last
    rw [trimBoth, List.getLast?_reverse] at last
    exact head?_dropWhile last

/-- Nothing is trimmed from a list that begins and ends with what stays. -/
theorem trimBoth_eq_self {items : List α} (first : ∀ item ∈ items.head?, drop item = false)
    (last : ∀ item ∈ items.getLast?, drop item = false) : trimBoth drop items = items := by
  have stays {items : List α} (first : ∀ item ∈ items.head?, drop item = false) :
      items.dropWhile drop = items := by
    cases items with
    | nil => rfl
    | cons item items =>
        rw [List.dropWhile_cons_of_neg]
        simp [first item rfl]
  rw [trimBoth, stays first, stays, List.reverse_reverse]
  rwa [List.head?_reverse]

theorem trimBoth_eq_self_iff (drop : α → Bool) (items : List α) :
    trimBoth drop items = items ↔
      (∀ item ∈ items.head?, drop item = false) ∧ ∀ item ∈ items.getLast?, drop item = false := by
  constructor
  · intro same
    have ends := ends_trimBoth drop items
    rwa [same] at ends
  · intro ends
    exact trimBoth_eq_self ends.1 ends.2

@[simp] theorem trimBoth_trimBoth (drop : α → Bool) (items : List α) :
    trimBoth drop (trimBoth drop items) = trimBoth drop items :=
  trimBoth_eq_self (ends_trimBoth drop items).1 (ends_trimBoth drop items).2

/-- What is to be dropped anyway makes no difference around a list. -/
theorem trimBoth_frame {front back : List α} (allFront : ∀ item ∈ front, drop item = true)
    (allBack : ∀ item ∈ back, drop item = true) (items : List α) :
    trimBoth drop (front ++ (items ++ back)) = trimBoth drop items := by
  have allReversed : ∀ item ∈ back.reverse, drop item = true := by
    intro item member
    exact allBack item (List.mem_reverse.mp member)
  rw [trimBoth, List.dropWhile_append_of_pos allFront, List.dropWhile_append]
  split
  · rename_i empty
    rw [List.isEmpty_iff] at empty
    have noBack : back.dropWhile drop = [] := by
      rw [List.dropWhile_eq_nil_iff]
      exact allBack
    rw [trimBoth, empty, noBack]
  · rw [List.reverse_append, List.dropWhile_append_of_pos allReversed, trimBoth]

/-- What is left of a list without what is to be dropped at both of its ends. -/
structure Trims (drop : α → Bool) (items kept : List α) : Prop where
  frame : ∃ front back, (∀ item ∈ front, drop item = true) ∧ (∀ item ∈ back, drop item = true) ∧
    items = front ++ (kept ++ back)
  first : ∀ item ∈ kept.head?, drop item = false
  last : ∀ item ∈ kept.getLast?, drop item = false

theorem trims_trimBoth (drop : α → Bool) (items : List α) : Trims drop items (trimBoth drop items) :=
  ⟨exists_trimBoth drop items, (ends_trimBoth drop items).1, (ends_trimBoth drop items).2⟩

/-- Nothing else is left. -/
theorem Trims.eq {items kept : List α} (trims : Trims drop items kept) :
    kept = trimBoth drop items := by
  rcases trims.frame with ⟨front, back, allFront, allBack, rfl⟩
  rw [trimBoth_frame allFront allBack, trimBoth_eq_self trims.first trims.last]

end QueryPipe.Text
