import Mathlib.Data.List.Lex
import Mathlib.Data.List.Sort
import Mathlib.Data.String.Basic
import QueryPipe.Files.Discover

/-! Paths are compared name by name, so that a name is decided on before the separator after
it; the order of paths as texts is a different one. -/

namespace QueryPipe

namespace Text

/-- An order by first difference is the lexicographic one. -/
theorem precedes_iff_not_lt {α : Type} [LinearOrder α] {less : α → α → Bool}
    (decides : ∀ left right, less left right = true ↔ left < right) (left right : List α) :
    precedes less left right = true ↔ ¬right < left := by
  induction left generalizing right with
  | nil => simp [precedes]
  | cons first lefts induction =>
      cases right with
      | nil => simp [precedes]
      | cons second rights =>
          rw [precedes, List.cons_lt_cons_iff]
          simp only [decides]
          rcases lt_trichotomy first second with before | same | behind
          · simp [before, before.not_gt, before.ne']
          · simp [same, induction]
          · simp [behind, behind.not_gt]

theorem isLess_iff (left right : String) : isLess left right = true ↔ left < right := by
  have chars : ∀ first second, isLessChar first second = true ↔ first < second :=
    fun _ _ => decide_eq_true_iff
  rw [isLess, Bool.not_eq_true', ← Bool.not_eq_true, precedes_iff_not_lt chars, not_not,
    String.lt_iff_toList_lt]

theorem splitPieces_eq {α : Type} [BEq α] (separator : α) (piece items : List α) :
    splitPieces separator piece items = items.splitOnPPrepend (· == separator) piece := by
  induction items generalizing piece with
  | nil => rfl
  | cons item rest induction =>
      rw [splitPieces, List.splitOnPPrepend, induction, induction]

theorem splitOn_eq {α : Type} [BEq α] (separator : α) (items : List α) :
    splitOn separator items = items.splitOn separator :=
  splitPieces_eq separator [] items

end Text

namespace Files.Path

/-! ## The order of locations -/

theorem precedes_iff (left right : Location) : precedes left right = true ↔ ¬right < left :=
  Text.precedes_iff_not_lt Text.isLess_iff left right

theorem increasing_mergeSort {locations : List Location} (distinct : locations.Nodup) :
    (locations.mergeSort precedes).Pairwise (· < ·) := by
  have sorted : (locations.mergeSort precedes).Pairwise (precedes · ·) := by
    apply List.pairwise_mergeSort
    · intro first second third before after
      rw [precedes_iff, not_lt] at before after ⊢
      exact before.trans after
    · intro first second
      rw [Bool.or_eq_true, precedes_iff, precedes_iff, not_lt, not_lt]
      exact le_total first second
  have nodup := (locations.mergeSort_perm precedes).nodup_iff.mpr distinct
  refine (sorted.and nodup).imp ?_
  rintro left right ⟨before, different⟩
  rw [precedes_iff, not_lt] at before
  exact before.lt_of_ne different

/-- Which paths increase name by name determines them as a list. -/
theorem eq_of_increasing {left right : List String}
    (leftIncreasing : left.Pairwise fun before after => names before < names after)
    (rightIncreasing : right.Pairwise fun before after => names before < names after)
    (same : ∀ path, path ∈ left ↔ path ∈ right) : left = right := by
  have : Std.Irrefl fun before after => names before < names after :=
    ⟨fun path => lt_irrefl (names path)⟩
  have : Std.Antisymm fun before after => names before < names after :=
    ⟨fun _ _ before after => absurd before after.asymm⟩
  exact leftIncreasing.eq_of_mem_iff rightIncreasing same

/-! ## The names of a path -/

/-- A name that an entry of a directory can have. -/
def isName (text : String) : Bool :=
  !text.isEmpty && !text.toList.contains separator

theorem names_separated (front back : String) :
    names (front ++ String.singleton separator ++ back) = names front ++ names back := by
  have pieces := List.splitOn_append_cons_of_beq front.toList back.toList
    (beq_self_eq_true separator)
  rw [names, String.toList_append, String.toList_append, String.toList_singleton,
    List.append_assoc, List.singleton_append, Text.splitOn_eq, pieces, List.filter_append,
    List.map_append, ← Text.splitOn_eq, ← Text.splitOn_eq]
  rfl

theorem names_of_isName {name : String} (named : isName name) : names name = [name] := by
  rw [isName, Bool.and_eq_true, Bool.not_eq_true', Bool.not_eq_true',
    List.contains_eq_mem, decide_eq_false_iff_not] at named
  have nonempty : (!name.toList.isEmpty) = true := by
    simpa using named.1
  rw [names, Text.splitOn_eq, List.splitOn_eq_singleton named.2, List.filter_singleton, nonempty,
    cond_true, List.map_singleton, String.ofList_toList]

theorem names_ofLocation {location : Location} (named : ∀ name ∈ location, isName name) :
    names (ofLocation location) = location := by
  induction location with
  | nil => rfl
  | cons name rest induction =>
      have first := names_of_isName (named name List.mem_cons_self)
      have others := induction fun other member => named other (List.mem_cons_of_mem name member)
      cases rest with
      | nil =>
          rw [ofLocation, String.intercalate_singleton, first]
      | cons next rest =>
          rw [ofLocation, String.intercalate_cons_cons]
          have separated := names_separated name (ofLocation (next :: rest))
          rw [first, others] at separated
          exact separated

theorem names_below (root : String) {location : Location}
    (named : ∀ name ∈ location, isName name) :
    names (Files.below root location) = names root ++ location := by
  rw [Files.below]
  split
  · rename_i ends
    rw [endsInSeparator, beq_iff_eq, List.getLast?_eq_some_iff] at ends
    rcases ends with ⟨front, isRoot⟩
    have isSeparated : root = String.ofList front ++ String.singleton separator := by
      apply String.toList_injective
      simp [isRoot]
    have front_only : names root = names (String.ofList front) := by
      rw [isSeparated, ← String.append_empty (s := _ ++ _), names_separated]
      exact List.append_nil _
    rw [front_only, isSeparated, names_separated, names_ofLocation named]
  · rw [names_separated, names_ofLocation named]

end Files.Path

end QueryPipe
