import QueryPipe.Patch.Script

/-! The searches for a shortest script meet inside the window that they divide. -/

namespace QueryPipe.Patch

/-! ## Common lines -/

namespace Sides

theorem commonAfter_le (sides : Sides) (limit old new : Nat) :
    sides.commonAfter limit old new ≤ limit := by
  induction limit generalizing old new with
  | zero => exact Nat.le_refl 0
  | succ limit induction =>
      rw [commonAfter]
      split
      · exact Nat.succ_le_succ (induction (old + 1) (new + 1))
      · exact Nat.zero_le _

theorem commonBefore_le (sides : Sides) (limit old new : Nat) :
    sides.commonBefore limit old new ≤ limit := by
  induction limit generalizing old new with
  | zero => exact Nat.le_refl 0
  | succ limit induction =>
      rw [commonBefore]
      split
      · exact Nat.succ_le_succ (induction (old - 1) (new - 1))
      · exact Nat.zero_le _

end Sides

/-! ## Rounds -/

/-- The diagonals that are followed in a round. -/
def InRound (depth : Nat) (diagonal : Int) : Prop :=
  -depth ≤ diagonal ∧ diagonal ≤ depth ∧ (diagonal - depth) % 2 = 0

theorem mem_diagonals {depth : Nat} {diagonal : Int} :
    diagonal ∈ diagonals depth ↔ InRound depth diagonal := by
  rw [diagonals, List.mem_map, InRound]
  constructor
  · rintro ⟨index, member, rfl⟩
    have low := List.mem_range.mp member
    omega
  · intro inside
    exact ⟨((depth - diagonal) / 2).toNat, List.mem_range.mpr (by omega), by omega⟩

theorem nodup_diagonals (depth : Nat) : (diagonals depth).Nodup := by
  rw [diagonals, List.Nodup, List.pairwise_map]
  refine List.nodup_range.imp ?_
  intro left right different
  omega

namespace Frontier

/-- A frontier with room for all diagonals below a size. -/
structure HasSize (frontier : Frontier) (size : Nat) : Prop where
  center : frontier.center = size
  room : frontier.reach.size = 2 * size

theorem hasSize_empty (size : Nat) : (empty size).HasSize size :=
  ⟨rfl, Array.size_replicate⟩

variable {frontier after : Frontier} {size depth : Nat} {diagonal other : Int} {value : Nat}

theorem HasSize.set (sized : frontier.HasSize size) (diagonal : Int) (value : Nat) :
    (frontier.set diagonal value).HasSize size :=
  ⟨sized.center, Array.size_setIfInBounds.trans sized.room⟩

theorem get_set (sized : frontier.HasSize size) (low : -size ≤ diagonal) (high : diagonal < size)
    (otherLow : -size ≤ other) :
    (frontier.set diagonal value).get other =
      if other = diagonal then value else frontier.get other := by
  have inBounds : (diagonal + frontier.center).toNat < frontier.reach.size := by
    rw [sized.center, sized.room]
    omega
  rw [get, set, Array.getElem?_setIfInBounds, sized.center]
  by_cases same : other = diagonal
  · rw [sized.center] at inBounds
    rw [if_pos same, same, if_pos rfl, if_pos inBounds, Option.getD_some]
  · have apart : (diagonal + size).toNat ≠ (other + size).toNat := by omega
    rw [if_neg same, if_neg apart, get, sized.center]

theorem get_set_zero (frontier : Frontier) (diagonal : Int) :
    (frontier.set diagonal 0).get diagonal = 0 := by
  rw [get, set, Array.getElem?_setIfInBounds, if_pos rfl]
  split <;> rfl

/-- The search on a diagonal begins at what its neighbours reached. -/
theorem start_congr (left : after.get (diagonal - 1) = frontier.get (diagonal - 1))
    (right : after.get (diagonal + 1) = frontier.get (diagonal + 1)) :
    after.start depth diagonal = frontier.start depth diagonal := by
  rw [start, start, left, right]

/-- A step on one diagonal of a round does not change where the others begin. -/
theorem start_set (sized : frontier.HasSize size) (small : depth < size)
    (inside : InRound depth diagonal) (otherInside : InRound depth other) :
    (frontier.set diagonal value).start depth other = frontier.start depth other := by
  rcases inside with ⟨low, high, parity⟩
  rcases otherInside with ⟨otherLow, otherHigh, otherParity⟩
  apply start_congr
  · rw [get_set sized (by omega) (by omega) (by omega), if_neg (by omega)]
  · rw [get_set sized (by omega) (by omega) (by omega), if_neg (by omega)]

/-- What a step does that goes on: it sets its own diagonal to where it began and a run
beyond, of which something is known. -/
def Advances (step : Frontier → Int → Round) (depth : Nat)
    (known : Int → Nat → Nat → Prop) : Prop :=
  ∀ frontier diagonal after, step frontier diagonal = .ok after →
    ∃ run, after = frontier.set diagonal (frontier.start depth diagonal + run) ∧
      known diagonal (frontier.start depth diagonal) run

variable {step : Frontier → Int → Round} {known : Int → Nat → Nat → Prop} {followed : List Int}

/-- Every diagonal of a round is followed from where it began before the round. -/
theorem advanced_of_ok (advances : Advances step depth known) (small : depth < size)
    (inside : ∀ diagonal ∈ followed, InRound depth diagonal) (distinct : followed.Nodup)
    (sized : frontier.HasSize size) (ended : followed.foldlM step frontier = .ok after) :
    after.HasSize size ∧
      (∀ diagonal ∈ followed, ∃ run, after.get diagonal = frontier.start depth diagonal + run ∧
        known diagonal (frontier.start depth diagonal) run) ∧
      ∀ other : Int, -size ≤ other → other ∉ followed → after.get other = frontier.get other := by
  induction followed generalizing frontier with
  | nil =>
      cases ended
      exact ⟨sized, by simp, fun _ _ _ => rfl⟩
  | cons diagonal rest induction =>
      rw [List.foldlM_cons] at ended
      cases stepped : step frontier diagonal with
      | error meeting =>
          rw [stepped] at ended
          cases ended
      | ok next =>
          rw [stepped] at ended
          rcases advances frontier diagonal next stepped with ⟨run, rfl, isKnown⟩
          have here := inside diagonal List.mem_cons_self
          have later : ∀ other ∈ rest, InRound depth other :=
            fun other member => inside other (List.mem_cons_of_mem diagonal member)
          rcases List.nodup_cons.mp distinct with ⟨fresh, restDistinct⟩
          have bounds := here
          rcases bounds with ⟨low, high, -⟩
          rcases induction later restDistinct (sized.set _ _) ended with ⟨afterSized, runs, kept⟩
          refine ⟨afterSized, ?_, ?_⟩
          · intro other member
            rcases List.mem_cons.mp member with rfl | member
            · refine ⟨run, ?_, isKnown⟩
              rw [kept other (by omega) fresh,
                get_set sized (by omega) (by omega) (by omega), if_pos rfl]
            · have same := runs other member
              rwa [start_set sized small here (later other member)] at same
          · intro other otherLow absent
            rcases not_or.mp (mt List.mem_cons.mpr absent) with ⟨different, absent⟩
            rw [kept other otherLow absent,
              get_set sized (by omega) (by omega) otherLow, if_neg different]

/-- The step that ends a round begins where its diagonal began before the round. -/
theorem exists_step_of_error (advances : Advances step depth known) (small : depth < size)
    (inside : ∀ diagonal ∈ followed, InRound depth diagonal)
    (sized : frontier.HasSize size) {meeting : Nat × Nat}
    (ended : followed.foldlM step frontier = .error meeting) :
    ∃ diagonal ∈ followed, ∃ current : Frontier,
      current.start depth diagonal = frontier.start depth diagonal ∧
      step current diagonal = .error meeting := by
  induction followed generalizing frontier with
  | nil => cases ended
  | cons diagonal rest induction =>
      rw [List.foldlM_cons] at ended
      cases stepped : step frontier diagonal with
      | error found =>
          rw [stepped] at ended
          cases ended
          exact ⟨diagonal, List.mem_cons_self, frontier, rfl, stepped⟩
      | ok next =>
          rw [stepped] at ended
          rcases advances frontier diagonal next stepped with ⟨run, rfl, -⟩
          have later : ∀ other ∈ rest, InRound depth other :=
            fun other member => inside other (List.mem_cons_of_mem diagonal member)
          rcases induction later (sized.set _ _) ended with ⟨other, member, current, same, stepped⟩
          rw [start_set sized small (inside diagonal List.mem_cons_self) (later other member)] at same
          exact ⟨other, List.mem_cons_of_mem diagonal member, current, same, stepped⟩

/-! ## How far a search goes -/

/-- Where the search on a diagonal begins after a round. -/
theorem start_cases (frontier : Frontier) (inside : InRound (depth + 1) diagonal) :
    (frontier.start (depth + 1) diagonal = frontier.get (diagonal + 1) ∧ diagonal + 1 ≤ depth ∧
      (-depth ≤ diagonal - 1 → frontier.get (diagonal - 1) < frontier.get (diagonal + 1))) ∨
    (frontier.start (depth + 1) diagonal = frontier.get (diagonal - 1) + 1 ∧
      -depth ≤ diagonal - 1 ∧
      (diagonal + 1 ≤ depth → frontier.get (diagonal + 1) ≤ frontier.get (diagonal - 1))) := by
  rcases inside with ⟨low, high, parity⟩
  rw [start]
  split
  · rename_i isRight
    simp only [Bool.or_eq_true, beq_iff_eq, Bool.and_eq_true, bne_iff_ne, decide_eq_true_eq]
      at isRight
    left
    omega
  · rename_i isLeft
    simp only [Bool.or_eq_true, beq_iff_eq, Bool.and_eq_true, bne_iff_ne, decide_eq_true_eq]
      at isLeft
    right
    omega

/-- A run that goes anywhere ends inside the window. -/
def Runs (oldLength newLength : Nat) (diagonal : Int) (start run : Nat) : Prop :=
  run = 0 ∨ start + run ≤ oldLength ∧ (start + run : Int) ≤ newLength + diagonal

variable {oldLength newLength : Nat}

/-- How far the diagonals of a round were followed. One that left the window on one side
has a neighbour on that side that is about as far. -/
structure Bounded (frontier : Frontier) (oldLength newLength depth : Nat) : Prop where
  ahead : ∀ diagonal, InRound depth diagonal → diagonal ≤ frontier.get diagonal
  right : ∀ diagonal, InRound depth diagonal → oldLength < frontier.get diagonal →
    -depth ≤ diagonal - 2 ∧ frontier.get diagonal ≤ frontier.get (diagonal - 2) + 1
  below : ∀ diagonal, InRound depth diagonal → newLength + diagonal < frontier.get diagonal →
    diagonal + 2 ≤ depth ∧ frontier.get diagonal + 1 ≤ frontier.get (diagonal + 2)

theorem Bounded.next (bounded : frontier.Bounded oldLength newLength depth)
    (advanced : ∀ diagonal, InRound (depth + 1) diagonal →
      ∃ run, after.get diagonal = frontier.start (depth + 1) diagonal + run ∧
        Runs oldLength newLength diagonal (frontier.start (depth + 1) diagonal) run) :
    after.Bounded oldLength newLength (depth + 1) := by
  -- what a diagonal reaches, is at least what its neighbours did
  have atLeast : ∀ diagonal, InRound (depth + 1) diagonal →
      (diagonal + 1 ≤ depth → frontier.get (diagonal + 1) ≤ after.get diagonal) ∧
      (-depth ≤ diagonal - 1 → frontier.get (diagonal - 1) + 1 ≤ after.get diagonal) := by
    intro diagonal inside
    rcases advanced diagonal inside with ⟨run, reached, -⟩
    have cases := start_cases frontier inside
    omega
  refine ⟨?_, ?_, ?_⟩
  · intro diagonal inside
    rcases advanced diagonal inside with ⟨run, reached, -⟩
    have bounds := inside
    rcases bounds with ⟨low, high, parity⟩
    rcases start_cases frontier inside with ⟨isStart, inRange, -⟩ | ⟨isStart, inRange, -⟩
    · have ahead := bounded.ahead (diagonal + 1) ⟨by omega, by omega, by omega⟩
      omega
    · have ahead := bounded.ahead (diagonal - 1) ⟨by omega, by omega, by omega⟩
      omega
  · intro diagonal inside beyond
    rcases advanced diagonal inside with ⟨run, reached, runs⟩
    have bounds := inside
    rcases bounds with ⟨low, high, parity⟩
    rw [Runs] at runs
    have neighbour : -depth ≤ diagonal - 1 ∧
        after.get diagonal ≤ frontier.get (diagonal - 1) + 1 := by
      rcases start_cases frontier inside with ⟨isStart, inRange, -⟩ | ⟨isStart, inRange, -⟩
      · have right := bounded.right (diagonal + 1) ⟨by omega, by omega, by omega⟩ (by omega)
        rw [show diagonal + 1 - 2 = diagonal - 1 by omega] at right
        omega
      · omega
    have least := (atLeast (diagonal - 2) ⟨by omega, by omega, by omega⟩).1
    rw [show diagonal - 2 + 1 = diagonal - 1 by omega] at least
    omega
  · intro diagonal inside beyond
    rcases advanced diagonal inside with ⟨run, reached, runs⟩
    have bounds := inside
    rcases bounds with ⟨low, high, parity⟩
    rw [Runs] at runs
    rcases start_cases frontier inside with ⟨isStart, inRange, -⟩ | ⟨isStart, inRange, farther⟩
    · have least := (atLeast (diagonal + 2) ⟨by omega, by omega, by omega⟩).2
      rw [show diagonal + 2 - 1 = diagonal + 1 by omega] at least
      omega
    · have below := bounded.below (diagonal - 1) ⟨by omega, by omega, by omega⟩ (by omega)
      rw [show diagonal - 1 + 2 = diagonal + 1 by omega] at below
      omega

/-- What holds before a round. -/
def Ready (frontier : Frontier) (oldLength newLength : Nat) : (depth : Nat) → Prop
  | 0 => frontier.get 1 = 0
  | depth + 1 => frontier.Bounded oldLength newLength depth

theorem Ready.bounded (ready : frontier.Ready oldLength newLength depth)
    (advanced : ∀ diagonal, InRound depth diagonal →
      ∃ run, after.get diagonal = frontier.start depth diagonal + run ∧
        Runs oldLength newLength diagonal (frontier.start depth diagonal) run) :
    after.Bounded oldLength newLength depth := by
  cases depth with
  | succ depth => exact ready.next advanced
  | zero =>
      have only : ∀ diagonal, InRound 0 diagonal → diagonal = 0 := by
        rintro diagonal ⟨low, high, -⟩
        omega
      have begins : frontier.start 0 0 = 0 := ready
      rcases advanced 0 ⟨by omega, by omega, rfl⟩ with ⟨run, reached, runs⟩
      rw [begins, Runs] at runs
      rw [begins] at reached
      refine ⟨?_, ?_, ?_⟩ <;> intro diagonal inside <;> rcases only diagonal inside with rfl <;>
        omega

/-- The search from the front has not met the one from the back in a round. -/
def Unmet (frontier : Frontier) (oldLength newLength depth : Nat) : Prop :=
  ∀ diagonal, InRound depth diagonal →
    (diagonal - (oldLength - newLength)).natAbs < depth →
      frontier.get diagonal < oldLength ∧ frontier.get diagonal < newLength + diagonal

/-- Where the search from the front can next meet the other one, it begins in the window. -/
theorem Bounded.start_le (bounded : frontier.Bounded oldLength newLength depth)
    (unmet : frontier.Unmet oldLength newLength depth)
    (odd : ((oldLength : Int) - newLength) % 2 ≠ 0) (inside : InRound (depth + 1) diagonal)
    (near : (diagonal - (oldLength - newLength)).natAbs ≤ depth) :
    frontier.start (depth + 1) diagonal ≤ oldLength ∧
      frontier.start (depth + 1) diagonal ≤ newLength + diagonal := by
  have bounds := inside
  rcases bounds with ⟨low, high, parity⟩
  rcases start_cases frontier inside with ⟨isStart, inRange, -⟩ | ⟨isStart, inRange, -⟩
  · have here : InRound depth (diagonal + 1) := ⟨by omega, by omega, by omega⟩
    rw [isStart]
    by_cases close : (diagonal + 1 - (oldLength - newLength)).natAbs < depth
    · have met := unmet (diagonal + 1) here close
      omega
    · -- beyond the last diagonal on which the searches could have met
      have within : frontier.get (diagonal + 1) ≤ oldLength := by
        refine Nat.le_of_not_lt fun beyond => ?_
        have right := bounded.right (diagonal + 1) here beyond
        rw [show diagonal + 1 - 2 = diagonal - 1 by omega] at right
        have met := unmet (diagonal - 1) ⟨by omega, by omega, by omega⟩
        omega
      omega
  · have here : InRound depth (diagonal - 1) := ⟨by omega, by omega, by omega⟩
    rw [isStart]
    by_cases close : (diagonal - 1 - (oldLength - newLength)).natAbs < depth
    · have met := unmet (diagonal - 1) here close
      omega
    · have within : frontier.get (diagonal - 1) ≤ newLength + (diagonal - 1) := by
        refine Int.not_lt.mp fun beyond => ?_
        have below := bounded.below (diagonal - 1) here beyond
        rw [show diagonal - 1 + 2 = diagonal + 1 by omega] at below
        have met := unmet (diagonal + 1) ⟨by omega, by omega, by omega⟩
        omega
      omega

end Frontier

/-! ## Steps of the searches -/

section Steps

variable (sides : Sides) (window : Window) (depth : Nat) (opposite frontier : Frontier)
  (diagonal : Int)

theorem exists_run_forwardStep :
    ∃ run, Frontier.Runs window.oldLength window.newLength diagonal
        (frontier.start depth diagonal) run ∧
      forwardStep sides window depth opposite frontier diagonal =
        if window.meetsForward && (diagonal - window.delta).natAbs + 1 ≤ depth
            && window.oldLength ≤ frontier.start depth diagonal + run
              + opposite.get (-(diagonal - window.delta)) then
          .error (frontier.start depth diagonal, (frontier.start depth diagonal - diagonal).toNat)
        else .ok (frontier.set diagonal (frontier.start depth diagonal + run)) := by
  refine ⟨_, ?_, rfl⟩
  rw [Frontier.Runs]
  split
  · rename_i inside
    have common := sides.commonAfter_le
      (min (window.oldLength - frontier.start depth diagonal)
        (window.newLength - ((frontier.start depth diagonal : Int) - diagonal).toNat))
      (window.old + frontier.start depth diagonal)
      (window.new + ((frontier.start depth diagonal : Int) - diagonal).toNat)
    simp only [Bool.and_eq_true, decide_eq_true_eq] at inside
    omega
  · exact .inl rfl

theorem exists_run_backwardStep :
    ∃ run, Frontier.Runs window.oldLength window.newLength diagonal
        (frontier.start depth diagonal) run ∧
      backwardStep sides window depth opposite frontier diagonal =
        if !window.meetsForward && (diagonal - window.delta).natAbs ≤ depth
            && window.oldLength ≤ frontier.start depth diagonal + run
              + opposite.get (-(diagonal - window.delta)) then
          .error (window.oldLength - (frontier.start depth diagonal + run),
            window.newLength - ((frontier.start depth diagonal - diagonal).toNat + run))
        else .ok (frontier.set diagonal (frontier.start depth diagonal + run)) := by
  refine ⟨_, ?_, rfl⟩
  rw [Frontier.Runs]
  split
  · rename_i inside
    have common := sides.commonBefore_le
      (min (window.oldLength - frontier.start depth diagonal)
        (window.newLength - ((frontier.start depth diagonal : Int) - diagonal).toNat))
      (window.oldStop - frontier.start depth diagonal)
      (window.newStop - ((frontier.start depth diagonal : Int) - diagonal).toNat)
    simp only [Bool.and_eq_true, decide_eq_true_eq] at inside
    omega
  · exact .inl rfl

/-- A step from the front that goes on has met nothing. -/
theorem advances_forwardStep :
    Frontier.Advances (forwardStep sides window depth opposite) depth fun diagonal start run =>
      Frontier.Runs window.oldLength window.newLength diagonal start run ∧
      (window.meetsForward → (diagonal - window.delta).natAbs < depth →
        start + run + opposite.get (-(diagonal - window.delta)) < window.oldLength) := by
  intro frontier diagonal after stepped
  rcases exists_run_forwardStep sides window depth opposite frontier diagonal with
    ⟨run, runs, isStep⟩
  rw [isStep] at stepped
  split at stepped
  · cases stepped
  · rename_i goesOn
    cases stepped
    refine ⟨run, rfl, runs, ?_⟩
    intro meets near
    simp only [meets, Bool.true_and, Bool.and_eq_true, decide_eq_true_eq] at goesOn
    omega

theorem advances_backwardStep :
    Frontier.Advances (backwardStep sides window depth opposite) depth
      (Frontier.Runs window.oldLength window.newLength) := by
  intro frontier diagonal after stepped
  rcases exists_run_backwardStep sides window depth opposite frontier diagonal with
    ⟨run, runs, isStep⟩
  rw [isStep] at stepped
  split at stepped
  · cases stepped
  · cases stepped
    exact ⟨run, rfl, runs⟩

end Steps

/-! ## Whole searches -/

namespace Search

/-- Both searches have room for all diagonals below a size. -/
structure HasSize (search : Search) (size : Nat) : Prop where
  forward : search.forward.HasSize size
  backward : search.backward.HasSize size

/-- A meeting lies in a window. -/
def MeetsIn (search : Search) (window : Window) : Prop :=
  ∀ x y, search.meeting = some (x, y) → x ≤ window.oldLength ∧ y ≤ window.newLength

/-- What holds of both searches before a round. -/
structure Ready (search : Search) (window : Window) (depth : Nat) : Prop where
  forward : search.forward.Ready window.oldLength window.newLength depth
  backward : search.backward.Ready window.oldLength window.newLength depth
  unmet : ∀ before, depth = before + 1 → window.meetsForward →
    search.forward.Unmet window.oldLength window.newLength before
  undecided : search.meeting = none

variable {sides : Sides} {window : Window} {size depth : Nat} {search : Search}

/-- A meeting after a step from the front lies in the window. -/
theorem Ready.meeting_le (ready : search.Ready window depth) (sized : search.HasSize size)
    (small : depth < size) {x y : Nat}
    (met : (diagonals depth).foldlM (forwardStep sides window depth search.backward)
      search.forward = .error (x, y)) :
    x ≤ window.oldLength ∧ y ≤ window.newLength := by
  rcases Frontier.exists_step_of_error (advances_forwardStep sides window depth search.backward)
    small (fun _ => mem_diagonals.mp) sized.forward met with
    ⟨diagonal, member, current, sameStart, stepped⟩
  rcases exists_run_forwardStep sides window depth search.backward current diagonal with
    ⟨run, -, isStep⟩
  rw [isStep] at stepped
  split at stepped
  · rename_i meets
    simp only [Bool.and_eq_true, decide_eq_true_eq] at meets
    cases stepped
    cases depth with
    | zero => omega
    | succ depth =>
        have odd : ((window.oldLength : Int) - window.newLength) % 2 ≠ 0 := by
          simpa [Window.meetsForward, Window.delta] using meets.1.1
        have within := Frontier.Bounded.start_le ready.forward
          (ready.unmet depth rfl meets.1.1) odd (mem_diagonals.mp member)
          (by have := meets.1.2; rw [Window.delta] at this; omega)
        omega
  · cases stepped

/-- After a round without a meeting both searches are ready for the next one. -/
theorem Ready.next (ready : search.Ready window depth) {forward backward : Frontier}
    (forwardAdvanced : ∀ diagonal, InRound depth diagonal →
      ∃ run, forward.get diagonal = search.forward.start depth diagonal + run ∧
        Frontier.Runs window.oldLength window.newLength diagonal
          (search.forward.start depth diagonal) run ∧
        (window.meetsForward → (diagonal - window.delta).natAbs < depth →
          search.forward.start depth diagonal + run
            + search.backward.get (-(diagonal - window.delta)) < window.oldLength))
    (backwardAdvanced : ∀ diagonal, InRound depth diagonal →
      ∃ run, backward.get diagonal = search.backward.start depth diagonal + run ∧
        Frontier.Runs window.oldLength window.newLength diagonal
          (search.backward.start depth diagonal) run) :
    Ready { forward, backward } window (depth + 1) := by
  refine ⟨ready.forward.bounded ?_, ready.backward.bounded backwardAdvanced, ?_, rfl⟩
  · intro diagonal inside
    rcases forwardAdvanced diagonal inside with ⟨run, reached, runs, -⟩
    exact ⟨run, reached, runs⟩
  · rintro before ⟨⟩ meets diagonal inside near
    rcases forwardAdvanced diagonal inside with ⟨run, reached, -, unmet⟩
    have short := unmet meets near
    rcases inside with ⟨low, high, parity⟩
    have odd : window.delta % 2 ≠ 0 := by simpa [Window.meetsForward] using meets
    cases depth with
    | zero => omega
    | succ depth =>
        -- the other search is at least as far as its diagonal is from the corner
        have opposite := Frontier.Bounded.ahead ready.backward (-(diagonal - window.delta))
        rw [InRound] at opposite
        simp only [Window.delta] at odd near opposite short
        dsimp only
        omega

/-- Rounds keep the room of both searches, which meet in the window if they meet. -/
theorem searchFrom_spec (rounds : Nat) (ready : search.Ready window depth)
    (sized : search.HasSize size) (bound : rounds + depth ≤ size) :
    (searchFrom sides window rounds depth search).HasSize size ∧
      (searchFrom sides window rounds depth search).MeetsIn window := by
  induction rounds generalizing depth search with
  | zero =>
      refine ⟨sized, ?_⟩
      intro x y met
      rw [searchFrom, ready.undecided] at met
      cases met
  | succ rounds induction =>
      have small : depth < size := by omega
      rw [searchFrom]
      split
      · rename_i meeting met
        refine ⟨⟨sized.forward, sized.backward⟩, ?_⟩
        rintro x y ⟨⟩
        exact ready.meeting_le sized small met
      · rename_i forward forwardEnded
        rcases Frontier.advanced_of_ok (advances_forwardStep sides window depth search.backward)
          small (fun _ => mem_diagonals.mp) (nodup_diagonals depth) sized.forward forwardEnded with
          ⟨forwardSized, forwardAdvanced, -⟩
        split
        · rename_i meeting met
          refine ⟨⟨forwardSized, sized.backward⟩, ?_⟩
          rintro x y ⟨⟩
          rcases Frontier.exists_step_of_error
            (advances_backwardStep sides window depth forward) small
            (fun _ => mem_diagonals.mp) sized.backward met with ⟨diagonal, -, current, -, stepped⟩
          rcases exists_run_backwardStep sides window depth forward current diagonal with
            ⟨run, -, isStep⟩
          rw [isStep] at stepped
          split at stepped
          · cases stepped
            exact ⟨Nat.sub_le .., Nat.sub_le ..⟩
          · cases stepped
        · rename_i backward backwardEnded
          rcases Frontier.advanced_of_ok (advances_backwardStep sides window depth forward)
            small (fun _ => mem_diagonals.mp) (nodup_diagonals depth) sized.backward
            backwardEnded with ⟨backwardSized, backwardAdvanced, -⟩
          refine induction ?_ ⟨forwardSized, backwardSized⟩ (by omega)
          exact ready.next (fun diagonal inside => forwardAdvanced diagonal
            (mem_diagonals.mpr inside)) (fun diagonal inside => backwardAdvanced diagonal
            (mem_diagonals.mpr inside))

/-- Searches that start again divide a window inside it. -/
theorem divide_spec (sized : search.HasSize size)
    (room : roundBound window.oldLength window.newLength ≤ size) :
    (divide sides window search).HasSize size ∧ (divide sides window search).MeetsIn window := by
  have ready : Ready { forward := search.forward.set 1 0, backward := search.backward.set 1 0 }
      window 0 :=
    ⟨Frontier.get_set_zero search.forward 1, Frontier.get_set_zero search.backward 1, by simp, rfl⟩
  exact searchFrom_spec _ ready ⟨sized.forward.set 1 0, sized.backward.set 1 0⟩ room

end Search

end QueryPipe.Patch
