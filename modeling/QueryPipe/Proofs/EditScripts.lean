import QueryPipe.Proofs.SearchBounds

/-! An edit script leads through both lists of lines, from their beginnings to their ends. -/

namespace QueryPipe.Patch

/-! ## Places -/

/-- A place on both sides, by the numbers of lines before it. -/
structure Place where
  old : Nat
  new : Nat

/-- Steps that lead one after the other from one place to another. -/
inductive Leads {α : Type} (step : α → Place → Place → Prop) : Place → List α → Place → Prop
  | nil (place : Place) : Leads step place [] place
  | cons {first : α} {rest : List α} {start middle stop : Place} :
      step first start middle → Leads step middle rest stop → Leads step start (first :: rest) stop

namespace Leads

variable {α : Type} {step : α → Place → Place → Prop} {front back : List α} {start middle stop : Place}

theorem append (first : Leads step start front middle) (second : Leads step middle back stop) :
    Leads step start (front ++ back) stop := by
  induction first with
  | nil => exact second
  | cons here _ induction => exact .cons here (induction second)

theorem split (whole : Leads step start (front ++ back) stop) :
    ∃ middle, Leads step start front middle ∧ Leads step middle back stop := by
  induction front generalizing start with
  | nil => exact ⟨start, .nil start, whole⟩
  | cons first rest induction =>
      cases whole with
      | cons here later =>
          rcases induction later with ⟨middle, led, rest⟩
          exact ⟨middle, .cons here led, rest⟩

theorem single {only : α} (here : step only start stop) : Leads step start [only] stop :=
  .cons here (.nil stop)

theorem mono {other : α → Place → Place → Prop}
    (implied : ∀ {entry start stop}, step entry start stop → other entry start stop)
    (led : Leads step start front stop) : Leads other start front stop := by
  induction led with
  | nil place => exact .nil place
  | cons here _ induction => exact .cons (implied here) induction

theorem reverse_cons {last : α} :
    Leads step start (last :: back).reverse stop ↔
      ∃ middle, Leads step start back.reverse middle ∧ step last middle stop := by
  rw [List.reverse_cons]
  constructor
  · intro whole
    rcases whole.split with ⟨middle, front, rest⟩
    cases rest with
    | cons here rest =>
        cases rest
        exact ⟨middle, front, here⟩
  · rintro ⟨middle, front, here⟩
    exact front.append (.single here)

end Leads

/-! ## Common lines -/

namespace Sides

/-- Some lines are the same on both sides. -/
def SameLines (sides : Sides) (old new length : Nat) : Prop :=
  ∀ index < length, sides.same (old + index) (new + index) = true

variable {sides : Sides} {old new first second : Nat}

theorem SameLines.append (front : sides.SameLines old new first)
    (back : sides.SameLines (old + first) (new + first) second) :
    sides.SameLines old new (first + second) := by
  intro index below
  rcases Nat.lt_or_ge index first with low | high
  · exact front index low
  · have here := back (index - first) (by omega)
    rwa [show old + first + (index - first) = old + index by omega,
      show new + first + (index - first) = new + index by omega] at here

theorem SameLines.front (whole : sides.SameLines old new (first + second)) :
    sides.SameLines old new first :=
  fun index below => whole index (by omega)

theorem SameLines.back (whole : sides.SameLines old new (first + second)) :
    sides.SameLines (old + first) (new + first) second := by
  intro index below
  have here := whole (first + index) (by omega)
  rwa [← Nat.add_assoc, ← Nat.add_assoc] at here

theorem same_commonAfter (sides : Sides) (limit old new : Nat) :
    sides.SameLines old new (sides.commonAfter limit old new) := by
  induction limit generalizing old new with
  | zero => intro index below; cases below
  | succ limit induction =>
      rw [commonAfter]
      split
      · rename_i same
        rw [Nat.add_comm]
        refine SameLines.append ?_ (induction (old + 1) (new + 1))
        intro index below
        rcases Nat.lt_one_iff.mp below with rfl
        exact same
      · intro index below
        cases below

/-- Lines that are the same right before two places. -/
theorem same_commonBefore (sides : Sides) (limit old new : Nat) :
    sides.commonBefore limit old new ≤ old ∧ sides.commonBefore limit old new ≤ new ∧
      sides.SameLines (old - sides.commonBefore limit old new)
        (new - sides.commonBefore limit old new) (sides.commonBefore limit old new) := by
  induction limit generalizing old new with
  | zero => exact ⟨Nat.zero_le _, Nat.zero_le _, fun index below => by cases below⟩
  | succ limit induction =>
      rw [commonBefore]
      split
      · rename_i same
        simp only [Bool.and_eq_true, decide_eq_true_eq] at same
        rcases same with ⟨⟨oldPositive, newPositive⟩, same⟩
        rcases induction (old - 1) (new - 1) with ⟨oldBound, newBound, before⟩
        refine ⟨by omega, by omega, ?_⟩
        rw [show old - (sides.commonBefore limit (old - 1) (new - 1) + 1) =
            old - 1 - sides.commonBefore limit (old - 1) (new - 1) by omega,
          show new - (sides.commonBefore limit (old - 1) (new - 1) + 1) =
            new - 1 - sides.commonBefore limit (old - 1) (new - 1) by omega]
        refine before.append ?_
        intro index below
        rcases Nat.lt_one_iff.mp below with rfl
        rw [Nat.sub_add_cancel oldBound, Nat.sub_add_cancel newBound]
        exact same
      · exact ⟨Nat.zero_le _, Nat.zero_le _, fun index below => by cases below⟩

end Sides

/-! ## Edits -/

/-- What an edit does at a place. The place where a deletion stands among the new lines and
an insertion among the old ones is not what is recorded of it. -/
inductive Edit.Leads (sides : Sides) : Edit → Place → Place → Prop
  | keep {old new length : Nat} (same : sides.SameLines old new length) :
      Leads sides (.keep old new length) ⟨old, new⟩ ⟨old + length, new + length⟩
  | delete (old new recorded length : Nat) :
      Leads sides (.delete old recorded length) ⟨old, new⟩ ⟨old + length, new⟩
  | insert (old new recorded length : Nat) :
      Leads sides (.insert recorded new length) ⟨old, new⟩ ⟨old, new + length⟩

/-- A script leads from one place to another. -/
abbrev ScriptLeads (sides : Sides) : Place → List Edit → Place → Prop :=
  Patch.Leads (Edit.Leads sides)

theorem leads_unlessEmpty {sides : Sides} {edit : Edit} {start stop : Place}
    (led : edit.Leads sides start stop) : ScriptLeads sides start (unlessEmpty edit) stop := by
  rw [unlessEmpty]
  split
  · rename_i isEmpty
    have nothing : edit.length = 0 := by simpa using isEmpty
    cases led <;> cases nothing <;> exact .nil _
  · exact .single led

/-! ## The search -/

namespace Window

def start (window : Window) : Place := ⟨window.old, window.new⟩

def stop (window : Window) : Place := ⟨window.oldStop, window.newStop⟩

/-- A window that ends after it begins. -/
structure IsProper (window : Window) : Prop where
  old : window.old ≤ window.oldStop
  new : window.new ≤ window.newStop

/-- The lines of a window without its first ones. -/
def dropFront (window : Window) (count : Nat) : Window :=
  { window with old := window.old + count, new := window.new + count }

/-- The lines of a window without its last ones. -/
def dropBack (window : Window) (count : Nat) : Window :=
  { window with oldStop := window.oldStop - count, newStop := window.newStop - count }

/-- The lines of a window before a place in it. -/
def above (window : Window) (x y : Nat) : Window :=
  { window with oldStop := window.old + x, newStop := window.new + y }

/-- The lines of a window after a place in it. -/
def below (window : Window) (x y : Nat) : Window :=
  { window with old := window.old + x, new := window.new + y }

end Window

section Search

variable {sides : Sides} {window : Window} {size : Nat}

/-- The edits of a window without common lines at its borders. -/
def middleOf (sides : Sides) (fuel : Nat) (window : Window) (search : Search) :
    List Edit × Search :=
  if window.oldLength == 0 && window.newLength == 0 then ([], search)
  else if window.newLength == 0 then
    ([.delete window.old window.new window.oldLength], search)
  else if window.oldLength == 0 then
    ([.insert window.old window.new window.newLength], search)
  else
    let search := divide sides window search
    match search.meeting with
    | some (x, y) =>
      let above := editsOf sides fuel (window.above x y) search
      let below := editsOf sides fuel (window.below x y) above.2
      (above.1 ++ below.1, below.2)
    | none =>
      ([.delete window.old window.new window.oldLength,
        .insert window.old window.new window.newLength], search)

theorem editsOf_succ (sides : Sides) (fuel : Nat) (window : Window) (search : Search) :
    editsOf sides (fuel + 1) window search =
      let front := sides.commonAfter (min window.oldLength window.newLength) window.old window.new
      let back := sides.commonBefore (min (window.dropFront front).oldLength
        (window.dropFront front).newLength) window.oldStop window.newStop
      let inner := (window.dropFront front).dropBack back
      let middle := middleOf sides fuel inner search
      (unlessEmpty (.keep window.old window.new front) ++ middle.1
        ++ unlessEmpty (.keep inner.oldStop inner.newStop back), middle.2) := rfl

theorem leads_deleted (proper : window.IsProper) :
    Edit.Leads sides (.delete window.old window.new window.oldLength) window.start
      ⟨window.oldStop, window.new⟩ := by
  have led := @Edit.Leads.delete sides window.old window.new window.new window.oldLength
  rwa [Window.oldLength, Nat.add_sub_cancel' proper.old] at led

theorem leads_inserted (proper : window.IsProper) (old : Nat) :
    Edit.Leads sides (.insert window.old window.new window.newLength) ⟨old, window.new⟩
      ⟨old, window.newStop⟩ := by
  have led := @Edit.Leads.insert sides old window.new window.old window.newLength
  rwa [Window.newLength, Nat.add_sub_cancel' proper.new] at led

theorem leads_replaced (proper : window.IsProper) :
    ScriptLeads sides window.start [.delete window.old window.new window.oldLength,
      .insert window.old window.new window.newLength] window.stop :=
  .cons (leads_deleted proper) (.single (leads_inserted proper window.oldStop))

/-- The edits lead through a window, and the searches that are left have room for others. -/
def LeadThrough (sides : Sides) (size : Nat) (window : Window) (edits : List Edit × Search) :
    Prop :=
  edits.2.HasSize size ∧ ScriptLeads sides window.start edits.1 window.stop

theorem middleOf_spec (fuel : Nat) {search : Search} (proper : window.IsProper)
    (sized : search.HasSize size) (room : roundBound window.oldLength window.newLength ≤ size)
    (halves : ∀ {window : Window} {search : Search}, window.IsProper → search.HasSize size →
      roundBound window.oldLength window.newLength ≤ size →
      LeadThrough sides size window (editsOf sides fuel window search)) :
    LeadThrough sides size window (middleOf sides fuel window search) := by
  have oldProper := proper.old
  have newProper := proper.new
  rw [middleOf]
  split
  · rename_i isEmpty
    simp only [Bool.and_eq_true, beq_iff_eq, Window.oldLength, Window.newLength] at isEmpty
    have same : window.start = window.stop := by
      rw [Window.start, Window.stop, Place.mk.injEq]
      omega
    exact ⟨sized, same ▸ .nil _⟩
  · split
    · rename_i noNew
      have sameStop : window.stop = ⟨window.oldStop, window.new⟩ := by
        rw [beq_iff_eq, Window.newLength] at noNew
        rw [Window.stop, Place.mk.injEq]
        omega
      exact ⟨sized, sameStop ▸ .single (leads_deleted proper)⟩
    · split
      · rename_i noOld
        have sameStop : window.stop = ⟨window.old, window.newStop⟩ := by
          rw [beq_iff_eq, Window.oldLength] at noOld
          rw [Window.stop, Place.mk.injEq]
          omega
        exact ⟨sized, sameStop ▸ .single (leads_inserted proper window.old)⟩
      · rcases Search.divide_spec sized room with ⟨dividedSized, meetsIn⟩
        simp only
        split
        · rename_i x y met
          have inside := meetsIn x y met
          simp only [Window.oldLength, Window.newLength, roundBound] at inside room
          rcases @halves (window.above x y) _ ⟨Nat.le_add_right .., Nat.le_add_right ..⟩
            dividedSized (by simp only [Window.above, Window.oldLength, Window.newLength, roundBound]
                             omega) with
            ⟨aboveSized, aboveLeads⟩
          rcases @halves (window.below x y) _ ⟨by simp only [Window.below]; omega,
            by simp only [Window.below]; omega⟩ aboveSized
            (by simp only [Window.below, Window.oldLength, Window.newLength, roundBound]
                omega) with
            ⟨belowSized, belowLeads⟩
          exact ⟨belowSized, aboveLeads.append belowLeads⟩
        · exact ⟨dividedSized, leads_replaced proper⟩

/-- The edits of a window lead through it. -/
theorem editsOf_spec (fuel : Nat) {search : Search} (proper : window.IsProper)
    (sized : search.HasSize size) (room : roundBound window.oldLength window.newLength ≤ size) :
    LeadThrough sides size window (editsOf sides fuel window search) := by
  induction fuel generalizing window search with
  | zero => exact ⟨sized, leads_replaced proper⟩
  | succ fuel induction =>
      rw [editsOf_succ]
      dsimp only
      -- of the common lines at both ends only their number and that they are the same is used
      have frontBound := sides.commonAfter_le (min window.oldLength window.newLength)
        window.old window.new
      have frontSame := sides.same_commonAfter (min window.oldLength window.newLength)
        window.old window.new
      generalize sides.commonAfter (min window.oldLength window.newLength)
        window.old window.new = front at frontBound frontSame ⊢
      have backBound := sides.commonBefore_le (min (window.dropFront front).oldLength
        (window.dropFront front).newLength) window.oldStop window.newStop
      have backSame := sides.same_commonBefore (min (window.dropFront front).oldLength
        (window.dropFront front).newLength) window.oldStop window.newStop
      generalize sides.commonBefore (min (window.dropFront front).oldLength
        (window.dropFront front).newLength) window.oldStop window.newStop = back
        at backBound backSame ⊢
      have oldProper := proper.old
      have newProper := proper.new
      simp only [Window.dropFront, Window.oldLength, Window.newLength, roundBound]
        at frontBound backBound room
      rcases backSame with ⟨oldBound, newBound, backSame⟩
      have middle := @middleOf_spec sides ((window.dropFront front).dropBack back) size fuel search
        ⟨by simp only [Window.dropFront, Window.dropBack]; omega,
          by simp only [Window.dropFront, Window.dropBack]; omega⟩ sized
        (by simp only [Window.dropFront, Window.dropBack, Window.oldLength, Window.newLength,
              roundBound]
            omega) induction
      refine ⟨middle.1, ((leads_unlessEmpty (.keep frontSame)).append middle.2).append ?_⟩
      have last := leads_unlessEmpty (Edit.Leads.keep backSame)
      rwa [Nat.sub_add_cancel oldBound, Nat.sub_add_cancel newBound] at last

/-- The script of a search leads through both lists of lines. -/
theorem leads_shortestScript (sides : Sides) :
    ScriptLeads sides ⟨0, 0⟩ (shortestScript sides) ⟨sides.old.size, sides.new.size⟩ :=
  (@editsOf_spec sides ⟨0, sides.old.size, 0, sides.new.size⟩ _ _ _
    ⟨Nat.zero_le _, Nat.zero_le _⟩ ⟨Frontier.hasSize_empty _, Frontier.hasSize_empty _⟩
    (Nat.le_refl _)).2

end Search

end QueryPipe.Patch
