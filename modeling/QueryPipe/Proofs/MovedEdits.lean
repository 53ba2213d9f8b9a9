import QueryPipe.Proofs.EditScripts

/-! An edit script whose edits are moved over equal lines still leads to the same place. -/

namespace QueryPipe.Patch

section Moving

variable {sides : Sides} {start middle stop : Place} {before after : List Edit} {edit : Edit}

/-- An edit that covers nothing may be left out. -/
theorem eq_of_length_eq_zero (led : edit.Leads sides start stop) (nothing : edit.length = 0) :
    start = stop := by
  cases led <;> cases nothing <;> rfl

theorem leads_reverse_shortened (front : ScriptLeads sides start before.reverse middle)
    (led : edit.Leads sides middle stop) :
    ScriptLeads sides start (if edit.length == 0 then before else edit :: before).reverse stop := by
  split
  · rename_i isEmpty
    exact eq_of_length_eq_zero led (by simpa using isEmpty) ▸ front
  · exact Leads.reverse_cons.mpr ⟨middle, front, led⟩

theorem leads_shortened (led : edit.Leads sides start middle)
    (rest : ScriptLeads sides middle after stop) :
    ScriptLeads sides start (if edit.length == 0 then after else edit :: after) stop := by
  split
  · rename_i isEmpty
    exact eq_of_length_eq_zero led (by simpa using isEmpty) ▸ rest
  · exact .cons led rest

namespace Opened

/-- A script that is held open leads from one place to another. -/
inductive Leads (sides : Sides) (start stop : Place) : Opened → Prop
  | mk {before after : List Edit} {focus : Edit} {here beyond : Place} :
      ScriptLeads sides start before.reverse here → focus.Leads sides here beyond →
      ScriptLeads sides beyond after stop → Leads sides start stop ⟨before, focus, after⟩

def joinAfter (old new length : Nat) : List Edit → List Edit
  | .keep kept keptNew size :: rest => Edit.growLeft length (.keep kept keptNew size) :: rest
  | rest => .keep old new length :: rest

theorem leads_joinAfter {old new length : Nat} (same : sides.SameLines old new length)
    (led : ScriptLeads sides ⟨old + length, new + length⟩ after stop) :
    ScriptLeads sides ⟨old, new⟩ (joinAfter old new length after) stop := by
  rw [joinAfter.eq_def]
  split
  · cases led with
    | cons here rest =>
        cases here with
        | keep keptSame =>
            have joined := Edit.Leads.keep (same.append keptSame)
            rw [← Nat.add_assoc, ← Nat.add_assoc] at joined
            simp only [Edit.growLeft, Edit.adjust, Nat.add_sub_cancel]
            rw [Nat.add_comm _ length]
            exact .cons joined rest
  · exact .cons (.keep same) led

def joinBefore (old new length : Nat) : List Edit → List Edit
  | .keep kept keptNew size :: rest => Edit.growRight length (.keep kept keptNew size) :: rest
  | rest => .keep old new length :: rest

theorem leads_joinBefore {old new length : Nat} (same : sides.SameLines old new length)
    (led : ScriptLeads sides start before.reverse ⟨old, new⟩) :
    ScriptLeads sides start (joinBefore old new length before).reverse
      ⟨old + length, new + length⟩ := by
  rw [joinBefore.eq_def]
  split
  · rcases Leads.reverse_cons.mp led with ⟨middle, front, here⟩
    cases here with
    | keep keptSame =>
        have joined := Edit.Leads.keep (keptSame.append same)
        rw [← Nat.add_assoc, ← Nat.add_assoc] at joined
        exact Leads.reverse_cons.mpr ⟨_, front, joined⟩
  · exact Leads.reverse_cons.mpr ⟨_, led, .keep same⟩

/-- An insertion is moved up over equal lines. -/
theorem Leads.insert_up {old new length recorded place size count : Nat}
    (led : Leads sides start stop
      ⟨.keep old new length :: before, .insert recorded place size, after⟩)
    (bound : count ≤ min length size)
    (same : sides.SameLines (old + length - count) (place + size - count) count) :
    Leads sides start stop
      ⟨if ((Edit.keep old new length).dropRight count).length == 0 then before
        else (Edit.keep old new length).dropRight count :: before,
        (Edit.insert recorded place size).shiftLeft count,
        joinAfter (old + length - count) (place + size - count) count after⟩ := by
  rcases led with ⟨front, inserted, rest⟩
  rcases Leads.reverse_cons.mp front with ⟨middle, earlier, kept⟩
  rcases Nat.exists_eq_add_of_le' (show count ≤ length by omega) with ⟨remaining, rfl⟩
  cases kept with
  | keep keptSame =>
      cases inserted with
      | insert =>
          refine @Leads.mk _ _ _ _ _ _ ⟨old + remaining, new + remaining⟩
            ⟨old + remaining, new + remaining + size⟩ ?_ ?_ ?_
          · apply leads_reverse_shortened earlier
            simp only [Edit.dropRight, Edit.adjust, Nat.add_sub_cancel, id]
            exact .keep keptSame.front
          · simp only [Edit.shiftLeft, Edit.adjust, id,
              show new + (remaining + count) - count = new + remaining by omega]
            exact .insert ..
          · simp only [show old + (remaining + count) - count = old + remaining by omega,
              show new + (remaining + count) + size - count = new + remaining + size by omega]
              at same ⊢
            apply leads_joinAfter same
            rwa [Nat.add_assoc old, Nat.add_right_comm _ size, Nat.add_assoc new]

/-- An insertion is moved down over equal lines. -/
theorem Leads.insert_down {old new length recorded place size count : Nat}
    (led : Leads sides start stop
      ⟨before, .insert recorded place size, .keep old new length :: after⟩)
    (bound : count ≤ min length size) (same : sides.SameLines old place count) :
    Leads sides start stop
      ⟨joinBefore old place count before, (Edit.insert recorded place size).shiftRight count,
        if ((Edit.keep old new length).dropLeft count).length == 0 then after
        else (Edit.keep old new length).dropLeft count :: after⟩ := by
  rcases led with ⟨front, inserted, rest⟩
  rcases Nat.exists_eq_add_of_le (show count ≤ length by omega) with ⟨remaining, rfl⟩
  cases rest with
  | cons kept rest =>
      cases inserted with
      | insert =>
          cases kept with
          | keep keptSame =>
              refine @Leads.mk _ _ _ _ _ _ ⟨old + count, place + count⟩
                ⟨old + count, place + count + size⟩ (leads_joinBefore same front) ?_ ?_
              · exact .insert ..
              · refine leads_shortened ?_ rest
                have shorter := Edit.Leads.keep keptSame.back
                simp only [Edit.dropLeft, Edit.adjust, Nat.add_sub_cancel_left]
                rw [Nat.add_right_comm place count, ← Nat.add_assoc old,
                  ← Nat.add_assoc (place + size)]
                exact shorter

/-- An edit without lines is left out. -/
theorem Leads.drop_up {focus : Edit} (led : Leads sides start stop ⟨edit :: before, focus, after⟩)
    (nothing : edit.length = 0) : Leads sides start stop ⟨before, focus, after⟩ := by
  rcases led with ⟨front, here, rest⟩
  rcases Leads.reverse_cons.mp front with ⟨middle, front, dropped⟩
  exact .mk (eq_of_length_eq_zero dropped nothing ▸ front) here rest

theorem Leads.drop_down {focus : Edit} (led : Leads sides start stop ⟨before, focus, edit :: after⟩)
    (nothing : edit.length = 0) : Leads sides start stop ⟨before, focus, after⟩ := by
  rcases led with ⟨front, here, rest⟩
  cases rest with
  | cons dropped rest => exact .mk front here (eq_of_length_eq_zero dropped nothing ▸ rest)

/-- Two edits that do not touch the same side change places. -/
inductive Crosses : Edit → Edit → Prop
  | delete (old new length otherOld otherNew other : Nat) :
      Crosses (.delete old new length) (.insert otherOld otherNew other)
  | insert (old new length otherOld otherNew other : Nat) :
      Crosses (.insert old new length) (.delete otherOld otherNew other)

theorem exists_crossed {first second : Edit} (crosses : Crosses first second)
    (led : first.Leads sides start middle) (later : second.Leads sides middle stop) :
    ∃ between, second.Leads sides start between ∧ first.Leads sides between stop := by
  cases crosses with
  | delete =>
      cases led
      cases later
      exact ⟨_, .insert .., .delete ..⟩
  | insert =>
      cases led
      cases later
      exact ⟨_, .delete .., .insert ..⟩

/-- Two edits of the same kind become one. -/
inductive Extends : Edit → Edit → Prop
  | delete (old new length otherOld otherNew other : Nat) :
      Extends (.delete old new length) (.delete otherOld otherNew other)
  | insert (old new length otherOld otherNew other : Nat) :
      Extends (.insert old new length) (.insert otherOld otherNew other)

theorem leads_extended {first second : Edit} (alike : Extends first second)
    (led : first.Leads sides start middle) (later : second.Leads sides middle stop) :
    (first.growRight second.length).Leads sides start stop := by
  cases alike with
  | delete =>
      cases led
      cases later
      rw [Nat.add_assoc]
      exact .delete ..
  | insert =>
      cases led
      cases later
      rw [Nat.add_assoc]
      exact .insert ..

theorem Leads.cross_up {focus : Edit} (crosses : Crosses edit focus)
    (led : Leads sides start stop ⟨edit :: before, focus, after⟩) :
    Leads sides start stop ⟨before, focus, edit :: after⟩ := by
  rcases led with ⟨front, here, rest⟩
  rcases Leads.reverse_cons.mp front with ⟨middle, earlier, crossed⟩
  rcases exists_crossed crosses crossed here with ⟨between, first, second⟩
  exact .mk earlier first (.cons second rest)

theorem Leads.cross_down {focus : Edit} (crosses : Crosses focus edit)
    (led : Leads sides start stop ⟨before, focus, edit :: after⟩) :
    Leads sides start stop ⟨edit :: before, focus, after⟩ := by
  rcases led with ⟨front, here, rest⟩
  cases rest with
  | cons crossed rest =>
      rcases exists_crossed crosses here crossed with ⟨between, first, second⟩
      exact .mk (Leads.reverse_cons.mpr ⟨_, front, first⟩) second rest

theorem Leads.extend_up {focus : Edit} (alike : Extends edit focus)
    (led : Leads sides start stop ⟨edit :: before, focus, after⟩) :
    Leads sides start stop ⟨before, edit.growRight focus.length, after⟩ := by
  rcases led with ⟨front, here, rest⟩
  rcases Leads.reverse_cons.mp front with ⟨middle, earlier, extended⟩
  exact .mk earlier (leads_extended alike extended here) rest

theorem Leads.extend_down {focus : Edit} (alike : Extends focus edit)
    (led : Leads sides start stop ⟨before, focus, edit :: after⟩) :
    Leads sides start stop ⟨before, focus.growRight edit.length, after⟩ := by
  rcases led with ⟨front, here, rest⟩
  cases rest with
  | cons extended rest => exact .mk front (leads_extended alike here extended) rest

/-- Moving an edit up leaves the script leading to the same place. -/
theorem Leads.moveUp (fuel : Nat) {script : Opened} (led : script.Leads sides start stop) :
    (script.moveUp sides fuel).Leads sides start stop := by
  -- each round of the move is one of the steps above, by the kinds of the edits that meet
  induction fuel generalizing script with
  | zero => exact led
  | succ fuel induction =>
      rcases script with ⟨before, focus, after⟩
      cases before with
      | nil => exact led
      | cons previous before =>
          cases focus with
          | keep => cases previous <;> exact led
          | delete old new length =>
              cases previous with
              | keep =>
                  simp only [Opened.moveUp]
                  split
                  · rename_i isEmpty
                    exact induction (led.drop_up (beq_iff_eq.mp isEmpty))
                  · exact led
              | delete => exact induction (led.extend_up (.delete ..))
              | insert => exact induction (led.cross_up (.insert ..))
          | insert recorded place size =>
              cases previous with
              | delete => exact induction (led.cross_up (.delete ..))
              | insert => exact induction (led.extend_up (.insert ..))
              | keep old new length =>
                  have bound := sides.commonBefore_le (min length size) (old + length) (place + size)
                  have same := (sides.same_commonBefore (min length size) (old + length)
                    (place + size)).2.2
                  simp only [Opened.moveUp, Edit.newLength, Edit.new]
                  split
                  · exact induction (led.insert_up bound same)
                  · split
                    · rename_i isEmpty
                      exact induction (led.drop_up (beq_iff_eq.mp isEmpty))
                    · exact led

/-- Moving an edit down leaves the script leading to the same place. -/
theorem Leads.moveDown (fuel : Nat) {script : Opened} (led : script.Leads sides start stop) :
    (script.moveDown sides fuel).Leads sides start stop := by
  induction fuel generalizing script with
  | zero => exact led
  | succ fuel induction =>
      rcases script with ⟨before, focus, after⟩
      cases after with
      | nil => exact led
      | cons next after =>
          cases focus with
          | keep => cases next <;> exact led
          | delete old new length =>
              cases next with
              | keep =>
                  simp only [Opened.moveDown]
                  split
                  · rename_i isEmpty
                    exact induction (led.drop_down (beq_iff_eq.mp isEmpty))
                  · exact led
              | delete => exact induction (led.extend_down (.delete ..))
              | insert => exact induction (led.cross_down (.delete ..))
          | insert recorded place size =>
              cases next with
              | delete => exact induction (led.cross_down (.insert ..))
              | insert => exact induction (led.extend_down (.insert ..))
              | keep old new length =>
                  have bound := sides.commonAfter_le (min length size) old place
                  have same := sides.same_commonAfter (min length size) old place
                  simp only [Opened.moveDown, Edit.newLength, Edit.new]
                  split
                  · exact induction (led.insert_down bound same)
                  · split
                    · rename_i isEmpty
                      exact induction (led.drop_down (beq_iff_eq.mp isEmpty))
                    · exact led

/-- The edit in focus belongs to what comes before the rest. -/
theorem Leads.passed {script : Opened} (led : script.Leads sides start stop) :
    ∃ beyond, ScriptLeads sides start (script.focus :: script.before).reverse beyond ∧
      ScriptLeads sides beyond script.after stop := by
  rcases led with ⟨front, here, rest⟩
  exact ⟨_, Leads.reverse_cons.mpr ⟨_, front, here⟩, rest⟩

end Opened

theorem leads_moveEach (chosen : Edit → Bool) (fuel : Nat)
    (front : ScriptLeads sides start before.reverse middle)
    (rest : ScriptLeads sides middle after stop) :
    ScriptLeads sides start (moveEach sides chosen fuel before after) stop := by
  induction fuel generalizing before after middle with
  | zero => exact front.append rest
  | succ fuel induction =>
      cases rest with
      | nil => exact front
      | @cons edit after _ _ _ here rest =>
          rw [moveEach]
          split
          · have opened : (Opened.mk before edit after).Leads sides start stop := .mk front here rest
            let bound := sides.old.size + sides.new.size + before.length + after.length + 1
            rcases ((opened.moveUp bound).moveDown (2 * bound)).passed with ⟨beyond, front, rest⟩
            exact induction front rest
          · exact induction (Leads.reverse_cons.mpr ⟨_, front, here⟩) rest

/-- The script with its edits moved still leads through both lists of lines. -/
theorem leads_compact {script : List Edit} (led : ScriptLeads sides start script stop) :
    ScriptLeads sides start (compact sides script) stop :=
  leads_moveEach _ _ (.nil start) (leads_moveEach _ _ (.nil start) led)

end Moving

end QueryPipe.Patch
