import QueryPipe.Patch.Unified
import QueryPipe.Proofs.MovedEdits

/-! The stretches of a script lead through both lists of lines, and its hunks do so with
equal lines between them. -/

namespace QueryPipe.Patch

/-! ## Stretches -/

/-- What a stretch does at a place. Lines that are left out or put in stand where it is
recorded; where a replaced stretch has none on a side, its record on that side is right
only if records are `exact`. -/
inductive Stretch.Leads (sides : Sides) (exact : Prop) : Stretch → Place → Place → Prop
  | equal {old new length : Nat} (same : sides.SameLines old new length) :
      Leads sides exact ⟨true, old, length, new, length⟩ ⟨old, new⟩ ⟨old + length, new + length⟩
  | replaced {old new oldLength newLength recordedOld recordedNew : Nat}
      (oldPlaced : exact ∨ 0 < oldLength → recordedOld = old)
      (newPlaced : exact ∨ 0 < newLength → recordedNew = new) :
      Leads sides exact ⟨false, recordedOld, oldLength, recordedNew, newLength⟩ ⟨old, new⟩
        ⟨old + oldLength, new + newLength⟩

/-- Stretches lead from one place to another. -/
abbrev StretchesLead (sides : Sides) (exact : Prop) : Place → List Stretch → Place → Prop :=
  Leads (Stretch.Leads sides exact)

section Stretches

variable {sides : Sides} {exact : Prop} {start middle stop : Place} {stretch : Stretch}

theorem Stretch.Leads.mono {weaker : Prop} (implied : weaker → exact)
    (led : stretch.Leads sides exact start stop) : stretch.Leads sides weaker start stop := by
  cases led with
  | equal same => exact .equal same
  | replaced oldPlaced newPlaced =>
      exact .replaced (fun known => oldPlaced (known.imp_left implied))
        (fun known => newPlaced (known.imp_left implied))

/-- Gathered deletions and insertions lead from one place to another. -/
structure Gathered.Leads (gathered : Gathered) (start stop : Place) : Prop where
  old : match gathered.deleted with
    | none => stop.old = start.old
    | some (old, _, length) => old = start.old ∧ stop.old = start.old + length
  new : match gathered.inserted with
    | none => stop.new = start.new
    | some (_, new, length) => new = start.new ∧ stop.new = start.new + length

theorem Gathered.Leads.delete {gathered : Gathered} {old new : Nat}
    (led : gathered.Leads start ⟨old, new⟩) (recorded length : Nat) :
    Gathered.Leads { gathered with deleted := add old recorded length gathered.deleted } start
      ⟨old + length, new⟩ := by
  rcases gathered with ⟨deleted, inserted⟩
  rcases led with ⟨isOld, isNew⟩
  refine ⟨?_, isNew⟩
  rcases deleted with _ | ⟨firstOld, firstNew, before⟩
  · exact ⟨isOld, congrArg (· + length) isOld⟩
  · exact ⟨isOld.1, (congrArg (· + length) isOld.2).trans (Nat.add_assoc ..)⟩

theorem Gathered.Leads.insert {gathered : Gathered} {old new : Nat}
    (led : gathered.Leads start ⟨old, new⟩) (recorded length : Nat) :
    Gathered.Leads { gathered with inserted := add recorded new length gathered.inserted } start
      ⟨old, new + length⟩ := by
  rcases gathered with ⟨deleted, inserted⟩
  rcases led with ⟨isOld, isNew⟩
  refine ⟨isOld, ?_⟩
  rcases inserted with _ | ⟨firstOld, firstNew, before⟩
  · exact ⟨isNew, congrArg (· + length) isNew⟩
  · exact ⟨isNew.1, (congrArg (· + length) isNew.2).trans (Nat.add_assoc ..)⟩

/-- What was gathered becomes one stretch, or none. -/
theorem Gathered.Leads.stretches {gathered : Gathered} (led : gathered.Leads start stop) :
    StretchesLead sides False start gathered.stretches.reverse stop := by
  rcases gathered with ⟨deleted, inserted⟩
  rcases start with ⟨startOld, startNew⟩
  rcases stop with ⟨stopOld, stopNew⟩
  rcases led with ⟨isOld, isNew⟩
  rcases deleted with _ | ⟨old, oldNew, oldLength⟩ <;>
    rcases inserted with _ | ⟨newOld, new, newLength⟩
  · cases isOld
    cases isNew
    exact .nil _
  · rcases isNew with ⟨rfl, rfl⟩
    cases isOld
    exact .single (.replaced nofun (fun _ => rfl))
  · rcases isOld with ⟨rfl, rfl⟩
    cases isNew
    exact .single (.replaced (fun _ => rfl) nofun)
  · rcases isOld with ⟨rfl, rfl⟩
    rcases isNew with ⟨rfl, rfl⟩
    exact .single (.replaced (fun _ => rfl) (fun _ => rfl))

theorem leads_pushEqual {old new length : Nat} {found : List Stretch}
    (led : StretchesLead sides exact start found.reverse ⟨old, new⟩)
    (same : sides.SameLines old new length) :
    StretchesLead sides exact start (pushEqual old new length found).reverse
      ⟨old + length, new + length⟩ := by
  cases found with
  | nil =>
      cases led
      exact .single (.equal same)
  | cons last rest =>
      rw [pushEqual]
      split
      · rename_i isEqual
        rcases Leads.reverse_cons.mp led with ⟨middle, front, here⟩
        cases here with
        | replaced => cases isEqual
        | equal before =>
            have joined := @Stretch.Leads.equal sides exact _ _ _ (before.append same)
            rw [← Nat.add_assoc, ← Nat.add_assoc] at joined
            exact Leads.reverse_cons.mpr ⟨_, front, joined⟩
      · exact Leads.reverse_cons.mpr ⟨_, led, .equal same⟩

theorem leads_stretchesInto {found : List Stretch} {gathered : Gathered} {script : List Edit}
    {between : Place} (front : StretchesLead sides False start found.reverse middle)
    (held : gathered.Leads middle between) (rest : ScriptLeads sides between script stop) :
    StretchesLead sides False start (stretchesInto found gathered script) stop := by
  induction script generalizing found gathered middle between with
  | nil =>
      cases rest
      rw [stretchesInto, List.reverse_append]
      exact front.append held.stretches
  | cons edit script induction =>
      cases rest with
      | cons here rest =>
          cases here with
          | keep same =>
              refine induction (leads_pushEqual ?_ same) ⟨rfl, rfl⟩ rest
              rw [List.reverse_append]
              exact front.append held.stretches
          | delete => exact induction front (held.delete _ _) rest
          | insert => exact induction front (held.insert _ _) rest

/-- The stretches of a script lead where the script leads. -/
theorem leads_stretches {script : List Edit} (led : ScriptLeads sides start script stop) :
    StretchesLead sides False start (stretches script) stop :=
  leads_stretchesInto (.nil start) ⟨rfl, rfl⟩ led

end Stretches

/-! ## Hunks -/

/-- Between two places there are equal lines only. -/
inductive Gap (sides : Sides) : Place → Place → Prop
  | mk {old new length : Nat} (same : sides.SameLines old new length) :
      Gap sides ⟨old, new⟩ ⟨old + length, new + length⟩

namespace Span

def start (span : Span) : Place := ⟨span.old, span.new⟩

def stop (span : Span) : Place := ⟨span.old + span.oldLength, span.new + span.newLength⟩

/-- The span between two places. -/
def between (start stop : Place) : Span :=
  ⟨start.old, stop.old - start.old, start.new, stop.new - start.new⟩

theorem stop_between {start stop : Place} (oldLe : start.old ≤ stop.old) (newLe : start.new ≤ stop.new) :
    (between start stop).stop = stop := by
  rw [Span.stop, between, Nat.add_sub_cancel' oldLe, Nat.add_sub_cancel' newLe]

end Span

section Hunks

variable {sides : Sides} {exact : Prop} {start middle stop : Place} {stretch : Stretch}

theorem Gap.refl (place : Place) : Gap sides place place :=
  @Gap.mk sides place.old place.new 0 fun _ below => by cases below

theorem Gap.trans (first : Gap sides start middle) (second : Gap sides middle stop) :
    Gap sides start stop := by
  cases first with
  | mk same =>
      cases second with
      | mk later =>
          rw [Nat.add_assoc, Nat.add_assoc]
          exact .mk (same.append later)

/-- An equal stretch is a gap. -/
theorem Stretch.Leads.gap (led : stretch.Leads sides exact start stop)
    (isEqual : stretch.isEqual = true) : Gap sides start stop := by
  cases led with
  | equal same => exact .mk same
  | replaced => cases isEqual

/-- The last lines of an equal stretch stand after a gap. -/
theorem Stretch.Leads.lastLines (led : stretch.Leads sides exact start stop)
    (isEqual : stretch.isEqual = true) (count : Nat) :
    ∃ middle, Gap sides start middle ∧ (stretch.lastLines count).Leads sides exact middle stop := by
  cases led with
  | replaced => cases isEqual
  | @equal old new length same =>
      let dropped := length - count
      have divided : length = dropped + (length - dropped) := by omega
      rw [divided] at same
      refine ⟨_, .mk same.front, ?_⟩
      have last := @Stretch.Leads.equal sides exact _ _ _ same.back
      rw [Nat.add_assoc, Nat.add_assoc, ← divided] at last
      exact last

/-- The first lines of an equal stretch stand before a gap. -/
theorem Stretch.Leads.firstLines (led : stretch.Leads sides exact start stop)
    (isEqual : stretch.isEqual = true) (count : Nat) :
    ∃ middle, (stretch.firstLines count).Leads sides exact start middle ∧
      Gap sides middle stop := by
  cases led with
  | replaced => cases isEqual
  | @equal old new length same =>
      let kept := min count length
      have divided : length = kept + (length - kept) := by omega
      rw [divided] at same
      refine ⟨_, .equal same.front, ?_⟩
      have rest := Gap.mk same.back
      rwa [Nat.add_assoc, Nat.add_assoc, ← divided] at rest

/-- A long equal stretch is cut into its first lines, a gap and its last lines. -/
theorem Stretch.Leads.cut (led : stretch.Leads sides exact start stop)
    (isEqual : stretch.isEqual = true) {count : Nat} (long : 2 * count < stretch.oldLength) :
    ∃ middle between, (stretch.firstLines count).Leads sides exact start middle ∧
      Gap sides middle between ∧ (stretch.lastLines count).Leads sides exact between stop := by
  cases led with
  | replaced => cases isEqual
  | @equal old new length same =>
      let inner := length - count - count
      have divided : length = count + (inner + (length - (count + inner))) := by
        simp only at long
        omega
      have dropped : length - count = count + inner := by
        simp only at long
        omega
      rw [divided] at same
      have last := @Stretch.Leads.equal sides exact _ _ _ same.back.back
      rw [Nat.add_assoc old, Nat.add_assoc new, Nat.add_assoc old, Nat.add_assoc new,
        Nat.add_assoc count, ← divided] at last
      refine ⟨_, _, ?_, .mk same.back.front, ?_⟩
      · have first := @Stretch.Leads.equal sides exact _ _ _ same.front
        simp only [Stretch.firstLines, Nat.min_eq_left (show count ≤ length by omega)]
        exact first
      · simp only [Stretch.lastLines, dropped]
        rw [Nat.add_assoc old, Nat.add_assoc new]
        exact last

/-- A shortened stretch at the front leaves a gap before it. -/
theorem leads_trimFirst {stretches : List Stretch}
    (led : StretchesLead sides exact start stretches stop) :
    ∃ middle, Gap sides start middle ∧
      StretchesLead sides exact middle (trimFirst stretches) stop := by
  cases led with
  | nil => exact ⟨_, .refl _, .nil _⟩
  | cons here rest =>
      rw [trimFirst]
      split
      · rename_i isEqual
        rcases here.lastLines isEqual contextSize with ⟨middle, gap, last⟩
        exact ⟨middle, gap, .cons last rest⟩
      · exact ⟨start, .refl start, .cons here rest⟩

/-- A shortened stretch at the end leaves a gap after it. -/
theorem leads_trimLast {stretches : List Stretch}
    (led : StretchesLead sides exact start stretches stop) :
    ∃ middle, StretchesLead sides exact start (trimLast stretches) middle ∧
      Gap sides middle stop := by
  rw [trimLast]
  split
  · rename_i last rest reversed
    rw [← List.reverse_reverse stretches, reversed] at led
    rcases Leads.reverse_cons.mp led with ⟨middle, front, here⟩
    split
    · rename_i isEqual
      rcases here.firstLines isEqual contextSize with ⟨between, first, gap⟩
      exact ⟨between, Leads.reverse_cons.mpr ⟨middle, front, first⟩, gap⟩
    · exact ⟨stop, Leads.reverse_cons.mpr ⟨middle, front, here⟩, .refl stop⟩
  · rename_i reversed
    rw [List.reverse_eq_nil_iff.mp reversed] at led
    cases led
    exact ⟨start, .nil start, .refl start⟩

theorem StretchesLead.le {stretches : List Stretch}
    (led : StretchesLead sides exact start stretches stop) :
    start.old ≤ stop.old ∧ start.new ≤ stop.new := by
  induction led with
  | nil => exact ⟨Nat.le_refl _, Nat.le_refl _⟩
  | cons here _ induction =>
      cases here <;> exact ⟨Nat.le_trans (Nat.le_add_right ..) induction.1,
        Nat.le_trans (Nat.le_add_right ..) induction.2⟩

/-- Hunks that cover spans, with equal lines before, between and after them. -/
inductive Spread (sides : Sides) (exact : Prop) (stop : Place) :
    Place → List Hunk → List Span → Prop
  | nil {start : Place} (gap : Gap sides start stop) : Spread sides exact stop start [] []
  | cons {start : Place} {hunk : Hunk} {span : Span} {hunks : List Hunk} {spans : List Span}
      (shown : hunk ≠ []) (gap : Gap sides start span.start)
      (covers : StretchesLead sides exact span.start hunk span.stop) :
      Spread sides exact stop span.stop hunks spans →
      Spread sides exact stop start (hunk :: hunks) (span :: spans)

/-- A hunk between two places, after a gap. -/
theorem Spread.exists_cons {hunk : Hunk} {hunks : List Hunk} {between : Place}
    (shown : hunk ≠ []) (gap : Gap sides start middle)
    (covers : StretchesLead sides exact middle hunk between)
    (rest : ∃ spans, Spread sides exact stop between hunks spans) :
    ∃ spans, Spread sides exact stop start (hunk :: hunks) spans := by
  rcases rest with ⟨spans, rest⟩
  have isStop := Span.stop_between covers.le.1 covers.le.2
  exact ⟨Span.between middle between :: spans, .cons shown gap (isStop.symm ▸ covers)
    (isStop.symm ▸ rest)⟩

/-- Stretches are divided into hunks that are spread over the same lines. -/
theorem spread_divideHunks {current : Hunk} {stretches : List Stretch} {between beyond : Place}
    (gap : Gap sides start middle)
    (held : StretchesLead sides exact middle current.reverse between)
    (rest : StretchesLead sides exact between stretches beyond) (last : Gap sides beyond stop) :
    ∃ spans, Spread sides exact stop start (divideHunks current stretches) spans := by
  -- the hunk held open begins behind a gap, which grows where an equal stretch is cut
  induction stretches generalizing start middle between current with
  | nil =>
      cases rest
      match current with
      | [] =>
          cases held
          exact ⟨[], .nil (gap.trans last)⟩
      | [stretch] =>
          rw [divideHunks]
          split
          · rename_i isEqual
            cases held with
            | cons here rest =>
                cases rest
                exact ⟨[], .nil ((gap.trans (here.gap isEqual)).trans last)⟩
          · exact Spread.exists_cons (by simp) gap held ⟨[], .nil last⟩
      | stretch :: next :: others =>
          exact Spread.exists_cons (by simp) gap held ⟨[], .nil last⟩
  | cons stretch stretches induction =>
      cases rest with
      | cons here rest =>
          rw [divideHunks]
          split
          · rename_i isLong
            simp only [Bool.and_eq_true, decide_eq_true_eq] at isLong
            rcases here.cut isLong.1 isLong.2 with ⟨first, second, front, inner, back⟩
            exact Spread.exists_cons (by simp) gap (Leads.reverse_cons.mpr ⟨_, held, front⟩)
              (induction inner (.single back) rest)
          · exact induction gap (Leads.reverse_cons.mpr ⟨_, held, here⟩) rest

/-- The hunks of stretches are spread over the lines that the stretches lead through. -/
theorem spread_hunks {stretches : List Stretch}
    (led : StretchesLead sides exact start stretches stop) :
    ∃ spans, Spread sides exact stop start (hunks stretches) spans := by
  rcases leads_trimFirst led with ⟨middle, front, led⟩
  rcases leads_trimLast led with ⟨between, led, back⟩
  exact spread_divideHunks front (.nil middle) led back

end Hunks

end QueryPipe.Patch
