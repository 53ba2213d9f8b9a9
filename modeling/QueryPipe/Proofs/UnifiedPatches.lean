import Mathlib.Algebra.Group.Nat.Defs
import Mathlib.Data.List.Forall2
import QueryPipe.Proofs.PatchHunks

/-! A patch in the unified format shows just what differs: the lines of its hunks turn the
old text into the new one. Its headers say where the hunks stand, unless a hunk begins or
ends with a lone deletion or a lone insertion. -/

namespace QueryPipe.Patch

/-! ## Lines -/

theorem flatMap_linesInto (found : List String) (taken rest : List Char) :
    (linesInto found taken rest).flatMap String.toList =
      found.reverse.flatMap String.toList ++ taken.reverse ++ rest := by
  fun_induction linesInto found taken rest with
  | case1 found taken isEmpty => simp_all
  | case2 found taken isEmpty => simp
  | case3 found taken rest induction =>
      rw [induction]
      simp
  | case4 found taken char rest _ isEnd induction =>
      rw [induction]
      simp
  | case5 found taken char rest _ isEnd induction => simp [induction]

/-- The lines of a text put together are the text. -/
theorem join_lines (text : String) : String.join (lines text) = text := by
  rw [← String.toList_inj, String.toList_join, lines, flatMap_linesInto]
  rfl

def slice (lines : List String) (start length : Nat) : List String :=
  (lines.drop start).take length

theorem slice_append (lines : List String) (start first second : Nat) :
    slice lines start first ++ slice lines (start + first) second =
      slice lines start (first + second) := by
  rw [slice, slice, slice, List.take_add, List.drop_drop]

theorem slice_append_drop (lines : List String) (start length : Nat) :
    slice lines start length ++ lines.drop (start + length) = lines.drop start := by
  rw [slice, ← List.drop_drop, List.take_append_drop]

theorem slice_to_end (lines : List String) (start : Nat) :
    slice lines start (lines.length - start) = lines.drop start :=
  List.take_of_length_le (Nat.le_of_eq List.length_drop)

/-- Equal lines are the same slices. -/
theorem slice_eq_of_same {sides : Sides} {old new length : Nat}
    (same : sides.SameLines old new length) :
    slice sides.old.toList old length = slice sides.new.toList new length := by
  apply List.ext_getElem?
  intro index
  rw [slice, slice, List.getElem?_take, List.getElem?_take]
  split
  · rename_i below
    have equal := same index below
    rw [Sides.same] at equal
    rw [List.getElem?_drop, List.getElem?_drop, Array.getElem?_toList, Array.getElem?_toList]
    split at equal
    · rename_i isOld isNew
      rw [isOld, isNew, beq_iff_eq.mp equal]
    · cases equal
  · rfl

/-! ## What a hunk prints -/

/-- A line with the sign it is printed behind. -/
structure Mark where
  sign : Char
  line : String
deriving DecidableEq, Repr

namespace Mark

def render (mark : Mark) : String := signed mark.sign mark.line

/-- Lines behind one sign. -/
def all (sign : Char) (lines : List String) : List Mark := lines.map fun line => ⟨sign, line⟩

/-- The old lines among marked ones. -/
def oldLines (marks : List Mark) : List String :=
  (marks.filter (·.sign != '+')).map (·.line)

/-- The new lines among marked ones. -/
def newLines (marks : List Mark) : List String :=
  (marks.filter (·.sign != '-')).map (·.line)

theorem lines_all (other sign : Char) (lines : List String) :
    ((all sign lines).filter (·.sign != other)).map (·.line) =
      if sign = other then [] else lines := by
  induction lines with
  | nil => simp [all]
  | cons line lines induction =>
      rw [all] at induction ⊢
      by_cases same : sign = other <;> simp_all

theorem oldLines_append (front back : List Mark) :
    oldLines (front ++ back) = oldLines front ++ oldLines back := by
  rw [oldLines, List.filter_append, List.map_append]
  rfl

theorem newLines_append (front back : List Mark) :
    newLines (front ++ back) = newLines front ++ newLines back := by
  rw [newLines, List.filter_append, List.map_append]
  rfl

end Mark

/-- The lines of a stretch with their signs. -/
def Stretch.marks (sides : Sides) (stretch : Stretch) : List Mark :=
  if stretch.isEqual then Mark.all ' ' (slice sides.old.toList stretch.old stretch.oldLength)
  else
    Mark.all '-' (slice sides.old.toList stretch.old stretch.oldLength)
      ++ Mark.all '+' (slice sides.new.toList stretch.new stretch.newLength)

/-- The lines of a hunk with their signs. -/
def Hunk.marks (sides : Sides) (hunk : Hunk) : List Mark := hunk.flatMap (Stretch.marks sides)

theorem Stretch.render_eq (sides : Sides) (stretch : Stretch) :
    stretch.render sides = String.join ((stretch.marks sides).map Mark.render) := by
  rw [render, marks]
  split
  · rw [Mark.all, List.map_map]
    rfl
  · rw [List.map_append, String.join_append, Mark.all, Mark.all, List.map_map, List.map_map]
    rfl

theorem Hunk.render_eq (sides : Sides) {hunk : Hunk} {first last : Stretch}
    (isFirst : hunk.head? = some first) (isLast : hunk.getLast? = some last) :
    Hunk.render sides hunk =
      (Hunk.span first last).header ++ String.join ((Hunk.marks sides hunk).map Mark.render) := by
  have joined : ∀ hunk : Hunk, String.join (hunk.map (Stretch.render sides)) =
      String.join ((Hunk.marks sides hunk).map Mark.render) := by
    intro hunk
    induction hunk with
    | nil => rfl
    | cons stretch rest induction =>
        rw [List.map_cons, String.join_cons, induction, Stretch.render_eq, ← String.join_append,
          ← List.map_append]
        rfl
  simp only [Hunk.render, isFirst, isLast, joined]

section Shown

variable {sides : Sides} {exact : Prop} {start stop : Place} {stretch : Stretch}

theorem Stretch.Leads.oldLines (led : stretch.Leads sides exact start stop) :
    Mark.oldLines (stretch.marks sides) =
      slice sides.old.toList start.old (stop.old - start.old) := by
  cases led with
  | equal =>
      rw [Nat.add_sub_cancel_left]
      exact Mark.lines_all ..
  | @replaced old _ oldLength _ _ _ oldPlaced _ =>
      have shown : ∀ deleted inserted,
          Mark.oldLines (Mark.all '-' deleted ++ Mark.all '+' inserted) = deleted := by
        intro deleted inserted
        rw [Mark.oldLines_append, Mark.oldLines, Mark.oldLines, Mark.lines_all, Mark.lines_all]
        exact List.append_nil _
      refine (shown _ _).trans ?_
      rw [Nat.add_sub_cancel_left]
      cases oldLength with
      | zero => rfl
      | succ => rw [oldPlaced (.inr (Nat.succ_pos _))]

theorem Stretch.Leads.newLines (led : stretch.Leads sides exact start stop) :
    Mark.newLines (stretch.marks sides) =
      slice sides.new.toList start.new (stop.new - start.new) := by
  cases led with
  | equal same =>
      rw [Nat.add_sub_cancel_left, ← slice_eq_of_same same]
      exact Mark.lines_all ..
  | @replaced _ new _ newLength _ _ _ newPlaced =>
      have shown : ∀ deleted inserted,
          Mark.newLines (Mark.all '-' deleted ++ Mark.all '+' inserted) = inserted := by
        intro deleted inserted
        rw [Mark.newLines_append, Mark.newLines, Mark.newLines, Mark.lines_all, Mark.lines_all]
        rfl
      refine (shown _ _).trans ?_
      rw [Nat.add_sub_cancel_left]
      cases newLength with
      | zero => rfl
      | succ => rw [newPlaced (.inr (Nat.succ_pos _))]

theorem StretchesLead.oldLines {hunk : Hunk} (led : StretchesLead sides exact start hunk stop) :
    Mark.oldLines (Hunk.marks sides hunk) =
      slice sides.old.toList start.old (stop.old - start.old) := by
  induction led with
  | nil => simp [Hunk.marks, Mark.oldLines, slice]
  | @cons first rest start middle stop here later induction =>
      have low : start.old ≤ middle.old := (StretchesLead.le (.single here)).1
      have high : middle.old ≤ stop.old := (StretchesLead.le later).1
      have appended := slice_append sides.old.toList start.old (middle.old - start.old)
        (stop.old - middle.old)
      rw [Nat.add_sub_cancel' low, ← here.oldLines, ← induction, ← Mark.oldLines_append] at appended
      rw [show stop.old - start.old = middle.old - start.old + (stop.old - middle.old) by omega,
        ← appended]
      rfl

theorem StretchesLead.newLines {hunk : Hunk} (led : StretchesLead sides exact start hunk stop) :
    Mark.newLines (Hunk.marks sides hunk) =
      slice sides.new.toList start.new (stop.new - start.new) := by
  induction led with
  | nil => simp [Hunk.marks, Mark.newLines, slice]
  | @cons first rest start middle stop here later induction =>
      have low : start.new ≤ middle.new := (StretchesLead.le (.single here)).2
      have high : middle.new ≤ stop.new := (StretchesLead.le later).2
      have appended := slice_append sides.new.toList start.new (middle.new - start.new)
        (stop.new - middle.new)
      rw [Nat.add_sub_cancel' low, ← here.newLines, ← induction, ← Mark.newLines_append] at appended
      rw [show stop.new - start.new = middle.new - start.new + (stop.new - middle.new) by omega,
        ← appended]
      rfl

end Shown

/-! ## What a header says -/

/-- Whether a stretch shows lines of both sides. -/
def Stretch.isAnchored (stretch : Stretch) : Bool :=
  stretch.isEqual || (0 < stretch.oldLength && 0 < stretch.newLength)

section Headers

variable {sides : Sides} {exact : Prop} {start stop : Place} {stretch : Stretch}

theorem Stretch.Leads.placed (led : stretch.Leads sides exact start stop)
    (known : exact ∨ stretch.isAnchored) :
    stretch.old = start.old ∧ stretch.new = start.new ∧
      stretch.oldStop = stop.old ∧ stretch.newStop = stop.new := by
  cases led with
  | equal => exact ⟨rfl, rfl, rfl, rfl⟩
  | replaced oldPlaced newPlaced =>
      have both : exact ∨ _ ∧ _ := known.imp_right fun anchored => by
        simpa [isAnchored] using anchored
      have isOld := oldPlaced (both.imp_right And.left)
      have isNew := newPlaced (both.imp_right And.right)
      exact ⟨isOld, isNew, congrArg (· + _) isOld, congrArg (· + _) isNew⟩

theorem extent_eq {first last : Nat} (le : first ≤ last) : extent first last = last - first :=
  if_pos le

/-- A hunk whose outer stretches show lines of both sides has the right header. -/
theorem StretchesLead.span_eq {span : Span} {hunk : Hunk} {first last : Stretch}
    (led : StretchesLead sides exact span.start hunk span.stop)
    (isFirst : hunk.head? = some first) (isLast : hunk.getLast? = some last)
    (known : exact ∨ first.isAnchored ∧ last.isAnchored) : Hunk.span first last = span := by
  have begins : first.old = span.old ∧ first.new = span.new := by
    rcases List.head?_eq_some_iff.mp isFirst with ⟨rest, rfl⟩
    cases led with
    | cons here _ =>
        have placed := here.placed (known.imp_right And.left)
        exact ⟨placed.1, placed.2.1⟩
  have ends : last.oldStop = span.old + span.oldLength ∧
      last.newStop = span.new + span.newLength := by
    rcases List.getLast?_eq_some_iff.mp isLast with ⟨front, rfl⟩
    rcases led.split with ⟨middle, -, rest⟩
    cases rest with
    | cons here rest =>
        cases rest
        exact (here.placed (known.imp_right And.right)).2.2
  rw [Hunk.span, begins.1, begins.2, ends.1, ends.2, extent_eq (Nat.le_add_right ..),
    extent_eq (Nat.le_add_right ..), Nat.add_sub_cancel_left, Nat.add_sub_cancel_left]

end Headers

/-! ## Whole patches -/

/-- The lines outside of some intervals, from a place on. -/
def outside (lines : List String) (place : Nat) : List (Nat × Nat) → List String
  | [] => lines.drop place
  | (start, length) :: rest =>
    slice lines place (start - place) ++ outside lines (start + length) rest

/-- Lines with those of spans replaced by the new lines of hunks, from a place on. -/
def patched (lines : List String) (place : Nat) : List (Span × List Mark) → List String
  | [] => lines.drop place
  | (span, marks) :: rest =>
    slice lines place (span.old - place) ++ Mark.newLines marks
      ++ patched lines (span.old + span.oldLength) rest

/-- A span that ends before another one begins, on both sides. -/
def Span.Before (first second : Span) : Prop :=
  first.old + first.oldLength ≤ second.old ∧ first.new + first.newLength ≤ second.new

section Patches

variable {sides : Sides} {exact : Prop} {start stop : Place} {hunks : List Hunk}
  {spans : List Span}

theorem Gap.le (gap : Gap sides start stop) : start.old ≤ stop.old ∧ start.new ≤ stop.new := by
  cases gap
  exact ⟨Nat.le_add_right .., Nat.le_add_right ..⟩

theorem Gap.slice_eq (gap : Gap sides start stop) :
    slice sides.old.toList start.old (stop.old - start.old) =
      slice sides.new.toList start.new (stop.new - start.new) := by
  cases gap with
  | mk same =>
      rw [Nat.add_sub_cancel_left, Nat.add_sub_cancel_left]
      exact slice_eq_of_same same

theorem Spread.le (spread : Spread sides exact stop start hunks spans) :
    start.old ≤ stop.old ∧ start.new ≤ stop.new := by
  induction spread with
  | nil gap => exact gap.le
  | cons shown gap covers _ induction =>
      exact ⟨Nat.le_trans gap.le.1 (Nat.le_trans covers.le.1 induction.1),
        Nat.le_trans gap.le.2 (Nat.le_trans covers.le.2 induction.2)⟩

/-- Hunks come one after the other on both sides. -/
theorem Spread.ordered (spread : Spread sides exact stop start hunks spans) :
    (∀ span ∈ spans, start.old ≤ span.old ∧ start.new ≤ span.new) ∧
      spans.Pairwise Span.Before := by
  induction spread with
  | nil => exact ⟨by simp, .nil⟩
  | cons shown gap covers _ induction =>
      refine ⟨?_, List.pairwise_cons.mpr ⟨induction.1, induction.2⟩⟩
      intro other member
      rcases List.mem_cons.mp member with rfl | member
      · exact gap.le
      · have later := induction.1 other member
        exact ⟨Nat.le_trans gap.le.1 (Nat.le_trans covers.le.1 later.1),
          Nat.le_trans gap.le.2 (Nat.le_trans covers.le.2 later.2)⟩

/-- What is outside of the hunks is the same on both sides. -/
theorem Spread.outside_eq
    (spread : Spread sides exact ⟨sides.old.size, sides.new.size⟩ start hunks spans) :
    outside sides.old.toList start.old (spans.map fun span => (span.old, span.oldLength)) =
      outside sides.new.toList start.new (spans.map fun span => (span.new, span.newLength)) := by
  induction spread with
  | nil gap =>
      have same := gap.slice_eq
      rw [← Array.length_toList, ← Array.length_toList, slice_to_end, slice_to_end] at same
      exact same
  | cons shown gap covers _ induction =>
      rw [List.map_cons, List.map_cons, outside, outside]
      exact congrArg₂ (· ++ ·) gap.slice_eq induction

/-- The new lines of the hunks in place of the old ones make up the new side. -/
theorem Spread.patched_eq
    (spread : Spread sides exact ⟨sides.old.size, sides.new.size⟩ start hunks spans) :
    patched sides.old.toList start.old (spans.zip (hunks.map (Hunk.marks sides))) =
      sides.new.toList.drop start.new := by
  induction spread with
  | nil gap =>
      have same := gap.slice_eq
      rw [← Array.length_toList, ← Array.length_toList, slice_to_end, slice_to_end] at same
      exact same
  | @cons start hunk span hunks spans shown gap covers _ induction =>
      rw [List.map_cons, List.zip_cons_cons, patched, covers.newLines]
      have between := gap.slice_eq
      simp only [Span.start, Span.stop, Nat.add_sub_cancel_left] at between induction ⊢
      have tail := slice_append_drop sides.new.toList start.new (span.new - start.new)
      rw [Nat.add_sub_cancel' (show start.new ≤ span.new from gap.le.2)] at tail
      rw [between, induction, List.append_assoc, slice_append_drop, tail]

/-- The stretches of a script are recorded where they stand, also on a side of which they
show no lines. -/
def Placed (sides : Sides) : Prop :=
  StretchesLead sides True ⟨0, 0⟩ (stretches (compact sides (shortestScript sides)))
    ⟨sides.old.size, sides.new.size⟩

/-- A hunk shows the lines of a span, all of them and in order. Its header says so where its
outer stretches show lines of both sides, and wherever all stretches are in place. -/
structure Hunk.Shows (sides : Sides) (hunk : Hunk) (span : Span) : Prop where
  oldBound : span.old + span.oldLength ≤ sides.old.size
  newBound : span.new + span.newLength ≤ sides.new.size
  oldLines : Mark.oldLines (Hunk.marks sides hunk) =
    slice sides.old.toList span.old span.oldLength
  newLines : Mark.newLines (Hunk.marks sides hunk) =
    slice sides.new.toList span.new span.newLength
  printed : ∃ first last, hunk.head? = some first ∧ hunk.getLast? = some last ∧
    Hunk.render sides hunk = (Hunk.span first last).header
      ++ String.join ((Hunk.marks sides hunk).map Mark.render) ∧
    (Placed sides ∨ first.isAnchored ∧ last.isAnchored → Hunk.span first last = span)

theorem Spread.shows (spread : Spread sides (Placed sides) ⟨sides.old.size, sides.new.size⟩ start
      hunks spans) : List.Forall₂ (Hunk.Shows sides) hunks spans := by
  induction spread with
  | nil => exact .nil
  | @cons start hunk span hunks spans shown gap covers rest induction =>
      refine .cons ⟨rest.le.1, rest.le.2, ?_, ?_, ?_⟩ induction
      · rw [covers.oldLines, Span.start, Span.stop, Nat.add_sub_cancel_left]
      · rw [covers.newLines, Span.start, Span.stop, Nat.add_sub_cancel_left]
      · have isFirst := List.head?_eq_some_head shown
        have isLast := List.getLast?_eq_some_getLast shown
        exact ⟨_, _, isFirst, isLast, Hunk.render_eq sides isFirst isLast,
          covers.span_eq isFirst isLast⟩

/-- The hunks between two lists of lines are spread over both. -/
theorem exists_spread (sides : Sides) :
    ∃ spans, Spread sides (Placed sides) ⟨sides.old.size, sides.new.size⟩ ⟨0, 0⟩
      (hunksBetween sides) spans := by
  apply spread_hunks
  -- one choice of spans serves both what is known of every script and of one in place
  by_cases placed : Placed sides
  · exact Leads.mono (fun here => here.mono fun _ => trivial) placed
  · exact Leads.mono (fun here => here.mono placed)
      (leads_stretches (leads_compact (leads_shortestScript sides)))

theorem commonAfter_self (lines : Array String) {limit place : Nat}
    (inside : place + limit ≤ lines.size) :
    Sides.commonAfter ⟨lines, lines⟩ limit place place = limit := by
  induction limit generalizing place with
  | zero => rfl
  | succ limit induction =>
      have same : Sides.same ⟨lines, lines⟩ place place = true := by
        rw [Sides.same, Array.getElem?_eq_getElem (show place < lines.size by omega)]
        exact beq_self_eq_true _
      rw [Sides.commonAfter, if_pos same, induction (by omega)]

/-- Equal lines are kept by one edit. -/
theorem shortestScript_self (lines : Array String) :
    shortestScript ⟨lines, lines⟩ = unlessEmpty (.keep 0 0 lines.size) := by
  rw [shortestScript]
  dsimp only
  rw [editsOf_succ]
  simp [Window.dropFront, Window.dropBack, Window.oldLength, Window.newLength, commonAfter_self,
    Sides.commonBefore, middleOf, unlessEmpty, Edit.length]

/-- Between equal lines there is no hunk. -/
theorem hunksBetween_self (lines : Array String) : hunksBetween ⟨lines, lines⟩ = [] := by
  rw [hunksBetween, shortestScript_self, unlessEmpty]
  split
  · rfl
  · have kept : compact ⟨lines, lines⟩ [.keep 0 0 lines.size] = [.keep 0 0 lines.size] := rfl
    let shortened : Stretch :=
      ((⟨true, 0, lines.size, 0, lines.size⟩ : Stretch).lastLines contextSize).firstLines contextSize
    have short : ¬ 2 * contextSize < shortened.oldLength :=
      Nat.not_lt.mpr (Nat.le_trans (Nat.min_le_left ..) (Nat.le_mul_of_pos_left _ Nat.two_pos))
    have notLong : ¬ (shortened.isEqual && decide (2 * contextSize < shortened.oldLength)) = true := by
      rw [decide_eq_false short, Bool.and_false]
      exact Bool.false_ne_true
    have divided : divideHunks [] [shortened] = divideHunks [shortened] [] := if_neg notLong
    rw [kept]
    exact divided

theorem lines_eq_of_no_hunks {sides : Sides} (none : hunksBetween sides = []) :
    sides.old = sides.new := by
  rcases exists_spread sides with ⟨spans, spread⟩
  rw [none] at spread
  have same := spread.patched_eq
  cases spread
  exact Array.toList_inj.mp same

end Patches

section Texts

variable {before after : String}

theorem renderHunks_of_ne_nil {hunks : List Hunk} (some : hunks ≠ []) (path : String)
    (sides : Sides) :
    renderHunks path sides hunks =
      fileHeader path ++ String.join (hunks.map (Hunk.render sides)) := by
  cases hunks with
  | nil => exact absurd rfl some
  | cons => rfl

theorem no_hunks_iff : hunksBetween (.ofTexts before after) = [] ↔ before = after := by
  constructor
  · intro none
    have same := congrArg Array.toList (lines_eq_of_no_hunks none)
    rw [← join_lines before, ← join_lines after]
    exact congrArg String.join same
  · rintro rfl
    exact hunksBetween_self _

theorem renderHunks_eq_empty_iff {path : String} {sides : Sides} {hunks : List Hunk} :
    renderHunks path sides hunks = "" ↔ hunks = [] := by
  constructor
  · intro empty
    refine Classical.not_not.mp fun some => ?_
    rw [renderHunks_of_ne_nil some] at empty
    have nothing := congrArg String.toList empty
    simp [fileHeader] at nothing
  · rintro rfl
    rfl

/-- A patch between two texts. It is empty just if they are the same. Else its hunks show,
one after the other on both sides, all lines of some spans; outside of these the texts have
the same lines, and the new lines in place of the old ones turn the first text into the
second. -/
theorem unified_patches (path before after : String) :
    let sides : Sides := .ofTexts before after
    let hunks := hunksBetween sides
    String.join (lines before) = before ∧ String.join (lines after) = after ∧
    (unified path before after = "" ↔ before = after) ∧
    (before ≠ after →
      unified path before after =
        fileHeader path ++ String.join (hunks.map (Hunk.render sides))) ∧
    ∃ spans, List.Forall₂ (Hunk.Shows sides) hunks spans ∧ spans.Pairwise Span.Before ∧
      outside (lines before) 0 (spans.map fun span => (span.old, span.oldLength)) =
        outside (lines after) 0 (spans.map fun span => (span.new, span.newLength)) ∧
      patched (lines before) 0 (spans.zip (hunks.map (Hunk.marks sides))) = lines after := by
  intro sides hunks
  rcases exists_spread sides with ⟨spans, spread⟩
  refine ⟨join_lines before, join_lines after, ?_, ?_, spans, spread.shows, spread.ordered.2,
    spread.outside_eq, spread.patched_eq⟩
  · rw [unified, renderHunks_eq_empty_iff, no_hunks_iff]
  · intro different
    rw [unified, renderHunks_of_ne_nil (mt no_hunks_iff.mp different)]

/-- An insertion that is moved past a deletion leaves the deletion recorded where it stood
before, and so it does the other way. Where such an edit begins or ends a hunk, the header is
wrong, even by a length that is counted backwards. -/
theorem unified_misplaced :
    unified "q.go" "a\nb\n" "b\nb\n" =
      "--- q.go\n+++ q.go\n@@ -1,1 +2,1 @@\n-a\n b\n+b\n" ∧
    ((hunksBetween ⟨#["a\n", "x\n", "x\n", "x\n", "x\n", "x\n", "x\n", "x\n"],
      Array.replicate 12 "x\n"⟩).head?.bind fun hunk => do
        return Hunk.span (← hunk.head?) (← hunk.getLast?)) = some ⟨0, 4, 4, 2 ^ 64 - 1⟩ := by
  decide +kernel

end Texts


end QueryPipe.Patch
