import Mathlib.Data.List.Sort
import QueryPipe.Run.Batch

/-! Results come out of the queue in the order of their indices, whatever order they
arrive in; so a run reports as if its files had been worked on one after the other. -/

namespace QueryPipe.Run

/-! ## One arrival -/

namespace Queue

variable {α : Type} {index next : Nat} {result : α} {entries : List (Nat × α)}

theorem mem_insert {entry : Nat × α} (member : entry ∈ insert index result entries) :
    entry = (index, result) ∨ entry ∈ entries := by
  induction entries with
  | nil => exact .inl (List.mem_singleton.mp member)
  | cons head rest induction =>
      rw [insert] at member
      split at member
      · exact List.mem_cons.mp member
      · split at member
        · rcases List.mem_cons.mp member with isNew | member
          · exact .inl isNew
          · exact .inr (List.mem_cons_of_mem head member)
        · rcases List.mem_cons.mp member with isHead | member
          · exact .inr (isHead ▸ List.mem_cons_self)
          · exact (induction member).imp_right (List.mem_cons_of_mem head)

theorem insert_perm (fresh : ∀ entry ∈ entries, entry.1 ≠ index) :
    (insert index result entries).Perm ((index, result) :: entries) := by
  induction entries with
  | nil => exact .refl _
  | cons head rest induction =>
      have different : index ≠ head.1 := (fresh head List.mem_cons_self).symm
      have others := induction fun entry member => fresh entry (List.mem_cons_of_mem head member)
      rw [insert]
      split
      · exact .refl _
      · rw [if_neg (by simpa using different)]
        exact (others.cons head).trans (.swap (index, result) head rest)

theorem insert_increasing (increasing : entries.Pairwise (·.1 < ·.1)) :
    (insert index result entries).Pairwise (·.1 < ·.1) := by
  induction entries with
  | nil => exact List.pairwise_singleton ..
  | cons head rest induction =>
      have parts := List.pairwise_cons.mp increasing
      rw [insert]
      split
      · rename_i before
        refine List.pairwise_cons.mpr ⟨?_, increasing⟩
        intro entry member
        rcases List.mem_cons.mp member with rfl | member
        · exact before
        · exact Nat.lt_trans before (parts.1 entry member)
      · rename_i notBefore
        split
        · rename_i same
          have equal : index = head.1 := by simpa using same
          subst equal
          exact List.pairwise_cons.mpr ⟨parts.1, parts.2⟩
        · rename_i different
          have behind : head.1 < index := by
            have : index ≠ head.1 := by simpa using different
            omega
          refine List.pairwise_cons.mpr ⟨?_, induction parts.2⟩
          intro entry member
          rcases mem_insert member with rfl | member
          · exact behind
          · exact parts.1 entry member

/-- A queue between two arrivals: what waits stands by increasing index, and the
index that is next has not arrived. -/
structure Waits (queue : Queue α) : Prop where
  increasing : queue.waiting.Pairwise (·.1 < ·.1)
  beyond : ∀ entry ∈ queue.waiting, queue.next < entry.1

/-- What a release makes of results that stand by increasing index: it takes some from
the front, and every index up to the new next one is among them. -/
structure Releases (next : Nat) (entries released : List (Nat × α)) (queue : Queue α) : Prop where
  divided : released ++ queue.waiting = entries
  advanced : next ≤ queue.next
  below : ∀ entry ∈ released, entry.1 < queue.next
  complete : ∀ index, next ≤ index → index < queue.next → ∃ entry ∈ released, entry.1 = index
  waits : queue.Waits

theorem releases_release (increasing : entries.Pairwise (·.1 < ·.1))
    (ahead : ∀ entry ∈ entries, next ≤ entry.1) :
    Releases next entries (release next entries).1 (release next entries).2 := by
  induction entries generalizing next with
  | nil =>
      exact ⟨rfl, Nat.le_refl next, by simp [release],
        fun index low high => absurd high (Nat.not_lt.mpr low), .nil, by simp [release]⟩
  | cons head rest induction =>
      have parts := List.pairwise_cons.mp increasing
      have headAhead := ahead head List.mem_cons_self
      rw [release]
      split
      · rename_i same
        have isNext : head.1 = next := by simpa using same
        have restAhead : ∀ entry ∈ rest, next + 1 ≤ entry.1 := by
          intro entry member
          have := parts.1 entry member
          omega
        have later := induction parts.2 restAhead
        generalize release (next + 1) rest = released at later ⊢
        have advanced : next + 1 ≤ released.2.next := later.advanced
        refine ⟨congrArg (head :: ·) later.divided, Nat.le_of_succ_le advanced, ?_, ?_, later.waits⟩
        · intro entry member
          rcases List.mem_cons.mp member with rfl | member
          · exact isNext ▸ advanced
          · exact later.below entry member
        · intro index low high
          rcases Nat.eq_or_lt_of_le low with equal | low
          · exact ⟨head, List.mem_cons_self, isNext.trans equal⟩
          · rcases later.complete index low high with ⟨entry, member, found⟩
            exact ⟨entry, List.mem_cons_of_mem head member, found⟩
      · rename_i different
        have behind : next < head.1 := by
          have : head.1 ≠ next := by simpa using different
          omega
        refine ⟨rfl, Nat.le_refl next, by simp,
          fun index low high => absurd high (Nat.not_lt.mpr low), increasing, ?_⟩
        intro entry member
        rcases List.mem_cons.mp member with rfl | member
        · exact behind
        · exact Nat.lt_trans behind (parts.1 entry member)

/-- One arrival whose index is neither behind the queue nor in it: nothing is lost, and
what comes out stands before all that still waits. -/
theorem releases_receive {queue : Queue α} {arrival : Nat × α} (waits : queue.Waits)
    (ahead : queue.next ≤ arrival.1) :
    Releases queue.next (insert arrival.1 arrival.2 queue.waiting) (queue.receive arrival).1
      (queue.receive arrival).2 := by
  apply releases_release (insert_increasing waits.increasing)
  intro entry member
  rcases mem_insert member with rfl | member
  · exact ahead
  · exact Nat.le_of_lt (waits.beyond entry member)

/-! ## A run of arrivals -/

/-- Arrivals with different indices come out by increasing index, each of them once. Indices
may be left out: what waits for them comes out at the end. -/
theorem order_spec {queue : Queue α} {arrivals : List (Nat × α)} (waits : queue.Waits)
    (ahead : ∀ arrival ∈ arrivals, queue.next ≤ arrival.1)
    (distinct : ((queue.waiting ++ arrivals).map Prod.fst).Nodup) :
    (queue.order arrivals).Perm (queue.waiting ++ arrivals) ∧
      (queue.order arrivals).Pairwise (·.1 < ·.1) := by
  induction arrivals generalizing queue with
  | nil =>
      rw [order, List.append_nil]
      exact ⟨.refl _, waits.increasing⟩
  | cons arrival rest induction =>
      have released := releases_receive waits (ahead arrival List.mem_cons_self)
      rw [order]
      generalize queue.receive arrival = received at released ⊢
      rcases received with ⟨front, after⟩
      have fresh : ∀ entry ∈ queue.waiting, entry.1 ≠ arrival.1 := by
        intro entry member equal
        rw [List.map_append, List.nodup_append] at distinct
        exact distinct.2.2 entry.1 (List.mem_map_of_mem member) arrival.1 (by simp) equal
      have held : (front ++ (after.waiting ++ rest)).Perm (queue.waiting ++ arrival :: rest) := by
        rw [← List.append_assoc, released.divided]
        exact ((insert_perm fresh).append_right rest).trans List.perm_middle.symm
      have stillDistinct := (held.map Prod.fst).nodup_iff.mpr distinct
      rw [List.map_append, List.nodup_append] at stillDistinct
      -- an index below the new next one was released, so it does not come again
      have restAhead : ∀ later ∈ rest, after.next ≤ later.1 := by
        intro later member
        by_contra low
        rcases released.complete later.1 (ahead later (List.mem_cons_of_mem arrival member))
          (Nat.lt_of_not_le low) with ⟨entry, inFront, equal⟩
        exact stillDistinct.2.2 entry.1 (List.mem_map_of_mem inFront) later.1
          (List.mem_map_of_mem (List.mem_append_right _ member)) equal
      have run := induction released.waits restAhead stillDistinct.2.1
      refine ⟨(run.1.append_left front).trans held, List.pairwise_append.mpr ⟨?_, run.2, ?_⟩⟩
      · have frontIncreasing := @insert_increasing _ arrival.1 arrival.2 _ waits.increasing
        rw [← released.divided] at frontIncreasing
        exact (List.pairwise_append.mp frontIncreasing).1
      · intro entry inFront later inRun
        have low := released.below entry inFront
        rcases List.mem_append.mp (run.1.mem_iff.mp inRun) with waiting | member
        · exact Nat.lt_trans low (released.waits.beyond later waiting)
        · exact Nat.lt_of_lt_of_le low (restAhead later member)

end Queue

theorem inOrder_perm {α : Type} {arrivals : List (Nat × α)}
    (distinct : (arrivals.map Prod.fst).Nodup) : (inOrder arrivals).Perm arrivals :=
  (Queue.order_spec ⟨.nil, by simp⟩ (by simp) (by simpa using distinct)).1

theorem inOrder_increasing {α : Type} {arrivals : List (Nat × α)}
    (distinct : (arrivals.map Prod.fst).Nodup) : (inOrder arrivals).Pairwise (·.1 < ·.1) :=
  (Queue.order_spec ⟨.nil, by simp⟩ (by simp) (by simpa using distinct)).2

theorem indexed_increasing (outcomes : List Outcome) :
    (indexed outcomes).Pairwise (·.1 < ·.1) := by
  rw [indexed, List.pairwise_iff_getElem]
  intro first second _ _ before
  simpa using before

/-- Whatever order outcomes arrive in, they come out in the order of their indices. -/
theorem inOrder_eq {outcomes : List Outcome} {arrivals : List (Nat × Outcome)}
    (arrived : arrivals.Perm (indexed outcomes)) : inOrder arrivals = indexed outcomes := by
  have increasing := indexed_increasing outcomes
  have distinct : (arrivals.map Prod.fst).Nodup := by
    rw [(arrived.map Prod.fst).nodup_iff, List.Nodup, List.pairwise_map]
    exact increasing.imp Nat.ne_of_lt
  apply List.Perm.eq_of_pairwise _ (inOrder_increasing distinct) increasing
    ((inOrder_perm distinct).trans arrived)
  intro left right _ _ before behind
  exact absurd before (Nat.lt_asymm behind)

/-! ## Reports -/

namespace Sink

theorem write_of_failure {sink : Sink} {failure : String} (failed : sink.failure? = some failure)
    (text : String) : sink.write text = sink := by
  rw [write, failed]

theorem writeAll_of_failure {sink : Sink} {failure : String}
    (failed : sink.failure? = some failure) (texts : List String) : sink.writeAll texts = sink := by
  induction texts with
  | nil => rfl
  | cons text texts induction =>
      rw [writeAll, List.foldl_cons, write_of_failure failed]
      exact induction

end Sink

namespace Report

/-- Accepts outcomes one after the other, and none once the sink takes no more. -/
def acceptWhileTaken (report : Report) : List (Nat × Outcome) → Report
  | [] => report
  | entry :: rest =>
    match report.sink.failure? with
    | some _ => report
    | none => (report.accept entry).acceptWhileTaken rest

theorem sink_accept_of_failure {report : Report} {failure : String}
    (failed : report.sink.failure? = some failure) (entry : Nat × Outcome) :
    (report.accept entry).sink = report.sink := by
  rcases entry with ⟨index, error | result⟩
  · rfl
  · rw [accept]
    split
    · rfl
    · exact Sink.writeAll_of_failure failed _

theorem sink_foldl_accept_of_failure {report : Report} {failure : String}
    (failed : report.sink.failure? = some failure) (entries : List (Nat × Outcome)) :
    (entries.foldl accept report).sink = report.sink := by
  induction entries generalizing report with
  | nil => rfl
  | cons entry rest induction =>
      have kept := sink_accept_of_failure failed entry
      rw [List.foldl_cons, induction (by rw [kept, failed]), kept]

/-- Accepting on after the sink has failed changes neither what was written nor why it
failed; and where it never fails, it makes no difference at all. -/
theorem foldl_accept_eq (report : Report) (entries : List (Nat × Outcome)) :
    (entries.foldl accept report).sink = (report.acceptWhileTaken entries).sink ∧
      ((entries.foldl accept report).sink.failure? = none →
        entries.foldl accept report = report.acceptWhileTaken entries) := by
  induction entries generalizing report with
  | nil => exact ⟨rfl, fun _ => rfl⟩
  | cons entry rest induction =>
      rw [acceptWhileTaken]
      cases failed : report.sink.failure? with
      | none => exact induction (report.accept entry)
      | some failure =>
          have kept := sink_foldl_accept_of_failure failed (entry :: rest)
          refine ⟨kept, ?_⟩
          intro taken
          rw [kept, failed] at taken
          cases taken

end Report

section Whole

variable [Files.WorkingDirectory]

/-- What a run comes to depends on a failed sink alone. -/
theorem conclude_of_failure {report : Report} {failure : String}
    (failed : report.sink.failure? = some failure) (mode : Mode) (limit : Nat) (tree : Files.Node)
    (fates : String → Files.Fate) :
    conclude mode limit report tree fates = (.error (.output failure), report.sink, tree) := by
  simp only [conclude, Report.verdict?, failed]

/-- Outcomes may arrive in any order. They are accepted in the order of their indices, each
once; and what the run prints, returns and leaves behind is what it comes to when the
outcomes are accepted one after the other, and no more of them once the sink has failed. -/
theorem settle_any_arrival {outcomes : List Outcome} {arrivals : List (Nat × Outcome)}
    (arrived : arrivals.Perm (indexed outcomes)) (sink : Sink) :
    let sequential := Report.acceptWhileTaken { sink } (indexed outcomes)
    inOrder arrivals = indexed outcomes ∧
    Report.collect sink arrivals = (indexed outcomes).foldl Report.accept { sink } ∧
    (Report.collect sink arrivals).sink = sequential.sink ∧
    (sequential.sink.failure? = none → Report.collect sink arrivals = sequential) ∧
    ∀ mode limit tree fates,
      settle mode limit sink arrivals tree fates =
        conclude mode limit sequential tree fates := by
  intro sequential
  have ordered := inOrder_eq arrived
  have collected : Report.collect sink arrivals =
      (indexed outcomes).foldl Report.accept { sink } := by
    rw [Report.collect, ordered]
  rcases Report.foldl_accept_eq { sink } (indexed outcomes) with ⟨sameSink, same⟩
  rw [← collected] at sameSink same
  refine ⟨ordered, collected, sameSink, ?_, ?_⟩
  · intro taken
    exact same (sameSink ▸ taken)
  · intro mode limit tree fates
    rw [settle]
    cases failed : (Report.collect sink arrivals).sink.failure? with
    | none => rw [same failed]
    | some failure =>
        rw [conclude_of_failure failed, conclude_of_failure (sameSink ▸ failed), sameSink]

end Whole

/-- The second file is done first, and there is no room to report on the first. -/
theorem settle_any_arrival_reversed :
    let failed : Outcome := .ok ⟨"a.go", none, [⟨"no", ⟨1, 1⟩, "q"⟩], false⟩
    let missing : Outcome := .error (.read "b.go" (.notFound "b.go"))
    (settle .lint 0 (.limited 3) [(1, missing), (0, failed)] .empty).1 =
      .error (.output "sink full") := by
  intro failed missing
  have arrived : [(1, missing), (0, failed)].Perm (indexed [failed, missing]) :=
    .swap (0, failed) (1, missing) []
  rw [(settle_any_arrival arrived (.limited 3)).2.2.2.2 .lint 0 .empty fun _ => .done]
  decide +kernel

end QueryPipe.Run
