import TrapKernel.Proofs.Process.Running

/-!
# Every sound registry verifies

The queues and the running processes together hold every process exactly once, so the numbers that
`verify` compares agree.
-/

namespace TrapKernel

namespace Registry

open ProcessTable ProcessQueue

variable {r : Registry} {order : Order} {i : Nat} {k : QueueKind} {who : List ProcessId}

/-- The slots of the processes in a state. -/
def slotsIn (r : Registry) (state : ProcessState) : List Nat :=
  (r.table.entries.filter (·.2.state = state)).map (·.1)

theorem nodup_slotsIn (r : Registry) (state : ProcessState) : (r.slotsIn state).Nodup :=
  nodup_entries.sublist (List.filter_sublist.map _)

theorem mem_slotsIn {state : ProcessState} : i ∈ r.slotsIn state ↔ r.stateAt i = some state := by
  rw [slotsIn, List.mem_map, stateAt_eq_some]
  constructor
  · rintro ⟨⟨j, p⟩, member, rfl⟩
    obtain ⟨entry, inState⟩ := List.mem_filter.mp member
    exact ⟨p, mem_entries.mp entry, of_decide_eq_true inState⟩
  · rintro ⟨p, found, inState⟩
    exact ⟨(i, p), List.mem_filter.mpr ⟨mem_entries.mpr found, decide_eq_true inState⟩, rfl⟩

/-- The queue of a state holds the processes in that state. -/
theorem Sound.perm_slotsIn (hs : r.Sound order) (k : QueueKind) :
    (order k).Perm (r.slotsIn k.state) := by
  rw [List.perm_ext_iff_of_nodup (hs.threads k).nodup (nodup_slotsIn r k.state)]
  intro i
  rw [mem_slotsIn, hs.mem_iff]

/-- Every process is in some state. -/
theorem length_entries_eq (r : Registry) : r.table.entries.length =
    (r.slotsIn .ready).length + (r.slotsIn .blocked).length + (r.slotsIn .readySuspended).length +
      (r.slotsIn .blockedSuspended).length + (r.slotsIn .running).length := by
  simp only [slotsIn, List.length_map]
  generalize r.table.entries = l
  induction l with
  | nil => rfl
  | cons entry l ih =>
    cases state : entry.2.state <;> simp [state, ih] <;> omega

theorem Runs.length_running (hr : r.Runs who) : (r.slotsIn .running).length = who.length := by
  have slots : (r.slotsIn .running).Perm (who.filterMap r.table.resolve) := by
    rw [List.perm_ext_iff_of_nodup (nodup_slotsIn r .running)]
    · intro i
      rw [mem_slotsIn, hr.running, List.mem_filterMap]
    · apply List.Nodup.filterMap _ hr.nodup
      intro id id' i resolved resolved'
      exact resolve_injective resolved resolved'
  rw [slots.length_eq, List.length_filterMap_eq_countP, List.countP_eq_length]
  intro id member
  obtain ⟨i, resolved⟩ := hr.resolves id member
  rw [resolved]
  rfl

theorem Sound.verify_queue (hs : r.Sound order) (k : QueueKind) :
    (r.queue k).verify r.table = .ok (order k) := by
  refine (hs.threads k).verify ?_ ?_
  · intro i hi
    rw [hs.kind k]
    exact stateAt_eq_some.mp (hs.states k i hi)
  · rw [hs.kind k]
    exact hs.sorted k

/-- A sound registry in which at most one process runs is accepted. -/
theorem Runs.verify (hr : r.Runs who) (one : who.length ≤ 1) : r.verify = .ok () := by
  obtain ⟨order, hs⟩ := hr.sound
  have queues : QueueKind.searchOrder.mapM (fun k => (r.queue k).verify r.table) =
      .ok [order .ready, order .blocked, order .suspendedReady, order .suspendedBlocked] := by
    simp only [QueueKind.searchOrder, List.mapM_cons, List.mapM_nil, hs.verify_queue]
    rfl
  have running : r.runningSlots.length = who.length := hr.length_running
  have count : r.table.count = r.table.entries.length := by
    rw [hs.wellformed.count, length_entries]
  have split := length_entries_eq r
  rw [hr.length_running] at split
  have inReady := (hs.perm_slotsIn .ready).length_eq
  have inBlocked := (hs.perm_slotsIn .blocked).length_eq
  have inSuspendedReady := (hs.perm_slotsIn .suspendedReady).length_eq
  have inSuspendedBlocked := (hs.perm_slotsIn .suspendedBlocked).length_eq
  simp only [QueueKind.state] at inReady inBlocked inSuspendedReady inSuspendedBlocked
  rw [Registry.verify, queues]
  simp only [bind, Except.bind, running, List.flatten_cons, List.flatten_nil,
    List.length_append, List.length_nil]
  rw [if_neg (Nat.not_lt.mpr one)]
  simp only [pure, Except.pure]
  rw [if_neg]
  rw [count, split]
  omega

end Registry

end TrapKernel
