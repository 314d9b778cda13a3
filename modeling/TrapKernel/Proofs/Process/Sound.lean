import TrapKernel.Proofs.Process.Queued

/-!
# The invariant of a registry

`Registry.Sound` says that every process is in the queue of its state and in no other, that the
queues are in order, that the vacant slots are known, and that names and priorities are admissible.
While a process changes its state its slot is `Detached`: everything holds but that it is in a
queue. So an operation is a way from a sound registry to a detached slot and back.
-/

namespace TrapKernel

/-- Name and priority are within their bounds. -/
structure Process.Admissible (p : Process) : Prop where
  minName : minNameLength ≤ p.name.length
  maxName : p.name.length ≤ maxNameLength
  priority : p.priority ≤ maxPriority

/-- No two processes share a name, and every name and priority is admissible. -/
structure ProcessTable.Roster (t : ProcessTable) : Prop where
  distinct : ∀ i j p p', t.process? i = some p → t.process? j = some p' → p.name = p'.name → i = j
  admissible : ∀ i p, t.process? i = some p → p.Admissible

namespace ProcessTable

variable {t t' : ProcessTable} {i : Nat}

theorem Rewired.roster (h : t.Rewired t') (hr : t.Roster) : t'.Roster where
  distinct := fun i j p p' hp hp' =>
    hr.distinct i j p p' (h.process i ▸ hp) (h.process j ▸ hp')
  admissible := fun i p hp => hr.admissible i p (h.process i ▸ hp)

theorem Roster.modifyProcess {f : Process → Process} (hr : t.Roster)
    (name : ∀ p, (f p).name = p.name)
    (priority : ∀ p, p.priority ≤ maxPriority → (f p).priority ≤ maxPriority) :
    (t.modifyProcess i f).Roster := by
  have origin : ∀ j p, (t.modifyProcess i f).process? j = some p →
      ∃ p', t.process? j = some p' ∧ (p = p' ∨ p = f p') := by
    intro j p process
    rw [process?_modifyProcess] at process
    split at process
    · obtain ⟨p', found, rfl⟩ := Option.map_eq_some_iff.mp process
      exact ⟨p', found, Or.inr rfl⟩
    · exact ⟨p, process, Or.inl rfl⟩
  have sameName : ∀ p p', p = p' ∨ p = f p' → p.name = p'.name := by
    rintro p p' (rfl | rfl)
    · rfl
    · exact name p'
  refine ⟨?_, ?_⟩
  · intro j k p q hp hq same
    obtain ⟨p', process, fromP⟩ := origin j p hp
    obtain ⟨q', process', fromQ⟩ := origin k q hq
    refine hr.distinct j k p' q' process process' ?_
    rw [← sameName p p' fromP, ← sameName q q' fromQ]
    exact same
  · intro j p hp
    obtain ⟨p', process, rfl | rfl⟩ := origin j p hp
    · exact hr.admissible j p process
    · have old := hr.admissible j p' process
      exact ⟨name p' ▸ old.minName, name p' ▸ old.maxName, priority p' old.priority⟩

theorem Removed.roster (h : t.Removed t' i) (hr : t.Roster) : t'.Roster := by
  have origin : ∀ j p, t'.process? j = some p → t.process? j = some p := by
    intro j p process
    rw [h.process] at process
    split at process
    · cases process
    · exact process
  exact ⟨fun j k p q hp hq => hr.distinct j k p q (origin j p hp) (origin k q hq),
    fun j p hp => hr.admissible j p (origin j p hp)⟩

theorem Inserted.roster {p : Process} (h : t.Inserted t' i p) (hr : t.Roster) (hp : p.Admissible)
    (unused : ∀ j p', t.process? j = some p' → p'.name ≠ p.name) : t'.Roster := by
  have origin : ∀ j q, t'.process? j = some q → j = i ∧ q = p ∨ t.process? j = some q := by
    intro j q process
    rw [h.process] at process
    split at process
    · rename_i eq
      exact Or.inl ⟨eq.symm, (Option.some.inj process).symm⟩
    · exact Or.inr process
  refine ⟨?_, ?_⟩
  · intro j k q q' hq hq' same
    rcases origin j q hq with ⟨rfl, rfl⟩ | old <;> rcases origin k q' hq' with ⟨rfl, rfl⟩ | old'
    · rfl
    · exact absurd same.symm (unused k q' old')
    · exact absurd same (unused j q old)
    · exact hr.distinct j k q q' old old' same
  · intro j q hq
    rcases origin j q hq with ⟨rfl, rfl⟩ | old
    · exact hp
    · exact hr.admissible j q old

/-- In a roster the name leads to the process. -/
theorem Roster.position_eq_some (hr : t.Roster) {name : String} :
    t.position name = some i ↔ ∃ p, t.process? i = some p ∧ p.name = name := by
  refine ⟨ProcessTable.position_eq_some, ?_⟩
  rintro ⟨p, process, named⟩
  cases found : t.position name with
  | none => exact absurd named (position_eq_none.mp found i p process)
  | some j =>
    obtain ⟨p', process', named'⟩ := ProcessTable.position_eq_some found
    rw [hr.distinct i j p p' process process' (named.trans named'.symm)]

end ProcessTable

namespace Registry

open ProcessTable ProcessQueue

variable {r r' : Registry} {order : Order} {i j : Nat} {k : QueueKind}

/-- Every process is in the queue of its state, in its place, and in no other queue. -/
structure Sound (r : Registry) (order : Order) : Prop extends Queued r order where
  complete : ∀ i k, r.stateAt i = some k.state → i ∈ order k
  sorted : ∀ k, Sorted k r.table (order k)
  wellformed : r.table.Wellformed
  roster : r.table.Roster

/-- The registry is sound, but for the process in slot `i`, which is in no queue. -/
structure Detached (r : Registry) (order : Order) (i : Nat) : Prop extends Queued r order where
  live : r.table.Live i
  free : ∀ k, i ∉ order k
  complete : ∀ j k, j ≠ i → r.stateAt j = some k.state → j ∈ order k
  sorted : ∀ k, Sorted k r.table (order k)
  wellformed : r.table.Wellformed
  roster : r.table.Roster

theorem sound_empty : Registry.empty.Sound fun _ => [] := by
  have nothing : ∀ i, Registry.empty.table.process? i = none := fun i => rfl
  refine ⟨⟨?_, ?_, fun _ => List.forall_mem_nil _, ?_⟩, ?_, ?_, wellformed_empty, ?_⟩
  · intro k
    cases k <;> rfl
  · intro k
    cases k <;> exact ⟨rfl, rfl, rfl, trivial, List.nodup_nil⟩
  · intro i live
    rw [ProcessTable.Live, nothing] at live
    cases live
  · intro i k state
    rw [stateAt, nothing] at state
    cases state
  · intro k _
    exact List.Pairwise.nil
  · constructor
    · intro i j p p' taken
      rw [nothing] at taken
      cases taken
    · intro i p taken
      rw [nothing] at taken
      cases taken

theorem sorted_congr {t t' : ProcessTable} {l : List Nat} (h : Sorted k t l)
    (same : ∀ i ∈ l, t'.process? i = t.process? i) : Sorted k t' l := by
  intro priority
  refine (h priority).imp_of_mem ?_
  intro i j hi hj apart
  rw [outranks, same i hi, same j hj]
  exact apart

theorem outranks_modifyProcess {t : ProcessTable} {f : Process → Process}
    (rank : ∀ p, (f p).round = p.round) (priority : ∀ p, (f p).priority = p.priority) :
    outranks (t.modifyProcess i f) = outranks t := by
  have before : ∀ p p', (f p).RunsBefore p' ↔ p.RunsBefore p' := by
    intro p p'
    rw [Process.RunsBefore, rank, priority, Process.RunsBefore]
  have behind : ∀ p p' : Process, p.RunsBefore (f p') ↔ p.RunsBefore p' := by
    intro p p'
    rw [Process.RunsBefore, rank, priority, Process.RunsBefore]
  funext a b
  simp only [outranks, process?_modifyProcess]
  generalize t.process? a = atA, t.process? b = atB
  split_ifs <;> cases atA <;> cases atB <;>
    simp only [Option.map_some, Option.map_none, before, behind]

theorem stateAt_modifyProcess {f : Process → Process} (state : ∀ p, (f p).state = p.state)
    (j : Nat) : (r.modifyProcess i f).stateAt j = r.stateAt j := by
  rw [stateAt, Registry.modifyProcess, process?_modifyProcess, stateAt]
  split
  · rw [Option.map_map]
    congr 1
    funext p
    exact state p
  · rfl

/-- A slot is taken out of its queue. It may stand out of place there, the others may not. -/
theorem Queued.detach (hq : r.Queued order) (live : r.table.Live i)
    (complete : ∀ j k, r.stateAt j = some k.state → j ∈ order k)
    (sorted : ∀ k, Sorted k r.table (order.without i k)) (wellformed : r.table.Wellformed)
    (roster : r.table.Roster) :
    (r.unlink i).Detached (order.without i) i ∧ r.table.Rewired (r.unlink i).table ∧
      (r.unlink i).round = r.round := by
  obtain ⟨queued, rewired, round⟩ := hq.unlink (complete i)
  refine ⟨⟨queued, (rewired.live i).mpr live, ?_, ?_, ?_, rewired.wellformed wellformed,
    rewired.roster roster⟩, rewired, round⟩
  · intro k hi
    exact (hq.mem_without.mp hi).1 rfl
  · intro j k ne state
    rw [stateAt_congr (rewired.process j)] at state
    exact hq.mem_without.mpr ⟨ne, complete j k state⟩
  · intro k
    exact sorted_congr (sorted k) fun j _ => rewired.process j

namespace Sound

theorem mem_iff (hs : r.Sound order) : i ∈ order k ↔ r.stateAt i = some k.state :=
  ⟨hs.states k i, hs.complete i k⟩

/-- The process leaves its queue. -/
theorem unlink (hs : r.Sound order) (live : r.table.Live i) :
    (r.unlink i).Detached (order.without i) i ∧ r.table.Rewired (r.unlink i).table ∧
      (r.unlink i).round = r.round :=
  hs.toQueued.detach live hs.complete (fun k => (hs.sorted k).sublist List.erase_sublist)
    hs.wellformed hs.roster

/-- A process that runs is in no queue. -/
theorem detached (hs : r.Sound order) (running : r.stateAt i = some .running) :
    r.Detached order i := by
  refine ⟨hs.toQueued, live_of_stateAt running, ?_, fun j k _ => hs.complete j k, hs.sorted,
    hs.wellformed, hs.roster⟩
  intro k hi
  have state := hs.states k i hi
  rw [running] at state
  cases k <;> cases state

/-- A process may change in its queue, as long as its place remains the right one. -/
theorem modifyProcess {f : Process → Process} (hs : r.Sound order)
    (state : ∀ p, (f p).state = p.state) (name : ∀ p, (f p).name = p.name)
    (priority : ∀ p, p.priority ≤ maxPriority → (f p).priority ≤ maxPriority)
    (sorted : ∀ k, Sorted k (r.table.modifyProcess i f) (order k)) :
    (r.modifyProcess i f).Sound order := by
  have queued := hs.toQueued.modifyProcess (i := i) (f := f) fun _ _ p _ => state p
  have same : r.table.SameSlots (r.modifyProcess i f).table := SameSlots.modify _
  refine ⟨queued, ?_, sorted, same.wellformed hs.wellformed, hs.roster.modifyProcess name priority⟩
  intro j k atJ
  rw [stateAt_modifyProcess state] at atJ
  exact hs.complete j k atJ

/-- What neither the queues nor the names depend on may change. -/
theorem modifyProcess_rank {f : Process → Process} (hs : r.Sound order)
    (state : ∀ p, (f p).state = p.state) (rank : ∀ p, (f p).round = p.round)
    (priority : ∀ p, (f p).priority = p.priority) (name : ∀ p, (f p).name = p.name) :
    (r.modifyProcess i f).Sound order := by
  refine hs.modifyProcess state name (fun p le => (priority p).symm ▸ le) ?_
  intro k priorityOrder
  rw [outranks_modifyProcess rank priority]
  exact hs.sorted k priorityOrder

end Sound

namespace Detached

theorem modifyProcess {f : Process → Process} (hd : r.Detached order i)
    (name : ∀ p, (f p).name = p.name)
    (priority : ∀ p, p.priority ≤ maxPriority → (f p).priority ≤ maxPriority) :
    (r.modifyProcess i f).Detached order i := by
  have queued := hd.toQueued.modifyProcess (i := i) (f := f) fun k hi => absurd hi (hd.free k)
  have same : r.table.SameSlots (r.modifyProcess i f).table := SameSlots.modify _
  have others : ∀ j, j ≠ i → (r.modifyProcess i f).table.process? j = r.table.process? j := by
    intro j ne
    rw [Registry.modifyProcess, process?_modifyProcess, if_neg (Ne.symm ne)]
  refine ⟨queued, (same.live i).mpr hd.live, hd.free, ?_, ?_, same.wellformed hd.wellformed,
    hd.roster.modifyProcess name priority⟩
  · intro j k ne state
    rw [stateAt_congr (others j ne)] at state
    exact hd.complete j k ne state
  · intro k
    refine sorted_congr (hd.sorted k) fun j hj => others j ?_
    rintro rfl
    exact hd.free k hj

/-- The process gets a state and enters the queue of that state. -/
theorem link (hd : r.Detached order i) (state : ProcessState) (round : Nat) :
    let t := r.table.modifyProcess i (entering state round)
    (r.link i state round).Sound (order.including t i state) ∧
      t.Rewired (r.link i state round).table ∧ (r.link i state round).round = r.round := by
  intro t
  obtain ⟨queued, rewired, sameRound⟩ := hd.toQueued.link hd.free hd.live state round
  have entered := hd.modifyProcess (f := entering state round) (fun _ => rfl) (fun _ le => le)
  have process : ∀ j, (r.link i state round).table.process? j =
      (r.modifyProcess i (entering state round)).table.process? j := rewired.process
  refine ⟨⟨queued, ?_, ?_, rewired.wellformed entered.wellformed, rewired.roster entered.roster⟩,
    rewired, sameRound⟩
  · intro j k atJ
    rw [stateAt_congr (process j)] at atJ
    rw [Order.mem_including]
    by_cases eq : j = i
    · subst eq
      obtain ⟨p, found, inState⟩ := stateAt_eq_some.mp atJ
      rw [Registry.modifyProcess, process?_modifyProcess, if_pos rfl] at found
      obtain ⟨p', -, rfl⟩ := Option.map_eq_some_iff.mp found
      exact Or.inr ⟨QueueKind.ofState_eq_some.mpr inState, rfl⟩
    · exact Or.inl (entered.complete j k eq atJ)
  · intro k
    refine sorted_congr ?_ fun j _ => process j
    unfold Order.including
    split
    · exact (entered.sorted k).placed fun j hj => entered.toQueued.live hj
    · exact entered.sorted k

end Detached

end Registry

end TrapKernel
