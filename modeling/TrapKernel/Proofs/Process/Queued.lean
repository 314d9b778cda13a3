import Mathlib.Data.List.Basic
import TrapKernel.Process.Registry
import TrapKernel.Proofs.Process.Queue

/-!
# The queues of a registry

`Registry.Queued` gives the slots of every queue, in queue order. It does not ask that every process
is in the queue of its state: it holds between the two halves of a move as well, when a slot is in
no queue at all. Taking a slot out and putting one in are described by what they make of the lists.
-/

namespace TrapKernel

/-- Which slots are in the queues. -/
abbrev Order := QueueKind → List Nat

namespace Order

/-- The order without slot `i`. -/
def without (order : Order) (i : Nat) : Order := fun k => (order k).erase i

/-- The order with slot `i` in the queue of a state, if that has one. -/
def including (order : Order) (t : ProcessTable) (i : Nat) (state : ProcessState) : Order :=
  fun k =>
    if QueueKind.ofState state = some k then ProcessQueue.placed k t i (order k) else order k

theorem mem_including {order : Order} {t : ProcessTable} {i j : Nat} {state : ProcessState}
    {k : QueueKind} : j ∈ order.including t i state k ↔
      j ∈ order k ∨ QueueKind.ofState state = some k ∧ j = i := by
  unfold including
  split
  · rename_i eq
    rw [ProcessQueue.mem_placed]
    tauto
  · rename_i ne
    tauto

end Order

theorem QueueKind.ofState_eq_some {state : ProcessState} {k : QueueKind} :
    ofState state = some k ↔ state = k.state := by
  cases state <;> cases k <;> decide

theorem QueueKind.state_injective {k k' : QueueKind} (same : k.state = k'.state) : k = k' := by
  have eq := QueueKind.ofState_state k
  rw [same, QueueKind.ofState_state] at eq
  exact (Option.some.inj eq).symm

/-- A slot that goes to one queue changes no other one. -/
theorem Order.including_of_ne {order : Order} {t : ProcessTable} {i : Nat} {k k' : QueueKind}
    (ne : k ≠ k') : order.including t i k'.state k = order k := by
  rw [including, QueueKind.ofState_state, if_neg]
  rintro same
  exact ne (Option.some.inj same).symm

namespace Registry

open ProcessTable ProcessQueue

variable {r r' : Registry} {order : Order} {i j : Nat} {k : QueueKind}

/-- Each queue holds the slots that `order` gives, all of them in the state of the queue. A slot
that is in no queue has no neighbours. -/
structure Queued (r : Registry) (order : Order) : Prop where
  kind : ∀ k, (r.queue k).kind = k
  threads : ∀ k, (r.queue k).Threads r.table (order k)
  states : ∀ k, ∀ i ∈ order k, r.stateAt i = some k.state
  idle : ∀ i, r.table.Live i → (∀ k, i ∉ order k) → r.table.links i = some ⟨none, none⟩

@[simp] theorem queue_setQueue (r : Registry) (k k' : QueueKind) (q : ProcessQueue) :
    (r.setQueue k q).queue k' = if k' = k then q else r.queue k' := by
  cases k <;> cases k' <;> rfl

@[simp] theorem round_setQueue (r : Registry) (k : QueueKind) (q : ProcessQueue) :
    (r.setQueue k q).round = r.round := by
  cases k <;> rfl

@[simp] theorem table_onQueue (r : Registry) (k : QueueKind)
    (f : ProcessQueue → ProcessTable → ProcessQueue × ProcessTable) :
    (r.onQueue k f).table = (f (r.queue k) r.table).2 := rfl

@[simp] theorem round_onQueue (r : Registry) (k : QueueKind)
    (f : ProcessQueue → ProcessTable → ProcessQueue × ProcessTable) :
    (r.onQueue k f).round = r.round := round_setQueue ..

@[simp] theorem queue_onQueue (r : Registry) (k k' : QueueKind)
    (f : ProcessQueue → ProcessTable → ProcessQueue × ProcessTable) :
    (r.onQueue k f).queue k' = if k' = k then (f (r.queue k) r.table).1 else r.queue k' := by
  rw [← queue_setQueue]
  cases k' <;> rfl

@[simp] theorem queue_modifyProcess (r : Registry) (i : Nat) (f : Process → Process)
    (k : QueueKind) : (r.modifyProcess i f).queue k = r.queue k := by
  cases k <;> rfl

theorem stateAt_eq_some {state : ProcessState} :
    r.stateAt i = some state ↔ ∃ p, r.table.process? i = some p ∧ p.state = state :=
  Option.map_eq_some_iff

theorem stateAt_congr (same : r'.table.process? i = r.table.process? i) :
    r'.stateAt i = r.stateAt i := by
  rw [stateAt, same, stateAt]

theorem live_of_stateAt {state : ProcessState} (h : r.stateAt i = some state) : r.table.Live i := by
  obtain ⟨p, process, -⟩ := stateAt_eq_some.mp h
  exact live_iff.mpr ⟨p, process⟩

/-- What `link` makes of the process. -/
def entering (state : ProcessState) (round : Nat) (p : Process) : Process :=
  { p with state, round := if state = .ready then round else 0 }

namespace Queued

/-- A slot is in one queue at most. -/
theorem eq_of_mem (hq : r.Queued order) {k' : QueueKind} (hi : i ∈ order k) (hi' : i ∈ order k') :
    k = k' := by
  have same := (hq.states k i hi).symm.trans (hq.states k' i hi')
  exact QueueKind.state_injective (Option.some.inj same)

theorem live (hq : r.Queued order) (hi : i ∈ order k) : r.table.Live i := (hq.threads k).live hi

theorem members (hq : r.Queued order) (k : QueueKind) : r.members k = order k :=
  (hq.threads k).members

theorem mem_without (hq : r.Queued order) :
    j ∈ order.without i k ↔ j ≠ i ∧ j ∈ order k := (hq.threads k).nodup.mem_erase_iff

/-- What is in a slot that is in no queue may change, as long as it has no neighbours. -/
theorem replace {t : ProcessTable} (hq : r.Queued order) (free : ∀ k, i ∉ order k)
    (process : ∀ j, i ≠ j → t.process? j = r.table.process? j)
    (links : ∀ j, i ≠ j → t.links j = r.table.links j)
    (own : t.Live i → t.links i = some ⟨none, none⟩) : Queued { r with table := t } order := by
  have ne_of_mem : ∀ k, ∀ j ∈ order k, i ≠ j := by
    rintro k j hj rfl
    exact free k hj
  have queue : ∀ k, Registry.queue { r with table := t } k = r.queue k := by
    intro k
    cases k <;> rfl
  refine ⟨fun k => ?_, fun k => ?_, fun k j hj => ?_, fun j live notIn => ?_⟩
  · rw [queue]
    exact hq.kind k
  · rw [queue]
    exact (hq.threads k).congr fun j hj => links j (ne_of_mem k j hj)
  · rw [stateAt_congr (r := r) (process j (ne_of_mem k j hj))]
    exact hq.states k j hj
  · by_cases eq : i = j
    · subst eq
      exact own live
    · rw [links j eq]
      refine hq.idle j ?_ notIn
      rw [ProcessTable.Live, ← process j eq]
      exact live

/-! ### Out of a queue -/

theorem remove (hq : r.Queued order) (hi : i ∈ order k) :
    (r.onQueue k (·.remove · i)).Queued (order.without i) ∧
      r.table.Rewired (r.onQueue k (·.remove · i)).table := by
  obtain ⟨a, b, split⟩ := List.append_of_mem hi
  have threads := hq.threads k
  rw [split] at threads
  obtain ⟨removed, kind, rewired, own, others⟩ := threads.remove
  rw [← split] at others
  have outside : i ∉ a := by
    intro inA
    have apart := (List.nodup_append.mp threads.nodup).2.2
    exact apart i inA i List.mem_cons_self rfl
  have erased : (order k).erase i = a ++ b := by
    rw [split, List.erase_append_right _ outside, List.erase_cons_head]
  have states : ∀ j, (r.onQueue k (·.remove · i)).stateAt j = r.stateAt j := fun j =>
    stateAt_congr (rewired.process j)
  refine ⟨⟨?_, ?_, ?_, ?_⟩, rewired⟩
  · intro k'
    rw [queue_onQueue]
    split
    · rename_i eq
      rw [kind, eq]
      exact hq.kind k
    · exact hq.kind k'
  · intro k'
    rw [queue_onQueue, table_onQueue]
    by_cases eq : k' = k
    · subst eq
      rw [if_pos rfl, Order.without, erased]
      exact removed
    · have notIn : ∀ j ∈ order k', j ∉ order k := fun j hj hj' => eq (hq.eq_of_mem hj hj')
      have same : order.without i k' = order k' :=
        List.erase_of_not_mem fun mem => notIn i mem hi
      rw [if_neg eq, same]
      exact (hq.threads k').congr fun j hj => others j (notIn j hj)
  · intro k' j hj
    rw [states]
    exact hq.states k' j (hq.mem_without.mp hj).2
  · intro j live free
    rw [table_onQueue]
    by_cases eq : j = i
    · rw [eq]
      exact own
    · have free : ∀ k', j ∉ order k' := fun k' hj => free k' (hq.mem_without.mpr ⟨eq, hj⟩)
      rw [others j (free k)]
      exact hq.idle j ((rewired.live j).mp live) free

/-- A slot leaves the queue of its state. -/
theorem unlink (hq : r.Queued order) (complete : ∀ k, r.stateAt i = some k.state → i ∈ order k) :
    (r.unlink i).Queued (order.without i) ∧ r.table.Rewired (r.unlink i).table ∧
      (r.unlink i).round = r.round := by
  unfold Registry.unlink
  cases kind : (r.stateAt i).bind QueueKind.ofState with
  | none =>
    have free : ∀ k, i ∉ order k := by
      intro k hi
      rw [hq.states k i hi, Option.bind_some, QueueKind.ofState_state] at kind
      cases kind
    have same : order.without i = order := by
      funext k
      exact List.erase_of_not_mem (free k)
    rw [same]
    exact ⟨hq, Rewired.refl _, rfl⟩
  | some k =>
    obtain ⟨state, atI, ofState⟩ := Option.bind_eq_some_iff.mp kind
    rw [QueueKind.ofState_eq_some] at ofState
    obtain ⟨queued, rewired⟩ := hq.remove (complete k (ofState ▸ atI))
    exact ⟨queued, rewired, round_onQueue ..⟩

/-! ### Into a queue -/

theorem enqueue (hq : r.Queued order) (free : ∀ k, i ∉ order k)
    (state : r.stateAt i = some k.state) :
    (r.onQueue k (·.enqueue · i)).Queued (order.including r.table i k.state) ∧
      r.table.Rewired (r.onQueue k (·.enqueue · i)).table := by
  obtain ⟨threads, kind, rewired, others⟩ :=
    (hq.threads k).enqueue (free k) (live_of_stateAt state)
  rw [hq.kind k] at threads
  have states : ∀ j, (r.onQueue k (·.enqueue · i)).stateAt j = r.stateAt j := fun j =>
    stateAt_congr (rewired.process j)
  refine ⟨⟨?_, ?_, ?_, ?_⟩, rewired⟩
  · intro k'
    rw [queue_onQueue]
    split
    · rename_i eq
      rw [kind, eq]
      exact hq.kind k
    · exact hq.kind k'
  · intro k'
    rw [queue_onQueue, table_onQueue, Order.including, QueueKind.ofState_state]
    by_cases eq : k' = k
    · subst eq
      rw [if_pos rfl, if_pos rfl]
      exact threads
    · rw [if_neg eq, if_neg (fun same => eq (Option.some.inj same).symm)]
      refine (hq.threads k').congr fun j hj => others j ?_ ?_
      · rintro rfl
        exact free k' hj
      · exact fun hj' => eq (hq.eq_of_mem hj hj')
  · intro k' j hj
    rw [states]
    rcases Order.mem_including.mp hj with hj | ⟨same, rfl⟩
    · exact hq.states k' j hj
    · rw [QueueKind.ofState_state, Option.some.injEq] at same
      rw [← same]
      exact state
  · intro j live outside
    have notIn : ∀ k', j ∉ order k' := fun k' hj =>
      outside k' (Order.mem_including.mpr (Or.inl hj))
    have ne : j ≠ i := fun eq =>
      outside k (Order.mem_including.mpr (Or.inr ⟨QueueKind.ofState_state k, eq⟩))
    rw [table_onQueue, others j ne (notIn k)]
    exact hq.idle j ((rewired.live j).mp live) notIn

/-- Changing a process keeps the queues, as long as those in a queue keep their states. -/
theorem modifyProcess (hq : r.Queued order) {f : Process → Process}
    (keeps : ∀ k, i ∈ order k → ∀ p, r.table.process? i = some p → (f p).state = p.state) :
    (r.modifyProcess i f).Queued order := by
  have same : r.table.SameSlots (r.modifyProcess i f).table := SameSlots.modify _
  have links : ∀ j, (r.modifyProcess i f).table.links j = r.table.links j := fun j =>
    links_modifyProcess f
  refine ⟨?_, ?_, ?_, ?_⟩
  · intro k
    rw [queue_modifyProcess]
    exact hq.kind k
  · intro k
    rw [queue_modifyProcess]
    exact (hq.threads k).congr fun j _ => links j
  · intro k j hj
    obtain ⟨p, process, state⟩ := stateAt_eq_some.mp (hq.states k j hj)
    refine stateAt_eq_some.mpr ?_
    rw [Registry.modifyProcess, process?_modifyProcess]
    by_cases eq : i = j
    · subst eq
      rw [if_pos rfl, process]
      exact ⟨f p, rfl, (keeps k hj p process).trans state⟩
    · rw [if_neg eq]
      exact ⟨p, process, state⟩
  · intro j live free
    rw [links]
    exact hq.idle j ((same.live j).mp live) free

/-- A slot that is in no queue gets a state, and enters the queue of that state. -/
theorem link (hq : r.Queued order) (free : ∀ k, i ∉ order k) (live : r.table.Live i)
    (state : ProcessState) (round : Nat) :
    let t := r.table.modifyProcess i (entering state round)
    (r.link i state round).Queued (order.including t i state) ∧
      t.Rewired (r.link i state round).table ∧ (r.link i state round).round = r.round := by
  intro t
  have queued : (r.modifyProcess i (entering state round)).Queued order :=
    hq.modifyProcess fun k hi => absurd hi (free k)
  have atI : (r.modifyProcess i (entering state round)).stateAt i = some state := by
    obtain ⟨p, process⟩ := live_iff.mp live
    refine stateAt_eq_some.mpr ⟨entering state round p, ?_, rfl⟩
    rw [Registry.modifyProcess, process?_modifyProcess, if_pos rfl, process]
    rfl
  unfold Registry.link
  cases kind : QueueKind.ofState state with
  | none =>
    have same : order.including t i state = order := by
      funext k
      rw [Order.including, if_neg]
      rw [kind]
      exact nofun
    rw [same]
    exact ⟨queued, Rewired.refl _, rfl⟩
  | some k =>
    rw [QueueKind.ofState_eq_some] at kind
    subst kind
    obtain ⟨entered, rewired⟩ := queued.enqueue free atI
    exact ⟨entered, rewired, round_onQueue ..⟩

end Queued

end Registry

end TrapKernel
