import TrapKernel.Proofs.Process.Places

/-!
# Who goes on contending

A process that is ready or runs contends for the processor. Nothing that the dispatcher does takes
it out of contention, unless it was this process that trapped and it neither keeps the processor nor
is put back. So as long as there is such a process and nobody runs, there is somebody to resume.
-/

namespace TrapKernel

namespace Registry

open ProcessTable

variable {r r' : Registry} {order : Order} {i j : Nat} {id : ProcessId} {name : String}
  {m m' : Memory}

/-- The process in the slot has this name, and is ready or runs. -/
def Contends (r : Registry) (i : Nat) (name : String) : Prop :=
  ∃ p, r.table.process? i = some p ∧ p.name = name ∧ (p.state = .ready ∨ p.state = .running)

namespace Contends

/-- One process changed. -/
theorem of_process {f : Process → Process} (h : r.Contends i name)
    (process : ∀ k, r'.table.process? k =
      if j = k then (r.table.process? k).map f else r.table.process? k)
    (same : ∀ p, (f p).name = p.name)
    (stays : j = i → ∀ p, p.state = .ready ∨ p.state = .running →
      (f p).state = .ready ∨ (f p).state = .running) : r'.Contends i name := by
  obtain ⟨p, found, rfl, state⟩ := h
  by_cases eq : j = i
  · refine ⟨f p, ?_, same p, stays eq p state⟩
    rw [process, if_pos eq, found]
    rfl
  · refine ⟨p, ?_, rfl, state⟩
    rw [process, if_neg eq, found]

/-- Neither unblocking nor resuming is about a process that is ready or runs. -/
theorem shift {target : ProcessState → Option ProcessState} (h : r.Contends i name)
    (ready : target .ready = none) (running : target .running = none) (j : Nat) :
    (r.shift j target).2.Contends i name := by
  rw [Registry.shift]
  cases moved : (r.stateAt j).bind target with
  | none => exact h
  | some state =>
    refine h.of_process (r.process?_moveTo j state) (fun _ => rfl) ?_
    rintro rfl -
    obtain ⟨p, found, -, contends⟩ := h
    rw [stateAt, found] at moved
    rcases contends with is | is
    · exact absurd moved (by simp [is, ready])
    · exact absurd moved (by simp [is, running])

/-- Another process changes its state. -/
theorem shift_other {target : ProcessState → Option ProcessState} (h : r.Contends i name)
    (other : j ≠ i) : (r.shift j target).2.Contends i name := by
  rw [Registry.shift]
  cases (r.stateAt j).bind target with
  | none => exact h
  | some state =>
    exact h.of_process (r.process?_moveTo j state) (fun _ => rfl) fun same => absurd same other

/-- A process of another name is in another slot. -/
theorem slot_ne {name' : String} (h : r.Contends i name) (other : name' ≠ name)
    (named : r.table.position name' = some j) : j ≠ i := by
  rintro rfl
  obtain ⟨p, found, rfl, -⟩ := h
  have at_j : r.position name' = .ok j := by
    rw [position, named]
  obtain ⟨q, found', rfl⟩ := position_ok at_j
  exact other (congrArg Process.name (Option.some.inj (found'.symm.trans found)))

theorem block {name' : String} {b : Bool} (h : r.Contends i name) (other : name' ≠ name)
    (done : r.block name' = .ok (b, r')) : r'.Contends i name := by
  obtain ⟨j, named, shifted⟩ := block_ok done
  have after : (r.shift j blockTarget).2.Contends i name :=
    h.shift_other (h.slot_ne other (position_found named))
  rwa [shifted] at after

theorem unblock {name' : String} {b : Bool} (h : r.Contends i name)
    (done : r.unblock name' = .ok (b, r')) : r'.Contends i name := by
  obtain ⟨j, -, shifted⟩ := unblock_ok done
  have after : (r.shift j unblockTarget).2.Contends i name := h.shift rfl rfl j
  rwa [shifted] at after

theorem suspend {name' : String} (h : r.Contends i name) (other : name' ≠ name) :
    (r.suspend name').2.Contends i name := by
  unfold Registry.suspend
  cases named : r.table.position name' with
  | none => exact h
  | some j => exact h.shift_other (h.slot_ne other named)

theorem resume (h : r.Contends i name) (name' : String) :
    (r.resume name').2.Contends i name := by
  unfold Registry.resume
  cases r.table.position name' with
  | none => exact h
  | some j => exact h.shift rfl rfl j

/-- Only suspended processes are resumed. -/
theorem drain (h : r.Contends i name) (hs : r.Sound order) {k : QueueKind}
    (suspended : k.state ≠ .ready) (k' : QueueKind) (most : Nat) :
    (r.drain k k'.state most).2.Contends i name := by
  induction most generalizing r order with
  | zero => exact h
  | succ most ih =>
    rw [Registry.drain]
    cases head : (r.queue k).head with
    | none => exact h
    | some j =>
      have before := hs.stateAt_head head
      obtain ⟨order', sound, -⟩ := hs.steady_moveTo before k'
      refine ih (h.of_process (r.process?_moveTo j _) (fun _ => rfl) ?_) sound
      rintro rfl
      obtain ⟨p, found, -, state⟩ := h
      obtain ⟨q, found', inK⟩ := stateAt_eq_some.mp before
      obtain rfl := Option.some.inj (found.symm.trans found')
      rw [inK] at state
      rcases state with ready | running
      · exact absurd ready suspended
      · exact absurd running (queueKind_state_ne_running k)

theorem resumeAll (h : r.Contends i name) (hs : r.Sound order) :
    r.resumeAll.2.Contends i name := by
  have first := h.drain hs (k := .suspendedReady) (by decide) .ready r.table.slots.length
  obtain ⟨order', sound, -⟩ := hs.drain .suspendedReady .ready r.table.slots.length
  exact first.drain sound (k := .suspendedBlocked) (by decide) .blocked _

theorem setPriority {name' : String} {priority : Nat} (h : r.Contends i name)
    (done : r.setPriority name' priority = .ok r') : r'.Contends i name := by
  let f : Process → Process := ({ · with priority })
  obtain ⟨j, p, -, found, -, moved⟩ := setPriority_ok done
  have changed : (r.modifyProcess j f).Contends i name :=
    h.of_process (fun k => process?_modifyProcess f) (fun _ => rfl) fun _ _ state => state
  rcases moved with ⟨-, rfl⟩ | ⟨-, rfl⟩
  · -- it is put back into the queue of the state that it had
    refine changed.of_process (j := j) (f := entering p.state p.round) (fun k => ?_)
      (fun _ => rfl) ?_
    · rw [process?_link, (rewired_unlink _ j).process]
    · rintro rfl - -
      obtain ⟨q, found', -, state⟩ := h
      obtain rfl := Option.some.inj (found.symm.trans found')
      exact state
  · exact changed

/-- A process that comes takes a slot that was free. -/
theorem joined {p : Process} (h : r.Contends i name) (joins : r.table.Joins r'.table id)
    (process : ∀ k, r'.table.process? k = if id.index = k then some p else r.table.process? k) :
    r'.Contends i name := by
  obtain ⟨q, found, rest⟩ := h
  refine ⟨q, ?_, rest⟩
  rw [process, if_neg, found]
  rintro rfl
  exact joins.fresh (live_iff.mpr ⟨q, found⟩)

theorem release {b : Bool} (h : r.Contends i name) (done : r.release id = .ok (b, r')) :
    r'.Contends i name := by
  obtain ⟨j, -, shifted⟩ := release_ok done
  have after : (r.shift j unblockTarget).2.Contends i name := h.shift rfl rfl j
  rwa [shifted] at after

theorem saveContext {c : Context} (h : r.Contends i name) (done : r.saveContext id c = .ok r') :
    r'.Contends i name := by
  obtain ⟨j, -, rfl⟩ := saveContext_ok done
  exact h.of_process (fun k => process?_modifyProcess (·.saveContext c)) (fun _ => rfl)
    fun _ _ state => state

/-- Another process is made to wait. -/
theorem parkBlocked (h : r.Contends i name) (done : r.parkBlocked id = .ok r')
    (other : r.table.resolve id ≠ some i) : r'.Contends i name := by
  obtain ⟨j, resolved, rfl⟩ := parkBlocked_ok done
  refine h.of_process (r.process?_link j _ _) (fun _ => rfl) ?_
  rintro rfl
  exact absurd resolved other

/-- Another process ends. -/
theorem destroy (h : r.Contends i name) (done : r.destroy m id = .ok (r', m'))
    (other : r.table.resolve id ≠ some i) : r'.Contends i name := by
  obtain ⟨leaves, -, process⟩ := destroy_process done
  obtain ⟨p, found, rest⟩ := h
  refine ⟨p, ?_, rest⟩
  rw [process, if_neg, found]
  rintro rfl
  exact other leaves.resolved

theorem delete {name' : String} (h : r.Contends i name) (other : name' ≠ name)
    (done : r.delete m name' = .ok (id, r', m')) : r'.Contends i name := by
  obtain ⟨j, p, named, found, -, rfl, destroyed⟩ := delete_ok done
  refine h.destroy destroyed ?_
  rw [resolve_idAt (live_iff.mpr ⟨p, found⟩)]
  intro same
  exact h.slot_ne other (position_found named) (Option.some.inj same)

theorem takeReadyHead (h : r.Contends i name) (taken : r.takeReadyHead = some (id, r')) :
    r'.Contends i name := by
  obtain ⟨j, -, -, -, process, -⟩ := takeReadyHead_ok taken
  exact h.of_process process (fun _ => rfl) fun _ _ _ => Or.inr rfl

theorem requeued {kept : Option ProcessId} (h : r.Contends i name) (back : r.Requeued kept r') :
    r'.Contends i name := by
  cases back with
  | nobody => exact h
  | back done =>
    obtain ⟨j, -, rfl⟩ := requeueYielded_ok done
    exact h.of_process (r.process?_link j _ _) (fun _ => rfl) fun _ _ _ => Or.inl rfl

/-- In the first half of a trap, a process that does not keep the processor drops out. -/
theorem entered {saved : Context} {ran kept : Option ProcessId} (h : r.Contends i name)
    (half : Entered saved r ran kept r')
    (other : kept = none → ∀ id ∈ ran, r.table.resolve id ≠ some i) : r'.Contends i name := by
  cases half with
  | nobody => exact h
  | keeps done => exact h.saveContext done
  | parks done parked =>
    refine (h.saveContext done).parkBlocked parked ?_
    obtain ⟨j, -, rfl⟩ := saveContext_ok done
    have slots : r.table.SameSlots (r.modifyProcess j (·.saveContext saved)).table :=
      SameSlots.modify _
    rw [slots.resolve]
    exact other rfl _ rfl
  | ends done => exact h.destroy done (other rfl _ rfl)

theorem chosen {kept next : Option ProcessId} (h : r.Contends i name)
    (half : r.Chosen kept next r') : r'.Contends i name := by
  cases half with
  | home requeued => exact h.requeued requeued
  | next taken requeued => exact (h.takeReadyHead taken).requeued requeued
  | alone => exact h

/-- If nobody runs, somebody is ready. -/
theorem isSome_takeReadyHead (h : r.Contends i name) (runs : r.Runs []) :
    r.takeReadyHead ≠ none := by
  intro nobody
  obtain ⟨order, hs⟩ := runs.sound
  obtain ⟨p, found, -, ready | running⟩ := h
  · have queued : i ∈ order .ready := hs.mem_iff.mpr (stateAt_eq_some.mpr ⟨p, found, ready⟩)
    cases list : order .ready with
    | nil =>
      rw [list] at queued
      cases queued
    | cons j rest =>
      obtain ⟨r', q, taken, -⟩ := hs.takeReadyHead list
      rw [nobody] at taken
      cases taken
  · obtain ⟨id, member, -⟩ := (runs.running i).mp (stateAt_eq_some.mpr ⟨p, found, running⟩)
    cases member

end Contends

end Registry

end TrapKernel
