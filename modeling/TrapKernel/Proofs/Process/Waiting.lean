import TrapKernel.Proofs.Process.Handles
import TrapKernel.Proofs.Process.Running

/-!
# Who waits

A process waits while it is blocked, suspended or not. Only three operations change who waits: a
process that runs is parked, a process that waits is released, and a process that waits may go. All
the others are `SameWaits`.

Moving a process between queues writes links and one process, whatever the queues look like. So most
of this needs no sound registry; where it does, the reason is that the head of a queue must be in
the state of the queue.
-/

namespace TrapKernel

namespace Registry

open ProcessTable ProcessQueue

variable {r r' r'' : Registry} {order : Order} {i j : Nat} {k : QueueKind} {id : ProcessId}
  {m m' : Memory} {state : ProcessState} {target : ProcessState → Option ProcessState}

/-! ### Moving -/

theorem rewired_unlink (r : Registry) (i : Nat) : r.table.Rewired (r.unlink i).table := by
  unfold unlink
  split
  · exact Rewired.refl _
  · exact rewired_remove _ _ i

theorem rewired_link (r : Registry) (i : Nat) (state : ProcessState) (round : Nat) :
    (r.table.modifyProcess i (entering state round)).Rewired (r.link i state round).table := by
  unfold link
  simp only []
  split
  · exact Rewired.refl _
  · exact rewired_enqueue _ _ i

theorem sameSlots_link (r : Registry) (i : Nat) (state : ProcessState) (round : Nat) :
    r.table.SameSlots (r.link i state round).table :=
  (SameSlots.modify _).trans (r.rewired_link i state round).toSameSlots

theorem stateAt_unlink (r : Registry) (i j : Nat) : (r.unlink i).stateAt j = r.stateAt j :=
  stateAt_congr ((r.rewired_unlink i).process j)

theorem stateAt_link (r : Registry) (i : Nat) (state : ProcessState) (round j : Nat) :
    (r.link i state round).stateAt j =
      if i = j then (r.stateAt j).map fun _ => state else r.stateAt j := by
  rw [stateAt, (r.rewired_link i state round).process, process?_modifyProcess, stateAt]
  split
  · rw [Option.map_map, Option.map_map]
    rfl
  · rfl

theorem sameSlots_moveTo (r : Registry) (i : Nat) (state : ProcessState) :
    r.table.SameSlots (r.moveTo i state).table :=
  (r.rewired_unlink i).toSameSlots.trans ((r.unlink i).sameSlots_link i state r.round)

theorem stateAt_moveTo (r : Registry) (i : Nat) (state : ProcessState) (j : Nat) :
    (r.moveTo i state).stateAt j =
      if i = j then (r.stateAt j).map fun _ => state else r.stateAt j := by
  rw [moveTo, stateAt_link, stateAt_unlink]

/-! ### Waiting -/

/-- The process in the slot waits. -/
def waitsAt (r : Registry) (i : Nat) : Bool := (r.stateAt i).any (·.isBlocked)

theorem waitsAt_eq (h : r.stateAt i = some state) : r.waitsAt i = state.isBlocked := by
  rw [waitsAt, h]
  rfl

theorem waitsAt_eq_false (h : ¬ r.table.Live i) : r.waitsAt i = false := by
  rw [waitsAt, stateAt, Option.not_isSome_iff_eq_none.mp h]
  rfl

theorem waitsAt_congr (h : r'.stateAt i = r.stateAt i) : r'.waitsAt i = r.waitsAt i := by
  rw [waitsAt, h, waitsAt]

/-- A process that is given a state waits or does not, according to that state. -/
theorem waitsAt_given (live : r.table.Live i)
    (given : r'.stateAt j = if i = j then (r.stateAt j).map fun _ => state else r.stateAt j) :
    r'.waitsAt j = if i = j then state.isBlocked else r.waitsAt j := by
  rw [waitsAt, given]
  split
  · rename_i eq
    subst eq
    obtain ⟨p, found⟩ := live_iff.mp live
    rw [stateAt, found]
    rfl
  · rfl

theorem sameSlots_shift (r : Registry) (i : Nat) (target : ProcessState → Option ProcessState) :
    r.table.SameSlots (r.shift i target).2.table := by
  rw [Registry.shift]
  cases (r.stateAt i).bind target with
  | none => exact (Rewired.refl _).toSameSlots
  | some state => exact r.sameSlots_moveTo i state

/-- A process that is moved along an axis waits or does not, according to where it gets to. -/
theorem waitsAt_shift (r : Registry) (i : Nat) (target : ProcessState → Option ProcessState)
    (j : Nat) : (r.shift i target).2.waitsAt j =
      if i = j then (r.stateAt i).any fun s => ((target s).getD s).isBlocked else r.waitsAt j := by
  rw [Registry.shift]
  cases before : r.stateAt i with
  | none =>
    show r.waitsAt j = _
    split
    · rename_i eq
      rw [← eq, waitsAt, before]
      rfl
    · rfl
  | some old =>
    rw [Option.bind_some]
    cases moved : target old with
    | none =>
      show r.waitsAt j = _
      split
      · rename_i eq
        rw [← eq, waitsAt_eq before, Option.any_some, moved]
        rfl
      · rfl
    | some state =>
      rw [Option.any_some, moved]
      exact waitsAt_given (live_of_stateAt before) (r.stateAt_moveTo i state j)

/-- Whoever is unblocked does not wait. -/
theorem waitsAt_unblock (r : Registry) (i j : Nat) :
    (r.shift i unblockTarget).2.waitsAt j = if i = j then false else r.waitsAt j := by
  have free : ∀ s, ((unblockTarget s).getD s).isBlocked = false := by
    intro s
    cases s <;> rfl
  rw [waitsAt_shift]
  cases r.stateAt i with
  | none => rfl
  | some s => rw [Option.any_some, free]

/-- Whoever waits goes on waiting when somebody is blocked. -/
theorem waitsAt_block (i : Nat) (waits : r.waitsAt j = true) :
    (r.shift i blockTarget).2.waitsAt j = true := by
  have stuck : ∀ s, ProcessState.isBlocked s = true →
      ((blockTarget s).getD s).isBlocked = true := by
    intro s blocked
    cases s <;> first | rfl | cases blocked
  rw [waitsAt_shift]
  split
  · rename_i eq
    rw [← eq, waitsAt] at waits
    cases before : r.stateAt i with
    | none =>
      rw [before] at waits
      cases waits
    | some s =>
      rw [before] at waits
      exact stuck s waits
  · exact waits

/-- No process came or went, and none began or ceased to wait. -/
structure SameWaits (r r' : Registry) : Prop where
  slots : r.table.SameSlots r'.table
  waits : ∀ i, r'.waitsAt i = r.waitsAt i

namespace SameWaits

theorem refl (r : Registry) : r.SameWaits r := ⟨(Rewired.refl _).toSameSlots, fun _ => rfl⟩

theorem trans (h : r.SameWaits r') (h' : r'.SameWaits r'') : r.SameWaits r'' :=
  ⟨h.slots.trans h'.slots, fun i => (h'.waits i).trans (h.waits i)⟩

/-- A process gets another state, but waits no more and no less than before. -/
theorem of_stateAt {old : ProcessState} (state : ProcessState)
    (slots : r.table.SameSlots r'.table) (before : r.stateAt i = some old)
    (same : state.isBlocked = old.isBlocked)
    (given : ∀ j, r'.stateAt j =
      if i = j then (r.stateAt j).map fun _ => state else r.stateAt j) : r.SameWaits r' := by
  refine ⟨slots, fun j => ?_⟩
  rw [waitsAt_given (live_of_stateAt before) (given j)]
  split
  · rename_i eq
    rw [← eq, waitsAt_eq before, same]
  · rfl

theorem modifyProcess {f : Process → Process} (same : ∀ p, (f p).state = p.state) :
    r.SameWaits (r.modifyProcess i f) :=
  ⟨SameSlots.modify _, fun j => waitsAt_congr (stateAt_modifyProcess same j)⟩

theorem moveTo {old : ProcessState} (before : r.stateAt i = some old)
    (same : state.isBlocked = old.isBlocked) : r.SameWaits (r.moveTo i state) :=
  of_stateAt state (r.sameSlots_moveTo i state) before same (r.stateAt_moveTo i state)

theorem shift (same : ∀ old state, target old = some state → state.isBlocked = old.isBlocked)
    (i : Nat) : r.SameWaits (r.shift i target).2 := by
  rw [Registry.shift]
  cases moved : (r.stateAt i).bind target with
  | none => exact refl r
  | some state =>
    obtain ⟨old, before, onAxis⟩ := Option.bind_eq_some_iff.mp moved
    exact moveTo before (same old state onAxis)

/-- Suspending and resuming are about another axis. -/
theorem suspend (r : Registry) (name : String) : r.SameWaits (r.suspend name).2 := by
  unfold Registry.suspend
  split
  · exact refl r
  · refine shift (fun old state moved => ?_) _
    cases old <;> cases moved <;> rfl

theorem resume (r : Registry) (name : String) : r.SameWaits (r.resume name).2 := by
  unfold Registry.resume
  split
  · exact refl r
  · refine shift (fun old state moved => ?_) _
    cases old <;> cases moved <;> rfl

theorem saveContext {c : Context} (done : r.saveContext id c = .ok r') : r.SameWaits r' := by
  obtain ⟨i, -, rfl⟩ := saveContext_ok done
  exact modifyProcess fun _ => rfl

theorem setPriority {name : String} {priority : Nat}
    (done : r.setPriority name priority = .ok r') : r.SameWaits r' := by
  obtain ⟨i, p, -, found, -, ⟨-, rfl⟩ | ⟨-, rfl⟩⟩ := setPriority_ok done
  · let f : Process → Process := ({ · with priority })
    have changed : r.SameWaits (r.modifyProcess i f) := modifyProcess fun _ => rfl
    have before : (r.modifyProcess i f).stateAt i = some p.state :=
      (stateAt_modifyProcess (f := f) (fun _ => rfl) i).trans (stateAt_eq_some.mpr ⟨p, found, rfl⟩)
    refine changed.trans (of_stateAt p.state ?_ before rfl fun j => ?_)
    · exact (rewired_unlink _ i).toSameSlots.trans (sameSlots_link _ i p.state p.round)
    · rw [stateAt_link, stateAt_unlink]
  · exact modifyProcess fun _ => rfl

end SameWaits

namespace Sound

theorem sameWaits_drain (hs : r.Sound order) (k k' : QueueKind)
    (same : k'.state.isBlocked = k.state.isBlocked) (most : Nat) :
    r.SameWaits (r.drain k k'.state most).2 := by
  induction most generalizing r order with
  | zero => exact SameWaits.refl r
  | succ most ih =>
    rw [Registry.drain]
    cases head : (r.queue k).head with
    | none => exact SameWaits.refl r
    | some i =>
      have before := hs.stateAt_head head
      obtain ⟨order₁, sound₁, -⟩ := hs.steady_moveTo before k'
      exact (SameWaits.moveTo before same).trans (ih sound₁)

theorem sameWaits_resumeAll (hs : r.Sound order) : r.SameWaits r.resumeAll.2 := by
  have first : r.SameWaits (r.drain .suspendedReady .ready r.table.slots.length).2 :=
    hs.sameWaits_drain .suspendedReady .ready rfl _
  obtain ⟨order', sound, -⟩ := hs.drain .suspendedReady .ready r.table.slots.length
  exact first.trans (sound.sameWaits_drain .suspendedBlocked .blocked rfl _)

/-- A process that begins to run was ready. -/
theorem sameWaits_takeReadyHead (hs : r.Sound order)
    (taken : r.takeReadyHead = some (id, r')) : r.SameWaits r' := by
  unfold Registry.takeReadyHead at taken
  cases head : r.ready.head with
  | none =>
    rw [head] at taken
    cases taken
  | some i =>
    rw [head] at taken
    cases taken
    have removed : r.table.Rewired (r.onQueue .ready (·.remove · i)).table :=
      rewired_remove _ _ i
    refine SameWaits.of_stateAt .running (removed.toSameSlots.trans (SameSlots.modify _))
      (hs.stateAt_head (k := .ready) head) rfl fun j => ?_
    rw [stateAt, Registry.modifyProcess, process?_modifyProcess, removed.process, stateAt]
    split
    · rw [Option.map_map, Option.map_map]
      rfl
    · rfl

end Sound

/-! ### The dispatcher -/

/-- A process that gives up the processor does not wait. -/
theorem SameWaits.requeueYielded (running : ∀ i, r.table.resolve id = some i →
      r.stateAt i = some .running) (done : r.requeueYielded id = .ok r') : r.SameWaits r' := by
  obtain ⟨i, resolved, rfl⟩ := requeueYielded_ok done
  exact of_stateAt .ready (r.sameSlots_link i _ _) (running i resolved) rfl (r.stateAt_link i _ _)

/-- A process that is parked waits from now on. -/
theorem waitsAt_parkBlocked (done : r.parkBlocked id = .ok r') :
    r.table.SameSlots r'.table ∧
      ∀ j, r'.waitsAt j = if r.table.resolve id = some j then true else r.waitsAt j := by
  obtain ⟨i, resolved, rfl⟩ := parkBlocked_ok done
  refine ⟨r.sameSlots_link i _ _, fun j => ?_⟩
  rw [waitsAt_given (resolve_eq_some.mp resolved).2.2 (r.stateAt_link i _ _ j), resolved]
  simp only [Option.some.injEq]
  rfl

/-- A process that is released does not wait any more. If it is gone, nothing happens. -/
theorem waitsAt_release {b : Bool} (done : r.release id = .ok (b, r')) :
    r.table.SameSlots r'.table ∧
      ∀ j, r'.waitsAt j = if r.table.resolve id = some j then false else r.waitsAt j := by
  obtain ⟨i, resolved, shifted⟩ := release_ok done
  obtain rfl := congrArg Prod.snd shifted
  refine ⟨r.sameSlots_shift i unblockTarget, fun j => ?_⟩
  rw [waitsAt_unblock, resolved]
  simp only [Option.some.injEq]

theorem release_eq_error (gone : r.table.resolve id = none) :
    r.release id = .error .staleHandle := by
  unfold Registry.release Registry.resolve
  rw [gone]
  rfl

theorem not_waits_of_release_error {e : RegistryError} (failed : r.release id = .error e)
    (resolved : r.table.resolve id = some i) : r.waitsAt i = false := by
  unfold Registry.release Registry.resolve at failed
  rw [resolved] at failed
  simp only [bind, Except.bind, Registry.unblockAt, Registry.notRunning] at failed
  cases found : r.table.process? i with
  | none =>
    rw [found] at failed
    cases failed
  | some p =>
    rw [found] at failed
    simp only [] at failed
    by_cases running : p.state = .running
    · exact waitsAt_eq (stateAt_eq_some.mpr ⟨p, found, running⟩)
    · rw [if_neg running] at failed
      cases failed

/-! ### Processes come and go -/

namespace Sound

/-- A process that was created is ready. -/
theorem create_joins (hs : r.Sound order) {name : String} {owner : ProcessClass} {priority : Nat}
    (done : r.create m name owner priority = .ok (id, r', m')) :
    r.table.Joins r'.table id ∧ r'.stateAt id.index = some .ready ∧
      ∀ j, r'.waitsAt j = r.waitsAt j := by
  obtain ⟨record, t, -, -, -, insertEq, rfl⟩ := create_ok done
  let p : Process := .create name owner priority record
  have joins := hs.wellformed.insert_joins p
  obtain ⟨i, t', insertEq', inserted⟩ := insert_spec hs.wellformed p
  obtain ⟨rfl, rfl⟩ := Prod.mk.inj (insertEq.symm.trans insertEq')
  rw [insertEq] at joins
  have others : ∀ j, i ≠ j → Registry.stateAt { r with table := t } j = r.stateAt j := by
    intro j ne
    refine stateAt_congr (r := r) ?_
    rw [inserted.process, if_neg ne]
  have atI : Registry.stateAt { r with table := t } i = some .ready := by
    refine stateAt_eq_some.mpr ⟨p, ?_, rfl⟩
    rw [inserted.process, if_pos rfl]
  have state := stateAt_link { r with table := t } i .ready r.round
  have stateI : (Registry.link { r with table := t } i .ready r.round).stateAt i = some .ready := by
    rw [state, if_pos rfl, atI]
    rfl
  refine ⟨joins.sameSlots (sameSlots_link { r with table := t } i .ready r.round), stateI,
    fun j => ?_⟩
  rw [show (t.idAt i).index = i from rfl]
  by_cases eq : i = j
  · subst eq
    rw [waitsAt_eq stateI, waitsAt_eq_false inserted.fresh]
    rfl
  · refine waitsAt_congr ?_
    rw [state, if_neg eq, others j eq]

theorem load_joins (hs : r.Sound order) {name : String} {owner : ProcessClass} {priority : Nat}
    {entry : UInt32} (done : r.load m name owner priority entry = .ok (id, r', m')) :
    r.table.Joins r'.table id ∧ ∀ j, r'.waitsAt j = r.waitsAt j := by
  obtain ⟨r₁, created, rfl⟩ := load_ok done
  obtain ⟨joins, ready, waits⟩ := hs.create_joins created
  let f : Process → Process := (·.prepare entry)
  have prepared : r₁.SameWaits (r₁.modifyProcess id.index f) :=
    SameWaits.modifyProcess fun _ => rfl
  have ready' : (r₁.modifyProcess id.index f).stateAt id.index = some .ready :=
    (stateAt_modifyProcess (f := f) (fun _ => rfl) _).trans ready
  have moved : (r₁.modifyProcess id.index f).SameWaits
      ((r₁.modifyProcess id.index f).moveTo id.index .readySuspended) :=
    SameWaits.moveTo ready' rfl
  have same := prepared.trans moved
  exact ⟨joins.sameSlots same.slots, fun j => (same.waits j).trans (waits j)⟩

end Sound

/-- A process comes that does not wait, and those that run go on. -/
def Admits (r r' : Registry) (id : ProcessId) : Prop :=
  ∀ who, r.Runs who →
    r'.Runs who ∧ r.table.Joins r'.table id ∧ ∀ j, r'.waitsAt j = r.waitsAt j

theorem create_admits {name : String} {owner : ProcessClass} {priority : Nat}
    (done : r.create m name owner priority = .ok (id, r', m')) : r.Admits r' id := by
  intro who runs
  obtain ⟨order, hs⟩ := runs.sound
  obtain ⟨joins, -, waits⟩ := hs.create_joins done
  obtain ⟨-, -, -, runs', -⟩ := runs.create done
  exact ⟨runs', joins, waits⟩

theorem load_admits {name : String} {owner : ProcessClass} {priority : Nat} {entry : UInt32}
    (done : r.load m name owner priority entry = .ok (id, r', m')) : r.Admits r' id := by
  intro who runs
  obtain ⟨order, hs⟩ := runs.sound
  obtain ⟨joins, waits⟩ := hs.load_joins done
  obtain ⟨-, -, -, runs', -⟩ := runs.load done
  exact ⟨runs', joins, waits⟩

theorem destroy_leaves (done : r.destroy m id = .ok (r', m')) :
    r.table.Leaves r'.table id ∧ ∀ j, id.index ≠ j → r'.waitsAt j = r.waitsAt j := by
  obtain ⟨p, t, -, removed, rfl, -⟩ := destroy_ok done
  have unlinked := r.rewired_unlink id.index
  obtain ⟨leaves, process⟩ := remove_leaves removed
  refine ⟨leaves.sameSlots unlinked.toSameSlots, fun j ne => waitsAt_congr ?_⟩
  refine stateAt_congr (r := r) ?_
  rw [process, if_neg ne, unlinked.process]

theorem delete_leaves {name : String} (done : r.delete m name = .ok (id, r', m')) :
    r.table.Leaves r'.table id ∧ ∀ j, id.index ≠ j → r'.waitsAt j = r.waitsAt j := by
  obtain ⟨i, p, -, -, -, -, destroyed⟩ := delete_ok done
  exact destroy_leaves destroyed

end Registry

end TrapKernel
