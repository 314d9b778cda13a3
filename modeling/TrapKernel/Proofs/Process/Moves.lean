import TrapKernel.Proofs.Process.Outcomes

/-!
# Changes of state

Every operation that changes the state of a process takes its slot out of one queue and puts it into
another. They keep a registry sound, and most of them are `Steady`: no process comes or goes, and
none begins or ceases to run.
-/

namespace TrapKernel

namespace Registry

open ProcessTable ProcessQueue

variable {r r' r'' : Registry} {order : Order} {i j : Nat} {k : QueueKind}

/-- The same processes are there, with the same records. -/
structure SameRecords (r r' : Registry) : Prop where
  slots : r.table.SameSlots r'.table
  records : ∀ i, (r'.table.process? i).map (·.record) = (r.table.process? i).map (·.record)

/-- No process came or went, and none began or ceased to run. -/
structure Steady (r r' : Registry) : Prop extends SameRecords r r' where
  running : ∀ i, r'.stateAt i = some .running ↔ r.stateAt i = some .running
  round : r'.round = r.round

theorem SameRecords.trans (h : r.SameRecords r') (h' : r'.SameRecords r'') : r.SameRecords r'' where
  slots := h.slots.trans h'.slots
  records := fun i => (h'.records i).trans (h.records i)

theorem Steady.refl (r : Registry) : r.Steady r :=
  ⟨⟨(Rewired.refl _).toSameSlots, fun _ => rfl⟩, fun _ => Iff.rfl, rfl⟩

theorem Steady.trans (h : r.Steady r') (h' : r'.Steady r'') : r.Steady r'' where
  toSameRecords := h.toSameRecords.trans h'.toSameRecords
  running := fun i => (h'.running i).trans (h.running i)
  round := h'.round.trans h.round

/-- One process changed, but kept its record. -/
theorem SameRecords.of_process {f : Process → Process} (slots : r.table.SameSlots r'.table)
    (process : ∀ j, r'.table.process? j =
      if i = j then (r.table.process? j).map f else r.table.process? j)
    (record : ∀ p, (f p).record = p.record) : r.SameRecords r' := by
  refine ⟨slots, fun j => ?_⟩
  rw [process]
  split
  · rw [Option.map_map]
    congr 1
    funext p
    exact record p
  · rfl

/-- What a change of one process leaves as it is. -/
theorem Steady.of_process {f : Process → Process} (slots : r.table.SameSlots r'.table)
    (round : r'.round = r.round)
    (process : ∀ j, r'.table.process? j =
      if i = j then (r.table.process? j).map f else r.table.process? j)
    (record : ∀ p, (f p).record = p.record)
    (state : ∀ p, r.table.process? i = some p →
      ((f p).state = .running ↔ p.state = .running)) : r.Steady r' := by
  refine ⟨SameRecords.of_process slots process record, fun j => ?_, round⟩
  · rw [stateAt, process, stateAt]
    by_cases eq : i = j
    · subst eq
      rw [if_pos rfl]
      cases atI : r.table.process? i with
      | none => rfl
      | some p => simpa using state p atI
    · rw [if_neg eq]

theorem queueKind_state_ne_running (k : QueueKind) : k.state ≠ .running := by
  cases k <;> nofun

namespace Sound

/-- A process goes to the queue of another state. -/
theorem moveTo (hs : r.Sound order) (live : r.table.Live i) (state : ProcessState) :
    ∃ order', (r.moveTo i state).Sound order' ∧ r.table.SameSlots (r.moveTo i state).table ∧
      (∀ j, (r.moveTo i state).table.process? j = if i = j
        then (r.table.process? j).map (entering state r.round) else r.table.process? j) ∧
      (r.moveTo i state).round = r.round := by
  obtain ⟨detached, rewired, round⟩ := hs.unlink live
  obtain ⟨sound, rewired', round'⟩ := detached.link state r.round
  refine ⟨_, sound, ?_, ?_, round'.trans round⟩
  · exact rewired.toSameSlots.trans ((SameSlots.modify _).trans rewired'.toSameSlots)
  · intro j
    rw [Registry.moveTo, rewired'.process, process?_modifyProcess, rewired.process]

/-- Where a process that moves is taken from, and where it is put. -/
theorem moveTo_order (hs : r.Sound order) (live : r.table.Live i) (state : ProcessState) :
    (r.moveTo i state).Sound ((order.without i).including
      ((r.unlink i).table.modifyProcess i (entering state r.round)) i state) :=
  ((hs.unlink live).1.link state r.round).1

theorem steady_moveTo (hs : r.Sound order) (atI : r.stateAt i = some k.state) (k' : QueueKind) :
    ∃ order', (r.moveTo i k'.state).Sound order' ∧ r.Steady (r.moveTo i k'.state) := by
  obtain ⟨order', sound, slots, process, round⟩ := hs.moveTo (live_of_stateAt atI) k'.state
  refine ⟨order', sound, Steady.of_process slots round process (fun _ => rfl) ?_⟩
  intro p found
  obtain ⟨p', found', state⟩ := stateAt_eq_some.mp atI
  obtain rfl := Option.some.inj (found.symm.trans found')
  rw [state]
  exact iff_of_false (queueKind_state_ne_running k') (queueKind_state_ne_running k)

/-- An axis leads from queues to queues. -/
structure Axis (target : ProcessState → Option ProcessState) : Prop where
  queues : ∀ state state', target state = some state' →
    ∃ k k' : QueueKind, state = k.state ∧ state' = k'.state

theorem axis_block : Axis blockTarget := by
  refine ⟨fun state state' moved => ?_⟩
  cases state <;> cases moved
  · exact ⟨.ready, .blocked, rfl, rfl⟩
  · exact ⟨.suspendedReady, .suspendedBlocked, rfl, rfl⟩

theorem axis_unblock : Axis unblockTarget := by
  refine ⟨fun state state' moved => ?_⟩
  cases state <;> cases moved
  · exact ⟨.blocked, .ready, rfl, rfl⟩
  · exact ⟨.suspendedBlocked, .suspendedReady, rfl, rfl⟩

theorem axis_suspend : Axis suspendTarget := by
  refine ⟨fun state state' moved => ?_⟩
  cases state <;> cases moved
  · exact ⟨.ready, .suspendedReady, rfl, rfl⟩
  · exact ⟨.blocked, .suspendedBlocked, rfl, rfl⟩

theorem axis_resume : Axis resumeTarget := by
  refine ⟨fun state state' moved => ?_⟩
  cases state <;> cases moved
  · exact ⟨.suspendedReady, .ready, rfl, rfl⟩
  · exact ⟨.suspendedBlocked, .blocked, rfl, rfl⟩

theorem shift (hs : r.Sound order) {target : ProcessState → Option ProcessState}
    (axis : Axis target) (i : Nat) :
    ∃ order', (r.shift i target).2.Sound order' ∧ r.Steady (r.shift i target).2 := by
  rw [Registry.shift]
  cases moved : (r.stateAt i).bind target with
  | none => exact ⟨order, hs, Steady.refl r⟩
  | some state' =>
    obtain ⟨state, atI, onAxis⟩ := Option.bind_eq_some_iff.mp moved
    obtain ⟨k, k', rfl, rfl⟩ := axis.queues state state' onAxis
    exact hs.steady_moveTo atI k'

/-- The first of a queue is in the state of the queue. -/
theorem stateAt_head (hs : r.Sound order) (head : (r.queue k).head = some i) :
    r.stateAt i = some k.state := by
  rw [(hs.threads k).head] at head
  exact hs.states k i (List.mem_of_head? head)

theorem drain (hs : r.Sound order) (k k' : QueueKind) (most : Nat) :
    ∃ order', (r.drain k k'.state most).2.Sound order' ∧
      r.Steady (r.drain k k'.state most).2 := by
  induction most generalizing r order with
  | zero => exact ⟨order, hs, Steady.refl r⟩
  | succ most ih =>
    rw [Registry.drain]
    cases head : (r.queue k).head with
    | none => exact ⟨order, hs, Steady.refl r⟩
    | some i =>
      obtain ⟨order₁, sound₁, steady₁⟩ := hs.steady_moveTo (hs.stateAt_head head) k'
      obtain ⟨order', sound, steady⟩ := ih sound₁
      exact ⟨order', sound, steady₁.trans steady⟩

theorem resumeAll (hs : r.Sound order) :
    ∃ order', r.resumeAll.2.Sound order' ∧ r.Steady r.resumeAll.2 := by
  obtain ⟨order₁, sound₁, steady₁⟩ := hs.drain .suspendedReady .ready r.table.slots.length
  obtain ⟨order', sound, steady⟩ := sound₁.drain .suspendedBlocked .blocked
    (r.drain .suspendedReady .ready r.table.slots.length).2.table.slots.length
  exact ⟨order', sound, steady₁.trans steady⟩

/-! ### Priorities -/

/-- A changed process leaves its queue, in which it may stand out of place. -/
theorem unlink_changed (hs : r.Sound order) {f : Process → Process}
    (state : ∀ p, (f p).state = p.state) (name : ∀ p, (f p).name = p.name)
    (priority : ∀ p, p.priority ≤ maxPriority → (f p).priority ≤ maxPriority)
    (live : r.table.Live i) :
    ((r.modifyProcess i f).unlink i).Detached (order.without i) i ∧
      (r.modifyProcess i f).table.Rewired ((r.modifyProcess i f).unlink i).table ∧
      ((r.modifyProcess i f).unlink i).round = r.round := by
  let r₁ := r.modifyProcess i f
  have slots : r.table.SameSlots r₁.table := SameSlots.modify _
  have queued : r₁.Queued order := hs.toQueued.modifyProcess fun _ _ p _ => state p
  have sorted : ∀ k, Sorted k r₁.table (order.without i k) := by
    intro k
    refine sorted_congr ((hs.sorted k).sublist List.erase_sublist) fun j hj => ?_
    exact (process?_modifyProcess f).trans (if_neg (Ne.symm (hs.mem_without.mp hj).1))
  have complete : ∀ j k, r₁.stateAt j = some k.state → j ∈ order k := by
    intro j k atJ
    rw [stateAt_modifyProcess state] at atJ
    exact hs.complete j k atJ
  exact queued.detach ((slots.live i).mpr live) complete sorted (slots.wellformed hs.wellformed)
    (hs.roster.modifyProcess name priority)

/-- A changed process is put into its new place in its queue. -/
theorem reorder (hs : r.Sound order) {f : Process → Process} {p : Process}
    (state : ∀ p, (f p).state = p.state) (name : ∀ p, (f p).name = p.name)
    (record : ∀ p, (f p).record = p.record)
    (priority : ∀ p, p.priority ≤ maxPriority → (f p).priority ≤ maxPriority)
    (found : r.table.process? i = some p) (round : Nat) :
    ∃ order', (((r.modifyProcess i f).unlink i).link i p.state round).Sound order' ∧
      r.Steady (((r.modifyProcess i f).unlink i).link i p.state round) := by
  let r₁ := r.modifyProcess i f
  have slots : r.table.SameSlots r₁.table := SameSlots.modify _
  have view : ∀ j, r₁.table.process? j =
      if i = j then (r.table.process? j).map f else r.table.process? j := fun j =>
    process?_modifyProcess f
  obtain ⟨detached, rewired, round₁⟩ :=
    hs.unlink_changed state name priority (live_iff.mpr ⟨p, found⟩)
  obtain ⟨sound, rewired', round₂⟩ := detached.link p.state round
  have slots' : r.table.SameSlots ((r₁.unlink i).link i p.state round).table :=
    slots.trans (rewired.toSameSlots.trans ((SameSlots.modify _).trans rewired'.toSameSlots))
  have view' : ∀ j, ((r₁.unlink i).link i p.state round).table.process? j = if i = j
      then (r.table.process? j).map (entering p.state round ∘ f) else r.table.process? j := by
    intro j
    rw [rewired'.process, process?_modifyProcess, rewired.process, view]
    split
    · rw [Option.map_map]
    · rfl
  refine ⟨_, sound, Steady.of_process slots' (round₂.trans round₁) view' record ?_⟩
  intro p' found'
  obtain rfl := Option.some.inj (found.symm.trans found')
  exact Iff.rfl

/-- In a queue that is first come, first served, a priority may change. -/
theorem modifyPriority (hs : r.Sound order) {p : Process} {priority : Nat}
    (found : r.table.process? i = some p) (le : priority ≤ maxPriority)
    (notRanked : (QueueKind.ofState p.state).map (·.discipline) ≠ some .priority) :
    (r.modifyProcess i ({ · with priority })).Sound order := by
  refine hs.modifyProcess (f := ({ · with priority })) (fun _ => rfl) (fun _ => rfl)
    (fun _ _ => le) ?_
  intro k ranked
  refine sorted_congr (hs.sorted k) (fun j hj => ?_) ranked
  rw [process?_modifyProcess, if_neg]
  rintro rfl
  obtain ⟨p', found', inK⟩ := stateAt_eq_some.mp (hs.states k i hj)
  obtain rfl := Option.some.inj (found.symm.trans found')
  apply notRanked
  rw [inK, QueueKind.ofState_state, Option.map_some, ranked]

/-! ### Moves by name and by handle -/

theorem block (hs : r.Sound order) {name : String} {b : Bool}
    (done : r.block name = .ok (b, r')) : ∃ order', r'.Sound order' ∧ r.Steady r' := by
  obtain ⟨i, -, shifted⟩ := block_ok done
  have moved := hs.shift axis_block i
  rw [shifted] at moved
  exact moved

theorem unblock (hs : r.Sound order) {name : String} {b : Bool}
    (done : r.unblock name = .ok (b, r')) : ∃ order', r'.Sound order' ∧ r.Steady r' := by
  obtain ⟨i, -, shifted⟩ := unblock_ok done
  have moved := hs.shift axis_unblock i
  rw [shifted] at moved
  exact moved

theorem release (hs : r.Sound order) {id : ProcessId} {b : Bool}
    (done : r.release id = .ok (b, r')) : ∃ order', r'.Sound order' ∧ r.Steady r' := by
  obtain ⟨i, -, shifted⟩ := release_ok done
  have moved := hs.shift axis_unblock i
  rw [shifted] at moved
  exact moved

theorem suspend (hs : r.Sound order) (name : String) :
    ∃ order', (r.suspend name).2.Sound order' ∧ r.Steady (r.suspend name).2 := by
  unfold Registry.suspend
  cases r.table.position name with
  | none => exact ⟨order, hs, Steady.refl r⟩
  | some i => exact hs.shift axis_suspend i

theorem resume (hs : r.Sound order) (name : String) :
    ∃ order', (r.resume name).2.Sound order' ∧ r.Steady (r.resume name).2 := by
  unfold Registry.resume
  cases r.table.position name with
  | none => exact ⟨order, hs, Steady.refl r⟩
  | some i => exact hs.shift axis_resume i

theorem saveContext (hs : r.Sound order) {id : ProcessId} {c : Context}
    (done : r.saveContext id c = .ok r') : ∃ order', r'.Sound order' ∧ r.Steady r' := by
  obtain ⟨i, -, rfl⟩ := saveContext_ok done
  refine ⟨order, hs.modifyProcess_rank (fun _ => rfl) (fun _ => rfl) (fun _ => rfl)
    (fun _ => rfl), ?_⟩
  exact Steady.of_process (SameSlots.modify _) rfl (fun j => process?_modifyProcess _)
    (fun _ => rfl) (fun _ _ => Iff.rfl)

/-! ### Setting a priority -/

theorem setPriority (hs : r.Sound order) {name : String} {priority : Nat}
    (done : r.setPriority name priority = .ok r') :
    ∃ order', r'.Sound order' ∧ r.Steady r' := by
  obtain ⟨i, p, -, found, le, ⟨-, rfl⟩ | ⟨notRanked, rfl⟩⟩ := setPriority_ok done
  · exact hs.reorder (f := ({ · with priority })) (fun _ => rfl) (fun _ => rfl) (fun _ => rfl)
      (fun _ _ => le) found p.round
  · let f : Process → Process := ({ · with priority })
    exact ⟨order, hs.modifyPriority found le notRanked, Steady.of_process (SameSlots.modify _) rfl
      (fun j => process?_modifyProcess f) (fun _ => rfl) (fun _ _ => Iff.rfl)⟩

end Sound

end Registry

end TrapKernel
