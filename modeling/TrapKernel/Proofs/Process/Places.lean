import TrapKernel.Proofs.Process.Waiting

/-!
# The places of the processes

What an operation makes of every process. Most operations only move processes between queues: they
are `Rearranged`, and a process that becomes ready on the way joins the current round. The
dispatcher gives rounds and the processor to processes, but leaves their stacks alone. A process
that comes is as it was made, and the others stay as they were.
-/

namespace TrapKernel

namespace Process

/-- What an operation on queues leaves alone. -/
def matter (p : Process) : String × Nat × List UInt8 := (p.name, p.record, p.stack)

/-- The process stayed in its place, or went from one queue to another. Who becomes ready joins the
round. -/
def Moved (round : Nat) (p p' : Process) : Prop :=
  p'.state = p.state ∧ p'.round = p.round ∨
    p.state ≠ .running ∧ p'.state ≠ .running ∧
      p'.round = if p'.state = .ready then round else 0

theorem Moved.trans {round : Nat} {p p' p'' : Process} (h : Moved round p p')
    (h' : Moved round p' p'') : Moved round p p'' := by
  rcases h with ⟨state, same⟩ | ⟨old, new, fresh⟩ <;>
    rcases h' with ⟨state', same'⟩ | ⟨old', new', fresh'⟩
  · exact Or.inl ⟨state'.trans state, same'.trans same⟩
  · exact Or.inr ⟨state ▸ old', new', fresh'⟩
  · exact Or.inr ⟨old, state' ▸ new, by rw [same', fresh, state']⟩
  · exact Or.inr ⟨old, new', fresh'⟩

end Process

namespace Registry

open ProcessTable ProcessQueue

variable {r r' r'' : Registry} {order : Order} {i j : Nat} {k : QueueKind} {id : ProcessId}
  {m m' : Memory} {state : ProcessState} {round : Nat}
  {target : ProcessState → Option ProcessState}

/-! ### The same processes -/

/-- The same processes are there, with the same names, records and stacks. -/
structure SameMatter (r r' : Registry) : Prop where
  slots : r.table.SameSlots r'.table
  matter : ∀ i, (r'.table.process? i).map (·.matter) = (r.table.process? i).map (·.matter)

namespace SameMatter

theorem refl (r : Registry) : r.SameMatter r := ⟨(Rewired.refl _).toSameSlots, fun _ => rfl⟩

theorem trans (h : r.SameMatter r') (h' : r'.SameMatter r'') : r.SameMatter r'' :=
  ⟨h.slots.trans h'.slots, fun i => (h'.matter i).trans (h.matter i)⟩

/-- One process changed, but not in what matters here. -/
theorem of_process {f : Process → Process} (slots : r.table.SameSlots r'.table)
    (process : ∀ j, r'.table.process? j =
      if i = j then (r.table.process? j).map f else r.table.process? j)
    (same : ∀ p, (f p).matter = p.matter) : r.SameMatter r' := by
  refine ⟨slots, fun j => ?_⟩
  rw [process]
  split
  · rw [Option.map_map]
    congr 1
    funext p
    exact same p
  · rfl

theorem process (h : r.SameMatter r') {p' : Process} (found : r'.table.process? i = some p') :
    ∃ p, r.table.process? i = some p ∧ p'.matter = p.matter := by
  have same := h.matter i
  rw [found] at same
  obtain ⟨p, process, eq⟩ := Option.map_eq_some_iff.mp same.symm
  exact ⟨p, process, eq.symm⟩

theorem get (h : r.SameMatter r') {p' : Process} (got : r'.get id = some p') :
    ∃ p, r.get id = some p ∧ p'.matter = p.matter := by
  obtain ⟨i, resolved, found⟩ := Option.bind_eq_some_iff.mp got
  obtain ⟨p, process, same⟩ := h.process found
  rw [h.slots.resolve] at resolved
  exact ⟨p, Option.bind_eq_some_iff.mpr ⟨i, resolved, process⟩, same⟩

end SameMatter

/-! ### Moving between queues -/

/-- Processes went from queues to queues. -/
structure Rearranged (r r' : Registry) : Prop extends SameMatter r r' where
  round : r'.round = r.round
  moved : ∀ i p p', r.table.process? i = some p → r'.table.process? i = some p' →
    p.Moved r.round p'

namespace Rearranged

theorem refl (r : Registry) : r.Rearranged r := by
  refine ⟨SameMatter.refl r, rfl, fun i p p' found found' => ?_⟩
  obtain rfl := Option.some.inj (found.symm.trans found')
  exact Or.inl ⟨rfl, rfl⟩

theorem trans (h : r.Rearranged r') (h' : r'.Rearranged r'') : r.Rearranged r'' := by
  refine ⟨h.toSameMatter.trans h'.toSameMatter, h'.round.trans h.round,
    fun i p p'' found found'' => ?_⟩
  obtain ⟨p', found', -⟩ := h'.process found''
  have after := h'.moved i p' p'' found' found''
  rw [h.round] at after
  exact (h.moved i p p' found found').trans after

/-- One process changed. -/
theorem of_process {f : Process → Process} (slots : r.table.SameSlots r'.table)
    (round : r'.round = r.round)
    (process : ∀ j, r'.table.process? j =
      if i = j then (r.table.process? j).map f else r.table.process? j)
    (same : ∀ p, (f p).matter = p.matter)
    (moved : ∀ p, r.table.process? i = some p → p.Moved r.round (f p)) : r.Rearranged r' := by
  refine ⟨SameMatter.of_process slots process same, round, fun j p p' found found' => ?_⟩
  rw [process, found] at found'
  split at found'
  · rename_i eq
    subst eq
    cases found'
    exact moved p found
  · cases found'
    exact Or.inl ⟨rfl, rfl⟩

end Rearranged

theorem process?_link (r : Registry) (i : Nat) (state : ProcessState) (round j : Nat) :
    (r.link i state round).table.process? j =
      if i = j then (r.table.process? j).map (entering state round) else r.table.process? j := by
  rw [(r.rewired_link i state round).process, process?_modifyProcess]

theorem process?_moveTo (r : Registry) (i : Nat) (state : ProcessState) (j : Nat) :
    (r.moveTo i state).table.process? j =
      if i = j then (r.table.process? j).map (entering state r.round)
      else r.table.process? j := by
  rw [moveTo, process?_link, (r.rewired_unlink i).process]

@[simp] theorem round_unlink (r : Registry) (i : Nat) : (r.unlink i).round = r.round := by
  unfold unlink
  split
  · rfl
  · exact round_onQueue ..

@[simp] theorem round_link (r : Registry) (i : Nat) (state : ProcessState) (round : Nat) :
    (r.link i state round).round = r.round := by
  unfold link
  simp only []
  split
  · rfl
  · exact round_onQueue ..

theorem round_moveTo (r : Registry) (i : Nat) (state : ProcessState) :
    (r.moveTo i state).round = r.round := by
  rw [moveTo, round_link, round_unlink]

namespace Rearranged

theorem moveTo (before : r.stateAt i = some k.state) (k' : QueueKind) :
    r.Rearranged (r.moveTo i k'.state) := by
  refine of_process (r.sameSlots_moveTo i _) (r.round_moveTo i _) (r.process?_moveTo i _)
    (fun _ => rfl) fun p found => ?_
  obtain ⟨p', found', state⟩ := stateAt_eq_some.mp before
  obtain rfl := Option.some.inj (found.symm.trans found')
  refine Or.inr ⟨?_, queueKind_state_ne_running k', rfl⟩
  rw [state]
  exact queueKind_state_ne_running k

theorem shift (axis : Sound.Axis target) (i : Nat) : r.Rearranged (r.shift i target).2 := by
  rw [Registry.shift]
  cases moved : (r.stateAt i).bind target with
  | none => exact refl r
  | some state' =>
    obtain ⟨state, before, onAxis⟩ := Option.bind_eq_some_iff.mp moved
    obtain ⟨k, k', rfl, rfl⟩ := axis.queues state state' onAxis
    exact moveTo before k'

theorem block {name : String} {b : Bool} (done : r.block name = .ok (b, r')) :
    r.Rearranged r' := by
  obtain ⟨i, -, shifted⟩ := block_ok done
  have moved : r.Rearranged (r.shift i blockTarget).2 := shift Sound.axis_block i
  rwa [shifted] at moved

theorem unblock {name : String} {b : Bool} (done : r.unblock name = .ok (b, r')) :
    r.Rearranged r' := by
  obtain ⟨i, -, shifted⟩ := unblock_ok done
  have moved : r.Rearranged (r.shift i unblockTarget).2 := shift Sound.axis_unblock i
  rwa [shifted] at moved

theorem release {b : Bool} (done : r.release id = .ok (b, r')) : r.Rearranged r' := by
  obtain ⟨i, -, shifted⟩ := release_ok done
  have moved : r.Rearranged (r.shift i unblockTarget).2 := shift Sound.axis_unblock i
  rwa [shifted] at moved

theorem suspend (r : Registry) (name : String) : r.Rearranged (r.suspend name).2 := by
  unfold Registry.suspend
  split
  · exact refl r
  · exact shift Sound.axis_suspend _

theorem resume (r : Registry) (name : String) : r.Rearranged (r.resume name).2 := by
  unfold Registry.resume
  split
  · exact refl r
  · exact shift Sound.axis_resume _

/-- Another priority may put a process into another place of its queue. -/
theorem setPriority {name : String} {priority : Nat}
    (done : r.setPriority name priority = .ok r') : r.Rearranged r' := by
  let f : Process → Process := ({ · with priority })
  obtain ⟨i, p, -, found, -, ⟨ranked, rfl⟩ | ⟨-, rfl⟩⟩ := setPriority_ok done
  · have view : ∀ j, (((r.modifyProcess i f).unlink i).link i p.state p.round).table.process? j =
        if i = j then (r.table.process? j).map (entering p.state p.round ∘ f)
        else r.table.process? j := by
      intro j
      rw [process?_link, (rewired_unlink _ i).process, Registry.modifyProcess,
        process?_modifyProcess]
      split
      · rw [Option.map_map]
      · rfl
    have changed : r.table.SameSlots (r.modifyProcess i f).table := SameSlots.modify _
    have slots : r.table.SameSlots
        (((r.modifyProcess i f).unlink i).link i p.state p.round).table :=
      changed.trans ((rewired_unlink _ i).toSameSlots.trans (sameSlots_link _ i p.state p.round))
    refine of_process slots ?_ view (fun _ => rfl) fun p' found' => ?_
    · rw [round_link, round_unlink]
      rfl
    · obtain rfl := Option.some.inj (found.symm.trans found')
      by_cases ready : p.state = .ready
      · exact Or.inl ⟨rfl, if_pos ready⟩
      · -- what is in a queue does not run
        have queued : p.state ≠ .running := by
          intro running
          rw [running] at ranked
          cases ranked
        refine Or.inr ⟨queued, queued, ?_⟩
        show (if p.state = .ready then p.round else 0) = if p.state = .ready then r.round else 0
        rw [if_neg ready, if_neg ready]
  · exact of_process (SameSlots.modify _) rfl (fun j => process?_modifyProcess f) (fun _ => rfl)
      fun p _ => Or.inl ⟨rfl, rfl⟩

end Rearranged

namespace Sound

theorem rearranged_drain (hs : r.Sound order) (k k' : QueueKind) (most : Nat) :
    r.Rearranged (r.drain k k'.state most).2 := by
  induction most generalizing r order with
  | zero => exact Rearranged.refl r
  | succ most ih =>
    rw [Registry.drain]
    cases head : (r.queue k).head with
    | none => exact Rearranged.refl r
    | some i =>
      have before := hs.stateAt_head head
      obtain ⟨order₁, sound₁, -⟩ := hs.steady_moveTo before k'
      exact (Rearranged.moveTo before k').trans (ih sound₁)

theorem rearranged_resumeAll (hs : r.Sound order) : r.Rearranged r.resumeAll.2 := by
  have first := hs.rearranged_drain .suspendedReady .ready r.table.slots.length
  obtain ⟨order', sound, -⟩ := hs.drain .suspendedReady .ready r.table.slots.length
  exact first.trans (sound.rearranged_drain .suspendedBlocked .blocked _)

end Sound

/-! ### What the dispatcher does -/

theorem sameMatter_link (r : Registry) (i : Nat) (state : ProcessState) (round : Nat) :
    r.SameMatter (r.link i state round) :=
  SameMatter.of_process (r.sameSlots_link i state round) (r.process?_link i state round)
    fun _ => rfl

theorem SameMatter.requeueYielded (done : r.requeueYielded id = .ok r') : r.SameMatter r' := by
  obtain ⟨i, -, rfl⟩ := requeueYielded_ok done
  exact r.sameMatter_link i _ _

theorem SameMatter.parkBlocked (done : r.parkBlocked id = .ok r') : r.SameMatter r' := by
  obtain ⟨i, -, rfl⟩ := parkBlocked_ok done
  exact r.sameMatter_link i _ _

/-- The process at the head of the ready queue runs, and its round becomes the current one. -/
theorem takeReadyHead_ok (taken : r.takeReadyHead = some (id, r')) :
    ∃ i, r.ready.head = some i ∧ id = r.table.idAt i ∧ r.table.SameSlots r'.table ∧
      (∀ j, r'.table.process? j = if i = j
        then (r.table.process? j).map ({ · with state := .running }) else r.table.process? j) ∧
      r'.round = max r.round (((r.table.process? i).map (·.round)).getD 0) := by
  unfold takeReadyHead at taken
  cases head : r.ready.head with
  | none =>
    rw [head] at taken
    cases taken
  | some i =>
    rw [head] at taken
    have removed : r.table.Rewired (r.onQueue .ready (·.remove · i)).table := rewired_remove _ _ i
    let f : Process → Process := ({ · with state := .running })
    have slots : r.table.SameSlots ((r.onQueue .ready (·.remove · i)).modifyProcess i f).table :=
      removed.toSameSlots.trans (SameSlots.modify _)
    cases taken
    refine ⟨i, rfl, ?_, slots, fun j => ?_, ?_⟩
    · exact slots.idAt i
    · exact (process?_modifyProcess f).trans (by rw [removed.process])
    · have round : (r.onQueue .ready (·.remove · i)).round = r.round := round_onQueue ..
      rw [← removed.process i, ← round]
      rfl

theorem SameMatter.takeReadyHead (taken : r.takeReadyHead = some (id, r')) : r.SameMatter r' := by
  obtain ⟨i, -, -, slots, process, -⟩ := takeReadyHead_ok taken
  exact of_process slots process fun _ => rfl

/-- A process that becomes ready waits for the round that it was given. -/
theorem round_entering_ready (round : Nat) (p : Process) :
    (entering .ready round p).round = round := rfl

/-! ### Processes come and go -/

/-- The process that was created is in a slot that was free; all others stayed as they were. -/
theorem create_effect (wf : r.table.Wellformed) {name : String} {owner : ProcessClass}
    {priority : Nat} (done : r.create m name owner priority = .ok (id, r', m')) :
    ∃ record, m.allocate recordSize = .ok (record, m') ∧ r.table.Joins r'.table id ∧
      r'.table.Wellformed ∧ r'.round = r.round ∧ ∀ j, r'.table.process? j = if id.index = j
        then some (entering .ready r.round (.create name owner priority record))
        else r.table.process? j := by
  obtain ⟨record, t, allocated, -, -, insertEq, rfl⟩ := create_ok done
  let p : Process := .create name owner priority record
  have joins := wf.insert_joins p
  obtain ⟨i, t', insertEq', inserted⟩ := insert_spec wf p
  obtain ⟨rfl, rfl⟩ := Prod.mk.inj (insertEq.symm.trans insertEq')
  rw [insertEq] at joins
  have slots := sameSlots_link { r with table := t } i .ready r.round
  refine ⟨record, allocated, joins.sameSlots slots, slots.wellformed inserted.wellformed,
    round_link .., fun j => ?_⟩
  rw [process?_link, show (t.idAt i).index = i from rfl, inserted.process]
  by_cases eq : i = j
  · rw [if_pos eq, if_pos eq, if_pos eq]
    rfl
  · rw [if_neg eq, if_neg eq, if_neg eq]

/-- The process that was loaded starts at `entry` once it is resumed. -/
theorem load_effect (wf : r.table.Wellformed) {name : String} {owner : ProcessClass}
    {priority : Nat} {entry : UInt32}
    (done : r.load m name owner priority entry = .ok (id, r', m')) :
    ∃ record, m.allocate recordSize = .ok (record, m') ∧ r.table.Joins r'.table id ∧
      r'.table.Wellformed ∧ r'.round = r.round ∧ ∀ j, r'.table.process? j = if id.index = j
        then some (entering .readySuspended r.round ((entering .ready r.round
          (.create name owner priority record)).prepare entry))
        else r.table.process? j := by
  obtain ⟨r₁, created, rfl⟩ := load_ok done
  obtain ⟨record, allocated, joins, wellformed, round, process⟩ := create_effect wf created
  have prepared : r₁.table.SameSlots (r₁.modifyProcess id.index (·.prepare entry)).table :=
    SameSlots.modify _
  have slots := prepared.trans (sameSlots_moveTo _ id.index .readySuspended)
  refine ⟨record, allocated, joins.sameSlots slots, slots.wellformed wellformed,
    (round_moveTo ..).trans round, fun j => ?_⟩
  rw [process?_moveTo, Registry.modifyProcess, process?_modifyProcess, process]
  by_cases eq : id.index = j
  · simp only [if_pos eq, Option.map_some]
    rw [show Registry.round _ = r.round from round]
  · simp only [if_neg eq]

theorem Sound.create_process (hs : r.Sound order) {name : String} {owner : ProcessClass}
    {priority : Nat} (done : r.create m name owner priority = .ok (id, r', m')) :
    ∃ record, r.table.Joins r'.table id ∧ r'.round = r.round ∧
      ∀ j, r'.table.process? j = if id.index = j
        then some (entering .ready r.round (.create name owner priority record))
        else r.table.process? j := by
  obtain ⟨record, -, joins, -, round, process⟩ := create_effect hs.wellformed done
  exact ⟨record, joins, round, process⟩

theorem Sound.load_process (hs : r.Sound order) {name : String} {owner : ProcessClass}
    {priority : Nat} {entry : UInt32}
    (done : r.load m name owner priority entry = .ok (id, r', m')) :
    ∃ record, r.table.Joins r'.table id ∧ r'.round = r.round ∧
      ∀ j, r'.table.process? j = if id.index = j
        then some (entering .readySuspended r.round ((entering .ready r.round
          (.create name owner priority record)).prepare entry))
        else r.table.process? j := by
  obtain ⟨record, -, joins, -, round, process⟩ := load_effect hs.wellformed done
  exact ⟨record, joins, round, process⟩

theorem destroy_process (done : r.destroy m id = .ok (r', m')) :
    r.table.Leaves r'.table id ∧ r'.round = r.round ∧
      ∀ j, r'.table.process? j = if id.index = j then none else r.table.process? j := by
  obtain ⟨leaves, -⟩ := destroy_leaves done
  obtain ⟨p, t, -, removed, rfl, -⟩ := destroy_ok done
  refine ⟨leaves, r.round_unlink _, fun j => ?_⟩
  rw [(remove_leaves removed).2, (r.rewired_unlink _).process]

theorem delete_process {name : String} (done : r.delete m name = .ok (id, r', m')) :
    r.table.Leaves r'.table id ∧ r'.round = r.round ∧
      ∀ j, r'.table.process? j = if id.index = j then none else r.table.process? j := by
  obtain ⟨i, p, -, -, -, -, destroyed⟩ := delete_ok done
  exact destroy_process destroyed

/-! ### The halves of a trap -/

/-- A process that kept the processor is put back among the ready ones, if there is one. -/
inductive Requeued (r : Registry) : Option ProcessId → Registry → Prop where
  | nobody : Requeued r none r
  | back {id : ProcessId} {r' : Registry} (done : r.requeueYielded id = .ok r') :
      Requeued r (some id) r'

/-- What the first half of a trap makes of the processes: `ran` is the process that trapped, and
`kept` is the same one if it keeps the processor. -/
inductive Entered (saved : Context) (r : Registry) :
    (ran kept : Option ProcessId) → Registry → Prop where
  | nobody : Entered saved r none none r
  | keeps {id : ProcessId} {r' : Registry} (done : r.saveContext id saved = .ok r') :
      Entered saved r (some id) (some id) r'
  | parks {id : ProcessId} {r₁ r' : Registry} (done : r.saveContext id saved = .ok r₁)
      (parked : r₁.parkBlocked id = .ok r') : Entered saved r (some id) none r'
  | ends {id : ProcessId} {m m' : Memory} {r' : Registry} (done : r.destroy m id = .ok (r', m')) :
      Entered saved r (some id) none r'

/-- What the second half of a trap makes of the processes: `next` is the process that it resumes. -/
inductive Chosen (r : Registry) (kept : Option ProcessId) :
    (next : Option ProcessId) → Registry → Prop where
  | home {r' : Registry} (requeued : r.Requeued kept r') : Chosen r kept none r'
  | next {id : ProcessId} {r₁ r' : Registry} (taken : r.takeReadyHead = some (id, r₁))
      (requeued : r₁.Requeued kept r') : Chosen r kept (some id) r'
  | alone {id : ProcessId} (same : kept = some id) (nobody : r.takeReadyHead = none) :
      Chosen r kept (some id) r

theorem Requeued.sameMatter {kept : Option ProcessId} (h : r.Requeued kept r') :
    r.SameMatter r' := by
  cases h with
  | nobody => exact SameMatter.refl r
  | back done => exact SameMatter.requeueYielded done

theorem Chosen.sameMatter {kept next : Option ProcessId}
    (h : r.Chosen kept next r') : r.SameMatter r' := by
  cases h with
  | home requeued => exact requeued.sameMatter
  | next taken requeued => exact (SameMatter.takeReadyHead taken).trans requeued.sameMatter
  | alone same nobody => exact SameMatter.refl r

end Registry

end TrapKernel
