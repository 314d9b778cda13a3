import TrapKernel.Proofs.Process.Lifecycle

/-!
# Running processes

What the dispatcher does to a registry: it takes the first ready process and lets it run, and puts a
process that ran back into a queue. `Runs` names the processes that run by their handles. Between
two traps there is at most one; while the dispatcher changes from one to the next there are two.
-/

namespace TrapKernel

namespace Registry

open ProcessTable ProcessQueue

variable {r r' : Registry} {order : Order} {i j : Nat} {k : QueueKind} {id : ProcessId}
  {who : List ProcessId}

namespace Sound

/-- The queues and the table are all that soundness depends on. -/
theorem congr (hs : r.Sound order) (queue : ∀ k, r'.queue k = r.queue k)
    (table : r'.table = r.table) : r'.Sound order := by
  have states : ∀ i, r'.stateAt i = r.stateAt i := by
    intro i
    rw [stateAt, table, stateAt]
  refine ⟨⟨?_, ?_, ?_, ?_⟩, ?_, ?_, ?_, ?_⟩
  · intro k
    rw [queue]
    exact hs.kind k
  · intro k
    rw [queue, table]
    exact hs.threads k
  · intro k i hi
    rw [states]
    exact hs.states k i hi
  · rw [table]
    exact hs.idle
  · intro i k state
    rw [states] at state
    exact hs.complete i k state
  · rw [table]
    exact hs.sorted
  · rw [table]
    exact hs.wellformed
  · rw [table]
    exact hs.roster

end Sound

/-- A process that is in no queue may run. -/
theorem Detached.run {f : Process → Process} (hd : r.Detached order i)
    (running : ∀ p, (f p).state = .running) (name : ∀ p, (f p).name = p.name)
    (priority : ∀ p, p.priority ≤ maxPriority → (f p).priority ≤ maxPriority) :
    (r.modifyProcess i f).Sound order := by
  have changed := hd.modifyProcess name priority
  refine ⟨changed.toQueued, ?_, changed.sorted, changed.wellformed, changed.roster⟩
  intro j k state
  by_cases eq : j = i
  · subst eq
    obtain ⟨p, found, inK⟩ := stateAt_eq_some.mp state
    rw [Registry.modifyProcess, process?_modifyProcess, if_pos rfl] at found
    obtain ⟨p', -, rfl⟩ := Option.map_eq_some_iff.mp found
    rw [running] at inK
    exact absurd inK.symm (queueKind_state_ne_running k)
  · exact changed.complete j k eq state

theorem unlink_eq (state : r.stateAt i = some k.state) :
    r.unlink i = r.onQueue k (·.remove · i) := by
  rw [unlink, state, Option.bind_some, QueueKind.ofState_state]

namespace Sound

/-- The first ready process is taken, and its round becomes the current one. -/
theorem takeReadyHead (hs : r.Sound order) {rest : List Nat} (ready : order .ready = i :: rest) :
    ∃ r' p, r.takeReadyHead = some (r.table.idAt i, r') ∧ r.table.process? i = some p ∧
      r'.Sound (order.without i) ∧ r.SameRecords r' ∧
      (∀ j, r'.stateAt j = some .running ↔ i = j ∨ r.stateAt j = some .running) ∧
      r'.round = max r.round p.round := by
  have inReady : i ∈ order .ready := by
    rw [ready]
    exact List.mem_cons_self
  have state := hs.states .ready i inReady
  obtain ⟨p, found, -⟩ := stateAt_eq_some.mp state
  obtain ⟨detached, rewired, round⟩ := hs.unlink (live_iff.mpr ⟨p, found⟩)
  rw [unlink_eq state] at detached rewired round
  let f : Process → Process := ({ · with state := .running })
  let r₁ := r.onQueue .ready (·.remove · i)
  let r₂ := r₁.modifyProcess i f
  have found₁ : r₁.table.process? i = some p := (rewired.process i).trans found
  have sound₂ : r₂.Sound (order.without i) :=
    detached.run (f := f) (fun _ => rfl) (fun _ => rfl) (fun _ le => le)
  have slots : r.table.SameSlots r₂.table := rewired.toSameSlots.trans (SameSlots.modify _)
  have view : ∀ j, r₂.table.process? j =
      if i = j then (r.table.process? j).map f else r.table.process? j := by
    intro j
    rw [← rewired.process j]
    exact process?_modifyProcess f
  refine ⟨{ r₂ with round := max r₁.round p.round }, p, ?_, found,
    sound₂.congr (fun k => ?_) rfl,
    SameRecords.of_process slots view (fun _ => rfl), ?_, ?_⟩
  · have head : r.ready.head = some i := by
      rw [show r.ready.head = (order .ready).head? from (hs.threads .ready).head, ready]
      rfl
    rw [Registry.takeReadyHead, head]
    simp only []
    rw [show (r.onQueue .ready (·.remove · i)).table.process? i = some p from found₁,
      ← slots.idAt i]
    rfl
  · cases k <;> rfl
  · intro j
    have stateJ : Registry.stateAt { r₂ with round := max r₁.round p.round } j =
        if i = j then some .running else r.stateAt j := by
      rw [stateAt, view, stateAt]
      split
      · rename_i eq
        rw [← eq, found]
        rfl
      · rfl
    rw [stateJ]
    split
    · rename_i eq
      simp [eq]
    · rename_i ne
      simp [ne]
  · exact congrArg (max · p.round) round

theorem takeReadyHead_none (hs : r.Sound order) (ready : order .ready = []) :
    r.takeReadyHead = none := by
  have head : r.ready.head = none := by
    rw [show r.ready.head = (order .ready).head? from (hs.threads .ready).head, ready]
    rfl
  rw [Registry.takeReadyHead, head]

/-- A process that ran goes into a queue. -/
theorem settle (hs : r.Sound order) (running : r.stateAt i = some .running) (k : QueueKind)
    (round : Nat) :
    (r.link i k.state round).Sound
        (order.including (r.table.modifyProcess i (entering k.state round)) i k.state) ∧
      r.SameRecords (r.link i k.state round) ∧
      (∀ j, (r.link i k.state round).stateAt j = some .running ↔
        i ≠ j ∧ r.stateAt j = some .running) ∧ (r.link i k.state round).round = r.round := by
  obtain ⟨sound, rewired, sameRound⟩ := (hs.detached running).link k.state round
  have slots : r.table.SameSlots (r.link i k.state round).table :=
    (SameSlots.modify _).trans rewired.toSameSlots
  have view : ∀ j, (r.link i k.state round).table.process? j = if i = j
      then (r.table.process? j).map (entering k.state round) else r.table.process? j := by
    intro j
    rw [rewired.process, process?_modifyProcess]
  refine ⟨sound, SameRecords.of_process slots view (fun _ => rfl), fun j => ?_, sameRound⟩
  rw [stateAt, view, stateAt]
  by_cases eq : i = j
  · rw [if_pos eq, Option.map_map]
    refine iff_of_false ?_ fun both => both.1 eq
    intro mapped
    obtain ⟨p, -, state⟩ := Option.map_eq_some_iff.mp mapped
    exact queueKind_state_ne_running k state
  · simp [eq]

end Sound

/-! ### Who runs -/

/-- The registry is sound, and the processes of `who` are the ones that run. -/
structure Runs (r : Registry) (who : List ProcessId) : Prop where
  sound : ∃ order, r.Sound order
  nodup : who.Nodup
  resolves : ∀ id ∈ who, ∃ i, r.table.resolve id = some i
  running : ∀ i, r.stateAt i = some .running ↔ ∃ id ∈ who, r.table.resolve id = some i

namespace Runs

theorem stateAt (hr : r.Runs who) (member : id ∈ who) (resolved : r.table.resolve id = some i) :
    r.stateAt i = some .running := (hr.running i).mpr ⟨id, member, resolved⟩

theorem steady (hr : r.Runs who) (sound : ∃ order, r'.Sound order) (steady : r.Steady r') :
    r'.Runs who := by
  refine ⟨sound, hr.nodup, ?_, ?_⟩
  · intro id member
    rw [steady.slots.resolve]
    exact hr.resolves id member
  · intro i
    rw [steady.running, hr.running]
    simp only [steady.slots.resolve]

/-- What keeps every sound registry sound and steady keeps the processes that run. -/
theorem steadily (hr : r.Runs who)
    (keeps : ∀ order, r.Sound order → ∃ order', r'.Sound order' ∧ r.Steady r') : r'.Runs who := by
  obtain ⟨order, sound⟩ := hr.sound
  obtain ⟨order', sound', steady⟩ := keeps order sound
  exact hr.steady ⟨order', sound'⟩ steady

theorem arrived {record : Nat} (hr : r.Runs who) (sound : ∃ order, r'.Sound order)
    (arrived : r.Arrived r' i record) : r'.Runs who := by
  refine ⟨sound, hr.nodup, ?_, ?_⟩
  · intro id member
    obtain ⟨j, resolved⟩ := hr.resolves id member
    exact ⟨j, arrived.resolve resolved⟩
  · intro j
    rw [arrived.running, hr.running]
    constructor
    · rintro ⟨id, member, resolved⟩
      exact ⟨id, member, arrived.resolve resolved⟩
    · rintro ⟨id, member, resolved⟩
      obtain ⟨j', resolved'⟩ := hr.resolves id member
      obtain rfl := Option.some.inj (resolved.symm.trans (arrived.resolve resolved'))
      exact ⟨id, member, resolved'⟩

/-- One of the processes ceases to run, for whatever reason. -/
theorem stop (hr : r.Runs who) (sound : ∃ order, r'.Sound order)
    (resolved : r.table.resolve id = some i)
    (others : ∀ id' j, i ≠ j → (r'.table.resolve id' = some j ↔ r.table.resolve id' = some j))
    (running : ∀ j, r'.stateAt j = some .running ↔ i ≠ j ∧ r.stateAt j = some .running) :
    r'.Runs (who.erase id) := by
  -- handles of two running processes are handles of two slots
  have apart : ∀ id' j, id' ≠ id → r.table.resolve id' = some j → i ≠ j := by
    rintro id' j ne resolved' rfl
    exact ne (resolve_injective resolved' resolved)
  refine ⟨sound, hr.nodup.erase id, ?_, ?_⟩
  · intro id' member
    obtain ⟨ne, member⟩ := hr.nodup.mem_erase_iff.mp member
    obtain ⟨j, resolved'⟩ := hr.resolves id' member
    exact ⟨j, (others id' j (apart id' j ne resolved')).mpr resolved'⟩
  · intro j
    rw [running, hr.running]
    constructor
    · rintro ⟨ne, id', member, resolved'⟩
      refine ⟨id', hr.nodup.mem_erase_iff.mpr ⟨?_, member⟩, (others id' j ne).mpr resolved'⟩
      rintro rfl
      exact ne (Option.some.inj (resolved.symm.trans resolved'))
    · rintro ⟨id', member, resolved'⟩
      obtain ⟨ne, member⟩ := hr.nodup.mem_erase_iff.mp member
      obtain ⟨j', before⟩ := hr.resolves id' member
      have apart := apart id' j' ne before
      have after := (others id' j' apart).mpr before
      obtain rfl := Option.some.inj (after.symm.trans resolved')
      exact ⟨apart, id', member, before⟩

theorem gone (hr : r.Runs who) (sound : ∃ order, r'.Sound order)
    (resolved : r.table.resolve id = some i) (gone : r.Gone r' i) : r'.Runs (who.erase id) :=
  hr.stop sound resolved (fun _ _ ne => gone.resolve ne) gone.running

/-- The first ready process begins to run. -/
theorem takeReadyHead (hr : r.Runs who) {next : ProcessId}
    (taken : r.takeReadyHead = some (next, r')) :
    r'.Runs (next :: who) ∧ next ∉ who ∧ r.SameRecords r' := by
  obtain ⟨order, hs⟩ := hr.sound
  cases ready : order .ready with
  | nil =>
    rw [hs.takeReadyHead_none ready] at taken
    cases taken
  | cons i rest =>
    obtain ⟨r₁, p, taken', found, sound, same, running, -⟩ := hs.takeReadyHead ready
    rw [taken'] at taken
    cases taken
    have resolved : r.table.resolve (r.table.idAt i) = some i :=
      resolve_idAt (live_iff.mpr ⟨p, found⟩)
    have fresh : r.table.idAt i ∉ who := by
      intro member
      have state := hs.states .ready i (by simp [ready])
      rw [hr.stateAt member resolved] at state
      cases state
    refine ⟨⟨⟨_, sound⟩, List.nodup_cons.mpr ⟨fresh, hr.nodup⟩, ?_, ?_⟩, fresh, same⟩
    · intro id member
      rw [same.slots.resolve]
      rcases List.mem_cons.mp member with rfl | member
      · exact ⟨i, resolved⟩
      · exact hr.resolves id member
    · intro j
      rw [running, hr.running]
      simp only [same.slots.resolve, List.mem_cons, exists_eq_or_imp, resolved, Option.some.injEq]

/-- A process ceases to run and goes into a queue. -/
theorem settle (hr : r.Runs who) (member : id ∈ who) (resolved : r.table.resolve id = some i)
    (k : QueueKind) (round : Nat) :
    (r.link i k.state round).Runs (who.erase id) ∧ r.SameRecords (r.link i k.state round) := by
  obtain ⟨order, hs⟩ := hr.sound
  obtain ⟨sound, same, running, -⟩ := hs.settle (hr.stateAt member resolved) k round
  refine ⟨hr.stop ⟨_, sound⟩ resolved (fun id' j _ => ?_) running, same⟩
  rw [same.slots.resolve]

theorem requeueYielded (hr : r.Runs who) (member : id ∈ who) :
    ∃ r', r.requeueYielded id = .ok r' ∧ r'.Runs (who.erase id) ∧ r.SameRecords r' := by
  obtain ⟨i, resolved⟩ := hr.resolves id member
  obtain ⟨runs, same⟩ := hr.settle member resolved .ready
    (((r.table.process? i).map (·.round)).getD 0 + 1)
  refine ⟨_, ?_, runs, same⟩
  rw [Registry.requeueYielded, Registry.resolve, resolved]
  rfl

theorem parkBlocked (hr : r.Runs who) (member : id ∈ who) :
    ∃ r', r.parkBlocked id = .ok r' ∧ r'.Runs (who.erase id) ∧ r.SameRecords r' := by
  obtain ⟨i, resolved⟩ := hr.resolves id member
  obtain ⟨runs, same⟩ := hr.settle member resolved .blocked r.round
  refine ⟨_, ?_, runs, same⟩
  rw [Registry.parkBlocked, Registry.resolve, resolved]
  rfl

theorem saveContext (hr : r.Runs who) (member : id ∈ who) (c : Context) :
    ∃ r', r.saveContext id c = .ok r' ∧ r'.Runs who := by
  obtain ⟨i, resolved⟩ := hr.resolves id member
  have saved : r.saveContext id c = .ok (r.modifyProcess i (·.saveContext c)) := by
    rw [Registry.saveContext, Registry.resolve, resolved]
    rfl
  exact ⟨_, saved, hr.steadily fun order hs => hs.saveContext saved⟩

theorem destroy (hr : r.Runs who) (member : id ∈ who) (m : Memory) :
    ∃ r' m', r.destroy m id = .ok (r', m') ∧ r'.Runs (who.erase id) := by
  obtain ⟨order, hs⟩ := hr.sound
  obtain ⟨i, resolved⟩ := hr.resolves id member
  obtain ⟨p, found⟩ := live_iff.mp (resolve_eq_some.mp resolved).2.2
  obtain ⟨r', destroyed, sound, gone⟩ := hs.destroy resolved found m
  exact ⟨r', _, destroyed, hr.gone sound resolved gone⟩

/-! ### Between traps -/

theorem create (hr : r.Runs who) {m m' : Memory} {name : String} {owner : ProcessClass}
    {priority : Nat} (done : r.create m name owner priority = .ok (id, r', m')) :
    ∃ record i, m.allocate recordSize = .ok (record, m') ∧ r'.Runs who ∧ r.Arrived r' i record := by
  obtain ⟨order, hs⟩ := hr.sound
  obtain ⟨record, i, allocated, sound, arrived, -, -⟩ := hs.create done
  exact ⟨record, i, allocated, hr.arrived sound arrived, arrived⟩

theorem load (hr : r.Runs who) {m m' : Memory} {name : String} {owner : ProcessClass}
    {priority : Nat} {entry : UInt32}
    (done : r.load m name owner priority entry = .ok (id, r', m')) :
    ∃ record i, m.allocate recordSize = .ok (record, m') ∧ r'.Runs who ∧ r.Arrived r' i record := by
  obtain ⟨order, hs⟩ := hr.sound
  obtain ⟨record, i, allocated, sound, arrived, -⟩ := hs.load done
  exact ⟨record, i, allocated, hr.arrived sound arrived, arrived⟩

/-- A process that runs is not deleted. -/
theorem delete (hr : r.Runs who) {m m' : Memory} {name : String}
    (done : r.delete m name = .ok (id, r', m')) :
    ∃ i p, r.table.resolve id = some i ∧ r.table.process? i = some p ∧
      m' = m.release p.record ∧ r'.Runs who ∧ r.Gone r' i := by
  obtain ⟨order, hs⟩ := hr.sound
  obtain ⟨i, p, resolved, found, idle, released, sound, gone⟩ := hs.delete done
  have notRuns : id ∉ who := by
    intro member
    obtain ⟨p', found', state⟩ := stateAt_eq_some.mp (hr.stateAt member resolved)
    obtain rfl := Option.some.inj (found.symm.trans found')
    exact idle state
  have runs := hr.gone sound resolved gone
  rw [List.erase_of_not_mem notRuns] at runs
  exact ⟨i, p, resolved, found, released, runs, gone⟩

theorem context (hr : r.Runs who) (member : id ∈ who) : ∃ c, r.context id = .ok c := by
  obtain ⟨i, resolved⟩ := hr.resolves id member
  obtain ⟨p, found⟩ := live_iff.mp (resolve_eq_some.mp resolved).2.2
  refine ⟨p.context, ?_⟩
  rw [Registry.context, Registry.resolve, resolved]
  simp only [bind, Except.bind, found]
  rfl

end Runs

end Registry

end TrapKernel
