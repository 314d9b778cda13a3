import TrapKernel.Proofs.Process.Moves

/-!
# Processes come and go

Creating, loading and destroying processes keeps a registry sound. `Arrived` and `Gone` say which
process came or went, and that all others stayed as they were.
-/

namespace TrapKernel

namespace Registry

open ProcessTable ProcessQueue

variable {r r' r'' : Registry} {order : Order} {i j : Nat} {k : QueueKind} {id : ProcessId}
  {m m' : Memory}

/-- A process with this record came into slot `i`, which was free. -/
structure Arrived (r r' : Registry) (i record : Nat) : Prop where
  fresh : ¬ r.table.Live i
  generation : ∀ j, r.table.Live j → r'.table.generation? j = r.table.generation? j
  records : ∀ j, (r'.table.process? j).map (·.record) =
    if i = j then some record else (r.table.process? j).map (·.record)
  running : ∀ j, r'.stateAt j = some .running ↔ r.stateAt j = some .running

/-- The process in slot `i` went. -/
structure Gone (r r' : Registry) (i : Nat) : Prop where
  generation : ∀ j, i ≠ j → r'.table.generation? j = r.table.generation? j
  records : ∀ j, (r'.table.process? j).map (·.record) =
    if i = j then none else (r.table.process? j).map (·.record)
  running : ∀ j, r'.stateAt j = some .running ↔ i ≠ j ∧ r.stateAt j = some .running

theorem live_iff_record : r.table.Live i ↔ ((r.table.process? i).map (·.record)).isSome := by
  rw [Option.isSome_map]
  rfl

theorem Arrived.live_iff {record : Nat} (h : r.Arrived r' i record) :
    r'.table.Live j ↔ i = j ∨ r.table.Live j := by
  rw [live_iff_record, h.records, live_iff_record]
  split
  · rename_i eq
    simp [eq]
  · rename_i ne
    simp [ne]

theorem Gone.live_iff (h : r.Gone r' i) : r'.table.Live j ↔ i ≠ j ∧ r.table.Live j := by
  rw [live_iff_record, h.records, live_iff_record]
  split
  · rename_i eq
    simp [eq]
  · rename_i ne
    simp [ne]

/-- A handle that was good remains good. -/
theorem Arrived.resolve {record : Nat} (h : r.Arrived r' i record)
    (resolved : r.table.resolve id = some j) : r'.table.resolve id = some j := by
  obtain ⟨index, generation, live⟩ := resolve_eq_some.mp resolved
  refine resolve_eq_some.mpr ⟨index, ?_, h.live_iff.mpr (Or.inr live)⟩
  rw [h.generation j live]
  exact generation

theorem Gone.resolve (h : r.Gone r' i) (ne : i ≠ j) :
    r'.table.resolve id = some j ↔ r.table.resolve id = some j := by
  rw [resolve_eq_some, resolve_eq_some, h.generation j ne, h.live_iff]
  simp only [ne, ne_eq, not_false_eq_true, true_and]

theorem Arrived.steady {record : Nat} (h : r.Arrived r' i record) (h' : r'.Steady r'') :
    r.Arrived r'' i record where
  fresh := h.fresh
  generation := fun j live => (h'.slots.generation j).trans (h.generation j live)
  records := fun j => (h'.records j).trans (h.records j)
  running := fun j => (h'.running j).trans (h.running j)

/-- A process that is in no queue may go. -/
theorem Detached.remove {t : ProcessTable} (hd : r.Detached order i)
    (gone : r.table.Removed t i) : Sound { r with table := t } order := by
  have process : ∀ j, i ≠ j → t.process? j = r.table.process? j := by
    intro j ne
    rw [gone.process, if_neg ne]
  have links : ∀ j, i ≠ j → t.links j = r.table.links j := by
    intro j ne
    rw [gone.links, if_neg ne]
  have queued : Queued { r with table := t } order := by
    refine hd.toQueued.replace hd.free process links fun live => ?_
    rw [ProcessTable.Live, gone.process, if_pos rfl] at live
    cases live
  refine ⟨queued, ?_, ?_, gone.wellformed, gone.roster hd.roster⟩
  · intro j k atJ
    by_cases eq : i = j
    · subst eq
      rw [stateAt, gone.process, if_pos rfl] at atJ
      cases atJ
    · rw [stateAt_congr (r := r) (process j eq)] at atJ
      exact hd.complete j k (Ne.symm eq) atJ
  · intro k
    refine sorted_congr (hd.sorted k) fun j hj => process j ?_
    rintro rfl
    exact hd.free k hj

/-! ### Creating -/

namespace Sound

theorem insert (hs : r.Sound order) {t : ProcessTable} {p : Process}
    (inserted : r.table.Inserted t i p) (admissible : p.Admissible)
    (unused : ∀ j p', r.table.process? j = some p' → p'.name ≠ p.name) :
    Detached { r with table := t } order i := by
  have free : ∀ k, i ∉ order k := fun k hi => inserted.fresh (hs.toQueued.live hi)
  have process : ∀ j, i ≠ j → t.process? j = r.table.process? j := by
    intro j ne
    rw [inserted.process, if_neg ne]
  have links : ∀ j, i ≠ j → t.links j = r.table.links j := by
    intro j ne
    rw [inserted.links, if_neg ne]
  have queued : Queued { r with table := t } order := by
    refine hs.toQueued.replace free process links fun _ => ?_
    rw [inserted.links, if_pos rfl]
  refine ⟨queued, ?_, free, ?_, ?_, inserted.wellformed,
    inserted.roster hs.roster admissible unused⟩
  · refine live_iff.mpr ⟨p, ?_⟩
    rw [inserted.process, if_pos rfl]
  · intro j k ne state
    rw [stateAt_congr (r := r) (process j (Ne.symm ne))] at state
    exact hs.complete j k state
  · intro k
    refine sorted_congr (hs.sorted k) fun j hj => process j ?_
    rintro rfl
    exact free k hj

/-- A process that was created is in the queue of the ready ones, and its record was allocated. -/
theorem create (hs : r.Sound order) {name : String} {owner : ProcessClass} {priority : Nat}
    (done : r.create m name owner priority = .ok (id, r', m')) :
    ∃ record i, m.allocate recordSize = .ok (record, m') ∧ (∃ order', r'.Sound order') ∧
      r.Arrived r' i record ∧ r'.table.resolve id = some i ∧ r'.stateAt i = some .ready := by
  obtain ⟨record, t, allocated, admissible, unused, insertEq, rfl⟩ := create_ok done
  let p : Process := .create name owner priority record
  obtain ⟨i, t', insertEq', inserted⟩ := insert_spec hs.wellformed p
  obtain ⟨rfl, rfl⟩ := Prod.mk.inj (insertEq.symm.trans insertEq')
  have detached := hs.insert inserted admissible unused
  obtain ⟨sound, rewired, -⟩ := detached.link .ready r.round
  have slots : t.SameSlots (Registry.link { r with table := t } i .ready r.round).table :=
    (SameSlots.modify _).trans rewired.toSameSlots
  have view : ∀ j, (Registry.link { r with table := t } i .ready r.round).table.process? j =
      if i = j then some (entering .ready r.round p) else r.table.process? j := by
    intro j
    rw [rewired.process, process?_modifyProcess, inserted.process]
    by_cases eq : i = j
    · rw [if_pos eq, if_pos eq, if_pos eq]
      rfl
    · rw [if_neg eq, if_neg eq, if_neg eq]
  have live : t.Live i := detached.live
  refine ⟨record, i, allocated, ⟨_, sound⟩, ⟨inserted.fresh, ?_, ?_, ?_⟩, ?_, ?_⟩
  · intro j liveJ
    rw [show (t.idAt i).index = i from rfl, slots.generation]
    exact inserted.generation j liveJ
  · intro j
    rw [show (t.idAt i).index = i from rfl, view]
    split <;> rfl
  · intro j
    rw [show (t.idAt i).index = i from rfl, stateAt, view, stateAt]
    split
    · rename_i eq
      subst eq
      rw [Option.not_isSome_iff_eq_none.mp inserted.fresh]
      refine iff_of_false ?_ (Option.some_ne_none _).symm
      intro running
      cases Option.some.inj running
    · rfl
  · rw [show (t.idAt i).index = i from rfl, slots.resolve]
    exact resolve_idAt live
  · rw [show (t.idAt i).index = i from rfl, stateAt, view, if_pos rfl]
    rfl

/-- A process that was loaded is suspended. -/
theorem load (hs : r.Sound order) {name : String} {owner : ProcessClass} {priority : Nat}
    {entry : UInt32} (done : r.load m name owner priority entry = .ok (id, r', m')) :
    ∃ record i, m.allocate recordSize = .ok (record, m') ∧ (∃ order', r'.Sound order') ∧
      r.Arrived r' i record ∧ r'.table.resolve id = some i := by
  obtain ⟨r₁, created, rfl⟩ := load_ok done
  obtain ⟨record, i, allocated, ⟨order₁, sound₁⟩, arrived, resolved, ready⟩ := hs.create created
  have index : id.index = i := (resolve_eq_some.mp resolved).1
  rw [index]
  let f : Process → Process := (·.prepare entry)
  let r₂ := r₁.modifyProcess i f
  have sound₂ : r₂.Sound order₁ := sound₁.modifyProcess_rank (fun _ => rfl) (fun _ => rfl)
    (fun _ => rfl) (fun _ => rfl)
  have steady₂ : r₁.Steady r₂ := Steady.of_process (SameSlots.modify _) rfl
    (fun j => process?_modifyProcess f) (fun _ => rfl) (fun _ _ => Iff.rfl)
  have ready₂ : r₂.stateAt i = some QueueKind.ready.state :=
    (stateAt_modifyProcess (f := f) (fun _ => rfl) i).trans ready
  obtain ⟨order₃, sound₃, steady₃⟩ := sound₂.steady_moveTo ready₂ .suspendedReady
  have steady := steady₂.trans steady₃
  refine ⟨record, i, allocated, ⟨order₃, sound₃⟩, arrived.steady steady, ?_⟩
  exact (steady.slots.resolve id).trans resolved

/-! ### Destroying -/

/-- A process that was destroyed is gone, whatever its state was, and its record was given back. -/
theorem destroy (hs : r.Sound order) {p : Process} (resolved : r.table.resolve id = some i)
    (found : r.table.process? i = some p) (m : Memory) :
    ∃ r', r.destroy m id = .ok (r', m.release p.record) ∧ (∃ order', r'.Sound order') ∧
      r.Gone r' i := by
  obtain ⟨detached, rewired, round⟩ := hs.unlink (live_iff.mpr ⟨p, found⟩)
  obtain ⟨t, removed, gone⟩ := remove_spec detached.wellformed
    ((rewired.resolve id).trans resolved) ((rewired.process i).trans found)
  refine ⟨{ r.unlink i with table := t }, ?_, ⟨_, detached.remove gone⟩, ?_, ?_, ?_⟩
  · rw [Registry.destroy, Registry.resolve, resolved]
    simp only [bind, Except.bind, removed]
    rfl
  · intro j ne
    exact (gone.generation j ne).trans (rewired.generation j)
  · intro j
    rw [gone.process, rewired.process]
    split <;> rfl
  · intro j
    by_cases eq : i = j
    · subst eq
      rw [stateAt, gone.process, if_pos rfl]
      simp
    · have same : t.process? j = r.table.process? j := by
        rw [gone.process, if_neg eq, rewired.process]
      rw [stateAt_congr (r := r) same]
      simp [eq]

/-- Only a process that does not run can be deleted. -/
theorem delete (hs : r.Sound order) {name : String} (done : r.delete m name = .ok (id, r', m')) :
    ∃ i p, r.table.resolve id = some i ∧ r.table.process? i = some p ∧ p.state ≠ .running ∧
      m' = m.release p.record ∧ (∃ order', r'.Sound order') ∧ r.Gone r' i := by
  obtain ⟨i, p, -, found, idle, rfl, destroyed⟩ := delete_ok done
  have resolved : r.table.resolve (r.table.idAt i) = some i :=
    resolve_idAt (live_iff.mpr ⟨p, found⟩)
  obtain ⟨r₁, destroyed', sound, gone⟩ := hs.destroy resolved found m
  rw [destroyed'] at destroyed
  cases destroyed
  exact ⟨i, p, resolved, found, idle, rfl, sound, gone⟩

end Sound

end Registry

end TrapKernel
