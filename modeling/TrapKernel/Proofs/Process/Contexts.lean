import TrapKernel.Proofs.Process.Places

/-!
# Saved contexts

A context that is saved on a whole stack is read back as it was. Saving writes one stack; whatever
else is done to the processes leaves their stacks alone, and a process that comes has the context
on its stack from which it is to start.
-/

namespace TrapKernel

namespace Word

/-- The words that were written are read back, before those that follow. -/
theorem readAll_overwrite {ws : List UInt32} {bs : List UInt8} (room : 4 * ws.length ≤ bs.length) :
    readAll (overwrite ws bs) = ws ++ readAll (bs.drop (4 * ws.length)) := by
  induction ws generalizing bs with
  | nil => rfl
  | cons w ws ih =>
    match bs, room with
    | b₀ :: b₁ :: b₂ :: b₃ :: rest, room =>
      have room : 4 * ws.length ≤ rest.length := by
        simp only [List.length_cons] at room
        omega
      have tail : (b₀ :: b₁ :: b₂ :: b₃ :: rest).drop (4 * (w :: ws).length) =
          rest.drop (4 * ws.length) := by
        rw [List.length_cons, Nat.mul_succ]
        rfl
      rw [tail, List.cons_append, ← ih room, overwrite]
      exact congrArg (· :: readAll (overwrite ws rest)) (ofBytes_bytes w)

end Word

/-- Fifteen words take sixty bytes. -/
theorem Context.readFrom_writeTo (c : Context) {bytes : List UInt8}
    (room : Context.size ≤ bytes.length) : Context.readFrom (c.writeTo bytes) = c := by
  have read : Word.readAll (c.writeTo bytes) = c.words ++ _ := Word.readAll_overwrite room
  rw [readFrom, read]
  rfl

namespace Process

variable {p p' : Process} {c : Context}

/-- The process has a whole stack, with this context on it. -/
structure Holds (p : Process) (c : Context) : Prop where
  length : p.stack.length = stackSize
  context : p.context = c

theorem stack_of_matter (same : p'.matter = p.matter) : p'.stack = p.stack :=
  congrArg (·.2.2) same

theorem record_of_matter (same : p'.matter = p.matter) : p'.record = p.record :=
  congrArg (·.2.1) same

theorem name_of_matter (same : p'.matter = p.matter) : p'.name = p.name := congrArg (·.1) same

theorem Holds.of_matter (h : p.Holds c) (same : p'.matter = p.matter) : p'.Holds c := by
  have stack := stack_of_matter same
  refine ⟨stack ▸ h.length, ?_⟩
  rw [Process.context, stack]
  exact h.context

/-- The top of the stack is where the context was saved. -/
theorem holds_saveContext (whole : p.stack.length = stackSize) (c : Context) :
    (p.saveContext c).Holds c := by
  have below : (p.stack.take contextOffset).length = contextOffset := by
    rw [List.length_take, whole]
    decide
  have top : (p.stack.drop contextOffset).length = Context.size := by
    rw [List.length_drop, whole]
    decide
  refine ⟨?_, ?_⟩
  · rw [saveContext, List.length_append, below, Context.length_writeTo, top]
    decide
  · rw [saveContext, context, List.drop_left' below]
    exact c.readFrom_writeTo (Nat.le_of_eq top.symm)

/-- The context from which the process starts at `entry`. -/
def start (p : Process) (entry : UInt32) : Context := .initial entry p.stackBase p.stackTop

theorem start_of_matter (same : p'.matter = p.matter) (entry : UInt32) :
    p'.start entry = p.start entry := by
  rw [start, stackTop, stackBase, record_of_matter same]
  rfl

theorem holds_prepare (whole : p.stack.length = stackSize) (entry : UInt32) :
    (p.prepare entry).Holds ((p.prepare entry).start entry) :=
  holds_saveContext whole (p.start entry)

theorem holds_create (name : String) (owner : ProcessClass) (priority record : Nat) :
    (create name owner priority record).Holds
      ((create name owner priority record).start 0) := by
  unfold create
  exact holds_prepare (List.length_replicate ..) 0

/-- A process that enters a queue still starts where it was to start. -/
theorem Holds.entering {entry : UInt32} (h : p.Holds (p.start entry)) (state : ProcessState)
    (round : Nat) : (Registry.entering state round p).Holds
      ((Registry.entering state round p).start entry) := h.of_matter rfl

end Process

namespace Registry

open ProcessTable

variable {r r' : Registry} {order : Order} {i : Nat} {id id' : ProcessId} {m m' : Memory}
  {p q : Process}

theorem get_eq_some : r.get id = some p ↔
    ∃ i, r.table.resolve id = some i ∧ r.table.process? i = some p :=
  Option.bind_eq_some_iff

/-! ### Looking a process up -/

/-- One process was saved, and the others stayed as they were. -/
theorem get_saveContext {c : Context} (done : r.saveContext id c = .ok r')
    (got : r'.get id' = some p) :
    id' = id ∧ (∃ q, r.get id = some q ∧ p = q.saveContext c) ∨
      id' ≠ id ∧ r.get id' = some p := by
  obtain ⟨i, resolved, rfl⟩ := saveContext_ok done
  obtain ⟨j, resolved', found⟩ := get_eq_some.mp got
  have slots : r.table.SameSlots (r.modifyProcess i (·.saveContext c)).table := SameSlots.modify _
  rw [slots.resolve] at resolved'
  rw [Registry.modifyProcess, process?_modifyProcess] at found
  split at found
  · rename_i eq
    subst eq
    obtain ⟨q, process, rfl⟩ := Option.map_eq_some_iff.mp found
    exact Or.inl ⟨resolve_injective resolved' resolved, q,
      get_eq_some.mpr ⟨i, resolved, process⟩, rfl⟩
  · rename_i ne
    refine Or.inr ⟨?_, get_eq_some.mpr ⟨j, resolved', found⟩⟩
    rintro rfl
    exact ne (Option.some.inj (resolved.symm.trans resolved'))

theorem get_joins (joins : r.table.Joins r'.table id)
    (process : ∀ j, r'.table.process? j =
      if id.index = j then some q else r.table.process? j) (got : r'.get id' = some p) :
    id' = id ∧ p = q ∨ id' ≠ id ∧ r.get id' = some p := by
  obtain ⟨j, resolved, found⟩ := get_eq_some.mp got
  rw [process] at found
  split at found
  · rename_i eq
    subst eq
    exact Or.inl ⟨resolve_injective resolved joins.resolved, (Option.some.inj found).symm⟩
  · rename_i ne
    have other : id' ≠ id := by
      rintro rfl
      exact ne (resolve_eq_some.mp resolved).1
    exact Or.inr ⟨other,
      get_eq_some.mpr ⟨j, (joins.resolve resolved).resolve_left other, found⟩⟩

theorem get_leaves (leaves : r.table.Leaves r'.table id)
    (process : ∀ j, r'.table.process? j =
      if id.index = j then none else r.table.process? j) (got : r'.get id' = some p) :
    id' ≠ id ∧ r.get id' = some p := by
  obtain ⟨j, resolved, found⟩ := get_eq_some.mp got
  obtain ⟨other, resolved⟩ := leaves.resolve.mp resolved
  rw [process] at found
  split at found
  · cases found
  · exact ⟨other, get_eq_some.mpr ⟨j, resolved, found⟩⟩

/-- A process that was created starts at address zero. -/
theorem holds_created (name : String) (owner : ProcessClass) (priority record round : Nat) :
    (entering .ready round (.create name owner priority record)).Holds
      ((entering .ready round (.create name owner priority record)).start 0) :=
  (Process.holds_create name owner priority record).entering .ready round

theorem holds_loaded (name : String) (owner : ProcessClass) (priority record round : Nat)
    (entry : UInt32) :
    let q := (entering .ready round (.create name owner priority record)).prepare entry
    (entering .readySuspended round q).Holds ((entering .readySuspended round q).start entry) :=
  (Process.holds_prepare (holds_created name owner priority record round).length entry).entering
    .readySuspended round

theorem context_ok {c : Context} (done : r.context id = .ok c) :
    ∃ p, r.get id = some p ∧ p.context = c := by
  obtain ⟨i, found, rest⟩ := ok_of_bind done
  cases process : r.table.process? i with
  | none =>
    rw [process] at rest
    cases rest
  | some p =>
    rw [process] at rest
    exact ⟨p, get_eq_some.mpr ⟨i, resolve_ok found, process⟩, Except.ok.inj rest⟩

end Registry

end TrapKernel
