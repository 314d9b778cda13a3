import TrapKernel.Proofs.Process.Refinement

/-!
# Operations step by step

An operation that answers a new registry cannot leave a half changed one behind when it fails. Here
the operations are written as they run: one step after the other on the registry and the memory that
there are, and what was written before a step that fails stays written. They do the same, and a
failure leaves everything as it was: whatever can go wrong is asked for before the first write.
-/

namespace TrapKernel

/-- Steps on a registry and a memory. A step that fails keeps what the steps before it have done. -/
abbrev InPlace := Steps (Registry × Memory) RegistryError

namespace InPlace

open Steps

variable {α : Type} {r : Registry} {m : Memory}

/-! ### Steps -/

/-- Look at the registry. -/
def ask (f : Registry → α) : InPlace α := return f (← get).1

/-- Look for something in the registry that may be missing. -/
def demand (f : Registry → Except RegistryError α) : InPlace α := do
  match f (← get).1 with
  | .error e => throw e
  | .ok a => return a

/-- Write the registry. -/
def write (f : Registry → Registry) : InPlace Unit := modify fun (r, m) => (f r, m)

/-- Take a record from the memory. -/
def allocate : InPlace Nat := do
  let (r, m) ← get
  match m.allocate recordSize with
  | .error cause => throw (.outOfMemory cause)
  | .ok (record, m) =>
    set (r, m)
    return record

/-- Put a process into a slot. -/
def insert (p : Process) : InPlace ProcessId := do
  let (r, m) ← get
  let (id, table) := r.table.insert p
  set ({ r with table }, m)
  return id

/-- Take a process out of its slot. -/
def remove (id : ProcessId) : InPlace Process := do
  let (r, m) ← get
  match r.table.remove id with
  | none => throw .staleHandle
  | some (p, table) =>
    set ({ r with table }, m)
    return p

/-- Give a record back to the memory. -/
def giveBack (record : Nat) : InPlace Unit := modify fun (r, m) => (r, m.release record)

/-! ### Operations -/

/-- Create a process that is ready to run. -/
def create (name : String) (owner : ProcessClass) (priority : Nat) : InPlace ProcessId := do
  if name.length < minNameLength ∨ maxNameLength < name.length then
    throw (.invalidName name)
  if maxPriority < priority then
    throw (.invalidPriority priority)
  if (← ask (·.table.position name)).isSome then
    throw (.duplicateName name)
  let record ← allocate
  let id ← insert (.create name owner priority record)
  write fun r => r.link id.index .ready r.round
  return id

/-- Move the process in a slot to the queue of a state. -/
def moveTo (i : Nat) (state : ProcessState) : InPlace Unit := do
  write (·.unlink i)
  write fun r => r.link i state r.round

/-- Create a process that is suspended. -/
def load (name : String) (owner : ProcessClass) (priority : Nat) (entry : UInt32) :
    InPlace ProcessId := do
  let id ← create name owner priority
  write (·.modifyProcess id.index (·.prepare entry))
  moveTo id.index .readySuspended
  return id

/-- Remove a process, and give back its record. -/
def destroy (id : ProcessId) : InPlace Unit := do
  let i ← demand (·.resolve id)
  write (·.unlink i)
  let p ← remove id
  giveBack p.record

/-- Remove a process that is in a queue. -/
def delete (name : String) : InPlace ProcessId := do
  let i ← demand (·.position name)
  if (← ask (·.stateAt i)) = some .running then
    throw (.running name)
  let id ← ask (·.table.idAt i)
  destroy id
  return id

/-- Move a process along one axis. -/
def shift (i : Nat) (target : ProcessState → Option ProcessState) : InPlace Bool := do
  match (← ask (·.stateAt i)).bind target with
  | none => return false
  | some state =>
    moveTo i state
    return true

/-- Block a process or unblock it, if it does not run. -/
def shiftIdle (name : String) (target : ProcessState → Option ProcessState) : InPlace Bool := do
  let i ← demand (·.position name)
  demand (·.notRunning i)
  shift i target

/-- Suspend a process or resume it, if there is one of that name. -/
def shiftNamed (name : String) (target : ProcessState → Option ProcessState) : InPlace Bool := do
  match ← ask (·.table.position name) with
  | none => return false
  | some i => shift i target

/-- Change the priority of a process. -/
def setPriority (name : String) (priority : Nat) : InPlace Unit := do
  if maxPriority < priority then
    throw (.invalidPriority priority)
  let i ← demand (·.position name)
  write (·.modifyProcess i ({ · with priority }))
  match ← ask (·.table.process? i) with
  | none => return
  | some p =>
    if (QueueKind.ofState p.state).map (·.discipline) = some .priority then
      write (·.unlink i)
      write (·.link i p.state p.round)

/-! ### What the steps do -/

@[simp] theorem after_ask (f : Registry → α) : (ask f).after (r, m) = (.ok (f r), r, m) := rfl

@[simp] theorem after_write (f : Registry → Registry) :
    (write f).after (r, m) = (.ok (), f r, m) := rfl

@[simp] theorem after_demand (f : Registry → Except RegistryError α) :
    (demand f).after (r, m) = (f r, r, m) := by
  simp only [demand, after_bind, after_get]
  cases f r <;> rfl

@[simp] theorem after_moveTo (i : Nat) (state : ProcessState) :
    (moveTo i state).after (r, m) = (.ok (), r.moveTo i state, m) := by
  simp only [moveTo, after_bind, after_write, Registry.round_unlink]
  rfl

@[simp] theorem after_allocate : allocate.after (r, m) =
    match m.allocate recordSize with
    | .error cause => (.error (.outOfMemory cause), r, m)
    | .ok (record, m') => (.ok record, r, m') := by
  simp only [allocate, after_bind, after_get]
  cases m.allocate recordSize <;> rfl

@[simp] theorem after_remove (id : ProcessId) : (remove id).after (r, m) =
    match r.table.remove id with
    | none => (.error .staleHandle, r, m)
    | some (p, table) => (.ok p, { r with table }, m) := by
  simp only [remove, after_bind, after_get]
  cases r.table.remove id <;> rfl

/-! ### They are the operations -/

theorem after_create (name : String) (owner : ProcessClass) (priority : Nat) :
    (create name owner priority).after (r, m) =
      settled (r, m) (r.create m name owner priority) := by
  unfold create Registry.create
  by_cases badName : name.length < minNameLength ∨ maxNameLength < name.length
  · simp only [if_pos badName, after_bind, after_throw]
    rfl
  by_cases badPriority : maxPriority < priority
  · simp only [if_neg badName, if_pos badPriority, after_bind, after_throw]
    rfl
  by_cases used : (r.table.position name).isSome
  · simp only [if_neg badName, if_neg badPriority, if_pos used, after_bind, after_ask, after_throw]
    rfl
  simp only [if_neg badName, if_neg badPriority, if_neg used, after_bind, after_ask, after_allocate]
  cases m.allocate recordSize <;> rfl

theorem after_load (name : String) (owner : ProcessClass) (priority : Nat) (entry : UInt32) :
    (load name owner priority entry).after (r, m) =
      settled (r, m) (r.load m name owner priority entry) := by
  simp only [load, after_bind, after_create, Registry.load]
  cases r.create m name owner priority with
  | error e => rfl
  | ok result =>
    obtain ⟨id, r', m'⟩ := result
    simp only [settled, after_write, after_moveTo]
    rfl

theorem after_shift (i : Nat) (target : ProcessState → Option ProcessState) :
    (shift i target).after (r, m) = (.ok (r.shift i target).1, (r.shift i target).2, m) := by
  simp only [shift, after_bind, after_ask, Registry.shift]
  cases (r.stateAt i).bind target with
  | none => rfl
  | some state =>
    simp only [after_bind, after_moveTo]
    rfl

theorem after_shiftIdle (name : String) (target : ProcessState → Option ProcessState) :
    (shiftIdle name target).after (r, m) = settled (r, m) ((do
      let i ← r.position name
      r.notRunning i
      return r.shift i target).map fun (b, r) => (b, (r, m))) := by
  simp only [shiftIdle, after_bind, after_demand]
  cases r.position name with
  | error e => rfl
  | ok i =>
    simp only [after_demand, ok_bind]
    cases r.notRunning i with
    | error e => rfl
    | ok idle => exact after_shift i target

theorem after_shiftNamed (name : String) (target : ProcessState → Option ProcessState) :
    (shiftNamed name target).after (r, m) =
      match r.table.position name with
      | none => (.ok false, r, m)
      | some i => (.ok (r.shift i target).1, (r.shift i target).2, m) := by
  simp only [shiftNamed, after_bind, after_ask]
  cases r.table.position name with
  | none => rfl
  | some i => exact after_shift i target

theorem after_setPriority (name : String) (priority : Nat) :
    (setPriority name priority).after (r, m) = settled (r, m)
      ((r.setPriority name priority).map fun r => ((), (r, m))) := by
  unfold setPriority Registry.setPriority
  by_cases bad : maxPriority < priority
  · simp only [if_pos bad, after_bind, after_throw]
    rfl
  simp only [if_neg bad, after_bind, after_demand]
  cases r.position name with
  | error e => rfl
  | ok i =>
    simp only [after_write, after_ask, ok_bind]
    cases (r.modifyProcess i ({ · with priority })).table.process? i with
    | none => rfl
    | some p =>
      by_cases ranked : (QueueKind.ofState p.state).map (·.discipline) = some .priority
      · simp only [if_pos ranked, after_bind, after_write]
        rfl
      · simp only [if_neg ranked]
        rfl

open ProcessTable in
/-- A process that is there is taken out, and nothing fails on the way. -/
theorem after_destroy {order : Order} (hs : r.Sound order) (id : ProcessId) :
    (destroy id).after (r, m) =
      settled (r, m) ((r.destroy m id).map fun state => ((), state)) := by
  simp only [destroy, after_bind, after_demand, Registry.destroy, Registry.resolve]
  cases resolved : r.table.resolve id with
  | none => rfl
  | some i =>
    obtain ⟨p, found⟩ := live_iff.mp (resolve_eq_some.mp resolved).2.2
    obtain ⟨detached, rewired, -⟩ := hs.unlink (live_iff.mpr ⟨p, found⟩)
    obtain ⟨t, removed, -⟩ := remove_spec detached.wellformed
      ((rewired.resolve id).trans resolved) ((rewired.process i).trans found)
    simp only [after_write, after_remove, ok_bind, removed]
    rfl

theorem after_delete {order : Order} (hs : r.Sound order) (name : String) :
    (delete name).after (r, m) = settled (r, m) (r.delete m name) := by
  simp only [delete, after_bind, after_demand, Registry.delete]
  cases r.position name with
  | error e => rfl
  | ok i =>
    simp only [after_ask, ok_bind]
    by_cases running : r.stateAt i = some .running
    · simp only [if_pos running]
      rfl
    · simp only [if_neg running, after_bind, after_ask, after_destroy hs]
      cases r.destroy m (r.table.idAt i) <;> rfl

end InPlace

end TrapKernel
