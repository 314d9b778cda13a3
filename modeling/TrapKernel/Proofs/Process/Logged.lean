import TrapKernel.Proofs.Process.Safe

/-!
# Registry operations that are logged

Here the operations of a registry are written once more, and log on their way what they do to the
queues, what they ask of the registry itself, and what they give back to the memory. They answer
what the operations answer, whatever the registry holds.

So it can be said of everything that an operation does that it is safe, and it follows from what
`Process/Safe` says of the operation as a whole.
-/

namespace TrapKernel

/-- What an operation or a trap does on its way. -/
inductive Subcall where
  /-- The process in a slot is taken out of the queue of its state. -/
  | unlink (r : Registry) (i : Nat)
  /-- The process in a slot gets a state, and is put into the queue of that state. -/
  | link (r : Registry) (i : Nat) (state : ProcessState) (round : Nat)
  /-- The process in a slot, the first of the ready ones, is taken out of their queue. -/
  | dequeue (r : Registry) (i : Nat)
  | saveContext (r : Registry) (id : ProcessId) (c : Context)
  | context (r : Registry) (id : ProcessId)
  | parkBlocked (r : Registry) (id : ProcessId)
  | requeueYielded (r : Registry) (id : ProcessId)
  | destroy (r : Registry) (m : Memory) (id : ProcessId)
  /-- What was handed out at an address is given back. -/
  | free (m : Memory) (address : Nat)

/-- What is answered, and what was done on the way. -/
structure Logged (α : Type) where
  value : α
  log : List Subcall

namespace Logged

instance : Monad Logged where
  pure a := ⟨a, []⟩
  bind m f := ⟨(f m.value).value, m.log ++ (f m.value).log⟩

variable {α β : Type}

@[simp] theorem value_pure (a : α) : (pure a : Logged α).value = a := rfl

@[simp] theorem value_bind (m : Logged α) (f : α → Logged β) :
    (m >>= f).value = (f m.value).value := rfl

@[simp] theorem value_ite {c : Prop} [Decidable c] (m m' : Logged α) :
    (if c then m else m').value = if c then m.value else m'.value := apply_ite value c m m'

/-- Log a call that is carried out step by step. -/
def note (c : Subcall) : Logged Unit := ⟨(), [c]⟩

@[simp] theorem value_note (c : Subcall) : (note c).value = () := rfl

/-! ### Queues -/

/-- Take the process in a slot out of the queue of its state. -/
def unlink (r : Registry) (i : Nat) : Logged Registry := ⟨r.unlink i, [.unlink r i]⟩

/-- Give the process in a slot a state, and put it into the queue of that state. -/
def link (r : Registry) (i : Nat) (state : ProcessState) (round : Nat) : Logged Registry :=
  ⟨r.link i state round, [.link r i state round]⟩

/-- Take the process in a slot out of the ready queue. -/
def dequeue (r : Registry) (i : Nat) : Logged Registry :=
  ⟨r.onQueue .ready (·.remove · i), [.dequeue r i]⟩

/-- Move the process in a slot to the queue of a state. -/
def moveTo (r : Registry) (i : Nat) (state : ProcessState) : Logged Registry := do
  link (← unlink r i) i state r.round

@[simp] theorem value_unlink (r : Registry) (i : Nat) : (unlink r i).value = r.unlink i := rfl

@[simp] theorem value_link (r : Registry) (i : Nat) (state : ProcessState) (round : Nat) :
    (link r i state round).value = r.link i state round := rfl

@[simp] theorem value_dequeue (r : Registry) (i : Nat) :
    (dequeue r i).value = r.onQueue .ready (·.remove · i) := rfl

@[simp] theorem value_moveTo (r : Registry) (i : Nat) (state : ProcessState) :
    (moveTo r i state).value = r.moveTo i state := rfl

/-! ### Memory -/

/-- Give back what was handed out at an address. -/
def giveBack (m : Memory) (address : Nat) : Logged Memory :=
  ⟨m.release address, [.free m address]⟩

@[simp] theorem value_giveBack (m : Memory) (address : Nat) :
    (giveBack m address).value = m.release address := rfl

/-! ### Processes come and go -/

/-- Create a process that is ready to run. -/
def create (r : Registry) (m : Memory) (name : String) (owner : ProcessClass) (priority : Nat) :
    Logged (Except RegistryError (ProcessId × Registry × Memory)) :=
  if name.length < minNameLength ∨ maxNameLength < name.length then
    return .error (.invalidName name)
  else if maxPriority < priority then return .error (.invalidPriority priority)
  else if (r.table.position name).isSome then return .error (.duplicateName name)
  else
    match m.allocate recordSize with
    | .error cause => return .error (.outOfMemory cause)
    | .ok (record, m) => do
      let (id, table) := r.table.insert (.create name owner priority record)
      return .ok (id, ← link { r with table } id.index .ready r.round, m)

/-- Create a process that is suspended and starts at `entry` once it is resumed. -/
def load (r : Registry) (m : Memory) (name : String) (owner : ProcessClass) (priority : Nat)
    (entry : UInt32) : Logged (Except RegistryError (ProcessId × Registry × Memory)) := do
  match ← create r m name owner priority with
  | .error e => return .error e
  | .ok (id, r, m) =>
    let r := r.modifyProcess id.index (·.prepare entry)
    return .ok (id, ← moveTo r id.index .readySuspended, m)

/-- Remove a process, running or not, and give back its record. -/
def destroy (r : Registry) (m : Memory) (id : ProcessId) :
    Logged (Except RegistryError (Registry × Memory)) := do
  note (.destroy r m id)
  match r.resolve id with
  | .error e => return .error e
  | .ok i =>
    let r ← unlink r i
    match r.table.remove id with
    | none => return .error .staleHandle
    | some (process, table) => return .ok ({ r with table }, ← giveBack m process.record)

/-- Remove a process that is in a queue. -/
def delete (r : Registry) (m : Memory) (name : String) :
    Logged (Except RegistryError (ProcessId × Registry × Memory)) :=
  match r.position name with
  | .error e => return .error e
  | .ok i =>
    if r.stateAt i = some .running then return .error (.running name)
    else do
      let id := r.table.idAt i
      match ← destroy r m id with
      | .error e => return .error e
      | .ok (r, m) => return .ok (id, r, m)

@[simp] theorem value_create (r : Registry) (m : Memory) (name : String) (owner : ProcessClass)
    (priority : Nat) :
    (create r m name owner priority).value = r.create m name owner priority := by
  unfold create Registry.create
  simp only [value_ite, value_pure]
  cases m.allocate recordSize <;> rfl

@[simp] theorem value_load (r : Registry) (m : Memory) (name : String) (owner : ProcessClass)
    (priority : Nat) (entry : UInt32) :
    (load r m name owner priority entry).value = r.load m name owner priority entry := by
  simp only [load, Registry.load, value_bind, value_create]
  cases r.create m name owner priority <;> rfl

@[simp] theorem value_destroy (r : Registry) (m : Memory) (id : ProcessId) :
    (destroy r m id).value = r.destroy m id := by
  simp only [destroy, Registry.destroy, value_bind]
  cases r.resolve id with
  | error e => rfl
  | ok i =>
    simp only [value_unlink, bind, Except.bind]
    cases (r.unlink i).table.remove id <;> rfl

@[simp] theorem value_delete (r : Registry) (m : Memory) (name : String) :
    (delete r m name).value = r.delete m name := by
  unfold delete Registry.delete
  cases r.position name with
  | error e => rfl
  | ok i =>
    simp only [value_ite, value_destroy, value_pure, bind, Except.bind]
    split
    · rfl
    · cases r.destroy m (r.table.idAt i) <;> rfl

/-! ### Changes of state -/

/-- Move a process along one axis. -/
def shift (r : Registry) (i : Nat) (target : ProcessState → Option ProcessState) :
    Logged (Bool × Registry) :=
  match (r.stateAt i).bind target with
  | none => return (false, r)
  | some state => return (true, ← moveTo r i state)

/-- Move a process that does not run along one axis. -/
def shiftIdle (r : Registry) (i : Nat) (target : ProcessState → Option ProcessState) :
    Logged (Except RegistryError (Bool × Registry)) :=
  match r.notRunning i with
  | .error e => return .error e
  | .ok () => return .ok (← shift r i target)

/-- Block or unblock a process. -/
def shiftByName (r : Registry) (name : String) (target : ProcessState → Option ProcessState) :
    Logged (Except RegistryError (Bool × Registry)) :=
  match r.position name with
  | .error e => return .error e
  | .ok i => shiftIdle r i target

/-- Unblock a process by its handle. -/
def release (r : Registry) (id : ProcessId) : Logged (Except RegistryError (Bool × Registry)) :=
  match r.resolve id with
  | .error e => return .error e
  | .ok i => shiftIdle r i Registry.unblockTarget

/-- Suspend or resume a process. -/
def shiftKnown (r : Registry) (name : String) (target : ProcessState → Option ProcessState) :
    Logged (Bool × Registry) :=
  match r.table.position name with
  | none => return (false, r)
  | some i => shift r i target

/-- Move the first process of a queue to a state until the queue is empty. -/
def drain (r : Registry) (kind : QueueKind) (state : ProcessState) :
    (most : Nat) → Logged (Nat × Registry)
  | 0 => return (0, r)
  | most + 1 =>
    match (r.queue kind).head with
    | none => return (0, r)
    | some i => do
      let (count, r) ← drain (← moveTo r i state) kind state most
      return (count + 1, r)

/-- Resume every suspended process. -/
def resumeAll (r : Registry) : Logged (Nat × Registry) := do
  let (fromReady, r) ← drain r .suspendedReady .ready r.table.slots.length
  let (fromBlocked, r) ← drain r .suspendedBlocked .blocked r.table.slots.length
  return (fromReady + fromBlocked, r)

/-- Change the priority of a process. -/
def setPriority (r : Registry) (name : String) (priority : Nat) :
    Logged (Except RegistryError Registry) :=
  if maxPriority < priority then return .error (.invalidPriority priority)
  else
    match r.position name with
    | .error e => return .error e
    | .ok i =>
      let r := r.modifyProcess i ({ · with priority })
      match r.table.process? i with
      | none => return .ok r
      | some p =>
        if (QueueKind.ofState p.state).map (·.discipline) = some .priority then do
          return .ok (← link (← unlink r i) i p.state p.round)
        else return .ok r

@[simp] theorem value_shift (r : Registry) (i : Nat)
    (target : ProcessState → Option ProcessState) :
    (shift r i target).value = r.shift i target := by
  unfold shift Registry.shift
  cases (r.stateAt i).bind target <;> rfl

theorem value_shiftIdle (r : Registry) (i : Nat) (target : ProcessState → Option ProcessState) :
    (shiftIdle r i target).value = do
      r.notRunning i
      return r.shift i target := by
  unfold shiftIdle
  cases r.notRunning i with
  | error e => rfl
  | ok u => simp only [value_shift, bind, Except.bind, pure, Except.pure]

@[simp] theorem value_block (r : Registry) (name : String) :
    (shiftByName r name Registry.blockTarget).value = r.block name := by
  unfold shiftByName Registry.block
  cases r.position name with
  | error e => rfl
  | ok i => exact value_shiftIdle r i Registry.blockTarget

@[simp] theorem value_unblock (r : Registry) (name : String) :
    (shiftByName r name Registry.unblockTarget).value = r.unblock name := by
  unfold shiftByName Registry.unblock
  cases r.position name with
  | error e => rfl
  | ok i => exact value_shiftIdle r i Registry.unblockTarget

@[simp] theorem value_release (r : Registry) (id : ProcessId) :
    (release r id).value = r.release id := by
  unfold release Registry.release
  cases r.resolve id with
  | error e => rfl
  | ok i => exact value_shiftIdle r i Registry.unblockTarget

@[simp] theorem value_suspend (r : Registry) (name : String) :
    (shiftKnown r name Registry.suspendTarget).value = r.suspend name := by
  unfold shiftKnown Registry.suspend
  cases r.table.position name with
  | none => rfl
  | some i => exact value_shift r i Registry.suspendTarget

@[simp] theorem value_resume (r : Registry) (name : String) :
    (shiftKnown r name Registry.resumeTarget).value = r.resume name := by
  unfold shiftKnown Registry.resume
  cases r.table.position name with
  | none => rfl
  | some i => exact value_shift r i Registry.resumeTarget

@[simp] theorem value_drain (r : Registry) (kind : QueueKind) (state : ProcessState)
    (most : Nat) : (drain r kind state most).value = r.drain kind state most := by
  induction most generalizing r with
  | zero => rfl
  | succ most ih =>
    unfold drain Registry.drain
    cases (r.queue kind).head with
    | none => rfl
    | some i => simp only [value_bind, value_moveTo, value_pure, ih]

@[simp] theorem value_resumeAll (r : Registry) : (resumeAll r).value = r.resumeAll := by
  simp only [resumeAll, Registry.resumeAll, value_bind, value_drain, value_pure]

@[simp] theorem value_setPriority (r : Registry) (name : String) (priority : Nat) :
    (setPriority r name priority).value = r.setPriority name priority := by
  unfold setPriority Registry.setPriority
  simp only [value_ite, value_pure]
  split
  · rfl
  · cases r.position name with
    | error e => rfl
    | ok i =>
      simp only [bind, Except.bind]
      cases (r.modifyProcess i ({ · with priority })).table.process? i with
      | none => rfl
      | some p =>
        simp only []
        split <;> rfl

/-! ### What the dispatcher does -/

/-- Take the first ready process and let it run. -/
def takeReadyHead (r : Registry) : Logged (Option (ProcessId × Registry)) :=
  match r.ready.head with
  | none => return none
  | some i => do
    let r ← dequeue r i
    let round := ((r.table.process? i).map (·.round)).getD 0
    let r := r.modifyProcess i ({ · with state := .running })
    return some (r.table.idAt i, { r with round := max r.round round })

/-- Make a running process ready again. -/
def requeueYielded (r : Registry) (id : ProcessId) : Logged (Except RegistryError Registry) := do
  note (.requeueYielded r id)
  match r.resolve id with
  | .error e => return .error e
  | .ok i =>
    let round := ((r.table.process? i).map (·.round)).getD 0
    return .ok (← link r i .ready (round + 1))

/-- Make a running process wait for its request. -/
def parkBlocked (r : Registry) (id : ProcessId) : Logged (Except RegistryError Registry) := do
  note (.parkBlocked r id)
  match r.resolve id with
  | .error e => return .error e
  | .ok i => return .ok (← link r i .blocked r.round)

/-- Overwrite the saved context of a process. -/
def saveContext (r : Registry) (id : ProcessId) (c : Context) :
    Logged (Except RegistryError Registry) := ⟨r.saveContext id c, [.saveContext r id c]⟩

/-- The saved context of a process. -/
def context (r : Registry) (id : ProcessId) : Logged (Except RegistryError Context) :=
  ⟨r.context id, [.context r id]⟩

@[simp] theorem value_takeReadyHead (r : Registry) :
    (takeReadyHead r).value = r.takeReadyHead := by
  unfold takeReadyHead Registry.takeReadyHead
  cases r.ready.head <;> rfl

@[simp] theorem value_requeueYielded (r : Registry) (id : ProcessId) :
    (requeueYielded r id).value = r.requeueYielded id := by
  simp only [requeueYielded, Registry.requeueYielded, value_bind]
  cases r.resolve id <;> rfl

@[simp] theorem value_parkBlocked (r : Registry) (id : ProcessId) :
    (parkBlocked r id).value = r.parkBlocked id := by
  simp only [parkBlocked, Registry.parkBlocked, value_bind]
  cases r.resolve id <;> rfl

@[simp] theorem value_saveContext (r : Registry) (id : ProcessId) (c : Context) :
    (saveContext r id c).value = r.saveContext id c := rfl

@[simp] theorem value_context (r : Registry) (id : ProcessId) :
    (context r id).value = r.context id := rfl

/-! ### What was done on the way -/

/-- Everything that was done on the way is as `P` says. -/
def All (P : Subcall → Prop) (m : Logged α) : Prop := ∀ c ∈ m.log, P c

variable {P : Subcall → Prop} {r : Registry} {m : Memory} {i : Nat} {id : ProcessId}
  {target : ProcessState → Option ProcessState} {name : String} {priority : Nat}

@[simp] theorem all_pure (a : α) : (pure a : Logged α).All P := List.forall_mem_nil P

@[simp] theorem all_bind {x : Logged α} {f : α → Logged β} :
    (x >>= f).All P ↔ x.All P ∧ (f x.value).All P := List.forall_mem_append

@[simp] theorem all_note {c : Subcall} : (note c).All P ↔ P c := List.forall_mem_singleton

@[simp] theorem all_unlink : (unlink r i).All P ↔ P (.unlink r i) := List.forall_mem_singleton

@[simp] theorem all_link {state : ProcessState} {round : Nat} :
    (link r i state round).All P ↔ P (.link r i state round) := List.forall_mem_singleton

@[simp] theorem all_dequeue : (dequeue r i).All P ↔ P (.dequeue r i) := List.forall_mem_singleton

@[simp] theorem all_giveBack {address : Nat} :
    (giveBack m address).All P ↔ P (.free m address) := List.forall_mem_singleton

@[simp] theorem all_saveContext {c : Context} :
    (saveContext r id c).All P ↔ P (.saveContext r id c) := List.forall_mem_singleton

@[simp] theorem all_context : (context r id).All P ↔ P (.context r id) := List.forall_mem_singleton

@[simp] theorem all_moveTo {state : ProcessState} : (moveTo r i state).All P ↔
    P (.unlink r i) ∧ P (.link (r.unlink i) i state r.round) :=
  all_bind.trans (and_congr all_unlink all_link)

theorem all_shift (moves : ∀ state, (r.stateAt i).bind target = some state →
    (moveTo r i state).All P) : (shift r i target).All P := by
  unfold shift
  split
  · exact all_pure _
  · exact all_bind.mpr ⟨moves _ ‹_›, all_pure _⟩

theorem all_shiftIdle (moves : ∀ state, (r.stateAt i).bind target = some state →
    (moveTo r i state).All P) : (shiftIdle r i target).All P := by
  unfold shiftIdle
  split
  · exact all_pure _
  · exact all_bind.mpr ⟨all_shift moves, all_pure _⟩

theorem all_shiftByName (moves : ∀ i, r.table.position name = some i → ∀ state,
    (r.stateAt i).bind target = some state → (moveTo r i state).All P) :
    (shiftByName r name target).All P := by
  unfold shiftByName Registry.position
  cases found : r.table.position name with
  | none => exact all_pure _
  | some i => exact all_shiftIdle (moves i found)

theorem all_shiftKnown (moves : ∀ i, r.table.position name = some i → ∀ state,
    (r.stateAt i).bind target = some state → (moveTo r i state).All P) :
    (shiftKnown r name target).All P := by
  unfold shiftKnown
  cases found : r.table.position name with
  | none => exact all_pure _
  | some i => exact all_shift (moves i found)

theorem all_release (moves : ∀ i, r.table.resolve id = some i → ∀ state,
    (r.stateAt i).bind Registry.unblockTarget = some state → (moveTo r i state).All P) :
    (release r id).All P := by
  unfold release Registry.resolve
  cases resolved : r.table.resolve id with
  | none => exact all_pure _
  | some i => exact all_shiftIdle (moves i resolved)

theorem all_create {owner : ProcessClass} (joins : ∀ result,
    r.create m name owner priority = .ok result → ∀ record,
      let (id, table) := r.table.insert (.create name owner priority record)
      P (.link { r with table } id.index .ready r.round)) :
    (create r m name owner priority).All P := by
  unfold Registry.create at joins
  unfold create
  split
  · exact all_pure _
  split
  · exact all_pure _
  split
  · exact all_pure _
  rename_i fits admissible unused
  rw [if_neg fits, if_neg admissible, if_neg unused] at joins
  split
  · exact all_pure _
  · rename_i record m' allocated
    rw [allocated] at joins
    exact all_bind.mpr ⟨all_link.mpr (joins _ rfl record), all_pure _⟩

theorem all_load {owner : ProcessClass} {entry : UInt32}
    (created : (create r m name owner priority).All P) (moves : ∀ id r' m',
      r.create m name owner priority = .ok (id, r', m') →
        (moveTo (r'.modifyProcess id.index (·.prepare entry)) id.index .readySuspended).All P) :
    (load r m name owner priority entry).All P := by
  refine all_bind.mpr ⟨created, ?_⟩
  rw [value_create]
  split
  · exact all_pure _
  · exact all_bind.mpr ⟨moves _ _ _ ‹_›, all_pure _⟩

theorem all_destroy (called : P (.destroy r m id))
    (goes : ∀ i, r.table.resolve id = some i → P (.unlink r i))
    (frees : ∀ i process table, r.table.resolve id = some i →
      (r.unlink i).table.remove id = some (process, table) → P (.free m process.record)) :
    (destroy r m id).All P := by
  refine all_bind.mpr ⟨all_note.mpr called, ?_⟩
  unfold Registry.resolve
  cases resolved : r.table.resolve id with
  | none => exact all_pure _
  | some i =>
    refine all_bind.mpr ⟨all_unlink.mpr (goes i resolved), ?_⟩
    rw [value_unlink]
    split
    · exact all_pure _
    · rename_i process table removed
      refine all_bind.mpr ⟨all_giveBack.mpr ?_, all_pure _⟩
      exact frees i process table resolved removed

theorem all_delete (destroys : ∀ i, r.table.position name = some i →
    r.stateAt i ≠ some .running → (destroy r m (r.table.idAt i)).All P) :
    (delete r m name).All P := by
  unfold delete Registry.position
  cases found : r.table.position name with
  | none => exact all_pure _
  | some i =>
    simp only []
    split
    · exact all_pure _
    · refine all_bind.mpr ⟨destroys i found ‹_›, ?_⟩
      split <;> exact all_pure _

theorem all_setPriority (moves : ∀ i, r.table.position name = some i →
    let r' := r.modifyProcess i ({ · with priority })
    P (.unlink r' i) ∧ ∀ state round, P (.link (r'.unlink i) i state round)) :
    (setPriority r name priority).All P := by
  unfold setPriority Registry.position
  split
  · exact all_pure _
  cases found : r.table.position name with
  | none => exact all_pure _
  | some i =>
    obtain ⟨unlinked, linked⟩ := moves i found
    simp only []
    split
    · exact all_pure _
    split
    · simp only [all_bind, all_unlink, all_link, all_pure, value_unlink]
      exact ⟨unlinked, linked _ _, trivial⟩
    · exact all_pure _

theorem all_takeReadyHead (takes : ∀ i, r.ready.head = some i → P (.dequeue r i)) :
    (takeReadyHead r).All P := by
  unfold takeReadyHead
  split
  · exact all_pure _
  · exact all_bind.mpr ⟨all_dequeue.mpr (takes _ ‹_›), all_pure _⟩

theorem all_requeueYielded (called : P (.requeueYielded r id)) (joins : ∀ i,
    r.table.resolve id = some i → ∀ round, P (.link r i .ready round)) :
    (requeueYielded r id).All P := by
  refine all_bind.mpr ⟨all_note.mpr called, ?_⟩
  unfold Registry.resolve
  cases resolved : r.table.resolve id with
  | none => exact all_pure _
  | some i => exact all_bind.mpr ⟨all_link.mpr (joins i resolved _), all_pure _⟩

theorem all_parkBlocked (called : P (.parkBlocked r id)) (joins : ∀ i,
    r.table.resolve id = some i → ∀ round, P (.link r i .blocked round)) :
    (parkBlocked r id).All P := by
  refine all_bind.mpr ⟨all_note.mpr called, ?_⟩
  unfold Registry.resolve
  cases resolved : r.table.resolve id with
  | none => exact all_pure _
  | some i => exact all_bind.mpr ⟨all_link.mpr (joins i resolved _), all_pure _⟩

end Logged

/-- What is done to a queue reads and writes only slots that are in use, and shortens no queue that
is empty. -/
def Subcall.Safe : Subcall → Prop
  | .unlink r i => r.UnlinkSafe i
  | .link r i state round => r.LinkSafe i state round
  | .dequeue r i => r.ready.RemoveSafe r.table i
  | .saveContext .. | .context .. | .parkBlocked .. | .requeueYielded .. | .destroy .. | .free .. =>
    True

namespace Logged

open Registry

variable {r : Registry} {m : Memory} {i : Nat} {id : ProcessId} {name : String} {priority : Nat}
  {owner : ProcessClass} {target : ProcessState → Option ProcessState}

/-! ### What is safe as a whole is safe in every step -/

theorem safe_moveTo {state : ProcessState} (h : r.MoveSafe i state) :
    (moveTo r i state).All Subcall.Safe := all_moveTo.mpr ⟨h.unlink, h.link⟩

theorem safe_shiftByName (h : ∀ i, r.table.position name = some i → r.ShiftSafe i target) :
    (shiftByName r name target).All Subcall.Safe :=
  all_shiftByName fun i found state moved => safe_moveTo (h i found state moved)

theorem safe_shiftKnown (h : ∀ i, r.table.position name = some i → r.ShiftSafe i target) :
    (shiftKnown r name target).All Subcall.Safe :=
  all_shiftKnown fun i found state moved => safe_moveTo (h i found state moved)

theorem safe_release (h : ∀ i, r.table.resolve id = some i → r.ShiftSafe i unblockTarget) :
    (release r id).All Subcall.Safe :=
  all_release fun i resolved state moved => safe_moveTo (h i resolved state moved)

theorem safe_drain {kind : QueueKind} {state : ProcessState} {most : Nat}
    (h : r.DrainSafe kind state most) : (drain r kind state most).All Subcall.Safe := by
  induction most generalizing r with
  | zero => exact all_pure _
  | succ most ih =>
    unfold drain
    split
    · exact all_pure _
    · rename_i i head
      obtain ⟨moves, rest⟩ := h i head
      exact all_bind.mpr ⟨safe_moveTo moves, all_bind.mpr ⟨ih rest, all_pure _⟩⟩

theorem safe_resumeAll (h : r.ResumeAllSafe) : (resumeAll r).All Subcall.Safe := by
  refine all_bind.mpr ⟨safe_drain h.1, ?_⟩
  rw [value_drain]
  exact all_bind.mpr ⟨safe_drain h.2, all_pure _⟩

theorem safe_create (h : r.CreateSafe m name owner priority) :
    (create r m name owner priority).All Subcall.Safe := all_create h

theorem safe_load {entry : UInt32} (h : r.LoadSafe m name owner priority entry) :
    (load r m name owner priority entry).All Subcall.Safe :=
  all_load (safe_create h.1) fun id r' m' created => safe_moveTo (h.2 id r' m' created)

theorem safe_destroy (h : r.DestroySafe id) : (destroy r m id).All Subcall.Safe :=
  all_destroy trivial h fun _ _ _ _ _ => trivial

theorem safe_delete (h : ∀ i, r.table.position name = some i → r.DestroySafe (r.table.idAt i)) :
    (delete r m name).All Subcall.Safe := all_delete fun i found _ => safe_destroy (h i found)

theorem safe_setPriority (h : r.SetPrioritySafe name priority) :
    (setPriority r name priority).All Subcall.Safe := all_setPriority h

theorem safe_takeReadyHead (h : r.TakeSafe) : (takeReadyHead r).All Subcall.Safe :=
  all_takeReadyHead h

theorem safe_requeueYielded (h : r.ReturnSafe id .ready) :
    (requeueYielded r id).All Subcall.Safe := all_requeueYielded trivial h

theorem safe_parkBlocked (h : r.ReturnSafe id .blocked) : (parkBlocked r id).All Subcall.Safe :=
  all_parkBlocked trivial h

end Logged

end TrapKernel
