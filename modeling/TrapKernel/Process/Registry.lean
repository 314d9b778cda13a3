import TrapKernel.Memory
import TrapKernel.Process.Queue

/-!
# The process registry

All processes and the four queues in which they wait. Users name a process by its name, the kernel
by its handle. Every change of state takes the process out of the queue of its old state and puts
it into the queue of its new one.

Ready processes wait for a round. One that becomes ready joins the current round, one that gives
up the processor joins the round after the one in which it ran; within a round the higher priority
goes first. So every ready process gets one turn in each round.
-/

namespace TrapKernel

/-- What is shown of a process. -/
structure ProcessInfo where
  id : ProcessId
  name : String
  owner : ProcessClass
  state : ProcessState
  priority : Nat
  deriving DecidableEq, Repr

/-- The processes and their queues. -/
structure Registry where
  table : ProcessTable
  ready : ProcessQueue
  blocked : ProcessQueue
  suspendedReady : ProcessQueue
  suspendedBlocked : ProcessQueue
  /-- The round that is being dispatched. It moves on by at most one with each process that is
  taken: a counter of 64 bits holds it in every run that ends within centuries. -/
  round : Nat

namespace Registry

/-- There are no processes. -/
def empty : Registry where
  table := .empty
  ready := .empty .ready
  blocked := .empty .blocked
  suspendedReady := .empty .suspendedReady
  suspendedBlocked := .empty .suspendedBlocked
  round := 0

/-! ### Queues -/

/-- A queue by its kind. -/
def queue (r : Registry) : QueueKind → ProcessQueue
  | .ready => r.ready
  | .blocked => r.blocked
  | .suspendedReady => r.suspendedReady
  | .suspendedBlocked => r.suspendedBlocked

/-- Replace a queue. -/
def setQueue (r : Registry) (kind : QueueKind) (q : ProcessQueue) : Registry :=
  match kind with
  | .ready => { r with ready := q }
  | .blocked => { r with blocked := q }
  | .suspendedReady => { r with suspendedReady := q }
  | .suspendedBlocked => { r with suspendedBlocked := q }

/-- Change a queue and the table through which it is threaded. -/
def onQueue (r : Registry) (kind : QueueKind)
    (f : ProcessQueue → ProcessTable → ProcessQueue × ProcessTable) : Registry :=
  let (q, table) := f (r.queue kind) r.table
  { r.setQueue kind q with table }

/-- Change the process in a slot. -/
def modifyProcess (r : Registry) (i : Nat) (f : Process → Process) : Registry :=
  { r with table := r.table.modifyProcess i f }

/-- The state of the process in a slot. -/
def stateAt (r : Registry) (i : Nat) : Option ProcessState := (r.table.process? i).map (·.state)

/-- Take the process in a slot out of the queue of its state. -/
def unlink (r : Registry) (i : Nat) : Registry :=
  match (r.stateAt i).bind QueueKind.ofState with
  | none => r
  | some kind => r.onQueue kind (·.remove · i)

/-- Give the process in a slot, which is in no queue, a state, and put it into the queue of that
state. Only ready processes have a round. -/
def link (r : Registry) (i : Nat) (state : ProcessState) (round : Nat) : Registry :=
  let r := r.modifyProcess i fun p =>
    { p with state, round := if state = .ready then round else 0 }
  match QueueKind.ofState state with
  | none => r
  | some kind => r.onQueue kind (·.enqueue · i)

/-- Move the process in a slot to the queue of a state. -/
def moveTo (r : Registry) (i : Nat) (state : ProcessState) : Registry :=
  (r.unlink i).link i state r.round

/-- The slot of the process with this name. -/
def position (r : Registry) (name : String) : Except RegistryError Nat :=
  match r.table.position name with
  | none => .error (.notFound name)
  | some i => .ok i

/-- The slot of a handle. -/
def resolve (r : Registry) (id : ProcessId) : Except RegistryError Nat :=
  match r.table.resolve id with
  | none => .error .staleHandle
  | some i => .ok i

/-! ### Processes come and go -/

/-- Create a process that is ready to run. -/
def create (r : Registry) (m : Memory) (name : String) (owner : ProcessClass) (priority : Nat) :
    Except RegistryError (ProcessId × Registry × Memory) :=
  if name.length < minNameLength ∨ maxNameLength < name.length then .error (.invalidName name)
  else if maxPriority < priority then .error (.invalidPriority priority)
  else if (r.table.position name).isSome then .error (.duplicateName name)
  else
    match m.allocate recordSize with
    | .error cause => .error (.outOfMemory cause)
    | .ok (record, m) =>
      let (id, table) := r.table.insert (.create name owner priority record)
      .ok (id, { r with table }.link id.index .ready r.round, m)

/-- Create a process that is suspended and starts at `entry` once it is resumed. -/
def load (r : Registry) (m : Memory) (name : String) (owner : ProcessClass) (priority : Nat)
    (entry : UInt32) : Except RegistryError (ProcessId × Registry × Memory) := do
  let (id, r, m) ← r.create m name owner priority
  let r := r.modifyProcess id.index (·.prepare entry)
  return (id, r.moveTo id.index .readySuspended, m)

/-- Remove a process, running or not, and give back its record. -/
def destroy (r : Registry) (m : Memory) (id : ProcessId) :
    Except RegistryError (Registry × Memory) := do
  let i ← r.resolve id
  let r := r.unlink i
  match r.table.remove id with
  | none => throw .staleHandle
  | some (process, table) => return ({ r with table }, m.release process.record)

/-- Remove a process that is in a queue. -/
def delete (r : Registry) (m : Memory) (name : String) :
    Except RegistryError (ProcessId × Registry × Memory) := do
  let i ← r.position name
  if r.stateAt i = some .running then throw (.running name)
  else
    let id := r.table.idAt i
    let (r, m) ← r.destroy m id
    return (id, r, m)

/-! ### Changes of state -/

/-- Move a process along one axis. `target` gives the state it goes to, if it is not there
already. -/
def shift (r : Registry) (i : Nat) (target : ProcessState → Option ProcessState) :
    Bool × Registry :=
  match (r.stateAt i).bind target with
  | none => (false, r)
  | some state => (true, r.moveTo i state)

/-- The process in a slot must not be running. -/
def notRunning (r : Registry) (i : Nat) : Except RegistryError Unit :=
  match r.table.process? i with
  | none => .ok ()
  | some p => if p.state = .running then .error (.running p.name) else .ok ()

/-- The state after a process is blocked. -/
def blockTarget : ProcessState → Option ProcessState
  | .ready => some .blocked
  | .readySuspended => some .blockedSuspended
  | .blocked | .blockedSuspended | .running => none

/-- The state after a process is unblocked. -/
def unblockTarget : ProcessState → Option ProcessState
  | .blocked => some .ready
  | .blockedSuspended => some .readySuspended
  | .ready | .readySuspended | .running => none

/-- The state after a process is suspended. -/
def suspendTarget : ProcessState → Option ProcessState
  | .ready => some .readySuspended
  | .blocked => some .blockedSuspended
  | .readySuspended | .blockedSuspended | .running => none

/-- The state after a process is resumed. -/
def resumeTarget : ProcessState → Option ProcessState
  | .readySuspended => some .ready
  | .blockedSuspended => some .blocked
  | .ready | .blocked | .running => none

/-- Block the process in a slot. The answer is false if it was blocked already. -/
def blockAt (r : Registry) (i : Nat) : Except RegistryError (Bool × Registry) := do
  r.notRunning i
  return r.shift i blockTarget

/-- Unblock the process in a slot. The answer is false if it was not blocked. -/
def unblockAt (r : Registry) (i : Nat) : Except RegistryError (Bool × Registry) := do
  r.notRunning i
  return r.shift i unblockTarget

/-- Block a process. The answer is false if it was blocked already. -/
def block (r : Registry) (name : String) : Except RegistryError (Bool × Registry) := do
  r.blockAt (← r.position name)

/-- Unblock a process. The answer is false if it was not blocked. -/
def unblock (r : Registry) (name : String) : Except RegistryError (Bool × Registry) := do
  r.unblockAt (← r.position name)

/-- Unblock a process by its handle, because its request is complete. -/
def release (r : Registry) (id : ProcessId) : Except RegistryError (Bool × Registry) := do
  r.unblockAt (← r.resolve id)

/-- Suspend a process. The answer is false if it is suspended, running or unknown. -/
def suspend (r : Registry) (name : String) : Bool × Registry :=
  match r.table.position name with
  | none => (false, r)
  | some i => r.shift i suspendTarget

/-- Resume a process. The answer is false if it is not suspended. -/
def resume (r : Registry) (name : String) : Bool × Registry :=
  match r.table.position name with
  | none => (false, r)
  | some i => r.shift i resumeTarget

/-- Move the first process of a queue to a state until the queue is empty, at most `most` times.
The answer counts the moves. -/
def drain (r : Registry) (kind : QueueKind) (state : ProcessState) : (most : Nat) → Nat × Registry
  | 0 => (0, r)
  | most + 1 =>
    match (r.queue kind).head with
    | none => (0, r)
    | some i =>
      let (count, r) := (r.moveTo i state).drain kind state most
      (count + 1, r)

/-- Resume every suspended process. The answer counts them. -/
def resumeAll (r : Registry) : Nat × Registry :=
  let (fromReady, r) := r.drain .suspendedReady .ready r.table.slots.length
  let (fromBlocked, r) := r.drain .suspendedBlocked .blocked r.table.slots.length
  (fromReady + fromBlocked, r)

/-- Change the priority of a process. In a queue that is ordered by priority it is put into its
new place, in the round for which it waits. -/
def setPriority (r : Registry) (name : String) (priority : Nat) :
    Except RegistryError Registry :=
  if maxPriority < priority then .error (.invalidPriority priority)
  else do
    let i ← r.position name
    let r := r.modifyProcess i ({ · with priority })
    match r.table.process? i with
    | none => return r
    | some p =>
      if (QueueKind.ofState p.state).map (·.discipline) = some .priority then
        return (r.unlink i).link i p.state p.round
      else return r

/-! ### What the dispatcher does -/

/-- Take the first ready process and let it run. Its round becomes the current one. -/
def takeReadyHead (r : Registry) : Option (ProcessId × Registry) :=
  match r.ready.head with
  | none => none
  | some i =>
    let r := r.onQueue .ready (·.remove · i)
    let round := ((r.table.process? i).map (·.round)).getD 0
    let r := r.modifyProcess i ({ · with state := .running })
    some (r.table.idAt i, { r with round := max r.round round })

/-- Make a running process ready again, in the round after the one in which it ran. -/
def requeueYielded (r : Registry) (id : ProcessId) : Except RegistryError Registry := do
  let i ← r.resolve id
  let round := ((r.table.process? i).map (·.round)).getD 0
  return r.link i .ready (round + 1)

/-- Make a running process wait for its request. -/
def parkBlocked (r : Registry) (id : ProcessId) : Except RegistryError Registry := do
  let i ← r.resolve id
  return r.link i .blocked r.round

/-- Overwrite the saved context of a process. -/
def saveContext (r : Registry) (id : ProcessId) (c : Context) : Except RegistryError Registry := do
  let i ← r.resolve id
  return r.modifyProcess i (·.saveContext c)

/-- The saved context of a process. -/
def context (r : Registry) (id : ProcessId) : Except RegistryError Context := do
  let i ← r.resolve id
  match r.table.process? i with
  | none => throw .staleHandle
  | some p => return p.context

/-! ### Queries -/

/-- The slots of a queue, from the first to the last. -/
def members (r : Registry) (kind : QueueKind) : List Nat := (r.queue kind).members r.table

/-- The handles of all processes. -/
def ids (r : Registry) : List ProcessId := r.table.entries.map fun (i, _) => r.table.idAt i

/-- The process of a handle. -/
def get (r : Registry) (id : ProcessId) : Option Process :=
  (r.table.resolve id).bind r.table.process?

/-- The process with this name. -/
def named (r : Registry) (name : String) : Option Process :=
  (r.table.position name).bind r.table.process?

/-- The queue that holds the process with this name. -/
def find (r : Registry) (name : String) : Option QueueKind :=
  QueueKind.searchOrder.find? fun kind =>
    (r.members kind).any fun i => (r.table.process? i).any (·.name = name)

/-- The process with this name belongs to the kernel. -/
def isSystem (r : Registry) (name : String) : Option Bool := (r.named name).map (·.isSystem)

/-- What is shown of the process in a slot. -/
def info (r : Registry) (i : Nat) : Option ProcessInfo :=
  (r.table.process? i).map fun p => ⟨r.table.idAt i, p.name, p.owner, p.state, p.priority⟩

/-- What is shown of the process with this name. -/
def «show» (r : Registry) (name : String) : Option ProcessInfo :=
  (r.table.position name).bind r.info

/-- What is shown of the processes in some queues. -/
def snapshot (r : Registry) (kinds : List QueueKind) : List ProcessInfo :=
  (kinds.flatMap r.members).filterMap r.info

/-- The processes that could run, suspended ones last. -/
def showReady (r : Registry) : List ProcessInfo := r.snapshot [.ready, .suspendedReady]

/-- The processes that wait for something, suspended ones last. -/
def showBlocked (r : Registry) : List ProcessInfo := r.snapshot [.blocked, .suspendedBlocked]

/-- The slots of running processes. -/
def runningSlots (r : Registry) : List Nat :=
  (r.table.entries.filter (·.2.state = .running)).map (·.1)

/-- All processes: the running one, then the queues. -/
def showAll (r : Registry) : List ProcessInfo :=
  r.runningSlots.filterMap r.info ++ r.snapshot QueueKind.searchOrder

/-- How many processes there are. -/
def count (r : Registry) : Nat := r.table.count

/-- There are no processes. -/
def isEmpty (r : Registry) : Bool := r.count = 0

/-- Check every queue, and that each process is in exactly the queue of its state. -/
def verify (r : Registry) : Except RegistryError Unit := do
  let queues ← QueueKind.searchOrder.mapM fun kind => (r.queue kind).verify r.table
  let queued := queues.flatten.length
  let running := r.runningSlots.length
  if 1 < running then throw (.corrupt .ready "more than one running process")
  if queued + running ≠ r.table.count then
    throw (.corrupt .ready "record missing from its queue")

/-- The text that shows a registry. -/
def debug (r : Registry) : String :=
  Text.record "ProcessRegistry" [("ready", toString r.ready.count),
    ("blocked", toString r.blocked.count), ("suspended_ready", toString r.suspendedReady.count),
    ("suspended_blocked", toString r.suspendedBlocked.count), ("epoch", toString r.round)]

end Registry

end TrapKernel
