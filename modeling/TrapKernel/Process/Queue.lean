import TrapKernel.Process.Error
import TrapKernel.Process.Table

/-!
# Process queues

A queue is a doubly linked list through the process table. Two queues are ordered by priority:
a process is put before the first one that it must run before, so equals keep their order of
arrival. The other two are first come, first served. `members` lists a queue from its first to
its last slot.
-/

namespace TrapKernel

/-- How a queue is ordered. -/
inductive Discipline where
  | priority
  | fifo
  deriving DecidableEq, Repr

/-- The name of a discipline. -/
def Discipline.name : Discipline → String
  | priority => "Priority"
  | fifo => "Fifo"

namespace QueueKind

/-- The queues in the order in which they are searched. -/
def searchOrder : List QueueKind := [ready, blocked, suspendedReady, suspendedBlocked]

/-- How a queue is ordered. -/
def discipline : QueueKind → Discipline
  | ready | suspendedReady => .priority
  | blocked | suspendedBlocked => .fifo

/-- The state of the processes in a queue. -/
def state : QueueKind → ProcessState
  | ready => .ready
  | blocked => .blocked
  | suspendedReady => .readySuspended
  | suspendedBlocked => .blockedSuspended

/-- The queue of the processes in a state. A running process is in none. -/
def ofState : ProcessState → Option QueueKind
  | .ready => some ready
  | .running => none
  | .blocked => some blocked
  | .readySuspended => some suspendedReady
  | .blockedSuspended => some suspendedBlocked

theorem ofState_state (k : QueueKind) : ofState k.state = some k := by
  cases k <;> rfl

end QueueKind

/-- The ends of a queue and the number of its members. -/
structure ProcessQueue where
  kind : QueueKind
  head : Option Nat
  tail : Option Nat
  count : Nat
  deriving DecidableEq, Repr

namespace ProcessQueue

/-- A queue without members. -/
def empty (kind : QueueKind) : ProcessQueue := ⟨kind, none, none, 0⟩

/-- The queue has no members. -/
def isEmpty (q : ProcessQueue) : Bool := q.count = 0

/-- The slots of a queue, from the first to the last. -/
def members (q : ProcessQueue) (t : ProcessTable) : List Nat := t.walk t.slots.length q.head

/-- The process in slot `i` must run before the one in slot `j`. -/
def outranks (t : ProcessTable) (i j : Nat) : Bool :=
  match t.process? i, t.process? j with
  | some p, some q => p.RunsBefore q
  | _, _ => false

/-- Thread slot `i` into the queue before `successor`, or at the end. -/
def linkBefore (q : ProcessQueue) (t : ProcessTable) (i : Nat) (successor : Option Nat) :
    ProcessQueue × ProcessTable :=
  let prev :=
    match successor with
    | none => q.tail
    | some n => (t.node? n).bind (·.prev)
  let t := (t.setNext i successor).setPrev i prev
  let (q, t) : ProcessQueue × ProcessTable :=
    match prev with
    | none => ({ q with head := some i }, t)
    | some p => (q, t.setNext p (some i))
  let (q, t) : ProcessQueue × ProcessTable :=
    match successor with
    | none => ({ q with tail := some i }, t)
    | some n => (q, t.setPrev n (some i))
  ({ q with count := q.count + 1 }, t)

/-- Put slot `i` where the order of the queue wants it. -/
def enqueue (q : ProcessQueue) (t : ProcessTable) (i : Nat) : ProcessQueue × ProcessTable :=
  match q.kind.discipline with
  | .fifo => q.linkBefore t i none
  | .priority => q.linkBefore t i ((q.members t).find? (outranks t i))

/-- Take slot `i` out of the queue. -/
def remove (q : ProcessQueue) (t : ProcessTable) (i : Nat) : ProcessQueue × ProcessTable :=
  let next := (t.node? i).bind (·.next)
  let prev := (t.node? i).bind (·.prev)
  let (q, t) : ProcessQueue × ProcessTable :=
    match prev with
    | none => ({ q with head := next }, t)
    | some p => (q, t.setNext p next)
  let (q, t) : ProcessQueue × ProcessTable :=
    match next with
    | none => ({ q with tail := prev }, t)
    | some n => (q, t.setPrev n prev)
  ({ q with count := q.count - 1 }, (t.setNext i none).setPrev i none)

/-! ### Verification -/

/-- The slots met along the forward links from `cursor` on, `prev` being the slot before it and
`met` their number so far: each must name its predecessor, be in the state of the queue, and not
run before its predecessor. -/
def forward (q : ProcessQueue) (t : ProcessTable) : (most : Nat) → (met : Nat) →
    (prev cursor : Option Nat) → Except RegistryError (List Nat)
  | _, _, _, none => .ok []
  | most, met, prev, some i =>
    if q.count < met then .error (.corrupt q.kind "forward walk exceeds count")
    else
      match t.node? i with
      | none => .error (.corrupt q.kind "link to vacant slot")
      | some n =>
        if n.prev ≠ prev then .error (.corrupt q.kind "back link mismatch")
        else if n.process.state ≠ q.kind.state then
          .error (.corrupt q.kind "member state does not match queue")
        else if q.kind.discipline = .priority ∧ prev.any (outranks t i) then
          .error (.corrupt q.kind "priority order violated")
        else
          match most with
          | 0 => .error (.corrupt q.kind "forward walk exceeds count")
          | most + 1 => do
            let rest ← forward q t most (met + 1) (some i) n.next
            return i :: rest

/-- The slots met along the backward links from `cursor` on. -/
def backward (q : ProcessQueue) (t : ProcessTable) : (most : Nat) → (cursor : Option Nat) →
    Except RegistryError (List Nat)
  | _, none => .ok []
  | 0, some _ => .error (.corrupt q.kind "backward walk exceeds count")
  | most + 1, some i => do
    let rest ← backward q t most ((t.node? i).bind (·.prev))
    return i :: rest

/-- Walk the queue both ways, checking its links, its count, its order and the states of its
members. The answer lists the members. -/
def verify (q : ProcessQueue) (t : ProcessTable) : Except RegistryError (List Nat) := do
  let met ← q.forward t (q.count + 1) 0 none q.head
  if met.length ≠ q.count then
    throw (.corrupt q.kind "count does not match members")
  if q.tail ≠ met.getLast? then
    throw (.corrupt q.kind "tail does not match last member")
  let back ← q.backward t (q.count + 1) q.tail
  if back.reverse ≠ met then
    throw (.corrupt q.kind "forward and backward walks disagree")
  return met

end ProcessQueue

end TrapKernel
