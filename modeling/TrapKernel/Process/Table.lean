import TrapKernel.Process.Process

/-!
# The process table

The slots that hold the processes. A queue is threaded through the nodes in the slots: it knows
its first and last slot, and each node knows the next and the previous one. A slot that was freed
is used again, the last one first, under its next generation.
-/

namespace TrapKernel

/-- A process and its neighbours in its queue. -/
structure Node where
  process : Process
  next : Option Nat
  prev : Option Nat

/-- A place for a process. -/
structure Slot where
  /-- How many processes have left this slot, modulo 2 ^ 32. -/
  generation : UInt32
  node : Option Node

/-- The slots of all processes. -/
structure ProcessTable where
  slots : List Slot
  /-- The slots that are free, the one to use next first. -/
  vacant : List Nat
  /-- How many processes there are. -/
  count : Nat

namespace ProcessTable

/-- A table without slots. -/
def empty : ProcessTable := ⟨[], [], 0⟩

/-- The node in a slot. -/
def node? (t : ProcessTable) (i : Nat) : Option Node := t.slots[i]?.bind (·.node)

/-- The process in a slot. -/
def process? (t : ProcessTable) (i : Nat) : Option Process := (t.node? i).map (·.process)

/-- Change the node in a slot; a free slot stays as it is. -/
def modify (t : ProcessTable) (i : Nat) (f : Node → Node) : ProcessTable :=
  { t with slots := t.slots.modify i fun s => { s with node := s.node.map f } }

/-- Change the process in a slot. -/
def modifyProcess (t : ProcessTable) (i : Nat) (f : Process → Process) : ProcessTable :=
  t.modify i fun n => { n with process := f n.process }

/-- Change the forward link of a slot. -/
def setNext (t : ProcessTable) (i : Nat) (next : Option Nat) : ProcessTable :=
  t.modify i fun n => { n with next }

/-- Change the backward link of a slot. -/
def setPrev (t : ProcessTable) (i : Nat) (prev : Option Nat) : ProcessTable :=
  t.modify i fun n => { n with prev }

/-- The handle of the process in a slot. There are as many slots as there ever were processes at
once, each with a record in memory: an index of 32 bits names every slot while fewer than `2 ^ 32`
records fit. -/
def idAt (t : ProcessTable) (i : Nat) : ProcessId :=
  ⟨i, (t.slots[i]?.map (·.generation)).getD 0⟩

/-- The slot of a handle, if its process is alive. -/
def resolve (t : ProcessTable) (id : ProcessId) : Option Nat :=
  match t.slots[id.index]? with
  | none => none
  | some slot =>
    if slot.generation = id.generation ∧ slot.node.isSome then some id.index else none

/-- Put a process into a slot, linked to nothing. A new slot is made only when all others are taken,
so its number is how many processes are alive (see `idAt` for its width). -/
def insert (t : ProcessTable) (p : Process) : ProcessId × ProcessTable :=
  let node : Node := ⟨p, none, none⟩
  match t.vacant with
  | [] =>
    (⟨t.slots.length, 0⟩,
      { t with slots := t.slots ++ [⟨0, some node⟩], count := t.count + 1 })
  | i :: vacant =>
    (t.idAt i,
      { slots := t.slots.modify i fun s => { s with node := some node }
        vacant, count := t.count + 1 })

/-- Take a process out of its slot. -/
def remove (t : ProcessTable) (id : ProcessId) : Option (Process × ProcessTable) := do
  let i ← t.resolve id
  let process ← t.process? i
  return (process,
    { slots := t.slots.modify i fun s => ⟨s.generation + 1, none⟩
      vacant := i :: t.vacant, count := t.count - 1 })

/-- The slots that are in use, in order, with their processes. -/
def entries (t : ProcessTable) : List (Nat × Process) :=
  (List.range t.slots.length).filterMap fun i => (t.process? i).map (i, ·)

/-- The slot of the process with this name. -/
def position (t : ProcessTable) (name : String) : Option Nat :=
  (t.entries.find? (·.2.name = name)).map (·.1)

/-- The slots met from `start` along the forward links, at most `most` of them. -/
def walk (t : ProcessTable) : (most : Nat) → (start : Option Nat) → List Nat
  | _, none => []
  | 0, some _ => []
  | most + 1, some i =>
    match t.node? i with
    | none => []
    | some n => i :: t.walk most n.next

end ProcessTable

end TrapKernel
