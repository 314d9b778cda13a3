import TrapKernel.Process.Context
import TrapKernel.Process.State
import TrapKernel.Text.Hex
import TrapKernel.Text.Quoted
import TrapKernel.Text.Record

/-!
# Processes

What the kernel keeps of one process. Its record is a block of memory that begins with the stack
of the process; the saved context lies at the top of the stack.
-/

namespace TrapKernel

/-- Bytes of stack of a process. -/
def stackSize : Nat := 1024

/-- Bytes of memory that a process takes: its stack and the rest of its record. -/
def recordSize : Nat := stackSize + 64

/-- The least and the greatest number of characters of a name. -/
def minNameLength : Nat := 3
def maxNameLength : Nat := 20

/-- The priority that goes first. -/
def maxPriority : Nat := 9

/-- A process. -/
structure Process where
  name : String
  owner : ProcessClass
  /-- From 0 to 9; the higher goes first. -/
  priority : Nat
  state : ProcessState
  /-- The bytes of its stack. -/
  stack : List UInt8
  /-- The address of its record. -/
  record : Nat
  /-- The round for which it waits, while it is ready. It is at most one more than the round that is
  being dispatched, so sixty-four bits hold it (see `Registry.round`). -/
  round : Nat

namespace Process

/-- Where in the stack the saved context lies. -/
def contextOffset : Nat := stackSize - Context.size

/-- The address of the stack. Addresses have 32 bits, so a higher record is cut. -/
def stackBase (p : Process) : UInt32 := .ofNat p.record

/-- The address of the saved context. The sum wraps around where the stack passes the last address
of 32 bits; a build with overflow checks stops there instead. -/
def stackTop (p : Process) : UInt32 := p.stackBase + .ofNat contextOffset

/-- Overwrite the saved context. -/
def saveContext (p : Process) (c : Context) : Process :=
  { p with stack := p.stack.take contextOffset ++ c.writeTo (p.stack.drop contextOffset) }

/-- The saved context. -/
def context (p : Process) : Context := .readFrom (p.stack.drop contextOffset)

/-- Lay down the context from which the process starts at `entry`. -/
def prepare (p : Process) (entry : UInt32) : Process :=
  p.saveContext (.initial entry p.stackBase p.stackTop)

/-- A process that is ready to start at address zero. -/
def create (name : String) (owner : ProcessClass) (priority record : Nat) : Process :=
  prepare ⟨name, owner, priority, .ready, List.replicate stackSize 0, record, 0⟩ 0

/-- The process belongs to the kernel. -/
def isSystem (p : Process) : Bool := p.owner = .system

/-- `p` goes before `q`: its round is earlier, or in the same round its priority is higher. -/
def RunsBefore (p q : Process) : Prop :=
  p.round < q.round ∨ p.round = q.round ∧ q.priority < p.priority

instance (p q : Process) : Decidable (p.RunsBefore q) :=
  inferInstanceAs (Decidable (_ ∨ _))

/-- The text that shows a process. -/
def debug (p : Process) : String :=
  Text.record "Pcb" [("name", Text.quoted p.name), ("class", p.owner.name),
    ("priority", toString p.priority), ("state", p.state.name),
    ("stack_top", Text.hex p.stackTop.toNat)]

end Process

end TrapKernel
