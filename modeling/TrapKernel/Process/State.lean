import TrapKernel.Text.Record

/-!
# Classes, states and handles of processes
-/

namespace TrapKernel

/-- Whom a process belongs to. -/
inductive ProcessClass where
  /-- The kernel; the shell may not touch it. -/
  | system
  /-- A user. -/
  | user
  deriving DecidableEq, Repr

namespace ProcessClass

/-- The name of a class. -/
def name : ProcessClass → String
  | system => "System"
  | user => "User"

/-- The word for a class in configuration files. -/
def label : ProcessClass → String
  | system => "system"
  | user => "user"

/-- Every class. -/
def all : List ProcessClass := [system, user]

/-- The class for which a configuration file has this word. -/
def ofLabel? (s : String) : Option ProcessClass := all.find? (·.label = s)

end ProcessClass

/-- What a process is doing. In every state but `running` it waits in a queue. -/
inductive ProcessState where
  | ready
  | running
  | blocked
  | readySuspended
  | blockedSuspended
  deriving DecidableEq, Repr

namespace ProcessState

/-- The name of a state. -/
def name : ProcessState → String
  | ready => "Ready"
  | running => "Running"
  | blocked => "Blocked"
  | readySuspended => "ReadySuspended"
  | blockedSuspended => "BlockedSuspended"

/-- The word with which a state is shown to users. -/
def label : ProcessState → String
  | ready => "ready"
  | running => "running"
  | blocked => "blocked"
  | readySuspended => "suspended-ready"
  | blockedSuspended => "suspended-blocked"

/-- The process was suspended. -/
def isSuspended : ProcessState → Bool
  | readySuspended | blockedSuspended => true
  | ready | running | blocked => false

/-- The process waits for something other than the processor. -/
def isBlocked : ProcessState → Bool
  | blocked | blockedSuspended => true
  | ready | running | readySuspended => false

end ProcessState

/-- A handle to a process: a slot, and the generation of the process in it. Once the process is
gone, the generation of the slot moves on. -/
structure ProcessId where
  index : Nat
  generation : UInt32
  deriving DecidableEq, Repr

namespace ProcessId

/-- The text of a handle. -/
def text (id : ProcessId) : String := s!"pid{id.index}.{id.generation.toNat}"

/-- The text that shows a handle by its fields. -/
def debug (id : ProcessId) : String :=
  Text.record "ProcessId" [("index", toString id.index),
    ("generation", toString id.generation.toNat)]

end ProcessId

end TrapKernel
