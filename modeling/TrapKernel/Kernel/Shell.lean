import TrapKernel.Kernel.State

/-!
# The shell

The commands that a user types. They do what the operations of the kernel of the same names do,
except that a user may not delete, suspend, resume or reprioritise a process of the kernel.
-/

namespace TrapKernel

/-- Why a command was refused. -/
inductive CommandError where
  /-- The process belongs to the kernel. -/
  | systemProcess (name : String)
  | registry (cause : RegistryError)
  deriving DecidableEq, Repr

/-- The sentence that reports an error. -/
def CommandError.message : CommandError → String
  | systemProcess name => s!"user cannot update system process '{name}'"
  | registry cause => cause.message

namespace Shell

/-- A process of the kernel is not touched. A name that is not in use passes. -/
def guard (k : Kernel) (name : String) : Except CommandError Unit :=
  if k.registry.isSystem name = some true then .error (.systemProcess name) else .ok ()

/-- Create a process that is ready to run. -/
def create (k : Kernel) (name : String) (owner : ProcessClass) (priority : Nat) :
    Except CommandError (ProcessId × Kernel) :=
  (k.create name owner priority).mapError .registry

/-- Remove a process of a user. -/
def delete (k : Kernel) (name : String) : Except CommandError (ProcessId × Kernel) := do
  guard k name
  (k.delete name).mapError .registry

/-- Block a process. -/
def block (k : Kernel) (name : String) : Except CommandError (Bool × Kernel) :=
  (k.block name).mapError .registry

/-- Unblock a process. -/
def unblock (k : Kernel) (name : String) : Except CommandError (Bool × Kernel) :=
  (k.unblock name).mapError .registry

/-- Suspend a process of a user. -/
def suspend (k : Kernel) (name : String) : Except CommandError (Bool × Kernel) := do
  guard k name
  return k.suspend name

/-- Resume a process of a user. -/
def resume (k : Kernel) (name : String) : Except CommandError (Bool × Kernel) := do
  guard k name
  return k.resume name

/-- Resume every suspended process. -/
def resumeAll (k : Kernel) : Nat × Kernel := k.resumeAll

/-- Change the priority of a process of a user. -/
def setPriority (k : Kernel) (name : String) (priority : Nat) : Except CommandError Kernel := do
  guard k name
  (k.setPriority name priority).mapError .registry

/-- The queue that holds the process with this name. -/
def find (k : Kernel) (name : String) : Option QueueKind := k.registry.find name

/-- What is shown of the process with this name. -/
def «show» (k : Kernel) (name : String) : Option ProcessInfo := k.registry.show name

/-- The processes that could run. -/
def showReady (k : Kernel) : List ProcessInfo := k.registry.showReady

/-- The processes that wait for something. -/
def showBlocked (k : Kernel) : List ProcessInfo := k.registry.showBlocked

/-- All processes. -/
def showAll (k : Kernel) : List ProcessInfo := k.registry.showAll

/-- Let the next trap return to the boot context. -/
def shutdown (k : Kernel) : Kernel := k.requestShutdown

end Shell

end TrapKernel
