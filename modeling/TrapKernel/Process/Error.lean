import TrapKernel.Memory.Error

/-!
# Queue names and registry errors
-/

namespace TrapKernel

/-- The queues in which processes wait. -/
inductive QueueKind where
  | ready
  | blocked
  | suspendedReady
  | suspendedBlocked
  deriving DecidableEq, Repr

/-- The name of a queue. -/
def QueueKind.name : QueueKind → String
  | ready => "Ready"
  | blocked => "Blocked"
  | suspendedReady => "SuspendedReady"
  | suspendedBlocked => "SuspendedBlocked"

/-- Why an operation on processes was refused. -/
inductive RegistryError where
  | duplicateName (name : String)
  | invalidName (name : String)
  | invalidPriority (priority : Nat)
  | notFound (name : String)
  /-- The process runs, so it is in no queue. -/
  | running (name : String)
  /-- The process of the handle is gone. -/
  | staleHandle
  | outOfMemory (cause : MemoryError)
  /-- The links of a queue contradict each other. -/
  | corrupt (queue : QueueKind) (reason : String)
  deriving DecidableEq, Repr

/-- The sentence that reports an error. -/
def RegistryError.message : RegistryError → String
  | duplicateName name => s!"a process named '{name}' already exists"
  | invalidName name => s!"invalid process name '{name}': must be 3 to 20 characters"
  | invalidPriority priority => s!"invalid priority {priority}: must be 0 to 9"
  | notFound name => s!"no process named '{name}'"
  | running name => s!"process '{name}' is running"
  | staleHandle => "stale process handle"
  | outOfMemory cause => "no memory for process record: " ++ cause.message
  | corrupt queue reason => queue.name ++ " queue corrupted: " ++ reason

end TrapKernel
