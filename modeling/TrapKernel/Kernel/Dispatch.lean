import TrapKernel.Kernel.State

/-!
# Taking a trap

A trap saves the context of the process that ran, acts on its request, releases the owner of a
transfer that has ended, and resumes the first ready process. A process that only gave up the
processor is put back among the ready ones after its successor was chosen, and goes on when there
is no other.

The first trap comes from the code that booted the kernel. Its context is the one to return to when
the kernel shuts down.
-/

namespace TrapKernel.Kernel

/-- Halt for good. -/
def halt {α : Type} (k : Kernel) (fatal : Fatal) : Except Fatal α × Kernel :=
  (.error fatal, { k with halted := some fatal })

/-- Save the context of a process. -/
def save (k : Kernel) (id : ProcessId) (c : Context) : Kernel :=
  match k.registry.saveContext id c with
  | .ok registry => { k with registry }
  | .error _ => k

/-- Put a process that gave up the processor back among the ready ones, if there is one. -/
def requeue (k : Kernel) (kept : Option ProcessId) : Kernel :=
  match kept with
  | none => k
  | some id =>
    match k.registry.requeueYielded id with
    | .ok registry => { k with registry }
    | .error _ => k

/-- Let a process wait for its transfer. -/
def park (k : Kernel) (id : ProcessId) : Kernel :=
  match k.registry.parkBlocked id with
  | .ok registry => { k with registry }
  | .error _ => k

/-- End a process. -/
def exit (k : Kernel) (id : ProcessId) : Kernel :=
  let k := k.cancelTransfers id
  match k.registry.destroy k.memory id with
  | .ok (registry, memory) => { k with registry, memory }
  | .error _ => k

/-- Submit a transfer of the process that trapped, which waits from now on. If the device does not
accept it, the buffer gets the code of the error and the process keeps the processor. -/
def startTransfer (k : Kernel) (id : ProcessId) (direction : Direction) (device : DeviceId)
    (buffer : BufferId) (saved : Context) : Option ProcessId × Kernel :=
  let k := k.save id saved
  match k.device.submit k.shared k.memory ⟨direction, device, buffer, id⟩ with
  | .ok (_, device, shared, memory) => (none, { k with device, shared, memory }.park id)
  | .error e => (some id, { k with shared := k.shared.modifyBuffer buffer (·.fail e.code) })

/-- Act on a request for a transfer, which needs a buffer. -/
def actOnTransfer (k : Kernel) (id : ProcessId) (r : Request) (direction : Direction)
    (saved : Context) : Except Fatal (Option ProcessId) × Kernel :=
  match r.buffer with
  | none => k.halt (.invalidRequest (some r.code))
  | some buffer =>
    let (kept, k) := k.startTransfer id direction r.device buffer saved
    (.ok kept, k)

/-- Act on the request of the process that trapped. The answer is the process, if it keeps the
processor. -/
def act (k : Kernel) (id : ProcessId) (request : Option Request) (saved : Context) :
    Except Fatal (Option ProcessId) × Kernel :=
  match request with
  | none => k.halt (.invalidRequest none)
  | some r =>
    match Operation.ofCode? r.code with
    | none => k.halt (.invalidRequest (some r.code))
    | some .idle => (.ok (some id), k.save id saved)
    | some .exit => (.ok none, k.exit id)
    | some .read => k.actOnTransfer id r .read saved
    | some .write => k.actOnTransfer id r .write saved

/-- Act on the trap: on the request of the process that ran, or, if none did, on the return from the
code whose context is `saved`. -/
def enter (k : Kernel) (saved : Context) : Except Fatal (Option ProcessId) × Kernel :=
  let (request, slot) := k.slot.take
  match k.running with
  | none => (.ok none, { k with slot, bootContext := some saved })
  | some id => { k with slot, running := none }.act id request saved

/-- Release the owner of the transfer in flight, if that has ended. -/
def poll (k : Kernel) : Kernel :=
  let (owner, device, shared, memory) := k.device.checkCompletion k.shared k.memory
  let k := { k with device, shared, memory }
  match owner with
  | none => k
  | some id =>
    match k.registry.release id with
    | .ok (_, registry) => { k with registry }
    | .error _ => k

/-- Resume a process. -/
def switchTo (k : Kernel) (id : ProcessId) : Except Fatal Context × Kernel :=
  match k.registry.context id with
  | .ok c => (.ok c, { k with running := some id, switches := k.switches + 1 })
  | .error _ => k.halt .emptyReadyQueue

/-- The context to return to when no process is resumed. -/
def home (k : Kernel) (saved : Context) : Context := k.bootContext.getD saved

/-- Choose what to resume. `kept` is the process that trapped, if it keeps the processor. -/
def leave (k : Kernel) (kept : Option ProcessId) (saved : Context) :
    Except Fatal Context × Kernel :=
  if k.shutdownRequested then
    let k := k.requeue kept
    (.ok (k.home saved), k)
  else
    match k.registry.takeReadyHead with
    | some (next, registry) => ({ k with registry }.requeue kept).switchTo next
    | none =>
      match kept with
      | some id => k.switchTo id
      | none => if k.config.shutdownOnEmpty then (.ok (k.home saved), k) else k.halt .emptyReadyQueue

/-- Take a trap from the code whose context is `saved`. The answer is the context to resume: that of
a process, or the one to return to. A kernel that was halted reports the same condition at every
further trap. -/
def dispatch (k : Kernel) (saved : Context) : Except Fatal Context × Kernel :=
  match k.halted with
  | some fatal => (.error fatal, k)
  | none =>
    match k.enter saved with
    | (.error fatal, k) => (.error fatal, k)
    | (.ok kept, k) => k.poll.leave kept saved

/-- Leave a request and trap. -/
def syscall (k : Kernel) (r : Request) (saved : Context) : Except KernelError Context × Kernel :=
  match k.request r with
  | .error e => (.error (.rejected e), k)
  | .ok k =>
    let (result, k) := k.dispatch saved
    (result.mapError .halted, k)

end TrapKernel.Kernel
