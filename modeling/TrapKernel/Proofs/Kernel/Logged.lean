import TrapKernel.Kernel.Dispatch
import TrapKernel.Proofs.Kernel.Asking
import TrapKernel.Proofs.Process.Logged

/-!
# Traps that are logged

A trap goes on when the registry refuses what it asks for, or the memory what it gives back: it
leaves both as they are. So what a kernel is like after a trap does not tell whether anything was
refused. Here taking a trap, deleting a process and shutting down are written once more, and log on
their way what they ask of the registry and what they give back. They leave behind what the kernel's
own leave behind, whatever state it is in.
-/

namespace TrapKernel

namespace Logged

variable {α β : Type} {P : Subcall → Prop}

/-! ### Devices -/

/-- Give back one address after the other. -/
def giveBackAll (m : Memory) : List Nat → Logged Memory
  | [] => return m
  | address :: rest => do giveBackAll (← giveBack m address) rest

/-- Drop the waiting transfers of a process. -/
def cancel (d : Device) (m : Memory) (owner : ProcessId) : Logged (Nat × Device × Memory) := do
  let (dropped, waiting) := d.waiting.partition (·.transfer.owner = owner)
  return (dropped.length, { d with waiting }, ← giveBackAll m (dropped.map (·.record)))

/-- Start the first transfer that waits, if there is one. -/
def startNext (d : Device) (s : Shared) (m : Memory) : Logged (Device × Shared × Memory) :=
  match d.waiting with
  | [] => return (d, s, m)
  | next :: waiting => do
    let (d, s) := { d with waiting }.start s next.transfer
    return (d, s, ← giveBack m next.record)

/-- Ask whether the transfer in flight has ended. -/
def checkCompletion (d : Device) (s : Shared) (m : Memory) :
    Logged (Option ProcessId × Device × Shared × Memory) :=
  if (s.flag d.event).isSet then
    match d.active with
    | none => return (none, d, s, m)
    | some finished => do return (some finished.owner, ← startNext { d with active := none } s m)
  else return (none, d, s, m)

@[simp] theorem value_giveBackAll (m : Memory) (back : List Nat) :
    (giveBackAll m back).value = back.foldl Memory.release m := by
  induction back generalizing m with
  | nil => rfl
  | cons address back ih => exact ih (m.release address)

@[simp] theorem value_cancel (d : Device) (m : Memory) (owner : ProcessId) :
    (cancel d m owner).value = d.cancel m owner := by
  simp only [cancel, Device.cancel, value_bind, value_giveBackAll, value_pure, List.foldl_map]

@[simp] theorem value_startNext (d : Device) (s : Shared) (m : Memory) :
    (startNext d s m).value = d.startNext s m := by
  unfold startNext Device.startNext
  cases d.waiting <;> rfl

@[simp] theorem value_checkCompletion (d : Device) (s : Shared) (m : Memory) :
    (checkCompletion d s m).value = d.checkCompletion s m := by
  unfold checkCompletion Device.checkCompletion
  simp only [value_ite, value_pure]
  cases d.active with
  | none => rfl
  | some finished => simp only [value_bind, value_startNext, value_pure]

/-! ### Steps of a trap -/

/-- Drop the transfers of a process that wait for the device. -/
def cancelTransfers (k : Kernel) (id : ProcessId) : Logged Kernel := do
  let (_, device, memory) ← cancel k.device k.memory id
  return { k with device, memory }

/-- Save the context of a process. -/
def save (k : Kernel) (id : ProcessId) (c : Context) : Logged Kernel := do
  match ← saveContext k.registry id c with
  | .ok registry => return { k with registry }
  | .error _ => return k

/-- Put a process that gave up the processor back among the ready ones, if there is one. -/
def requeue (k : Kernel) (kept : Option ProcessId) : Logged Kernel :=
  match kept with
  | none => return k
  | some id => do
    match ← requeueYielded k.registry id with
    | .ok registry => return { k with registry }
    | .error _ => return k

/-- Let a process wait for its transfer. -/
def park (k : Kernel) (id : ProcessId) : Logged Kernel := do
  match ← parkBlocked k.registry id with
  | .ok registry => return { k with registry }
  | .error _ => return k

/-- End a process. -/
def exit (k : Kernel) (id : ProcessId) : Logged Kernel := do
  let k ← cancelTransfers k id
  match ← destroy k.registry k.memory id with
  | .ok (registry, memory) => return { k with registry, memory }
  | .error _ => return k

/-- Submit a transfer of the process that trapped. -/
def startTransfer (k : Kernel) (id : ProcessId) (direction : Direction) (device : DeviceId)
    (buffer : BufferId) (saved : Context) : Logged (Option ProcessId × Kernel) := do
  let k ← save k id saved
  match k.device.submit k.shared k.memory ⟨direction, device, buffer, id⟩ with
  | .ok (_, device, shared, memory) => return (none, ← park { k with device, shared, memory } id)
  | .error e =>
    return (some id, { k with shared := k.shared.modifyBuffer buffer (·.fail e.code) })

/-- Act on a request for a transfer. -/
def actOnTransfer (k : Kernel) (id : ProcessId) (r : Request) (direction : Direction)
    (saved : Context) : Logged (Except Fatal (Option ProcessId) × Kernel) :=
  match r.buffer with
  | none => return k.halt (.invalidRequest (some r.code))
  | some buffer => do
    let (kept, k) ← startTransfer k id direction r.device buffer saved
    return (.ok kept, k)

/-- Act on the request of the process that trapped. -/
def act (k : Kernel) (id : ProcessId) (request : Option Request) (saved : Context) :
    Logged (Except Fatal (Option ProcessId) × Kernel) :=
  match request with
  | none => return k.halt (.invalidRequest none)
  | some r =>
    match Operation.ofCode? r.code with
    | none => return k.halt (.invalidRequest (some r.code))
    | some .idle => do return (.ok (some id), ← save k id saved)
    | some .exit => do return (.ok none, ← exit k id)
    | some .read => actOnTransfer k id r .read saved
    | some .write => actOnTransfer k id r .write saved

/-- Act on the trap. -/
def enter (k : Kernel) (saved : Context) : Logged (Except Fatal (Option ProcessId) × Kernel) :=
  let (request, slot) := k.slot.take
  match k.running with
  | none => return (.ok none, { k with slot, bootContext := some saved })
  | some id => act { k with slot, running := none } id request saved

/-- Release the owner of the transfer in flight, if that has ended. -/
def poll (k : Kernel) : Logged Kernel := do
  let (owner, device, shared, memory) ← checkCompletion k.device k.shared k.memory
  let k := { k with device, shared, memory }
  match owner with
  | none => return k
  | some id =>
    match ← release k.registry id with
    | .ok (_, registry) => return { k with registry }
    | .error _ => return k

/-- Resume a process. -/
def switchTo (k : Kernel) (id : ProcessId) : Logged (Except Fatal Context × Kernel) := do
  match ← context k.registry id with
  | .ok c => return (.ok c, { k with running := some id, switches := k.switches + 1 })
  | .error _ => return k.halt .emptyReadyQueue

/-- Choose what to resume. -/
def leave (k : Kernel) (kept : Option ProcessId) (saved : Context) :
    Logged (Except Fatal Context × Kernel) :=
  if k.shutdownRequested then do
    let k ← requeue k kept
    return (.ok (k.home saved), k)
  else do
    match ← takeReadyHead k.registry with
    | some (next, registry) => switchTo (← requeue { k with registry } kept) next
    | none =>
      match kept with
      | some id => switchTo k id
      | none =>
        if k.config.shutdownOnEmpty then return (.ok (k.home saved), k)
        else return k.halt .emptyReadyQueue

/-- Take a trap. -/
def dispatch (k : Kernel) (saved : Context) : Logged (Except Fatal Context × Kernel) :=
  match k.halted with
  | some fatal => return (.error fatal, k)
  | none => do
    match ← enter k saved with
    | (.error fatal, k) => return (.error fatal, k)
    | (.ok kept, k) => leave (← poll k) kept saved

/-- Leave a request and trap. -/
def syscall (k : Kernel) (r : Request) (saved : Context) :
    Logged (Except KernelError Context × Kernel) :=
  match k.request r with
  | .error e => return (.error (.rejected e), k)
  | .ok k => do
    let (result, k) ← dispatch k saved
    return (result.mapError .halted, k)

@[simp] theorem value_cancelTransfers (k : Kernel) (id : ProcessId) :
    (cancelTransfers k id).value = k.cancelTransfers id := by
  simp only [cancelTransfers, Kernel.cancelTransfers, value_bind, value_cancel, value_pure]

@[simp] theorem value_save (k : Kernel) (id : ProcessId) (c : Context) :
    (save k id c).value = k.save id c := by
  simp only [save, Kernel.save, value_bind, value_saveContext]
  cases k.registry.saveContext id c <;> rfl

@[simp] theorem value_requeue (k : Kernel) (kept : Option ProcessId) :
    (requeue k kept).value = k.requeue kept := by
  unfold requeue Kernel.requeue
  cases kept with
  | none => rfl
  | some id =>
    simp only [value_bind, value_requeueYielded]
    cases k.registry.requeueYielded id <;> rfl

@[simp] theorem value_park (k : Kernel) (id : ProcessId) : (park k id).value = k.park id := by
  simp only [park, Kernel.park, value_bind, value_parkBlocked]
  cases k.registry.parkBlocked id <;> rfl

@[simp] theorem value_exit (k : Kernel) (id : ProcessId) : (exit k id).value = k.exit id := by
  simp only [exit, Kernel.exit, value_bind, value_cancelTransfers, value_destroy]
  cases (k.cancelTransfers id).registry.destroy (k.cancelTransfers id).memory id <;> rfl

@[simp] theorem value_startTransfer (k : Kernel) (id : ProcessId) (direction : Direction)
    (device : DeviceId) (buffer : BufferId) (saved : Context) :
    (startTransfer k id direction device buffer saved).value =
      k.startTransfer id direction device buffer saved := by
  simp only [startTransfer, Kernel.startTransfer, value_bind, value_save]
  cases (k.save id saved).device.submit (k.save id saved).shared (k.save id saved).memory
    ⟨direction, device, buffer, id⟩ with
  | error e => rfl
  | ok result => simp only [value_bind, value_park, value_pure]

@[simp] theorem value_actOnTransfer (k : Kernel) (id : ProcessId) (r : Request)
    (direction : Direction) (saved : Context) :
    (actOnTransfer k id r direction saved).value = k.actOnTransfer id r direction saved := by
  unfold actOnTransfer Kernel.actOnTransfer
  cases r.buffer with
  | none => rfl
  | some buffer => simp only [value_bind, value_startTransfer, value_pure]

@[simp] theorem value_act (k : Kernel) (id : ProcessId) (request : Option Request)
    (saved : Context) : (act k id request saved).value = k.act id request saved := by
  unfold act Kernel.act
  cases request with
  | none => rfl
  | some r =>
    simp only []
    cases Operation.ofCode? r.code with
    | none => rfl
    | some operation =>
      cases operation with
      | idle => simp only [value_bind, value_save, value_pure]
      | exit => simp only [value_bind, value_exit, value_pure]
      | read => exact value_actOnTransfer k id r .read saved
      | write => exact value_actOnTransfer k id r .write saved

@[simp] theorem value_enter (k : Kernel) (saved : Context) :
    (enter k saved).value = k.enter saved := by
  unfold enter Kernel.enter
  cases k.running with
  | none => rfl
  | some id => exact value_act _ id _ saved

@[simp] theorem value_poll (k : Kernel) : (poll k).value = k.poll := by
  simp only [poll, Kernel.poll, value_bind, value_checkCompletion]
  cases (k.device.checkCompletion k.shared k.memory).1 with
  | none => rfl
  | some id =>
    simp only [value_bind, value_release]
    cases k.registry.release id <;> rfl

@[simp] theorem value_switchTo (k : Kernel) (id : ProcessId) :
    (switchTo k id).value = k.switchTo id := by
  simp only [switchTo, Kernel.switchTo, value_bind, value_context]
  cases k.registry.context id <;> rfl

@[simp] theorem value_leave (k : Kernel) (kept : Option ProcessId) (saved : Context) :
    (leave k kept saved).value = k.leave kept saved := by
  unfold leave Kernel.leave
  simp only [value_ite, value_bind, value_requeue, value_takeReadyHead, value_pure]
  cases k.registry.takeReadyHead with
  | some result => simp only [value_bind, value_requeue, value_switchTo]
  | none =>
    cases kept with
    | some id => simp only [value_switchTo]
    | none => simp only [value_ite, value_pure]

@[simp] theorem value_dispatch (k : Kernel) (saved : Context) :
    (dispatch k saved).value = k.dispatch saved := by
  unfold dispatch Kernel.dispatch
  cases k.halted with
  | some fatal => rfl
  | none =>
    simp only [value_bind, value_enter]
    rcases k.enter saved with ⟨result, k'⟩
    cases result with
    | error fatal => rfl
    | ok kept => simp only [value_bind, value_poll, value_leave]

@[simp] theorem value_syscall (k : Kernel) (r : Request) (saved : Context) :
    (syscall k r saved).value = k.syscall r saved := by
  unfold syscall Kernel.syscall
  cases k.request r with
  | error e => rfl
  | ok k' => simp only [value_bind, value_dispatch, value_pure]

/-! ### Deleting and shutting down -/

/-- Remove a process that is not running, together with its transfers that wait. -/
def deleteProcess (k : Kernel) (name : String) :
    Logged (Except RegistryError (ProcessId × Kernel)) := do
  match ← delete k.registry k.memory name with
  | .error e => return .error e
  | .ok (id, registry, memory) =>
    return .ok (id, ← cancelTransfers { k with registry, memory } id)

/-- Remove processes, running or not, with their transfers that wait. -/
def destroyAll (k : Kernel) : List ProcessId → Logged (Except RegistryError Unit × Kernel)
  | [] => return (.ok (), k)
  | id :: ids => do
    let k ← cancelTransfers k id
    match ← destroy k.registry k.memory id with
    | .error cause => return (.error cause, k)
    | .ok (registry, memory) => destroyAll { k with registry, memory } ids

/-- Give back the record of the device, unless it was given back before. -/
def releaseDeviceRecord (k : Kernel) : Logged Kernel :=
  match k.deviceRecord with
  | none => return k
  | some record => do
    return { k with memory := ← giveBack k.memory record, deviceRecord := none }

/-- Close the port and give back every record. -/
def shutdown (k : Kernel) : Logged (Except KernelError Unit × Kernel) :=
  match k.closePort with
  | .error cause => return (.error (.closeFailed cause), k)
  | .ok k => do
    match ← destroyAll k k.registry.ids with
    | (.error cause, k) => return (.error (.registry cause), k)
    | (.ok (), k) =>
      let k ← releaseDeviceRecord { k with running := none }
      if k.heapIsEmpty then return (.ok (), k)
      else return (.error (.heapNotEmpty "after shutdown"), k)

@[simp] theorem value_deleteProcess (k : Kernel) (name : String) :
    (deleteProcess k name).value = k.delete name := by
  simp only [deleteProcess, Kernel.delete, value_bind, value_delete]
  cases k.registry.delete k.memory name with
  | error e => rfl
  | ok result => simp only [value_bind, value_cancelTransfers, value_pure]; rfl

@[simp] theorem value_destroyAll (k : Kernel) (ids : List ProcessId) :
    (destroyAll k ids).value = k.destroyAll ids := by
  induction ids generalizing k with
  | nil => rfl
  | cons id ids ih =>
    simp only [destroyAll, Kernel.destroyAll, value_bind, value_cancelTransfers, value_destroy]
    cases (k.cancelTransfers id).registry.destroy (k.cancelTransfers id).memory id with
    | error cause => rfl
    | ok result => exact ih _

@[simp] theorem value_releaseDeviceRecord (k : Kernel) :
    (releaseDeviceRecord k).value = k.releaseDeviceRecord := by
  unfold releaseDeviceRecord Kernel.releaseDeviceRecord
  cases k.deviceRecord <;> rfl

@[simp] theorem value_shutdown (k : Kernel) : (shutdown k).value = k.shutdown := by
  unfold shutdown Kernel.shutdown
  cases k.closePort with
  | error cause => rfl
  | ok k =>
    simp only [value_bind, value_destroyAll]
    rcases k.destroyAll k.registry.ids with ⟨result, k'⟩
    cases result with
    | error cause => rfl
    | ok u => simp only [value_bind, value_releaseDeviceRecord, value_ite, value_pure]

/-! ### What is done on the way -/

variable {k : Kernel} {id : ProcessId} {kept : Option ProcessId} {saved : Context} {d : Device}
  {s : Shared} {m : Memory}

theorem all_giveBackAll {back : List Nat} (frees : ∀ m address, P (.free m address)) :
    (giveBackAll m back).All P := by
  induction back generalizing m with
  | nil => exact all_pure _
  | cons address back ih => exact all_bind.mpr ⟨all_giveBack.mpr (frees m address), ih⟩

theorem all_cancel : (cancel d m id).All P ↔ (giveBackAll m (d.held id)).All P := by
  simp only [cancel, all_bind, all_pure, and_true, List.partition_eq_filter_filter, Device.held]

theorem all_cancelTransfers :
    (cancelTransfers k id).All P ↔ (giveBackAll k.memory (k.device.held id)).All P := by
  simp only [cancelTransfers, all_bind, all_pure, and_true, all_cancel]

/-- At most the record of the first transfer that waits is given back. -/
theorem all_checkCompletion (frees : ∀ address ∈ d.records.take 1, P (.free m address)) :
    (checkCompletion d s m).All P := by
  unfold checkCompletion
  split
  · split
    · exact all_pure _
    · refine all_bind.mpr ⟨?_, all_pure _⟩
      unfold startNext
      split
      · exact all_pure _
      · rename_i next rest waits
        have first : next.record ∈ d.records.take 1 := by
          simp only [Device.records, show d.waiting = next :: rest from waits, List.map_cons,
            List.take_succ_cons, List.mem_cons, true_or]
        exact all_bind.mpr ⟨all_giveBack.mpr (frees _ first), all_pure _⟩
  · exact all_pure _

theorem all_save : (save k id saved).All P ↔ P (.saveContext k.registry id saved) := by
  simp only [save, all_bind, all_saveContext, and_iff_left_iff_imp]
  intro _
  split <;> exact all_pure _

theorem all_requeue (requeues : ∀ id ∈ kept, (requeueYielded k.registry id).All P) :
    (requeue k kept).All P := by
  cases kept with
  | none => exact all_pure _
  | some id =>
    refine all_bind.mpr ⟨requeues id rfl, ?_⟩
    split <;> exact all_pure _

theorem all_park (parks : (parkBlocked k.registry id).All P) : (park k id).All P := by
  refine all_bind.mpr ⟨parks, ?_⟩
  split <;> exact all_pure _

theorem all_exit (cancels : (giveBackAll k.memory (k.device.held id)).All P)
    (destroys : (destroy k.registry (k.cancelTransfers id).memory id).All P) :
    (exit k id).All P := by
  refine all_bind.mpr ⟨all_cancelTransfers.mpr cancels, ?_⟩
  rw [value_cancelTransfers]
  refine all_bind.mpr ⟨destroys, ?_⟩
  split <;> exact all_pure _

/-- What acting on a request may do: save the process that trapped and let it wait, or end it. -/
structure Acts (P : Subcall → Prop) (k : Kernel) (id : ProcessId) (saved : Context) : Prop where
  saves : P (.saveContext k.registry id saved)
  parks : (parkBlocked (k.save id saved).registry id).All P
  cancels : (giveBackAll k.memory (k.device.held id)).All P
  destroys : (destroy k.registry (k.cancelTransfers id).memory id).All P

theorem Acts.startTransfer {direction : Direction} {device : DeviceId} {buffer : BufferId}
    (h : Acts P k id saved) : (startTransfer k id direction device buffer saved).All P := by
  refine all_bind.mpr ⟨all_save.mpr h.saves, ?_⟩
  rw [value_save]
  split
  · exact all_bind.mpr ⟨all_park h.parks, all_pure _⟩
  · exact all_pure _

theorem Acts.actOnTransfer {r : Request} {direction : Direction} (h : Acts P k id saved) :
    (actOnTransfer k id r direction saved).All P := by
  unfold Logged.actOnTransfer
  split
  · exact all_pure _
  · exact all_bind.mpr ⟨h.startTransfer, all_pure _⟩

theorem Acts.act {request : Option Request} (h : Acts P k id saved) :
    (act k id request saved).All P := by
  unfold Logged.act
  cases request with
  | none => exact all_pure _
  | some r =>
    simp only []
    cases Operation.ofCode? r.code with
    | none => exact all_pure _
    | some operation =>
      cases operation with
      | idle => exact all_bind.mpr ⟨all_save.mpr h.saves, all_pure _⟩
      | exit => exact all_bind.mpr ⟨all_exit h.cancels h.destroys, all_pure _⟩
      | read => exact h.actOnTransfer
      | write => exact h.actOnTransfer

theorem all_enter (acts : ∀ id ∈ k.running, Acts P k.inside id saved) : (enter k saved).All P := by
  unfold enter
  cases running : k.running with
  | none => exact all_pure _
  | some id => exact (acts id running).act

theorem all_poll (completes : ∀ address ∈ k.device.records.take 1, P (.free k.memory address))
    (releases : ∀ id ∈ (k.device.checkCompletion k.shared k.memory).1,
      (release k.registry id).All P) : (poll k).All P := by
  refine all_bind.mpr ⟨all_checkCompletion completes, ?_⟩
  rw [value_checkCompletion]
  rcases completed : k.device.checkCompletion k.shared k.memory with ⟨owner, device, shared, memory⟩
  rw [completed] at releases
  cases owner with
  | none => exact all_pure _
  | some id =>
    refine all_bind.mpr ⟨releases id rfl, ?_⟩
    split <;> exact all_pure _

theorem all_switchTo : (switchTo k id).All P ↔ P (.context k.registry id) := by
  simp only [switchTo, all_bind, all_context, and_iff_left_iff_imp]
  intro _
  split <;> exact all_pure _

/-- What choosing the next process may do. -/
structure Chooses (P : Subcall → Prop) (k : Kernel) (kept : Option ProcessId) : Prop where
  takes : (takeReadyHead k.registry).All P
  /-- The process that trapped is put back at once, or after another one was taken. -/
  requeues : ∀ id ∈ kept, (requeueYielded k.registry id).All P ∧
    ∀ next r, k.registry.takeReadyHead = some (next, r) → (requeueYielded r id).All P
  /-- The process that is chosen is resumed. -/
  resumes : (∀ next r, k.registry.takeReadyHead = some (next, r) →
      P (.context (Kernel.requeue { k with registry := r } kept).registry next)) ∧
    ∀ id ∈ kept, P (.context k.registry id)

theorem Chooses.leave (h : Chooses P k kept) : (leave k kept saved).All P := by
  unfold Logged.leave
  split
  · exact all_bind.mpr ⟨all_requeue fun id member => (h.requeues id member).1, all_pure _⟩
  refine all_bind.mpr ⟨h.takes, ?_⟩
  rw [value_takeReadyHead]
  split
  · rename_i next r taken
    refine all_bind.mpr ⟨all_requeue fun id member => (h.requeues id member).2 next r taken, ?_⟩
    rw [value_requeue]
    exact all_switchTo.mpr (h.resumes.1 next r taken)
  · split
    · exact all_switchTo.mpr (h.resumes.2 _ rfl)
    · split <;> exact all_pure _

theorem all_dispatch
    (on : k.halted = none → (enter k saved).All P ∧
      ∀ kept k', k.enter saved = (.ok kept, k') →
        (poll k').All P ∧ Chooses P k'.poll kept) :
    (dispatch k saved).All P := by
  unfold dispatch
  cases halted : k.halted with
  | some fatal => exact all_pure _
  | none =>
    obtain ⟨enters, rest⟩ := on halted
    refine all_bind.mpr ⟨enters, ?_⟩
    rw [value_enter]
    rcases entered : k.enter saved with ⟨result, k'⟩
    cases result with
    | error fatal => exact all_pure _
    | ok kept =>
      obtain ⟨polls, chooses⟩ := rest kept k' entered
      refine all_bind.mpr ⟨polls, ?_⟩
      rw [value_poll]
      exact chooses.leave

end Logged

end TrapKernel
