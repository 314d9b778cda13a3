import TrapKernel.Kernel.Shell
import TrapKernel.Proofs.Kernel.Halves
import TrapKernel.Proofs.Kernel.Lifetime

/-!
# What happens to a kernel

A kernel is called, a user types a command, or the driver of the serial port is used directly.
However it came about, an event has one of a few outcomes, and an invariant that every outcome keeps
holds for good. `Kernel.Outcome` also says what is worth writing down of an event: which process
came, and that a trap was taken.
-/

namespace TrapKernel

/-- A command of the shell that may change something. -/
inductive ShellCommand where
  | create (name : String) (owner : ProcessClass) (priority : Nat)
  | delete (name : String)
  | block (name : String)
  | unblock (name : String)
  | suspend (name : String)
  | resume (name : String)
  | resumeAll
  | setPriority (name : String) (priority : Nat)
  | shutdown

/-- The call of the kernel that a command stands for. -/
def ShellCommand.call : ShellCommand → KernelCall
  | create name owner priority => .create name owner priority
  | delete name => .delete name
  | block name => .block name
  | unblock name => .unblock name
  | suspend name => .suspend name
  | resume name => .resume name
  | resumeAll => .resumeAll
  | setPriority name priority => .setPriority name priority
  | shutdown => .requestShutdown

/-- Something that happens to a kernel. -/
inductive KernelEvent where
  | call (c : KernelCall)
  | shell (c : ShellCommand)
  /-- The driver of the serial port is used directly. -/
  | driver (port : SerialPort) (shared : Shared)

/-- What is worth writing down of an event. -/
inductive Note where
  | nothing
  /-- A process came, which starts at `entry`. -/
  | arrival (id : ProcessId) (entry : UInt32)
  | trap (saved : Context)

namespace Kernel

open Registry ProcessTable

variable {k k' : Kernel} {who : List ProcessId}

/-- What a command makes of the kernel. -/
def shell (k : Kernel) : ShellCommand → Kernel
  | .create name owner priority => k.update (Shell.create k name owner priority) (·.2)
  | .delete name => k.update (Shell.delete k name) (·.2)
  | .block name => k.update (Shell.block k name) (·.2)
  | .unblock name => k.update (Shell.unblock k name) (·.2)
  | .suspend name => k.update (Shell.suspend k name) (·.2)
  | .resume name => k.update (Shell.resume k name) (·.2)
  | .resumeAll => (Shell.resumeAll k).2
  | .setPriority name priority => k.update (Shell.setPriority k name priority) id
  | .shutdown => Shell.shutdown k

/-- The kernel after an event. -/
def step (k : Kernel) : KernelEvent → Kernel
  | .call c => k.call c
  | .shell c => k.shell c
  | .driver port shared => { k with shared, device.port := port }

/-- What is worth writing down of a call. -/
def noteOfCall (k : Kernel) : KernelCall → Note
  | .dispatch saved => .trap saved
  | .syscall r saved =>
    match k.request r with
    | .ok _ => .trap saved
    | .error _ => .nothing
  | .create name owner priority =>
    match k.create name owner priority with
    | .ok (id, _) => .arrival id 0
    | .error _ => .nothing
  | .load name owner priority entry =>
    match k.load name owner priority entry with
    | .ok (id, _) => .arrival id entry
    | .error _ => .nothing
  | _ => .nothing

/-- What is worth writing down of an event. -/
def note (k : Kernel) : KernelEvent → Note
  | .call c => k.noteOfCall c
  | .shell c => k.noteOfCall c.call
  | .driver .. => .nothing

/-- The kernel that a trap finds, and the context of the code that traps, if an event is a trap. -/
def trapping (k : Kernel) : KernelEvent → Option (Kernel × Context)
  | .call (.dispatch saved) => some (k, saved)
  | .call (.syscall r saved) => (k.request r).toOption.map (·, saved)
  | _ => none

/-! ### Commands -/

theorem update_mapError {ε ε' α : Type} (k : Kernel) (result : Except ε α) (f : ε → ε')
    (part : α → Kernel) : k.update (result.mapError f) part = k.update result part := by
  cases result <;> rfl

/-- A user may do less than the kernel. -/
theorem update_guard {α : Type} (k : Kernel) (name : String) (result : Except CommandError α)
    (part : α → Kernel) :
    k.update (Shell.guard k name >>= fun _ => result) part = k ∨
      k.update (Shell.guard k name >>= fun _ => result) part = k.update result part := by
  cases Shell.guard k name with
  | error e => exact Or.inl rfl
  | ok u => exact Or.inr rfl

/-- A command is refused, or does what the call of the same name does. -/
theorem shell_cases (k : Kernel) (c : ShellCommand) :
    k.noteOfCall c.call = .nothing ∧ k.shell c = k ∨ k.shell c = k.call c.call := by
  cases c with
  | create name owner priority => exact Or.inr (update_mapError ..)
  | delete name =>
    rcases update_guard k name ((k.delete name).mapError .registry) (·.2) with eq | eq
    · exact Or.inl ⟨rfl, eq⟩
    · exact Or.inr (eq.trans (update_mapError ..))
  | block name => exact Or.inr (update_mapError ..)
  | unblock name => exact Or.inr (update_mapError ..)
  | suspend name =>
    rcases update_guard k name (.ok (k.suspend name)) (·.2) with eq | eq
    · exact Or.inl ⟨rfl, eq⟩
    · exact Or.inr eq
  | resume name =>
    rcases update_guard k name (.ok (k.resume name)) (·.2) with eq | eq
    · exact Or.inl ⟨rfl, eq⟩
    · exact Or.inr eq
  | resumeAll => exact Or.inr rfl
  | setPriority name priority =>
    rcases update_guard k name ((k.setPriority name priority).mapError .registry) id
      with eq | eq
    · exact Or.inl ⟨rfl, eq⟩
    · exact Or.inr (eq.trans (update_mapError ..))
  | shutdown => exact Or.inr rfl

/-! ### Outcomes -/

/-- Processes went from queues to queues, and nothing went wrong on the way. -/
def Moves (r r' : Registry) : Prop :=
  ∀ order, r.Sound order → (∃ order', r'.Sound order' ∧ r.Steady r') ∧ r.Rearranged r'

/-- What an event makes of the kernel, and what is worth writing down of it. -/
inductive Outcome (k : Kernel) : Note → Kernel → Prop where
  /-- The processes and the dispatcher had no part in it. -/
  | outside (slot : RequestSlot) (port : SerialPort) (shared : Shared) (shutdownRequested : Bool) :
      Outcome k .nothing
        { k with slot, shared, shutdownRequested, device := { k.device with port } }
  | moved {r} (moves : Moves k.registry r) : Outcome k .nothing { k with registry := r }
  | created {id r m name owner priority}
      (done : k.registry.create k.memory name owner priority = .ok (id, r, m)) :
      Outcome k (.arrival id 0) { k with registry := r, memory := m }
  | loaded {id r m name owner priority entry}
      (done : k.registry.load k.memory name owner priority entry = .ok (id, r, m)) :
      Outcome k (.arrival id entry) { k with registry := r, memory := m }
  | deleted {id r m name} (done : k.registry.delete k.memory name = .ok (id, r, m)) :
      Outcome k .nothing (Kernel.cancelTransfers { k with registry := r, memory := m } id)
  | trapped (slot : RequestSlot) (saved : Context) :
      Outcome k (.trap saved) (Kernel.dispatch { k with slot } saved).2
  | down : Outcome k .nothing k.shutdown.2

namespace Outcome

theorem refl (k : Kernel) : k.Outcome .nothing k :=
  outside k.slot k.device.port k.shared k.shutdownRequested

theorem update {ε α : Type} {result : Except ε α} {part : α → Kernel}
    (keeps : ∀ a, result = .ok a → k.Outcome .nothing (part a)) :
    k.Outcome .nothing (k.update result part) := by
  cases result with
  | error e => exact refl k
  | ok a => exact keeps a rfl

theorem create (k : Kernel) (name : String) (owner : ProcessClass) (priority : Nat) :
    k.Outcome (k.noteOfCall (.create name owner priority))
      (k.call (.create name owner priority)) := by
  simp only [noteOfCall, Kernel.call]
  cases done : k.create name owner priority with
  | error e => exact refl k
  | ok result =>
    obtain ⟨id, r, m, created, rfl⟩ := create_ok done
    exact .created created

theorem load (k : Kernel) (name : String) (owner : ProcessClass) (priority : Nat)
    (entry : UInt32) : k.Outcome (k.noteOfCall (.load name owner priority entry))
      (k.call (.load name owner priority entry)) := by
  simp only [noteOfCall, Kernel.call]
  cases done : k.load name owner priority entry with
  | error e => exact refl k
  | ok result =>
    obtain ⟨id, r, m, loaded, rfl⟩ := load_ok done
    exact .loaded loaded

theorem syscall (k : Kernel) (r : Request) (saved : Context) :
    k.Outcome (k.noteOfCall (.syscall r saved)) (k.call (.syscall r saved)) := by
  simp only [noteOfCall, Kernel.call, Kernel.syscall]
  cases left : k.request r with
  | error e => exact refl k
  | ok k' =>
    rw [request_ok left]
    exact .trapped (k.slot.post r) saved

/-- Every call has an outcome. -/
theorem call (k : Kernel) (c : KernelCall) : k.Outcome (k.noteOfCall c) (k.call c) := by
  cases c with
  | dispatch saved => exact .trapped k.slot saved
  | syscall r saved => exact syscall k r saved
  | request r =>
    refine update fun k' done => ?_
    rw [request_ok done]
    exact .outside (k.slot.post r) k.device.port k.shared k.shutdownRequested
  | post r => exact .outside (k.slot.post r) k.device.port k.shared k.shutdownRequested
  | serviceInterrupts => exact .outside k.slot _ _ k.shutdownRequested
  | create name owner priority => exact create k name owner priority
  | load name owner priority entry => exact load k name owner priority entry
  | delete name =>
    refine update fun result done => ?_
    obtain ⟨id, r, m, deleted, rfl⟩ := delete_ok done
    exact .deleted deleted
  | block name =>
    refine update fun result done => ?_
    obtain ⟨b, r, blocked, rfl⟩ := block_ok done
    exact .moved fun order hs => ⟨hs.block blocked, .block blocked⟩
  | unblock name =>
    refine update fun result done => ?_
    obtain ⟨b, r, unblocked, rfl⟩ := unblock_ok done
    exact .moved fun order hs => ⟨hs.unblock unblocked, .unblock unblocked⟩
  | suspend name => exact .moved fun order hs => ⟨hs.suspend name, .suspend _ name⟩
  | resume name => exact .moved fun order hs => ⟨hs.resume name, .resume _ name⟩
  | resumeAll => exact .moved fun order hs => ⟨hs.resumeAll, hs.rearranged_resumeAll⟩
  | setPriority name priority =>
    refine update fun result done => ?_
    obtain ⟨r, changed, rfl⟩ := setPriority_ok done
    exact .moved fun order hs => ⟨hs.setPriority changed, .setPriority changed⟩
  | requestShutdown => exact .outside k.slot k.device.port k.shared true
  | shutdown => exact .down
  | outside shared uart => exact .outside k.slot _ shared k.shutdownRequested

end Outcome

/-- Every event has an outcome. -/
theorem outcome (k : Kernel) (e : KernelEvent) : k.Outcome (k.note e) (k.step e) := by
  cases e with
  | call c => exact .call k c
  | shell c =>
    rw [note, step]
    rcases k.shell_cases c with ⟨nothing, eq⟩ | eq
    · rw [nothing, eq]
      exact .refl k
    · rw [eq]
      exact .call k c.call
  | driver port shared => exact .outside k.slot port shared k.shutdownRequested

/-! ### Shutting down -/

/-- Whatever memory the processes have, all of them can be removed. -/
theorem destroyAll_vacant {ids : List ProcessId} (runs : k.registry.Runs who)
    (names : k.registry.Names ids) :
    ∃ k' who', k.destroyAll ids = (.ok (), k') ∧ k'.registry.Runs who' ∧
      (∀ i, ¬ k'.registry.table.Live i) ∧ k'.halted = k.halted ∧
      k'.bootContext = k.bootContext := by
  induction ids generalizing k who with
  | nil =>
    refine ⟨k, who, rfl, runs, fun i live => ?_, rfl, rfl⟩
    exact absurd (names.all i live) List.not_mem_nil
  | cons id ids ih =>
    obtain ⟨i, resolved⟩ := names.resolves id List.mem_cons_self
    obtain ⟨p, found⟩ := live_iff.mp (resolve_eq_some.mp resolved).2.2
    obtain ⟨order, hs⟩ := runs.sound
    obtain ⟨r, destroyed, sound, gone⟩ := hs.destroy resolved found (k.cancelTransfers id).memory
    let k₁ : Kernel := { k.cancelTransfers id with
      registry := r, memory := (k.cancelTransfers id).memory.release p.record }
    obtain ⟨k', who', done, rest⟩ :=
      ih (k := k₁) (runs.gone sound resolved gone) (names.gone resolved gone)
    refine ⟨k', who', ?_, rest⟩
    rw [destroyAll]
    rw [show (k.cancelTransfers id).registry.destroy (k.cancelTransfers id).memory id = _
      from destroyed]
    exact done

theorem releaseDeviceRecord_eq (k : Kernel) : ∃ memory record,
    k.releaseDeviceRecord = { k with memory, deviceRecord := record } := by
  unfold releaseDeviceRecord
  split
  · exact ⟨k.memory, k.deviceRecord, rfl⟩
  · exact ⟨_, _, rfl⟩

/-- A kernel that was shut down has no processes. -/
theorem shutdown_vacant (runs : k.registry.Runs who) :
    k.shutdown.2.registry.Runs [] ∧ (∀ i, ¬ k.shutdown.2.registry.table.Live i) ∧
      k.shutdown.2.running = none ∧ k.shutdown.2.halted = k.halted ∧
      k.shutdown.2.bootContext = k.bootContext := by
  obtain ⟨port, closed⟩ := k.closePort_eq
  obtain ⟨k', who', destroyed, runs', vacant, halted, home⟩ :=
    destroyAll_vacant (k := { k with device.port := port }) runs (names_ids k.registry)
  have nobody : who' = [] := by
    rw [List.eq_nil_iff_forall_not_mem]
    intro id member
    obtain ⟨i, resolved⟩ := runs'.resolves id member
    exact vacant i (resolve_eq_some.mp resolved).2.2
  subst nobody
  obtain ⟨m, record, released⟩ := releaseDeviceRecord_eq { k' with running := none }
  have down : k.shutdown.2 = Kernel.releaseDeviceRecord { k' with running := none } := by
    unfold shutdown
    rw [closed]
    simp only []
    rw [show Kernel.destroyAll _ (Registry.ids _) = _ from destroyed]
    simp only []
    split <;> rfl
  rw [down, released]
  exact ⟨runs', vacant, rfl, halted, home⟩

end Kernel

end TrapKernel
