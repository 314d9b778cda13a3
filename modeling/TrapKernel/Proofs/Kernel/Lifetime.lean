import TrapKernel.Proofs.Kernel.Repaid
import TrapKernel.Proofs.Kernel.Scheduling
import TrapKernel.Proofs.Serial.Progress

/-!
# The lifetime of a kernel

A kernel that was booted with a heap accounts for its records through every sequence of calls,
refused ones and fatal ones included. So each block that is given back on the way was in use, as the
log of the call shows, and whatever the kernel has been through, shutting it down leaves nothing
behind.
-/

namespace TrapKernel

namespace Kernel

open Registry ProcessTable

variable {k k' : Kernel} {who : List ProcessId} {size : Nat} {device : Option Nat}
  {c : KernelConfig} {uart : Uart}

/-! ### Booting -/

/-- What loading a process keeps, loading a list of processes keeps. -/
theorem loadAll_keeps {P : Registry → Memory → Prop}
    (keeps : ∀ {r r' m m' id name owner priority entry}, P r m →
      r.load m name owner priority entry = .ok (id, r', m') → P r' m')
    {r r' : Registry} {m m' : Memory} {ps : List ProcessConfig} (h : P r m)
    (done : loadAll r m ps = .ok (r', m')) : P r' m' := by
  induction ps generalizing r m with
  | nil =>
    cases done
    exact h
  | cons p ps ih =>
    obtain ⟨⟨id, r₁, m₁⟩, loaded, rest⟩ := ok_of_bind done
    exact ih (keeps h loaded) rest

/-- Nobody runs after the processes of the configuration were loaded. -/
theorem runs_loadAll {r : Registry} {m m' : Memory} {ps : List ProcessConfig}
    (done : loadAll .empty m ps = .ok (r, m')) : r.Runs [] := by
  refine loadAll_keeps (P := fun r _ => r.Runs []) ?_ runs_empty done
  intro r r' m m' id name owner priority entry runs loaded
  obtain ⟨-, -, -, runs', -⟩ := runs.load loaded
  exact runs'

theorem loadAll_spec {r r' : Registry} {m m' : Memory} {ps : List ProcessConfig} {record : Nat}
    (runs : r.Runs []) (holds : m.Holds size (record :: r.records))
    (done : loadAll r m ps = .ok (r', m')) :
    r'.Runs [] ∧ m'.Holds size (record :: r'.records) := by
  refine loadAll_keeps (P := fun r m => r.Runs [] ∧ m.Holds size (record :: r.records)) ?_
    ⟨runs, holds⟩ done
  rintro r r' m m' id name owner priority entry ⟨runs, holds⟩ loaded
  obtain ⟨address, i, allocated, runs', arrived⟩ := runs.load loaded
  refine ⟨runs', (holds.allocate allocated).perm ?_⟩
  exact ((arrived.records_perm.cons record).trans (List.Perm.swap address record _)).symm

theorem ok_of_mapError {ε ε' α : Type} {f : ε → ε'} {result : Except ε α} {a : α}
    (done : result.mapError f = .ok a) : result = .ok a := by
  cases result with
  | error e => cases done
  | ok a' =>
    cases done
    rfl

theorem memoryOf_heap {m : Memory} (heap : c.memory = .heap) (done : memoryOf c = .ok m) :
    0 < c.heapSize ∧ m.Holds c.heapSize [] := by
  unfold memoryOf at done
  rw [heap] at done
  cases created : Heap.create c.heapSize with
  | error cause =>
    rw [created] at done
    cases done
  | ok h =>
    rw [created] at done
    simp only [] at done
    split at done
    · cases done
      exact ⟨Nat.zero_lt_of_lt (Heap.create_eq_ok created).1, Memory.Holds.create created⟩
    · cases done

/-- What a kernel is like when it comes up. -/
theorem boot_eq (booted : boot c uart = .ok k) :
    ∃ m port record m₁ r m₂, memoryOf c = .ok m ∧
      (SerialPort.create uart c.serial.base).openWith (some Shared.empty.addFlag.1)
        c.serial.baudRate.toNat = .ok port ∧
      m.allocate deviceRecordSize = .ok (record, m₁) ∧
      loadAll .empty m₁ c.processes = .ok (r, m₂) ∧
      k = {
        config := c
        memory := m₂
        registry := r.resumeAll.2
        device := .create .serial Shared.empty.addFlag.1 port
        shared := Shared.empty.addFlag.2.modifyFlag Shared.empty.addFlag.1 (·.raise)
        slot := .empty
        running := none
        bootContext := none
        halted := none
        switches := 0
        deviceRecord := some record
        shutdownRequested := false } := by
  obtain ⟨m, made, rest⟩ := ok_of_bind booted
  obtain ⟨port, opened, rest⟩ := ok_of_bind rest
  obtain ⟨⟨record, m₁⟩, allocated, rest⟩ := ok_of_bind rest
  obtain ⟨⟨r, m₂⟩, loaded, rest⟩ := ok_of_bind rest
  cases rest
  exact ⟨m, port, record, m₁, r, m₂, made, ok_of_mapError opened, ok_of_mapError allocated,
    ok_of_mapError loaded, rfl⟩

/-- A kernel comes up with the record of the device and those of its processes. -/
theorem boot_spec (heap : c.memory = .heap) (booted : boot c uart = .ok k) :
    0 < c.heapSize ∧ k.running = none ∧ ∃ record, Accounts c.heapSize (some record) k [] := by
  obtain ⟨m, port, record, m₁, r, m₂, made, -, allocated, loaded, rfl⟩ := boot_eq booted
  obtain ⟨pos, holds⟩ := memoryOf_heap heap made
  obtain ⟨runs, holds⟩ := loadAll_spec runs_empty (holds.allocate allocated) loaded
  obtain ⟨order, hs⟩ := runs.sound
  obtain ⟨order', sound, steady⟩ := hs.resumeAll
  refine ⟨pos, rfl, record, runs.steady ⟨order', sound⟩ steady, rfl, ?_, nofun⟩
  rw [← steady.toSameRecords.records_eq] at holds
  simp only [owned, Device.records, Device.create, Option.toList_some, List.map_nil,
    List.append_nil]
  exact holds

/-- A kernel without processes comes up if its heap has room for the record of the device. -/
theorem boot_ok (heap : c.memory = .heap) (alone : c.processes = [])
    (room : deviceRecordSize + 2 * overhead ≤ c.heapSize) (small : c.heapSize < UInt32.size)
    (supported : (BaudRate.ofRate? c.serial.baudRate.toNat).isSome) : ∃ k, boot c uart = .ok k := by
  have low : overhead < c.heapSize := by
    have pos : 0 < deviceRecordSize := by decide
    omega
  obtain ⟨h, created, laidOut, capacity⟩ := Heap.create_ok low small
  have empty : h.isEmpty = true := by
    have head : h.allocatedHead = none := laidOut.indexed.head .allocated
    rw [Heap.isEmpty, head]
    rfl
  have made : memoryOf c = .ok (.heap h) := by
    rw [memoryOf, heap, created]
    simp only [empty, if_true]
  have fits : Block.Fits deviceRecordSize ⟨0, .free, c.heapSize - overhead⟩ := by
    refine ⟨rfl, ?_⟩
    simp only []
    omega
  have laidOut : h.LaidOut ([] ++ ⟨0, .free, c.heapSize - overhead⟩ :: []) := laidOut
  obtain ⟨h', allocated, -⟩ := laidOut.allocate (by decide) fits (List.forall_mem_nil _)
  have granted : (Memory.heap h).allocate deviceRecordSize = .ok (headerSize, .heap h') := by
    rw [Memory.allocate, allocated]
    rfl
  obtain ⟨port, opened⟩ :=
    SerialPort.openWith_ok uart Shared.empty.addFlag.1 c.serial.base supported
  unfold boot
  rw [made]
  simp only [bind, Except.bind, opened, Except.mapError, granted, alone, loadAll]
  exact ⟨_, rfl⟩

end Kernel

/-- A call of a kernel from outside. -/
inductive KernelCall where
  | dispatch (saved : Context)
  | syscall (r : Request) (saved : Context)
  | request (r : Request)
  | post (r : Request)
  | serviceInterrupts
  | create (name : String) (owner : ProcessClass) (priority : Nat)
  | load (name : String) (owner : ProcessClass) (priority : Nat) (entry : UInt32)
  | delete (name : String)
  | block (name : String)
  | unblock (name : String)
  | suspend (name : String)
  | resume (name : String)
  | resumeAll
  | setPriority (name : String) (priority : Nat)
  | requestShutdown
  | shutdown
  /-- Processes use their buffers, and something happens on the line. -/
  | outside (shared : Shared) (uart : Uart)

namespace Kernel

open Registry ProcessTable

variable {k k' : Kernel} {who : List ProcessId} {size : Nat} {device : Option Nat}
  {c : KernelConfig} {uart : Uart}

/-- The kernel that is part of what an operation answered, or the old one if it failed. -/
def update {ε α : Type} (k : Kernel) (result : Except ε α) (part : α → Kernel) : Kernel :=
  match result with
  | .ok a => part a
  | .error _ => k

/-- What a call makes of the kernel. -/
def call (k : Kernel) : KernelCall → Kernel
  | .dispatch saved => (k.dispatch saved).2
  | .syscall r saved => (k.syscall r saved).2
  | .request r => k.update (k.request r) id
  | .post r => k.post r
  | .serviceInterrupts => k.serviceInterrupts.2
  | .create name owner priority => k.update (k.create name owner priority) (·.2)
  | .load name owner priority entry => k.update (k.load name owner priority entry) (·.2)
  | .delete name => k.update (k.delete name) (·.2)
  | .block name => k.update (k.block name) (·.2)
  | .unblock name => k.update (k.unblock name) (·.2)
  | .suspend name => (k.suspend name).2
  | .resume name => (k.resume name).2
  | .resumeAll => k.resumeAll.2
  | .setPriority name priority => k.update (k.setPriority name priority) id
  | .requestShutdown => k.requestShutdown
  | .shutdown => k.shutdown.2
  | .outside shared uart => { k with shared, device.port := k.device.port.onUart fun _ => uart }

/-- A call that is logged. -/
def logged (k : Kernel) : KernelCall → Logged Kernel
  | .dispatch saved => do
    let (_, k) ← Logged.dispatch k saved
    return k
  | .syscall r saved => do
    let (_, k) ← Logged.syscall k r saved
    return k
  | .request r => return k.update (k.request r) id
  | .post r => return k.post r
  | .serviceInterrupts => return k.serviceInterrupts.2
  | .create name owner priority => do
    return k.update (← Logged.create k.registry k.memory name owner priority)
      fun (_, registry, memory) => { k with registry, memory }
  | .load name owner priority entry => do
    return k.update (← Logged.load k.registry k.memory name owner priority entry)
      fun (_, registry, memory) => { k with registry, memory }
  | .delete name => do return k.update (← Logged.deleteProcess k name) (·.2)
  | .block name => do
    return k.update (← Logged.shiftByName k.registry name blockTarget)
      fun (_, registry) => { k with registry }
  | .unblock name => do
    return k.update (← Logged.shiftByName k.registry name unblockTarget)
      fun (_, registry) => { k with registry }
  | .suspend name => do
    let (_, registry) ← Logged.shiftKnown k.registry name suspendTarget
    return { k with registry }
  | .resume name => do
    let (_, registry) ← Logged.shiftKnown k.registry name resumeTarget
    return { k with registry }
  | .resumeAll => do
    let (_, registry) ← Logged.resumeAll k.registry
    return { k with registry }
  | .setPriority name priority => do
    return k.update (← Logged.setPriority k.registry name priority)
      fun registry => { k with registry }
  | .requestShutdown => return k.requestShutdown
  | .shutdown => do
    let (_, k) ← Logged.shutdown k
    return k
  | .outside shared uart =>
    return { k with shared, device.port := k.device.port.onUart fun _ => uart }

theorem value_logged (k : Kernel) (c : KernelCall) : (k.logged c).value = k.call c := by
  cases c with
  | create name owner priority =>
    simp only [logged, Logged.value_bind, Logged.value_create, Logged.value_pure, call, create]
    cases k.registry.create k.memory name owner priority <;> rfl
  | load name owner priority entry =>
    simp only [logged, Logged.value_bind, Logged.value_load, Logged.value_pure, call, load]
    cases k.registry.load k.memory name owner priority entry <;> rfl
  | block name =>
    simp only [logged, Logged.value_bind, Logged.value_block, Logged.value_pure, call, block]
    cases k.registry.block name <;> rfl
  | unblock name =>
    simp only [logged, Logged.value_bind, Logged.value_unblock, Logged.value_pure, call, unblock]
    cases k.registry.unblock name <;> rfl
  | setPriority name priority =>
    simp only [logged, Logged.value_bind, Logged.value_setPriority, Logged.value_pure, call,
      setPriority]
    cases k.registry.setPriority name priority <;> rfl
  | _ => simp [logged, call, suspend, resume, resumeAll]

/-- Everything that a trap gives back can be given back: what the process that ran leaves behind if
it ends, and the record of the transfer that is started next. -/
def DispatchFrees (k : Kernel) (saved : Context) : Prop :=
  k.halted = none →
    (∀ id ∈ k.running, ∀ p, k.registry.get id = some p →
      k.memory.Frees (k.device.held id ++ [p.record])) ∧
    ∀ kept k', k.enter saved = (.ok kept, k') → k'.memory.Frees (k'.device.records.take 1)

/-- Everything that a call gives back can be given back. Only traps, deleting and shutting down give
anything back. -/
def CallFrees (k : Kernel) : KernelCall → Prop
  | .dispatch saved => k.DispatchFrees saved
  | .syscall r saved => ∀ k', k.request r = .ok k' → k'.DispatchFrees saved
  | .delete name => ∀ i p, k.registry.table.position name = some i →
      k.registry.table.process? i = some p → p.state ≠ .running →
        k.memory.Frees (p.record :: k.device.held (k.registry.table.idAt i))
  | .shutdown => k.ShutdownFrees
  | _ => True

/-! ### Calls -/

/-- Between two traps the kernel accounts for its records. -/
abbrev Balanced (size : Nat) (device : Option Nat) (k : Kernel) : Prop :=
  BetweenTraps (Accounts size device) k

/-! ### What a call has done -/

section Done

variable {name : String} {result : ProcessId × Kernel} {changed : Bool × Kernel} {priority : Nat}

theorem create_ok {owner : ProcessClass} (done : k.create name owner priority = .ok result) :
    ∃ id r m, k.registry.create k.memory name owner priority = .ok (id, r, m) ∧
      result = (id, { k with registry := r, memory := m }) := by
  obtain ⟨⟨id, r, m⟩, created, rest⟩ := ok_of_bind done
  cases rest
  exact ⟨id, r, m, created, rfl⟩

theorem load_ok {owner : ProcessClass} {entry : UInt32}
    (done : k.load name owner priority entry = .ok result) :
    ∃ id r m, k.registry.load k.memory name owner priority entry = .ok (id, r, m) ∧
      result = (id, { k with registry := r, memory := m }) := by
  obtain ⟨⟨id, r, m⟩, loaded, rest⟩ := ok_of_bind done
  cases rest
  exact ⟨id, r, m, loaded, rfl⟩

theorem delete_ok (done : k.delete name = .ok result) :
    ∃ id r m, k.registry.delete k.memory name = .ok (id, r, m) ∧
      result = (id, Kernel.cancelTransfers { k with registry := r, memory := m } id) := by
  obtain ⟨⟨id, r, m⟩, deleted, rest⟩ := ok_of_bind done
  cases rest
  exact ⟨id, r, m, deleted, rfl⟩

theorem block_ok (done : k.block name = .ok changed) :
    ∃ b r, k.registry.block name = .ok (b, r) ∧ changed = (b, { k with registry := r }) := by
  obtain ⟨⟨b, r⟩, blocked, rest⟩ := ok_of_bind done
  cases rest
  exact ⟨b, r, blocked, rfl⟩

theorem unblock_ok (done : k.unblock name = .ok changed) :
    ∃ b r, k.registry.unblock name = .ok (b, r) ∧ changed = (b, { k with registry := r }) := by
  obtain ⟨⟨b, r⟩, unblocked, rest⟩ := ok_of_bind done
  cases rest
  exact ⟨b, r, unblocked, rfl⟩

theorem setPriority_ok (done : k.setPriority name priority = .ok k') :
    ∃ r, k.registry.setPriority name priority = .ok r ∧ k' = { k with registry := r } := by
  obtain ⟨r, changed, rest⟩ := ok_of_bind done
  cases rest
  exact ⟨r, changed, rfl⟩

theorem request_ok {r : Request} (done : k.request r = .ok k') : k' = k.post r := by
  obtain ⟨-, -, rest⟩ := ok_of_bind done
  cases rest
  rfl

end Done

/-! ### What is given back on the way -/

/-- Whatever a trap gives back is taken back. -/
theorem DispatchFrees.logged {saved : Context} (h : k.DispatchFrees saved)
    (runs : k.halted = none → k.registry.Runs k.running.toList) :
    (Logged.dispatch k saved).All Subcall.Repaid := by
  refine Logged.all_dispatch fun on => ?_
  obtain ⟨ends, completes⟩ := h on
  refine ⟨Logged.all_enter fun id member => ?_, fun kept k' entered => ⟨?_, ?_⟩⟩
  · obtain ⟨i, resolved⟩ := (runs on).resolves id (Option.mem_toList.mpr member)
    obtain ⟨p, found⟩ := live_iff.mp (resolve_eq_some.mp resolved).2.2
    have frees := ends id member p (Option.bind_eq_some_iff.mpr ⟨i, resolved, found⟩)
    obtain ⟨held, record⟩ := Logged.repaid_removal (k := k.inside) (runs on) resolved found frees
    exact ⟨trivial, Logged.repaid_parkBlocked, held, record⟩
  · refine Logged.all_poll (fun address first => ?_) fun _ _ => Logged.repaid_release
    have frees := completes kept k' entered
    cases records : k'.device.records with
    | nil =>
      rw [records] at first
      cases first
    | cons record rest =>
      rw [records] at first frees
      obtain ⟨m, done, -⟩ := frees
      rw [List.mem_singleton.mp first]
      exact ⟨m, done⟩
  · refine ⟨Logged.repaid_takeReadyHead, fun id _ => ?_, fun _ _ _ => trivial, fun _ _ => trivial⟩
    exact ⟨Logged.repaid_requeueYielded, fun _ _ _ => Logged.repaid_requeueYielded⟩

/-- Whatever a call gives back is taken back. -/
theorem CallFrees.logged {call : KernelCall} (h : k.CallFrees call)
    (between : BetweenTraps (fun k who => k.registry.Runs who) k) :
    (k.logged call).All Subcall.Repaid := by
  obtain ⟨who, -, running, runs⟩ := between
  have trapped : k.halted = none → k.registry.Runs k.running.toList := fun on =>
    running on ▸ runs
  unfold Kernel.logged
  cases call with
  | dispatch saved =>
    exact Logged.all_bind.mpr ⟨DispatchFrees.logged h trapped, Logged.all_pure _⟩
  | syscall r saved =>
    refine Logged.all_bind.mpr ⟨?_, Logged.all_pure _⟩
    unfold Logged.syscall
    cases left : k.request r with
    | error e => exact Logged.all_pure _
    | ok k' =>
      refine Logged.all_bind.mpr ⟨(h k' left).logged ?_, Logged.all_pure _⟩
      rw [request_ok left]
      exact trapped
  | create => exact Logged.all_bind.mpr ⟨Logged.repaid_create, Logged.all_pure _⟩
  | load => exact Logged.all_bind.mpr ⟨Logged.repaid_load, Logged.all_pure _⟩
  | delete => exact Logged.all_bind.mpr ⟨Logged.repaid_deleteProcess runs h, Logged.all_pure _⟩
  | block | unblock =>
    exact Logged.all_bind.mpr ⟨Logged.repaid_shiftByName, Logged.all_pure _⟩
  | suspend | resume =>
    exact Logged.all_bind.mpr ⟨Logged.repaid_shiftKnown, Logged.all_pure _⟩
  | resumeAll => exact Logged.all_bind.mpr ⟨Logged.repaid_resumeAll, Logged.all_pure _⟩
  | setPriority => exact Logged.all_bind.mpr ⟨Logged.repaid_setPriority, Logged.all_pure _⟩
  | shutdown => exact Logged.all_bind.mpr ⟨ShutdownFrees.logged runs h, Logged.all_pure _⟩
  | request | post | serviceInterrupts | requestShutdown | outside => exact Logged.all_pure _

namespace Balanced

/-- Requests, the port and the buffers own no record. -/
theorem frame (hb : k.Balanced size device) (slot : RequestSlot) (port : SerialPort)
    (shared : Shared) (shutdownRequested : Bool) :
    Balanced size device
      { k with slot, shared, shutdownRequested, device := { k.device with port } } := by
  obtain ⟨who, one, running, ha⟩ := hb
  exact ⟨who, one, running, ha.runs, ha.device, ha.holds, ha.owners⟩

theorem registry (hb : k.Balanced size device) {r : Registry}
    (keeps : ∀ order, k.registry.Sound order → ∃ order', r.Sound order' ∧ k.registry.Steady r) :
    Balanced size device { k with registry := r } := by
  obtain ⟨who, one, running, ha⟩ := hb
  obtain ⟨order, hs⟩ := ha.runs.sound
  obtain ⟨order', sound, steady⟩ := keeps order hs
  exact ⟨who, one, running, ha.same (ha.runs.steady ⟨order', sound⟩ steady) steady.toSameRecords⟩

theorem update {ε α : Type} (hb : k.Balanced size device) {result : Except ε α} {part : α → Kernel}
    (keeps : ∀ a, result = .ok a → (part a).Balanced size device) :
    (k.update result part).Balanced size device := by
  cases result with
  | error e => exact hb
  | ok a => exact keeps a rfl

theorem create (hb : k.Balanced size device) {name : String} {owner : ProcessClass}
    {priority : Nat} {result : ProcessId × Kernel}
    (done : k.create name owner priority = .ok result) : result.2.Balanced size device := by
  obtain ⟨id, r, m, created, rfl⟩ := create_ok done
  obtain ⟨who, one, running, ha⟩ := hb
  obtain ⟨record, i, allocated, runs, arrived⟩ := ha.runs.create created
  exact ⟨who, one, running, ha.arrived runs allocated arrived⟩

theorem load (hb : k.Balanced size device) {name : String} {owner : ProcessClass}
    {priority : Nat} {entry : UInt32} {result : ProcessId × Kernel}
    (done : k.load name owner priority entry = .ok result) : result.2.Balanced size device := by
  obtain ⟨id, r, m, loaded, rfl⟩ := load_ok done
  obtain ⟨who, one, running, ha⟩ := hb
  obtain ⟨record, i, allocated, runs, arrived⟩ := ha.runs.load loaded
  exact ⟨who, one, running, ha.arrived runs allocated arrived⟩

theorem delete (hb : k.Balanced size device) {name : String} {result : ProcessId × Kernel}
    (done : k.delete name = .ok result) : result.2.Balanced size device := by
  obtain ⟨id, r, m, deleted, rfl⟩ := delete_ok done
  obtain ⟨who, one, running, ha⟩ := hb
  obtain ⟨i, p, resolved, found, rfl, runs, gone⟩ := ha.runs.delete deleted
  have after := (ha.gone resolved found runs gone (List.Perm.refl _)).2
  rw [List.foldl_cons, cancelTransfers_eq] at after
  refine ⟨who, one, running, ?_⟩
  rw [cancelTransfers_eq]
  exact after

theorem request (hb : k.Balanced size device) {r : Request} (done : k.request r = .ok k') :
    k'.Balanced size device := by
  rw [request_ok done]
  exact hb.frame _ _ _ _

theorem dispatch (hb : k.Balanced size device) (saved : Context) :
    (k.dispatch saved).2.Balanced size device :=
  (trapInvariant_accounts size device).dispatch hb saved

theorem syscall (hb : k.Balanced size device) (r : Request) (saved : Context) :
    (k.syscall r saved).2.Balanced size device := by
  unfold Kernel.syscall
  cases left : k.request r with
  | error e => exact hb
  | ok k' => exact (hb.request left).dispatch saved

theorem call (hb : k.Balanced size device) (c : KernelCall) (stays : c ≠ .shutdown) :
    (k.call c).Balanced size device := by
  cases c with
  | dispatch saved => exact hb.dispatch saved
  | syscall r saved => exact hb.syscall r saved
  | request r =>
    apply hb.update
    intro k' done
    exact hb.request done
  | create name owner priority =>
    apply hb.update
    intro result done
    exact hb.create done
  | load name owner priority entry =>
    apply hb.update
    intro result done
    exact hb.load done
  | delete name =>
    apply hb.update
    intro result done
    exact hb.delete done
  | block name =>
    apply hb.update
    intro result done
    obtain ⟨b, r, blocked, rfl⟩ := block_ok done
    exact hb.registry fun order hs => hs.block blocked
  | unblock name =>
    apply hb.update
    intro result done
    obtain ⟨b, r, unblocked, rfl⟩ := unblock_ok done
    exact hb.registry fun order hs => hs.unblock unblocked
  | suspend name => exact hb.registry fun order hs => hs.suspend name
  | resume name => exact hb.registry fun order hs => hs.resume name
  | resumeAll => exact hb.registry fun order hs => hs.resumeAll
  | setPriority name priority =>
    apply hb.update
    intro result done
    obtain ⟨r, changed, rfl⟩ := setPriority_ok done
    exact hb.registry fun order hs => hs.setPriority changed
  | shutdown => exact absurd rfl stays
  | post r => exact hb.frame _ _ _ _
  | serviceInterrupts => exact hb.frame _ _ _ _
  | requestShutdown => exact hb.frame _ _ _ _
  | outside shared uart => exact hb.frame _ _ _ _

theorem shutdown (hb : k.Balanced size device) (pos : 0 < size) :
    (k.call .shutdown).Balanced size none := by
  obtain ⟨who, -, -, ha⟩ := hb
  obtain ⟨-, k', done, after, running, -⟩ := ha.shutdown pos
  rw [Kernel.call, done]
  refine ⟨[], Nat.zero_le 1, fun _ => ?_, after⟩
  rw [running]
  rfl

/-- The device has its record until the kernel is shut down. -/
theorem calls (hb : k.Balanced size device) (pos : 0 < size) (calls : List KernelCall) :
    ∃ device', (.shutdown ∉ calls → device' = device) ∧ (.shutdown ∈ calls → device' = none) ∧
      (calls.foldl Kernel.call k).Balanced size device' := by
  induction calls generalizing k device with
  | nil => exact ⟨device, fun _ => rfl, nofun, hb⟩
  | cons c calls ih =>
    by_cases last : c = .shutdown
    · subst last
      obtain ⟨device', kept, lost, after⟩ := ih (hb.shutdown pos)
      refine ⟨device', fun absent => absurd List.mem_cons_self absent, fun _ => ?_, after⟩
      by_cases again : .shutdown ∈ calls
      · exact lost again
      · exact kept again
    · obtain ⟨device', kept, lost, after⟩ := ih (hb.call c last)
      refine ⟨device', fun absent => ?_, fun present => ?_, after⟩
      · exact kept fun member => absent (List.mem_cons_of_mem c member)
      · exact lost ((List.mem_cons.mp present).resolve_left (Ne.symm last))

theorem dispatchFrees (hb : k.Balanced size device) (saved : Context) : k.DispatchFrees saved := by
  obtain ⟨who, -, running, ha⟩ := hb
  intro on
  rw [running on] at ha
  refine ⟨?_, ?_⟩
  · intro id runs p got
    obtain ⟨i, resolved⟩ := ha.runs.resolves id (Option.mem_toList.mpr runs)
    rw [Registry.get, resolved, Option.bind_some] at got
    exact ha.frees_process resolved got List.perm_append_comm
  · intro kept k' entered
    obtain ⟨result, k₁, entered', -, after⟩ :=
      (trapInvariant_accounts size device).enter on ha saved
    rw [entered] at entered'
    cases entered'
    exact after.2.frees_first

theorem callFrees (hb : k.Balanced size device) (pos : 0 < size) (c : KernelCall) :
    k.CallFrees c := by
  cases c with
  | dispatch saved => exact hb.dispatchFrees saved
  | syscall r saved => exact fun k' left => (hb.request left).dispatchFrees saved
  | delete name =>
    obtain ⟨who, -, -, ha⟩ := hb
    intro i p _ found _
    exact ha.frees_process (resolve_idAt (live_iff.mpr ⟨p, found⟩)) found (List.Perm.refl _)
  | shutdown =>
    obtain ⟨who, -, -, ha⟩ := hb
    exact (ha.shutdown pos).1
  | request | post | serviceInterrupts | create | load | block | unblock | suspend | resume
  | resumeAll | setPriority | requestShutdown | outside => trivial

end Balanced

/-- The kernel accounts for every block that is in use, and can give back all of them. -/
structure Accountable (size : Nat) (k : Kernel) : Prop where
  /-- The blocks in use are the records, each of them once. -/
  exact : ∃ h, k.memory = .heap h ∧ (h.showAllocated.map (·.address)).Perm k.owned ∧ k.owned.Nodup
  owners : ∀ w ∈ k.device.waiting, ∃ p, k.registry.get w.transfer.owner = some p
  frees : ∀ next, k.CallFrees next
  /-- Whatever the next call gives back on its way is taken back. -/
  repaid : ∀ next, (k.logged next).value = k.call next ∧ ∀ c ∈ (k.logged next).log, c.Repaid
  shutdown : ∃ k', k.shutdown = (.ok (), k') ∧ k'.Down size

theorem Balanced.accountable (hb : k.Balanced size device) (pos : 0 < size) :
    k.Accountable size := by
  have frees := hb.callFrees pos
  obtain ⟨who, one, running, ha⟩ := hb
  have repaid (next : KernelCall) := (frees next).logged ⟨who, one, running, ha.runs⟩
  refine ⟨?_, ?_, frees, fun next => ⟨k.value_logged next, repaid next⟩, ?_⟩
  · obtain ⟨h, memory, shown⟩ := ha.holds.shown
    exact ⟨h, memory, shown, ha.holds.nodup⟩
  · intro w waits
    obtain ⟨i, resolved⟩ := ha.owners w waits
    obtain ⟨p, found⟩ := live_iff.mp (resolve_eq_some.mp resolved).2.2
    refine ⟨p, ?_⟩
    rw [Registry.get, resolved]
    exact found
  · obtain ⟨-, k', done, -, -, down⟩ := ha.shutdown pos
    exact ⟨k', done, down⟩

/-- Whatever a kernel with a heap has been through since it was booted, it accounts for its records.
The device has its own until the kernel is shut down. -/
theorem accountable_calls (heap : c.memory = .heap) (booted : boot c uart = .ok k)
    (calls : List KernelCall) :
    ∃ record, k.deviceRecord = some record ∧
      let k' := calls.foldl Kernel.call k
      k'.Accountable c.heapSize ∧ (.shutdown ∉ calls → k'.deviceRecord = some record) ∧
        (.shutdown ∈ calls → k'.deviceRecord = none) := by
  obtain ⟨pos, running, record, ha⟩ := boot_spec heap booted
  have start : k.Balanced c.heapSize (some record) := by
    refine ⟨[], Nat.zero_le 1, fun _ => ?_, ha⟩
    rw [running]
    rfl
  obtain ⟨device, kept, lost, after⟩ := start.calls pos calls
  refine ⟨record, ha.device, after.accountable pos, ?_, ?_⟩
  · intro absent
    obtain ⟨who, -, -, ha'⟩ := after
    rw [ha'.device]
    exact kept absent
  · intro present
    obtain ⟨who, -, -, ha'⟩ := after
    rw [ha'.device]
    exact lost present

/-- One process runs, and the other one is ready. -/
def session : List KernelCall :=
  [.create "shell" .user 5, .load "reader" .user 3 0x2000, .resumeAll, .dispatch .zero]

/-- Deleting the process that is ready takes it out of its queue and gives back its record. Shutting
down ends the one that runs. -/
theorem accountable_session : ∃ k, boot { processes := [] } (Uart.create com1 true) = .ok k ∧
    let k' := session.foldl Kernel.call k
    k'.runningName = some "shell" ∧ (k'.logged (.delete "reader")).log.length = 3 ∧
      k'.Accountable 50000 ∧ k'.deviceRecord.isSome ∧ (k'.call .shutdown).Accountable 50000 ∧
        (k'.call .shutdown).deviceRecord = none := by
  have ends : (boot { processes := [] } (Uart.create com1 true)).toOption.any (fun k =>
      let k' := session.foldl Kernel.call k
      k'.runningName = some "shell" ∧ (k'.logged (.delete "reader")).log.length = 3) := by
    decide +kernel
  obtain ⟨k, booted, seen⟩ := ok_of_any ends
  obtain ⟨running, length⟩ := of_decide_eq_true seen
  obtain ⟨record, -, before, there, -⟩ := accountable_calls rfl booted session
  obtain ⟨-, -, after, -, gone⟩ := accountable_calls rfl booted (session ++ [.shutdown])
  rw [List.foldl_append, List.foldl_cons, List.foldl_nil] at after gone
  have stays : .shutdown ∉ session := by simp [session]
  have device : (session.foldl Kernel.call k).deviceRecord.isSome :=
    Option.isSome_iff_exists.mpr ⟨record, there stays⟩
  exact ⟨k, booted, running, length, before, device, after, gone (by simp)⟩

end Kernel

end TrapKernel
