import TrapKernel.Device
import TrapKernel.Kernel.Config
import TrapKernel.Kernel.Error
import TrapKernel.Process.Registry

/-!
# The kernel

Everything that a kernel keeps between two traps, how it comes up and how it goes down, and the
operations that the outside may call between traps. Taking a trap is the work of `dispatch`.
-/

namespace TrapKernel

/-- Bytes of memory that the record of the serial device takes. -/
def deviceRecordSize : Nat := 256

/-- The state of a kernel. -/
structure Kernel where
  config : KernelConfig
  memory : Memory
  registry : Registry
  device : Device
  /-- The buffers of the processes, and the flag of the device. -/
  shared : Shared
  slot : RequestSlot
  /-- The process that the last trap resumed. -/
  running : Option ProcessId
  /-- The context of the code that booted the kernel. -/
  bootContext : Option Context
  /-- The condition that halted the kernel. -/
  halted : Option Fatal
  /-- How often a process was resumed. It grows by at most one with each trap: a counter of 64 bits
  holds it in every run that ends within centuries. -/
  switches : Nat
  /-- The address of the record of the device, until it is given back. -/
  deviceRecord : Option Nat
  /-- The next trap returns to the boot context. -/
  shutdownRequested : Bool

namespace Kernel

/-! ### Booting -/

/-- The memory that a configuration asks for. -/
def memoryOf (c : KernelConfig) : Except KernelError Memory :=
  match c.memory with
  | .bump => .ok (.bump (.create c.heapSize))
  | .heap =>
    match Heap.create c.heapSize with
    | .error cause => .error (.memory cause)
    | .ok heap => if heap.isEmpty then .ok (.heap heap) else .error (.heapNotEmpty "at boot")

/-- Load the processes of a configuration, in their order. -/
def loadAll (r : Registry) (m : Memory) :
    List ProcessConfig → Except RegistryError (Registry × Memory)
  | [] => .ok (r, m)
  | p :: ps => do
    let (_, r, m) ← r.load m p.name p.owner p.priority.toNat p.entry
    loadAll r m ps

/-- Bring up a kernel on a UART: open the serial port, load the processes of the configuration and
resume them. The flag of the port is raised until the first transfer starts. -/
def boot (c : KernelConfig) (uart : Uart) : Except KernelError Kernel := do
  let memory ← memoryOf c
  let (event, shared) := Shared.empty.addFlag
  let shared := shared.modifyFlag event (·.raise)
  let port ← (SerialPort.create uart c.serial.base).openWith (some event) c.serial.baudRate.toNat
    |>.mapError .openFailed
  let (record, memory) ← memory.allocate deviceRecordSize |>.mapError .memory
  let (registry, memory) ← loadAll .empty memory c.processes |>.mapError .registry
  return {
    config := c
    memory := memory
    registry := registry.resumeAll.2
    device := .create .serial event port
    shared := shared
    slot := .empty
    running := none
    bootContext := none
    halted := none
    switches := 0
    deviceRecord := some record
    shutdownRequested := false }

/-! ### Requests and interrupts -/

/-- The name of the process that the last trap resumed. -/
def runningName (k : Kernel) : Option String :=
  (k.running.bind k.registry.get).map (·.name)

/-- Add a buffer for the processes to use. -/
def addBuffer (k : Kernel) (b : Buffer) : BufferId × Kernel :=
  let (id, shared) := k.shared.addBuffer b
  (id, { k with shared })

/-- Leave a request for the next trap, whatever it asks for. -/
def post (k : Kernel) (r : Request) : Kernel := { k with slot := k.slot.post r }

/-- Leave a request for the next trap, if the kernel will accept it. -/
def request (k : Kernel) (r : Request) : Except RequestError Kernel := do
  let _ ← r.validate k.shared
  return k.post r

/-- Bytes arrive at the serial port. -/
def inject (k : Kernel) (bytes : List UInt8) : Kernel :=
  { k with device.port := k.device.port.onUart (·.inject bytes) }

/-- Take the interrupts of the serial port. The answer counts them. -/
def serviceInterrupts (k : Kernel) : Nat × Kernel :=
  let (count, port, shared) := k.device.port.serviceInterrupts k.shared
  (count, { k with device.port := port, shared })

/-! ### Processes -/

/-- Create a process that is ready to run. -/
def create (k : Kernel) (name : String) (owner : ProcessClass) (priority : Nat) :
    Except RegistryError (ProcessId × Kernel) := do
  let (id, registry, memory) ← k.registry.create k.memory name owner priority
  return (id, { k with registry, memory })

/-- Create a process that is suspended and starts at `entry` once it is resumed. -/
def load (k : Kernel) (name : String) (owner : ProcessClass) (priority : Nat) (entry : UInt32) :
    Except RegistryError (ProcessId × Kernel) := do
  let (id, registry, memory) ← k.registry.load k.memory name owner priority entry
  return (id, { k with registry, memory })

/-- Drop the transfers of a process that wait for the device. -/
def cancelTransfers (k : Kernel) (id : ProcessId) : Kernel :=
  let (_, device, memory) := k.device.cancel k.memory id
  { k with device, memory }

/-- Remove a process that is not running, together with its transfers that wait. -/
def delete (k : Kernel) (name : String) : Except RegistryError (ProcessId × Kernel) := do
  let (id, registry, memory) ← k.registry.delete k.memory name
  return (id, { k with registry, memory }.cancelTransfers id)

/-- Block a process. The answer is false if it was blocked already. -/
def block (k : Kernel) (name : String) : Except RegistryError (Bool × Kernel) := do
  let (changed, registry) ← k.registry.block name
  return (changed, { k with registry })

/-- Unblock a process. The answer is false if it was not blocked. -/
def unblock (k : Kernel) (name : String) : Except RegistryError (Bool × Kernel) := do
  let (changed, registry) ← k.registry.unblock name
  return (changed, { k with registry })

/-- Suspend a process. The answer is false if it is suspended, running or unknown. -/
def suspend (k : Kernel) (name : String) : Bool × Kernel :=
  let (changed, registry) := k.registry.suspend name
  (changed, { k with registry })

/-- Resume a process. The answer is false if it is not suspended. -/
def resume (k : Kernel) (name : String) : Bool × Kernel :=
  let (changed, registry) := k.registry.resume name
  (changed, { k with registry })

/-- Resume every suspended process. The answer counts them. -/
def resumeAll (k : Kernel) : Nat × Kernel :=
  let (count, registry) := k.registry.resumeAll
  (count, { k with registry })

/-- Change the priority of a process. -/
def setPriority (k : Kernel) (name : String) (priority : Nat) : Except RegistryError Kernel := do
  return { k with registry := ← k.registry.setPriority name priority }

/-! ### Shutting down -/

/-- Let the next trap return to the boot context. -/
def requestShutdown (k : Kernel) : Kernel := { k with shutdownRequested := true }

/-- Close the serial port, if it is open. -/
def closePort (k : Kernel) : Except CloseError Kernel :=
  if k.device.port.isOpen then do return { k with device.port := ← k.device.port.close }
  else .ok k

/-- Remove processes, running or not, with their transfers that wait. At an error the rest of them
stays. -/
def destroyAll (k : Kernel) : List ProcessId → Except RegistryError Unit × Kernel
  | [] => (.ok (), k)
  | id :: ids =>
    let k := k.cancelTransfers id
    match k.registry.destroy k.memory id with
    | .error cause => (.error cause, k)
    | .ok (registry, memory) => { k with registry, memory }.destroyAll ids

/-- Give back the record of the device, unless it was given back before. -/
def releaseDeviceRecord (k : Kernel) : Kernel :=
  match k.deviceRecord with
  | none => k
  | some record => { k with memory := k.memory.release record, deviceRecord := none }

/-- Every block of a heap was given back. -/
def heapIsEmpty (k : Kernel) : Bool := k.memory.heap?.all (·.isEmpty)

/-- Close the port and give back every record. If then a block of a heap is still in use, that is
an error. -/
def shutdown (k : Kernel) : Except KernelError Unit × Kernel :=
  match k.closePort with
  | .error cause => (.error (.closeFailed cause), k)
  | .ok k =>
    match k.destroyAll k.registry.ids with
    | (.error cause, k) => (.error (.registry cause), k)
    | (.ok (), k) =>
      let k := { k with running := none }.releaseDeviceRecord
      if k.heapIsEmpty then (.ok (), k) else (.error (.heapNotEmpty "after shutdown"), k)

/-- The text that shows a kernel. -/
def debug (k : Kernel) : String :=
  Text.record "Kernel" [("running", Text.option (k.running.map (·.debug))),
    ("registry", k.registry.debug), ("io", k.device.debug),
    ("shutdown", toString k.shutdownRequested)]

end Kernel

end TrapKernel
