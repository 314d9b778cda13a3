import TrapKernel.Memory
import TrapKernel.Process.State
import TrapKernel.Request
import TrapKernel.Serial.Port

/-!
# Devices

A device carries out one transfer at a time; the others wait in the order in which they were
submitted. A waiting transfer holds a block of memory until it is started or cancelled.

The driver raises the flag of the device when a transfer ends. Nothing happens at that moment:
`checkCompletion` is asked now and then, gives back the owner of the finished transfer and starts
the next one.
-/

namespace TrapKernel

/-- Bytes of memory that a waiting transfer takes. -/
def transferRecordSize : Nat := 32

/-- A transfer for a process, which waits until it ends. -/
structure Transfer where
  direction : Direction
  device : DeviceId
  buffer : BufferId
  owner : ProcessId
  deriving DecidableEq, Repr

/-- A transfer that waits for the device. -/
structure WaitingTransfer where
  transfer : Transfer
  /-- The address of the block that it holds. -/
  record : Nat
  deriving DecidableEq, Repr

/-- What became of a transfer that was submitted. -/
inductive Submitted where
  /-- The driver has it. -/
  | started
  /-- It waits behind another one. -/
  | queued
  deriving DecidableEq, Repr

/-- The name of an outcome. -/
def Submitted.name : Submitted → String
  | started => "Started"
  | queued => "Queued"

/-- Why a transfer was not accepted. -/
inductive SubmitError where
  /-- There is no memory for a transfer that would have to wait. -/
  | outOfMemory (cause : MemoryError)
  | unknownDevice (device : DeviceId)
  deriving DecidableEq, Repr

namespace SubmitError

/-- The sentence that reports an error. -/
def message : SubmitError → String
  | outOfMemory cause => "no memory to queue I/O request: " ++ cause.message
  | unknownDevice device => "no device with id " ++ device.text

/-- The code that a process sees. -/
def code : SubmitError → Int
  | outOfMemory _ => -501
  | unknownDevice _ => -502

end SubmitError

/-- A device: its driver, the transfer in flight and those that wait. -/
structure Device where
  id : DeviceId
  /-- The flag that tells that the transfer in flight has ended. -/
  event : FlagId
  port : SerialPort
  active : Option Transfer
  /-- The first one is started next. -/
  waiting : List WaitingTransfer

namespace Device

/-- A device that has nothing to do. -/
def create (id : DeviceId) (event : FlagId) (port : SerialPort) : Device :=
  ⟨id, event, port, none, []⟩

/-- A transfer is in flight. -/
def isBusy (d : Device) : Bool := d.active.isSome

/-- The process for which the transfer in flight is done. -/
def activeOwner (d : Device) : Option ProcessId := d.active.map (·.owner)

/-- Hand a transfer to the driver. A transfer that the driver refuses ends at once: its buffer gets
the code of the error, and the flag is raised. -/
def start (d : Device) (s : Shared) (t : Transfer) : Device × Shared :=
  let s := s.modifyFlag d.event (·.clear)
  match d.port.transfer s t.direction t.buffer with
  | .ok (port, s) => ({ d with port, active := some t }, s)
  | .error e =>
    let s := s.modifyBuffer t.buffer (·.fail (e.code t.direction))
    ({ d with active := some t }, s.modifyFlag d.event (·.raise))

/-- Accept a transfer: start it if the device has nothing to do, let it wait otherwise. -/
def submit (d : Device) (s : Shared) (m : Memory) (t : Transfer) :
    Except SubmitError (Submitted × Device × Shared × Memory) :=
  if t.device ≠ d.id then .error (.unknownDevice t.device)
  else if d.isBusy then
    match m.allocate transferRecordSize with
    | .error cause => .error (.outOfMemory cause)
    | .ok (record, m) => .ok (.queued, { d with waiting := d.waiting ++ [⟨t, record⟩] }, s, m)
  else
    let (d, s) := d.start s t
    .ok (.started, d, s, m)

/-- Start the first transfer that waits, if there is one. -/
def startNext (d : Device) (s : Shared) (m : Memory) : Device × Shared × Memory :=
  match d.waiting with
  | [] => (d, s, m)
  | next :: waiting =>
    let (d, s) := { d with waiting }.start s next.transfer
    (d, s, m.release next.record)

/-- Ask whether the transfer in flight has ended. If so, the answer is its owner, and the next
transfer is started. -/
def checkCompletion (d : Device) (s : Shared) (m : Memory) :
    Option ProcessId × Device × Shared × Memory :=
  if (s.flag d.event).isSet then
    match d.active with
    | none => (none, d, s, m)
    | some finished => (some finished.owner, { d with active := none }.startNext s m)
  else (none, d, s, m)

/-- Drop the waiting transfers of a process. The answer counts them. The transfer in flight is not
touched. -/
def cancel (d : Device) (m : Memory) (owner : ProcessId) : Nat × Device × Memory :=
  let (dropped, waiting) := d.waiting.partition (·.transfer.owner = owner)
  (dropped.length, { d with waiting }, dropped.foldl (fun m t => m.release t.record) m)

/-- The text that shows a device. -/
def debug (d : Device) : String :=
  Text.record "IoScheduler" [("device", "DeviceId(" ++ d.id.text ++ ")"),
    ("active", Text.option (d.activeOwner.map (·.debug))),
    ("pending", toString d.waiting.length)]

end Device

end TrapKernel
