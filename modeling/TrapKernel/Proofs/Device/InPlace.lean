import TrapKernel.Device
import TrapKernel.Proofs.Memory.InPlace
import TrapKernel.Proofs.Serial.Driving

/-!
# Submitting step by step

Here a transfer is submitted as it runs: one step after the other on the device, the buffers and
flags that its driver shares, and the memory. The driver and the memory run in place as well, so
what they wrote before they refused stays written. The steps do what `Device.submit` does, and a
transfer that is not accepted leaves everything as it was.
-/

namespace TrapKernel

/-- Steps on a device, on what its driver shares, and on the memory. -/
abbrev DeviceSteps := Steps (Device × Shared × Memory) SubmitError

namespace DeviceSteps

open Steps

variable {d : Device} {s : Shared} {m : Memory}

/-- Write the device. -/
def device (f : Device → Device) : DeviceSteps Unit := modify fun (d, s, m) => (f d, s, m)

/-- Write what the driver shares. -/
def shared (f : Device → Shared → Shared) : DeviceSteps Unit :=
  modify fun (d, s, m) => (d, f d s, m)

/-- Take a block for a transfer that has to wait. -/
def reserve : DeviceSteps Nat := do
  let (d, s, m) ← get
  let (answer, m) := m.allocating transferRecordSize
  set (d, s, m)
  match answer with
  | .error cause => throw (.outOfMemory cause)
  | .ok record => return record

/-- Ask the driver for a transfer. -/
def drive (direction : Direction) (id : BufferId) :
    DeviceSteps (Except TransferError Unit) := do
  let (d, s, m) ← get
  let (answer, port, s) := (PortCall.transfer direction id).steps.after (d.port, s)
  set ({ d with port }, s, m)
  return answer

/-- Hand a transfer to the driver. One that the driver refuses ends at once. -/
def start (t : Transfer) : DeviceSteps Unit := do
  shared fun d s => s.modifyFlag d.event (·.clear)
  match ← drive t.direction t.buffer with
  | .ok () => device ({ · with active := some t })
  | .error e =>
    shared fun _ s => s.modifyBuffer t.buffer (·.fail (e.code t.direction))
    shared fun d s => s.modifyFlag d.event (·.raise)
    device ({ · with active := some t })

/-- Accept a transfer: start it if the device has nothing to do, let it wait otherwise. -/
def submit (t : Transfer) : DeviceSteps Submitted := do
  if t.device ≠ (← look (·.1.id)) then
    throw (.unknownDevice t.device)
  if ← look (·.1.isBusy) then
    let record ← reserve
    device fun d => { d with waiting := d.waiting ++ [⟨t, record⟩] }
    return .queued
  else
    start t
    return .started

/-! ### They are the operations -/

@[simp] theorem after_device (f : Device → Device) :
    (device f).after (d, s, m) = (.ok (), f d, s, m) := rfl

@[simp] theorem after_shared (f : Device → Shared → Shared) :
    (shared f).after (d, s, m) = (.ok (), d, f d s, m) := rfl

theorem after_reserve (settles : m.Settles) : reserve.after (d, s, m) =
    match m.allocate transferRecordSize with
    | .error cause => (.error (.outOfMemory cause), d, s, m)
    | .ok (record, m') => (.ok record, d, s, m') := by
  have answer := settles.allocating transferRecordSize
  simp only [reserve, after_bind, after_get, answer]
  cases m.allocate transferRecordSize <;> rfl

theorem after_drive (direction : Direction) (id : BufferId) :
    (drive direction id).after (d, s, m) =
      match d.port.transfer s direction id with
      | .ok (port, s') => (.ok (.ok ()), { d with port }, s', m)
      | .error e => (.ok (.error e), d, s, m) := by
  simp only [drive, after_bind, after_get, PortCall.after_steps]
  simp only [PortCall.result]
  cases d.port.transfer s direction id <;> rfl

theorem after_start (t : Transfer) :
    (start t).after (d, s, m) = (.ok (), (d.start s t).1, (d.start s t).2, m) := by
  simp only [start, after_bind, after_shared, after_drive, Device.start]
  cases d.port.transfer (s.modifyFlag d.event (·.clear)) t.direction t.buffer <;> rfl

/-- A transfer is refused before anything is written. -/
theorem after_submit (settles : m.Settles) (t : Transfer) :
    (submit t).after (d, s, m) = settled (d, s, m) (d.submit s m t) := by
  unfold submit Device.submit
  simp only [after_bind, after_look]
  by_cases other : t.device ≠ d.id
  · rw [if_pos other, if_pos other]
    rfl
  rw [if_neg other, if_neg other]
  simp only [after_bind, after_look]
  by_cases busy : d.isBusy = true
  · rw [if_pos busy, if_pos busy]
    simp only [after_bind, after_reserve settles]
    cases m.allocate transferRecordSize <;> rfl
  · rw [if_neg busy, if_neg busy]
    simp only [after_bind, after_start]
    rfl

end DeviceSteps

end TrapKernel
