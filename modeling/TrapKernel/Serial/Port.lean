import TrapKernel.Serial.Baud
import TrapKernel.Serial.Error
import TrapKernel.Serial.Ring
import TrapKernel.Serial.Shared
import TrapKernel.Serial.Uart

/-!
# The serial port driver

The driver of a UART. A port is opened with a flag that it raises whenever a transfer ends. At most
one transfer runs at a time:

* a read takes the bytes that wait in the ring, then the bytes that arrive, until it has as many
  as were asked for or meets the end of a line;
* a write sends its first byte at once and each further byte when the transmitter is empty.

Interrupts do the rest of both, one byte each. Bytes that arrive while nobody reads wait in the
ring.
-/

namespace TrapKernel

/-- Bytes of room in the ring of a port. -/
def ringCapacity : Nat := 200

/-- The handler that is installed while a port is open. -/
def handlerGate : Nat := 0x5E71A100

/-- How many interrupts are taken in a row at most. -/
def maxInterruptsPerPoll : Nat := 4096

/-- What a device is doing. -/
inductive DeviceStatus where
  | idle
  | reading
  | writing
  deriving DecidableEq, Repr

/-- The name of a status. -/
def DeviceStatus.name : DeviceStatus → String
  | idle => "Idle"
  | reading => "Reading"
  | writing => "Writing"

/-- A transfer in one direction. -/
structure Progress where
  /-- The buffer, until the transfer ends. -/
  buffer : Option BufferId
  requested : Nat
  done : Nat
  deriving DecidableEq, Repr

namespace Progress

/-- No transfer was ever started. -/
def idle : Progress := ⟨none, 0, 0⟩

/-- As many bytes were moved as were asked for. -/
def isSatisfied (p : Progress) : Bool := p.requested ≤ p.done

end Progress

/-- A serial port and the device it drives. -/
structure SerialPort where
  uart : Uart
  /-- The port of the first register, as the driver believes. -/
  base : UInt16
  isOpen : Bool
  /-- The flag to raise when a transfer ends. -/
  event : Option FlagId
  status : DeviceStatus
  input : Progress
  output : Progress
  ring : Ring ringCapacity
  /-- The handler to put back when the port is closed. -/
  savedGate : Option Nat

namespace SerialPort

/-- The end of a line: carriage return or line feed. -/
def isTerminator (byte : UInt8) : Bool := byte = 0x0D || byte = 0x0A

/-- A closed port. -/
def create (uart : Uart) (base : UInt16) : SerialPort where
  uart := uart
  base := base
  isOpen := false
  event := none
  status := .idle
  input := .idle
  output := .idle
  ring := .empty
  savedGate := none

/-- Change the device. -/
def onUart (p : SerialPort) (f : Uart → Uart) : SerialPort := { p with uart := f p.uart }

/-- Read a register of the device. The sum of base and offset wraps around where the register has no
port; a build with overflow checks stops there instead. -/
def fetch (p : SerialPort) (r : Register) : UInt8 × SerialPort :=
  let (value, uart) := p.uart.inb (p.base + r.offset)
  (value, { p with uart })

/-- Read a register of the device for its effect. -/
def touch (p : SerialPort) (r : Register) : SerialPort := (p.fetch r).2

/-- Write a register of the device, at the same port at which `fetch` reads it. -/
def put (p : SerialPort) (r : Register) (value : UInt8) : SerialPort :=
  p.onUart (·.outb (p.base + r.offset) value)

/-- Change the mask of the interrupt controller, with interrupts kept from the processor. -/
def changeMask (p : SerialPort) (f : UInt8 → UInt8) : SerialPort :=
  p.onUart fun u =>
    let u := u.disableInterrupts
    let (mask, u) := u.inb picMaskPort
    (u.outb picMaskPort (f mask)).enableInterrupts

/-- Set the line rate and the format of the bytes. -/
def configure (p : SerialPort) (baud : BaudRate) : SerialPort :=
  let p := p.put .enable 0
  let p := p.put .lineControl divisorLatchBit
  let p := p.put .enable (.ofNat (baud.divisor.toNat / 0x100))
  let p := p.put .data (.ofNat (baud.divisor.toNat % 0x100))
  let p := p.put .lineControl 0x03
  p.put .identify 0xC7

/-- Open the port. `event` is raised whenever a transfer ends. -/
def openWith (p : SerialPort) (event : Option FlagId) (rate : Nat) :
    Except OpenError SerialPort :=
  match event, BaudRate.ofRate? rate with
  | none, _ => .error .invalidEventFlag
  | some _, none => .error (.invalidBaudRate rate)
  | some event, some baud =>
    if p.isOpen then .error .alreadyOpen
    else
      let p := { p with
        isOpen := true, event := some event, status := .idle, ring := p.ring.clear,
        savedGate := some (p.uart.gates serialVector) }
      let p := p.onUart (·.setGate serialVector handlerGate)
      let p := p.configure baud
      let p := p.changeMask (· &&& ~~~serialMaskBit)
      let p := p.put .enable receivedDataBit
      .ok (p.touch .data)

/-- Close the port, and put back the handler that was there before. -/
def close (p : SerialPort) : Except CloseError SerialPort :=
  if p.isOpen then
    let p := { p with isOpen := false }
    let p := p.changeMask (· ||| serialMaskBit)
    let p := p.put .modemStatus 0
    let p := p.put .enable 0
    match p.savedGate with
    | none => .ok p
    | some gate => .ok { p with uart := p.uart.setGate serialVector gate, savedGate := none }
  else .error .notOpen

/-- Raise the flag of the port. -/
def raise (p : SerialPort) (s : Shared) : Shared := s.modifyFlag? p.event (·.raise)

/-- Lower the flag of the port. -/
def clearEvent (p : SerialPort) (s : Shared) : Shared := s.modifyFlag? p.event (·.clear)

/-- Write the number of bytes moved into the buffer of a transfer that ends. -/
def publish (s : Shared) (t : Progress) : Shared :=
  match t.buffer with
  | none => s
  | some id => s.modifyBuffer id (·.setCount t.done)

/-- End the read. -/
def completeRead (p : SerialPort) (s : Shared) : SerialPort × Shared :=
  let s := publish s p.input
  ({ p with input := { p.input with buffer := none }, status := .idle }, p.raise s)

/-- End the write. -/
def completeWrite (p : SerialPort) (s : Shared) : SerialPort × Shared :=
  let s := publish s p.output
  ({ p with output := { p.output with buffer := none }, status := .idle }, p.raise s)

/-- The number of bytes to move, if a transfer with this buffer may start. -/
def checkTransfer (p : SerialPort) (b : Buffer) : Except TransferError Nat :=
  if !p.isOpen then .error .notOpen
  else if b.capacity = 0 then .error .invalidBuffer
  else if b.count = 0 ∨ b.capacity < b.count then .error (.invalidCount b.count)
  else if p.status ≠ .idle then .error .busy
  else .ok b.count

/-- Where a read stands after it took what waited in the ring. -/
structure Drained where
  ring : Ring ringCapacity
  buffer : Buffer
  done : Nat
  /-- The end of a line was taken. -/
  terminated : Bool

/-- Move waiting bytes into a buffer until `requested` bytes are there, the line ends or no byte
waits. The end of a line is taken but not stored. -/
def drain (ring : Ring ringCapacity) (buffer : Buffer) (requested done : Nat) : Drained :=
  if done < requested then
    match ring.take with
    | (none, ring) => ⟨ring, buffer, done, false⟩
    | (some byte, ring) =>
      if isTerminator byte then ⟨ring, buffer, done, true⟩
      else drain ring (buffer.store done byte) requested (done + 1)
  else ⟨ring, buffer, done, false⟩
termination_by requested - done

/-- Start a read into a buffer. Bytes that wait in the ring are taken first; if they satisfy the
request, the read ends at once. -/
def read (p : SerialPort) (s : Shared) (id : BufferId) :
    Except TransferError (SerialPort × Shared) := do
  let buffer := s.buffer id
  let count ← p.checkTransfer buffer
  let p := p.onUart (·.disableInterrupts)
  let s := p.clearEvent s
  let drained := drain p.ring buffer count 0
  let s := s.setBuffer id drained.buffer
  let p := { p with
    status := .reading, ring := drained.ring, input := ⟨some id, count, drained.done⟩ }
  let (p, s) :=
    if drained.terminated || p.input.isSatisfied then p.completeRead s else (p, s)
  return (p.onUart (·.enableInterrupts), s)

/-- Start a write from a buffer. Its first byte is sent at once. -/
def write (p : SerialPort) (s : Shared) (id : BufferId) :
    Except TransferError (SerialPort × Shared) := do
  let buffer := s.buffer id
  let count ← p.checkTransfer buffer
  let p := p.onUart (·.disableInterrupts)
  let s := p.clearEvent s
  let p := { p with status := .writing, output := ⟨some id, count, 1⟩ }
  let p := p.put .data ((buffer.byte? 0).getD 0)
  let (enable, p) := p.fetch .enable
  let p := p.put .enable (enable ||| transmitterEmptyBit)
  return (p.onUart (·.enableInterrupts), s)

/-- Start a transfer. -/
def transfer (p : SerialPort) (s : Shared) (direction : Direction) (id : BufferId) :
    Except TransferError (SerialPort × Shared) :=
  match direction with
  | .read => p.read s id
  | .write => p.write s id

/-- A byte arrived: give it to the read, or keep it in the ring. -/
def inputInterrupt (p : SerialPort) (s : Shared) : SerialPort × Shared :=
  let (byte, p) := p.fetch .data
  if p.status ≠ .reading then ({ p with ring := (p.ring.store byte).2 }, s)
  else if isTerminator byte then p.completeRead s
  else
    let s :=
      match p.input.buffer with
      | none => s
      | some id => s.modifyBuffer id (·.store p.input.done byte)
    let p := { p with input := { p.input with done := p.input.done + 1 } }
    if p.input.isSatisfied then p.completeRead s else (p, s)

/-- The transmitter is empty: send the next byte of the write, or end it. -/
def outputInterrupt (p : SerialPort) (s : Shared) : SerialPort × Shared :=
  if p.status ≠ .writing then (p, s)
  else if !p.output.isSatisfied then
    let next := (p.output.buffer.bind fun id => (s.buffer id).byte? p.output.done).getD 0
    let p := p.put .data next
    ({ p with output := { p.output with done := p.output.done + 1 } }, s)
  else
    let (p, s) := p.completeWrite s
    let (enable, p) := p.fetch .enable
    (p.put .enable (enable &&& ~~~transmitterEmptyBit), s)

/-- Take one interrupt. The answer is the cause that was served. -/
def handleInterrupt (p : SerialPort) (s : Shared) :
    Option InterruptCause × SerialPort × Shared :=
  if p.isOpen then
    let (value, p) := p.fetch .identify
    let cause := InterruptCause.decode value
    let (p, s) :=
      match cause with
      | some .modemStatus => (p.touch .modemStatus, s)
      | some .transmitterEmpty => p.outputInterrupt s
      | some .receivedData => p.inputInterrupt s
      | some .lineStatus => (p.touch .lineStatus, s)
      | none => (p, s)
    (cause, p.onUart (·.outb picCommandPort endOfInterrupt), s)
  else (none, p.onUart (·.outb picCommandPort endOfInterrupt), s)

/-- Take interrupts for as long as the device asserts its line, at most `most` of them. The answer
counts them. -/
def serviceUpTo (p : SerialPort) (s : Shared) : (most : Nat) → Nat × SerialPort × Shared
  | 0 => (0, p, s)
  | most + 1 =>
    if p.uart.irqLine then
      let (_, p, s) := p.handleInterrupt s
      let (count, p, s) := p.serviceUpTo s most
      (count + 1, p, s)
    else (0, p, s)

/-- Take the interrupts that the device asserts. -/
def serviceInterrupts (p : SerialPort) (s : Shared) : Nat × SerialPort × Shared :=
  p.serviceUpTo s maxInterruptsPerPoll

/-- The text that shows a port. -/
def debug (p : SerialPort) : String :=
  Text.record "SerialPort" [("base", Text.hex p.base.toNat), ("open", toString p.isOpen),
    ("status", p.status.name), ("buffered", toString p.ring.length)]

end SerialPort

end TrapKernel
