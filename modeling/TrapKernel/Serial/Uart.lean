import TrapKernel.Serial.Register
import TrapKernel.Text.Hex
import TrapKernel.Text.Record

/-!
# The UART

A model of a 16550 UART at the level of its registers, together with the slice of the interrupt
controller and of the processor that its driver touches. Bytes written to the data register are
kept, and on a looped line they arrive at the receiver as well.

The UART asserts the highest of its pending causes that are enabled: line status, received data,
transmitter empty, modem status.
-/

namespace TrapKernel

/-- The state of a UART and of what stands between it and the processor. -/
structure Uart where
  /-- The port of its first register. -/
  base : UInt16
  /-- What is transmitted is received again. -/
  loopback : Bool
  enable : UInt8
  lineControl : UInt8
  modemControl : UInt8
  fifoControl : UInt8
  scratch : UInt8
  modemStatus : UInt8
  divisor : UInt16
  /-- Bytes that arrived and were not read, the oldest first. -/
  received : List UInt8
  /-- Every byte that was transmitted, in order. -/
  transmitted : Array UInt8
  transmitterEmptyPending : Bool
  lineStatusPending : Bool
  modemStatusPending : Bool
  /-- The mask of the interrupt controller: a set bit keeps an interrupt back. -/
  picMask : UInt8
  /-- How many interrupts were acknowledged. -/
  acknowledged : Nat
  /-- The processor takes interrupts. -/
  cpuInterrupts : Bool
  /-- The handler of each interrupt vector. -/
  gates : UInt8 → Nat

namespace Uart

/-- A UART at `base`, as it is after power-up. -/
def create (base : UInt16) (loopback : Bool) : Uart where
  base := base
  loopback := loopback
  enable := 0
  lineControl := 0
  modemControl := 0
  fifoControl := 0
  scratch := 0
  modemStatus := 0xB0
  divisor := 0
  received := []
  transmitted := #[]
  transmitterEmptyPending := false
  lineStatusPending := false
  modemStatusPending := false
  picMask := 0xFF
  acknowledged := 0
  cpuInterrupts := true
  gates := fun _ => 0

/-- Bytes arrive on the line. -/
def inject (u : Uart) (bytes : List UInt8) : Uart := { u with received := u.received ++ bytes }

/-- The line reports an error. -/
def raiseLineStatus (u : Uart) : Uart := { u with lineStatusPending := true }

/-- A line of the modem changes. -/
def raiseModemStatus (u : Uart) : Uart := { u with modemStatusPending := true }

/-- The divisor latch is open. -/
def latchOpen (u : Uart) : Bool := hasBit u.lineControl divisorLatchBit

/-- The cause with this bit may interrupt. -/
def enabled (u : Uart) (bit : UInt8) : Bool := hasBit u.enable bit

/-- The cause that the UART asserts. -/
def pendingCause (u : Uart) : Option InterruptCause :=
  if u.lineStatusPending && u.enabled lineStatusBit then some .lineStatus
  else if !u.received.isEmpty && u.enabled receivedDataBit then some .receivedData
  else if u.transmitterEmptyPending && u.enabled transmitterEmptyBit then some .transmitterEmpty
  else if u.modemStatusPending && u.enabled modemStatusBit then some .modemStatus
  else none

/-- The interrupt reaches the processor. -/
def irqLine (u : Uart) : Bool :=
  u.cpuInterrupts && !hasBit u.picMask serialMaskBit && u.pendingCause.isSome

/-- Read a register. Reading takes the received byte, and acknowledges the cause that the register
reports. -/
def readRegister (u : Uart) : Register → UInt8 × Uart
  | .data =>
    if u.latchOpen then (.ofNat (u.divisor.toNat % 0x100), u)
    else
      match u.received with
      | [] => (0, u)
      | byte :: rest => (byte, { u with received := rest })
  | .enable =>
    if u.latchOpen then (.ofNat (u.divisor.toNat / 0x100), u) else (u.enable, u)
  | .identify =>
    match u.pendingCause with
    | some .transmitterEmpty =>
      (InterruptCause.transmitterEmpty.encode ||| 0xC0, { u with transmitterEmptyPending := false })
    | some cause => (cause.encode ||| 0xC0, u)
    | none => (0x01 ||| 0xC0, u)
  | .lineControl => (u.lineControl, u)
  | .modemControl => (u.modemControl, u)
  | .lineStatus =>
    (if u.received.isEmpty then 0x60 else 0x61, { u with lineStatusPending := false })
  | .modemStatus => (u.modemStatus, { u with modemStatusPending := false })
  | .scratch => (u.scratch, u)

/-- Transmit a byte. The transmitter is empty again at once. -/
def transmit (u : Uart) (value : UInt8) : Uart :=
  { u with
    transmitted := u.transmitted.push value
    received := if u.loopback then u.received ++ [value] else u.received
    transmitterEmptyPending := true }

/-- Change which causes may interrupt. Enabling the empty transmitter raises it at once. -/
def setEnable (u : Uart) (value : UInt8) : Uart :=
  let enable := value &&& 0x0F
  { u with
    enable
    transmitterEmptyPending := u.transmitterEmptyPending ||
      (!u.enabled transmitterEmptyBit && hasBit enable transmitterEmptyBit) }

/-- Write a register. -/
def writeRegister (u : Uart) (value : UInt8) : Register → Uart
  | .data =>
    if u.latchOpen then
      { u with divisor := .ofNat (u.divisor.toNat / 0x100 * 0x100 + value.toNat) }
    else u.transmit value
  | .enable =>
    if u.latchOpen then
      { u with divisor := .ofNat (value.toNat * 0x100 + u.divisor.toNat % 0x100) }
    else u.setEnable value
  | .identify =>
    { u with
      fifoControl := value
      received := if hasBit value clearReceiveBit then [] else u.received }
  | .lineControl => { u with lineControl := value }
  | .modemControl => { u with modemControl := value }
  | .lineStatus => u
  | .modemStatus => { u with modemStatus := value }
  | .scratch => { u with scratch := value }

/-- The register that a port leads to. With a base above `0xFFF7` the end of the range is no port
number: it wraps around, and no port leads to a register. A build with overflow checks stops there
instead. -/
def register? (u : Uart) (port : UInt16) : Option Register :=
  if u.base ≤ port ∧ port < u.base + registerSpan then Register.ofOffset? (port - u.base) else none

/-- Read a byte from a port. A port that leads nowhere reads as all ones. -/
def inb (u : Uart) (port : UInt16) : UInt8 × Uart :=
  if port = picMaskPort then (u.picMask, u)
  else
    match u.register? port with
    | some register => u.readRegister register
    | none => (0xFF, u)

/-- Write a byte to a port. A port that leads nowhere ignores it. -/
def outb (u : Uart) (port : UInt16) (value : UInt8) : Uart :=
  if port = picMaskPort then { u with picMask := value }
  else if port = picCommandPort then
    if value = endOfInterrupt then { u with acknowledged := u.acknowledged + 1 } else u
  else
    match u.register? port with
    | some register => u.writeRegister value register
    | none => u

/-- Install a handler at an interrupt vector. -/
def setGate (u : Uart) (vector : UInt8) (handler : Nat) : Uart :=
  { u with gates := fun v => if v = vector then handler else u.gates v }

/-- Keep interrupts from the processor. -/
def disableInterrupts (u : Uart) : Uart := { u with cpuInterrupts := false }

/-- Let interrupts reach the processor. -/
def enableInterrupts (u : Uart) : Uart := { u with cpuInterrupts := true }

/-- The text that shows a UART. -/
def debug (u : Uart) : String :=
  Text.record "LoopbackUart" [("base", Text.hex u.base.toNat), ("loopback", toString u.loopback),
    ("ier", toString u.enable.toNat), ("rx", toString u.received.length),
    ("transmitted", toString u.transmitted.size)]

end Uart

end TrapKernel
