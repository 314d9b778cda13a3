/-!
# Registers of a 16550 UART

The eight registers, the bits in them that the driver uses, and the interrupt causes that the
identification register reports. Beside them stand the two ports of the interrupt controller
through which the interrupt of the UART is masked and acknowledged.
-/

namespace TrapKernel

/-- A register of the UART. While the divisor latch is open, the first two give way to its low and
high byte. -/
inductive Register where
  /-- Received byte on reads, byte to transmit on writes. -/
  | data
  /-- Which causes may interrupt. -/
  | enable
  /-- Pending cause on reads, control of the queues on writes. -/
  | identify
  | lineControl
  | modemControl
  | lineStatus
  | modemStatus
  | scratch
  deriving DecidableEq, Repr

/-- How many ports a UART takes, from its base port on. -/
def registerSpan : UInt16 := 8

namespace Register

/-- Distance of a register from the base port. -/
def offset : Register → UInt16
  | data => 0
  | enable => 1
  | identify => 2
  | lineControl => 3
  | modemControl => 4
  | lineStatus => 5
  | modemStatus => 6
  | scratch => 7

/-- The register at a distance from the base port. -/
def ofOffset? (n : UInt16) : Option Register :=
  match n.toNat with
  | 0 => some data
  | 1 => some enable
  | 2 => some identify
  | 3 => some lineControl
  | 4 => some modemControl
  | 5 => some lineStatus
  | 6 => some modemStatus
  | 7 => some scratch
  | _ => none

theorem ofOffset?_offset (r : Register) : ofOffset? r.offset = some r := by
  cases r <;> rfl

theorem offset_lt (r : Register) : r.offset < registerSpan := by
  cases r <;> decide

end Register

/-- The base port of the first serial port. -/
def com1 : UInt16 := 0x3F8

/-- Interrupt causes that may be enabled, as bits of the enable register. -/
def receivedDataBit : UInt8 := 0x01
def transmitterEmptyBit : UInt8 := 0x02
def lineStatusBit : UInt8 := 0x04
def modemStatusBit : UInt8 := 0x08

/-- The bit of the line control register that opens the divisor latch. -/
def divisorLatchBit : UInt8 := 0x80

/-- The bit of the queue control register that empties the receive queue. -/
def clearReceiveBit : UInt8 := 0x02

/-- The bit `bit` is set in `value`. -/
def hasBit (value bit : UInt8) : Bool := value &&& bit != 0

/-- Ports of the interrupt controller. -/
def picCommandPort : UInt16 := 0x20
def picMaskPort : UInt16 := 0x21

/-- The command that acknowledges an interrupt. -/
def endOfInterrupt : UInt8 := 0x20

/-- The bit of the interrupt controller's mask that belongs to the serial port. -/
def serialMaskBit : UInt8 := 0x10

/-- The interrupt vector of the serial port. -/
def serialVector : UInt8 := 0x24

/-- Why the UART interrupts. -/
inductive InterruptCause where
  | modemStatus
  | transmitterEmpty
  | receivedData
  | lineStatus
  deriving DecidableEq, Repr

namespace InterruptCause

/-- The bits that stand for a cause in the identification register. -/
def encode : InterruptCause → UInt8
  | modemStatus => 0x00
  | transmitterEmpty => 0x02
  | receivedData => 0x04
  | lineStatus => 0x06

/-- The cause that a value of the identification register reports: none while its lowest bit is
set, else the one in the next two bits. -/
def decode (value : UInt8) : Option InterruptCause :=
  if hasBit value 0x01 then none
  else if value &&& 0x06 = 0x00 then some modemStatus
  else if value &&& 0x06 = 0x02 then some transmitterEmpty
  else if value &&& 0x06 = 0x04 then some receivedData
  else some lineStatus

theorem decode_encode (c : InterruptCause) : decode c.encode = some c := by
  cases c <;> decide

end InterruptCause

end TrapKernel
