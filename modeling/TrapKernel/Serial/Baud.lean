/-!
# Line rates

The rates at which the serial port may be opened. The divisor latch holds the number of ticks of
the UART's clock per bit.
-/

namespace TrapKernel

/-- Ticks per second of the UART's clock. -/
def baseClock : Nat := 115200

/-- A supported line rate. -/
inductive BaudRate where
  | b110 | b150 | b300 | b600 | b1200 | b2400 | b4800 | b9600 | b19200
  deriving DecidableEq, Repr

namespace BaudRate

/-- Every rate, the slowest first. -/
def all : List BaudRate := [b110, b150, b300, b600, b1200, b2400, b4800, b9600, b19200]

/-- Bits per second. -/
def bitsPerSecond : BaudRate → Nat
  | b110 => 110
  | b150 => 150
  | b300 => 300
  | b600 => 600
  | b1200 => 1200
  | b2400 => 2400
  | b4800 => 4800
  | b9600 => 9600
  | b19200 => 19200

/-- The value of the divisor latch. -/
def divisor (b : BaudRate) : UInt16 := .ofNat (baseClock / b.bitsPerSecond)

/-- The rate with so many bits per second. -/
def ofRate? (rate : Nat) : Option BaudRate := all.find? (·.bitsPerSecond = rate)

end BaudRate

end TrapKernel
