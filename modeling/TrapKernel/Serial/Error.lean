/-!
# Errors of the serial driver

Each operation of the driver has reasons for which it refuses. A reason has a sentence, and the
code that a process sees; the codes of a read and of a write for the same reason differ.
-/

namespace TrapKernel

/-- Why a port was not opened. -/
inductive OpenError where
  | invalidEventFlag
  | invalidBaudRate (rate : Nat)
  | alreadyOpen
  deriving DecidableEq, Repr

namespace OpenError

/-- The sentence that reports an error. -/
def message : OpenError → String
  | invalidEventFlag => "invalid event flag reference"
  | invalidBaudRate rate => s!"unsupported baud rate {rate}"
  | alreadyOpen => "port already open"

/-- The code that a process sees. -/
def code : OpenError → Int
  | invalidEventFlag => -101
  | invalidBaudRate _ => -102
  | alreadyOpen => -103

end OpenError

/-- Why a port was not closed. -/
inductive CloseError where
  | notOpen
  deriving DecidableEq, Repr

namespace CloseError

/-- The sentence that reports an error. -/
def message : CloseError → String
  | notOpen => "port not open"

/-- The code that a process sees. -/
def code : CloseError → Int
  | notOpen => -201

end CloseError

/-- Which way a transfer goes. -/
inductive Direction where
  | read
  | write
  deriving DecidableEq, Repr

/-- The name of a direction. -/
def Direction.name : Direction → String
  | read => "Read"
  | write => "Write"

/-- Why a transfer was not started. -/
inductive TransferError where
  | notOpen
  | invalidBuffer
  | invalidCount (count : Nat)
  | busy
  deriving DecidableEq, Repr

namespace TransferError

/-- The sentence that reports an error. -/
def message : TransferError → String
  | notOpen => "port not open"
  | invalidBuffer => "invalid buffer"
  | invalidCount count => s!"invalid count {count}"
  | busy => "device busy"

/-- The place of an error within the family of its direction. -/
def rank : TransferError → Int
  | notOpen => 1
  | invalidBuffer => 2
  | invalidCount _ => 3
  | busy => 4

/-- The code that a process sees. -/
def code (direction : Direction) (e : TransferError) : Int :=
  match direction with
  | .read => -300 - e.rank
  | .write => -400 - e.rank

end TransferError

end TrapKernel
