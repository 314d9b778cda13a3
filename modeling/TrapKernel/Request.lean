import TrapKernel.Serial.Error
import TrapKernel.Serial.Shared

/-!
# Requests

A process that wants something from the kernel leaves a request in the slot and traps. A request
names its operation by a code, so it may name none; `validate` tells before the trap whether the
kernel will accept it.
-/

namespace TrapKernel

/-- What a process may ask for. -/
inductive Operation where
  | read
  | write
  /-- Give up the processor, but stay ready. -/
  | idle
  /-- End the process. -/
  | exit
  deriving DecidableEq, Repr

namespace Operation

/-- The name of an operation. -/
def name : Operation → String
  | read => "Read"
  | write => "Write"
  | idle => "Idle"
  | exit => "Exit"

/-- The code of an operation. -/
def code : Operation → UInt32
  | read => 0
  | write => 1
  | idle => 2
  | exit => 3

/-- Every operation. -/
def all : List Operation := [read, write, idle, exit]

/-- The operation with this code. -/
def ofCode? (code : UInt32) : Option Operation := all.find? (·.code = code)

/-- Which way an operation moves bytes, if it moves any. -/
def direction? : Operation → Option Direction
  | read => some .read
  | write => some .write
  | idle | exit => none

/-- The operation is carried out by a device. -/
def isTransfer (o : Operation) : Bool := o.direction?.isSome

theorem ofCode?_code (o : Operation) : ofCode? o.code = some o := by
  cases o <;> rfl

end Operation

/-- The number of a device. -/
structure DeviceId where
  number : UInt8
  deriving DecidableEq, Repr

namespace DeviceId

/-- The serial port that is opened when the kernel starts. -/
def serial : DeviceId := ⟨1⟩

/-- The decimal text of the number. -/
def text (d : DeviceId) : String := toString d.number.toNat

end DeviceId

/-- Why a request is not accepted. -/
inductive RequestError where
  | invalidBuffer
  | invalidCount
  | invalidOperation (code : UInt32)
  deriving DecidableEq, Repr

namespace RequestError

/-- The sentence that reports an error. -/
def message : RequestError → String
  | invalidBuffer => "invalid buffer"
  | invalidCount => "invalid count"
  | invalidOperation code => s!"invalid operation code {code.toNat}"

/-- The code that a process sees. -/
def code : RequestError → Int
  | invalidBuffer => -1
  | invalidCount => -2
  | invalidOperation _ => -3

end RequestError

/-- What a process leaves for the kernel. -/
structure Request where
  /-- The code of an operation, or of none. -/
  code : UInt32
  device : DeviceId
  /-- The bytes of a transfer; the count of the buffer tells how many. -/
  buffer : Option BufferId
  deriving DecidableEq, Repr

namespace Request

/-- A request that moves no bytes. -/
def control (o : Operation) : Request := ⟨o.code, .serial, none⟩

/-- A transfer needs room, and a count between one byte and all of it. -/
def checkBuffer (s : Shared) (id : Option BufferId) : Except RequestError Unit :=
  match id.map s.buffer with
  | none => .error .invalidBuffer
  | some b =>
    if b.capacity = 0 then .error .invalidBuffer
    else if b.count = 0 ∨ b.capacity < b.count then .error .invalidCount
    else .ok ()

/-- The operation of a request that the kernel will accept. -/
def validate (r : Request) (s : Shared) : Except RequestError Operation :=
  match Operation.ofCode? r.code with
  | none => .error (.invalidOperation r.code)
  | some o => do
    if o.isTransfer then checkBuffer s r.buffer
    return o

end Request

/-- The place where the running process leaves its request. -/
structure RequestSlot where
  pending : Option Request
  deriving DecidableEq, Repr

namespace RequestSlot

/-- Nothing was left. -/
def empty : RequestSlot := ⟨none⟩

/-- Leave a request in the place of the one that was there. -/
def post (_ : RequestSlot) (r : Request) : RequestSlot := ⟨some r⟩

/-- Take out the request. -/
def take (slot : RequestSlot) : Option Request × RequestSlot := (slot.pending, empty)

/-- Nothing is there. -/
def isEmpty (slot : RequestSlot) : Bool := slot.pending.isNone

end RequestSlot

end TrapKernel
