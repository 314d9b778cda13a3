import TrapKernel.Text.Decimal
import TrapKernel.Text.Whitespace

/-!
# Steps of a script

What a scripted process does when it gets the processor. A step is written as a word; what is to be
written, or how many bytes are to be read, follows after a colon.
-/

namespace TrapKernel

/-- A step of a script. -/
inductive Step where
  /-- Give up the processor. -/
  | yield
  /-- Write a text to the serial port. -/
  | write (text : String)
  /-- Read up to so many bytes from the serial port. -/
  | read (count : Nat)
  /-- End the process. -/
  | exit
  deriving DecidableEq, Repr

/-- Why a text is no step. -/
inductive StepError where
  | invalidCount (text : String)
  | unknown (text : String)
  deriving DecidableEq, Repr

/-- The sentence that reports an error. -/
def StepError.message : StepError → String
  | invalidCount text => s!"invalid read count in step '{text}'"
  | unknown text => s!"unknown step '{text}'"

namespace Step

/-- The bound of the numbers of bytes that can be asked for. -/
def countBound : Nat := UInt64.size

/-- A text up to its first colon, and what follows the colon, if there is one. -/
def splitColon (cs : List Char) : List Char × Option (List Char) :=
  match cs.dropWhile (· ≠ ':') with
  | [] => (cs, none)
  | _ :: rest => (cs.takeWhile (· ≠ ':'), some rest)

/-- The step that a text describes. -/
def parse (text : String) : Except StepError Step :=
  let (word, argument) := splitColon text.toList
  match String.ofList word, argument with
  | "yield", none => .ok yield
  | "exit", none => .ok exit
  | "write", some payload => .ok (write (.ofList payload))
  | "read", some count =>
    match Text.decimalBelow? countBound (Text.trim count) with
    | none => .error (.invalidCount text)
    | some n => .ok (read n)
  | _, _ => .error (.unknown text)

/-- The text that describes a step. -/
def text : Step → String
  | yield => "yield"
  | exit => "exit"
  | write payload => "write:" ++ payload
  | read count => "read:" ++ toString count

end Step

end TrapKernel
