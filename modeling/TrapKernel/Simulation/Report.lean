import TrapKernel.Simulation.Run
import TrapKernel.Text.Utf8

/-!
# Reports

The text that tells what a simulation has shown.
-/

namespace TrapKernel.Report

/-- The columns that the number of a cycle takes at least, and the name of a process. -/
def cycleWidth : Nat := 4
def nameWidth : Nat := 20

/-- A text with blanks before it, up to a width. -/
def padLeft (width : Nat) (s : String) : String :=
  String.ofList (List.replicate (width - s.length) ' ') ++ s

/-- A text with blanks after it, up to a width. -/
def padRight (width : Nat) (s : String) : String :=
  s ++ String.ofList (List.replicate (width - s.length) ' ')

/-- The line that tells which process a cycle resumed. -/
def cycleLine (number : Nat) (process : String) : String :=
  "  " ++ padLeft cycleWidth (toString number) ++ "  " ++ process

/-- Bytes, shown as text between quotes. -/
def quotedBytes (bytes : List UInt8) : String := Text.quoted (Text.decodeUtf8 bytes)

/-- The line that tells how a read ended. -/
def readLine (process : String) (buffer : Buffer) : String :=
  let start := "Read by " ++ padRight nameWidth process ++ " "
  match buffer.error with
  | some code => start ++ "failed (" ++ toString code ++ ")"
  | none => start ++ quotedBytes buffer.contents

/-- The lines of a report. -/
def lines (r : Report) : List String :=
  "Run order:" :: r.order.zipIdx.map (fun (process, number) => cycleLine number process) ++
    ["", "Context switches: " ++ toString r.switches] ++
    (if r.returnedHome then ["Kernel returned to the boot context before the cycle limit"] else []) ++
    (if r.transmitted.isEmpty then []
      else ["Serial output:    " ++ quotedBytes r.transmitted]) ++
    r.reads.map fun (process, buffer) => readLine process buffer

/-- The text of a report. -/
def text (r : Report) : String := String.join (r.lines.map (· ++ "\n"))

end TrapKernel.Report
