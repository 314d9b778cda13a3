import TrapKernel.Simulation.Report

/-!
# The command line

Two commands: `run FILE [--cycles N]` runs a simulation and prints its report, and
`show-config [FILE]` prints the kernel settings of a simulation, or the default ones.
-/

namespace TrapKernel

/-- What a command line asks for. -/
inductive Command where
  | run (file : String) (cycles : Nat)
  | showConfig (file : Option String)
  deriving DecidableEq, Repr

/-- What a command gave: the text for the standard output, or the one for the error output. -/
inductive Outcome where
  | done (output : String)
  | failed (complaint : String)
  deriving DecidableEq, Repr

namespace Outcome

/-- The status with which the program ends. -/
def status : Outcome → Nat
  | done _ => 0
  | failed _ => 1

/-- The text for the standard output. -/
def output : Outcome → String
  | done output => output
  | failed _ => ""

/-- An activity that failed, and why. -/
def failure (activity cause : String) : Outcome :=
  failed ("Error: " ++ activity ++ "\n\nCaused by:\n    " ++ cause ++ "\n")

end Outcome

namespace Command

/-- The cycles of a run for which no number is given. -/
def defaultCycles : Nat := 50

/-- How to call the program. -/
def usage : String := "Usage:\n  run FILE [--cycles N]\n  show-config [FILE]\n"

/-- The arguments of `run`, in any order. `file` and `cycles` were read already. -/
def parseRun (file : Option String) (cycles : Option Nat) : List String → Option Command
  | [] => file.map fun file => run file (cycles.getD defaultCycles)
  | "--cycles" :: n :: rest =>
    if cycles.isSome then none
    else
      match Text.decimalBelow? UInt64.size n.toList with
      | none => none
      | some n => parseRun file (some n) rest
  | arg :: rest =>
    if file.isSome ∨ arg.startsWith "-" then none else parseRun (some arg) cycles rest

/-- The option `--cycles=N` as two arguments. -/
def splitOption (arg : String) : List String :=
  if arg.startsWith "--cycles=" then ["--cycles", (arg.drop 9).toString] else [arg]

/-- The command that arguments ask for. -/
def parse : List String → Option Command
  | "run" :: rest => parseRun none none (rest.flatMap splitOption)
  | ["show-config"] => some (showConfig none)
  | ["show-config", file] => some (showConfig (some file))
  | _ => none

/-- The file that a command reads. -/
def file? : Command → Option String
  | run file _ => some file
  | showConfig file => file

/-- Run a simulation for so many cycles. -/
def simulate (file : SimulationFile) (cycles : Nat) : Outcome :=
  match (Simulation.start file).bind (·.run cycles) with
  | .ok report => .done report.text
  | .error e => .failure e.activity e.cause

/-- Carry out a command on the text of its file. -/
def onText (c : Command) (text : String) : Outcome :=
  match SimulationFile.ofToml? text with
  | none => .failure "Invalid simulation file" "the document cannot be read"
  | some file =>
    match c with
    | run _ cycles => simulate file cycles
    | showConfig _ => .done file.kernel.toToml

/-- Carry out a command. `read` gives the text of a file, or the reason why there is none. -/
def perform (c : Command) (read : String → Except String String) : Outcome :=
  match c.file? with
  | none => .done ({} : KernelConfig).toToml
  | some path =>
    match read path with
    | .error reason => .failure ("Failed to read " ++ path) reason
    | .ok text => c.onText text

end Command

end TrapKernel
