import TrapKernel.CommandLine

/-!
# The program

Reads the file that the command line names, carries the command out and prints what it gave.
-/

open TrapKernel

/-- Why a file cannot be read. -/
def unreadable : IO.Error → String
  | .noFileOrDirectory .. => "No such file or directory (os error 2)"
  | e => toString e

/-- The text of a file, or the reason why it cannot be read. -/
def readText (path : String) : IO (Except String String) := do
  try
    return .ok (← IO.FS.readFile path)
  catch e =>
    return .error (unreadable e)

def main (args : List String) : IO UInt32 := do
  match Command.parse args with
  | none =>
    IO.eprint Command.usage
    return 2
  | some command =>
    let text ← (command.file?.map readText).getD (pure (.ok ""))
    let outcome := command.perform fun _ => text
    match outcome with
    | .done output => IO.print output
    | .failed complaint => IO.eprint complaint
    return outcome.status.toUInt32
