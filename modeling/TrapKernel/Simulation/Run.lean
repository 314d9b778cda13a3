import TrapKernel.Kernel.Dispatch
import TrapKernel.Simulation.File

/-!
# Running a simulation

A simulation stands in for the processes. When the kernel resumes one that has a script, the next
step of the script becomes its request; one without a script gives up the processor. After each
trap the interrupts of the serial port are taken.

The UART is not looped, so what the processes read is the input of the simulation alone.
-/

namespace TrapKernel

/-- A read that a script started. The buffer is filled as the transfer goes on. -/
structure ReadRecord where
  process : String
  buffer : BufferId
  deriving DecidableEq, Repr

/-- A kernel with its scripted processes. -/
structure Simulation where
  kernel : Kernel
  /-- The steps that each script has still to do. -/
  programs : List (String × List Step)
  /-- The reads so far, in their order. -/
  reads : List ReadRecord

/-- What a simulation has shown. -/
structure Report where
  /-- The process that each trap resumed. -/
  order : List String
  /-- What was written to the serial port. -/
  transmitted : List UInt8
  /-- The process and the buffer of each read. -/
  reads : List (String × Buffer)
  /-- How often a process was resumed. -/
  switches : Nat
  /-- The kernel returned to its boot context before the last cycle. -/
  returnedHome : Bool

/-- Why a simulation failed. -/
inductive SimulationError where
  | boot (cause : KernelError)
  | create (process : String) (cause : RegistryError)
  | firstDispatch (cause : Fatal)
  | dispatch (cause : KernelError)
  | trap (process : String) (cause : KernelError)
  | shutdownDispatch (cause : KernelError)
  | shutdown (cause : KernelError)
  deriving DecidableEq, Repr

namespace SimulationError

/-- What was being done. -/
def activity : SimulationError → String
  | boot _ => "Kernel boot failed"
  | create process _ => s!"Failed to create process '{process}'"
  | firstDispatch _ => "First dispatch failed"
  | dispatch _ => "Dispatch failed"
  | trap process _ => s!"Trap from '{process}' failed"
  | shutdownDispatch _ => "Shutdown dispatch failed"
  | shutdown _ => "Kernel shutdown failed"

/-- The sentence that reports the cause. -/
def cause : SimulationError → String
  | create _ cause => cause.message
  | firstDispatch cause => cause.message
  | boot cause | dispatch cause | trap _ cause | shutdownDispatch cause | shutdown cause =>
    cause.message

end SimulationError

namespace Simulation

/-- The address at which the first script starts, and the distance to the next one. -/
def firstEntry : Nat := 0x100000
def entryDistance : Nat := 0x1000

/-! ### Setting up -/

/-- Create a process for each script and resume it. `slot` counts the scripts before. -/
def loadScripts (k : Kernel) (slot : Nat) : List Script → Except SimulationError Kernel
  | [] => .ok k
  | script :: rest =>
    match k.load script.name script.owner script.priority.toNat
        (.ofNat (firstEntry + slot * entryDistance)) with
    | .error cause => .error (.create script.name cause)
    | .ok (_, k) => loadScripts (k.resume script.name).2 (slot + 1) rest

/-- Boot a kernel with the processes of a simulation. -/
def start (file : SimulationFile) : Except SimulationError Simulation := do
  let kernel ← (Kernel.boot file.kernel (.create com1 false)).mapError .boot
  let kernel ← loadScripts kernel 0 file.scripts
  let input := file.input.getD ""
  return ⟨kernel.inject input.toUTF8.toList, file.scripts.map fun s => (s.name, s.steps), []⟩

/-! ### Requests -/

/-- The next step of a process. A script that has run out ends its process. -/
def nextStep (programs : List (String × List Step)) (process : String) : Step :=
  match programs.lookup process with
  | none => .yield
  | some [] => .exit
  | some (step :: _) => step

/-- The programs after a process has done its next step. -/
def advance (programs : List (String × List Step)) (process : String) :
    List (String × List Step) :=
  programs.map fun (name, steps) => (name, if name = process then steps.drop 1 else steps)

/-- The request for the next step of a process. -/
def nextRequest (s : Simulation) (process : String) : Request × Simulation :=
  let step := nextStep s.programs process
  let s := { s with programs := advance s.programs process }
  match step with
  | .yield => (.control .idle, s)
  | .exit => (.control .exit, s)
  | .write text =>
    let (buffer, kernel) := s.kernel.addBuffer (.forWrite text.toUTF8.toList)
    (⟨Operation.write.code, .serial, some buffer⟩, { s with kernel })
  | .read count =>
    let (buffer, kernel) := s.kernel.addBuffer (.forRead count)
    (⟨Operation.read.code, .serial, some buffer⟩,
      { s with kernel, reads := s.reads ++ [⟨process, buffer⟩] })

/-! ### Cycles -/

/-- Let a process trap with the request for its next step. If the kernel rejects the request, the
process gives up the processor instead. -/
def trap (s : Simulation) (process : String) (saved : Context) :
    Except SimulationError (Context × Simulation) :=
  let (request, s) := s.nextRequest process
  match s.kernel.syscall request saved with
  | (.ok next, kernel) => .ok (next, { s with kernel })
  | (.error (.rejected _), kernel) =>
    match kernel.syscall (.control .idle) saved with
    | (.ok next, kernel) => .ok (next, { s with kernel })
    | (.error cause, _) => .error (.dispatch cause)
  | (.error cause, _) => .error (.trap process cause)

/-- Where a simulation stands between two cycles. -/
structure Progress where
  simulation : Simulation
  /-- The context that the last trap resumed. -/
  context : Context
  /-- The processes that were resumed, the last one first. -/
  resumed : List String
  returnedHome : Bool

/-- Run up to `most` cycles, or until no process runs. -/
def cycle (p : Progress) : (most : Nat) → Except SimulationError Progress
  | 0 => .ok p
  | most + 1 =>
    match p.simulation.kernel.runningName with
    | none => .ok { p with returnedHome := true }
    | some process =>
      match p.simulation.trap process p.context with
      | .error e => .error e
      | .ok (context, s) =>
        let kernel := s.kernel.serviceInterrupts.2
        cycle ⟨{ s with kernel }, context, process :: p.resumed, false⟩ most

/-- Bring the kernel back to its boot context, if a process runs. -/
def goHome (s : Simulation) (context : Context) : Except SimulationError Simulation :=
  match s.kernel.running with
  | none => .ok s
  | some _ =>
    match s.kernel.requestShutdown.syscall (.control .idle) context with
    | (.ok _, kernel) => .ok { s with kernel }
    | (.error cause, _) => .error (.shutdownDispatch cause)

/-- What a simulation has shown. -/
def report (s : Simulation) (order : List String) (returnedHome : Bool) : Report where
  order := order
  transmitted := s.kernel.device.port.uart.transmitted.toList
  reads := s.reads.map fun r => (r.process, s.kernel.shared.buffer r.buffer)
  switches := s.kernel.switches
  returnedHome := returnedHome

/-- Run up to `cycles` cycles, then shut the kernel down. -/
def run (s : Simulation) (cycles : Nat) : Except SimulationError Report := do
  let (first, kernel) := s.kernel.dispatch .zero
  let context ← first.mapError .firstDispatch
  let p ← cycle ⟨{ s with kernel }, context, [], false⟩ cycles
  let s ← p.simulation.goHome p.context
  s.kernel.shutdown.1.mapError .shutdown
  return s.report p.resumed.reverse p.returnedHome

end Simulation

end TrapKernel
