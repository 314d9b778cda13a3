import TrapKernel.Process.State
import TrapKernel.Serial.Register

/-!
# Kernel configuration

What a kernel is booted with. A setting that is not given has its default; two idle processes of
the kernel keep it from running dry.
-/

namespace TrapKernel

/-- Which memory a kernel takes its records from. -/
inductive MemoryMode where
  | heap
  | bump
  deriving DecidableEq, Repr

namespace MemoryMode

/-- The name of a mode. -/
def name : MemoryMode → String
  | heap => "Heap"
  | bump => "Bump"

/-- The word for a mode in configuration files. -/
def label : MemoryMode → String
  | heap => "heap"
  | bump => "bump"

/-- Every mode. -/
def all : List MemoryMode := [heap, bump]

/-- The mode for which a configuration file has this word. -/
def ofLabel? (s : String) : Option MemoryMode := all.find? (·.label = s)

end MemoryMode

/-- Where the serial port is, and how fast its line runs. -/
structure SerialConfig where
  base : UInt16 := com1
  baudRate : UInt32 := 1200
  deriving DecidableEq, Repr

/-- A process that is loaded when the kernel boots. -/
structure ProcessConfig where
  name : String
  owner : ProcessClass
  priority : UInt8 := 0
  entry : UInt32
  deriving DecidableEq, Repr

/-- The idle processes of a kernel for which no processes are given. -/
def defaultProcesses : List ProcessConfig :=
  [⟨"idle", .system, 0, 0x1000⟩, ⟨"secondaryidle", .system, 0, 0x1100⟩]

/-- The settings of a kernel. -/
structure KernelConfig where
  /-- Bytes of memory. -/
  heapSize : Nat := 50000
  memory : MemoryMode := .heap
  /-- Return to the boot context when no process is ready, rather than halt. -/
  shutdownOnEmpty : Bool := false
  serial : SerialConfig := {}
  processes : List ProcessConfig := defaultProcesses
  deriving DecidableEq, Repr

namespace KernelConfig

/-- The same settings, with no processes. -/
def withoutProcesses (c : KernelConfig) : KernelConfig := { c with processes := [] }

end KernelConfig

end TrapKernel
