import TrapKernel.Kernel.Config
import TrapKernel.Kernel.Error
import TrapKernel.Toml.Document
import TrapKernel.Toml.Member
import TrapKernel.Toml.Written

/-!
# Configuration files

A kernel configuration is read from a TOML document and written as one. Every setting may be left
out, except the name, the class and the entry of a process; members of other names are ignored.
-/

namespace TrapKernel

open Toml (Value)
open Toml.Value

namespace SerialConfig

/-- The settings of the serial port in a table. -/
def ofValue? (v : Value) : Option SerialConfig := do
  let default : SerialConfig := {}
  let fields ← v.fields? ["base", "baud_rate"]
  let base ← defaulted fields "base" default.base fun v => (v.natBelow? UInt16.size).map .ofNat
  let baudRate ← defaulted fields "baud_rate" default.baudRate fun v =>
    (v.natBelow? UInt32.size).map .ofNat
  return { base, baudRate }

end SerialConfig

namespace ProcessConfig

/-- The process that a table describes. -/
def ofValue? (v : Value) : Option ProcessConfig := do
  let fields ← v.fields? ["name", "class", "priority", "entry"]
  let name ← required fields "name" text?
  let owner ← required fields "class" (choice? ProcessClass.ofLabel?)
  let priority ← defaulted fields "priority" 0 fun v => (v.natBelow? UInt8.size).map .ofNat
  let entry ← required fields "entry" fun v => (v.natBelow? UInt32.size).map .ofNat
  return { name, owner, priority, entry }

/-- The table that describes a process. -/
def written (p : ProcessConfig) : String :=
  "\n[[process]]\n" ++ Toml.writtenPair "name" (Toml.written p.name) ++
    Toml.writtenPair "class" (Toml.written p.owner.label) ++
    Toml.writtenPair "priority" (toString p.priority.toNat) ++
    Toml.writtenPair "entry" (toString p.entry.toNat)

end ProcessConfig

namespace KernelConfig

/-- The settings in a table. -/
def ofValue? (v : Value) : Option KernelConfig := do
  let default : KernelConfig := {}
  let fields ← v.fields? ["heap_size", "memory", "shutdown_on_empty", "serial", "process"]
  let heapSize ← defaulted fields "heap_size" default.heapSize (natBelow? UInt64.size)
  let memory ← defaulted fields "memory" default.memory (choice? MemoryMode.ofLabel?)
  let shutdownOnEmpty ← defaulted fields "shutdown_on_empty" default.shutdownOnEmpty bool?
  let serial ← defaulted fields "serial" default.serial SerialConfig.ofValue?
  let processes ← defaulted fields "process" default.processes (list? ProcessConfig.ofValue?)
  return { heapSize, memory, shutdownOnEmpty, serial, processes }

/-- The settings in a document. -/
def ofToml (text : String) : Except KernelError KernelConfig :=
  match Toml.parse? text with
  | none => .error (.configInvalid "the text is no TOML document")
  | some v =>
    match ofValue? v with
    | none => .error (.configInvalid "a setting is missing or its value is not allowed")
    | some c => .ok c

/-- The settings in a file. `contents` is its text, or the reason why it cannot be read. -/
def load (path : String) (contents : Except String String) : Except KernelError KernelConfig :=
  match contents with
  | .error reason => .error (.configUnreadable path reason)
  | .ok text => ofToml text

/-- The document that holds the settings. -/
def toToml (c : KernelConfig) : String :=
  Toml.writtenPair "heap_size" (toString c.heapSize) ++
    Toml.writtenPair "memory" (Toml.written c.memory.label) ++
    Toml.writtenPair "shutdown_on_empty" (toString c.shutdownOnEmpty) ++
    (if c.processes.isEmpty then Toml.writtenPair "process" "[]" else "") ++
    "\n[serial]\n" ++ Toml.writtenPair "base" (toString c.serial.base.toNat) ++
    Toml.writtenPair "baud_rate" (toString c.serial.baudRate.toNat) ++
    String.join (c.processes.map (·.written))

end KernelConfig

end TrapKernel
