import TrapKernel.Kernel.ConfigText
import TrapKernel.Simulation.Step

/-!
# Simulation files

A simulation file is a TOML document with the settings of a kernel, the scripts of its processes,
and the bytes that arrive at the serial port before the first process runs.
-/

namespace TrapKernel

open Toml (Value)
open Toml.Value

/-- A process that acts by a script. -/
structure Script where
  name : String
  owner : ProcessClass := .user
  priority : UInt8 := 0
  steps : List Step
  deriving DecidableEq, Repr

/-- What a simulation starts from. -/
structure SimulationFile where
  kernel : KernelConfig := {}
  input : Option String := none
  scripts : List Script := []
  deriving DecidableEq, Repr

/-- The step that a value describes. -/
def Step.ofValue? (v : Value) : Option Step := do
  let text ← v.text?
  (Step.parse text).toOption

/-- The script in a table. -/
def Script.ofValue? (v : Value) : Option Script := do
  let fields ← v.fields? ["name", "class", "priority", "steps"]
  let name ← required fields "name" text?
  let owner ← defaulted fields "class" .user (choice? ProcessClass.ofLabel?)
  let priority ← defaulted fields "priority" 0 fun v => (v.natBelow? UInt8.size).map .ofNat
  let steps ← required fields "steps" (list? Step.ofValue?)
  return { name, owner, priority, steps }

namespace SimulationFile

/-- The simulation in a table. -/
def ofValue? (v : Value) : Option SimulationFile := do
  let fields ← v.fields? ["kernel", "input", "script"]
  let kernel ← defaulted fields "kernel" {} KernelConfig.ofValue?
  let input ← defaulted fields "input" none fun v => v.text?.map some
  let scripts ← defaulted fields "script" [] (list? Script.ofValue?)
  return { kernel, input, scripts }

/-- The simulation in a document. -/
def ofToml? (text : String) : Option SimulationFile := (Toml.parse? text).bind ofValue?

end SimulationFile

end TrapKernel
