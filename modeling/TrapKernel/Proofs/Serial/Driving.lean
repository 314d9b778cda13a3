import TrapKernel.Proofs.Serial.Load
import TrapKernel.Proofs.Steps

/-!
# The driver step by step

Here the calls of the driver are written as they run: one step after the other on the port that
there is and on the buffers and flags that it shares. What was written to a register or to a buffer
before a step that fails stays written. They do what the calls do that answer a new port, and a call
that is refused leaves the port, its device, the buffers and the flags as they were: whatever can be
refused is refused before the first write.
-/

namespace TrapKernel

/-- Steps on a port and what it shares, which may fail for the reasons `ε`. A step that fails keeps
what the steps before it have done. -/
abbrev Driving (ε : Type) := Steps (SerialPort × Shared) ε

namespace Driving

open Steps

variable {ε α : Type} {p : SerialPort} {s : Shared}

/-! ### Steps -/

/-- Look at the port and what it shares. -/
def look (f : SerialPort → Shared → α) : Driving ε α := return f (← get).1 (← get).2

/-- Look for something that may be refused. -/
def demand (f : SerialPort → Shared → Except ε α) : Driving ε α := do
  let (p, s) ← get
  match f p s with
  | .error e => throw e
  | .ok a => return a

/-- Write the port. -/
def port (f : SerialPort → SerialPort) : Driving ε Unit := modify fun (p, s) => (f p, s)

/-- Write the port, or what it shares. -/
def both (f : SerialPort → Shared → SerialPort × Shared) : Driving ε Unit :=
  modify fun (p, s) => f p s

/-- Read a byte from a port of the machine. -/
def inb (address : SerialPort → UInt16) : Driving ε UInt8 := do
  let (p, s) ← get
  let (value, uart) := p.uart.inb (address p)
  set ({ p with uart }, s)
  return value

/-- Write a byte to a port of the machine. -/
def outb (address : SerialPort → UInt16) (value : UInt8) : Driving ε Unit :=
  port fun p => p.onUart (·.outb (address p) value)

/-! ### Calls -/

/-- Change the mask of the interrupt controller, with interrupts kept from the processor. -/
def changeMask (f : UInt8 → UInt8) : Driving ε Unit := do
  port (·.onUart (·.disableInterrupts))
  let mask ← inb fun _ => picMaskPort
  outb (fun _ => picMaskPort) (f mask)
  port (·.onUart (·.enableInterrupts))

/-- Write a register of the device. -/
def put (r : Register) (value : UInt8) : Driving ε Unit := outb (·.base + r.offset) value

/-- Open the port. -/
def openWith (event : Option FlagId) (rate : Nat) : Driving OpenError Unit := do
  match event with
  | none => throw .invalidEventFlag
  | some event =>
  match BaudRate.ofRate? rate with
  | none => throw (.invalidBaudRate rate)
  | some baud =>
  if ← look fun p _ => p.isOpen then
    throw .alreadyOpen
  port ({ · with isOpen := true })
  port ({ · with event := some event })
  port ({ · with status := .idle })
  port fun p => { p with ring := p.ring.clear }
  port fun p => { p with savedGate := some (p.uart.gates serialVector) }
  port (·.onUart (·.setGate serialVector handlerGate))
  put .enable 0
  put .lineControl divisorLatchBit
  put .enable (.ofNat (baud.divisor.toNat / 0x100))
  put .data (.ofNat (baud.divisor.toNat % 0x100))
  put .lineControl 0x03
  put .identify 0xC7
  changeMask (· &&& ~~~serialMaskBit)
  put .enable receivedDataBit
  let _ ← inb (·.base + Register.data.offset)

/-- Put back a handler that was saved. -/
def putBack : Option Nat → Driving ε Unit
  | none => return
  | some gate => do
    port ({ · with savedGate := none })
    port (·.onUart (·.setGate serialVector gate))

/-- Close the port. -/
def close : Driving CloseError Unit := do
  if !(← look fun p _ => p.isOpen) then
    throw .notOpen
  port ({ · with isOpen := false })
  changeMask (· ||| serialMaskBit)
  put .modemStatus 0
  put .enable 0
  putBack (← look fun p _ => p.savedGate)

/-- Start a read. -/
def read (id : BufferId) : Driving TransferError Unit := do
  let count ← demand fun p s => p.checkTransfer (s.buffer id)
  port (·.onUart (·.disableInterrupts))
  both fun p s => (p, p.clearEvent s)
  port ({ · with status := .reading })
  -- the loop over the ring is one step, in which nothing can fail
  let drained ← look fun p s => SerialPort.drain p.ring (s.buffer id) count 0
  both fun p s => (p, s.setBuffer id drained.buffer)
  port ({ · with ring := drained.ring, input := ⟨some id, count, drained.done⟩ })
  if drained.terminated || (← look fun p _ => p.input.isSatisfied) then
    both fun p s => p.completeRead s
  port (·.onUart (·.enableInterrupts))

/-- Start a write. -/
def write (id : BufferId) : Driving TransferError Unit := do
  let count ← demand fun p s => p.checkTransfer (s.buffer id)
  port (·.onUart (·.disableInterrupts))
  both fun p s => (p, p.clearEvent s)
  port ({ · with status := .writing })
  port ({ · with output := ⟨some id, count, 0⟩ })
  let first ← look fun _ s => ((s.buffer id).byte? 0).getD 0
  put .data first
  port fun p => { p with output := { p.output with done := 1 } }
  let enable ← inb (·.base + Register.enable.offset)
  put .enable (enable ||| transmitterEmptyBit)
  port (·.onUart (·.enableInterrupts))

/-! ### What the steps do -/

@[simp] theorem after_look (f : SerialPort → Shared → α) :
    (look f : Driving ε α).after (p, s) = (.ok (f p s), p, s) := rfl

@[simp] theorem after_demand (f : SerialPort → Shared → Except ε α) :
    (demand f).after (p, s) = (f p s, p, s) := by
  simp only [demand, after_bind, after_get]
  cases f p s <;> rfl

@[simp] theorem after_port (f : SerialPort → SerialPort) :
    (port f : Driving ε Unit).after (p, s) = (.ok (), f p, s) := rfl

@[simp] theorem after_both (f : SerialPort → Shared → SerialPort × Shared) :
    (both f : Driving ε Unit).after (p, s) = (.ok (), f p s) := rfl

@[simp] theorem after_put (r : Register) (value : UInt8) :
    (put r value : Driving ε Unit).after (p, s) = (.ok (), p.put r value, s) := rfl

@[simp] theorem after_changeMask (f : UInt8 → UInt8) :
    (changeMask f : Driving ε Unit).after (p, s) = (.ok (), p.changeMask f, s) := rfl

@[simp] theorem after_fetch (r : Register) :
    (inb (·.base + r.offset) : Driving ε UInt8).after (p, s) =
      (.ok (p.fetch r).1, (p.fetch r).2, s) := rfl

/-! ### They are the calls -/

theorem after_openWith (event : Option FlagId) (rate : Nat) :
    (openWith event rate).after (p, s) =
      settled (p, s) ((p.openWith event rate).map fun p => ((), (p, s))) := by
  unfold openWith SerialPort.openWith
  cases event with
  | none => rfl
  | some event =>
    cases BaudRate.ofRate? rate with
    | none => rfl
    | some baud =>
      cases isOpen : p.isOpen with
      | true =>
        simp only [after_bind, after_look, isOpen, if_true, after_throw]
        rfl
      | false =>
        simp only [after_bind, after_look, isOpen, if_neg Bool.false_ne_true, after_port, after_put,
          after_changeMask, after_fetch, after_pure]
        rfl

theorem after_close :
    close.after (p, s) = settled (p, s) (p.close.map fun p => ((), (p, s))) := by
  unfold close SerialPort.close
  cases isOpen : p.isOpen with
  | false =>
    simp only [after_bind, after_look, isOpen]
    rfl
  | true =>
    have saved : (((({ p with isOpen := false }).changeMask (· ||| serialMaskBit)).put
        .modemStatus 0).put .enable 0).savedGate = p.savedGate := rfl
    simp only [after_bind, after_look, isOpen, Bool.not_true, if_neg Bool.false_ne_true, after_port,
      after_changeMask, after_put, if_true, saved]
    cases p.savedGate <;> rfl

theorem after_read (id : BufferId) :
    (read id).after (p, s) = settled (p, s) ((p.read s id).map fun x => ((), x)) := by
  unfold read SerialPort.read
  simp only [after_bind, after_demand]
  cases p.checkTransfer (s.buffer id) with
  | error e => rfl
  | ok count =>
    have unchanged : ((p.onUart (·.disableInterrupts)).clearEvent s).buffer id = s.buffer id :=
      SerialPort.buffer_clearEvent _ s id
    simp only [after_port, after_both, after_look, unchanged, ok_bind]
    generalize SerialPort.drain (p.onUart (·.disableInterrupts)).ring (s.buffer id) count 0 =
      drained
    split
    · rfl
    · rfl

theorem after_write (id : BufferId) :
    (write id).after (p, s) = settled (p, s) ((p.write s id).map fun x => ((), x)) := by
  unfold write SerialPort.write
  simp only [after_bind, after_demand]
  cases p.checkTransfer (s.buffer id) with
  | error e => rfl
  | ok count =>
    have unchanged : ((p.onUart (·.disableInterrupts)).clearEvent s).buffer id = s.buffer id :=
      SerialPort.buffer_clearEvent _ s id
    simp only [after_port, after_both, after_look, after_put, after_fetch, unchanged]
    rfl

end Driving

/-! ### Calls as data -/

/-- A call of the driver, and the reasons for which it may be refused. -/
inductive PortCall : Type → Type where
  | openWith (event : Option FlagId) (rate : Nat) : PortCall OpenError
  | close : PortCall CloseError
  | transfer (direction : Direction) (id : BufferId) : PortCall TransferError

namespace PortCall

variable {ε : Type} {x : SerialPort × Shared}

/-- The call as it runs. -/
def steps : PortCall ε → Driving ε Unit
  | openWith event rate => Driving.openWith event rate
  | close => Driving.close
  | transfer .read id => Driving.read id
  | transfer .write id => Driving.write id

/-- What the driver makes of the call. -/
def result (x : SerialPort × Shared) : PortCall ε → Except ε (SerialPort × Shared)
  | openWith event rate => (x.1.openWith event rate).map fun p => (p, x.2)
  | close => x.1.close.map fun p => (p, x.2)
  | transfer direction id => x.1.transfer x.2 direction id

/-- A call that runs in place does what the driver makes of it. -/
theorem after_steps (c : PortCall ε) (x : SerialPort × Shared) :
    c.steps.after x = settled x ((c.result x).map fun y => ((), y)) := by
  obtain ⟨p, s⟩ := x
  cases c with
  | openWith event rate =>
    refine (Driving.after_openWith event rate).trans ?_
    rw [result]
    cases p.openWith event rate <;> rfl
  | close =>
    refine Driving.after_close.trans ?_
    rw [result]
    cases p.close <;> rfl
  | transfer direction id =>
    cases direction with
    | read => exact Driving.after_read id
    | write => exact Driving.after_write id

end PortCall

end TrapKernel
