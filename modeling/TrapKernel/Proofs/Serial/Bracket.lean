import TrapKernel.Proofs.Serial.Driving

/-!
# Opening and closing

The first two registers of the device are others while its divisor latch is open, and whoever used
it last may have left it so. Opening the port programs the device in an order in which this makes no
difference. While the port is open, nothing that the driver does touches the format of the line, the
handlers of the processor or the mask of the interrupt controller; so closing the port finds them as
opening has left them, and puts back what was there before.
-/

namespace TrapKernel

/-- The level of the interrupt controller at which the serial port interrupts. -/
def serialLevel : Nat := 4

theorem testBit_byte (byte : UInt8) {level : Nat} (high : 8 ≤ level) :
    byte.toNat.testBit level = false :=
  Nat.testBit_lt_two_pow (byte.toNat_lt.trans_le (Nat.pow_le_pow_right Nat.two_pos high))

theorem testBit_unmask (mask : UInt8) (level : Nat) :
    (mask &&& ~~~serialMaskBit).toNat.testBit level =
      (mask.toNat.testBit level && level != serialLevel) := by
  by_cases low : level < 8
  · have bits : ∀ (bits : BitVec 8) (level : Fin 8),
        ((⟨bits⟩ : UInt8) &&& ~~~serialMaskBit).toNat.testBit level =
          ((⟨bits⟩ : UInt8).toNat.testBit level && level.val != serialLevel) := by
      decide +kernel
    exact bits mask.toBitVec ⟨level, low⟩
  · rw [testBit_byte _ (Nat.not_lt.mp low), testBit_byte _ (Nat.not_lt.mp low), Bool.false_and]

theorem testBit_mask (mask : UInt8) (level : Nat) :
    (mask ||| serialMaskBit).toNat.testBit level =
      (mask.toNat.testBit level || level == serialLevel) := by
  by_cases low : level < 8
  · have bits : ∀ (bits : BitVec 8) (level : Fin 8),
        ((⟨bits⟩ : UInt8) ||| serialMaskBit).toNat.testBit level =
          ((⟨bits⟩ : UInt8).toNat.testBit level || level.val == serialLevel) := by
      decide +kernel
    exact bits mask.toBitVec ⟨level, low⟩
  · have other : (level == serialLevel) = false := by
      simp only [serialLevel, beq_eq_false_iff_ne]
      omega
    rw [testBit_byte _ (Nat.not_lt.mp low), testBit_byte _ (Nat.not_lt.mp low), other,
      Bool.false_or]

namespace Uart

variable {u u' u'' : Uart}

/-- The device is where it was, and the format of the line, the handlers of the processor and the
mask of the interrupt controller are as they were. -/
structure Holds (u u' : Uart) : Prop where
  base : u'.base = u.base
  lineControl : u'.lineControl = u.lineControl
  gates : u'.gates = u.gates
  picMask : u'.picMask = u.picMask

theorem Holds.refl (u : Uart) : u.Holds u := ⟨rfl, rfl, rfl, rfl⟩

theorem Holds.trans (h : u.Holds u') (h' : u'.Holds u'') : u.Holds u'' :=
  ⟨h'.base.trans h.base, h'.lineControl.trans h.lineControl, h'.gates.trans h.gates,
    h'.picMask.trans h.picMask⟩

/-- The interrupt controller keeps back the interrupts of a level. -/
def masks (u : Uart) (level : Nat) : Bool := u.picMask.toNat.testBit level

theorem writeRegister_enable (closed : u.latchOpen = false) (value : UInt8) :
    u.writeRegister value .enable = u.setEnable value := by
  rw [writeRegister, closed, if_neg Bool.false_ne_true]

/-- The device once its interrupt is kept back. -/
def muted (u : Uart) : Uart :=
  { u with picMask := u.picMask ||| serialMaskBit, cpuInterrupts := true, modemStatus := 0 }

/-- Put back a handler that was saved. -/
def putBack (u : Uart) : Option Nat → Uart
  | none => u
  | some gate => u.setGate serialVector gate

theorem irqLine_of_masked (masked : hasBit u.picMask serialMaskBit = true) : u.irqLine = false := by
  rw [irqLine, masked, Bool.not_true, Bool.and_false, Bool.false_and]

theorem base_putBack (u : Uart) (saved : Option Nat) : (u.putBack saved).base = u.base := by
  cases saved <;> rfl

/-! ### Setting up the line -/

end Uart

namespace SerialPort

variable {p p' p'' : SerialPort} {s s' : Shared} {id : BufferId} {direction : Direction}

/-! ### While the port is open -/

/-- The port is as open as it was, it will put back the same handler, and the device `Holds` what
opening has set. -/
structure Attends (p p' : SerialPort) : Prop where
  base : p'.base = p.base
  isOpen : p'.isOpen = p.isOpen
  savedGate : p'.savedGate = p.savedGate
  uart : p.uart.Holds p'.uart

namespace Attends

theorem refl (p : SerialPort) : p.Attends p := ⟨rfl, rfl, rfl, .refl p.uart⟩

theorem trans (h : p.Attends p') (h' : p'.Attends p'') : p.Attends p'' :=
  ⟨h'.base.trans h.base, h'.isOpen.trans h.isOpen, h'.savedGate.trans h.savedGate,
    h.uart.trans h'.uart⟩

/-- A change of the device. -/
theorem device {uart : Uart} (h : p.uart.Holds uart) : p.Attends { p with uart } :=
  ⟨rfl, rfl, rfl, h⟩

/-- Whether the processor takes interrupts is no matter of the device. -/
theorem heed (p : SerialPort) (on : Bool) :
    p.Attends (p.onUart fun u => { u with cpuInterrupts := on }) := device ⟨rfl, rfl, rfl, rfl⟩

theorem placed (h : p.Attends p') (placed : p.Placed) : p'.Placed :=
  placed.moved h.uart.base h.base

end Attends

namespace Placed

end Placed

/-- The port is open, and the device is as opening left it where closing needs it. -/
structure Engaged (p p' : SerialPort) : Prop extends Placed p' where
  isOpen : p'.isOpen = true
  lineControl : p'.uart.lineControl = 0x03
  savedGate : p'.savedGate = some (p.uart.gates serialVector)
  gates : p'.uart.gates = fun v => if v = serialVector then handlerGate else p.uart.gates v
  picMask : p'.uart.picMask = p.uart.picMask &&& ~~~serialMaskBit

theorem changeMask_eq (p : SerialPort) (f : UInt8 → UInt8) : p.changeMask f =
    { p with uart := { p.uart with picMask := f p.uart.picMask, cpuInterrupts := true } } := by
  unfold changeMask onUart
  simp only [Uart.inb, Uart.outb, if_true]
  rfl

/-- What closing leaves behind of a port that was opened: the handlers and the mask are those from
before it was opened, but for the interrupt of the port, which is kept back. -/
structure Restored (p p' : SerialPort) : Prop where
  isOpen : p'.isOpen = false
  gates : p'.uart.gates = p.uart.gates
  mask : ∀ level, p'.uart.masks level = (p.uart.masks level || level == serialLevel)
  enable : p'.uart.enable = 0
  irqLine : p'.uart.irqLine = false

/-- Closing keeps the interrupt back, disables every cause and puts back a handler. -/
theorem Placed.close_eq (h : p.Placed) (isOpen : p.isOpen = true) : p.close = .ok { p with
    uart := (p.uart.muted.writeRegister 0 .enable).putBack p.savedGate
    isOpen := false
    savedGate := none } := by
  let u : Uart :=
    { p.uart with picMask := p.uart.picMask ||| serialMaskBit, cpuInterrupts := true }
  have placed : ({ p with uart := u, isOpen := false } : SerialPort).Placed := h.moved rfl rfl
  have placed' : ({ p with uart := p.uart.muted, isOpen := false } : SerialPort).Placed :=
    h.moved rfl rfl
  have muted : (({ p with isOpen := false } : SerialPort).changeMask (· ||| serialMaskBit)).put
      .modemStatus 0 = { p with uart := p.uart.muted, isOpen := false } := by
    rw [changeMask_eq, placed.put_eq]
    rfl
  unfold close
  simp only [if_pos isOpen]
  rw [muted, placed'.put_eq]
  rcases p with ⟨_, _, _, _, _, _, _, _, saved⟩
  cases saved with
  | none => rfl
  | some gate => rfl

/-- A port that was opened can be closed, and what it was opened for is put back. -/
theorem Engaged.close (h : p.Engaged p') : ∃ q, p'.close = .ok q ∧ p.Restored q := by
  refine ⟨_, h.toPlaced.close_eq h.isOpen, ?_⟩
  have latch : p'.uart.latchOpen = false := by
    rw [Uart.latchOpen, h.lineControl]
    decide
  rw [h.savedGate, Uart.writeRegister_enable (u := p'.uart.muted) latch]
  refine ⟨rfl, ?_, ?_, rfl, ?_⟩
  · funext v
    show (if v = serialVector then _ else p'.uart.gates v) = _
    by_cases same : v = serialVector
    · rw [if_pos same, same]
    · rw [if_neg same, h.gates]
      exact if_neg same
  · intro level
    show (p'.uart.picMask ||| _).toNat.testBit level = _
    rw [testBit_mask, h.picMask, testBit_unmask, Uart.masks]
    cases same : level == serialLevel with
    | true => simp
    | false => simp [bne, same]
  · have masked : hasBit (p'.uart.picMask ||| serialMaskBit) serialMaskBit = true := by
      have bits : ∀ bits : BitVec 8, hasBit (⟨bits⟩ ||| serialMaskBit) serialMaskBit = true := by
        decide
      exact bits p'.uart.picMask.toBitVec
    exact Uart.irqLine_of_masked masked

/-- Closing does not move the registers. -/
theorem Placed.close (h : p.Placed) (closed : p.close = .ok p') : p'.Placed := by
  have isOpen : p.isOpen = true := by
    unfold SerialPort.close at closed
    split at closed
    · rename_i isOpen
      exact isOpen
    · cases closed
  rw [h.close_eq isOpen] at closed
  obtain rfl := Except.ok.inj closed
  refine h.moved ?_ rfl
  show ((p.uart.muted.writeRegister 0 .enable).putBack p.savedGate).base = p.uart.base
  rw [Uart.base_putBack, Uart.base_writeRegister]
  rfl

/-! ### From the first event on -/

/-- What happens to a port and to what it shares. -/
inductive PortEvent where
  /-- The driver is called. -/
  | call {ε : Type} (c : PortCall ε)
  /-- An interrupt is taken, whether the line is asserted or not. -/
  | interrupt
  /-- Interrupts are taken for as long as the line is asserted. -/
  | service
  /-- Bytes arrive on the line. -/
  | inject (bytes : List UInt8)
  /-- The line reports an error. -/
  | lineError
  /-- A line of the modem changes. -/
  | modemChange
  /-- The processor takes interrupts from now on, or takes them no longer. -/
  | heed (on : Bool)
  /-- Others use the buffers and the flags. -/
  | share (s : Shared)
  /-- While the port is closed, others program the device, the mask and the handlers. -/
  | program (uart : Uart)

/-- A port and what it shares after an event. -/
def meet (x : SerialPort × Shared) : PortEvent → SerialPort × Shared
  | .call c => (c.steps.after x).2
  | .interrupt => (x.1.handleInterrupt x.2).2
  | .service => (x.1.serviceInterrupts x.2).2
  | .inject bytes => (x.1.onUart (·.inject bytes), x.2)
  | .lineError => (x.1.onUart (·.raiseLineStatus), x.2)
  | .modemChange => (x.1.onUart (·.raiseModemStatus), x.2)
  | .heed on => (x.1.onUart fun u => { u with cpuInterrupts := on }, x.2)
  | .share s => (x.1, s)
  | .program uart =>
    if x.1.isOpen = true ∨ uart.base ≠ x.1.uart.base then x else ({ x.1 with uart }, x.2)

/-- A device as somebody left it: the divisor latch is open, every cause is enabled, and bytes and
causes wait. -/
def leftBehind : Uart :=
  { Uart.create com1 true with
    enable := 0x0F, lineControl := 0xFF, divisor := 0xBEEF, received := [0x41, 0x0D]
    lineStatusPending := true, modemStatusPending := true, picMask := 0xA5
    gates := fun v => 7 * v.toNat }

/-- The port was open before, and somebody used the device in between. -/
def earlier : List PortEvent :=
  [.call (.openWith (some ⟨0⟩) 9600), .call (.transfer .read ⟨0⟩), .inject [0x61], .service,
    .call .close, .program leftBehind]

end SerialPort

end TrapKernel
