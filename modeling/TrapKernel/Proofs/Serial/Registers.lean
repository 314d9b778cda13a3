import TrapKernel.Proofs.Serial.Progress

/-!
# The registers behind a port

A port that is `Ready` reaches the registers of its UART: the driver knows where they are, none of
them is hidden by the interrupt controller, and the divisor latch is closed. Then reading and
writing a register is what the UART does with it, and `Uart.Passes` tells which bytes came into the
receive queue on the way and which ones left it.
-/

namespace TrapKernel

namespace Uart

variable {u u' u'' : Uart} {entered entered' left left' : List UInt8}

/-- Bytes came into the receive queue, namely those that were sent on a looped line, and bytes left
it at the other end. -/
structure Passes (u u' : Uart) (entered left : List UInt8) : Prop where
  base : u'.base = u.base
  lineControl : u'.lineControl = u.lineControl
  loopback : u'.loopback = u.loopback
  sent : ∃ sent, u'.transmitted.toList = u.transmitted.toList ++ sent ∧
    entered = if u.loopback then sent else []
  queue : u.received ++ entered = left ++ u'.received

namespace Passes

/-- What changes neither the queue nor what was sent. -/
theorem quiet (base : u'.base = u.base) (lineControl : u'.lineControl = u.lineControl)
    (loopback : u'.loopback = u.loopback) (transmitted : u'.transmitted = u.transmitted)
    (received : u'.received = u.received) : u.Passes u' [] [] where
  base := base
  lineControl := lineControl
  loopback := loopback
  sent := ⟨[], by rw [transmitted, List.append_nil], by split <;> rfl⟩
  queue := by rw [received, List.append_nil, List.nil_append]

theorem refl (u : Uart) : u.Passes u [] [] := quiet rfl rfl rfl rfl rfl

theorem trans (h : u.Passes u' entered left) (h' : u'.Passes u'' entered' left') :
    u.Passes u'' (entered ++ entered') (left ++ left') where
  base := h'.base.trans h.base
  lineControl := h'.lineControl.trans h.lineControl
  loopback := h'.loopback.trans h.loopback
  sent := by
    obtain ⟨sent, transmitted, entered⟩ := h.sent
    obtain ⟨sent', transmitted', entered'⟩ := h'.sent
    refine ⟨sent ++ sent', ?_, ?_⟩
    · rw [transmitted', transmitted, List.append_assoc]
    · rw [entered, entered', h.loopback]
      split
      · rfl
      · rfl
  queue := by
    rw [← List.append_assoc, h.queue, List.append_assoc, h'.queue, List.append_assoc]

theorem received (h : u.Passes u' [] []) : u'.received = u.received := by
  have queue := h.queue
  rw [List.append_nil, List.nil_append] at queue
  exact queue.symm

/-- Something quiet before or after makes no difference. -/
theorem after (h : u.Passes u' [] []) (h' : u'.Passes u'' entered left) :
    u.Passes u'' entered left := h.trans h'

theorem before (h : u.Passes u' entered left) (h' : u'.Passes u'' [] []) :
    u.Passes u'' entered left := by
  have both := h.trans h'
  rw [List.append_nil, List.append_nil] at both
  exact both

end Passes

theorem register?_offset {base : UInt16} (same : u.base = base) (fits : base < base + registerSpan)
    (r : Register) : u.register? (base + r.offset) = some r := by
  have within : base ≤ base + r.offset ∧ base + r.offset < base + registerSpan := by
    have near := r.offset_lt
    rw [UInt16.le_iff_toNat_le, UInt16.toNat_add]
    rw [UInt16.lt_iff_toNat_lt] at fits near ⊢
    rw [UInt16.toNat_add] at fits ⊢
    rw [UInt16.toNat_add]
    have := base.toNat_lt
    have span : registerSpan.toNat = 8 := rfl
    omega
  have distance : base + r.offset - base = r.offset := by
    rw [UInt16.add_comm, UInt16.add_sub_cancel]
  rw [register?, same, if_pos within, distance]
  exact r.ofOffset?_offset

/-- A device answers at all only up to this base; above it the range of its registers wraps
around. -/
theorem answers_iff : (∃ port, u.register? port ≠ none) ↔ u.base ≤ 0xFFF7 := by
  have fits : u.base < u.base + registerSpan ↔ u.base ≤ 0xFFF7 := by
    rw [UInt16.lt_iff_toNat_lt, UInt16.le_iff_toNat_le, UInt16.toNat_add]
    have := u.base.toNat_lt
    have span : registerSpan.toNat = 8 := rfl
    have last : (0xFFF7 : UInt16).toNat = 0xFFF7 := rfl
    omega
  rw [← fits]
  constructor
  · rintro ⟨port, answers⟩
    rw [register?] at answers
    split at answers
    · rename_i within
      exact UInt16.lt_of_le_of_lt within.1 within.2
    · exact absurd rfl answers
  · intro fits
    refine ⟨u.base + Register.data.offset, ?_⟩
    rw [register?_offset rfl fits]
    nofun

theorem base_writeRegister (u : Uart) (value : UInt8) (r : Register) :
    (u.writeRegister value r).base = u.base := by
  cases r with
  | data | enable =>
    simp only [writeRegister]
    split <;> rfl
  | identify | lineControl | modemControl | lineStatus | modemStatus | scratch => rfl

theorem passes_setEnable (u : Uart) (value : UInt8) : u.Passes (u.setEnable value) [] [] :=
  .quiet rfl rfl rfl rfl rfl

theorem passes_transmit (u : Uart) (value : UInt8) :
    u.Passes (u.transmit value) (if u.loopback then [value] else []) [] := by
  refine ⟨rfl, rfl, rfl, ⟨[value], ?_, rfl⟩, ?_⟩
  · simp [transmit]
  · cases looped : u.loopback <;> simp [transmit, looped]

/-- Acknowledging an interrupt concerns the interrupt controller only. -/
theorem passes_acknowledge (u : Uart) :
    u.Passes (u.outb picCommandPort endOfInterrupt) [] [] := by
  rw [outb, if_neg (by decide), if_pos rfl, if_pos rfl]
  exact .quiet rfl rfl rfl rfl rfl

/-- The identification register reports the pending cause. -/
theorem passes_identify (u : Uart) :
    u.Passes (u.readRegister .identify).2 [] [] ∧
      InterruptCause.decode (u.readRegister .identify).1 = u.pendingCause := by
  cases pending : u.pendingCause with
  | none =>
    simp only [readRegister, pending]
    exact ⟨.refl u, by decide⟩
  | some cause =>
    cases cause with
    | transmitterEmpty =>
      simp only [readRegister, pending]
      exact ⟨.quiet rfl rfl rfl rfl rfl, by decide⟩
    | modemStatus | receivedData | lineStatus =>
      simp only [readRegister, pending]
      exact ⟨.refl u, by decide⟩

/-- Received data is pending only while there is some. -/
theorem received_of_pending (pending : u.pendingCause = some .receivedData) :
    ∃ byte rest, u.received = byte :: rest := by
  cases received : u.received with
  | cons byte rest => exact ⟨byte, rest, rfl⟩
  | nil =>
    unfold pendingCause at pending
    rw [received] at pending
    simp only [List.isEmpty_nil, Bool.not_true, Bool.false_and, Bool.false_eq_true, if_false]
      at pending
    split at pending
    · cases pending
    · split at pending
      · cases pending
      · split at pending <;> cases pending

end Uart

namespace SerialPort

variable {p p' : SerialPort} {entered left : List UInt8}

/-- The driver looks for the registers where the device has them, their range does not wrap around,
so that the device answers at all (`Uart.answers_iff`), and no port of the interrupt controller is
among theirs. -/
structure Placed (p : SerialPort) : Prop where
  base : p.uart.base = p.base
  fits : p.base < p.base + registerSpan
  apart : ∀ r : Register, p.base + r.offset ≠ picCommandPort ∧ p.base + r.offset ≠ picMaskPort

/-- The first registers lead to the data and to the enabled causes. -/
structure Ready (p : SerialPort) : Prop extends Placed p where
  closed : p.uart.latchOpen = false

namespace Placed

theorem register? (h : p.Placed) (r : Register) :
    p.uart.register? (p.base + r.offset) = some r :=
  Uart.register?_offset h.base h.fits r

/-- Where the registers are depends on the two base ports only. -/
theorem moved (h : p.Placed) (uart : p'.uart.base = p.uart.base) (base : p'.base = p.base) :
    p'.Placed := by
  refine ⟨?_, ?_, ?_⟩
  · rw [uart, base]
    exact h.base
  · rw [base]
    exact h.fits
  · rw [base]
    exact h.apart

theorem fetch_eq (h : p.Placed) (r : Register) :
    p.fetch r = ((p.uart.readRegister r).1, { p with uart := (p.uart.readRegister r).2 }) := by
  rw [fetch, Uart.inb, if_neg (h.apart r).2, h.register?]

theorem put_eq (h : p.Placed) (r : Register) (value : UInt8) :
    p.put r value = { p with uart := p.uart.writeRegister value r } := by
  rw [put, onUart, Uart.outb, if_neg (h.apart r).2, if_neg (h.apart r).1, h.register?]

/-- Writing a register does not move them. -/
theorem put (h : p.Placed) (r : Register) (value : UInt8) : (p.put r value).Placed := by
  refine h.moved ?_ rfl
  rw [h.put_eq]
  exact p.uart.base_writeRegister value r

end Placed

namespace Ready

theorem passes (h : p.Ready) (base : p'.base = p.base)
    (passes : p.uart.Passes p'.uart entered left) : p'.Ready := by
  refine ⟨h.toPlaced.moved passes.base base, ?_⟩
  rw [Uart.latchOpen, passes.lineControl]
  exact h.closed

theorem put_data (h : p.Ready) (value : UInt8) :
    p.uart.Passes (p.put .data value).uart (if p.uart.loopback then [value] else []) [] := by
  rw [h.put_eq, Uart.writeRegister, h.closed]
  exact p.uart.passes_transmit value

theorem put_enable (h : p.Ready) (value : UInt8) :
    p.uart.Passes (p.put .enable value).uart [] [] := by
  rw [h.put_eq, Uart.writeRegister, h.closed]
  exact p.uart.passes_setEnable value

theorem fetch_enable (h : p.Ready) : p.uart.Passes (p.fetch .enable).2.uart [] [] := by
  rw [h.fetch_eq, Uart.readRegister, h.closed]
  exact .refl p.uart

theorem fetch_data (h : p.Ready) {byte : UInt8} {rest : List UInt8}
    (received : p.uart.received = byte :: rest) :
    (p.fetch .data).1 = byte ∧ p.uart.Passes (p.fetch .data).2.uart [] [byte] := by
  have read : p.uart.readRegister .data = (byte, { p.uart with received := rest }) := by
    simp only [Uart.readRegister, h.closed, received]
    rfl
  rw [h.fetch_eq, read]
  refine ⟨rfl, rfl, rfl, rfl, ⟨[], (List.append_nil _).symm, by split <;> rfl⟩, ?_⟩
  rw [received, List.append_nil]
  rfl

/-- Reading from an empty queue has no effect. -/
theorem touch_data (h : p.Ready) (none : p.uart.received = []) :
    p.uart.Passes (p.touch .data).uart [] [] := by
  have read : p.uart.readRegister .data = (0, p.uart) := by
    simp only [Uart.readRegister, h.closed, none]
    rfl
  rw [touch, h.fetch_eq, read]
  exact .refl p.uart

theorem fetch_identify (h : p.Ready) : p.uart.Passes (p.fetch .identify).2.uart [] [] ∧
    InterruptCause.decode (p.fetch .identify).1 = p.uart.pendingCause := by
  rw [h.fetch_eq]
  exact p.uart.passes_identify

theorem touch_modemStatus (h : p.Ready) : p.uart.Passes (p.touch .modemStatus).uart [] [] := by
  rw [touch, h.fetch_eq]
  exact .quiet rfl rfl rfl rfl rfl

theorem touch_lineStatus (h : p.Ready) : p.uart.Passes (p.touch .lineStatus).uart [] [] := by
  rw [touch, h.fetch_eq]
  exact .quiet rfl rfl rfl rfl rfl

end Ready

/-! ### Opening -/

/-- Once the line is set up, the latch is closed and nothing waits in the receive queue. -/
theorem configure_ready (h : p.Placed) (baud : BaudRate) :
    (p.configure baud).Ready ∧ (p.configure baud).uart.received = [] := by
  unfold configure
  simp only []
  have latch := (((h.put .enable 0).put .lineControl divisorLatchBit).put .enable
    (.ofNat (baud.divisor.toNat / 0x100))).put .data (.ofNat (baud.divisor.toNat % 0x100))
  have closed := latch.put .lineControl 0x03
  refine ⟨⟨closed.put .identify 0xC7, ?_⟩, ?_⟩
  · rw [closed.put_eq, latch.put_eq]
    show hasBit 0x03 divisorLatchBit = false
    decide
  · rw [closed.put_eq]
    rfl

/-- The mask belongs to the interrupt controller. -/
theorem changeMask_passes (p : SerialPort) (f : UInt8 → UInt8) :
    p.uart.Passes (p.changeMask f).uart [] [] := by
  unfold changeMask onUart
  simp only [Uart.inb, Uart.outb, if_true]
  exact .quiet rfl rfl rfl rfl rfl

/-- Letting received data interrupt does not fill the queue. -/
theorem listen_ready (h : p.Ready) (empty : p.uart.received = []) (f : UInt8 → UInt8)
    (value : UInt8) :
    (((p.changeMask f).put .enable value).touch .data).Ready ∧
      (((p.changeMask f).put .enable value).touch .data).uart.received = [] := by
  have masked := p.changeMask_passes f
  have ready : (p.changeMask f).Ready := h.passes rfl masked
  have enabled := ready.put_enable value
  have ready' : ((p.changeMask f).put .enable value).Ready := ready.passes rfl enabled
  have empty' : ((p.changeMask f).put .enable value).uart.received = [] := by
    rw [enabled.received, masked.received, empty]
  have touched := ready'.touch_data empty'
  refine ⟨ready'.passes rfl touched, ?_⟩
  rw [touched.received, empty']

/-- A port that was opened is ready; nothing waits in the receive queue, and nothing in the ring. -/
theorem openWith_ready {event : Option FlagId} {rate : Nat} (h : p.Placed)
    (opened : p.openWith event rate = .ok p') :
    p'.Ready ∧ p'.uart.received = [] ∧ p'.ring = p.ring.clear := by
  unfold openWith at opened
  split at opened
  · cases opened
  · cases opened
  · rename_i e baud _
    split at opened
    · cases opened
    obtain rfl := Except.ok.inj opened
    let q : SerialPort := { p with
      isOpen := true, event := some e, status := .idle, ring := p.ring.clear,
      savedGate := some (p.uart.gates serialVector) }
    have placed : (q.onUart (·.setGate serialVector handlerGate)).Placed := h.moved rfl rfl
    obtain ⟨configured, empty⟩ := configure_ready placed baud
    have listening := listen_ready configured empty (· &&& ~~~serialMaskBit) receivedDataBit
    exact ⟨listening.1, listening.2, rfl⟩

end SerialPort

end TrapKernel
