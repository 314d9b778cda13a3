import TrapKernel.Proofs.Serial.Carried

/-!
# How long a device goes on interrupting

Every interrupt that the line asserts is served, and makes the `load` of the port smaller: the bytes
that wait in the receive queue, the causes that are pending, and twice the bytes of a write that are
still to be sent. A byte that is sent raises the empty transmitter again and on a looped line arrives
at the receiver, which is why it counts twice.
-/

namespace TrapKernel

namespace Uart

variable {u : Uart} {cause : InterruptCause}

/-- The causes that are pending, received data apart. -/
def flags (u : Uart) : Nat :=
  u.lineStatusPending.toNat + u.modemStatusPending.toNat + u.transmitterEmptyPending.toNat

/-- What the device may interrupt for. -/
def load (u : Uart) : Nat := u.received.length + u.flags

/-- There is a reason for an interrupt with this cause. -/
def Pending (u : Uart) : InterruptCause → Prop
  | .lineStatus => u.lineStatusPending = true
  | .receivedData => u.received ≠ []
  | .transmitterEmpty => u.transmitterEmptyPending = true
  | .modemStatus => u.modemStatusPending = true

theorem pending_of_asserted (asserted : u.pendingCause = some cause) : u.Pending cause := by
  unfold pendingCause at asserted
  split at asserted
  · rename_i line
    obtain rfl := Option.some.inj asserted
    exact (Bool.and_eq_true_iff.mp line).1
  split at asserted
  · rename_i data
    obtain rfl := Option.some.inj asserted
    show u.received ≠ []
    simpa using (Bool.and_eq_true_iff.mp data).1
  split at asserted
  · rename_i empty
    obtain rfl := Option.some.inj asserted
    exact (Bool.and_eq_true_iff.mp empty).1
  split at asserted
  · rename_i modem
    obtain rfl := Option.some.inj asserted
    exact (Bool.and_eq_true_iff.mp modem).1
  · cases asserted

/-- A device asserts something if the empty transmitter may interrupt. -/
theorem asserted_of_transmitterEmpty (pending : u.transmitterEmptyPending = true)
    (enabled : u.enabled transmitterEmptyBit = true) : u.pendingCause.isSome = true := by
  unfold pendingCause
  rw [pending, enabled]
  repeat' split
  all_goals simp_all

theorem load_pos (pending : u.Pending cause) : 0 < u.load := by
  cases cause with
  | receivedData => exact Nat.add_pos_left (List.length_pos_iff.mpr pending) _
  | lineStatus | transmitterEmpty | modemStatus =>
    have set := pending
    simp only [Pending] at set
    simp only [load, flags, set, Bool.toNat_true]
    omega

/-- Identifying the empty transmitter acknowledges it; identifying any other cause does nothing. -/
theorem identify_eq (u : Uart) : (u.readRegister .identify).2 =
    if u.pendingCause = some .transmitterEmpty then { u with transmitterEmptyPending := false }
    else u := by
  cases pending : u.pendingCause with
  | none => simp [readRegister, pending]
  | some cause => cases cause <;> simp [readRegister, pending]

/-- What lies between the device and the processor is as it was. -/
structure SameWay (u u' : Uart) : Prop where
  picMask : u'.picMask = u.picMask
  cpuInterrupts : u'.cpuInterrupts = u.cpuInterrupts

/-- The same causes may interrupt, and they reach the processor in the same way. -/
structure Listens (u u' : Uart) : Prop extends SameWay u u' where
  enable : u'.enable = u.enable

theorem SameWay.trans {u' u'' : Uart} (h : u.SameWay u') (h' : u'.SameWay u'') : u.SameWay u'' :=
  ⟨h'.picMask.trans h.picMask, h'.cpuInterrupts.trans h.cpuInterrupts⟩

theorem Listens.trans {u' u'' : Uart} (h : u.Listens u') (h' : u'.Listens u'') :
    u.Listens u'' :=
  ⟨h.toSameWay.trans h'.toSameWay, h'.enable.trans h.enable⟩

theorem listens_readRegister (u : Uart) (r : Register) : u.Listens (u.readRegister r).2 := by
  cases r with
  | data | enable | identify =>
    simp only [readRegister]
    repeat' split
    all_goals exact ⟨⟨rfl, rfl⟩, rfl⟩
  | lineControl | modemControl | lineStatus | modemStatus | scratch => exact ⟨⟨rfl, rfl⟩, rfl⟩

theorem sameWay_writeRegister (u : Uart) (value : UInt8) (r : Register) :
    u.SameWay (u.writeRegister value r) := by
  cases r with
  | data | enable =>
    simp only [writeRegister]
    split <;> exact ⟨rfl, rfl⟩
  | identify | lineControl | modemControl | lineStatus | modemStatus | scratch => exact ⟨rfl, rfl⟩

/-- Only the identification register acknowledges the empty transmitter. -/
theorem transmitterEmptyPending_readRegister (u : Uart) {r : Register} (other : r ≠ .identify) :
    (u.readRegister r).2.transmitterEmptyPending = u.transmitterEmptyPending := by
  cases r with
  | identify => exact absurd rfl other
  | data | enable =>
    simp only [readRegister]
    repeat' split
    all_goals rfl
  | lineControl | modemControl | lineStatus | modemStatus | scratch => rfl

/-- The bit that lets the empty transmitter interrupt is set, or taken away. -/
theorem hasBit_transmitterEmpty (value : UInt8) :
    hasBit ((value ||| transmitterEmptyBit) &&& 0x0F) transmitterEmptyBit = true ∧
      hasBit ((value &&& ~~~transmitterEmptyBit) &&& 0x0F) transmitterEmptyBit = false := by
  have bits : ∀ bits : BitVec 8,
      hasBit ((⟨bits⟩ ||| transmitterEmptyBit) &&& 0x0F) transmitterEmptyBit = true ∧
        hasBit ((⟨bits⟩ &&& ~~~transmitterEmptyBit) &&& 0x0F) transmitterEmptyBit = false := by
    decide
  exact bits value.toBitVec

theorem acknowledge_eq (u : Uart) :
    u.outb picCommandPort endOfInterrupt = { u with acknowledged := u.acknowledged + 1 } := by
  rw [outb, if_neg (by decide), if_pos rfl, if_pos rfl]

theorem listens_acknowledge (u : Uart) : u.Listens (u.outb picCommandPort endOfInterrupt) := by
  rw [acknowledge_eq]
  exact ⟨⟨rfl, rfl⟩, rfl⟩

end Uart

namespace SerialPort

variable {p p' : SerialPort} {s s' : Shared} {e : FlagId} {id : BufferId} {direction : Direction}

/-- Bytes of a write that are still to be sent. -/
def unsent (p : SerialPort) : Nat :=
  if p.status = .writing then p.output.requested - p.output.done else 0

/-- The measure of the interrupts that are still to be taken. -/
def load (p : SerialPort) : Nat := p.uart.load + 2 * p.unsent

theorem unsent_of_not_writing (quiet : p.status ≠ .writing) : p.unsent = 0 := if_neg quiet

theorem unsent_of_writing (writing : p.status = .writing) :
    p.unsent = p.output.requested - p.output.done := if_pos writing

/-! ### One interrupt -/

theorem isOpen_receive (p : SerialPort) (s : Shared) (byte : UInt8) :
    (p.receive s byte).1.isOpen = p.isOpen := by
  unfold receive
  split
  · rfl
  · split
    · rfl
    · simp only []
      split <;> rfl

/-- A byte that is received changes nothing for a write. -/
theorem unsent_receive (p : SerialPort) (s : Shared) (byte : UInt8) :
    (p.receive s byte).1.unsent = p.unsent := by
  by_cases reading : p.status = .reading
  · have none : p.unsent = 0 := unsent_of_not_writing (by rw [reading]; nofun)
    rw [none]
    apply unsent_of_not_writing
    unfold receive
    rw [if_neg (Decidable.not_not.mpr reading)]
    split
    · nofun
    · simp only []
      split
      · nofun
      · rw [reading]
        nofun
  · rw [receive_quiet reading]
    rfl

theorem isOpen_outputInterrupt (p : SerialPort) (s : Shared) :
    (p.outputInterrupt s).1.isOpen = p.isOpen := by
  unfold outputInterrupt
  split
  · rfl
  · split <;> rfl

theorem isOpen_serve (p : SerialPort) (s : Shared) (cause : Option InterruptCause) :
    (p.serve s cause).1.isOpen = p.isOpen := by
  cases cause with
  | none => rfl
  | some cause =>
    cases cause with
    | modemStatus | lineStatus => rfl
    | transmitterEmpty => exact p.isOpen_outputInterrupt s
    | receivedData =>
      rw [serve, inputInterrupt_eq]
      exact p.isOpen_receive s _

theorem isOpen_handleInterrupt (p : SerialPort) (s : Shared) :
    (p.handleInterrupt s).2.1.isOpen = p.isOpen := by
  by_cases isOpen : p.isOpen = true
  · rw [handleInterrupt_eq isOpen]
    exact isOpen_serve _ s _
  · unfold handleInterrupt
    rw [if_neg isOpen]
    rfl

/-- What a write sends next, or that it ends, in terms of the device. -/
theorem outputInterrupt_cases (ready : p.Ready) (writing : p.status = .writing) (s : Shared) :
    (p.output.done < p.output.requested ∧ ∃ next,
      (p.outputInterrupt s).1 = { p with
        uart := p.uart.transmit next, output := { p.output with done := p.output.done + 1 } }) ∨
    (p.output.requested ≤ p.output.done ∧
      (p.outputInterrupt s).1 = { (p.completeWrite s).1 with
        uart := p.uart.setEnable (p.uart.enable &&& ~~~transmitterEmptyBit) }) := by
  unfold outputInterrupt
  rw [if_neg (Decidable.not_not.mpr writing)]
  by_cases left : p.output.done < p.output.requested
  · have unsatisfied : p.output.isSatisfied = false := decide_eq_false (Nat.not_le_of_lt left)
    refine Or.inl ⟨left, (p.output.buffer.bind fun id => (s.buffer id).byte? p.output.done).getD 0,
      ?_⟩
    rw [unsatisfied]
    simp only [Bool.not_false, if_true]
    rw [ready.put_eq, Uart.writeRegister, ready.closed]
    rfl
  · have all : p.output.requested ≤ p.output.done := Nat.le_of_not_lt left
    have satisfied : p.output.isSatisfied = true := decide_eq_true all
    have ready' : (p.completeWrite s).1.Ready := ready.passes rfl (.quiet rfl rfl rfl rfl rfl)
    have same : ((p.completeWrite s).1.fetch .enable) = (p.uart.enable, (p.completeWrite s).1) := by
      rw [ready'.fetch_eq, Uart.readRegister, ready'.closed]
      rfl
    refine Or.inr ⟨all, ?_⟩
    rw [satisfied]
    simp only [Bool.not_true, Bool.false_eq_true, if_false, same]
    rw [ready'.put_eq, Uart.writeRegister, ready'.closed]
    rfl

/-- A write sends a byte for the empty transmitter that was acknowledged, or ends. -/
theorem load_outputInterrupt (ready : p.Ready) (taken : p.uart.transmitterEmptyPending = false)
    (s : Shared) : (p.outputInterrupt s).1.load ≤ p.load := by
  by_cases writing : p.status = .writing
  · rcases outputInterrupt_cases ready writing s with ⟨left, next, eq⟩ | ⟨all, eq⟩
    · rw [eq, load, load, unsent_of_writing writing, unsent_of_writing (by exact writing)]
      have arrives : (p.uart.transmit next).received.length ≤ p.uart.received.length + 1 := by
        rw [Uart.transmit]
        cases p.uart.loopback <;> simp
      simp only [Uart.load, Uart.flags, taken, Uart.transmit, Bool.toNat_true, Bool.toNat_false]
        at arrives ⊢
      omega
    · have idle : DeviceStatus.idle ≠ .writing := by decide
      rw [eq, load, load, unsent_of_writing writing, unsent_of_not_writing idle]
      have off := (Uart.hasBit_transmitterEmpty p.uart.enable).2
      simp only [Uart.load, Uart.flags, taken, Uart.setEnable, off, Bool.and_false, Bool.or_false,
        Bool.toNat_false]
      omega
  · rw [outputInterrupt, if_pos writing]

/-- Any other cause is no longer pending once it was served. -/
theorem load_serve (ready : p.Ready) {cause : InterruptCause} (pending : p.uart.Pending cause)
    (other : cause ≠ .transmitterEmpty) (s : Shared) :
    (p.serve s (some cause)).1.load < p.load := by
  cases cause with
  | transmitterEmpty => exact absurd rfl other
  | receivedData =>
    obtain ⟨byte, rest, received⟩ := List.exists_cons_of_ne_nil pending
    have read : p.uart.readRegister .data = (byte, { p.uart with received := rest }) := by
      simp only [Uart.readRegister, ready.closed, received]
      rfl
    have unsent := p.unsent_receive s (p.fetch .data).1
    rw [serve, inputInterrupt_eq, touch, ready.fetch_eq, read]
    rw [ready.fetch_eq, read] at unsent
    show Uart.load _ + 2 * (p.receive s byte).1.unsent < _
    rw [unsent, load]
    simp only [Uart.load, Uart.flags, received, List.length_cons]
    omega
  | lineStatus =>
    have set : p.uart.lineStatusPending = true := pending
    rw [serve, touch, ready.fetch_eq]
    show Uart.load _ + 2 * p.unsent < _
    rw [load]
    simp only [Uart.readRegister, Uart.load, Uart.flags, set, Bool.toNat_true, Bool.toNat_false]
    omega
  | modemStatus =>
    have set : p.uart.modemStatusPending = true := pending
    rw [serve, touch, ready.fetch_eq]
    show Uart.load _ + 2 * p.unsent < _
    rw [load]
    simp only [Uart.readRegister, Uart.load, Uart.flags, set, Bool.toNat_true, Bool.toNat_false]
    omega

/-- The port once the cause of an interrupt was identified. -/
theorem identified_eq (ready : p.Ready) : (p.fetch .identify).2 =
    { p with uart := if p.uart.pendingCause = some .transmitterEmpty then
        { p.uart with transmitterEmptyPending := false } else p.uart } := by
  rw [ready.fetch_eq, Uart.identify_eq]

/-- An interrupt that the device asserts is served, and the load falls. -/
theorem handleInterrupt_load (ready : p.Ready) (isOpen : p.isOpen = true)
    {cause : InterruptCause} (asserted : p.uart.pendingCause = some cause) (s : Shared) :
    (p.handleInterrupt s).1 = some cause ∧ (p.handleInterrupt s).2.1.load < p.load := by
  obtain ⟨passes, decoded⟩ := ready.fetch_identify
  have ready' : (p.fetch .identify).2.Ready := ready.passes rfl passes
  have pending := Uart.pending_of_asserted asserted
  have identified := identified_eq ready
  rw [handleInterrupt_eq isOpen, decoded, asserted]
  refine ⟨rfl, ?_⟩
  have acknowledged (q : SerialPort) :
      (q.onUart (·.outb picCommandPort endOfInterrupt)).load = q.load := by
    simp only [onUart, Uart.acknowledge_eq]
    rfl
  rw [acknowledged]
  by_cases empty : cause = .transmitterEmpty
  · subst empty
    rw [if_pos asserted] at identified
    have falls : (p.fetch .identify).2.load < p.load := by
      have set : p.uart.transmitterEmptyPending = true := pending
      rw [identified]
      show Uart.load _ + 2 * p.unsent < _
      rw [load]
      simp only [Uart.load, Uart.flags, set, Bool.toNat_true, Bool.toNat_false]
      omega
    have taken : (p.fetch .identify).2.uart.transmitterEmptyPending = false := by rw [identified]
    exact Nat.lt_of_le_of_lt (load_outputInterrupt ready' taken s) falls
  · rw [asserted, if_neg fun same => empty (Option.some.inj same)] at identified
    rw [identified]
    exact load_serve ready pending empty s

/-! ### The interrupts that are asserted -/

theorem asserted_of_irqLine (line : p.uart.irqLine = true) :
    ∃ cause, p.uart.pendingCause = some cause := by
  unfold Uart.irqLine at line
  exact Option.isSome_iff_exists.mp (Bool.and_eq_true_iff.mp line).2

/-- After as many interrupts nothing is asserted. -/
theorem irqLine_serviceUpTo (ready : p.Ready) (isOpen : p.isOpen = true) (s : Shared) {most : Nat}
    (enough : p.load ≤ most) : (p.serviceUpTo s most).2.1.uart.irqLine = false := by
  induction most generalizing p s with
  | zero =>
    rw [serviceUpTo, ← Bool.not_eq_true]
    intro (line : p.uart.irqLine = true)
    obtain ⟨cause, asserted⟩ := asserted_of_irqLine line
    have some := Uart.load_pos (Uart.pending_of_asserted asserted)
    rw [load] at enough
    omega
  | succ most ih =>
    rw [serviceUpTo]
    split
    · rename_i line
      obtain ⟨cause, asserted⟩ := asserted_of_irqLine line
      have falls := (handleInterrupt_load ready isOpen asserted s).2
      have isOpen' := (p.isOpen_handleInterrupt s).trans isOpen
      exact ih (ready.handleInterrupt s) isOpen' _ (by omega)
    · rename_i line
      exact Bool.not_eq_true _ ▸ line

end SerialPort

end TrapKernel
