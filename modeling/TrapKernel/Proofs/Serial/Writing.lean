import TrapKernel.Proofs.Serial.Load

/-!
# A write is never stuck

A write is carried on by the interrupt of the empty transmitter. While a port writes, it is
`Primed`: this cause is pending and enabled, and the interrupt controller lets it through. So a
write is finished as soon as the interrupts are taken.
-/

namespace TrapKernel

namespace SerialPort

variable {p p' : SerialPort} {s s' : Shared} {e : FlagId} {id : BufferId} {requested : Nat}

/-- The interrupt that carries a write on is pending and may reach the processor. -/
structure Primed (p : SerialPort) : Prop where
  status : p.status = .writing
  pending : p.uart.transmitterEmptyPending = true
  enabled : p.uart.enabled transmitterEmptyBit = true
  unmasked : hasBit p.uart.picMask serialMaskBit = false
  most : p.output.done ≤ p.output.requested

/-- A write has sent all its bytes, and the empty transmitter interrupts no more. -/
structure Finished (requested : Nat) (p : SerialPort) : Prop where
  idle : p.Idle
  disabled : p.uart.enabled transmitterEmptyBit = false
  sent : p.output.done = requested

/-- Where a write of so many bytes stands. -/
def Writes (requested : Nat) (p : SerialPort) : Prop :=
  p.Primed ∧ p.output.requested = requested ∨ p.Finished requested

/-- A primed port interrupts, if the processor lets it. -/
theorem Primed.irqLine (primed : p.Primed) (heeded : p.uart.cpuInterrupts = true) :
    p.uart.irqLine = true := by
  rw [Uart.irqLine, heeded, primed.unmasked,
    Uart.asserted_of_transmitterEmpty primed.pending primed.enabled]
  rfl

/-- What is on the way does not change while an interrupt is taken. -/
theorem sameWay_handleInterrupt (ready : p.Ready) (s : Shared) :
    p.uart.SameWay (p.handleInterrupt s).2.1.uart := by
  have fetched (q : SerialPort) (placed : q.Placed) (r : Register) :
      q.uart.SameWay (q.fetch r).2.uart := by
    rw [placed.fetch_eq]
    exact (q.uart.listens_readRegister r).toSameWay
  by_cases isOpen : p.isOpen = true
  · have ready' : (p.fetch .identify).2.Ready := ready.passes rfl ready.fetch_identify.1
    rw [handleInterrupt_eq isOpen]
    refine ((fetched p ready.toPlaced .identify).trans ?_).trans
      (Uart.listens_acknowledge _).toSameWay
    generalize (p.fetch .identify).2 = q at ready'
    cases InterruptCause.decode (p.fetch .identify).1 with
    | none => exact ⟨rfl, rfl⟩
    | some cause =>
      cases cause with
      | modemStatus | lineStatus => exact fetched q ready'.toPlaced _
      | receivedData =>
        rw [serve, inputInterrupt_eq]
        exact fetched q ready'.toPlaced .data
      | transmitterEmpty =>
        by_cases writing : q.status = .writing
        · rcases outputInterrupt_cases ready' writing s with ⟨-, next, eq⟩ | ⟨-, eq⟩
          · rw [serve, eq]
            exact ⟨rfl, rfl⟩
          · rw [serve, eq]
            exact ⟨rfl, rfl⟩
        · rw [serve, outputInterrupt, if_pos writing]
          exact ⟨rfl, rfl⟩
  · unfold SerialPort.handleInterrupt
    rw [if_neg isOpen]
    exact (p.uart.listens_acknowledge).toSameWay

/-- While nobody reads, serving any cause but the empty transmitter leaves all but the device and
the ring alone. -/
theorem serve_aside (ready : p.Ready) (quiet : p.status ≠ .reading) (s : Shared)
    {cause : Option InterruptCause} (other : cause ≠ some .transmitterEmpty) :
    ∃ uart ring, (p.serve s cause).1 = { p with uart, ring } ∧ p.uart.Listens uart ∧
      uart.transmitterEmptyPending = p.uart.transmitterEmptyPending := by
  have touched (r : Register) (notIdentify : r ≠ .identify) : p.uart.Listens (p.touch r).uart ∧
      (p.touch r).uart.transmitterEmptyPending = p.uart.transmitterEmptyPending := by
    rw [touch, ready.fetch_eq]
    exact ⟨p.uart.listens_readRegister r, p.uart.transmitterEmptyPending_readRegister notIdentify⟩
  cases cause with
  | none => exact ⟨p.uart, p.ring, rfl, ⟨⟨rfl, rfl⟩, rfl⟩, rfl⟩
  | some cause =>
    cases cause with
    | transmitterEmpty => exact absurd rfl other
    | modemStatus => exact ⟨_, p.ring, rfl, touched .modemStatus (by decide)⟩
    | lineStatus => exact ⟨_, p.ring, rfl, touched .lineStatus (by decide)⟩
    | receivedData =>
      refine ⟨(p.touch .data).uart, (p.ring.store (p.fetch .data).1).2, ?_,
        touched .data (by decide)⟩
      rw [serve, inputInterrupt_eq, receive_quiet quiet]

/-- Once a write is finished, it stays so. -/
theorem Finished.frame (finished : p.Finished requested) {uart : Uart}
    (listens : p.uart.Listens uart) (ring : Ring ringCapacity) :
    Finished requested { p with uart, ring } := by
  refine ⟨finished.idle, ?_, finished.sent⟩
  rw [Uart.enabled, listens.enable]
  exact finished.disabled

theorem Finished.handleInterrupt (finished : p.Finished requested)
    (ready : p.Ready) (s : Shared) : Finished requested (p.handleInterrupt s).2.1 := by
  have idle : p.status = .idle := finished.idle
  by_cases isOpen : p.isOpen = true
  · have ready' : (p.fetch .identify).2.Ready := ready.passes rfl ready.fetch_identify.1
    have identified : Finished requested (p.fetch .identify).2 := by
      rw [ready.fetch_eq]
      exact finished.frame (p.uart.listens_readRegister .identify) p.ring
    rw [handleInterrupt_eq isOpen]
    refine Finished.frame ?_ (Uart.listens_acknowledge _) _
    by_cases empty : InterruptCause.decode (p.fetch .identify).1 = some .transmitterEmpty
    · have quiet : (p.fetch .identify).2.status ≠ .writing := by
        rw [show (p.fetch .identify).2.status = .idle from idle]
        decide
      rw [empty, serve, outputInterrupt, if_pos quiet]
      exact identified
    · have quiet : (p.fetch .identify).2.status ≠ .reading := by
        rw [show (p.fetch .identify).2.status = .idle from idle]
        decide
      obtain ⟨uart, ring, eq, listens, -⟩ := serve_aside ready' quiet s empty
      rw [eq]
      exact identified.frame listens ring
  · unfold SerialPort.handleInterrupt
    rw [if_neg isOpen]
    exact finished.frame p.uart.listens_acknowledge p.ring

/-- The next byte of a primed write is sent, and the write stays primed; or it is finished. -/
theorem Primed.handleInterrupt (primed : p.Primed) (ready : p.Ready) (isOpen : p.isOpen = true)
    (s : Shared) : Writes p.output.requested (p.handleInterrupt s).2.1 := by
  have reads : p.status ≠ .reading := by
    rw [primed.status]
    nofun
  have acknowledged (q : SerialPort) (primed : q.Primed) :
      (q.onUart (·.outb picCommandPort endOfInterrupt)).Primed := by
    simp only [onUart, Uart.acknowledge_eq]
    exact ⟨primed.status, primed.pending, primed.enabled, primed.unmasked, primed.most⟩
  obtain ⟨cause, asserted⟩ := Option.isSome_iff_exists.mp
    (Uart.asserted_of_transmitterEmpty primed.pending primed.enabled)
  obtain ⟨passes, decoded⟩ := ready.fetch_identify
  have ready' : (p.fetch .identify).2.Ready := ready.passes rfl passes
  have identified := identified_eq ready
  rw [handleInterrupt_eq isOpen, decoded, asserted]
  by_cases empty : cause = .transmitterEmpty
  · subst empty
    rw [if_pos asserted] at identified
    have writing : (p.fetch .identify).2.status = .writing := primed.status
    rcases outputInterrupt_cases ready' writing s with ⟨left, next, eq⟩ | ⟨all, eq⟩
    · refine Or.inl ⟨acknowledged _ ?_, ?_⟩
      · rw [serve, eq, identified]
        exact ⟨primed.status, rfl, primed.enabled, primed.unmasked, left⟩
      · simp only [serve, eq]
        rfl
    · refine Or.inr (Finished.frame ?_ (Uart.listens_acknowledge _) _)
      rw [serve, eq]
      exact ⟨rfl, (Uart.hasBit_transmitterEmpty _).2, Nat.le_antisymm primed.most all⟩
  · have other : some cause ≠ some .transmitterEmpty := fun same => empty (Option.some.inj same)
    rw [asserted, if_neg other] at identified
    obtain ⟨uart, ring, eq, listens, pending⟩ := serve_aside ready reads s other
    rw [identified]
    show Writes p.output.requested
      ((p.serve s (some cause)).1.onUart (·.outb picCommandPort endOfInterrupt))
    rw [eq]
    refine Or.inl ⟨acknowledged _ ⟨primed.status, pending.trans primed.pending, ?_, ?_,
      primed.most⟩, rfl⟩
    · rw [Uart.enabled, listens.enable]
      exact primed.enabled
    · rw [listens.picMask]
      exact primed.unmasked

/-- Where a write stands after any number of interrupts. -/
theorem Writes.serviceUpTo (writes : p.Writes requested) (ready : p.Ready)
    (isOpen : p.isOpen = true) (s : Shared) (most : Nat) : Writes requested (p.serviceUpTo s most).2.1 ∧
      p.uart.SameWay (p.serviceUpTo s most).2.1.uart := by
  induction most generalizing p s with
  | zero => exact ⟨writes, rfl, rfl⟩
  | succ most ih =>
    rw [SerialPort.serviceUpTo]
    split
    · have next : Writes requested (p.handleInterrupt s).2.1 := by
        rcases writes with ⟨primed, rfl⟩ | finished
        · exact primed.handleInterrupt ready isOpen s
        · exact Or.inr (finished.handleInterrupt ready s)
      obtain ⟨writes', way⟩ := ih next (ready.handleInterrupt s)
        ((p.isOpen_handleInterrupt s).trans isOpen) (p.handleInterrupt s).2.2
      exact ⟨writes', (sameWay_handleInterrupt ready s).trans way⟩
    · exact ⟨writes, rfl, rfl⟩

/-- A primed write is finished once all interrupts were taken. -/
theorem Primed.serviceInterrupts (primed : p.Primed) (ready : p.Ready) (isOpen : p.isOpen = true)
    (heeded : p.uart.cpuInterrupts = true) (few : p.load ≤ maxInterruptsPerPoll) (s : Shared) :
    Finished p.output.requested (p.serviceInterrupts s).2.1 := by
  obtain ⟨writes, way⟩ := Writes.serviceUpTo (Or.inl ⟨primed, rfl⟩) ready isOpen s
    maxInterruptsPerPoll
  rcases writes with ⟨primed', -⟩ | finished
  · -- a primed port would interrupt, but nothing is asserted any more
    have line := primed'.irqLine (way.cpuInterrupts.trans heeded)
    rw [irqLine_serviceUpTo ready isOpen s few] at line
    cases line
  · exact finished

/-! ### The start of a write -/

/-- The device after the first byte of a write was sent. -/
theorem uart_sent (ready : p.Ready) (id : BufferId) (count : Nat) (byte : UInt8) :
    (p.sent id count byte).uart = { (p.uart.transmit byte).setEnable
      (p.uart.enable ||| transmitterEmptyBit) with cpuInterrupts := true } := by
  let q : SerialPort := { p.onUart (·.disableInterrupts) with
    status := .writing, output := ⟨some id, count, 1⟩ }
  have ready' : q.Ready := ready.passes rfl (.quiet rfl rfl rfl rfl rfl)
  have sends : q.put .data byte = { q with uart := q.uart.transmit byte } := by
    rw [ready'.put_eq, Uart.writeRegister, ready'.closed]
    rfl
  have ready'' : (q.put .data byte).Ready := ready'.passes rfl (ready'.put_data byte)
  have asks : (q.put .data byte).fetch .enable = (p.uart.enable, q.put .data byte) := by
    rw [ready''.fetch_eq, Uart.readRegister, ready''.closed, sends]
    rfl
  rw [sent]
  simp only []
  rw [show ({ p.onUart (·.disableInterrupts) with
    status := .writing, output := ⟨some id, count, 1⟩ } : SerialPort) = q from rfl, asks,
    ready''.put_eq, Uart.writeRegister, ready''.closed, sends]
  rfl

/-- A write that starts is primed. -/
theorem primed_write (ready : p.Ready) (unmasked : hasBit p.uart.picMask serialMaskBit = false)
    (done : p.write s id = .ok (p', s')) : p'.Primed := by
  obtain ⟨count, checked, rfl, -⟩ := write_ok done
  obtain ⟨-, -, -, pos, -⟩ := checkTransfer_ok checked
  refine ⟨rfl, ?_, ?_, ?_, pos⟩
  · rw [uart_sent ready]
    rfl
  · rw [uart_sent ready]
    exact (Uart.hasBit_transmitterEmpty p.uart.enable).1
  · rw [uart_sent ready]
    exact unmasked

theorem transfer_isOpen {direction : Direction} (done : p.transfer s direction id = .ok (p', s')) :
    p.isOpen = true := by
  cases direction with
  | read =>
    obtain ⟨count, drained, checked, -⟩ := read_ok done
    exact (checkTransfer_ok checked).1
  | write =>
    obtain ⟨count, checked, -⟩ := write_ok done
    exact (checkTransfer_ok checked).1

/-- A port that was opened is not masked by the interrupt controller. -/
theorem picMask_openWith {event : Option FlagId} {rate : Nat} (placed : p.Placed)
    (opened : p.openWith event rate = .ok p') :
    hasBit p'.uart.picMask serialMaskBit = false := by
  unfold openWith at opened
  split at opened
  · cases opened
  · cases opened
  · rename_i e baud _
    split at opened
    · cases opened
    obtain rfl := Except.ok.inj opened
    let q : SerialPort := { p with
      isOpen := true, event := some e, status := .idle, ring := p.ring.clear,
      savedGate := some (p.uart.gates serialVector) }
    have placed' : (q.onUart (·.setGate serialVector handlerGate)).Placed := placed.moved rfl rfl
    have ready := (configure_ready placed' baud).1
    generalize (q.onUart (·.setGate serialVector handlerGate)).configure baud = c at ready
    have masked : (c.changeMask (· &&& ~~~serialMaskBit)).Ready :=
      ready.passes rfl (c.changeMask_passes _)
    have listening := (masked.toPlaced.put .enable receivedDataBit)
    show hasBit ((((c.changeMask (· &&& ~~~serialMaskBit)).put .enable receivedDataBit).touch
      .data).uart.picMask) serialMaskBit = false
    have touched := (Uart.listens_readRegister
      ((c.changeMask (· &&& ~~~serialMaskBit)).put .enable receivedDataBit).uart .data).picMask
    have enabled := (Uart.sameWay_writeRegister (c.changeMask (· &&& ~~~serialMaskBit)).uart
      receivedDataBit .enable).picMask
    rw [touch, listening.fetch_eq, touched, masked.put_eq, enabled]
    have bits : ∀ bits : BitVec 8, hasBit (⟨bits⟩ &&& ~~~serialMaskBit) serialMaskBit = false := by
      decide
    exact bits c.uart.picMask.toBitVec

/-! ### From the first call on -/

/-- A call of the driver, or something that happens around it. -/
inductive DriverCall where
  | openWith (event : Option FlagId) (rate : Nat)
  | transfer (direction : Direction) (id : BufferId)
  /-- An interrupt is taken, whether the line is asserted or not. -/
  | interrupt
  /-- Interrupts are taken for as long as the line is asserted. -/
  | service
  /-- Bytes arrive on the line. -/
  | inject (bytes : List UInt8)
  /-- A buffer is filled by the process that owns it. -/
  | prepare (id : BufferId) (b : Buffer)
  /-- The processor takes interrupts from now on, or takes them no longer. -/
  | heed (on : Bool)

/-- A port and the buffers after a call. What the driver refuses changes nothing. -/
def drive (x : SerialPort × Shared) : DriverCall → SerialPort × Shared
  | .openWith event rate =>
    match x.1.openWith event rate with
    | .error _ => x
    | .ok p => (p, x.2)
  | .transfer direction id =>
    match x.1.transfer x.2 direction id with
    | .error _ => x
    | .ok y => y
  | .interrupt => (x.1.handleInterrupt x.2).2
  | .service => (x.1.serviceInterrupts x.2).2
  | .inject bytes => (x.1.onUart (·.inject bytes), x.2)
  | .prepare id b => (x.1, x.2.setBuffer id b)
  | .heed on => (x.1.onUart fun u => { u with cpuInterrupts := on }, x.2)

/-- What holds of a port whatever is done with it: once it is open, the interrupt controller lets its
interrupt through, and while it writes, it is primed. -/
structure Driven (p : SerialPort) : Prop where
  placed : p.Placed
  closed : p.isOpen = false → p.Idle
  atWork : p.isOpen = true → ∃ e, AtWork e p
  unmasked : p.isOpen = true → hasBit p.uart.picMask serialMaskBit = false
  primed : p.status = .writing → p.Primed

namespace Driven

/-- A port that works is open. -/
theorem isOpen (driven : p.Driven) (busy : ¬ p.Idle) : p.isOpen = true := by
  rw [← Bool.not_eq_false]
  exact fun closed => busy (driven.closed closed)

theorem create {uart : Uart} {base : UInt16} (placed : (SerialPort.create uart base).Placed) :
    (SerialPort.create uart base).Driven := ⟨placed, fun _ => rfl, nofun, nofun, nofun⟩

/-- A port that does not write needs no interrupt. -/
theorem quiet (isOpen : p.isOpen = true) (work : AtWork e p)
    (unmasked : hasBit p.uart.picMask serialMaskBit = false) (quiet : p.status ≠ .writing) :
    p.Driven where
  placed := work.toPlaced
  closed := fun closed => absurd isOpen (by simp [closed])
  atWork := fun _ => ⟨e, work⟩
  unmasked := fun _ => unmasked
  primed := fun writing => absurd writing quiet

/-- A change of the device that it does not notice. -/
theorem uart (driven : p.Driven) {uart : Uart} (base : uart.base = p.uart.base)
    (lineControl : uart.lineControl = p.uart.lineControl)
    (pending : uart.transmitterEmptyPending = p.uart.transmitterEmptyPending)
    (enable : uart.enable = p.uart.enable) (picMask : uart.picMask = p.uart.picMask) :
    Driven { p with uart } where
  placed := driven.placed.moved base rfl
  closed := driven.closed
  atWork := by
    intro isOpen
    obtain ⟨e, work⟩ := driven.atWork isOpen
    have frame := GoesOn.frame p uart p.ring .empty
    refine ⟨e, ⟨⟨driven.placed.moved base rfl, ?_⟩,
      frame.settled work.settled, frame.flagged work.flagged⟩⟩
    rw [Uart.latchOpen, lineControl]
    exact work.closed
  unmasked := by
    rw [picMask]
    exact driven.unmasked
  primed := by
    intro writing
    have primed := driven.primed writing
    refine ⟨writing, pending.trans primed.pending, ?_, ?_, primed.most⟩
    · rw [Uart.enabled, enable]
      exact primed.enabled
    · rw [picMask]
      exact primed.unmasked

/-- Opening unmasks the interrupt. -/
theorem openWith (driven : p.Driven) {event : Option FlagId} {rate : Nat}
    (opened : p.openWith event rate = .ok p') : p'.Driven := by
  obtain ⟨ready, -, -⟩ := openWith_ready driven.placed opened
  obtain ⟨isOpen, idle, same, some⟩ := openWith_idle opened
  obtain ⟨e, rfl⟩ := Option.isSome_iff_exists.mp some
  have quiet : p'.status ≠ .writing := by
    rw [show p'.status = .idle from idle]
    nofun
  exact .quiet isOpen ⟨ready, Or.inl idle, fun _ => same⟩
    (picMask_openWith driven.placed opened) quiet

theorem handleInterrupt (driven : p.Driven) (s : Shared) : (p.handleInterrupt s).2.1.Driven := by
  by_cases isOpen : p.isOpen = true
  · obtain ⟨e, work⟩ := driven.atWork isOpen
    have work' : AtWork e (p.handleInterrupt s).2.1 := (interrupts_handleInterrupt p s).atWork work
    have isOpen' := (p.isOpen_handleInterrupt s).trans isOpen
    have unmasked : hasBit (p.handleInterrupt s).2.1.uart.picMask serialMaskBit = false := by
      rw [(sameWay_handleInterrupt work.toReady s).picMask]
      exact driven.unmasked isOpen
    by_cases writing : p.status = .writing
    · rcases (driven.primed writing).handleInterrupt work.toReady isOpen s with
        ⟨primed, -⟩ | finished
      · exact ⟨work'.toPlaced, fun closed => absurd isOpen' (by simp [closed]), fun _ => ⟨e, work'⟩,
          fun _ => unmasked, fun _ => primed⟩
      · refine .quiet isOpen' work' unmasked ?_
        rw [show _ = DeviceStatus.idle from finished.idle]
        nofun
    · refine .quiet isOpen' work' unmasked ?_
      rcases handleInterrupt_serves work.settled work.flagged s with on | ⟨direction, id, ends⟩
      · rw [on.status]
        exact writing
      · rw [show _ = DeviceStatus.idle from ends.idle]
        nofun
  · unfold SerialPort.handleInterrupt
    rw [if_neg isOpen]
    simp only [onUart, Uart.acknowledge_eq]
    exact driven.uart rfl rfl rfl rfl rfl

theorem interrupts (h : Interrupts p s p' s') (driven : p.Driven) : p'.Driven := by
  induction h with
  | nothing => exact driven
  | next _ ih => exact ih (driven.handleInterrupt _)

theorem transfer {direction : Direction} (driven : p.Driven)
    (done : p.transfer s direction id = .ok (p', s')) : p'.Driven := by
  have open' : p.isOpen = true := transfer_isOpen done
  obtain ⟨e, work⟩ := driven.atWork open'
  obtain ⟨-, isOpen, event, stage⟩ := transfer_ok work.flagged done
  have ready := (transfer_carries work.toReady done).1
  have work' : AtWork e p' := by
    refine ⟨ready, ?_, fun _ => event.trans (work.flagged open')⟩
    rcases stage with ⟨works, -⟩ | ⟨idle, -⟩
    · exact Or.inr ⟨direction, id, works⟩
    · exact Or.inl idle
  cases direction with
  | read =>
    obtain ⟨count, drained, -, -, outcome⟩ := read_ok done
    rcases outcome with ⟨-, rfl, -⟩ | ⟨-, rfl, -⟩
    · exact .quiet (isOpen.trans open') work' (driven.unmasked open') nofun
    · exact .quiet (isOpen.trans open') work' (driven.unmasked open') nofun
  | write =>
    have primed := primed_write work.toReady (driven.unmasked open') done
    exact ⟨work'.toPlaced, fun closed => absurd (isOpen.trans open') (by simp [closed]),
      fun _ => ⟨e, work'⟩, fun _ => primed.unmasked, fun _ => primed⟩

theorem drive {x : SerialPort × Shared} (driven : x.1.Driven) (c : DriverCall) :
    (drive x c).1.Driven := by
  cases c with
  | openWith event rate =>
    rw [SerialPort.drive]
    split
    · exact driven
    · rename_i opened
      exact driven.openWith opened
  | transfer direction id =>
    rw [SerialPort.drive]
    split
    · exact driven
    · rename_i done
      exact driven.transfer done
  | interrupt => exact driven.handleInterrupt x.2
  | service => exact interrupts (interrupts_serviceUpTo x.1 x.2 maxInterruptsPerPoll) driven
  | inject bytes => exact driven.uart rfl rfl rfl rfl rfl
  | prepare id b => exact driven
  | heed on => exact driven.uart rfl rfl rfl rfl rfl

end Driven

/-! ### What interrupts do -/

/-- A write from this buffer is over, and its flag was raised once. -/
structure Completes (e : FlagId) (id : BufferId) (p p' : SerialPort) (s s' : Shared) : Prop where
  event : p.event = some e
  buffer : p.output.buffer = some id
  idle : p'.Idle
  disabled : p'.uart.enabled transmitterEmptyBit = false
  count : (s'.buffer id).count = p.output.requested
  flag : s'.flag e = (s.flag e).raise

theorem Driven.completes (driven : p.Driven) (writing : p.status = .writing)
    (heeded : p.uart.cpuInterrupts = true) (few : p.load ≤ maxInterruptsPerPoll) (s : Shared) :
    ∃ e id, Completes e id p (p.serviceInterrupts s).2.1 s (p.serviceInterrupts s).2.2 := by
  have isOpen : p.isOpen = true := by
    refine driven.isOpen fun idle => ?_
    rw [show p.status = .idle from idle] at writing
    cases writing
  obtain ⟨e, work⟩ := driven.atWork isOpen
  have finished := (driven.primed writing).serviceInterrupts work.toReady isOpen heeded few s
  rcases serviceInterrupts_serves work.settled work.flagged s with on | ⟨direction, id, ends⟩
  · have status := on.status
    rw [writing, show _ = DeviceStatus.idle from finished.idle] at status
    cases status
  · obtain rfl : direction = .write :=
      Direction.status_injective (ends.works.status.symm.trans writing)
    exact ⟨e, id, work.flagged isOpen, ends.works.buffer, finished.idle, finished.disabled,
      ends.count.trans finished.sent, ends.flag⟩

end SerialPort

end TrapKernel
