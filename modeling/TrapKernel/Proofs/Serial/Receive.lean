import TrapKernel.Proofs.Serial.Registers
import TrapKernel.Proofs.Serial.Ring

/-!
# The way of a byte

A byte reaches a read on one of two ways: from the ring, when the read starts, or from the line, when
its interrupt is taken while the read is there. `drain_spec` and `receive` say what becomes of it on
either way. All else that the driver does leaves the read and the ring `Undisturbed`.
-/

namespace TrapKernel

/-- Storing a byte behind the first ones. -/
theorem Buffer.store_behind {b : Buffer} {first rest : List UInt8} {old : UInt8} (byte : UInt8)
    (data : b.data = first ++ old :: rest) :
    (b.store first.length byte).data = first ++ byte :: rest := by
  simp [store, data]

namespace SerialPort

variable {p p' p'' : SerialPort} {s s' s'' : Shared} {id : BufferId}

theorem buffer_raise (p : SerialPort) (s : Shared) (id : BufferId) :
    (p.raise s).buffer id = s.buffer id := by
  unfold raise Shared.modifyFlag?
  cases p.event with
  | none => rfl
  | some e => rfl

/-- The buffer of a read that ends tells how many bytes were stored. -/
theorem buffer_completeRead (buffer : p.input.buffer = some id) :
    (p.completeRead s).2.buffer id = (s.buffer id).setCount p.input.done := by
  rw [completeRead, publish_eq buffer]
  simp only [buffer_raise, Shared.buffer_modifyBuffer, if_true]

/-! ### From the ring -/

/-- How the bytes that a read takes from a ring are split: into those that it stores and the end of
the line, if it met one. -/
structure Drains (ring : Ring ringCapacity) (requested done : Nat) (drained : Drained)
    (stored : List UInt8) (ending : Option UInt8) : Prop where
  taken : ring.toList = stored ++ ending.toList ++ drained.ring.toList
  aligned : ring.Aligned → drained.ring.Aligned
  dropped : drained.ring.dropped = ring.dropped
  plain : ∀ byte ∈ stored, isTerminator byte = false
  ends : ∀ byte ∈ ending, isTerminator byte = true
  count : drained.done = done + stored.length
  terminated : drained.terminated = ending.isSome
  fits : done ≤ requested → drained.done ≤ requested
  /-- The end of a line is only looked for while bytes are missing. -/
  early : ending.isSome = true → drained.done < requested
  /-- A read that still misses bytes has taken all that waited. -/
  dry : ending = none → drained.done < requested → drained.ring.toList = []

/-- What left the ring is what was stored, and the end of the line. -/
theorem Drains.left {ring : Ring ringCapacity} {requested done : Nat} {drained : Drained}
    {stored : List UInt8} {ending : Option UInt8}
    (h : Drains ring requested done drained stored ending) :
    ring.toList.take (ring.length - drained.ring.length) = stored ++ ending.toList := by
  have lengths := congrArg List.length h.taken
  rw [List.length_append, Ring.length_toList, Ring.length_toList] at lengths
  rw [h.taken, lengths, Nat.add_sub_cancel, List.take_left' rfl]

theorem drain_spec {ring : Ring ringCapacity} {buffer : Buffer} {requested done : Nat}
    {first rest : List UInt8} (data : buffer.data = first ++ rest) (filled : first.length = done)
    (room : requested ≤ buffer.capacity) :
    ∃ stored ending, Drains ring requested done (drain ring buffer requested done) stored ending ∧
      (drain ring buffer requested done).buffer.data =
        first ++ stored ++ rest.drop stored.length := by
  fun_induction drain ring buffer requested done generalizing first rest with
  | case1 ring buffer done missing ring' took =>
    rcases ring.take_cases with ⟨nothing, eq⟩ | ⟨byte, after, eq, -⟩
    · rw [eq] at took
      cases took
      refine ⟨[], none, ⟨by simp, id, rfl, nofun, nofun, rfl, rfl, id, nofun, ?_⟩, by simp [data]⟩
      exact fun _ _ => nothing
    · rw [eq] at took
      cases took
  | case2 ring buffer done missing byte ring' took terminator =>
    rcases ring.take_cases with ⟨-, eq⟩ | ⟨byte', after, eq, list, aligned, dropped⟩
    · rw [eq] at took
      cases took
    · rw [eq] at took
      cases took
      refine ⟨[], some byte, ⟨list, aligned, dropped, nofun, ?_, rfl, rfl, id, fun _ => missing,
        nofun⟩, by simp [data]⟩
      rintro _ ⟨⟩
      exact terminator
  | case3 ring buffer done missing byte ring' took plain ih =>
    rcases ring.take_cases with ⟨-, eq⟩ | ⟨byte', after, eq, list, aligned, dropped⟩
    · rw [eq] at took
      cases took
    · rw [eq] at took
      cases took
      cases rest with
      | nil =>
        -- there is room for the byte
        rw [Buffer.capacity, data, List.append_nil, filled] at room
        exact absurd missing (Nat.not_lt_of_le room)
      | cons old rest =>
        have stored : (buffer.store done byte).data = (first ++ [byte]) ++ rest := by
          rw [← filled, Buffer.store_behind byte data, List.append_assoc]
          rfl
        have filled' : (first ++ [byte]).length = done + 1 := by simp [filled]
        rw [← Buffer.capacity_store buffer done byte] at room
        obtain ⟨bytes, ending, drains, data'⟩ := ih stored filled' room
        refine ⟨byte :: bytes, ending, ⟨?_, ?_, ?_, ?_, drains.ends, ?_, drains.terminated, ?_,
          drains.early, drains.dry⟩, ?_⟩
        · rw [list, drains.taken]
          rfl
        · exact fun h => drains.aligned (aligned h)
        · rw [drains.dropped, dropped]
        · intro other member
          rcases List.mem_cons.mp member with rfl | member
          · simpa using plain
          · exact drains.plain other member
        · rw [drains.count, List.length_cons]
          omega
        · exact fun _ => drains.fits missing
        · rw [data']
          simp
  | case4 ring buffer done enough =>
    refine ⟨[], none, ⟨by simp, id, rfl, nofun, nofun, rfl, rfl, id, nofun, ?_⟩, by simp [data]⟩
    exact fun _ missing => absurd missing enough

/-- What a read takes when it starts. -/
theorem drain_start (ring : Ring ringCapacity) {buffer : Buffer} {requested : Nat}
    (room : requested ≤ buffer.capacity) :
    ∃ stored ending, Drains ring requested 0 (drain ring buffer requested 0) stored ending ∧
      (drain ring buffer requested 0).buffer.data =
        stored ++ buffer.data.drop stored.length := by
  have data : buffer.data = [] ++ buffer.data := (List.nil_append _).symm
  have none : ([] : List UInt8).length = 0 := rfl
  exact drain_spec data none room

/-! ### From the line -/

/-- What becomes of a byte that was read from the device. -/
def receive (p : SerialPort) (s : Shared) (byte : UInt8) : SerialPort × Shared :=
  if p.status ≠ .reading then ({ p with ring := (p.ring.store byte).2 }, s)
  else if isTerminator byte then p.completeRead s
  else
    let s :=
      match p.input.buffer with
      | none => s
      | some id => s.modifyBuffer id (·.store p.input.done byte)
    let p := { p with input := { p.input with done := p.input.done + 1 } }
    if p.input.isSatisfied then p.completeRead s else (p, s)

/-- If nobody reads, it waits in the ring. -/
theorem receive_quiet (quiet : p.status ≠ .reading) (s : Shared) (byte : UInt8) :
    p.receive s byte = ({ p with ring := (p.ring.store byte).2 }, s) := by
  rw [receive, if_pos quiet]

/-- The end of a line ends a read. -/
theorem receive_terminator (reading : p.status = .reading) (s : Shared) {byte : UInt8}
    (terminator : isTerminator byte = true) : p.receive s byte = p.completeRead s := by
  rw [receive, if_neg (Decidable.not_not.mpr reading), if_pos terminator]

/-- Any other byte is stored, and ends the read if it was the last one that was missing. -/
theorem receive_plain (reading : p.status = .reading) (buffer : p.input.buffer = some id)
    (s : Shared) {byte : UInt8} (plain : isTerminator byte = false) :
    p.receive s byte =
      let q := { p with input := { p.input with done := p.input.done + 1 } }
      let t := s.modifyBuffer id (·.store p.input.done byte)
      if p.input.requested ≤ p.input.done + 1 then q.completeRead t else (q, t) := by
  rw [receive, if_neg (Decidable.not_not.mpr reading), plain]
  simp only [buffer, Bool.false_eq_true, if_false, Progress.isSatisfied, decide_eq_true_eq]

/-- What becomes of it does not depend on the device. -/
theorem receive_uart (p : SerialPort) (uart : Uart) (s : Shared) (byte : UInt8) :
    { p with uart }.receive s byte =
      ({ (p.receive s byte).1 with uart }, (p.receive s byte).2) := by
  unfold receive
  split
  · rfl
  · split
    · rfl
    · simp only []
      split <;> rfl

/-- The ring is as it was, and so is a read that is there. -/
structure Undisturbed (p p' : SerialPort) (s s' : Shared) : Prop where
  base : p'.base = p.base
  ring : p'.ring = p.ring
  reading : p.status = .reading → p'.status = .reading ∧ p'.input = p.input ∧ s' = s
  notReading : p.status ≠ .reading → p'.status ≠ .reading

namespace Undisturbed

/-- Nothing happened but to the device. -/
theorem frame (p : SerialPort) (uart : Uart) (s : Shared) : p.Undisturbed { p with uart } s s :=
  ⟨rfl, rfl, fun reading => ⟨reading, rfl, rfl⟩, id⟩

/-- Nobody reads, before and after. -/
theorem of_notReading (base : p'.base = p.base) (ring : p'.ring = p.ring)
    (before : p.status ≠ .reading) (after : p'.status ≠ .reading) : p.Undisturbed p' s s' :=
  ⟨base, ring, fun reading => absurd reading before, fun _ => after⟩

theorem trans (h : p.Undisturbed p' s s') (h' : p'.Undisturbed p'' s' s'') :
    p.Undisturbed p'' s s'' where
  base := h'.base.trans h.base
  ring := h'.ring.trans h.ring
  reading := by
    intro reading
    obtain ⟨status, input, same⟩ := h.reading reading
    obtain ⟨status', input', same'⟩ := h'.reading status
    exact ⟨status', input'.trans input, same'.trans same⟩
  notReading := fun other => h'.notReading (h.notReading other)

end Undisturbed

/-- Reading and writing which causes may interrupt moves no byte. -/
theorem reenable_passes (ready : p.Ready) (f : UInt8 → UInt8) :
    p.uart.Passes ((p.fetch .enable).2.put .enable (f (p.fetch .enable).1)).uart [] [] := by
  have fetched := ready.fetch_enable
  have ready' : (p.fetch .enable).2.Ready := ready.passes rfl fetched
  exact fetched.after (ready'.put_enable _)

/-- The first byte of a write is sent. -/
theorem sent_passes (ready : p.Ready) (id : BufferId) (count : Nat) (byte : UInt8) :
    p.uart.Passes (p.sent id count byte).uart (if p.uart.loopback then [byte] else []) [] := by
  let q : SerialPort := { p.onUart (·.disableInterrupts) with
    status := .writing, output := ⟨some id, count, 1⟩ }
  have masked : p.uart.Passes q.uart [] [] := .quiet rfl rfl rfl rfl rfl
  have ready' : q.Ready := ready.passes rfl masked
  have data := ready'.put_data byte
  have ready'' : (q.put .data byte).Ready := ready'.passes rfl data
  have enabled := reenable_passes ready'' (· ||| transmitterEmptyBit)
  have unmasked : ∀ u : Uart, u.Passes u.enableInterrupts [] [] :=
    fun u => .quiet rfl rfl rfl rfl rfl
  exact (masked.after data).before (enabled.before (unmasked _))

theorem sent_undisturbed (idle : p.Idle) (s s' : Shared) (id : BufferId) (count : Nat)
    (byte : UInt8) : p.Undisturbed (p.sent id count byte) s s' := by
  have notReading : p.status ≠ .reading := by
    rw [show p.status = .idle from idle]
    nofun
  exact .of_notReading rfl rfl notReading nofun

theorem outputInterrupt_undisturbed (ready : p.Ready) (s : Shared) :
    p.Undisturbed (p.outputInterrupt s).1 s (p.outputInterrupt s).2 ∧
      ∃ entered, p.uart.Passes (p.outputInterrupt s).1.uart entered [] := by
  unfold outputInterrupt
  split
  · exact ⟨.frame p p.uart s, [], .refl p.uart⟩
  rename_i writing
  have notReading : p.status ≠ .reading := by
    rw [Decidable.not_not.mp writing]
    nofun
  split
  · exact ⟨.of_notReading rfl rfl notReading notReading, _, ready.put_data _⟩
  · have completed : p.uart.Passes (p.completeWrite s).1.uart [] [] := .quiet rfl rfl rfl rfl rfl
    have ready' : (p.completeWrite s).1.Ready := ready.passes rfl completed
    have enabled := reenable_passes ready' (· &&& ~~~transmitterEmptyBit)
    exact ⟨.of_notReading rfl rfl notReading nofun, [], enabled⟩

/-- A byte is read from the device, and goes its way. -/
theorem inputInterrupt_eq (p : SerialPort) (s : Shared) :
    p.inputInterrupt s = ({ (p.receive s (p.fetch .data).1).1 with uart := (p.touch .data).uart },
      (p.receive s (p.fetch .data).1).2) := by
  rw [← receive_uart]
  rfl

/-- Serving a cause leaves the read and the ring undisturbed, or takes a byte from the device. -/
theorem serve_cases (ready : p.Ready) (s : Shared) {cause : Option InterruptCause}
    (waits : cause = some .receivedData → ∃ byte rest, p.uart.received = byte :: rest) :
    (p.Undisturbed (p.serve s cause).1 s (p.serve s cause).2 ∧
        ∃ entered, p.uart.Passes (p.serve s cause).1.uart entered []) ∨
      ∃ byte uart, p.uart.Passes uart [] [byte] ∧
        p.serve s cause = ({ (p.receive s byte).1 with uart }, (p.receive s byte).2) := by
  cases cause with
  | none => exact Or.inl ⟨.frame p p.uart s, [], .refl p.uart⟩
  | some cause =>
    cases cause with
    | modemStatus => exact Or.inl ⟨.frame p _ s, [], ready.touch_modemStatus⟩
    | lineStatus => exact Or.inl ⟨.frame p _ s, [], ready.touch_lineStatus⟩
    | transmitterEmpty => exact Or.inl (outputInterrupt_undisturbed ready s)
    | receivedData =>
      obtain ⟨byte, rest, received⟩ := waits rfl
      obtain ⟨read, passes⟩ := ready.fetch_data received
      refine Or.inr ⟨byte, (p.touch .data).uart, passes, ?_⟩
      rw [← read]
      exact inputInterrupt_eq p s

theorem acknowledge_passes (p : SerialPort) :
    p.uart.Passes (p.onUart (·.outb picCommandPort endOfInterrupt)).uart [] [] :=
  p.uart.passes_acknowledge

/-- An interrupt leaves the read and the ring undisturbed, or takes a byte from the device. -/
theorem handleInterrupt_cases (ready : p.Ready) (s : Shared) :
    (p.Undisturbed (p.handleInterrupt s).2.1 s (p.handleInterrupt s).2.2 ∧
        ∃ entered, p.uart.Passes (p.handleInterrupt s).2.1.uart entered []) ∨
      ∃ byte uart, p.uart.Passes uart [] [byte] ∧
        (p.handleInterrupt s).2 =
          ({ (p.receive s byte).1 with uart }, (p.receive s byte).2) := by
  by_cases isOpen : p.isOpen = true
  · obtain ⟨identified, cause⟩ := ready.fetch_identify
    have fetched : p.Undisturbed (p.fetch .identify).2 s s := .frame p _ s
    have ready' : (p.fetch .identify).2.Ready := ready.passes rfl identified
    have waits : p.uart.pendingCause = some .receivedData →
        ∃ byte rest, (p.fetch .identify).2.uart.received = byte :: rest := by
      intro pending
      rw [identified.received]
      exact Uart.received_of_pending pending
    rw [handleInterrupt_eq isOpen, cause]
    rcases serve_cases ready' s waits with ⟨undisturbed, entered, passes⟩ |
      ⟨byte, uart, passes, served⟩
    · left
      refine ⟨(fetched.trans undisturbed).trans (.frame _ _ _), entered, ?_⟩
      exact identified.after (passes.before (acknowledge_passes _))
    · right
      simp only [served]
      refine ⟨byte, _, identified.after (passes.before uart.passes_acknowledge), ?_⟩
      have same := receive_uart p (p.fetch .identify).2.uart s byte
      rw [show { p with uart := (p.fetch .identify).2.uart } = (p.fetch .identify).2 from rfl]
        at same
      rw [same]
      rfl
  · unfold handleInterrupt
    rw [if_neg isOpen]
    exact Or.inl ⟨.frame p _ s, [], acknowledge_passes p⟩

end SerialPort

end TrapKernel
