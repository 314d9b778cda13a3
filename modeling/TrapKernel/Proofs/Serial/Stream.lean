import TrapKernel.Proofs.Serial.Receive
import TrapKernel.Proofs.Steps

/-!
# The stream of received bytes

A `Session` follows an open port and writes down what it sees: the bytes that came into the receive
queue, those that the driver took from it, and for each read the bytes that it took. The driver
neither loses a byte, nor doubles one, nor changes their order: the bytes that it took, but for those
that found the ring full while nobody read, are what the reads took, one after the other, and what
waits in the ring.
-/

namespace TrapKernel

open SerialPort

/-- A byte that the driver took from the receive queue. -/
structure TakenByte where
  byte : UInt8
  /-- Nobody read, and the ring was full. -/
  lost : Bool

/-- A read that was accepted. -/
structure AcceptedRead where
  buffer : BufferId
  /-- The buffer when the read was accepted; its count is what was asked for. -/
  before : Buffer
  /-- The bytes that it took, from the ring and from the line. -/
  consumed : List UInt8
  /-- The buffer when the read ended, or as it is now. -/
  after : Buffer
  ended : Bool

/-- An open port, the buffers, and what was seen of them. -/
structure Session where
  port : SerialPort
  shared : Shared
  /-- The bytes that came into the receive queue. -/
  arrived : List UInt8
  /-- The bytes that the driver took from it. -/
  taken : List TakenByte
  /-- The reads that were accepted. -/
  reads : List AcceptedRead

/-- A call of an open port, or something that happens around it. -/
inductive SessionCall where
  /-- Bytes arrive on the line. -/
  | inject (bytes : List UInt8)
  | read (id : BufferId)
  | write (id : BufferId)
  /-- An interrupt is taken, whether the line is asserted or not. -/
  | interrupt
  /-- Interrupts are taken for as long as the line is asserted. -/
  | service
  /-- A buffer is filled by the process that owns it. -/
  | prepare (id : BufferId) (b : Buffer)

namespace AcceptedRead

/-- How a read split what it took: it stored bytes that end no line, in order and from the start of
its buffer, until it had as many as were asked for or met the end of a line. -/
structure Splits (r : AcceptedRead) (stored : List UInt8) (ending : Option UInt8) : Prop where
  consumed : r.consumed = stored ++ ending.toList
  plain : ∀ byte ∈ stored, isTerminator byte = false
  ends : ∀ byte ∈ ending, isTerminator byte = true
  requested : stored.length ≤ r.before.count
  room : r.before.count ≤ r.before.capacity
  data : r.after.data = stored ++ r.before.data.drop stored.length
  ended : r.ended = true ↔ stored.length = r.before.count ∨ ending.isSome = true
  /-- The end of a line is only looked for while bytes are missing. -/
  early : ending.isSome = true → stored.length < r.before.count
  count : r.ended = true → r.after.count = stored.length

section

variable {r : AcceptedRead} {byte : UInt8}

/-- A read that misses bytes has stored all that it took. -/
theorem Splits.missing {stored : List UInt8} {ending : Option UInt8} (h : r.Splits stored ending)
    (missing : r.ended = false) :
    r.Splits r.consumed none ∧ r.consumed.length < r.before.count := by
  obtain ⟨notAll, noEnd⟩ := not_or.mp fun stops => absurd (h.ended.mpr stops) (by simp [missing])
  obtain rfl : ending = none := by simpa using noEnd
  obtain rfl : stored = r.consumed := by simpa using h.consumed.symm
  exact ⟨h, Nat.lt_of_le_of_ne h.requested notAll⟩

/-- The end of the line ends the read. -/
theorem Splits.meet (h : r.Splits r.consumed none) (less : r.consumed.length < r.before.count)
    (terminator : isTerminator byte = true) :
    Splits { r with
      consumed := r.consumed ++ [byte], after := r.after.setCount r.consumed.length,
      ended := true } r.consumed (some byte) := by
  refine ⟨rfl, h.plain, ?_, h.requested, h.room, h.data, iff_of_true rfl (Or.inr rfl),
    fun _ => less, fun _ => rfl⟩
  rintro _ ⟨⟩
  exact terminator

/-- Any other byte is stored behind the others. -/
theorem Splits.store (h : r.Splits r.consumed none) (less : r.consumed.length < r.before.count)
    (plain : isTerminator byte = false) :
    (r.before.count ≤ r.consumed.length + 1 → Splits { r with
        consumed := r.consumed ++ [byte]
        after := (r.after.store r.consumed.length byte).setCount (r.consumed.length + 1)
        ended := true } (r.consumed ++ [byte]) none) ∧
      (¬ r.before.count ≤ r.consumed.length + 1 → Splits { r with
        consumed := r.consumed ++ [byte], after := r.after.store r.consumed.length byte,
        ended := false } (r.consumed ++ [byte]) none) := by
  have length : (r.consumed ++ [byte]).length = r.consumed.length + 1 := by simp
  have requested : (r.consumed ++ [byte]).length ≤ r.before.count := by omega
  have room : r.consumed.length < r.before.data.length := Nat.lt_of_lt_of_le less h.room
  have data : (r.after.store r.consumed.length byte).data =
      (r.consumed ++ [byte]) ++ r.before.data.drop (r.consumed ++ [byte]).length := by
    have before := h.data
    rw [List.drop_eq_getElem_cons room] at before
    rw [Buffer.store_behind byte before]
    simp
  have plain : ∀ other ∈ r.consumed ++ [byte], isTerminator other = false := by
    intro other member
    rcases List.mem_append.mp member with member | new
    · exact h.plain other member
    · rw [List.mem_singleton.mp new]
      exact plain
  refine ⟨fun last => ?_, fun more => ?_⟩
  · exact ⟨(List.append_nil _).symm, plain, nofun, requested, h.room, data,
      iff_of_true rfl (Or.inl (Nat.le_antisymm requested (length ▸ last))), nofun,
      fun _ => length.symm⟩
  · refine ⟨(List.append_nil _).symm, plain, nofun, requested, h.room, data,
      iff_of_false nofun ?_, nofun, nofun⟩
    rintro (all | none)
    · rw [length] at all
      exact more (Nat.le_of_eq all.symm)
    · cases none

end

/-- The record after more bytes were taken for the read. -/
def follow (r : AcceptedRead) (bytes : List UInt8) (port : SerialPort) (shared : Shared) :
    AcceptedRead :=
  { r with
    consumed := r.consumed ++ bytes
    after := shared.buffer r.buffer
    ended := port.status ≠ .reading }

end AcceptedRead

namespace Session

variable {x : Session}

/-- A port that was just opened. -/
def initial (port : SerialPort) (shared : Shared) : Session := ⟨port, shared, [], [], []⟩

/-- A byte that is taken now is lost. -/
def losing (x : Session) : Bool := x.port.status ≠ .reading ∧ x.port.ring.length = ringCapacity

/-- The bytes that came into the receive queue until the port became `port`: what was sent in the
meantime, if the line is looped. -/
def entered (x : Session) (port : SerialPort) : List UInt8 :=
  if x.port.uart.loopback then
    port.uart.transmitted.toList.drop x.port.uart.transmitted.toList.length
  else []

/-- The bytes that left the receive queue until the port became `port`. -/
def left (x : Session) (port : SerialPort) : List UInt8 :=
  let all := x.port.uart.received ++ x.entered port
  all.take (all.length - port.uart.received.length)

/-- The session after the driver did something. -/
def observe (x : Session) (port : SerialPort) (shared : Shared) : Session :=
  { x with
    port, shared
    arrived := x.arrived ++ x.entered port
    taken := x.taken ++ (x.left port).map fun byte => ⟨byte, x.losing⟩ }

/-- The session after a read was accepted. What left the ring went to the read. -/
def accept (x : Session) (id : BufferId) (port : SerialPort) (shared : Shared) : Session :=
  { x.observe port shared with
    reads := x.reads ++ [{
      buffer := id
      before := x.shared.buffer id
      consumed := x.port.ring.toList.take (x.port.ring.length - port.ring.length)
      after := shared.buffer id
      ended := port.status ≠ .reading }] }

/-- The session after an interrupt. If there is a read, it is the last one that was accepted, and
what left the receive queue went to it. -/
def interrupt (x : Session) : Session :=
  let (_, port, shared) := x.port.handleInterrupt x.shared
  { x.observe port shared with
    reads :=
      if x.port.status = .reading then
        x.reads.dropLast ++ (x.reads.getLast?.map (·.follow (x.left port) port shared)).toList
      else x.reads }

/-- The session after interrupts that are taken for as long as the line is asserted, at most
`most` of them. -/
def interrupts (x : Session) : (most : Nat) → Session
  | 0 => x
  | most + 1 => if x.port.uart.irqLine then x.interrupt.interrupts most else x

/-- The session after a call. A process does not touch the buffer of a read that is there. -/
def call (x : Session) : SessionCall → Session
  | .inject bytes =>
    { x with port := x.port.onUart (·.inject bytes), arrived := x.arrived ++ bytes }
  | .read id =>
    match x.port.read x.shared id with
    | .error _ => x
    | .ok (port, shared) => x.accept id port shared
  | .write id =>
    match x.port.write x.shared id with
    | .error _ => x
    | .ok (port, shared) => x.observe port shared
  | .interrupt => x.interrupt
  | .service =>
    let (_, port, shared) := x.port.serviceInterrupts x.shared
    { x.interrupts maxInterruptsPerPoll with port, shared }
  | .prepare id b =>
    if x.port.status = .reading ∧ x.port.input.buffer = some id then x
    else { x with shared := x.shared.setBuffer id b }

/-- What is seen is what passed. -/
theorem observe_eq {port : SerialPort} {entered left : List UInt8}
    (passes : x.port.uart.Passes port.uart entered left) (shared : Shared) :
    x.left port = left ∧ x.observe port shared = { x with
      port, shared
      arrived := x.arrived ++ entered
      taken := x.taken ++ left.map fun byte => ⟨byte, x.losing⟩ } := by
  have came : x.entered port = entered := by
    obtain ⟨sent, transmitted, eq⟩ := passes.sent
    rw [Session.entered, transmitted, eq, List.drop_left' rfl]
  have went : x.left port = left := by
    have lengths := congrArg List.length passes.queue
    rw [List.length_append, List.length_append] at lengths
    simp only [Session.left, came, passes.queue]
    rw [List.length_append, Nat.add_sub_cancel, List.take_left' rfl]
  refine ⟨went, ?_⟩
  rw [observe, came, went]

theorem interrupt_eq {port : SerialPort} {shared : Shared}
    (handled : (x.port.handleInterrupt x.shared).2 = (port, shared)) :
    x.interrupt = { x.observe port shared with
      reads :=
        if x.port.status = .reading then
          x.reads.dropLast ++ (x.reads.getLast?.map (·.follow (x.left port) port shared)).toList
        else x.reads } := by
  cases all : x.port.handleInterrupt x.shared with
  | mk cause rest =>
    rw [all] at handled
    cases handled
    rw [interrupt, all]

/-- Who reads: nobody, or the last read that was accepted. While it misses bytes, none waits. -/
inductive Phase (x : Session) : Prop where
  | quiet (status : x.port.status ≠ .reading) (ended : ∀ r ∈ x.reads, r.ended = true)
  | reading (earlier : List AcceptedRead) (r : AcceptedRead) (status : x.port.status = .reading)
      (reads : x.reads = earlier ++ [r]) (ended : ∀ r ∈ earlier, r.ended = true)
      (missing : r.ended = false)
      (input : x.port.input = ⟨some r.buffer, r.before.count, r.consumed.length⟩)
      (after : r.after = x.shared.buffer r.buffer) (dry : x.port.ring.toList = [])

/-- No byte was lost, doubled or moved, but for those that found the ring full. -/
structure Kept (x : Session) : Prop where
  ready : x.port.Ready
  aligned : x.port.ring.Aligned
  arrived : x.arrived = x.taken.map (·.byte) ++ x.port.uart.received
  lost : x.taken.countP (·.lost) = x.port.ring.dropped
  kept : (x.taken.filter (!·.lost)).map (·.byte) =
    x.reads.flatMap (·.consumed) ++ x.port.ring.toList
  splits : ∀ r ∈ x.reads, ∃ stored ending, r.Splits stored ending
  phase : x.Phase

namespace Kept

theorem idle_ended (hx : x.Kept) (idle : x.port.status ≠ .reading) :
    ∀ r ∈ x.reads, r.ended = true := by
  cases hx.phase with
  | quiet status ended => exact ended
  | reading earlier r status => exact absurd status idle

theorem inject (hx : x.Kept) (bytes : List UInt8) : (x.call (.inject bytes)).Kept := by
  refine ⟨⟨hx.ready.toPlaced.moved rfl rfl, hx.ready.closed⟩, hx.aligned, ?_, hx.lost, hx.kept,
    hx.splits, ?_⟩
  · simp only [Session.call, onUart, Uart.inject, hx.arrived, List.append_assoc]
  · cases hx.phase with
    | quiet status ended => exact .quiet status ended
    | reading earlier r status reads ended missing input after dry =>
      exact .reading earlier r status reads ended missing input after dry

/-- What the driver does besides a read changes nothing for the reads. -/
theorem undisturbed {port : SerialPort} {shared : Shared} {entered : List UInt8} (hx : x.Kept)
    (same : x.port.Undisturbed port x.shared shared)
    (passes : x.port.uart.Passes port.uart entered []) : (x.observe port shared).Kept := by
  obtain ⟨-, eq⟩ := observe_eq passes shared
  rw [eq, List.map_nil, List.append_nil]
  refine ⟨hx.ready.passes same.base passes, ?_, ?_, ?_, ?_, hx.splits, ?_⟩
  · simp only [same.ring]
    exact hx.aligned
  · simp only [hx.arrived, List.append_assoc, passes.queue, List.nil_append]
  · simp only [same.ring]
    exact hx.lost
  · simp only [same.ring]
    exact hx.kept
  · cases hx.phase with
    | quiet status ended => exact .quiet (same.notReading status) ended
    | reading earlier r status reads ended missing input after dry =>
      obtain ⟨status', input', shared'⟩ := same.reading status
      refine .reading earlier r status' reads ended missing (input'.trans input) ?_ ?_
      · rw [after, shared']
      · simp only [same.ring]
        exact dry

theorem write (hx : x.Kept) (id : BufferId) : (x.call (.write id)).Kept := by
  rw [Session.call]
  cases done : x.port.write x.shared id with
  | error e => exact hx
  | ok result =>
    obtain ⟨port, shared⟩ := result
    obtain ⟨count, checked, rfl, rfl⟩ := write_ok done
    obtain ⟨-, idle, -⟩ := checkTransfer_ok checked
    exact hx.undisturbed (sent_undisturbed idle _ _ _ _ _) (sent_passes hx.ready _ _ _)

theorem prepare (hx : x.Kept) (id : BufferId) (b : Buffer) : (x.call (.prepare id b)).Kept := by
  rw [Session.call]
  split
  · exact hx
  rename_i free
  refine ⟨hx.ready, hx.aligned, hx.arrived, hx.lost, hx.kept, hx.splits, ?_⟩
  cases hx.phase with
  | quiet status ended => exact .quiet status ended
  | reading earlier r status reads ended missing input after dry =>
    refine .reading earlier r status reads ended missing input ?_ dry
    have other : id ≠ r.buffer := by
      rintro rfl
      exact free ⟨status, by rw [input]⟩
    rw [after, Shared.buffer_setBuffer, if_neg other]

/-- A read that was accepted took the first of the bytes that waited. -/
theorem accepted {port : SerialPort} {shared : Shared} {id : BufferId} {requested : Nat}
    {drained : Drained} {stored : List UInt8} {ending : Option UInt8} (hx : x.Kept)
    (base : port.base = x.port.base) (passes : x.port.uart.Passes port.uart [] [])
    (ring : port.ring = drained.ring)
    (drains : Drains x.port.ring requested 0 drained stored ending)
    (splits : AcceptedRead.Splits ⟨id, x.shared.buffer id, stored ++ ending.toList,
      shared.buffer id, decide (port.status ≠ .reading)⟩ stored ending)
    (phase : (x.accept id port shared).Phase) : (x.accept id port shared).Kept := by
  have took := drains.left
  obtain ⟨-, eq⟩ := observe_eq passes shared
  rw [List.append_nil, List.map_nil, List.append_nil] at eq
  rw [accept, eq, ring, took] at phase ⊢
  refine ⟨hx.ready.passes base passes, ?_, ?_, ?_, ?_, ?_, phase⟩
  · simp only [ring]
    exact drains.aligned hx.aligned
  · simp only [passes.received]
    exact hx.arrived
  · simp only [ring, drains.dropped]
    exact hx.lost
  · simp only [ring, hx.kept, drains.taken, List.flatMap_append, List.flatMap_singleton,
      List.append_assoc]
  · intro r member
    rcases List.mem_append.mp member with member | new
    · exact hx.splits r member
    · rw [List.mem_singleton.mp new]
      exact ⟨stored, ending, splits⟩

theorem read (hx : x.Kept) (id : BufferId) : (x.call (.read id)).Kept := by
  rw [Session.call]
  cases done : x.port.read x.shared id with
  | error e => exact hx
  | ok result =>
    obtain ⟨port, shared⟩ := result
    obtain ⟨count, drained, checked, drains, outcome⟩ := read_ok done
    obtain ⟨-, idle, asked, -, room⟩ := checkTransfer_ok checked
    have notReading : x.port.status ≠ .reading := by
      rw [show x.port.status = .idle from idle]
      nofun
    have ended := hx.idle_ended notReading
    obtain ⟨stored, ending, splits, data⟩ := drain_start x.port.ring room
    rw [drains] at splits data
    have moved : drained.done = stored.length := by rw [splits.count, Nat.zero_add]
    have fits := splits.fits (Nat.zero_le count)
    have after : ((x.port.clearEvent x.shared).setBuffer id drained.buffer).buffer id =
        drained.buffer := by
      rw [Shared.buffer_setBuffer, if_pos rfl]
    rw [moved] at fits
    rw [asked] at fits room
    rcases outcome with ⟨missing, rfl, rfl⟩ | ⟨enough, rfl, rfl⟩
    · obtain ⟨noEnd, more⟩ := not_or.mp missing
      rw [splits.terminated, Bool.not_eq_true, Option.isSome_eq_false_iff,
        Option.isNone_iff_eq_none] at noEnd
      subst noEnd
      have less : stored.length < (x.shared.buffer id).count := by
        rw [← asked, ← moved]
        exact Nat.lt_of_not_le more
      refine hx.accepted rfl (.quiet rfl rfl rfl rfl rfl) rfl splits ?_ ?_
      · refine ⟨rfl, splits.plain, splits.ends, fits, room, ?_, ?_, nofun, nofun⟩
        · rw [after, data]
        · refine iff_of_false nofun ?_
          rintro (all | none)
          · exact Nat.ne_of_lt less all
          · cases none
      · have dry := splits.dry rfl (Nat.lt_of_not_le more)
        refine .reading x.reads _ rfl rfl ended rfl ?_ rfl dry
        have took := splits.left
        rw [Option.toList_none, List.append_nil] at took
        show (⟨some id, count, drained.done⟩ : Progress) = ⟨some id, (x.shared.buffer id).count,
          (x.port.ring.toList.take (x.port.ring.length - drained.ring.length)).length⟩
        rw [took, asked, moved]
    · have counted : ((x.port.begun id count drained).completeRead
          ((x.port.clearEvent x.shared).setBuffer id drained.buffer)).2.buffer id =
            drained.buffer.setCount drained.done := by
        rw [buffer_completeRead rfl, after]
        rfl
      refine hx.accepted rfl (.quiet rfl rfl rfl rfl rfl) rfl splits ?_ ?_
      · refine ⟨rfl, splits.plain, splits.ends, fits, room, ?_, iff_of_true rfl ?_, ?_, ?_⟩
        · rw [counted]
          exact data
        · rcases enough with terminated | all
          · exact Or.inr (splits.terminated ▸ terminated)
          · rw [asked, moved] at all
            exact Or.inl (Nat.le_antisymm fits all)
        · intro met
          rw [← asked, ← moved]
          exact splits.early met
        · intro
          rw [counted]
          exact moved
      · refine .quiet nofun fun r member => ?_
        rcases List.mem_append.mp member with member | new
        · exact ended r member
        · rw [List.mem_singleton.mp new]
          rfl

/-- A byte that is taken while nobody reads waits in the ring, if there is room. -/
theorem kept_in_ring {byte : UInt8} {uart : Uart} (hx : x.Kept)
    (status : x.port.status ≠ .reading) (passes : x.port.uart.Passes uart [] [byte]) :
    (x.observe { x.port with ring := (x.port.ring.store byte).2, uart } x.shared).Kept := by
  have ended := hx.idle_ended status
  let port : SerialPort := { x.port with ring := (x.port.ring.store byte).2, uart }
  have passed : x.port.uart.Passes port.uart [] [byte] := passes
  obtain ⟨-, eq⟩ := observe_eq passed x.shared
  rw [eq, List.append_nil, List.map_singleton]
  let new : TakenByte := ⟨byte, x.losing⟩
  have arrived : x.arrived = (x.taken ++ [new]).map (·.byte) ++ uart.received := by
    have queue := passes.queue
    rw [List.append_nil] at queue
    rw [hx.arrived, queue]
    simp [new]
  have ready : Ready { x.port with ring := (x.port.ring.store byte).2, uart } :=
    hx.ready.passes rfl passes
  by_cases full : x.port.ring.length = ringCapacity
  · have losing : x.losing = true := decide_eq_true ⟨status, full⟩
    obtain ⟨aligned, stored, dropped⟩ := Ring.store_full hx.aligned full byte
    refine ⟨ready, aligned, arrived, ?_, ?_, hx.splits, .quiet status ended⟩
    · simp only [port, dropped, losing, List.countP_append, hx.lost]
      rfl
    · simp only [port, stored, losing, List.filter_append, List.map_append, hx.kept]
      exact List.append_nil _
  · have losing : x.losing = false := decide_eq_false fun both => full both.2
    have room : x.port.ring.length < ringCapacity := Nat.lt_of_le_of_ne x.port.ring.length_le full
    obtain ⟨aligned, stored, dropped⟩ := Ring.store_room hx.aligned room byte
    refine ⟨ready, aligned, arrived, ?_, ?_, hx.splits, .quiet status ended⟩
    · simp only [port, dropped, losing, List.countP_append, hx.lost]
      rfl
    · simp only [port, stored, losing, List.filter_append, List.map_append, hx.kept,
        List.append_assoc]
      rfl

/-- A byte that is taken while there is a read goes to the read. -/
theorem followed {port : SerialPort} {shared : Shared} {byte : UInt8} {r : AcceptedRead}
    {earlier : List AcceptedRead} (hx : x.Kept) (status : x.port.status = .reading)
    (reads : x.reads = earlier ++ [r]) (dry : x.port.ring.toList = [])
    (base : port.base = x.port.base) (passes : x.port.uart.Passes port.uart [] [byte])
    (ring : port.ring = x.port.ring)
    (splits : ∃ stored ending, (r.follow [byte] port shared).Splits stored ending)
    (phase : Phase { x.observe port shared with
      reads := earlier ++ [r.follow [byte] port shared] }) :
    Kept { x.observe port shared with reads := earlier ++ [r.follow [byte] port shared] } := by
  have losing : x.losing = false := decide_eq_false fun both => both.1 status
  obtain ⟨-, eq⟩ := observe_eq passes shared
  rw [eq, List.append_nil, List.map_singleton, losing] at phase ⊢
  refine ⟨hx.ready.passes base passes, ?_, ?_, ?_, ?_, ?_, phase⟩
  · simp only [ring]
    exact hx.aligned
  · have queue := passes.queue
    rw [List.append_nil] at queue
    simp only [hx.arrived, queue]
    simp
  · simp only [ring, List.countP_append, hx.lost]
    rfl
  · have kept := hx.kept
    rw [reads, dry] at kept
    simp only [ring, dry, List.filter_append, List.map_append, kept]
    simp [AcceptedRead.follow]
  · intro r' member
    rcases List.mem_append.mp member with member | new
    · exact hx.splits r' (reads ▸ List.mem_append_left [r] member)
    · rw [List.mem_singleton.mp new]
      exact splits

/-- A byte that is taken while there is a read is stored, or ends the line. -/
theorem kept_by_read {byte : UInt8} {uart : Uart} {r : AcceptedRead} {earlier : List AcceptedRead}
    (hx : x.Kept) (status : x.port.status = .reading) (reads : x.reads = earlier ++ [r])
    (ended : ∀ r ∈ earlier, r.ended = true) (missing : r.ended = false)
    (input : x.port.input = ⟨some r.buffer, r.before.count, r.consumed.length⟩)
    (after : r.after = x.shared.buffer r.buffer) (dry : x.port.ring.toList = [])
    (passes : x.port.uart.Passes uart [] [byte]) :
    let port := { (x.port.receive x.shared byte).1 with uart }
    let shared := (x.port.receive x.shared byte).2
    Kept { x.observe port shared with reads := earlier ++ [r.follow [byte] port shared] } := by
  have buffer : x.port.input.buffer = some r.buffer := by rw [input]
  obtain ⟨stored, ending, splits⟩ := hx.splits r (by simp [reads])
  obtain ⟨splits, less⟩ := splits.missing missing
  -- once the read has ended, there is none
  have quiet : ∀ r', r'.ended = true → ∀ q ∈ earlier ++ [r'], q.ended = true := by
    intro r' stopped q member
    rcases List.mem_append.mp member with member | new
    · exact ended q member
    · rw [List.mem_singleton.mp new]
      exact stopped
  intro port shared
  have follows : r.follow [byte] port shared = { r with
      consumed := r.consumed ++ [byte], after := shared.buffer r.buffer,
      ended := decide (port.status ≠ .reading) } := rfl
  cases terminator : isTerminator byte with
  | true =>
    have received := receive_terminator status x.shared terminator
    have idle : port.status = .idle := by simp only [port, received]; rfl
    have stopped : port.status ≠ .reading := by simp [idle]
    have counted : shared.buffer r.buffer = r.after.setCount r.consumed.length := by
      simp only [shared, received, buffer_completeRead buffer, input, after]
    rw [counted, decide_eq_true stopped] at follows
    refine hx.followed status reads dry ?_ passes ?_ ⟨r.consumed, some byte, ?_⟩ ?_
    · simp only [port, received]
      rfl
    · simp only [port, received]
      rfl
    · rw [follows]
      exact splits.meet less terminator
    · rw [follows]
      exact .quiet stopped (quiet _ rfl)
  | false =>
    have received := receive_plain status buffer x.shared terminator
    obtain ⟨whole, more⟩ := splits.store less terminator
    have held : (x.shared.modifyBuffer r.buffer (·.store r.consumed.length byte)).buffer r.buffer =
        r.after.store r.consumed.length byte := by
      rw [Shared.buffer_modifyBuffer, if_pos rfl, ← after]
    simp only [input] at received
    by_cases last : r.before.count ≤ r.consumed.length + 1
    · rw [if_pos last] at received
      have idle : port.status = .idle := by simp only [port, received]; rfl
      have stopped : port.status ≠ .reading := by simp [idle]
      have counted : shared.buffer r.buffer =
          (r.after.store r.consumed.length byte).setCount (r.consumed.length + 1) := by
        simp only [shared, received]
        rw [buffer_completeRead rfl, held]
      rw [counted, decide_eq_true stopped] at follows
      refine hx.followed status reads dry ?_ passes ?_ ⟨r.consumed ++ [byte], none, ?_⟩ ?_
      · simp only [port, received]
        rfl
      · simp only [port, received]
        rfl
      · rw [follows]
        exact whole last
      · rw [follows]
        exact .quiet stopped (quiet _ rfl)
    · rw [if_neg last] at received
      have still : port.status = .reading := by simp only [port, received, status]
      have stored : shared.buffer r.buffer = r.after.store r.consumed.length byte := by
        simp only [shared, received, held]
      rw [stored, decide_eq_false (not_not.mpr still)] at follows
      refine hx.followed status reads dry ?_ passes ?_ ⟨r.consumed ++ [byte], none, ?_⟩ ?_
      · simp only [port, received]
      · simp only [port, received]
      · rw [follows]
        exact more last
      · rw [follows]
        refine .reading earlier _ still rfl ended rfl ?_ stored.symm ?_
        · show port.input = _
          simp only [port, received, List.length_append, List.length_singleton]
        · show port.ring.toList = []
          simp only [port, received, dry]

theorem interrupt (hx : x.Kept) : x.interrupt.Kept := by
  rcases handleInterrupt_cases hx.ready x.shared with ⟨undisturbed, entered, passes⟩ |
    ⟨byte, uart, passes, handled⟩
  · have kept := hx.undisturbed undisturbed passes
    obtain ⟨nothing, -⟩ := observe_eq passes (x.port.handleInterrupt x.shared).2.2
    rw [interrupt_eq rfl, nothing]
    cases hx.phase with
    | quiet status ended =>
      rw [if_neg status]
      exact kept
    | reading earlier r status reads ended missing input after dry =>
      obtain ⟨status', -, shared'⟩ := undisturbed.reading status
      have same : r.follow [] (x.port.handleInterrupt x.shared).2.1
          (x.port.handleInterrupt x.shared).2.2 = r := by
        rw [AcceptedRead.follow, shared', ← after, List.append_nil,
          decide_eq_false (not_not.mpr status'), ← missing]
      rw [if_pos status, reads, List.dropLast_concat, List.getLast?_concat, Option.map_some,
        Option.toList_some, same, ← reads]
      exact kept
  · rw [interrupt_eq handled]
    cases hx.phase with
    | quiet status ended =>
      rw [if_neg status, receive_quiet status]
      exact hx.kept_in_ring status passes
    | reading earlier r status reads ended missing input after dry =>
      let port : SerialPort := { (x.port.receive x.shared byte).1 with uart }
      have passed : x.port.uart.Passes port.uart [] [byte] := passes
      have left : x.left port = [byte] := (observe_eq passed x.shared).1
      rw [if_pos status, left, reads, List.dropLast_concat, List.getLast?_concat,
        Option.map_some, Option.toList_some]
      exact hx.kept_by_read status reads ended missing input after dry passes

theorem interrupts (hx : x.Kept) (most : Nat) : (x.interrupts most).Kept := by
  induction most generalizing x with
  | zero => exact hx
  | succ most ih =>
    rw [Session.interrupts]
    split
    · exact ih hx.interrupt
    · exact hx

end Kept

/-- The session takes the interrupts that the driver takes. -/
theorem interrupts_eq (x : Session) (most : Nat) :
    ((x.interrupts most).port, (x.interrupts most).shared) =
      (x.port.serviceUpTo x.shared most).2 := by
  induction most generalizing x with
  | zero => rfl
  | succ most ih =>
    rw [Session.interrupts, serviceUpTo]
    split
    · exact ih x.interrupt
    · rfl

theorem Kept.call (hx : x.Kept) (c : SessionCall) : (x.call c).Kept := by
  cases c with
  | inject bytes => exact hx.inject bytes
  | read id => exact hx.read id
  | write id => exact hx.write id
  | interrupt => exact hx.interrupt
  | service =>
    have same := interrupts_eq x maxInterruptsPerPoll
    have kept := hx.interrupts maxInterruptsPerPoll
    rw [Session.call, serviceInterrupts]
    simp only [← same]
    exact kept
  | prepare id b => exact hx.prepare id b

theorem Kept.calls (hx : x.Kept) (calls : List SessionCall) :
    (calls.foldl Session.call x).Kept := by
  induction calls generalizing x with
  | nil => exact hx
  | cons c calls ih => exact ih (hx.call c)

end Session

end TrapKernel
