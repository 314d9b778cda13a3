import TrapKernel.Proofs.Device.Posting

/-!
# What a device sends

An `Outbox` follows a device whose port was opened, and writes down every transfer that is submitted
and what becomes of it. As long as the transfers have a buffer of their own, the bytes that are sent
are those of the writes that are done, in the order in which they were submitted, and then the first
ones of the write that the driver works on, if there is one.
-/

namespace TrapKernel

open SerialPort

/-- A device with what it works on, and the transfers that were submitted to it, in that order. -/
structure Outbox where
  device : Device
  shared : Shared
  memory : Memory
  postings : List Posting

/-- Something that happens to a device whose port is open. -/
inductive OutboxEvent where
  /-- A transfer is submitted, if its buffer is its own. -/
  | submit (t : Transfer)
  | checkCompletion
  | cancel (owner : ProcessId)
  /-- An interrupt is taken, whether the line is asserted or not. -/
  | interrupt
  /-- Interrupts are taken for as long as the line is asserted. -/
  | service
  /-- Bytes arrive on the line. -/
  | inject (bytes : List UInt8)
  /-- A buffer is filled, if no transfer needs it. -/
  | prepare (id : BufferId) (b : Buffer)
  /-- Others use the memory. -/
  | outside (memory : Memory)

namespace Outbox

variable {o : Outbox} {before : List UInt8}

/-- A device that was given nothing yet. -/
def initial (device : Device) (shared : Shared) (memory : Memory) : Outbox :=
  ⟨device, shared, memory, []⟩

/-- A transfer that has not ended needs this buffer. -/
def uses (o : Outbox) (id : BufferId) : Bool :=
  o.postings.any fun p => p.fate.isOpen && p.transfer.buffer = id

/-- The transfers, and one that is written down behind them. -/
def post (o : Outbox) (t : Transfer) (fate : Fate) : List Posting :=
  o.postings ++ [⟨t, o.shared.buffer t.buffer, fate⟩]

/-- A transfer is submitted. -/
def submit (o : Outbox) (t : Transfer) : Outbox :=
  match o.device.submit o.shared o.memory t with
  | .error e => { o with postings := o.post t (.rejected e) }
  | .ok (.queued, device, shared, memory) => ⟨device, shared, memory, o.post t .waiting⟩
  | .ok (.started, device, shared, memory) =>
    ⟨device, shared, memory, o.post t (o.device.fate o.shared t)⟩

/-- The device is asked whether the transfer in flight has ended. -/
def checkCompletion (o : Outbox) : Outbox :=
  match o.device.checkCompletion o.shared o.memory with
  | (none, device, shared, memory) => ⟨device, shared, memory, o.postings⟩
  | (some _, device, shared, memory) =>
    ⟨device, shared, memory, Posting.startFirst (o.device.fate o.shared) o.postings⟩

/-- Interrupts were taken. -/
def interrupted (o : Outbox) (port : SerialPort) (shared : Shared) : Outbox :=
  { o with
    device := { o.device with port }
    shared
    postings := o.postings.map (·.finish port shared) }

/-- The outbox after an event. -/
def step (o : Outbox) : OutboxEvent → Outbox
  | .submit t => if o.uses t.buffer then o else o.submit t
  | .checkCompletion => o.checkCompletion
  | .cancel owner =>
    let (_, device, memory) := o.device.cancel o.memory owner
    { o with device, memory, postings := o.postings.map (·.cancel owner) }
  | .interrupt =>
    let (_, port, shared) := o.device.port.handleInterrupt o.shared
    o.interrupted port shared
  | .service =>
    let (_, port, shared) := o.device.port.serviceInterrupts o.shared
    o.interrupted port shared
  | .inject bytes => { o with device.port := o.device.port.onUart (·.inject bytes) }
  | .prepare id b => if o.uses id then o else { o with shared := o.shared.setBuffer id b }
  | .outside memory => { o with memory }

/-! ### How far the transfers are -/

/-- How far the transfers are: those that were handed to the driver have ended, but for the one that
it works on. What they sent was sent in their order. -/
inductive Stage (before : List UInt8) (o : Outbox) : Prop where
  | quiet (earlier later : List Posting) (postings : o.postings = earlier ++ later)
      (closed : ∀ p ∈ earlier, p.fate.isOpen = false)
      (unhanded : ∀ p ∈ later, p.fate.isHanded = false) (idle : o.device.port.Idle)
      (sent : o.device.port.transmitted = before ++ earlier.flatMap (·.sent))
  | busy (earlier later : List Posting) (p : Posting)
      (postings : o.postings = earlier ++ p :: later)
      (closed : ∀ p ∈ earlier, p.fate.isOpen = false)
      (unhanded : ∀ p ∈ later, p.fate.isHanded = false) (fate : p.fate = .working)
      (active : o.device.active = some p.transfer) (busy : ¬ o.device.port.Idle)
      (carries : Carries (before ++ earlier.flatMap (·.sent)) p.transfer.direction
        p.transfer.buffer p.buffer o.device.port o.shared)

/-- The driver has nothing to do after a transfer has ended. -/
theorem Stage.ended {earlier later : List Posting} {p : Posting}
    (postings : o.postings = earlier ++ p :: later) (closed : ∀ p ∈ earlier, p.fate.isOpen = false)
    (ended : p.fate.isOpen = false) (unhanded : ∀ p ∈ later, p.fate.isHanded = false)
    (idle : o.device.port.Idle)
    (sent : o.device.port.transmitted = before ++ earlier.flatMap (·.sent) ++ p.sent) :
    Stage before o := by
  refine .quiet (earlier ++ [p]) later (postings.trans (List.append_cons ..)) ?_ unhanded idle ?_
  · intro q member
    rcases List.mem_append.mp member with member | last
    · exact closed q member
    · rw [List.mem_singleton.mp last]
      exact ended
  · rw [sent, List.flatMap_append, List.flatMap_singleton, List.append_assoc]

/-- A device whose port is open, and what was written down about it. -/
structure Kept (before : List UInt8) (o : Outbox) : Prop where
  ready : o.device.port.Ready
  agrees : o.device.Agrees o.shared
  prompt : o.device.Prompt
  waiting : Posting.queue o.postings = o.device.waiting.map (·.transfer)
  /-- Nobody changes the buffer of a transfer that waits. -/
  held : ∀ p ∈ o.postings, p.fate = .waiting → o.shared.buffer p.transfer.buffer = p.buffer
  apart : o.postings.Pairwise Posting.Apart
  counted : ∀ p ∈ o.postings, p.Counted
  stage : Stage before o

namespace Kept

theorem atWork (ho : o.Kept before) : AtWork o.device.event o.device.port :=
  ⟨ho.ready, ho.agrees.settled, ho.agrees.flagged⟩

/-- The bytes that all of the transfers sent, while the driver has nothing to do. -/
theorem quiet (ho : o.Kept before) (idle : o.device.port.Idle) :
    ∃ earlier later, o.postings = earlier ++ later ∧ (∀ p ∈ earlier, p.fate.isOpen = false) ∧
      (∀ p ∈ later, p.fate.isHanded = false) ∧
      o.device.port.transmitted = before ++ earlier.flatMap (·.sent) := by
  cases ho.stage with
  | quiet earlier later postings closed unhanded _ sent =>
    exact ⟨earlier, later, postings, closed, unhanded, sent⟩
  | busy earlier later p postings closed unhanded fate active busy => exact absurd idle busy

end Kept

/-- The driver has nothing to do, and it is the turn of a transfer that waits. -/
structure Turn (before : List UInt8) (d : Device) (s : Shared) (earlier : List Posting)
    (p : Posting) (later : List Posting) : Prop where
  work : AtWork d.event d.port
  idle : d.port.Idle
  sent : d.port.transmitted = before ++ earlier.flatMap (·.sent)
  closed : ∀ q ∈ earlier, q.fate.isOpen = false
  waits : p.fate = .waiting
  unhanded : ∀ q ∈ later, q.fate.isHanded = false
  waiting : Posting.queue later = d.waiting.map (·.transfer)
  held : ∀ q ∈ p :: later, q.fate = .waiting → s.buffer q.transfer.buffer = q.buffer
  apart : (earlier ++ p :: later).Pairwise Posting.Apart
  counted : ∀ q ∈ earlier ++ p :: later, q.Counted

/-- The driver takes the transfer, or it ends at once. -/
theorem Turn.stage {d : Device} {s : Shared} {earlier later : List Posting} {p : Posting}
    (turn : Turn before d s earlier p later) (memory : Memory) :
    let p' := { p with fate := d.fate s p.transfer }
    Stage before ⟨(d.start s p.transfer).1, (d.start s p.transfer).2, memory,
      earlier ++ p' :: later⟩ ∧ p'.Counted := by
  intro p'
  obtain ⟨-, -, outcome⟩ := d.start_carries turn.work.toReady turn.idle s p.transfer
  have same : (⟨p.transfer, s.buffer p.transfer.buffer, d.fate s p.transfer⟩ : Posting) = p' := by
    rw [turn.held p List.mem_cons_self turn.waits]
  rw [same, turn.sent] at outcome
  rcases outcome with ⟨works, busy, carries⟩ | ⟨ended, idle, sent, counted⟩
  · refine ⟨?_, fun after done => ?_⟩
    · exact .busy earlier later p' rfl turn.closed turn.unhanded works (d.active_start s _) busy
        carries
    · rw [works] at done
      cases done
  · refine ⟨?_, counted⟩
    exact .ended rfl turn.closed ended turn.unhanded idle sent

/-- The transfer is handed to the driver. -/
theorem Turn.start {d : Device} {s : Shared} {earlier later : List Posting} {p : Posting}
    (turn : Turn before d s earlier p later) (memory : Memory) :
    Kept before ⟨(d.start s p.transfer).1, (d.start s p.transfer).2, memory,
      earlier ++ { p with fate := d.fate s p.transfer } :: later⟩ := by
  obtain ⟨ready, others, -⟩ := d.start_carries turn.work.toReady turn.idle s p.transfer
  obtain ⟨stage, counted⟩ := turn.stage memory
  have handed := d.isHanded_fate s p.transfer
  generalize d.fate s p.transfer = fate at *
  have started : fate ≠ .waiting := by
    rintro rfl
    cases handed
  obtain ⟨apartEarlier, apartLater, apart⟩ := List.pairwise_append.mp turn.apart
  obtain ⟨behind, apartLater⟩ := List.pairwise_cons.mp apartLater
  have needs : p.fate.isOpen = true := by
    rw [turn.waits]
    rfl
  refine ⟨ready, ?_, ?_, ?_, ?_, ?_, ?_, stage⟩
  · exact (Device.Agrees.start turn.work.flagged turn.idle s p.transfer).1
  · intro free
    rw [Device.active_start] at free
    cases free
  · have none := fun q member => Posting.not_waiting_of_closed (turn.closed q member)
    rw [Device.waiting_start, ← turn.waiting, Posting.queue_append, Posting.queue_eq_nil.mpr none,
      Posting.queue_cons, if_neg started]
    rfl
  · intro q member waits
    have later' : q ∈ later := by
      rcases List.mem_append.mp member with member | member
      · exact absurd waits (Posting.not_waiting_of_closed (turn.closed q member))
      · rcases List.mem_cons.mp member with rfl | member
        · exact absurd waits started
        · exact member
    have waits' : q.fate.isOpen = true := by
      rw [waits]
      rfl
    rw [others _ (behind q later' needs waits')]
    exact turn.held q (List.mem_cons_of_mem p later') waits
  · refine List.pairwise_append.mpr ⟨apartEarlier, List.pairwise_cons.mpr ⟨?_, apartLater⟩, ?_⟩
    · exact fun q member _ => behind q member needs
    · intro q member q' member' needs'
      rw [turn.closed q member] at needs'
      cases needs'
  · intro q member
    rcases List.mem_append.mp member with member | member
    · exact turn.counted q (List.mem_append_left _ member)
    · rcases List.mem_cons.mp member with rfl | member
      · exact counted
      · exact turn.counted q (List.mem_append_right _ (List.mem_cons_of_mem p member))

/-! ### Events -/

theorem needs_of_uses {id : BufferId} (free : o.uses id = false) {p : Posting}
    (member : p ∈ o.postings) (needs : p.fate.isOpen = true) : p.transfer.buffer ≠ id := by
  rintro rfl
  have used : o.uses p.transfer.buffer = true :=
    List.any_eq_true.mpr ⟨p, member, by simp [needs]⟩
  rw [free] at used
  cases used

namespace Kept

/-- If nothing is in flight, every transfer has ended. -/
theorem all_closed (ho : o.Kept before) (free : o.device.active = none) :
    (∀ p ∈ o.postings, p.fate.isOpen = false) ∧
      o.device.port.transmitted = before ++ o.postings.flatMap (·.sent) := by
  have none : ∀ p ∈ o.postings, p.fate ≠ .waiting := by
    rw [← Posting.queue_eq_nil, ho.waiting, ho.prompt free]
    rfl
  obtain ⟨earlier, later, postings, closed, unhanded, sent⟩ :=
    ho.quiet (ho.agrees.idle (Or.inl free))
  refine ⟨fun p member => ?_, ?_⟩
  · have other := none p member
    rw [postings] at member
    rcases List.mem_append.mp member with first | last
    · exact closed p first
    · exact Posting.closed_of_unhanded (unhanded p last) other
  · rw [sent, postings, List.flatMap_append, Posting.flatMap_sent_of_unhanded unhanded,
      List.append_nil]

theorem apart_post (ho : o.Kept before) {t : Transfer} (free : o.uses t.buffer = false)
    (fate : Fate) : (o.post t fate).Pairwise Posting.Apart := by
  refine List.pairwise_append.mpr ⟨ho.apart, List.pairwise_singleton _ _, ?_⟩
  intro p member q last needs _
  rw [List.mem_singleton.mp last]
  exact needs_of_uses free member needs

/-- A transfer is written down that is not handed to the driver. -/
theorem post {t : Transfer} {fate : Fate} {waiting : List WaitingTransfer} (ho : o.Kept before)
    (free : o.uses t.buffer = false) (unhanded : fate.isHanded = false) (memory : Memory)
    (prompt : Device.Prompt { o.device with waiting })
    (same : waiting.map (·.transfer) = o.device.waiting.map (·.transfer) ++
      Posting.queue [⟨t, o.shared.buffer t.buffer, fate⟩]) :
    Kept before { o with
      device := { o.device with waiting }, memory, postings := o.post t fate } := by
  have last {q : Posting} (member : q ∈ o.post t fate) :
      q ∈ o.postings ∨ q = ⟨t, o.shared.buffer t.buffer, fate⟩ := by
    rcases List.mem_append.mp member with member | last
    · exact Or.inl member
    · exact Or.inr (List.mem_singleton.mp last)
  refine ⟨ho.ready, ho.agrees.waiting waiting, prompt, ?_, ?_, ho.apart_post free fate, ?_, ?_⟩
  · rw [same, ← ho.waiting]
    exact Posting.queue_append o.postings _
  · intro q member waits
    rcases last member with member | rfl
    · exact ho.held q member waits
    · rfl
  · intro q member
    rcases last member with member | rfl
    · exact ho.counted q member
    · rintro after rfl
      cases unhanded
  · -- it stands behind those that were not handed to the driver either
    have behind {later : List Posting} (others : ∀ p ∈ later, p.fate.isHanded = false) :
        ∀ p ∈ later ++ [⟨t, o.shared.buffer t.buffer, fate⟩], p.fate.isHanded = false := by
      intro q member
      rcases List.mem_append.mp member with member | last
      · exact others q member
      · rw [List.mem_singleton.mp last]
        exact unhanded
    cases ho.stage with
    | quiet earlier later postings closed others idle sent =>
      refine .quiet earlier _ ?_ closed (behind others) idle sent
      simp only [Outbox.post, postings, List.append_assoc]
    | busy earlier later p postings closed others fate active busy carries =>
      refine .busy earlier _ p ?_ closed (behind others) fate active busy carries
      simp only [Outbox.post, postings, List.append_assoc, List.cons_append]

theorem submit {t : Transfer} (ho : o.Kept before) (free : o.uses t.buffer = false) :
    (o.submit t).Kept before := by
  unfold Outbox.submit
  cases done : o.device.submit o.shared o.memory t with
  | error e => exact ho.post free rfl o.memory ho.prompt (List.append_nil _).symm
  | ok result =>
    obtain ⟨how, d, s, m⟩ := result
    have prompt := (Device.outstanding_submit ho.prompt done).1
    rcases (Device.submit_ok done).2 with ⟨rfl, idle, started, rfl⟩ |
      ⟨rfl, busy, rfl, record, -, rfl⟩
    · obtain ⟨closed, sent⟩ := ho.all_closed idle
      have turn : Turn before o.device o.shared o.postings
          ⟨t, o.shared.buffer t.buffer, .waiting⟩ [] := by
        refine ⟨ho.atWork, ho.agrees.idle (Or.inl idle), sent, closed, rfl, nofun, ?_, ?_,
          ho.apart_post free .waiting, ?_⟩
        · rw [ho.prompt idle]
          rfl
        · intro q member _
          rw [List.mem_singleton.mp member]
        · intro q member
          rcases List.mem_append.mp member with member | last
          · exact ho.counted q member
          · rw [List.mem_singleton.mp last]
            nofun
      have kept := turn.start o.memory
      rw [started] at kept
      exact kept
    · exact ho.post free rfl m prompt List.map_append

theorem checkCompletion (ho : o.Kept before) : o.checkCompletion.Kept before := by
  unfold Outbox.checkCompletion
  rcases o.device.checkCompletion_cases o.shared o.memory with ⟨-, eq⟩ |
    ⟨finished, raised, active, ⟨waiting, eq⟩ | ⟨next, rest, waiting, eq⟩⟩
  · rw [eq]
    exact ho
  · have idle := ho.agrees.idle (Or.inr raised)
    have none : ∀ p ∈ o.postings, p.fate ≠ .waiting := by
      rw [← Posting.queue_eq_nil, ho.waiting, waiting]
      rfl
    obtain ⟨earlier, later, postings, closed, unhanded, sent⟩ := ho.quiet idle
    rw [eq]
    simp only [Posting.startFirst_of_none _ none]
    exact ⟨ho.ready, ⟨ho.agrees.flagged, .nothing rfl idle⟩, fun _ => waiting, ho.waiting, ho.held,
      ho.apart, ho.counted, .quiet earlier later postings closed unhanded idle sent⟩
  · have idle := ho.agrees.idle (Or.inr raised)
    obtain ⟨earlier, later, postings, closed, unhanded, sent⟩ := ho.quiet idle
    have ended := fun q member => Posting.not_waiting_of_closed (closed q member)
    have queued : Posting.queue later = next.transfer :: rest.map (·.transfer) := by
      have queued := ho.waiting
      rw [postings, Posting.queue_append, Posting.queue_eq_nil.mpr ended, waiting] at queued
      exact queued
    obtain ⟨between, p, behind, split, passed, waits, transfer, queued'⟩ :=
      Posting.queue_eq_cons queued
    have postings' : o.postings = (earlier ++ between) ++ p :: behind := by
      rw [postings, split, List.append_assoc]
    have unhanded' : ∀ q ∈ between, q.fate.isHanded = false := fun q member =>
      unhanded q (split ▸ List.mem_append_left _ member)
    have closed' : ∀ q ∈ earlier ++ between, q.fate.isOpen = false := by
      intro q member
      rcases List.mem_append.mp member with member | member
      · exact closed q member
      · exact Posting.closed_of_unhanded (unhanded' q member) (passed q member)
    have turn : Turn before { o.device with active := none, waiting := rest } o.shared
        (earlier ++ between) p behind := by
      refine ⟨ho.atWork, idle, ?_, closed', waits, ?_, queued', ?_, postings' ▸ ho.apart,
        postings' ▸ ho.counted⟩
      · rw [List.flatMap_append, Posting.flatMap_sent_of_unhanded unhanded', List.append_nil]
        exact sent
      · exact fun q member =>
          unhanded q (split ▸ List.mem_append_right _ (List.mem_cons_of_mem p member))
      · exact fun q member => ho.held q (postings' ▸ List.mem_append_right _ member)
    have started : Posting.startFirst (o.device.fate o.shared) o.postings =
        (earlier ++ between) ++ { p with fate := o.device.fate o.shared p.transfer } :: behind := by
      rw [postings']
      exact Posting.startFirst_append _
        (fun q member => Posting.not_waiting_of_closed (closed' q member)) waits behind
    rw [eq, ← transfer]
    simp only [started]
    exact turn.start _

theorem frame (ho : o.Kept before) (uart : Uart) {shared : Shared} (memory : Memory)
    (ready : Ready { o.device.port with uart })
    (same : uart.transmitted = o.device.port.uart.transmitted)
    (flags : shared.flags = o.shared.flags)
    (held : ∀ p ∈ o.postings, p.fate.isOpen = true →
      shared.buffer p.transfer.buffer = o.shared.buffer p.transfer.buffer) :
    Kept before { o with device.port := { o.device.port with uart }, shared, memory } := by
  have agrees := (ho.agrees.line uart).congr flags
  refine ⟨ready, agrees, ho.prompt, ho.waiting, ?_, ho.apart, ho.counted, ?_⟩
  · intro p member waits
    rw [held p member (by rw [waits]; rfl)]
    exact ho.held p member waits
  · cases ho.stage with
    | quiet earlier later postings closed unhanded idle sent =>
      exact .quiet earlier later postings closed unhanded idle
        ((congrArg Array.toList same).trans sent)
    | busy earlier later p postings closed unhanded fate active busy carries =>
      have member : p ∈ o.postings := postings ▸ List.mem_append_right _ List.mem_cons_self
      exact .busy earlier later p postings closed unhanded fate active busy
        (carries.frame same (held p member (by rw [fate]; rfl)))

theorem cancel (ho : o.Kept before) (owner : ProcessId) :
    (o.step (.cancel owner)).Kept before := by
  have handed {l : List Posting} (closed : ∀ p ∈ l, p.fate.isOpen = false) :
      l.map (·.cancel owner) = l :=
    (List.map_congr_left fun p member => Posting.cancel_of_not_waiting owner
      (Posting.not_waiting_of_closed (closed p member))).trans (List.map_id l)
  have behind {l : List Posting} (unhanded : ∀ p ∈ l, p.fate.isHanded = false) :
      ∀ p ∈ l.map (·.cancel owner), p.fate.isHanded = false := by
    intro p' mapped
    obtain ⟨p, member, rfl⟩ := List.mem_map.mp mapped
    exact Posting.isHanded_cancel owner (unhanded p member)
  rw [step, Device.cancel_eq]
  refine ⟨ho.ready, ho.agrees.waiting _, fun idle => ?_, ?_, ?_,
    Posting.After.pairwise (Posting.after_cancel owner) ho.apart, ?_, ?_⟩
  · show o.device.waiting.filter _ = []
    rw [ho.prompt idle]
    rfl
  · refine (Posting.queue_map_cancel owner o.postings).trans ?_
    rw [ho.waiting, List.filter_map]
    rfl
  · intro p' mapped waits
    obtain ⟨p, member, rfl⟩ := List.mem_map.mp mapped
    have after := Posting.after_cancel owner p
    rw [after.transfer, after.buffer]
    exact ho.held p member (after.waits waits)
  · intro p' mapped
    obtain ⟨p, member, rfl⟩ := List.mem_map.mp mapped
    exact Posting.counted_cancel owner (ho.counted p member)
  · cases ho.stage with
    | quiet earlier later postings closed unhanded idle sent =>
      refine .quiet earlier (later.map (·.cancel owner)) ?_ closed (behind unhanded) idle sent
      simp only [postings, List.map_append, handed closed]
    | busy earlier later p postings closed unhanded fate active busy carries =>
      have works : p.cancel owner = p :=
        Posting.cancel_of_not_waiting owner (by rw [fate]; nofun)
      refine .busy earlier (later.map (·.cancel owner)) p ?_ closed (behind unhanded) fate active
        busy carries
      simp only [postings, List.map_append, List.map_cons, handed closed, works]

/-- The driver leaves the buffer of a transfer that waits alone. -/
theorem spares (ho : o.Kept before) {q : Posting} (member : q ∈ o.postings)
    (waits : q.fate = .waiting) : o.device.port.Spares q.transfer.buffer := by
  cases ho.stage with
  | quiet earlier later postings closed unhanded idle sent => exact idle.spares _
  | busy earlier later p postings closed unhanded fate active busy carries =>
    have works : o.device.port.WorksOn p.transfer.direction p.transfer.buffer := by
      cases ho.agrees.phase with
      | nothing free idle => exact absurd idle busy
      | works t active' lowered works =>
        obtain rfl := Option.some.inj (active.symm.trans active')
        exact works
      | ended t active' raised idle => exact absurd idle busy
    have needs : q.fate.isOpen = true := by
      rw [waits]
      rfl
    rw [postings] at member
    rcases List.mem_append.mp member with member | member
    · exact absurd waits (Posting.not_waiting_of_closed (closed q member))
    · rcases List.mem_cons.mp member with rfl | member
      · rw [fate] at waits
        cases waits
      · have apart := (List.pairwise_append.mp (postings ▸ ho.apart)).2.1
        refine works.spares ((List.pairwise_cons.mp apart).1 q member ?_ needs)
        rw [fate]
        rfl

theorem interrupted {port : SerialPort} {shared : Shared} (ho : o.Kept before)
    (interrupts : Interrupts o.device.port o.shared port shared) :
    (o.interrupted port shared).Kept before := by
  have work := interrupts.atWork ho.atWork
  have others {l : List Posting} (closed : ∀ p ∈ l, p.fate.isOpen = false) :
      l.map (·.finish port shared) = l :=
    Posting.map_finish fun p member => Posting.not_working_of_closed (closed p member)
  have behind {l : List Posting} (unhanded : ∀ p ∈ l, p.fate.isHanded = false) :
      l.map (·.finish port shared) = l :=
    Posting.map_finish fun p member => Posting.not_working_of_unhanded (unhanded p member)
  have staged : Stage before (o.interrupted port shared) ∧
      ∀ p ∈ (o.interrupted port shared).postings, p.Counted := by
    cases ho.stage with
    | quiet earlier later postings closed unhanded idle sent =>
      obtain ⟨idle', -, same⟩ := interrupts.idle ho.atWork idle
      have postings' : (o.interrupted port shared).postings = o.postings := by
        simp only [Outbox.interrupted, postings, List.map_append, others closed, behind unhanded]
      refine ⟨.quiet earlier later (postings'.trans postings) closed unhanded idle'
        (same.trans sent), ?_⟩
      rw [postings']
      exact ho.counted
    | busy earlier later p postings closed unhanded fate active busy carries =>
      have carries' := interrupts.carries ho.atWork carries
      have postings' : (o.interrupted port shared).postings =
          earlier ++ p.finish port shared :: later := by
        simp only [Outbox.interrupted, postings, List.map_append, List.map_cons, others closed,
          behind unhanded]
      by_cases idle : port.Idle
      · obtain ⟨sent, counted⟩ := Posting.done_of_carries carries' idle
        rw [Posting.finish, if_pos ⟨fate, idle⟩] at postings'
        refine ⟨.ended postings' closed rfl unhanded idle sent, fun q member => ?_⟩
        rw [postings'] at member
        rcases List.mem_append.mp member with member | member
        · exact ho.counted q (postings ▸ List.mem_append_left _ member)
        · rcases List.mem_cons.mp member with rfl | member
          · exact counted
          · exact ho.counted q (postings ▸ List.mem_append_right _ (List.mem_cons_of_mem p member))
      · rw [Posting.finish, if_neg fun both => idle both.2, ← postings] at postings'
        refine ⟨.busy earlier later p (postings'.trans postings) closed unhanded fate active idle
          carries', ?_⟩
        rw [postings']
        exact ho.counted
  refine ⟨work.toReady, ho.agrees.serves (interrupts.serves ho.atWork), ho.prompt, ?_, ?_,
    Posting.After.pairwise (Posting.after_finish port shared) ho.apart, staged.2, staged.1⟩
  · exact (Posting.queue_map_finish port shared o.postings).trans ho.waiting
  · intro p' mapped waits
    obtain ⟨p, member, rfl⟩ := List.mem_map.mp mapped
    have after := Posting.after_finish port shared p
    have waits := after.waits waits
    rw [after.transfer, after.buffer]
    exact (interrupts.buffer_of_spares ho.atWork (ho.spares member waits)).trans
      (ho.held p member waits)

theorem step (ho : o.Kept before) (e : OutboxEvent) : (o.step e).Kept before := by
  have unchanged : ∀ p ∈ o.postings, p.fate.isOpen = true →
      o.shared.buffer p.transfer.buffer = o.shared.buffer p.transfer.buffer := fun _ _ _ => rfl
  cases e with
  | submit t =>
    rw [Outbox.step]
    split
    · exact ho
    · rename_i free
      exact ho.submit (Bool.eq_false_iff.mpr free)
  | checkCompletion => exact ho.checkCompletion
  | cancel owner => exact ho.cancel owner
  | interrupt => exact ho.interrupted (interrupts_handleInterrupt _ _)
  | service => exact ho.interrupted (interrupts_serviceUpTo _ _ maxInterruptsPerPoll)
  | inject bytes =>
    refine ho.frame (o.device.port.uart.inject bytes) o.memory ?_ rfl rfl unchanged
    exact ⟨ho.ready.toPlaced.moved rfl rfl, ho.ready.closed⟩
  | prepare id b =>
    rw [Outbox.step]
    split
    · exact ho
    · rename_i free
      refine ho.frame o.device.port.uart o.memory ho.ready rfl rfl fun p member needs => ?_
      have other := needs_of_uses (Bool.eq_false_iff.mpr free) member needs
      exact (o.shared.buffer_setBuffer id _ b).trans (if_neg (Ne.symm other))
  | outside memory => exact ho.frame o.device.port.uart memory ho.ready rfl rfl unchanged

theorem steps (ho : o.Kept before) (events : List OutboxEvent) :
    (events.foldl Outbox.step o).Kept before := by
  induction events generalizing o with
  | nil => exact ho
  | cons e events ih => exact ih (ho.step e)

end Kept

/-! ### What is sent -/

/-- What was sent of the write that the driver works on. It stands behind those that have ended, and
before those that were not handed to the driver. -/
inductive InFlight (o : Outbox) : List UInt8 → Prop where
  | nothing (none : ∀ p ∈ o.postings, p.fate = .working → p.transfer.direction = .read) :
      InFlight o []
  | write (earlier later : List Posting) (p : Posting) (part : List UInt8)
      (postings : o.postings = earlier ++ p :: later)
      (closed : ∀ p ∈ earlier, p.fate.isOpen = false)
      (unhanded : ∀ p ∈ later, p.fate.isHanded = false) (fate : p.fate = .working)
      (direction : p.transfer.direction = .write) (active : o.device.active = some p.transfer)
      (some : part ≠ []) (first : part <+: p.buffer.contents) : InFlight o part

theorem Stage.sent (h : Stage before o) : ∃ part, o.InFlight part ∧
    o.device.port.transmitted = before ++ o.postings.flatMap (·.sent) ++ part := by
  cases h with
  | quiet earlier later postings closed unhanded idle sent =>
    have none := Posting.not_working closed unhanded
    refine ⟨[], .nothing fun p member works => absurd works (none p (postings ▸ member)), ?_⟩
    · rw [sent, postings, List.flatMap_append, Posting.flatMap_sent_of_unhanded unhanded,
        List.append_nil, List.append_nil]
  | busy earlier later p postings closed unhanded fate active busy carries =>
    have ended : o.postings.flatMap (·.sent) = earlier.flatMap (·.sent) := by
      have nothing : p.sent = [] := by rw [Posting.sent, fate]
      rw [postings, List.flatMap_append, List.flatMap_cons, nothing,
        Posting.flatMap_sent_of_unhanded unhanded, List.append_nil, List.append_nil]
    rw [ended]
    cases direction : p.transfer.direction with
    | read =>
      rw [direction] at carries
      have none := Posting.not_working closed unhanded
      refine ⟨[], .nothing fun q member works => ?_, ?_⟩
      · rw [postings] at member
        rcases List.mem_cons.mp (List.perm_middle.mem_iff.mp member) with rfl | member
        · exact direction
        · exact absurd works (none q member)
      · rw [List.append_nil]
        exact carries.2
    | write =>
      rw [direction] at carries
      rcases carries with sending | sent
      · obtain ⟨part, some, first, sent⟩ := sending.part
        exact ⟨part, .write earlier later p part postings closed unhanded fate direction active some
          first, sent⟩
      · exact absurd sent.idle busy

/-- Four writes and a read, one of them cancelled, while bytes arrive on a looped line. -/
def errands : List OutboxEvent :=
  let t (direction : Direction) (n : Nat) : Transfer := ⟨direction, .serial, ⟨n⟩, ⟨n, 0⟩⟩
  [.prepare ⟨0⟩ (.forWrite [0x6F, 0x6B]), .prepare ⟨1⟩ (.forRead 8),
    .prepare ⟨2⟩ (.forWrite [0x21]), .prepare ⟨3⟩ (.forWrite [0x61, 0x62, 0x63]),
    .submit (t .write 0), .submit (t .read 1), .submit (t .write 2), .submit (t .write 3),
    .submit (t .write 4), .inject [0x68, 0x0D], .interrupt, .cancel ⟨2, 0⟩, .service,
    .checkCompletion, .service, .checkCompletion, .interrupt]

end Outbox

end TrapKernel
