import TrapKernel.Proofs.Device.InPlace
import TrapKernel.Proofs.Device.Transfers
import TrapKernel.Proofs.Memory.Holds

/-!
# First come, first served

A `Journal` follows the calls of a device: which transfers were accepted and not cancelled, which
ones were handed to the driver, and whose were reported as ended. Whatever the driver, the flag and
the buffers do in between, the transfers are handed to the driver and reported in the order in which
they were accepted.

`Books` add the heap, from which others take blocks as well. As long as they give back only their
own, the device has one block for every transfer that waits.
-/

namespace TrapKernel

/-- A call of a device. -/
inductive DeviceCall where
  | submit (t : Transfer)
  | checkCompletion
  | cancel (owner : ProcessId)

/-- A device with what it works on, and the story of its transfers. -/
structure Journal where
  device : Device
  shared : Shared
  memory : Memory
  /-- The transfers that were accepted and not cancelled. -/
  accepted : List Transfer
  /-- The transfers that were handed to the driver. -/
  started : List Transfer
  /-- The processes whose transfers were reported as ended. -/
  reported : List ProcessId

namespace Journal

variable {j : Journal}

/-- A device that was given nothing yet. -/
def initial (device : Device) (shared : Shared) (memory : Memory) : Journal :=
  ⟨device, shared, memory, [], [], []⟩

/-- The journal after a call. What is cancelled is no longer accepted, unless it was started. -/
def call (j : Journal) : DeviceCall → Journal
  | .submit t =>
    match j.device.submit j.shared j.memory t with
    | .error _ => j
    | .ok (how, device, shared, memory) => { j with
        device, shared, memory
        accepted := j.accepted ++ [t]
        started := if how = .started then j.started ++ [t] else j.started }
  | .checkCompletion =>
    match j.device.checkCompletion j.shared j.memory with
    | (none, device, shared, memory) => { j with device, shared, memory }
    | (some owner, device, shared, memory) => { j with
        device, shared, memory
        started := j.started ++ device.active.toList
        reported := j.reported ++ [owner] }
  | .cancel owner =>
    let (_, device, memory) := j.device.cancel j.memory owner
    { j with
      device, memory
      accepted := j.accepted.take j.started.length ++
        (j.accepted.drop j.started.length).filter (·.owner ≠ owner) }

section

variable {t : Transfer} {how : Submitted} {owner : ProcessId} {d : Device} {s : Shared}
  {m : Memory}

theorem call_refused {e : SubmitError}
    (refused : j.device.submit j.shared j.memory t = .error e) : j.call (.submit t) = j := by
  rw [call, refused]

theorem call_submitted (done : j.device.submit j.shared j.memory t = .ok (how, d, s, m)) :
    j.call (.submit t) = { j with
      device := d, shared := s, memory := m
      accepted := j.accepted ++ [t]
      started := if how = .started then j.started ++ [t] else j.started } := by
  rw [call, done]

theorem call_nothing (asked : j.device.checkCompletion j.shared j.memory = (none, d, s, m)) :
    j.call .checkCompletion = { j with device := d, shared := s, memory := m } := by
  rw [call, asked]

theorem call_reported
    (asked : j.device.checkCompletion j.shared j.memory = (some owner, d, s, m)) :
    j.call .checkCompletion = { j with
      device := d, shared := s, memory := m
      started := j.started ++ d.active.toList
      reported := j.reported ++ [owner] } := by
  rw [call, asked]

end

/-- The accepted transfers are those that were started, then those that wait. Those that were
started are the ones that ended, each reported to its own owner, then the one in flight. -/
structure InOrder (j : Journal) : Prop where
  prompt : j.device.Prompt
  accepted : j.accepted = j.started ++ j.device.waiting.map (·.transfer)
  started : ∃ ended, j.started = ended ++ j.device.active.toList ∧
    ended.map (·.owner) = j.reported

namespace InOrder

theorem initial (id : DeviceId) (event : FlagId) (port : SerialPort) (s : Shared) (m : Memory) :
    (Journal.initial (.create id event port) s m).InOrder :=
  ⟨fun _ => rfl, rfl, [], rfl, rfl⟩

/-- The order does not depend on the driver, the flag, the buffers and the memory. -/
theorem frame (hj : j.InOrder) (port : SerialPort) (shared : Shared) (memory : Memory) :
    InOrder { j with device := { j.device with port }, shared, memory } :=
  ⟨hj.prompt, hj.accepted, hj.started⟩

theorem submit (hj : j.InOrder) (t : Transfer) : (j.call (.submit t)).InOrder := by
  cases done : j.device.submit j.shared j.memory t with
  | error e =>
    rw [call_refused done]
    exact hj
  | ok result =>
    obtain ⟨how, d, s, m⟩ := result
    rw [call_submitted done]
    have prompt := (Device.outstanding_submit hj.prompt done).1
    obtain ⟨ended, started, owners⟩ := hj.started
    rcases (Device.submit_ok done).2 with ⟨rfl, idle, start, -⟩ | ⟨rfl, -, -, record, -, rfl⟩
    · have waiting : d.waiting = [] := by
        rw [← hj.prompt idle, ← Device.waiting_start j.device j.shared t, start]
      have active : d.active = some t := by rw [← Device.active_start j.device j.shared t, start]
      rw [idle, Option.toList_none, List.append_nil] at started
      have accepted := hj.accepted
      rw [hj.prompt idle, List.map_nil, List.append_nil] at accepted
      refine ⟨prompt, ?_, ended, ?_, owners⟩
      · simp [waiting, accepted]
      · simp [active, started]
    · refine ⟨prompt, ?_, ended, started, owners⟩
      simp [hj.accepted]

theorem checkCompletion (hj : j.InOrder) : (j.call .checkCompletion).InOrder := by
  obtain ⟨ended, started, owners⟩ := hj.started
  rcases j.device.checkCompletion_cases j.shared j.memory with ⟨-, eq⟩ |
    ⟨finished, -, active, ⟨waiting, eq⟩ | ⟨next, rest, waiting, eq⟩⟩
  · rw [call_nothing eq]
    exact hj
  · rw [call_reported eq]
    refine ⟨fun _ => waiting, ?_, j.started, rfl, ?_⟩
    · rw [hj.accepted]
      simp
    · simp [started, active, owners]
  · rw [call_reported eq]
    refine ⟨fun idle => ?_, ?_, j.started, rfl, ?_⟩
    · rw [Device.active_start] at idle
      cases idle
    · simp [hj.accepted, waiting]
    · simp [started, active, owners]

theorem cancel (hj : j.InOrder) (owner : ProcessId) : (j.call (.cancel owner)).InOrder := by
  simp only [Journal.call]
  simp only [Device.cancel_eq]
  refine ⟨fun idle => ?_, ?_, hj.started⟩
  · simp [hj.prompt idle]
  · rw [hj.accepted, List.take_left' rfl, List.drop_left' rfl, List.filter_map]
    rfl

theorem call (hj : j.InOrder) (c : DeviceCall) : (j.call c).InOrder := by
  cases c with
  | submit t => exact hj.submit t
  | checkCompletion => exact hj.checkCompletion
  | cancel owner => exact hj.cancel owner

end InOrder

end Journal

/-! ### Blocks -/

/-- A journal, and the blocks of the heap that are not the device's. -/
structure Books where
  journal : Journal
  others : List Nat

/-- Something that happens to a device or to its heap. -/
inductive BooksEvent where
  | call (c : DeviceCall)
  /-- The flag is raised or lowered, buffers are used, the driver is called or interrupted. -/
  | outside (port : SerialPort) (shared : Shared)
  /-- Someone else takes a block. -/
  | allocate (bytes : Nat)
  /-- Someone else gives back a block. -/
  | free (address : Nat)

namespace Books

variable {b : Books} {size : Nat}

/-- The books after an event. Nobody else gives back the block of a transfer that waits. -/
def step (b : Books) : BooksEvent → Books
  | .call c => { b with journal := b.journal.call c }
  | .outside port shared => { b with
      journal := { b.journal with device := { b.journal.device with port }, shared } }
  | .allocate bytes =>
    match b.journal.memory.allocate bytes with
    | .error _ => b
    | .ok (address, memory) => ⟨{ b.journal with memory }, address :: b.others⟩
  | .free address =>
    if address ∈ b.journal.device.records then b
    else
      match b.journal.memory.free address with
      | .error _ => b
      | .ok memory => ⟨{ b.journal with memory }, b.others.erase address⟩

/-- The transfers are served in order, and the blocks of the heap that are in use are those of the
others and one for every transfer that waits. -/
structure Balanced (size : Nat) (b : Books) : Prop where
  order : b.journal.InOrder
  holds : b.journal.memory.Holds size (b.others ++ b.journal.device.records)

namespace Balanced

theorem submit (hb : b.Balanced size) (t : Transfer) :
    (b.step (.call (.submit t))).Balanced size := by
  refine ⟨hb.order.submit t, ?_⟩
  have holds := hb.holds
  rw [Books.step]
  cases done : b.journal.device.submit b.journal.shared b.journal.memory t with
  | error e =>
    rw [Journal.call_refused done]
    exact holds
  | ok result =>
    obtain ⟨how, d, s, m⟩ := result
    rw [Journal.call_submitted done]
    rw [Device.records] at holds ⊢
    rcases Device.submit_cases done with ⟨waiting, rfl⟩ | ⟨record, allocated, waiting⟩
    · rw [waiting]
      exact holds
    · refine (holds.allocate allocated).perm ?_
      rw [waiting, List.map_append, ← List.append_assoc]
      exact (List.perm_append_singleton record _).symm

theorem checkCompletion (hb : b.Balanced size) :
    (b.step (.call .checkCompletion)).Balanced size := by
  refine ⟨hb.order.checkCompletion, ?_⟩
  have holds := hb.holds
  have after := b.journal.device.waiting_checkCompletion b.journal.shared b.journal.memory
  simp only [step, Journal.call]
  generalize b.journal.device.checkCompletion b.journal.shared b.journal.memory = result at after ⊢
  obtain ⟨answer, d, s, m⟩ := result
  have same : m.Holds size (b.others ++ d.records) := by
    rw [Device.records] at holds ⊢
    simp only [] at after
    rcases after with ⟨waiting, rfl⟩ | ⟨next, rest, before, waiting, rfl⟩
    · rw [waiting]
      exact holds
    · rw [waiting]
      rw [before, List.map_cons] at holds
      have split : (b.others ++ next.record :: rest.map (·.record)).Perm
          ([next.record] ++ (b.others ++ rest.map (·.record))) := List.perm_middle
      exact (holds.frees split).2
  cases answer <;> exact same

theorem cancel (hb : b.Balanced size) (owner : ProcessId) :
    (b.step (.call (.cancel owner))).Balanced size := by
  refine ⟨hb.order.cancel owner, ?_⟩
  have split : (b.others ++ b.journal.device.records).Perm (b.journal.device.held owner ++
      (b.others ++ (b.journal.device.cancel b.journal.memory owner).2.1.records)) := by
    refine ((b.journal.device.records_perm b.journal.memory owner).append_left b.others).trans ?_
    rw [← List.append_assoc, ← List.append_assoc]
    exact List.perm_append_comm.append_right _
  have holds := (hb.holds.frees split).2
  rw [← Device.memory_cancel] at holds
  exact holds

theorem allocate (hb : b.Balanced size) (bytes : Nat) :
    (b.step (.allocate bytes)).Balanced size := by
  simp only [Books.step]
  cases allocated : b.journal.memory.allocate bytes with
  | error e => exact hb
  | ok result =>
    refine ⟨hb.order.frame _ _ _, ?_⟩
    exact hb.holds.allocate allocated

theorem free (hb : b.Balanced size) (address : Nat) : (b.step (.free address)).Balanced size := by
  simp only [Books.step]
  by_cases waits : address ∈ b.journal.device.records
  · rw [if_pos waits]
    exact hb
  · rw [if_neg waits]
    cases freed : b.journal.memory.free address with
    | error e => exact hb
    | ok memory =>
      obtain ⟨out, holds⟩ := hb.holds.freed freed
      have own : address ∈ b.others := (List.mem_append.mp out).resolve_right waits
      rw [List.erase_append_left _ own] at holds
      exact ⟨hb.order.frame _ _ _, holds⟩

theorem step (hb : b.Balanced size) (e : BooksEvent) : (b.step e).Balanced size := by
  cases e with
  | call c =>
    cases c with
    | submit t => exact hb.submit t
    | checkCompletion => exact hb.checkCompletion
    | cancel owner => exact hb.cancel owner
  | outside port shared => exact ⟨hb.order.frame _ _ _, hb.holds⟩
  | allocate bytes => exact hb.allocate bytes
  | free address => exact hb.free address

theorem steps (hb : b.Balanced size) (events : List BooksEvent) :
    (events.foldl Books.step b).Balanced size := by
  induction events generalizing b with
  | nil => exact hb
  | cons e events ih => exact ih (hb.step e)

end Balanced

/-- What the books show of a device that is asked for nothing but what it offers. -/
structure Exact (b : Books) : Prop where
  /-- The accepted transfers are those that ended, each reported to its own owner, then the one in
  flight, then those that wait; all but those that wait were handed to the driver. -/
  order : ∃ ended, ended.map (·.owner) = b.journal.reported ∧
    b.journal.started = ended ++ b.journal.device.active.toList ∧
    b.journal.accepted = ended ++ b.journal.device.outstanding
  /-- The blocks in use are those of the others and one for every transfer that waits. -/
  blocks : ∃ h, b.journal.memory = .heap h ∧
    (h.showAllocated.map (·.address)).Perm (b.others ++ b.journal.device.records) ∧
    (b.others ++ b.journal.device.records).Nodup
  /-- Cancelling drops what waits for the process, and changes nothing else of the device. -/
  cancels : ∀ owner, ∃ memory, b.journal.device.cancel b.journal.memory owner =
    ((b.journal.device.waiting.filter (·.transfer.owner = owner)).length,
      { b.journal.device with
        waiting := b.journal.device.waiting.filter (·.transfer.owner ≠ owner) },
      memory)
  /-- A transfer is refused for another device or for want of memory, and then nothing changes: the
  steps in which it is submitted leave the device, its driver, the buffers and the memory as they
  were. -/
  refuses : ∀ t e, b.journal.device.submit b.journal.shared b.journal.memory t = .error e →
    b.step (.call (.submit t)) = b ∧
      (DeviceSteps.submit t).after (b.journal.device, b.journal.shared, b.journal.memory) =
        (.error e, b.journal.device, b.journal.shared, b.journal.memory) ∧
      (t.device ≠ b.journal.device.id ∨ b.journal.device.isBusy = true ∧
        ∃ cause, b.journal.memory.allocate transferRecordSize = .error cause)
  /-- In place a transfer is submitted as the journal says. -/
  settles : ∀ t,
    (DeviceSteps.submit t).after (b.journal.device, b.journal.shared, b.journal.memory) =
      settled (b.journal.device, b.journal.shared, b.journal.memory)
        (b.journal.device.submit b.journal.shared b.journal.memory t)

theorem Balanced.exact (hb : b.Balanced size) : b.Exact := by
  have settles := DeviceSteps.after_submit (d := b.journal.device) (s := b.journal.shared)
    hb.holds.settles
  refine ⟨?_, ?_, ?_, ?_, settles⟩
  · obtain ⟨ended, started, owners⟩ := hb.order.started
    refine ⟨ended, owners, started, ?_⟩
    rw [hb.order.accepted, started, Device.outstanding, List.append_assoc]
  · obtain ⟨h, memory, shown⟩ := hb.holds.shown
    exact ⟨h, memory, shown, hb.holds.nodup⟩
  · intro owner
    exact ⟨_, b.journal.device.cancel_eq b.journal.memory owner⟩
  · intro t e refused
    refine ⟨?_, ?_, ?_⟩
    · rw [Books.step, Journal.call_refused refused]
    · rw [settles, refused]
      rfl
    · rcases Device.submit_error_iff.mp refused with ⟨other, -⟩ | ⟨-, busy, cause, full, -⟩
      · exact Or.inl other
      · exact Or.inr ⟨busy, cause, full⟩

/-- Whatever happened since a device and its heap were created, the transfers were served in the
order in which they came. -/
theorem exact_steps {h : Heap} (created : Heap.create size = .ok h) (id : DeviceId)
    (event : FlagId) (port : SerialPort) (shared : Shared) (events : List BooksEvent) :
    (events.foldl step ⟨.initial (.create id event port) shared (.heap h), []⟩).Exact := by
  have start : Balanced size ⟨.initial (.create id event port) shared (.heap h), []⟩ :=
    ⟨.initial id event port shared (.heap h), .create created⟩
  exact (start.steps events).exact

/-- Interrupts are taken for as long as the line is asserted. -/
def served (b : Books) : BooksEvent :=
  let (_, port, shared) := b.journal.device.port.serviceInterrupts b.journal.shared
  .outside port shared

/-- There are two bytes to send. -/
def opening (h : Heap) (port : SerialPort) : Books :=
  let shared := (Shared.empty.addBuffer (.forWrite [0x6F, 0x6B])).2
  ⟨.initial (.create .serial ⟨0⟩ port) shared (.heap h), []⟩

/-- Two transfers wait behind a write, and when the heap is full a third one is refused. The first
of those that wait is cancelled. -/
def queueing : List BooksEvent :=
  let t (n : Nat) : Transfer := ⟨.write, .serial, ⟨0⟩, ⟨n, 0⟩⟩
  [.call (.submit (t 0)), .call (.submit (t 1)), .allocate 8, .call (.submit (t 2)), .allocate 780,
    .call (.submit (t 3)), .call (.cancel ⟨1, 0⟩)]

/-- Then the write ends, and somebody asks whether it did. -/
def finishing (h : Heap) (port : SerialPort) : List BooksEvent :=
  queueing ++ [served (queueing.foldl step (opening h port)), .call .checkCompletion]

/-- The owner of the write is reported, and the transfer that still waits is started. -/
theorem exact_steps_thousand : ∃ h port b, Heap.create 1000 = .ok h ∧
    (SerialPort.create (.create com1 true) com1).openWith (some ⟨0⟩) 9600 = .ok port ∧
    (finishing h port).foldl step (opening h port) = b ∧ b.Exact ∧
    b.journal.reported = [⟨0, 0⟩] ∧ b.journal.started.map (·.owner) = [⟨0, 0⟩, ⟨2, 0⟩] ∧
    b.journal.accepted = b.journal.started ∧
    b.journal.device.port.uart.transmitted = #[0x6F, 0x6B, 0x6F] ∧
    b.journal.device.records = [] ∧ b.others.length = 2 := by
  have ends : (Heap.create 1000).toOption.any fun h =>
      ((SerialPort.create (.create com1 true) com1).openWith (some ⟨0⟩) 9600).toOption.any
        fun port =>
          let b := (finishing h port).foldl step (opening h port)
          b.journal.reported = [⟨0, 0⟩] ∧ b.journal.started.map (·.owner) = [⟨0, 0⟩, ⟨2, 0⟩] ∧
            b.journal.accepted = b.journal.started ∧
            b.journal.device.port.uart.transmitted = #[0x6F, 0x6B, 0x6F] ∧
            b.journal.device.records = [] ∧ b.others.length = 2 := by decide +kernel
  obtain ⟨h, created, ends⟩ := ok_of_any ends
  obtain ⟨port, opened, seen⟩ := ok_of_any ends
  have exact := exact_steps created .serial ⟨0⟩ port
    (Shared.empty.addBuffer (.forWrite [0x6F, 0x6B])).2 (finishing h port)
  exact ⟨h, port, _, created, opened, rfl, exact, of_decide_eq_true seen⟩

end Books

end TrapKernel
