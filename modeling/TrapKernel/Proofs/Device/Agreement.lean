import TrapKernel.Proofs.Device.Order
import TrapKernel.Proofs.Serial.Progress

/-!
# The device and its driver agree

A device and its driver share a flag, and nothing else tells the device what became of the transfer
in flight. `Device.Agrees` says that the flag is right: while it is lowered, the driver works on the
transfer in flight, and once it is raised, the driver has nothing to do.

A `Logbook` counts the transfers that the driver refused or completed. The flag was raised as often.
-/

namespace TrapKernel

open SerialPort

namespace Device

variable {d d' : Device} {s s' : Shared} {m m' : Memory} {t : Transfer} {how : Submitted}

/-- What the transfer in flight, the flag and the driver may be at the same time. -/
inductive Phase (d : Device) (s : Shared) : Prop where
  | nothing (active : d.active = none) (idle : d.port.Idle)
  | works (t : Transfer) (active : d.active = some t) (lowered : (s.flag d.event).isSet = false)
      (works : d.port.WorksOn t.direction t.buffer)
  | ended (t : Transfer) (active : d.active = some t) (raised : (s.flag d.event).isSet = true)
      (idle : d.port.Idle)

/-- The driver raises the flag of the device, and the flag is right. -/
structure Agrees (d : Device) (s : Shared) : Prop where
  flagged : d.port.Flagged d.event
  phase : d.Phase s

/-- What the driver answers to a transfer that it is handed. -/
def answer (d : Device) (s : Shared) (t : Transfer) : Except TransferError (SerialPort × Shared) :=
  d.port.transfer (s.modifyFlag d.event (·.clear)) t.direction t.buffer

/-- Why the driver refuses a transfer, if it does. -/
def refusal (d : Device) (s : Shared) (t : Transfer) : Option TransferError :=
  match d.answer s t with
  | .ok _ => none
  | .error e => some e

/-- The transfer ends as soon as it is handed over: it is refused, or completed at once. -/
def endsAtOnce (d : Device) (s : Shared) (t : Transfer) : Bool :=
  match d.answer s t with
  | .ok (port, _) => port.Idle
  | .error _ => true

namespace Agrees

theorem settled (h : d.Agrees s) : d.port.Settled := by
  cases h.phase with
  | nothing active idle => exact Or.inl idle
  | works t active lowered works => exact Or.inr ⟨_, _, works⟩
  | ended t active raised idle => exact Or.inl idle

/-- The driver has nothing to do when a transfer may be started. -/
theorem idle (h : d.Agrees s) (free : d.active = none ∨ (s.flag d.event).isSet = true) :
    d.port.Idle := by
  cases h.phase with
  | nothing active idle => exact idle
  | works t active lowered works =>
    rcases free with none | raised
    · rw [active] at none
      cases none
    · rw [lowered] at raised
      cases raised
  | ended t active raised idle => exact idle

/-- The flags are what matters, not the buffers. -/
theorem congr (h : d.Agrees s) (flags : s'.flags = s.flags) : d.Agrees s' := by
  have flag : s'.flag d.event = s.flag d.event := by rw [Shared.flag, Shared.flag, flags]
  refine ⟨h.flagged, ?_⟩
  cases h.phase with
  | nothing active idle => exact .nothing active idle
  | works t active lowered works => exact .works t active (by rw [flag, lowered]) works
  | ended t active raised idle => exact .ended t active (by rw [flag, raised]) idle

/-- What happens on the line does not matter before an interrupt is taken. -/
theorem line (h : d.Agrees s) (uart : Uart) :
    Agrees { d with port := { d.port with uart } } s := by
  refine ⟨h.flagged, ?_⟩
  cases h.phase with
  | nothing active idle => exact .nothing active idle
  | works t active lowered works =>
    have on := GoesOn.frame d.port uart d.port.ring s
    exact .works t active lowered (on.worksOn.mpr works)
  | ended t active raised idle => exact .ended t active raised idle

/-- Which transfers wait does not matter. -/
theorem waiting (h : d.Agrees s) (waiting : List WaitingTransfer) :
    Agrees { d with waiting } s := by
  refine ⟨h.flagged, ?_⟩
  cases h.phase with
  | nothing active idle => exact .nothing active idle
  | works t active lowered works => exact .works t active lowered works
  | ended t active raised idle => exact .ended t active raised idle

/-- A driver that has nothing to do is handed a transfer. Afterwards it works on it, or the flag was
raised once. -/
theorem start (flagged : d.port.Flagged d.event) (idle : d.port.Idle) (s : Shared) (t : Transfer) :
    Agrees (d.start s t).1 (d.start s t).2 ∧
      ((d.start s t).1.port.Idle ↔ d.endsAtOnce s t = true) ∧
      ((d.start s t).2.flag d.event).timesRaised =
        (s.flag d.event).timesRaised + if d.endsAtOnce s t then 1 else 0 := by
  rcases d.start_cases s t with ⟨port, s', taken, eq⟩ | ⟨e, refused, eq⟩
  · have ends : d.endsAtOnce s t = decide port.Idle := by rw [endsAtOnce, answer, taken]
    obtain ⟨-, isOpen, event, outcome⟩ := transfer_ok flagged taken
    have flagged' : port.Flagged d.event := fun open' => event.trans (flagged (isOpen ▸ open'))
    rw [eq, ends]
    simp only [Shared.flag_modifyFlag, if_true] at outcome
    rcases outcome with ⟨works, flag⟩ | ⟨idle', flag, -⟩
    · refine ⟨⟨flagged', .works t rfl ?_ works⟩, by simp, ?_⟩
      · simp only [flag, EventFlag.clear]
      · simp only [flag, EventFlag.clear, decide_eq_true_eq, if_neg works.not_idle, Nat.add_zero]
    · refine ⟨⟨flagged', .ended t rfl ?_ idle'⟩, by simp, ?_⟩
      · simp only [flag, EventFlag.raise]
      · simp only [flag, EventFlag.raise, EventFlag.clear, decide_eq_true_eq, if_pos idle']
  · have ends : d.endsAtOnce s t = true := by rw [endsAtOnce, answer, refused]
    rw [eq, ends]
    refine ⟨⟨flagged, .ended t rfl ?_ idle⟩, iff_of_true idle rfl, ?_⟩
    · simp [Shared.flag_modifyFlag, EventFlag.raise]
    · simp [Shared.flag_modifyFlag, Shared.modifyBuffer, EventFlag.raise, EventFlag.clear]

theorem submit (h : d.Agrees s) (done : d.submit s m t = .ok (how, d', s', m')) :
    d'.Agrees s' := by
  rcases (submit_ok done).2 with ⟨-, free, started, -⟩ | ⟨-, -, rfl, record, -, rfl⟩
  · have after := start h.flagged (h.idle (Or.inl free)) s t
    rw [started] at after
    exact after.1
  · exact h.waiting _

theorem checkCompletion (h : d.Agrees s) (m : Memory) :
    Agrees (d.checkCompletion s m).2.1 (d.checkCompletion s m).2.2.1 := by
  rcases d.checkCompletion_cases s m with ⟨-, eq⟩ |
    ⟨finished, raised, active, ⟨waiting, eq⟩ | ⟨next, rest, waiting, eq⟩⟩
  · rw [eq]
    exact h
  · rw [eq]
    exact ⟨h.flagged, .nothing rfl (h.idle (Or.inr raised))⟩
  · rw [eq]
    exact (start (d := { d with active := none, waiting := rest }) h.flagged
      (h.idle (Or.inr raised)) s next.transfer).1

/-- Interrupts are taken. -/
theorem serves {port : SerialPort} (h : d.Agrees s) (served : Serves d.event d.port port s s') :
    Agrees { d with port } s' := by
  refine ⟨served.flagged h.flagged, ?_⟩
  rcases served with on | ⟨direction, id, ends⟩
  · have flag := on.flag d.event
    cases h.phase with
    | nothing active idle => exact .nothing active (on.status.trans idle)
    | works t active lowered works =>
      exact .works t active (by rw [flag, lowered]) (on.worksOn.mpr works)
    | ended t active raised idle =>
      exact .ended t active (by rw [flag, raised]) (on.status.trans idle)
  · cases h.phase with
    | nothing active idle => exact absurd idle ends.works.not_idle
    | works t active lowered works =>
      exact .ended t active (by rw [ends.flag]; rfl) ends.idle
    | ended t active raised idle => exact absurd idle ends.works.not_idle

end Agrees

end Device

/-! ### Counting -/

/-- A journal, and what the driver made of the transfers that it was handed. -/
structure Logbook where
  journal : Journal
  /-- For each of them, why it was refused, if it was. -/
  answers : List (Option TransferError)
  /-- How many of them were refused or completed. -/
  finished : Nat

/-- Something that happens while only the device and the handler of its interrupt use the driver. -/
inductive LogbookEvent where
  | call (c : DeviceCall)
  /-- An interrupt is taken, whether the line is asserted or not. -/
  | interrupt
  /-- Interrupts are taken for as long as the line is asserted. -/
  | service
  /-- Something happens on the line, and others use the buffers and the memory. -/
  | outside (uart : Uart) (buffers : Cells Buffer) (memory : Memory)

namespace Logbook

variable {b : Logbook} {before : Nat}

/-- The logbook after a call. What the call handed to the driver is answered, and may end at
once. -/
def call (b : Logbook) (c : DeviceCall) : Logbook :=
  let journal := b.journal.call c
  let handed := journal.started.drop b.journal.started.length
  { journal
    answers := b.answers ++ handed.map (b.journal.device.refusal b.journal.shared)
    finished := b.finished + handed.countP (b.journal.device.endsAtOnce b.journal.shared) }

/-- The logbook after interrupts. A transfer was completed if the driver has nothing to do any
more. -/
def interrupted (b : Logbook) (port : SerialPort) (shared : Shared) : Logbook :=
  { b with
    journal := { b.journal with device := { b.journal.device with port }, shared }
    finished := b.finished + if ¬ b.journal.device.port.Idle ∧ port.Idle then 1 else 0 }

/-- The logbook after an event. -/
def step (b : Logbook) : LogbookEvent → Logbook
  | .call c => b.call c
  | .interrupt =>
    let (_, port, shared) := b.journal.device.port.handleInterrupt b.journal.shared
    b.interrupted port shared
  | .service =>
    let (_, port, shared) := b.journal.device.port.serviceInterrupts b.journal.shared
    b.interrupted port shared
  | .outside uart buffers memory => { b with
      journal := { b.journal with
        device.port := { b.journal.device.port with uart }
        shared := { b.journal.shared with buffers }
        memory } }

/-- A call hands no transfer to the driver, or one while the driver has nothing to do. -/
theorem call_cases {j : Journal} (agrees : j.device.Agrees j.shared) (c : DeviceCall) :
    (j.call c).device.event = j.device.event ∧
      ((j.call c).started = j.started ∧ (j.call c).shared = j.shared ∧
          (j.call c).device.port = j.device.port ∧ (j.call c).device.Agrees j.shared ∨
        ∃ (t : Transfer) (d : Device), (j.call c).started = j.started ++ [t] ∧
          j.device.port.Idle ∧ d.port = j.device.port ∧ d.event = j.device.event ∧
          d.start j.shared t = ((j.call c).device, (j.call c).shared)) := by
  cases c with
  | submit t =>
    cases done : j.device.submit j.shared j.memory t with
    | error e =>
      rw [Journal.call_refused done]
      exact ⟨rfl, Or.inl ⟨rfl, rfl, rfl, agrees⟩⟩
    | ok result =>
      obtain ⟨how, d, s, m⟩ := result
      rw [Journal.call_submitted done]
      rcases (Device.submit_ok done).2 with ⟨rfl, free, started, -⟩ | ⟨rfl, -, rfl, record, -, rfl⟩
      · have event : d.event = j.device.event := by
          rw [← Device.event_start j.device j.shared t, started]
        exact ⟨event, Or.inr ⟨t, j.device, rfl, agrees.idle (Or.inl free), rfl, rfl, started⟩⟩
      · exact ⟨rfl, Or.inl ⟨rfl, rfl, rfl, agrees.waiting _⟩⟩
  | checkCompletion =>
    have after := agrees.checkCompletion j.memory
    rcases j.device.checkCompletion_cases j.shared j.memory with ⟨-, eq⟩ |
      ⟨finished, raised, active, ⟨waiting, eq⟩ | ⟨next, rest, waiting, eq⟩⟩
    · rw [Journal.call_nothing eq]
      exact ⟨rfl, Or.inl ⟨rfl, rfl, rfl, agrees⟩⟩
    · rw [Journal.call_reported eq]
      rw [eq] at after
      exact ⟨rfl, Or.inl ⟨List.append_nil _, rfl, rfl, after⟩⟩
    · rw [Journal.call_reported eq]
      refine ⟨Device.event_start _ _ _, Or.inr ⟨next.transfer,
        { j.device with active := none, waiting := rest }, ?_, agrees.idle (Or.inr raised), rfl,
        rfl, rfl⟩⟩
      rw [Device.active_start]
      rfl
  | cancel owner =>
    rw [Journal.call, Device.cancel_eq]
    exact ⟨rfl, Or.inl ⟨rfl, rfl, rfl, agrees.waiting _⟩⟩

/-- The device and its driver agree, every transfer but the one that the driver works on has
finished, and the flag was raised for each of those. -/
structure Kept (before : Nat) (b : Logbook) : Prop where
  order : b.journal.InOrder
  agrees : b.journal.device.Agrees b.journal.shared
  done : b.journal.device.port.Idle → b.finished = b.journal.started.length
  working : ¬ b.journal.device.port.Idle → b.finished + 1 = b.journal.started.length
  raised : (b.journal.shared.flag b.journal.device.event).timesRaised = before + b.finished
  answered : b.answers.length = b.journal.started.length
  neverBusy : some .busy ∉ b.answers

namespace Kept

theorem call (hb : b.Kept before) (c : DeviceCall) : (b.call c).Kept before := by
  have order := hb.order.call c
  obtain ⟨event, outcome⟩ := call_cases hb.agrees c
  rcases outcome with ⟨started, shared, port, agrees⟩ |
    ⟨t, d, started, idle, port, sameEvent, handed⟩
  · have nothing : (b.journal.call c).started.drop b.journal.started.length = [] := by
      rw [started, List.drop_length]
    simp only [Logbook.call, nothing, List.map_nil, List.append_nil, List.countP_nil, Nat.add_zero]
    refine ⟨order, shared ▸ agrees, ?_, ?_, ?_, ?_, hb.neverBusy⟩
    · simp only [port, started]
      exact hb.done
    · simp only [port, started]
      exact hb.working
    · simp only [shared, event]
      exact hb.raised
    · simp only [started]
      exact hb.answered
  · have single : (b.journal.call c).started.drop b.journal.started.length = [t] := by
      rw [started, List.drop_left' rfl]
    have flagged : d.port.Flagged d.event := by
      rw [port, sameEvent]
      exact hb.agrees.flagged
    -- the driver sees the same port and the same flag whatever waits
    have answer : d.answer b.journal.shared t = b.journal.device.answer b.journal.shared t := by
      rw [Device.answer, Device.answer, port, sameEvent]
    have ends : d.endsAtOnce b.journal.shared t =
        b.journal.device.endsAtOnce b.journal.shared t := by
      rw [Device.endsAtOnce, Device.endsAtOnce, answer]
    obtain ⟨agrees, ended, raised⟩ :=
      Device.Agrees.start flagged (port ▸ idle) b.journal.shared t
    rw [handed] at agrees ended raised
    rw [ends] at ended raised
    have done := hb.done idle
    simp only [Logbook.call, single, List.map_cons, List.map_nil, List.countP_singleton]
    refine ⟨order, agrees, ?_, ?_, ?_, ?_, ?_⟩
    · intro idle'
      simp only [ended.mp idle', started, List.length_append, List.length_singleton, done, if_true]
    · intro works
      have goesOn := fun atOnce => works (ended.mpr atOnce)
      simp only [started, List.length_append, List.length_singleton, done, if_neg goesOn,
        Nat.add_zero]
    · simp only [event]
      rw [← sameEvent, raised, sameEvent, hb.raised, Nat.add_assoc]
    · simp only [started, List.length_append, List.length_singleton, hb.answered]
    · intro busy
      rcases List.mem_append.mp busy with busy | busy
      · exact hb.neverBusy busy
      · have refused := List.mem_singleton.mp busy
        rw [Device.refusal] at refused
        cases answered : b.journal.device.answer b.journal.shared t with
        | ok result =>
          rw [answered] at refused
          cases refused
        | error e =>
          rw [answered] at refused
          cases refused
          exact transfer_ne_busy idle _ _ _ answered

theorem interrupted {port : SerialPort} {shared : Shared} (hb : b.Kept before)
    (served : Serves b.journal.device.event b.journal.device.port port b.journal.shared shared) :
    (b.interrupted port shared).Kept before := by
  have agrees := hb.agrees.serves served
  rcases served with on | ⟨direction, id, ends⟩
  · have same : port.Idle ↔ b.journal.device.port.Idle := by
      rw [SerialPort.Idle, SerialPort.Idle, on.status]
    have noEnd : ¬ (¬ b.journal.device.port.Idle ∧ port.Idle) :=
      fun both => both.1 (same.mp both.2)
    simp only [Logbook.interrupted, if_neg noEnd, Nat.add_zero]
    refine ⟨hb.order.frame _ _ _, agrees, fun idle => hb.done (same.mp idle),
      fun works => hb.working fun idle => works (same.mpr idle), ?_, hb.answered, hb.neverBusy⟩
    simp only [on.flag]
    exact hb.raised
  · have works := ends.works.not_idle
    simp only [Logbook.interrupted, if_pos (And.intro works ends.idle)]
    refine ⟨hb.order.frame _ _ _, agrees, fun _ => hb.working works,
      fun works' => absurd ends.idle works', ?_, hb.answered, hb.neverBusy⟩
    simp only [ends.flag, EventFlag.raise, hb.raised, Nat.add_assoc]

theorem step (hb : b.Kept before) (e : LogbookEvent) : (b.step e).Kept before := by
  have settled := hb.agrees.settled
  have flagged := hb.agrees.flagged
  cases e with
  | call c => exact hb.call c
  | interrupt => exact hb.interrupted (handleInterrupt_serves settled flagged _)
  | service => exact hb.interrupted (serviceInterrupts_serves settled flagged _)
  | outside uart buffers memory =>
    refine ⟨hb.order.frame _ _ _, ?_, hb.done, hb.working, hb.raised, hb.answered, hb.neverBusy⟩
    exact (hb.agrees.line uart).congr rfl

theorem steps (hb : b.Kept before) (events : List LogbookEvent) :
    (events.foldl Logbook.step b).Kept before := by
  induction events generalizing b with
  | nil => exact hb
  | cons e events ih => exact ih (hb.step e)

end Kept

/-- What can be seen of a device and its driver that use the same flag. `before` is how often the
flag had been raised when they began. -/
structure Agreement (before : Nat) (b : Logbook) : Prop where
  /-- The driver is busy exactly while a transfer is in flight and the flag is lowered. -/
  busy : b.journal.device.port.status ≠ .idle ↔ b.journal.device.isBusy = true ∧
    (b.journal.shared.flag b.journal.device.event).isSet = false
  /-- Then it reads or writes the buffer of that transfer. -/
  works : ∀ t, b.journal.device.active = some t →
    (b.journal.shared.flag b.journal.device.event).isSet = false →
      b.journal.device.port.status = t.direction.status ∧
        (b.journal.device.port.progress t.direction).buffer = some t.buffer
  /-- What was handed to the driver: the transfers that were reported, then the one in flight. -/
  handed : ∃ ended, ended.map (·.owner) = b.journal.reported ∧
    b.journal.started = ended ++ b.journal.device.active.toList
  /-- An owner is reported exactly when its transfer is in flight and everything that was handed to
  the driver has finished. -/
  reports : ∀ owner,
    (b.journal.device.checkCompletion b.journal.shared b.journal.memory).1 = some owner ↔
      b.journal.device.activeOwner = some owner ∧ b.finished = b.journal.started.length
  answered : b.answers.length = b.journal.started.length
  neverBusy : some .busy ∉ b.answers
  raised : (b.journal.shared.flag b.journal.device.event).timesRaised = before + b.finished

theorem Kept.agreement (hb : b.Kept before) : b.Agreement before := by
  obtain ⟨ended, started, owners⟩ := hb.order.started
  refine ⟨?_, ?_, ⟨ended, owners, started⟩, ?_, hb.answered, hb.neverBusy, hb.raised⟩
  · cases hb.agrees.phase with
    | nothing active idle => simp [Device.isBusy, active, show _ = _ from idle]
    | works t active lowered works =>
      refine iff_of_true works.not_idle ⟨?_, lowered⟩
      rw [Device.isBusy, active]
      rfl
    | ended t active raised idle => simp [raised, show _ = _ from idle]
  · intro t inFlight lowered
    cases hb.agrees.phase with
    | nothing active idle =>
      rw [active] at inFlight
      cases inFlight
    | works t' active lowered works =>
      obtain rfl := Option.some.inj (active.symm.trans inFlight)
      exact ⟨works.status, works.buffer⟩
    | ended t' active raised idle =>
      rw [raised] at lowered
      cases lowered
  · intro owner
    rw [Device.checkCompletion_eq_some, Device.activeOwner, Option.map_eq_some_iff]
    cases hb.agrees.phase with
    | nothing active idle => simp [active]
    | works t active lowered works =>
      have working := hb.working works.not_idle
      refine iff_of_false ?_ ?_
      · rintro ⟨-, raised, -⟩
        rw [lowered] at raised
        cases raised
      · rintro ⟨-, all⟩
        omega
    | ended t active raised idle =>
      constructor
      · rintro ⟨t', -, inFlight, own⟩
        exact ⟨⟨t', inFlight, own⟩, hb.done idle⟩
      · rintro ⟨⟨t', inFlight, own⟩, -⟩
        exact ⟨t', raised, inFlight, own⟩

/-- Nothing was handed to the driver yet. -/
def initial (device : Device) (shared : Shared) (memory : Memory) : Logbook :=
  ⟨.initial device shared memory, [], 0⟩

/-- A new device that shares its flag with an idle port agrees with the driver, whatever happens. -/
theorem agreement_steps {port : SerialPort} {event : FlagId} (idle : port.Idle)
    (flagged : port.Flagged event) (id : DeviceId) (shared : Shared) (memory : Memory)
    (events : List LogbookEvent) :
    (events.foldl step (initial (.create id event port) shared memory)).Agreement
      (shared.flag event).timesRaised := by
  have start : Kept (shared.flag event).timesRaised
      (initial (.create id event port) shared memory) := by
    refine ⟨.initial id event port shared memory, ⟨flagged, .nothing rfl idle⟩, fun _ => rfl,
      fun works => absurd idle works, rfl, rfl, nofun⟩
  exact (start.steps events).agreement

/-- Two bytes to send, and room for eight. -/
def errandBuffers : Shared :=
  ((Shared.empty.addBuffer (.forWrite [0x6F, 0x6B])).2.addBuffer (.forRead 8)).2

/-- The first process writes; the second one waits for the driver and then reads, while the third
one is gone before its turn comes. -/
def errands : List LogbookEvent :=
  [.call (.submit ⟨.write, .serial, ⟨0⟩, ⟨0, 0⟩⟩), .call (.submit ⟨.read, .serial, ⟨1⟩, ⟨1, 0⟩⟩),
    .call (.submit ⟨.write, .serial, ⟨0⟩, ⟨2, 0⟩⟩), .interrupt, .call (.cancel ⟨2, 0⟩), .service,
    .call .checkCompletion, .interrupt]

/-- What was written came back on the looped line: the write has ended, and the read has stored two
bytes and is at work. -/
theorem agreement_steps_com1 : ∃ port b,
    (SerialPort.create (.create com1 true) com1).openWith (some ⟨0⟩) 9600 = .ok port ∧
      errands.foldl step
        (initial (.create .serial ⟨0⟩ port) errandBuffers (.bump (.create 100))) = b ∧
      b.Agreement (errandBuffers.flag ⟨0⟩).timesRaised ∧
      b.journal.device.port.status = .reading ∧ b.journal.reported = [⟨0, 0⟩] ∧
      b.answers.map (·.isSome) = [false, false] ∧ b.finished = 1 ∧
      (b.journal.shared.flag ⟨0⟩).timesRaised = 1 ∧
      (b.journal.shared.buffer ⟨1⟩).data.take 2 = [0x6F, 0x6B] := by
  have ends : ((SerialPort.create (.create com1 true) com1).openWith (some ⟨0⟩) 9600).toOption.any
      (fun port =>
        let b := errands.foldl step
          (initial (.create .serial ⟨0⟩ port) errandBuffers (.bump (.create 100)))
        b.journal.device.port.status = .reading ∧ b.journal.reported = [⟨0, 0⟩] ∧
          b.answers.map (·.isSome) = [false, false] ∧ b.finished = 1 ∧
          (b.journal.shared.flag ⟨0⟩).timesRaised = 1 ∧
          (b.journal.shared.buffer ⟨1⟩).data.take 2 = [0x6F, 0x6B]) := by decide +kernel
  obtain ⟨port, opened, seen⟩ := ok_of_any ends
  have agreement := agreement_steps (openWith_idle opened).2.1 (openWith_flagged opened) .serial
    errandBuffers (.bump (.create 100)) errands
  exact ⟨port, _, opened, rfl, agreement, of_decide_eq_true seen⟩

end Logbook

end TrapKernel
