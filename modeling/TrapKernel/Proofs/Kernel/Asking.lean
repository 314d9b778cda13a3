import TrapKernel.Proofs.Device.Ending
import TrapKernel.Proofs.Device.Transfers
import TrapKernel.Proofs.Kernel.Steps
import TrapKernel.Proofs.Process.Waiting

/-!
# What a trap asks for

The first half of a trap is settled by what the process that trapped asks for. `Kernel.ask` reads
that off the kernel before the trap, and `Kernel.enter_eq` says what the trap then does. The second
half begins with a look at the device, which `Kernel.poll_cases` describes.
-/

namespace TrapKernel

/-- What a trap may ask for. -/
inductive Ask where
  /-- No process ran: the code that booted the kernel is back. -/
  | nothing
  /-- The kernel cannot act on the request of this process. -/
  | invalid (id : ProcessId) (fatal : Fatal)
  | yields (id : ProcessId)
  | exits (id : ProcessId)
  /-- The owner of the transfer asks for it. -/
  | transfers (t : Transfer)

namespace Ask

/-- The process that trapped. -/
def process : Ask → Option ProcessId
  | nothing => none
  | invalid id _ | yields id | exits id => some id
  | transfers t => some t.owner

end Ask

namespace Kernel

open Registry ProcessTable

variable {k : Kernel}

/-- What the next trap asks for. -/
def ask (k : Kernel) : Ask :=
  match k.running with
  | none => .nothing
  | some id =>
    match k.slot.pending with
    | none => .invalid id (.invalidRequest none)
    | some r =>
      match Operation.ofCode? r.code with
      | none => .invalid id (.invalidRequest (some r.code))
      | some .idle => .yields id
      | some .exit => .exits id
      | some .read => transfer id r .read
      | some .write => transfer id r .write
where
  /-- A request for a transfer needs a buffer. -/
  transfer (id : ProcessId) (r : Request) (direction : Direction) : Ask :=
    match r.buffer with
    | none => .invalid id (.invalidRequest (some r.code))
    | some buffer => .transfers ⟨direction, r.device, buffer, id⟩

/-- The kernel once it took the request of the process that trapped. -/
def inside (k : Kernel) : Kernel := { k with slot := .empty, running := none }

theorem ask_process (k : Kernel) : k.ask.process = k.running := by
  unfold ask
  cases k.running with
  | none => rfl
  | some id =>
    cases k.slot.pending with
    | none => rfl
    | some r =>
      simp only []
      cases Operation.ofCode? r.code with
      | none => rfl
      | some operation =>
        cases operation with
        | idle => rfl
        | exit => rfl
        | read =>
          simp only [ask.transfer]
          cases r.buffer <;> rfl
        | write =>
          simp only [ask.transfer]
          cases r.buffer <;> rfl

theorem actOnTransfer_eq (id : ProcessId) (r : Request) (direction : Direction) (saved : Context) :
    k.actOnTransfer id r direction saved = match ask.transfer id r direction with
      | .transfers t =>
        let (kept, k) := k.startTransfer t.owner t.direction t.device t.buffer saved
        (.ok kept, k)
      | _ => k.halt (.invalidRequest (some r.code)) := by
  unfold actOnTransfer ask.transfer
  cases r.buffer <;> rfl

/-- A trap acts on what it asks for. -/
theorem enter_eq (k : Kernel) (saved : Context) : k.enter saved = match k.ask with
    | .nothing => (.ok none, { k.inside with bootContext := some saved })
    | .invalid _ fatal => k.inside.halt fatal
    | .yields id => (.ok (some id), k.inside.save id saved)
    | .exits id => (.ok none, k.inside.exit id)
    | .transfers t =>
      let (kept, k) := k.inside.startTransfer t.owner t.direction t.device t.buffer saved
      (.ok kept, k) := by
  unfold enter ask
  cases running : k.running with
  | none =>
    cases k
    cases running
    rfl
  | some id =>
    cases pending : k.slot.pending with
    | none =>
      simp only [RequestSlot.take, pending, act]
      rfl
    | some r =>
      simp only [RequestSlot.take, pending, act]
      cases Operation.ofCode? r.code with
      | none => rfl
      | some operation =>
        cases operation with
        | idle => rfl
        | exit => rfl
        | read =>
          simp only [actOnTransfer_eq, ask.transfer]
          cases r.buffer <;> rfl
        | write =>
          simp only [actOnTransfer_eq, ask.transfer]
          cases r.buffer <;> rfl

/-- The transfer that the next trap asks for, if the device accepts it. -/
def accepting (k : Kernel) : Option Transfer :=
  match k.halted, k.ask with
  | none, .transfers t =>
    match k.device.submit k.shared k.memory t with
    | .ok _ => some t
    | .error _ => none
  | _, _ => none

/-- The next trap ends a process. -/
def exiting (k : Kernel) : Bool :=
  match k.halted, k.ask with
  | none, .exits _ => true
  | _, _ => false

/-- What has become of the transfer that the next trap finds finished, if it finds one. -/
def finishing (k : Kernel) (saved : Context) : Option Ending :=
  match k.halted, k.enter saved with
  | none, (.ok _, k') => k'.device.ended k'.shared
  | _, _ => none

/-- Nothing has ended, or the transfer in flight has, and its owner is released if it is there. -/
theorem poll_cases (k : Kernel) :
    k.device.ended k.shared = none ∧ k.poll = k ∨
      ∃ t registry, k.device.active = some t ∧
        k.device.ended k.shared = some (k.device.ending k.shared t) ∧
        (k.device.checkCompletion k.shared k.memory).1 = some t.owner ∧
        k.poll = { k with
          device := (k.device.checkCompletion k.shared k.memory).2.1
          shared := (k.device.checkCompletion k.shared k.memory).2.2.1
          memory := (k.device.checkCompletion k.shared k.memory).2.2.2
          registry } ∧
        ((∃ b, k.registry.release t.owner = .ok (b, registry)) ∨
          (∃ e, k.registry.release t.owner = .error e) ∧ registry = k.registry) := by
  cases answer : (k.device.checkCompletion k.shared k.memory).1 with
  | none =>
    left
    rcases k.device.checkCompletion_cases k.shared k.memory with ⟨nothing, eq⟩ |
      ⟨finished, -, -, ⟨-, eq⟩ | ⟨next, rest, -, eq⟩⟩
    · refine ⟨?_, ?_⟩
      · unfold Device.ended
        split
        · rename_i raised
          rw [nothing raised]
          rfl
        · rfl
      · unfold poll
        rw [eq]
    · rw [eq] at answer
      cases answer
    · rw [eq] at answer
      cases answer
  | some owner =>
    right
    obtain ⟨t, raised, active, rfl⟩ := Device.checkCompletion_eq_some.mp answer
    have ended : k.device.ended k.shared = some (k.device.ending k.shared t) := by
      rw [Device.ended, if_pos raised, active]
      rfl
    unfold poll
    simp only [answer]
    cases released : k.registry.release t.owner with
    | error e => exact ⟨t, k.registry, active, ended, rfl, rfl, Or.inr ⟨⟨e, released⟩, rfl⟩⟩
    | ok result => exact ⟨t, result.2, active, ended, rfl, rfl, Or.inl ⟨result.1, released⟩⟩

/-- The poll finds the transfer in flight finished. The next one is started, and the owner does not
wait any more, if he is there. -/
structure Finishes (k : Kernel) (t : Transfer) : Prop where
  active : k.device.active = some t
  prompt : k.poll.device.Prompt
  left : k.device.outstanding = t :: k.poll.device.outstanding
  rest : ∀ w ∈ k.poll.device.waiting, w ∈ k.device.waiting
  slots : k.registry.table.SameSlots k.poll.registry.table
  waits : ∀ j, k.poll.registry.waitsAt j =
    if k.registry.table.resolve t.owner = some j then false else k.registry.waitsAt j

theorem poll_finishes {id : ProcessId}
    (answer : (k.device.checkCompletion k.shared k.memory).1 = some id) :
    ∃ t, t.owner = id ∧ k.Finishes t := by
  obtain ⟨t, raised, active, rfl⟩ := Device.checkCompletion_eq_some.mp answer
  obtain ⟨prompt, finished, active', -, left⟩ := Device.outstanding_checkCompletion answer
  obtain rfl := Option.some.inj (active.symm.trans active')
  have rest : ∀ x ∈ (k.device.checkCompletion k.shared k.memory).2.1.waiting,
      x ∈ k.device.waiting := by
    intro x member
    rcases k.device.waiting_checkCompletion k.shared k.memory with
      ⟨same, -⟩ | ⟨next, rest, before, after, -⟩
    · exact same ▸ member
    · rw [before]
      exact List.mem_cons_of_mem next (after ▸ member)
  rcases k.poll_cases with ⟨ended, -⟩ | ⟨t', r, active', -, -, eq, released⟩
  · rw [Device.ended, if_pos raised, active] at ended
    cases ended
  obtain rfl := Option.some.inj (active.symm.trans active')
  obtain ⟨slots, waits⟩ : k.registry.table.SameSlots r.table ∧
      ∀ j, r.waitsAt j = if k.registry.table.resolve t.owner = some j then false
        else k.registry.waitsAt j := by
    rcases released with ⟨b, done⟩ | ⟨⟨e, failed⟩, rfl⟩
    · exact waitsAt_release done
    · refine ⟨(Rewired.refl _).toSameSlots, fun j => ?_⟩
      split
      · rename_i resolved
        exact not_waits_of_release_error failed resolved
      · rfl
  refine ⟨t, rfl, active, ?_, ?_, ?_, ?_, ?_⟩
  all_goals rw [eq]
  · exact prompt
  · exact left
  · exact rest
  · exact slots
  · exact waits

/-- Otherwise it changes nothing. -/
theorem poll_unfinished (answer : (k.device.checkCompletion k.shared k.memory).1 = none) :
    k.poll = k := by
  rcases k.poll_cases with ⟨-, eq⟩ | ⟨t, r, -, -, answer', -⟩
  · exact eq
  · rw [answer] at answer'
    cases answer'

end Kernel

end TrapKernel
