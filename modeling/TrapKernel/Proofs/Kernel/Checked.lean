import TrapKernel.Proofs.Device.Supplied
import TrapKernel.Proofs.Kernel.Diary
import TrapKernel.Proofs.Kernel.Lasting
import TrapKernel.Proofs.Kernel.Serving

/-!
# A request that was checked is good for the driver

A request for a transfer is checked twice: before it is left in the slot, and by the driver when the
transfer is started, which may be many traps later. As long as the port is left alone, and every
transfer has a buffer of its own that nobody else changes, the second check never fails. So a buffer
gets no code of the driver. The device may find that there is no memory for a transfer that has to
wait, or that the request names another device; then the process that asked goes on, and nothing was
accepted.
-/

namespace TrapKernel

/-- The check of a request wants what the driver wants. -/
theorem Request.movable_of_checkBuffer {s : Shared} {id : BufferId}
    (checked : checkBuffer s (some id) = .ok ()) : (s.buffer id).Movable := by
  unfold checkBuffer at checked
  simp only [Option.map_some] at checked
  split at checked
  · cases checked
  split at checked
  · cases checked
  · rename_i fits
    obtain ⟨pos, le⟩ := not_or.mp fits
    exact ⟨Nat.pos_of_ne_zero pos, Nat.le_of_not_lt le⟩

namespace Kernel

open Registry

variable {k k' k₁ : Kernel} {c : KernelConfig} {uart : Uart} {saved : Context} {r : Request}
  {t : Transfer} {e : SubmitError} {id : BufferId} {event : KernelEvent} {d : Device} {s : Shared}

/-! ### What is asked, and what becomes of it -/

/-- The transfer that the next trap asks for. -/
def asked (k : Kernel) : Option Transfer :=
  match k.ask with
  | .transfers t => some t
  | _ => none

theorem asked_eq_some : k.asked = some t ↔ k.ask = .transfers t := by
  unfold asked
  cases k.ask <;> simp

theorem asked_of_empty (slot : k.slot = .empty) : k.asked = none := by
  unfold asked ask
  rw [slot]
  cases k.running <;> rfl

/-- The transfer that the next trap asks for, if the device does not accept it, and why. -/
def declining (k : Kernel) : Option (Transfer × SubmitError) :=
  match k.halted, k.ask with
  | none, .transfers t =>
    match k.device.submit k.shared k.memory t with
    | .ok _ => none
    | .error e => some (t, e)
  | _, _ => none

theorem declining_eq_some : k.declining = some (t, e) ↔ k.halted = none ∧ k.ask = .transfers t ∧
    k.device.submit k.shared k.memory t = .error e := by
  unfold declining
  constructor
  · intro declines
    split at declines
    · rename_i t' on asked
      split at declines
      · cases declines
      · rename_i failed
        cases declines
        exact ⟨on, asked, failed⟩
    · cases declines
  · rintro ⟨on, asked, failed⟩
    simp only [on, asked, failed]

/-- A trap hands a transfer to the driver, when the device and the buffers are in this state. -/
inductive Hands (k : Kernel) (saved : Context) : Device → Shared → Transfer → Prop where
  /-- The transfer that the trap asks for starts at once. -/
  | atOnce {t : Transfer} (accepted : k.accepting = some t) (free : k.device.active = none) :
      Hands k saved k.device k.shared t
  /-- A transfer that waits is started when the one before it has ended. -/
  | later {kept : Option ProcessId} {k₁ : Kernel} {t : Transfer} (on : k.halted = none)
      (entered : k.enter saved = (.ok kept, k₁))
      (next : k₁.device.next k₁.shared = some t) : Hands k saved k₁.device k₁.shared t

/-! ### How the kernel is used -/

/-- The event leaves a request that is not checked, closes the port or uses it directly. -/
def bypasses : KernelEvent → Bool
  | .call (.post _) | .call .shutdown | .driver .. => true
  | _ => false

/-- The kernel with the request that was left, if an event leaves one that passes its check. -/
def posting (k : Kernel) : KernelEvent → Option Kernel
  | .call (.request r) | .call (.syscall r _) => (k.request r).toOption
  | _ => none

/-- What an event makes of the buffers, if it is the processes that use them. -/
def writing : KernelEvent → Option Shared
  | .call (.outside shared _) => some shared
  | _ => none

/-- The buffers of the transfers that are posted or outstanding. -/
def lent (k : Kernel) : List BufferId := (k.asked.map (·.buffer)).toList ++ k.device.buffers

/-- The checks and the port are not bypassed, a transfer has its own buffer, and no process changes
a buffer that is lent, or the flag of the port. -/
def Proper (k : Kernel) (event : KernelEvent) : Prop :=
  bypasses event = false ∧ (∀ k' ∈ k.posting event, ∀ t ∈ k'.asked, t.buffer ∉ k.device.buffers) ∧
    ∀ s ∈ writing event, s.flag k.device.event = k.shared.flag k.device.event ∧
      ∀ id ∈ k.lent, s.buffer id = k.shared.buffer id

instance (k : Kernel) (event : KernelEvent) : Decidable (k.Proper event) :=
  inferInstanceAs (Decidable (_ ∧ (∀ k' ∈ _, ∀ t ∈ _, _) ∧ ∀ s ∈ _, _ ∧ ∀ id ∈ _, _))

/-- The kernel is used properly all the time. -/
def AllProper : Kernel → List KernelEvent → Prop
  | _, [] => True
  | k, event :: events => k.Proper event ∧ AllProper (k.step event) events

instance AllProper.decidable : (k : Kernel) → (events : List KernelEvent) →
    Decidable (AllProper k events)
  | _, [] => .isTrue trivial
  | k, event :: events =>
    have := decidable (k.step event) events
    inferInstanceAs (Decidable (_ ∧ _))

/-! ### What the kernel promises -/

/-- The device did not accept the transfer of the process that trapped, whose context was `saved`.
The process has lost nothing but the transfer. -/
structure Declined (k : Kernel) (saved : Context) (k' : Kernel) (t : Transfer) (e : SubmitError) :
    Prop where
  /-- There was no memory for a transfer that has to wait, or the request named no device. -/
  reason : (e.code = -501 ∧ k.device.isBusy = true ∧
      ∃ cause, k.memory.allocate transferRecordSize = .error cause) ∨
    e.code = -502 ∧ t.device ≠ k.device.id
  buffer : k'.shared.buffer t.buffer = (k.shared.buffer t.buffer).fail e.code
  answered : ∃ context, k.dispatch saved = (.ok context, k')
  caller : k.running = some t.owner
  /-- The process is ready or runs, and goes on where it trapped. -/
  runnable : ∃ p, k'.registry.get t.owner = some p ∧ (p.state = .ready ∨ p.state = .running) ∧
    p.context = saved
  /-- Transfers may have ended, but none was accepted. -/
  refused : k'.device.outstanding <:+ k.device.outstanding

/-- What holds of an event. -/
structure Promised (k : Kernel) (event : KernelEvent) : Prop where
  /-- The driver takes whatever it is handed. -/
  taken : ∀ x ∈ k.trapping event, ∀ d s t, x.1.Hands x.2 d s t → d.refusal s t = none
  /-- The kernel and the driver write no code, except when the device does not accept a transfer. -/
  codes : writing event = none → ∀ id,
    ((k.step event).shared.buffer id).error = (k.shared.buffer id).error ∨
      ∃ x ∈ k.trapping event, ∃ t e, x.1.declining = some (t, e) ∧ t.buffer = id
  declined : ∀ x ∈ k.trapping event, ∀ t e, x.1.declining = some (t, e) →
    x.1.Declined x.2 (k.step event) t e

/-- The same holds of one event after the other. -/
def AllPromised : Kernel → List KernelEvent → Prop
  | _, [] => True
  | k, event :: events => k.Promised event ∧ AllPromised (k.step event) events

/-! ### What is provided for -/

/-- The driver will take the transfer that is posted, and those that wait. -/
structure Provided (k : Kernel) : Prop where
  supplied : k.device.Supplied k.shared
  own : ∀ t ∈ k.asked, t.buffer ∉ k.device.buffers
  movable : ∀ t ∈ k.asked, (k.shared.buffer t.buffer).Movable

/-- A transfer that is asked for was left as a request, together with its buffer. -/
theorem asked_post (asked : (k.post r).asked = some t) :
    r.buffer = some t.buffer ∧ ∃ o, Operation.ofCode? r.code = some o ∧ o.isTransfer = true := by
  have transfer : ∀ {owner : ProcessId} {direction : Direction},
      ask.transfer owner r direction = .transfers t → r.buffer = some t.buffer := by
    intro owner direction eq
    unfold ask.transfer at eq
    split at eq
    · cases eq
    · rename_i buffer given
      cases eq
      exact given
  have asks := asked_eq_some.mp asked
  unfold ask at asks
  simp only [post, RequestSlot.post] at asks
  cases running : k.running with
  | none =>
    rw [running] at asks
    cases asks
  | some owner =>
    simp only [running] at asks
    cases known : Operation.ofCode? r.code with
    | none =>
      rw [known] at asks
      cases asks
    | some o =>
      rw [known] at asks
      cases o with
      | idle | exit => cases asks
      | read | write => exact ⟨transfer asks, _, rfl, rfl⟩

namespace Provided

theorem boot (booted : boot c uart = .ok k) : k.Provided := by
  obtain ⟨m, port, record, m₁, r, m₂, -, opened, -, -, rfl⟩ := boot_eq booted
  obtain ⟨isOpen, idle, -⟩ := SerialPort.openWith_idle opened
  exact ⟨.create idle isOpen (SerialPort.openWith_flagged opened) _ _, nofun, nofun⟩

/-- Nothing is posted. -/
theorem unasked (supplied : k.device.Supplied k.shared) (slot : k.slot = .empty) :
    k.Provided := by
  have nothing := asked_of_empty slot
  exact ⟨supplied, by rw [nothing]; exact nofun, by rw [nothing]; exact nofun⟩

/-- A request is left that passed its check. -/
theorem request (h : k.Provided) (left : k.request r = .ok k')
    (own : ∀ t ∈ k'.asked, t.buffer ∉ k.device.buffers) : k'.Provided := by
  obtain ⟨o, valid, rest⟩ := ok_of_bind left
  cases rest
  refine ⟨h.supplied, own, fun t asked => ?_⟩
  obtain ⟨buffer, o', known, moves⟩ := asked_post asked
  unfold Request.validate at valid
  rw [known, buffer] at valid
  simp only [moves, if_true] at valid
  obtain ⟨_, checked, -⟩ := ok_of_bind valid
  exact Request.movable_of_checkBuffer checked

/-! ### A trap -/

/-- The first half of a trap. -/
theorem serves (h : k.Provided) (serves : k.Serves d s) : d.Supplied s := by
  cases serves with
  | nothing => exact h.supplied
  | drops id => exact h.supplied.cancel k.memory id
  | accepts asked done =>
    have asked := asked_eq_some.mpr asked
    exact (h.supplied.submit (h.movable _ asked) (h.own _ asked) done).1
  | @declines t e asked failed =>
    have own := h.own _ (asked_eq_some.mpr asked)
    refine h.supplied.outside k.device.port.uart rfl fun id member => ?_
    rw [Shared.buffer_modifyBuffer, if_neg]
    rintro rfl
    exact own member

theorem enter (h : k.Provided) (saved : Context) :
    (k.enter saved).2.device.Supplied (k.enter saved).2.shared :=
  h.serves (k.serves_enter saved).1

theorem dispatch (h : k.Provided) (saved : Context) : (k.dispatch saved).2.Provided := by
  have supplied := h.enter saved
  have slot := (k.serves_enter saved).2
  rcases k.dispatch_phases saved with stuck | ⟨-, failed | asked⟩
  · rw [stuck]
    exact h
  · rw [failed]
    exact unasked supplied slot
  · have same := (poll_undisturbed _).trans asked
    refine unasked ?_ (same.slot.trans slot)
    rw [same.device, same.shared]
    exact (supplied.checkCompletion _).1

/-- The driver takes what it is handed in a trap. -/
theorem taken (h : k.Provided) (hands : k.Hands saved d s t) : d.refusal s t = none := by
  cases hands with
  | atOnce accepted free =>
    have asked : k.asked = some t := by
      unfold accepting at accepted
      split at accepted
      · rename_i t' on asks
        split at accepted
        · cases accepted
          exact asked_eq_some.mpr asks
        · cases accepted
      · cases accepted
    exact (h.supplied.handing free (h.movable t asked)).taken.1
  | later on entered next =>
    have supplied := h.enter saved
    rw [entered] at supplied
    exact supplied.refusal_next next

/-! ### A transfer that is not accepted -/

/-- In the first half of a trap a buffer gets a code only if the device does not accept its
transfer. -/
theorem codes_serves (h : k.Provided) (on : k.halted = none) (serves : k.Serves d s)
    (id : BufferId) : (s.buffer id).error = (k.shared.buffer id).error ∨
      ∃ t e, k.declining = some (t, e) ∧ t.buffer = id := by
  cases serves with
  | nothing => exact Or.inl rfl
  | drops => exact Or.inl rfl
  | accepts asked done =>
    have asked := asked_eq_some.mpr asked
    exact Or.inl ((h.supplied.submit (h.movable _ asked) (h.own _ asked) done).2.codes id)
  | @declines t e asked failed =>
    by_cases same : t.buffer = id
    · exact Or.inr ⟨t, e, declining_eq_some.mpr ⟨on, asked, failed⟩, same⟩
    · left
      rw [Shared.buffer_modifyBuffer, if_neg same]

theorem codes_dispatch (h : k.Provided) (saved : Context) (id : BufferId) :
    ((k.dispatch saved).2.shared.buffer id).error = (k.shared.buffer id).error ∨
      ∃ t e, k.declining = some (t, e) ∧ t.buffer = id := by
  rcases k.dispatch_phases saved with stuck | ⟨on, failed | asked⟩
  · rw [stuck]
    exact Or.inl rfl
  · rw [failed]
    exact h.codes_serves on (k.serves_enter saved).1 id
  · have same := (poll_undisturbed _).trans asked
    rw [same.shared, ((h.enter saved).checkCompletion _).2.codes id]
    exact h.codes_serves on (k.serves_enter saved).1 id

theorem enter_declines (declines : k.declining = some (t, e)) (saved : Context) :
    ∃ k₁, k.enter saved = (.ok (some t.owner), k₁) ∧ k₁.device = k.device ∧
      k₁.shared = k.shared.modifyBuffer t.buffer (·.fail e.code) := by
  obtain ⟨-, asks, failed⟩ := declining_eq_some.mp declines
  have kept := k.inside.undisturbed_save t.owner saved
  rw [enter_eq, asks]
  simp only [startTransfer_declines (k := k.inside) failed saved]
  exact ⟨_, rfl, kept.device, rfl⟩

/-- The process whose transfer is not accepted goes on, or is ready to. -/
theorem declined {diary : Diary} (kept : diary.Kept) (h : diary.kernel.Provided)
    (declines : diary.kernel.declining = some (t, e)) (saved : Context) :
    diary.kernel.Declined saved (diary.kernel.dispatch saved).2 t e := by
  obtain ⟨on, asks, failed⟩ := declining_eq_some.mp declines
  obtain ⟨k₁, entered, device, shared⟩ := enter_declines declines saved
  have own := h.own t (asked_eq_some.mpr asks)
  have supplied := h.enter saved
  have running : diary.kernel.running = some t.owner := by
    rw [← ask_process, asks]
    rfl
  -- the process contends for the processor, so the trap succeeds and the process is still there
  obtain ⟨p, got, state⟩ := (kept.rest.single on).runs t.owner running
  have sustains := sustains_iff.mpr ⟨p, got, rfl, Or.inr state⟩
  obtain ⟨half, -⟩ := enter_cases on (kept.rest.runs_running on) entered
  obtain ⟨context, k', done, sustains'⟩ :=
    kept.rest.dispatch_sustains on entered (sustains.entered half nofun)
  obtain ⟨p', got', -, state'⟩ := sustains_iff.mp sustains'
  -- the latest that was written down of it is this trap
  obtain ⟨dues, -⟩ := kept.dispatch done
  obtain ⟨past, latest, holds⟩ := dues t.owner p' got'
  have trapped : past = .trapped saved := by
    simp only [Diary.write, running, Option.map_some, Option.toList_some, List.singleton_append,
      List.lookup_cons_self, Option.some.injEq] at latest
    exact latest.symm
  subst trapped
  have same := k₁.poll_undisturbed.trans (dispatch_of_ok on entered)
  rw [entered] at supplied
  rw [done] at same ⊢
  refine ⟨?_, ?_, ⟨context, done⟩, running, ⟨p', got', state', holds.context⟩, ?_⟩
  · rcases Device.submit_error_iff.mp failed with ⟨other, rfl⟩ | ⟨-, busy, cause, full, rfl⟩
    · exact Or.inr ⟨rfl, other⟩
    · exact Or.inl ⟨rfl, busy, cause, full⟩
  · have others := (supplied.checkCompletion k₁.memory).2.others t.buffer (device ▸ own)
    rw [same.shared, others, shared, Shared.buffer_modifyBuffer, if_pos rfl]
  · rw [same.device, ← device]
    exact k₁.device.suffix_checkCompletion k₁.shared k₁.memory

/-! ### What is not a trap -/

/-- Whatever the processes do to buffers that are not lent. -/
theorem outside (h : k.Provided) {shared : Shared} (uart : Uart)
    (proper : k.Proper (.call (.outside shared uart))) :
    (k.call (.outside shared uart)).Provided := by
  obtain ⟨-, -, writes⟩ := proper
  obtain ⟨flag, kept⟩ := writes shared rfl
  refine ⟨h.supplied.outside uart flag fun id member => kept id (List.mem_append_right _ member),
    h.own, fun t asked => ?_⟩
  have lent : t.buffer ∈ k.lent :=
    List.mem_append_left _ (Option.mem_toList.mpr (Option.mem_map_of_mem _ asked))
  rw [show (k.call (.outside shared uart)).shared = shared from rfl, kept _ lent]
  exact h.movable t asked

end Provided

/-- The driver will take its transfers as before, and no code was written. -/
structure Calm (k k' : Kernel) : Prop where
  provided : k'.Provided
  codes : k.shared.SameCodes k'.shared

namespace Calm

theorem refl (h : k.Provided) : k.Calm k := ⟨h, .refl _⟩

theorem trans {k'' : Kernel} (h : k.Calm k') (h' : k'.Calm k'') : k.Calm k'' :=
  ⟨h'.provided, h.codes.trans h'.codes⟩

theorem update {ε α : Type} {result : Except ε α} {part : α → Kernel} (h : k.Provided)
    (done : ∀ a, result = .ok a → k.Calm (part a)) : k.Calm (k.update result part) := by
  cases result with
  | error e => exact refl h
  | ok a => exact done a rfl

/-- The processes, the memory and the wish to shut down have no part in it. -/
theorem frame (h : k.Provided) (registry : Registry) (memory : Memory)
    (shutdownRequested : Bool) : k.Calm { k with registry, memory, shutdownRequested } :=
  ⟨⟨h.supplied, h.own, h.movable⟩, .refl _⟩

theorem serviceInterrupts (h : k.Provided) : k.Calm k.serviceInterrupts.2 := by
  obtain ⟨supplied, confined⟩ := h.supplied.serviceInterrupts
  refine ⟨⟨supplied, h.own, fun t asked => ?_⟩, confined.codes⟩
  have kept := confined.others t.buffer (h.own t asked)
  exact kept.symm ▸ h.movable t asked

theorem cancelTransfers (h : k.Provided) (id : ProcessId) : k.Calm (k.cancelTransfers id) :=
  ⟨⟨h.supplied.cancel k.memory id, fun t asked member =>
    h.own t asked ((k.device.buffers_cancel k.memory id).subset member), h.movable⟩, .refl _⟩

/-- An event that is no trap, unless the processes use their buffers. -/
theorem call (h : k.Provided) {c : KernelCall} (proper : k.Proper (.call c))
    (quiet : k.trapping (.call c) = none) (unwritten : writing (.call c) = none) :
    k.Calm (k.call c) := by
  obtain ⟨checked, own, -⟩ := proper
  cases c with
  | dispatch saved => cases quiet
  | syscall r saved =>
    cases left : k.request r with
    | ok k' =>
      rw [trapping, left] at quiet
      cases quiet
    | error e =>
      have stays : k.call (.syscall r saved) = k := by
        simp only [Kernel.call, Kernel.syscall, left]
      rw [stays]
      exact refl h
  | request r =>
    refine update h fun k' left => ⟨h.request left (own k' ?_), ?_⟩
    · rw [posting, left]
      rfl
    · rw [request_ok left]
      exact .refl _
  | post r => cases checked
  | serviceInterrupts => exact serviceInterrupts h
  | create name owner priority =>
    refine update h fun result done => ?_
    obtain ⟨id, r, m, -, rfl⟩ := create_ok done
    exact frame h r m k.shutdownRequested
  | load name owner priority entry =>
    refine update h fun result done => ?_
    obtain ⟨id, r, m, -, rfl⟩ := load_ok done
    exact frame h r m k.shutdownRequested
  | delete name =>
    refine update h fun result done => ?_
    obtain ⟨id, r, m, -, rfl⟩ := delete_ok done
    have gone := frame h r m k.shutdownRequested
    exact gone.trans (cancelTransfers gone.provided id)
  | block name =>
    refine update h fun result done => ?_
    obtain ⟨b, r, -, rfl⟩ := block_ok done
    exact frame h r k.memory k.shutdownRequested
  | unblock name =>
    refine update h fun result done => ?_
    obtain ⟨b, r, -, rfl⟩ := unblock_ok done
    exact frame h r k.memory k.shutdownRequested
  | suspend name => exact frame h _ k.memory k.shutdownRequested
  | resume name => exact frame h _ k.memory k.shutdownRequested
  | resumeAll => exact frame h _ k.memory k.shutdownRequested
  | setPriority name priority =>
    refine update h fun result done => ?_
    obtain ⟨r, -, rfl⟩ := setPriority_ok done
    exact frame h r k.memory k.shutdownRequested
  | requestShutdown => exact frame h k.registry k.memory true
  | shutdown => cases checked
  | outside shared uart => cases unwritten

theorem step (h : k.Provided) (proper : k.Proper event) (quiet : k.trapping event = none)
    (unwritten : writing event = none) : k.Calm (k.step event) := by
  cases event with
  | call c => exact call h proper quiet unwritten
  | shell c =>
    rw [Kernel.step]
    rcases k.shell_cases c with ⟨-, eq⟩ | eq <;> rw [eq]
    · exact refl h
    · have checked : bypasses (.call c.call) = false := by cases c <;> rfl
      have unposted : k.posting (.call c.call) = none := by cases c <;> rfl
      have quiet : k.trapping (.call c.call) = none := by cases c <;> rfl
      have unwritten : writing (.call c.call) = none := by cases c <;> rfl
      refine call h ⟨checked, ?_, ?_⟩ quiet unwritten
      · rw [unposted]
        intro k' posted
        cases posted
      · rw [unwritten]
        intro shared written
        cases written
  | driver port shared => cases proper.1

end Calm

/-! ### Every event -/

/-- A trap finds the kernel as it is, but for a request that was left before. -/
theorem trapping_cases (trapped : k.trapping event = some (k₁, saved)) :
    k.step event = (k₁.dispatch saved).2 ∧
      (k₁ = k ∨ ∃ r, k.request r = .ok k₁ ∧ k.posting event = some k₁) := by
  unfold trapping at trapped
  split at trapped
  · cases trapped
    exact ⟨rfl, Or.inl rfl⟩
  · rename_i r saved'
    cases left : k.request r with
    | error e =>
      rw [left] at trapped
      cases trapped
    | ok k' =>
      rw [left] at trapped
      cases trapped
      refine ⟨?_, Or.inr ⟨r, left, ?_⟩⟩
      · simp only [Kernel.step, Kernel.call, Kernel.syscall, left]
      · rw [posting, left]
        rfl
  · cases trapped

/-- What a trap finds is provided for, and known to the diary. -/
theorem Provided.trapping {diary : Diary} (h : diary.kernel.Provided) (kept : diary.Kept)
    (proper : diary.kernel.Proper event)
    (trapped : diary.kernel.trapping event = some (k₁, saved)) :
    k₁.Provided ∧ Diary.Kept { diary with kernel := k₁ } ∧
      k₁.shared = diary.kernel.shared := by
  obtain ⟨-, own, -⟩ := proper
  rcases (trapping_cases trapped).2 with rfl | ⟨r, left, posting⟩
  · exact ⟨h, kept, rfl⟩
  · refine ⟨h.request left (own k₁ posting), ?_, ?_⟩ <;> rw [request_ok left]
    · exact ⟨⟨kept.rest.runs, kept.rest.home⟩, kept.dues, kept.home⟩
    · rfl

theorem Provided.step {diary : Diary} (h : diary.kernel.Provided) (kept : diary.Kept)
    (proper : diary.kernel.Proper event) : (diary.kernel.step event).Provided := by
  cases trapped : diary.kernel.trapping event with
  | some x =>
    rw [(trapping_cases trapped).1]
    exact (h.trapping kept proper trapped).1.dispatch x.2
  | none =>
    cases written : writing event with
    | none => exact (Calm.step h proper trapped written).provided
    | some shared =>
      unfold writing at written
      split at written
      · exact h.outside _ proper
      · cases written

theorem Provided.promised {diary : Diary} (h : diary.kernel.Provided) (kept : diary.Kept)
    (proper : diary.kernel.Proper event) : diary.kernel.Promised event := by
  refine ⟨?_, fun unwritten id => ?_, ?_⟩
  · rintro ⟨k₁, saved⟩ trapped d s t hands
    exact (h.trapping kept proper trapped).1.taken hands
  · cases trapped : diary.kernel.trapping event with
    | none => exact Or.inl ((Calm.step h proper trapped unwritten).codes id)
    | some x =>
      obtain ⟨k₁, saved⟩ := x
      obtain ⟨provided, -, shared⟩ := h.trapping kept proper trapped
      rw [(trapping_cases trapped).1, ← shared]
      refine (provided.codes_dispatch saved id).imp_right ?_
      rintro ⟨t, e, declines, same⟩
      exact ⟨(k₁, saved), rfl, t, e, declines, same⟩
  · rintro ⟨k₁, saved⟩ trapped t e declines
    obtain ⟨provided, kept₁, -⟩ := h.trapping kept proper trapped
    rw [(trapping_cases trapped).1]
    exact Provided.declined kept₁ provided declines saved

theorem Provided.steps {diary : Diary} (kept : diary.Kept) (h : diary.kernel.Provided)
    {events : List KernelEvent} (proper : AllProper diary.kernel events) :
    AllPromised diary.kernel events := by
  induction events generalizing diary with
  | nil => trivial
  | cons event events ih =>
    obtain ⟨first, rest⟩ := proper
    have kernel : (diary.step event).kernel = diary.kernel.step event :=
      diary.kernel_write _ _
    have written : (diary.step event).Kept := kept.outcome (diary.kernel.outcome event)
    have after := ih written (kernel ▸ h.step kept first) (kernel ▸ rest)
    exact ⟨h.promised kept first, kernel ▸ after⟩

/-- Whatever happens to a kernel that was booted, as long as requests are checked before they are
left, the port is left alone, and every transfer has its own buffer that nobody else changes: the
driver takes every transfer that it is handed, at once or after others. A buffer gets a code only
when there is no memory for its transfer to wait or its request names another device. The process
that asked is then ready or runs, and goes on where it trapped. -/
theorem promised_steps (booted : boot c uart = .ok k) (events : List KernelEvent)
    (proper : AllProper k events) : AllPromised k events :=
  Provided.steps (Diary.Kept.boot booted) (Provided.boot booted) proper

/-- Memory for three processes, and for one transfer that waits. -/
def scarce : KernelConfig where
  heapSize := deviceRecordSize + 3 * recordSize + transferRecordSize
  memory := .bump
  processes := []

/-- The transfer of the first process starts at once and that of the second one waits. There is no
memory for that of the third one, which then asks another device. The first transfer ends, and the
next one is started. -/
def contested (k : Kernel) : List KernelEvent :=
  [.call (.create "first" .user 5), .call (.create "second" .user 5),
    .call (.create "third" .user 5),
    .call (.outside ([0x61, 0x62, 0x63, 0x64].foldl
      (fun s byte => (s.addBuffer (.forWrite [byte])).2) k.shared) k.device.port.uart),
    .call (.dispatch .zero),
    .call (.syscall ⟨Operation.write.code, .serial, some ⟨0⟩⟩ .zero),
    .call (.request ⟨Operation.write.code, .serial, some ⟨1⟩⟩), .call (.dispatch .zero),
    .call (.syscall ⟨Operation.write.code, .serial, some ⟨2⟩⟩ .zero),
    .call (.syscall ⟨Operation.read.code, ⟨9⟩, some ⟨3⟩⟩ .zero),
    .call .serviceInterrupts, .call (.syscall (.control .idle) .zero)]

theorem promised_steps_contested :
    ∃ k, boot scarce (Uart.create com1 true) = .ok k ∧
      ((contested k).foldl step k).device.active.map (·.buffer) = some ⟨1⟩ ∧
      (List.range 4).map (fun i => (((contested k).foldl step k).shared.buffer ⟨i⟩).error) =
        [none, none, some (-501), some (-502)] ∧
      AllPromised k (contested k) := by
  have ends : ((boot scarce (Uart.create com1 true)).toOption.map fun k =>
      (((contested k).foldl step k).device.active.map (·.buffer),
        (List.range 4).map fun i => (((contested k).foldl step k).shared.buffer ⟨i⟩).error,
        decide (AllProper k (contested k)))) =
      some (some ⟨1⟩, [none, none, some (-501), some (-502)], true) := by
    decide +kernel
  obtain ⟨k, booted, seen⟩ := ok_of_seen ends
  obtain ⟨active, rest⟩ := Prod.mk.inj seen
  obtain ⟨codes, proper⟩ := Prod.mk.inj rest
  exact ⟨k, booted, active, codes, promised_steps booted _ (of_decide_eq_true proper)⟩

end Kernel

end TrapKernel
