import TrapKernel.Proofs.Device.Agreement
import TrapKernel.Proofs.Serial.Codes

/-!
# Transfers that the driver takes

A device may hand a transfer to its driver long after it was submitted. A device is `Supplied` if by
then nothing has changed that matters: the port is open, each transfer has a buffer of its own, and
the bytes of those that wait can be moved. Then the driver refuses none of them, and no buffer gets
the code of an error.
-/

namespace TrapKernel

open SerialPort

/-- No buffer but these has changed, and none has got a code. -/
structure Shared.Confined (ids : List BufferId) (s s' : Shared) : Prop where
  codes : s.SameCodes s'
  others : ∀ id, id ∉ ids → s'.buffer id = s.buffer id

theorem Shared.Confined.refl (ids : List BufferId) (s : Shared) : Confined ids s s :=
  ⟨.refl s, fun _ _ => rfl⟩

namespace Device

variable {d d' : Device} {s s' : Shared} {m m' : Memory} {t : Transfer} {how : Submitted}

/-- The buffers of the transfers that were accepted and have not left. -/
def buffers (d : Device) : List BufferId := d.outstanding.map (·.buffer)

theorem buffers_eq (d : Device) : d.buffers =
    (d.active.map (·.buffer)).toList ++ d.waiting.map (·.transfer.buffer) := by
  cases active : d.active <;> simp [buffers, outstanding, active]

theorem buffers_cancel (d : Device) (m : Memory) (owner : ProcessId) :
    (d.cancel m owner).2.1.buffers.Sublist d.buffers := by
  rw [cancel_eq, buffers_eq, buffers_eq]
  exact (List.filter_sublist.map _).append_left _

/-- What is outstanding leaves at the front. -/
theorem suffix_checkCompletion (d : Device) (s : Shared) (m : Memory) :
    (d.checkCompletion s m).2.1.outstanding <:+ d.outstanding := by
  cases answer : (d.checkCompletion s m).1 with
  | some owner =>
    obtain ⟨-, finished, -, -, eq⟩ := outstanding_checkCompletion answer
    rw [eq]
    exact List.suffix_cons finished _
  | none =>
    rcases d.checkCompletion_cases s m with ⟨-, eq⟩ | ⟨finished, -, -, ⟨-, eq⟩ | ⟨w, rest, -, eq⟩⟩
    · simp only [eq, List.suffix_refl]
    · rw [eq] at answer
      cases answer
    · rw [eq] at answer
      cases answer

/-- The transfer that the driver is handed when the device is asked whether one has ended. -/
def next (d : Device) (s : Shared) : Option Transfer :=
  if (s.flag d.event).isSet && d.active.isSome then d.waiting.head?.map (·.transfer) else none

theorem next_eq_some : d.next s = some t ↔ (s.flag d.event).isSet = true ∧
    ∃ finished w rest, d.active = some finished ∧ d.waiting = w :: rest ∧ w.transfer = t := by
  unfold next
  cases active : d.active <;> cases waiting : d.waiting <;> simp

/-- The driver will take every transfer that waits, when it is its turn. -/
structure Supplied (d : Device) (s : Shared) : Prop where
  agrees : d.Agrees s
  prompt : d.Prompt
  isOpen : d.port.isOpen = true
  /-- Each transfer has its own buffer. -/
  apart : d.buffers.Nodup
  movable : ∀ w ∈ d.waiting, (s.buffer w.transfer.buffer).Movable

/-! ### Starting -/

/-- A transfer is about to be handed to the driver, which has nothing to do. -/
structure Handing (d : Device) (s : Shared) (t : Transfer) : Prop where
  flagged : d.port.Flagged d.event
  idle : d.port.Idle
  isOpen : d.port.isOpen = true
  movable : (s.buffer t.buffer).Movable
  waiting : ∀ w ∈ d.waiting, (s.buffer w.transfer.buffer).Movable
  apart : (t.buffer :: d.waiting.map (·.transfer.buffer)).Nodup

namespace Handing

/-- The driver takes it. -/
theorem taken (h : d.Handing s t) : d.refusal s t = none ∧
    ∃ port s', d.start s t = ({ d with port, active := some t }, s') ∧ port.isOpen = true ∧
      s.Confined [t.buffer] s' := by
  obtain ⟨port, s', done⟩ := transfer_of_movable (s := s.modifyFlag d.event (·.clear))
    h.isOpen h.idle t.direction h.movable
  refine ⟨by rw [refusal, answer, done], port, s', ?_, ?_, ?_⟩
  · rcases d.start_cases s t with ⟨port', s'', done', eq⟩ | ⟨e, refused, -⟩
    · rw [done] at done'
      obtain ⟨rfl, rfl⟩ := Prod.mk.inj (Except.ok.inj done')
      exact eq
    · rw [done] at refused
      cases refused
  · exact (transfer_ok h.flagged done).2.1.trans h.isOpen
  · have codes : (s.modifyFlag d.event (·.clear)).SameCodes s' := sameCodes_transfer done
    refine ⟨fun id => codes id, fun id other => ?_⟩
    have kept : s'.buffer id = (s.modifyFlag d.event (·.clear)).buffer id :=
      buffer_transfer_of_ne done fun same => other (same ▸ List.mem_cons_self)
    exact kept

theorem supplied (h : d.Handing s t) : Supplied (d.start s t).1 (d.start s t).2 := by
  have agrees := (Agrees.start h.flagged h.idle s t).1
  obtain ⟨-, port, s', eq, isOpen, confined⟩ := h.taken
  rw [eq] at agrees ⊢
  refine ⟨agrees, nofun, isOpen, ?_, fun w member => ?_⟩
  · rw [buffers_eq]
    exact h.apart
  · have other : w.transfer.buffer ∉ [t.buffer] := by
      rw [List.mem_singleton]
      intro same
      exact (List.nodup_cons.mp h.apart).1 (List.mem_map.mpr ⟨w, member, same⟩)
    rw [confined.others _ other]
    exact h.waiting w member

end Handing

namespace Supplied

theorem create {port : SerialPort} {event : FlagId} (idle : port.Idle) (isOpen : port.isOpen = true)
    (flagged : port.Flagged event) (id : DeviceId) (s : Shared) :
    Supplied (.create id event port) s :=
  ⟨⟨flagged, .nothing rfl idle⟩, fun _ => rfl, isOpen, List.nodup_nil, nofun⟩

/-! ### What the device is asked -/

/-- A transfer that starts at once is taken by the driver. -/
theorem handing (h : d.Supplied s) (free : d.active = none)
    (movable : (s.buffer t.buffer).Movable) : d.Handing s t := by
  have nobody := h.prompt free
  refine ⟨h.agrees.flagged, h.agrees.idle (Or.inl free), h.isOpen, movable, h.movable, ?_⟩
  rw [nobody]
  exact List.nodup_singleton _

theorem submit (h : d.Supplied s) (movable : (s.buffer t.buffer).Movable)
    (own : t.buffer ∉ d.buffers) (done : d.submit s m t = .ok (how, d', s', m')) :
    d'.Supplied s' ∧ s.Confined [t.buffer] s' := by
  rcases (submit_ok done).2 with ⟨-, free, started, -⟩ | ⟨-, -, rfl, record, -, rfl⟩
  · have handing := h.handing free movable
    have supplied := handing.supplied
    obtain ⟨-, port, s'', eq, -, confined⟩ := handing.taken
    rw [started] at supplied eq
    obtain ⟨-, rfl⟩ := Prod.mk.inj eq
    exact ⟨supplied, confined⟩
  · refine ⟨⟨h.agrees.waiting _, (outstanding_submit h.prompt done).1, h.isOpen, ?_, ?_⟩,
      .refl _ _⟩
    · rw [buffers, (outstanding_submit h.prompt done).2, List.map_append]
      refine List.Nodup.append h.apart (List.nodup_singleton _) ?_
      intro id member last
      rw [List.mem_singleton.mp last] at member
      exact own member
    · intro w member
      rcases List.mem_append.mp member with member | last
      · exact h.movable w member
      · rw [List.mem_singleton.mp last]
        exact movable

/-- When a transfer has ended, the driver takes the next one. -/
theorem handing_next {finished : Transfer} {w : WaitingTransfer} {rest : List WaitingTransfer}
    (h : d.Supplied s) (raised : (s.flag d.event).isSet = true) (active : d.active = some finished)
    (waiting : d.waiting = w :: rest) :
    Handing { d with active := none, waiting := rest } s w.transfer := by
  have movable : ∀ w' ∈ w :: rest, (s.buffer w'.transfer.buffer).Movable := waiting ▸ h.movable
  refine ⟨h.agrees.flagged, h.agrees.idle (Or.inr raised), h.isOpen, movable w List.mem_cons_self,
    fun w' member => movable w' (List.mem_cons_of_mem w member), ?_⟩
  have apart := h.apart
  rw [buffers_eq, active, waiting] at apart
  exact (List.nodup_cons.mp apart).2

theorem refusal_next (h : d.Supplied s) (hands : d.next s = some t) : d.refusal s t = none := by
  obtain ⟨raised, finished, w, rest, active, waiting, rfl⟩ := next_eq_some.mp hands
  exact (h.handing_next raised active waiting).taken.1

theorem checkCompletion (h : d.Supplied s) (m : Memory) :
    (d.checkCompletion s m).2.1.Supplied (d.checkCompletion s m).2.2.1 ∧
      s.Confined d.buffers (d.checkCompletion s m).2.2.1 := by
  rcases d.checkCompletion_cases s m with ⟨-, eq⟩ |
    ⟨finished, raised, active, ⟨waiting, eq⟩ | ⟨w, rest, waiting, eq⟩⟩
  · rw [eq]
    exact ⟨h, .refl _ _⟩
  · rw [eq]
    refine ⟨⟨⟨h.agrees.flagged, .nothing rfl (h.agrees.idle (Or.inr raised))⟩, fun _ => waiting,
      h.isOpen, ?_, h.movable⟩, .refl _ _⟩
    rw [buffers_eq, waiting]
    exact List.nodup_nil
  · rw [eq]
    have handing := h.handing_next raised active waiting
    refine ⟨handing.supplied, ?_⟩
    obtain ⟨-, port, s', started, -, confined⟩ := handing.taken
    rw [started]
    refine ⟨confined.codes, fun id other => confined.others id fun last => other ?_⟩
    rw [List.mem_singleton.mp last, buffers_eq, waiting]
    exact List.mem_append_right _ List.mem_cons_self

theorem cancel (h : d.Supplied s) (m : Memory) (owner : ProcessId) :
    (d.cancel m owner).2.1.Supplied s := by
  have prompt := h.prompt.cancel m owner
  have apart := h.apart.sublist (d.buffers_cancel m owner)
  rw [cancel_eq] at prompt apart ⊢
  refine ⟨h.agrees.waiting _, prompt, h.isOpen, apart, fun w member => ?_⟩
  exact h.movable w (List.mem_of_mem_filter member)

/-! ### What happens in between -/

/-- The driver works with the buffer of the transfer in flight. -/
theorem spares (h : d.Supplied s) {id : BufferId} (other : id ∉ d.active.map (·.buffer)) :
    d.port.Spares id := by
  cases h.agrees.phase with
  | nothing active idle => exact idle.spares id
  | ended t active raised idle => exact idle.spares id
  | works t active lowered works =>
    refine works.spares fun same => other ?_
    rw [active, Option.map_some, same]
    rfl

theorem serviceInterrupts (h : d.Supplied s) :
    Supplied { d with port := (d.port.serviceInterrupts s).2.1 }
        (d.port.serviceInterrupts s).2.2 ∧
      s.Confined d.buffers (d.port.serviceInterrupts s).2.2 := by
  have settled := h.agrees.settled
  have flagged := h.agrees.flagged
  have kept : ∀ id, id ∉ d.active.map (·.buffer) →
      (d.port.serviceInterrupts s).2.2.buffer id = s.buffer id := fun id other =>
    buffer_serviceUpTo_of_spares settled flagged (h.spares other) s maxInterruptsPerPoll
  refine ⟨⟨h.agrees.serves (serviceInterrupts_serves settled flagged s), h.prompt, ?_, h.apart,
    fun w member => ?_⟩, sameCodes_serviceUpTo _ s _, fun id other => kept id fun inFlight => ?_⟩
  · exact (isOpen_serviceUpTo d.port s maxInterruptsPerPoll).trans h.isOpen
  · rw [kept]
    · exact h.movable w member
    · intro inFlight
      have apart := h.apart
      rw [buffers_eq] at apart
      refine List.disjoint_of_nodup_append apart (Option.mem_toList.mpr inFlight) ?_
      exact List.mem_map.mpr ⟨w, member, rfl⟩
  · rw [buffers_eq] at other
    exact other (List.mem_append_left _ (Option.mem_toList.mpr inFlight))

/-- What happens on the line does not matter, nor what is done with other buffers and flags. -/
theorem outside (h : d.Supplied s) (uart : Uart) (flag : s'.flag d.event = s.flag d.event)
    (kept : ∀ id ∈ d.buffers, s'.buffer id = s.buffer id) :
    Supplied { d with port := { d.port with uart } } s' := by
  refine ⟨?_, h.prompt, h.isOpen, h.apart, fun w member => ?_⟩
  · have agrees := h.agrees.line uart
    refine ⟨agrees.flagged, ?_⟩
    cases agrees.phase with
    | nothing active idle => exact .nothing active idle
    | works t active lowered works => exact .works t active (flag ▸ lowered) works
    | ended t active raised idle => exact .ended t active (flag ▸ raised) idle
  · rw [kept]
    · exact h.movable w member
    · rw [buffers_eq]
      exact List.mem_append_right _ (List.mem_map.mpr ⟨w, member, rfl⟩)

end Supplied

end Device

end TrapKernel
