import TrapKernel.Proofs.Device.Agreement

/-!
# What became of a transfer

When the flag says that the transfer in flight has ended, its buffer tells what became of it: how
many bytes were moved, or the code of the error because of which none were. `Device.Reliable` says
that the flag is right and that then the buffer does so. It holds as long as nobody else writes to
the buffer of a transfer, except for the code of an error.
-/

namespace TrapKernel

open SerialPort

/-- What became of a transfer: what its buffer holds, and how many bytes the driver moved. -/
structure Ending where
  transfer : Transfer
  buffer : Buffer
  moved : Nat

/-- The buffer holds the number of bytes that were moved, or the code of an error. -/
def Ending.Final (e : Ending) : Prop :=
  e.buffer.count = e.moved ∨ e.buffer.count = 0 ∧ e.buffer.error.isSome = true

namespace Device

variable {d d' : Device} {s s' : Shared} {m m' : Memory} {t : Transfer} {how : Submitted}

/-- What became of a transfer, as the buffer and the driver have it. -/
def ending (d : Device) (s : Shared) (t : Transfer) : Ending :=
  ⟨t, s.buffer t.buffer, (d.port.progress t.direction).done⟩

/-- What became of the transfer in flight, if it has ended. -/
def ended (d : Device) (s : Shared) : Option Ending :=
  if (s.flag d.event).isSet then d.active.map (d.ending s) else none

/-- The flag is right, and once it is raised the buffer of the transfer in flight is final. -/
structure Reliable (d : Device) (s : Shared) : Prop where
  agrees : d.Agrees s
  final : ∀ t, d.active = some t → (s.flag d.event).isSet = true → (d.ending s t).Final

namespace Reliable

/-- Nothing is in flight. -/
theorem idle (agrees : d.Agrees s) (active : d.active = none) : d.Reliable s := by
  refine ⟨agrees, fun t inFlight => ?_⟩
  rw [active] at inFlight
  cases inFlight

theorem ended_final (h : d.Reliable s) {e : Ending} (ended : d.ended s = some e) : e.Final := by
  unfold Device.ended at ended
  split at ended
  · rename_i raised
    obtain ⟨t, active, rfl⟩ := Option.map_eq_some_iff.mp ended
    exact h.final t active raised
  · cases ended

/-- A transfer that is refused, or completed at once, leaves what became of it in its
buffer. -/
theorem start (flagged : d.port.Flagged d.event) (idle : d.port.Idle) (s : Shared) (t : Transfer) :
    Reliable (d.start s t).1 (d.start s t).2 := by
  refine ⟨(Agrees.start flagged idle s t).1, fun t' active raised => ?_⟩
  rw [active_start] at active
  obtain rfl := Option.some.inj active
  rw [event_start] at raised
  rcases d.start_cases s t with ⟨port, s', taken, eq⟩ | ⟨e, -, eq⟩
  · rw [eq] at raised ⊢
    obtain ⟨-, -, -, ⟨-, lowered⟩ | ⟨-, -, count⟩⟩ := transfer_ok flagged taken
    · rw [lowered] at raised
      cases raised
    · exact Or.inl count
  · rw [eq]
    refine Or.inr ⟨?_, ?_⟩
    · simp [ending, Shared.buffer_modifyBuffer, Buffer.fail]
    · simp [ending, Shared.buffer_modifyBuffer, Buffer.fail]

theorem waiting (h : d.Reliable s) (waiting : List WaitingTransfer) :
    Reliable { d with waiting } s := ⟨h.agrees.waiting waiting, h.final⟩

theorem submit (h : d.Reliable s) (done : d.submit s m t = .ok (how, d', s', m')) :
    d'.Reliable s' := by
  rcases (submit_ok done).2 with ⟨-, free, started, -⟩ | ⟨-, -, rfl, record, -, rfl⟩
  · have after := start h.agrees.flagged (h.agrees.idle (Or.inl free)) s t
    rw [started] at after
    exact after
  · exact h.waiting _

theorem checkCompletion (h : d.Reliable s) (m : Memory) :
    Reliable (d.checkCompletion s m).2.1 (d.checkCompletion s m).2.2.1 := by
  rcases d.checkCompletion_cases s m with ⟨-, eq⟩ |
    ⟨finished, raised, active, ⟨waiting, eq⟩ | ⟨next, rest, waiting, eq⟩⟩
  · rw [eq]
    exact h
  · have after := h.agrees.checkCompletion m
    rw [eq] at after ⊢
    exact idle after rfl
  · rw [eq]
    exact start (d := { d with active := none, waiting := rest }) h.agrees.flagged
      (h.agrees.idle (Or.inr raised)) s next.transfer

/-- An interrupt that ends the transfer leaves the count in its buffer. Once that has ended,
interrupts write to no buffer. -/
theorem serves {port : SerialPort} (h : d.Reliable s) (served : Serves d.event d.port port s s') :
    Reliable { d with port } s' := by
  refine ⟨h.agrees.serves served, fun t active raised => ?_⟩
  rcases served with on | ⟨direction, id, ends⟩
  · have raised : (s.flag d.event).isSet = true := by
      rw [← on.flag]
      exact raised
    obtain ⟨rfl, progress⟩ := on.idle (h.agrees.idle (Or.inr raised))
    have final := h.final t active raised
    rw [ending, ← progress] at final
    exact final
  · cases h.agrees.phase with
    | nothing free _ =>
      rw [show d.active = some t from active] at free
      cases free
    | works t' active' lowered works =>
      obtain rfl := Option.some.inj (active'.symm.trans active)
      obtain rfl := Direction.status_injective (works.status.symm.trans ends.works.status)
      obtain rfl := Option.some.inj (works.buffer.symm.trans ends.works.buffer)
      exact Or.inl ends.count
    | ended t' _ _ idle => exact absurd idle ends.works.not_idle

theorem line (h : d.Reliable s) (uart : Uart) :
    Reliable { d with port := { d.port with uart } } s := by
  refine ⟨h.agrees.line uart, fun t active raised => ?_⟩
  have final := h.final t active raised
  rw [ending] at final ⊢
  rw [show SerialPort.progress { d.port with uart } t.direction = d.port.progress t.direction by
    cases t.direction <;> rfl]
  exact final

/-- Others may write to the buffers, as long as what they leave in that of a transfer that has ended
is final. -/
theorem buffers {buffers : Cells Buffer} (h : d.Reliable s)
    (kept : ∀ t, d.active = some t → (s.flag d.event).isSet = true →
      (d.ending { s with buffers } t).Final) : Reliable d { s with buffers } :=
  ⟨h.agrees.congr rfl, kept⟩

/-- Somebody prepares a buffer that the transfer in flight does not use. -/
theorem prepare {id : BufferId} (h : d.Reliable s)
    (other : ∀ t, d.active = some t → t.buffer ≠ id) (b : Buffer) :
    d.Reliable (s.setBuffer id b) := by
  refine h.buffers fun t active raised => ?_
  have same : (s.setBuffer id b).buffer t.buffer = s.buffer t.buffer := by
    rw [Shared.buffer_setBuffer, if_neg (other t active).symm]
  have final := h.final t active raised
  rw [ending, ← same] at final
  exact final

/-- The code of an error may be left in any buffer. -/
theorem fail (h : d.Reliable s) (id : BufferId) (code : Int) :
    d.Reliable (s.modifyBuffer id (·.fail code)) := by
  refine h.buffers fun t active raised => ?_
  have written := Shared.buffer_modifyBuffer s id t.buffer (·.fail code)
  by_cases same : id = t.buffer
  · rw [if_pos same] at written
    exact Or.inr ⟨congrArg Buffer.count written, congrArg (·.error.isSome) written⟩
  · rw [if_neg same] at written
    have final := h.final t active raised
    rw [ending, ← written] at final
    exact final

end Reliable

end Device

end TrapKernel
