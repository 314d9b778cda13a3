import TrapKernel.Device

/-!
# The transfers of a device

What starting, submitting, polling and cancelling do to the transfer in flight and to those that
wait, and what else they change. A device is `Prompt` if nothing waits while nothing is in flight;
then its transfers leave in the order in which they came.
-/

namespace TrapKernel

namespace Device

variable {d d' : Device} {s s' : Shared} {m m' : Memory} {t : Transfer} {how : Submitted}
  {owner id : ProcessId}

/-- The records of the transfers that wait. -/
def records (d : Device) : List Nat := d.waiting.map (·.record)

/-- The records of the transfers of a process that wait. -/
def held (d : Device) (owner : ProcessId) : List Nat :=
  (d.waiting.filter (·.transfer.owner = owner)).map (·.record)

/-- The transfers that were accepted and have not left: the one in flight, then those that wait. -/
def outstanding (d : Device) : List Transfer := d.active.toList ++ d.waiting.map (·.transfer)

/-- Nothing waits while nothing is in flight. -/
def Prompt (d : Device) : Prop := d.active = none → d.waiting = []

/-! ### Starting -/

/-- The driver takes the transfer, or refuses it and the transfer ends at once. -/
theorem start_cases (d : Device) (s : Shared) (t : Transfer) :
    let lowered := s.modifyFlag d.event (·.clear)
    (∃ port s', d.port.transfer lowered t.direction t.buffer = .ok (port, s') ∧
        d.start s t = ({ d with port, active := some t }, s')) ∨
      ∃ e, d.port.transfer lowered t.direction t.buffer = .error e ∧
        d.start s t = ({ d with active := some t },
          (lowered.modifyBuffer t.buffer (·.fail (e.code t.direction))).modifyFlag d.event
            (·.raise)) := by
  simp only [start]
  cases taken : d.port.transfer (s.modifyFlag d.event (·.clear)) t.direction t.buffer with
  | ok result => exact Or.inl ⟨result.1, result.2, rfl, rfl⟩
  | error e => exact Or.inr ⟨e, rfl, rfl⟩

/-- Of the device only the driver changes, and what is in flight. -/
theorem start_eq (d : Device) (s : Shared) (t : Transfer) :
    (d.start s t).1 = { d with port := (d.start s t).1.port, active := some t } := by
  rcases d.start_cases s t with ⟨port, s', -, eq⟩ | ⟨e, -, eq⟩
  · rw [eq]
  · rw [eq]

@[simp] theorem active_start (d : Device) (s : Shared) (t : Transfer) :
    (d.start s t).1.active = some t := by rw [start_eq]

@[simp] theorem waiting_start (d : Device) (s : Shared) (t : Transfer) :
    (d.start s t).1.waiting = d.waiting := by rw [start_eq]

@[simp] theorem event_start (d : Device) (s : Shared) (t : Transfer) :
    (d.start s t).1.event = d.event := by rw [start_eq]

/-! ### Submitting -/

/-- A transfer is started if nothing is in flight, and otherwise takes a record and waits behind the
others. -/
theorem submit_ok (done : d.submit s m t = .ok (how, d', s', m')) :
    t.device = d.id ∧
      (how = .started ∧ d.active = none ∧ d.start s t = (d', s') ∧ m' = m ∨
        how = .queued ∧ d.isBusy = true ∧ s' = s ∧
          ∃ record, m.allocate transferRecordSize = .ok (record, m') ∧
            d' = { d with waiting := d.waiting ++ [⟨t, record⟩] }) := by
  unfold submit at done
  split at done
  · cases done
  rename_i known
  refine ⟨Decidable.not_not.mp known, ?_⟩
  split at done
  · rename_i busy
    right
    cases allocated : m.allocate transferRecordSize with
    | error cause =>
      rw [allocated] at done
      cases done
    | ok result =>
      rw [allocated] at done
      cases done
      exact ⟨rfl, busy, rfl, result.1, rfl, rfl⟩
  · rename_i idle
    left
    cases done
    exact ⟨rfl, Option.not_isSome_iff_eq_none.mp idle, rfl, rfl⟩

/-- A transfer is refused if the device is another one, or if it would have to wait and there is no
memory for it. -/
theorem submit_error_iff {e : SubmitError} : d.submit s m t = .error e ↔
    t.device ≠ d.id ∧ e = .unknownDevice t.device ∨
      t.device = d.id ∧ d.isBusy = true ∧
        ∃ cause, m.allocate transferRecordSize = .error cause ∧ e = .outOfMemory cause := by
  unfold submit
  by_cases known : t.device = d.id
  · rw [if_neg (Decidable.not_not.mpr known)]
    by_cases busy : d.isBusy
    · rw [if_pos busy]
      cases m.allocate transferRecordSize with
      | error cause => simp [known, busy, eq_comm]
      | ok result => simp [known]
    · simp [known, busy]
  · rw [if_pos known]
    constructor
    · intro refused
      cases refused
      exact Or.inl ⟨known, rfl⟩
    · rintro (⟨-, rfl⟩ | ⟨same, -⟩)
      · rfl
      · exact absurd same known

theorem submit_cases (done : d.submit s m t = .ok (how, d', s', m')) :
    d'.waiting = d.waiting ∧ m' = m ∨
      ∃ record, m.allocate transferRecordSize = .ok (record, m') ∧
        d'.waiting = d.waiting ++ [⟨t, record⟩] := by
  rcases (submit_ok done).2 with ⟨-, -, started, rfl⟩ | ⟨-, -, -, record, allocated, rfl⟩
  · refine Or.inl ⟨?_, rfl⟩
    rw [← waiting_start d s t, started]
  · exact Or.inr ⟨record, allocated, rfl⟩

/-- A transfer that is accepted goes behind all others. -/
theorem outstanding_submit (prompt : d.Prompt) (done : d.submit s m t = .ok (how, d', s', m')) :
    d'.Prompt ∧ d'.outstanding = d.outstanding ++ [t] := by
  rcases (submit_ok done).2 with ⟨-, idle, started, -⟩ | ⟨-, busy, -, record, -, rfl⟩
  · have active : d'.active = some t := by rw [← active_start d s t, started]
    have waiting : d'.waiting = [] := by
      rw [← prompt idle, ← waiting_start d s t, started]
    refine ⟨fun _ => waiting, ?_⟩
    rw [outstanding, outstanding, active, waiting, idle, prompt idle]
    rfl
  · refine ⟨fun idle => ?_, ?_⟩
    · rw [isBusy, show d.active = none from idle] at busy
      cases busy
    · simp [outstanding]

/-! ### Polling -/

/-- Nothing has ended, or the transfer in flight has; then the first one that waits is started and
its record given back. -/
theorem checkCompletion_cases (d : Device) (s : Shared) (m : Memory) :
    ((s.flag d.event).isSet = true → d.active = none) ∧
        d.checkCompletion s m = (none, d, s, m) ∨
      ∃ finished, (s.flag d.event).isSet = true ∧ d.active = some finished ∧
        (d.waiting = [] ∧
            d.checkCompletion s m = (some finished.owner, { d with active := none }, s, m) ∨
          ∃ next rest, d.waiting = next :: rest ∧
            d.checkCompletion s m = (some finished.owner,
              ({ d with active := none, waiting := rest }.start s next.transfer).1,
              ({ d with active := none, waiting := rest }.start s next.transfer).2,
              m.release next.record)) := by
  unfold checkCompletion
  split
  · rename_i raised
    cases active : d.active with
    | none => exact Or.inl ⟨fun _ => rfl, rfl⟩
    | some finished =>
      refine Or.inr ⟨finished, raised, rfl, ?_⟩
      cases waiting : d.waiting with
      | nil => exact Or.inl ⟨rfl, by simp only [startNext]⟩
      | cons next rest => exact Or.inr ⟨next, rest, rfl, by simp only [startNext]⟩
  · rename_i lowered
    exact Or.inl ⟨fun raised => absurd raised lowered, rfl⟩

/-- The next transfer is started, and its record given back, or nothing changes. -/
theorem waiting_checkCompletion (d : Device) (s : Shared) (m : Memory) :
    ((d.checkCompletion s m).2.1.waiting = d.waiting ∧ (d.checkCompletion s m).2.2.2 = m) ∨
      ∃ next rest, d.waiting = next :: rest ∧ (d.checkCompletion s m).2.1.waiting = rest ∧
        (d.checkCompletion s m).2.2.2 = m.release next.record := by
  rcases d.checkCompletion_cases s m with ⟨-, eq⟩ |
    ⟨finished, -, -, ⟨waiting, eq⟩ | ⟨next, rest, waiting, eq⟩⟩
  · exact Or.inl ⟨by rw [eq], by rw [eq]⟩
  · exact Or.inl ⟨by rw [eq], by rw [eq]⟩
  · exact Or.inr ⟨next, rest, waiting, by rw [eq, waiting_start], by rw [eq]⟩

/-- The answer is the owner of the transfer in flight, if the flag says that it has ended. -/
theorem checkCompletion_eq_some : (d.checkCompletion s m).1 = some id ↔
    ∃ finished, (s.flag d.event).isSet = true ∧ d.active = some finished ∧
      finished.owner = id := by
  rcases d.checkCompletion_cases s m with ⟨nothing, eq⟩ |
    ⟨finished, raised, active, ⟨-, eq⟩ | ⟨next, rest, -, eq⟩⟩
  · rw [eq]
    refine iff_of_false nofun ?_
    rintro ⟨finished, raised, active, -⟩
    rw [nothing raised] at active
    cases active
  · simp [eq, raised, active]
  · simp [eq, raised, active]

/-- The first transfer leaves, and only that one. -/
theorem outstanding_checkCompletion (answer : (d.checkCompletion s m).1 = some id) :
    (d.checkCompletion s m).2.1.Prompt ∧ ∃ finished, d.active = some finished ∧
      finished.owner = id ∧ d.outstanding = finished :: (d.checkCompletion s m).2.1.outstanding := by
  rcases d.checkCompletion_cases s m with ⟨-, eq⟩ |
    ⟨finished, -, active, ⟨waiting, eq⟩ | ⟨next, rest, waiting, eq⟩⟩
  · rw [eq] at answer
    cases answer
  · rw [eq] at answer ⊢
    refine ⟨fun _ => waiting, finished, active, Option.some.inj answer, ?_⟩
    simp [outstanding, active, waiting]
  · rw [eq] at answer ⊢
    refine ⟨?_, finished, active, Option.some.inj answer, ?_⟩
    · intro idle
      rw [active_start] at idle
      cases idle
    · simp [outstanding, active, waiting]

/-! ### Cancelling -/

/-- The transfers of the process that wait go, and nothing else of the device changes. -/
theorem cancel_eq (d : Device) (m : Memory) (owner : ProcessId) :
    d.cancel m owner = ((d.waiting.filter (·.transfer.owner = owner)).length,
      { d with waiting := d.waiting.filter (·.transfer.owner ≠ owner) },
      (d.held owner).foldl Memory.release m) := by
  have others : d.waiting.filter (fun w => !decide (w.transfer.owner = owner)) =
      d.waiting.filter (·.transfer.owner ≠ owner) := by
    apply List.filter_congr
    intro w _
    simp
  rw [cancel, List.partition_eq_filter_filter, held, List.foldl_map, ← others]
  rfl

theorem waiting_cancel (d : Device) (m : Memory) (owner : ProcessId) :
    (d.cancel m owner).2.1.waiting = d.waiting.filter (·.transfer.owner ≠ owner) := by
  rw [cancel_eq]

theorem memory_cancel (d : Device) (m : Memory) (owner : ProcessId) :
    (d.cancel m owner).2.2 = (d.held owner).foldl Memory.release m := by
  rw [cancel_eq]

/-- The transfers of a process, and those of the others. -/
theorem records_perm (d : Device) (m : Memory) (owner : ProcessId) :
    d.records.Perm (d.held owner ++ (d.cancel m owner).2.1.records) := by
  rw [records, held, records, waiting_cancel, ← List.map_append]
  apply List.Perm.map
  have split := List.filter_append_perm (fun w => decide (w.transfer.owner = owner)) d.waiting
  simpa using split.symm

theorem Prompt.cancel (prompt : d.Prompt) (m : Memory) (owner : ProcessId) :
    (d.cancel m owner).2.1.Prompt := by
  intro idle
  rw [waiting_cancel, prompt (by rw [← idle, cancel_eq])]
  rfl

end Device

end TrapKernel
