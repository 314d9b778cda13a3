import TrapKernel.Proofs.Device.Transfers
import TrapKernel.Proofs.Process.Waiting

/-!
# Who waits for which transfer

A process waits exactly while one of its transfers is outstanding. `Attends` says so of the
processes that are there, given all the transfers that were ever accepted and those that have
finished. For a process that is there, what was accepted has finished or is outstanding. A process
that has gone may have left behind the transfer in flight; nobody else has its handle.
-/

namespace TrapKernel

variable {id owner : ProcessId} {t : Transfer} {l accepted finished : List Transfer}

/-- The transfers of a process. -/
def transfersOf (id : ProcessId) (l : List Transfer) : List Transfer := l.filter (·.owner = id)

theorem transfersOf_append (id : ProcessId) (l l' : List Transfer) :
    transfersOf id (l ++ l') = transfersOf id l ++ transfersOf id l' := List.filter_append ..

@[simp] theorem transfersOf_self (t : Transfer) : transfersOf t.owner [t] = [t] := by
  simp [transfersOf]

theorem transfersOf_other (other : t.owner ≠ id) : transfersOf id [t] = [] := by
  simp [transfersOf, other]

theorem transfersOf_eq_nil : transfersOf id l = [] ↔ ∀ t ∈ l, t.owner ≠ id := by
  simp [transfersOf]

namespace Device

/-- Cancelling drops no transfer of another process. -/
theorem transfersOf_cancel (d : Device) (m : Memory) (other : id ≠ owner) :
    transfersOf id (d.cancel m owner).2.1.outstanding = transfersOf id d.outstanding := by
  have kept : ∀ w : WaitingTransfer, (decide (w.transfer.owner = id) &&
      decide (w.transfer.owner ≠ owner)) = decide (w.transfer.owner = id) := by
    intro w
    by_cases eq : w.transfer.owner = id
    · simp [eq, other]
    · simp [eq]
  rw [cancel_eq, outstanding, outstanding, transfersOf_append, transfersOf_append]
  simp only [transfersOf, List.filter_map, List.filter_filter, Function.comp_def, kept]

theorem mem_outstanding_cancel {d : Device} {m : Memory}
    (member : t ∈ (d.cancel m owner).2.1.outstanding) : t ∈ d.outstanding := by
  rw [cancel_eq, outstanding] at member
  rcases List.mem_append.mp member with active | waits
  · exact List.mem_append_left _ active
  · obtain ⟨w, kept, rfl⟩ := List.mem_map.mp waits
    exact List.mem_append_right _ (List.mem_map_of_mem (List.mem_of_mem_filter kept))

end Device

open Registry ProcessTable

/-- A process waits exactly while it has a transfer that is outstanding, and then it has only one.
All that was accepted of it before has finished. -/
structure Attends (r : Registry) (d : Device) (accepted finished : List Transfer) : Prop where
  prompt : d.Prompt
  taken : ∀ t, t ∈ finished ∨ t ∈ d.outstanding → t ∈ accepted
  known : ∀ t ∈ accepted, r.table.Knows t.owner
  each : ∀ id i, r.table.resolve id = some i →
    transfersOf id accepted = transfersOf id finished ++ transfersOf id d.outstanding
  single : ∀ id i, r.table.resolve id = some i →
    (transfersOf id d.outstanding).length = (r.waitsAt i).toNat
  /-- What is not in flight is a transfer of a process that is there. -/
  waiting : ∀ w ∈ d.waiting, ∃ i, r.table.resolve w.transfer.owner = some i

namespace Attends

variable {r r' : Registry} {d d' : Device} {s s' : Shared} {m m' : Memory} {i n : Nat}
  {how : Submitted}

/-- Nothing was accepted yet, and nobody waits. -/
theorem initial (active : d.active = none) (waiting : d.waiting = [])
    (nobody : ∀ i, r.waitsAt i = false) : Attends r d [] [] := by
  have nothing : d.outstanding = [] := by rw [Device.outstanding, active, waiting]; rfl
  refine ⟨fun _ => waiting, ?_, List.forall_mem_nil _, ?_, ?_, ?_⟩
  · rw [nothing]
    rintro t (member | member) <;> cases member
  · intro id i _
    rw [nothing]
    rfl
  · intro id i _
    rw [nothing, nobody]
    rfl
  · rw [waiting]
    exact List.forall_mem_nil _

/-- Only what is in flight and what waits matters about the device. -/
theorem device (h : Attends r d accepted finished) (active : d'.active = d.active)
    (waiting : d'.waiting = d.waiting) : Attends r d' accepted finished := by
  have same : d'.outstanding = d.outstanding := by
    rw [Device.outstanding, active, waiting, Device.outstanding]
  refine ⟨?_, ?_, h.known, ?_, ?_, ?_⟩
  · intro idle
    rw [waiting]
    exact h.prompt (active.symm.trans idle)
  · rw [same]
    exact h.taken
  · rw [same]
    exact h.each
  · rw [same]
    exact h.single
  · rw [waiting]
    exact h.waiting

theorem registry (h : Attends r d accepted finished) (same : r.SameWaits r') :
    Attends r' d accepted finished := by
  refine ⟨h.prompt, h.taken, fun t member => same.slots.knows.mpr (h.known t member), ?_, ?_, ?_⟩
  · intro id i resolved
    rw [same.slots.resolve] at resolved
    exact h.each id i resolved
  · intro id i resolved
    rw [same.slots.resolve] at resolved
    rw [same.waits]
    exact h.single id i resolved
  · intro w waits
    rw [same.slots.resolve]
    exact h.waiting w waits

/-- The process whose transfer is accepted waits from now on. -/
theorem park (h : Attends r d accepted finished) (resolved : r.table.resolve t.owner = some i)
    (free : r.waitsAt i = false) (done : d.submit s m t = .ok (how, d', s', m'))
    (slots : r.table.SameSlots r'.table) (waits : ∀ j, r'.waitsAt j =
      if r.table.resolve t.owner = some j then true else r.waitsAt j) :
    Attends r' d' (accepted ++ [t]) finished := by
  obtain ⟨prompt, outstanding⟩ := Device.outstanding_submit h.prompt done
  refine ⟨prompt, ?_, ?_, ?_, ?_, ?_⟩
  · intro t' member
    rw [outstanding, List.mem_append, ← or_assoc] at member
    rw [List.mem_append]
    exact member.imp_left (h.taken t')
  · intro t' member
    rw [slots.knows]
    rcases List.mem_append.mp member with old | new
    · exact h.known t' old
    · rw [List.mem_singleton.mp new]
      exact knows_of_resolve resolved
  · intro id j resolved'
    rw [slots.resolve] at resolved'
    rw [outstanding, transfersOf_append, transfersOf_append, h.each id j resolved',
      List.append_assoc]
  · intro id j resolved'
    rw [slots.resolve] at resolved'
    have single := h.single id j resolved'
    rw [outstanding, transfersOf_append, waits]
    by_cases own : t.owner = id
    · subst own
      obtain rfl := Option.some.inj (resolved.symm.trans resolved')
      rw [if_pos resolved, List.length_append, single, free, transfersOf_self]
      rfl
    · have apart : r.table.resolve t.owner ≠ some j :=
        fun same => own (resolve_injective same resolved')
      rw [if_neg apart, transfersOf_other own, List.append_nil]
      exact single
  · intro w member
    rw [slots.resolve]
    rcases Device.submit_cases done with ⟨same, -⟩ | ⟨record, -, appended⟩
    · rw [same] at member
      exact h.waiting w member
    · rw [appended] at member
      rcases List.mem_append.mp member with old | new
      · exact h.waiting w old
      · rw [List.mem_singleton.mp new]
        exact ⟨i, resolved⟩

/-- The process whose transfer has finished does not wait any more. If it is gone, the transfer is
nobody else's. -/
theorem release (h : Attends r d accepted finished) (prompt : d'.Prompt)
    (left : d.outstanding = t :: d'.outstanding) (rest : ∀ w ∈ d'.waiting, w ∈ d.waiting)
    (slots : r.table.SameSlots r'.table) (waits : ∀ j, r'.waitsAt j =
      if r.table.resolve t.owner = some j then false else r.waitsAt j) :
    Attends r' d' accepted (finished ++ [t]) := by
  have parted : ∀ id, transfersOf id d.outstanding =
      transfersOf id [t] ++ transfersOf id d'.outstanding := by
    intro id
    rw [← transfersOf_append, left]
    rfl
  refine ⟨prompt, ?_, fun t' member => slots.knows.mpr (h.known t' member), ?_, ?_, ?_⟩
  · intro t' member
    apply h.taken
    rw [left, List.mem_cons]
    rw [List.mem_append, List.mem_singleton, or_assoc] at member
    exact member
  · intro id j resolved
    rw [slots.resolve] at resolved
    rw [h.each id j resolved, parted, transfersOf_append, List.append_assoc]
  · intro id j resolved
    rw [slots.resolve] at resolved
    have single := h.single id j resolved
    rw [parted, List.length_append] at single
    rw [waits]
    by_cases own : t.owner = id
    · subst own
      have most := (r.waitsAt j).toNat_le
      rw [transfersOf_self, List.length_singleton] at single
      rw [if_pos resolved, Bool.toNat_false]
      omega
    · have apart : r.table.resolve t.owner ≠ some j :=
        fun same => own (resolve_injective same resolved)
      rw [transfersOf_other own, List.length_nil, Nat.zero_add] at single
      rw [if_neg apart]
      exact single
  · intro w member
    rw [slots.resolve]
    exact h.waiting w (rest w member)

/-- A process goes, and those of its transfers that wait are dropped. -/
theorem leave (h : Attends r d accepted finished) (leaves : r.table.Leaves r'.table id)
    (waits : ∀ j, id.index ≠ j → r'.waitsAt j = r.waitsAt j) (dated : r.table.Dated n)
    (room : n + 1 < 2 ^ 32) (m : Memory) :
    Attends r' (d.cancel m id).2.1 accepted finished := by
  refine ⟨h.prompt.cancel m id, ?_, ?_, ?_, ?_, ?_⟩
  · intro t member
    exact h.taken t (member.imp_right Device.mem_outstanding_cancel)
  · exact fun t member => leaves.knows dated room (h.known t member)
  · intro id' j resolved
    obtain ⟨other, resolved⟩ := leaves.resolve.mp resolved
    rw [d.transfersOf_cancel m other]
    exact h.each id' j resolved
  · intro id' j resolved
    have apart : id.index ≠ j := ((leaves.live j).mp (resolve_eq_some.mp resolved).2.2).1
    obtain ⟨other, resolved⟩ := leaves.resolve.mp resolved
    rw [d.transfersOf_cancel m other, waits j apart]
    exact h.single id' j resolved
  · intro w member
    rw [Device.waiting_cancel] at member
    obtain ⟨member, other⟩ := List.mem_filter.mp member
    obtain ⟨j, resolved⟩ := h.waiting w member
    exact ⟨j, leaves.resolve.mpr ⟨of_decide_eq_true other, resolved⟩⟩

/-- A process comes. Its handle is new, so it has no transfer. -/
theorem join (h : Attends r d accepted finished) (joins : r.table.Joins r'.table id)
    (waits : ∀ j, r'.waitsAt j = r.waitsAt j) : Attends r' d accepted finished := by
  have none : ∀ l, (∀ t ∈ l, t ∈ accepted) → transfersOf id l = [] := by
    intro l all
    refine transfersOf_eq_nil.mpr fun t member same => joins.stranger ?_
    rw [← same]
    exact h.known t (all t member)
  have noneOutstanding := none d.outstanding fun t member => h.taken t (Or.inr member)
  refine ⟨h.prompt, h.taken, fun t member => joins.knows (h.known t member), ?_, ?_, ?_⟩
  · intro id' j resolved
    rcases joins.resolve resolved with rfl | resolved
    · rw [none accepted fun _ member => member,
        none finished fun t member => h.taken t (Or.inl member), noneOutstanding]
      rfl
    · exact h.each id' j resolved
  · intro id' j resolved
    rw [waits]
    have index := (resolve_eq_some.mp resolved).1
    rcases joins.resolve resolved with rfl | resolved
    · subst index
      rw [noneOutstanding, waitsAt_eq_false joins.fresh]
      rfl
    · exact h.single id' j resolved
  · intro w member
    obtain ⟨j, resolved⟩ := h.waiting w member
    exact ⟨j, joins.resolve_of_resolve resolved⟩

/-! ### What follows -/

/-- A process that waits has one outstanding transfer, the last one that was accepted. -/
theorem of_waits (h : Attends r d accepted finished) (resolved : r.table.resolve id = some i)
    (waits : r.waitsAt i = true) : ∃ t, transfersOf id d.outstanding = [t] ∧
      transfersOf id accepted = transfersOf id finished ++ [t] := by
  have single := h.single id i resolved
  rw [waits, Bool.toNat_true] at single
  obtain ⟨t, one⟩ := List.length_eq_one_iff.mp single
  refine ⟨t, one, ?_⟩
  rw [h.each id i resolved, one]

/-- A process that does not wait has no outstanding transfer: all that was accepted has finished. -/
theorem of_not_waits (h : Attends r d accepted finished) (resolved : r.table.resolve id = some i)
    (free : r.waitsAt i = false) : transfersOf id d.outstanding = [] ∧
      transfersOf id accepted = transfersOf id finished := by
  have single := h.single id i resolved
  rw [free, Bool.toNat_false] at single
  have nothing := List.eq_nil_of_length_eq_zero single
  refine ⟨nothing, ?_⟩
  rw [h.each id i resolved, nothing, List.append_nil]

end Attends

end TrapKernel
