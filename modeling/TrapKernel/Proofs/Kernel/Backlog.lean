import TrapKernel.Proofs.Device.Transfers
import TrapKernel.Proofs.Process.Waiting

/-!
# Who has more than one unfinished transfer

A process that waits has one unfinished transfer, and one that does not wait has none, unless it was
let go before its transfer finished. Then it may ask for another one. `Excused` bounds how many
unfinished transfers a process has by how often that happened. It goes by the slots of the
processes. So the transfer in flight has to be left out if it is one of a process that was removed:
whoever is in the slot by now, it is not his.
-/

namespace TrapKernel

variable {r r' : Registry} {d d' : Device} {s s' : Shared} {m m' : Memory} {stray : Bool}
  {lapses : Nat → Nat} {i j : Nat} {t : Transfer} {id : ProcessId} {how : Submitted}
  {l l' : List Transfer}

/-- The transfers of the process in a slot. -/
def Registry.transfersAt (r : Registry) (i : Nat) (l : List Transfer) : List Transfer :=
  l.filter (r.table.resolve ·.owner = some i)

namespace Registry

theorem transfersAt_append (r : Registry) (i : Nat) (l l' : List Transfer) :
    r.transfersAt i (l ++ l') = r.transfersAt i l ++ r.transfersAt i l' := List.filter_append ..

theorem transfersAt_self (resolved : r.table.resolve t.owner = some i) :
    r.transfersAt i [t] = [t] := by
  simp [transfersAt, resolved]

theorem transfersAt_other (other : r.table.resolve t.owner ≠ some i) :
    r.transfersAt i [t] = [] := by
  simp [transfersAt, other]

theorem transfersAt_slots (slots : r.table.SameSlots r'.table) (i : Nat) (l : List Transfer) :
    r'.transfersAt i l = r.transfersAt i l := by
  refine List.filter_congr fun t _ => ?_
  rw [slots.resolve]

/-- A slot without a process has no transfers. -/
theorem transfersAt_vacant (vacant : ¬ r.table.Live i) (l : List Transfer) :
    r.transfersAt i l = [] := by
  refine List.filter_eq_nil_iff.mpr fun t _ owner => vacant ?_
  exact (ProcessTable.resolve_eq_some.mp (of_decide_eq_true owner)).2.2

end Registry

/-- The transfers that are outstanding, without the one in flight if that is stray. -/
def Device.pending (d : Device) (stray : Bool) : List Transfer :=
  if stray then d.waiting.map (·.transfer) else d.outstanding

/-- Only what is in flight and what waits matters about the device. -/
theorem Device.pending_congr (active : d'.active = d.active) (waiting : d'.waiting = d.waiting)
    (stray : Bool) : d'.pending stray = d.pending stray := by
  rw [pending, outstanding, active, waiting]
  rfl

/-- A transfer that is accepted is pending. -/
theorem Device.pending_submit (prompt : d.Prompt) (strays : stray = true → d.active ≠ none)
    (done : d.submit s m t = .ok (how, d', s', m')) :
    d'.pending stray = d.pending stray ++ [t] ∧ (stray = true → d'.active ≠ none) := by
  cases stray with
  | false => exact ⟨(outstanding_submit prompt done).2, nofun⟩
  | true =>
    rcases (submit_ok done).2 with ⟨-, idle, -⟩ | ⟨-, -, -, record, -, rfl⟩
    · exact absurd idle (strays rfl)
    · refine ⟨?_, strays⟩
      rw [pending, if_pos rfl, List.map_append, pending, if_pos rfl]
      rfl

/-- What is in flight has finished. If it was stray nothing that is pending has. -/
theorem Device.pending_of_left (left : d.outstanding = t :: d'.outstanding)
    (busy : d.active ≠ none) : d.pending true = d'.pending false := by
  obtain ⟨finished, active⟩ := Option.ne_none_iff_exists'.mp busy
  rw [outstanding, active] at left
  exact (List.cons.inj left).2

theorem Device.pending_cancel (d : Device) (m : Memory) (owner : ProcessId) (stray : Bool) :
    ((d.cancel m owner).2.1.pending stray).Sublist (d.pending stray) := by
  have fewer : ((d.cancel m owner).2.1.waiting.map (·.transfer)).Sublist
      (d.waiting.map (·.transfer)) := by
    rw [waiting_cancel]
    exact List.filter_sublist.map _
  rw [pending, pending]
  cases stray with
  | true => exact fewer
  | false =>
    rw [cancel_eq] at fewer ⊢
    exact List.Sublist.append_left fewer _

/-- The unfinished transfers of the process in a slot. -/
def Registry.unfinished (r : Registry) (d : Device) (stray : Bool) (i : Nat) : List Transfer :=
  r.transfersAt i (d.pending stray)

/-- The processes have no more unfinished transfers than they may have. -/
structure Excused (r : Registry) (d : Device) (stray : Bool) (lapses : Nat → Nat) : Prop where
  prompt : d.Prompt
  /-- Only what is in flight can be stray. -/
  strays : stray = true → d.active ≠ none
  owners : ∀ w ∈ d.waiting, ∃ i, r.table.resolve w.transfer.owner = some i
  bound : ∀ i, (r.unfinished d stray i).length ≤ (r.waitsAt i).toNat + lapses i

/-- One more lapse of the process in a slot. -/
def lapse (lapses : Nat → Nat) (i : Nat) : Nat → Nat :=
  fun j => if i = j then lapses j + 1 else lapses j

theorem lapse_self (lapses : Nat → Nat) (i : Nat) : lapse lapses i i = lapses i + 1 := if_pos rfl

theorem le_lapse (lapses : Nat → Nat) (i j : Nat) : lapses j ≤ lapse lapses i j := by
  rw [lapse]
  split <;> omega

namespace Excused

open Registry ProcessTable

theorem device (h : Excused r d stray lapses) (active : d'.active = d.active)
    (waiting : d'.waiting = d.waiting) : Excused r d' stray lapses := by
  have same := Device.pending_congr active waiting stray
  refine ⟨fun idle => ?_, fun marked => ?_, ?_, fun i => ?_⟩
  · rw [waiting]
    exact h.prompt (active.symm.trans idle)
  · rw [active]
    exact h.strays marked
  · rw [waiting]
    exact h.owners
  · rw [unfinished, same]
    exact h.bound i

/-- Nobody who waits is let go. -/
theorem registry (h : Excused r d stray lapses) (slots : r.table.SameSlots r'.table)
    (keep : ∀ i, r.waitsAt i = true → r'.waitsAt i = true) : Excused r' d stray lapses := by
  refine ⟨h.prompt, h.strays, fun w waits => ?_, fun i => ?_⟩
  · rw [slots.resolve]
    exact h.owners w waits
  · have more : (r.waitsAt i).toNat ≤ (r'.waitsAt i).toNat := by
      cases waits : r.waitsAt i with
      | false => exact Nat.zero_le _
      | true => rw [keep i waits]
    rw [unfinished, transfersAt_slots slots]
    exact Nat.le_trans (h.bound i) (Nat.add_le_add_right more _)

theorem same (h : Excused r d stray lapses) (same : r.SameWaits r') : Excused r' d stray lapses :=
  h.registry same.slots fun i waits => (same.waits i).trans waits

/-- A process that waits is let go, whatever has become of its transfers. -/
theorem letGo (h : Excused r d stray lapses) (slots : r.table.SameSlots r'.table)
    (others : ∀ j, i ≠ j → r'.waitsAt j = r.waitsAt j) :
    Excused r' d stray (lapse lapses i) := by
  refine ⟨h.prompt, h.strays, fun w waits => ?_, fun j => ?_⟩
  · rw [slots.resolve]
    exact h.owners w waits
  · have bound := h.bound j
    rw [unfinished] at bound
    rw [unfinished, transfersAt_slots slots]
    by_cases own : i = j
    · subst own
      have most := (r.waitsAt i).toNat_le
      rw [lapse_self]
      omega
    · rw [others j own, lapse, if_neg own]
      exact bound

/-- The process whose transfer is accepted waits from now on. -/
theorem park (h : Excused r d stray lapses) (resolved : r.table.resolve t.owner = some i)
    (free : r.waitsAt i = false) (done : d.submit s m t = .ok (how, d', s', m'))
    (slots : r.table.SameSlots r'.table) (waits : ∀ j, r'.waitsAt j =
      if r.table.resolve t.owner = some j then true else r.waitsAt j) :
    Excused r' d' stray lapses := by
  obtain ⟨pending, strays⟩ := Device.pending_submit h.prompt h.strays done
  refine ⟨(Device.outstanding_submit h.prompt done).1, strays, fun w member => ?_, fun j => ?_⟩
  · rw [slots.resolve]
    rcases Device.submit_cases done with ⟨same, -⟩ | ⟨record, -, appended⟩
    · rw [same] at member
      exact h.owners w member
    · rw [appended] at member
      rcases List.mem_append.mp member with old | new
      · exact h.owners w old
      · rw [List.mem_singleton.mp new]
        exact ⟨i, resolved⟩
  · have bound := h.bound j
    rw [unfinished, transfersAt_slots slots, pending, transfersAt_append, List.length_append, waits]
    rw [unfinished] at bound
    by_cases own : r.table.resolve t.owner = some j
    · obtain rfl := Option.some.inj (resolved.symm.trans own)
      rw [free, Bool.toNat_false] at bound
      rw [if_pos own, transfersAt_self own, List.length_singleton, Bool.toNat_true]
      omega
    · rw [if_neg own, transfersAt_other own, List.length_nil]
      exact bound

/-- One transfer fewer is unfinished when that in flight has finished. -/
theorem length_unfinished (left : d.outstanding = t :: d'.outstanding)
    (slots : r.table.SameSlots r'.table) (j : Nat) :
    (r.unfinished d false j).length =
      (r.transfersAt j [t]).length + (r'.unfinished d' false j).length := by
  rw [unfinished, unfinished, transfersAt_slots slots, ← List.length_append,
    ← transfersAt_append]
  exact congrArg (fun l => (r.transfersAt j l).length) left

/-- The transfer in flight has finished, and its owner does not wait any more. If it was stray, who
has got the handle of the owner is let go for nothing. -/
theorem release {lapses' : Nat → Nat} (h : Excused r d stray lapses) (prompt : d'.Prompt)
    (left : d.outstanding = t :: d'.outstanding) (rest : ∀ w ∈ d'.waiting, w ∈ d.waiting)
    (slots : r.table.SameSlots r'.table) (waits : ∀ j, r'.waitsAt j =
      if r.table.resolve t.owner = some j then false else r.waitsAt j)
    (more : ∀ j, lapses j ≤ lapses' j)
    (counted : stray = true → ∀ j, r.table.resolve t.owner = some j → r.waitsAt j = true →
      lapses j + 1 ≤ lapses' j) : Excused r' d' false lapses' := by
  refine ⟨prompt, nofun, fun w member => ?_, fun j => ?_⟩
  · rw [slots.resolve]
    exact h.owners w (rest w member)
  have bound := h.bound j
  have more := more j
  have most := (r.waitsAt j).toNat_le
  rw [waits]
  cases stray with
  | false =>
    rw [length_unfinished left slots] at bound
    by_cases own : r.table.resolve t.owner = some j
    · rw [transfersAt_self own, List.length_singleton] at bound
      rw [if_pos own, Bool.toNat_false]
      omega
    · rw [if_neg own]
      omega
  | true =>
    rw [unfinished, Device.pending_of_left left (h.strays rfl)] at bound
    rw [unfinished, transfersAt_slots slots]
    by_cases own : r.table.resolve t.owner = some j
    · rw [if_pos own, Bool.toNat_false]
      cases waited : r.waitsAt j with
      | false =>
        rw [waited, Bool.toNat_false] at bound
        omega
      | true =>
        have counted := counted rfl j own waited
        rw [waited, Bool.toNat_true] at bound
        omega
    · rw [if_neg own]
      omega

/-! ### Processes come and go -/

/-- Transfers of a process that wait are dropped. -/
theorem cancel (h : Excused r d stray lapses) (m : Memory) (owner : ProcessId) :
    Excused r (d.cancel m owner).2.1 stray lapses := by
  refine ⟨h.prompt.cancel m owner, fun marked => ?_, fun w member => ?_, fun j => ?_⟩
  · rw [Device.cancel_eq]
    exact h.strays marked
  · rw [Device.waiting_cancel] at member
    exact h.owners w (List.mem_of_mem_filter member)
  · exact ((d.pending_cancel m owner stray).filter _).length_le.trans (h.bound j)

/-- A process goes. What waits is of others, and what is in flight is not his any more. -/
theorem remove (h : Excused r d stray lapses) (leaves : r.table.Leaves r'.table id)
    (waits : ∀ j, id.index ≠ j → r'.waitsAt j = r.waitsAt j)
    (others : ∀ w ∈ d.waiting, w.transfer.owner ≠ id) : Excused r' d stray lapses := by
  refine ⟨h.prompt, h.strays, fun w member => ?_, fun j => ?_⟩
  · obtain ⟨j, resolved⟩ := h.owners w member
    exact ⟨j, leaves.resolve.mpr ⟨others w member, resolved⟩⟩
  · by_cases own : id.index = j
    · have vacant : ¬ r'.table.Live j := fun live => ((leaves.live j).mp live).1 own
      rw [unfinished, transfersAt_vacant vacant]
      exact Nat.zero_le _
    · have fewer : (r'.unfinished d stray j).length ≤ (r.unfinished d stray j).length := by
        refine (List.monotone_filter_right _ fun t owner => ?_).length_le
        exact decide_eq_true (leaves.resolve.mp (of_decide_eq_true owner)).2
      rw [waits j own]
      exact fewer.trans (h.bound j)

/-- A process goes together with its transfers that wait. -/
theorem leave (h : Excused r d stray lapses) (leaves : r.table.Leaves r'.table id)
    (waits : ∀ j, id.index ≠ j → r'.waitsAt j = r.waitsAt j) (m : Memory) :
    Excused r' (d.cancel m id).2.1 stray lapses := by
  refine (h.cancel m id).remove leaves waits fun w member => ?_
  rw [Device.waiting_cancel] at member
  exact of_decide_eq_true (List.mem_filter.mp member).2

/-- A process comes. What is unfinished belongs to others. -/
theorem join (h : Excused r d stray lapses) (joins : r.table.Joins r'.table id)
    (waits : ∀ j, r'.waitsAt j = r.waitsAt j)
    (owned : ∀ t ∈ d.pending stray, ∃ i, r.table.resolve t.owner = some i) :
    Excused r' d stray lapses := by
  refine ⟨h.prompt, h.strays, fun w member => ?_, fun j => ?_⟩
  · obtain ⟨i, resolved⟩ := h.owners w member
    exact ⟨i, joins.resolve_of_resolve resolved⟩
  · have same : r'.unfinished d stray j = r.unfinished d stray j := by
      refine List.filter_congr fun t member => ?_
      obtain ⟨i, resolved⟩ := owned t member
      rw [resolved, joins.resolve_of_resolve resolved]
    rw [same, waits]
    exact h.bound j

/-- Whoever has no unfinished transfer has no lapses. -/
theorem forgive (h : Excused r d stray lapses) : Excused r d stray fun i =>
    if (r.unfinished d stray i).isEmpty then 0 else lapses i := by
  refine ⟨h.prompt, h.strays, h.owners, fun i => ?_⟩
  cases unfinished : r.unfinished d stray i with
  | nil => exact Nat.zero_le _
  | cons t rest =>
    have bound := h.bound i
    rw [unfinished] at bound
    exact bound

/-- What is in flight may be left out. -/
theorem mark (h : Excused r d stray lapses) (busy : d.active ≠ none) :
    Excused r d true lapses := by
  refine ⟨h.prompt, fun _ => busy, h.owners, fun i => ?_⟩
  have fewer : (d.pending true).Sublist (d.pending stray) := by
    cases stray with
    | true => exact List.Sublist.refl _
    | false => exact List.sublist_append_right _ _
  exact (fewer.filter _).length_le.trans (h.bound i)

end Excused

end TrapKernel
