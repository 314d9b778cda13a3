import TrapKernel.Proofs.Process.Running

/-!
# The records of the processes

Every process has a record, the address of a block of memory. Which records there are changes only
when a process comes or goes.
-/

namespace TrapKernel

/-- A list of what is found in the slots, when one more slot is filled. -/
theorem filterMap_range_insert {α : Type} {f g : Nat → Option α} {most i : Nat} {a : α}
    (lt : i < most) (others : ∀ j, i ≠ j → f j = g j) (filled : f i = some a)
    (vacant : g i = none) :
    ((List.range most).filterMap f).Perm (a :: (List.range most).filterMap g) := by
  obtain ⟨below, above, split⟩ := List.append_of_mem (List.mem_range.mpr lt)
  have nodup : (below ++ i :: above).Nodup := split ▸ List.nodup_range
  have outside := (List.nodup_cons.mp (List.nodup_middle.mp nodup)).1
  have sameBelow : below.filterMap f = below.filterMap g := by
    apply List.filterMap_congr
    intro j hj
    apply others
    rintro rfl
    exact outside (List.mem_append_left above hj)
  have sameAbove : above.filterMap f = above.filterMap g := by
    apply List.filterMap_congr
    intro j hj
    apply others
    rintro rfl
    exact outside (List.mem_append_right below hj)
  rw [split, List.filterMap_append, List.filterMap_append, List.filterMap_cons_some filled,
    List.filterMap_cons_none vacant, sameBelow, sameAbove]
  exact List.perm_middle

namespace Registry

open ProcessTable

variable {r r' : Registry} {i : Nat} {p : Process}

/-- The records of all processes. -/
def records (r : Registry) : List Nat := r.table.entries.map (·.2.record)

/-- The record of the process in a slot. -/
def recordAt (r : Registry) (i : Nat) : Option Nat := (r.table.process? i).map (·.record)

theorem process?_eq_none {t : ProcessTable} (le : t.slots.length ≤ i) : t.process? i = none := by
  rw [process?, node?, List.getElem?_eq_none le]
  rfl

/-- Looking further than the last slot finds no more records. -/
theorem records_eq {most : Nat} (enough : r.table.slots.length ≤ most) :
    r.records = (List.range most).filterMap r.recordAt := by
  obtain ⟨further, rfl⟩ := Nat.exists_eq_add_of_le enough
  have nothing :
      ((List.range further).map (r.table.slots.length + ·)).filterMap r.recordAt = [] := by
    rw [List.filterMap_eq_nil_iff]
    intro j hj
    obtain ⟨d, -, rfl⟩ := List.mem_map.mp hj
    rw [recordAt, process?_eq_none (Nat.le_add_right ..)]
    rfl
  rw [List.range_add, List.filterMap_append, nothing, List.append_nil, records, entries,
    List.map_filterMap]
  apply List.filterMap_congr
  intro j _
  rw [recordAt, Option.map_map]
  rfl

theorem SameRecords.records_eq (h : r.SameRecords r') : r'.records = r.records := by
  have length : r'.table.slots.length = r.table.slots.length := h.slots.length
  rw [Registry.records_eq (r := r') (Nat.le_of_eq length), Registry.records_eq (Nat.le_refl _)]
  apply List.filterMap_congr
  intro i _
  exact h.records i

/-- Only slot `i` makes a difference. -/
theorem records_insert {record : Nat} (others : ∀ j, i ≠ j → r'.recordAt j = r.recordAt j)
    (filled : r'.recordAt i = some record) (vacant : r.recordAt i = none) :
    r'.records.Perm (record :: r.records) := by
  let most := max (i + 1) (max r.table.slots.length r'.table.slots.length)
  have lt : i < most := by omega
  rw [records_eq (r := r) (show r.table.slots.length ≤ most by omega),
    records_eq (r := r') (show r'.table.slots.length ≤ most by omega)]
  exact filterMap_range_insert lt others filled vacant

theorem Arrived.records_perm {record : Nat} (h : r.Arrived r' i record) :
    r'.records.Perm (record :: r.records) := by
  apply records_insert (i := i)
  · intro j ne
    rw [recordAt, h.records, if_neg ne, recordAt]
  · rw [recordAt, h.records, if_pos rfl]
  · rw [recordAt, Option.not_isSome_iff_eq_none.mp h.fresh]
    rfl

theorem Gone.records_perm (h : r.Gone r' i) (found : r.table.process? i = some p) :
    r.records.Perm (p.record :: r'.records) := by
  apply records_insert (i := i)
  · intro j ne
    rw [recordAt, recordAt, h.records, if_neg ne]
  · rw [recordAt, found]
    rfl
  · rw [recordAt, h.records, if_pos rfl]

end Registry

end TrapKernel
