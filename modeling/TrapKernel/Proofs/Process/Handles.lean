import Mathlib.Algebra.Group.Nat.Defs
import TrapKernel.Proofs.Process.Table

/-!
# Handles that were used

A handle stands for one process only, as long as the generations of the slots do not begin anew.
`Knows` says that a handle is that of a process that is there, or of one that has gone. A process
that comes gets a handle that the table does not know, and a handle that the table knows it knows
ever after; the latter needs a bound on how many processes went, which `Dated` gives.
-/

namespace TrapKernel

namespace ProcessTable

variable {t t' : ProcessTable} {i j n : Nat} {id id' : ProcessId} {p : Process}

/-- The process of the handle is there, or has gone. -/
def Knows (t : ProcessTable) (id : ProcessId) : Prop :=
  ∃ g, t.generation? id.index = some g ∧
    (id.generation.toNat < g.toNat ∨ id.generation = g ∧ t.Live id.index)

/-- At most `n` processes have left each slot. -/
def Dated (t : ProcessTable) (n : Nat) : Prop := ∀ i g, t.generation? i = some g → g.toNat ≤ n

theorem knows_of_resolve (resolved : t.resolve id = some i) : t.Knows id := by
  obtain ⟨rfl, generation, live⟩ := resolve_eq_some.mp resolved
  exact ⟨id.generation, generation, Or.inr ⟨rfl, live⟩⟩

theorem SameSlots.knows (h : t.SameSlots t') : t'.Knows id ↔ t.Knows id := by
  rw [Knows, h.generation, h.live, Knows]

theorem SameSlots.dated (h : t.SameSlots t') (dated : t.Dated n) : t'.Dated n := by
  intro i g generation
  rw [h.generation] at generation
  exact dated i g generation

/-! ### A process comes -/

/-- The process with this handle came, into a slot that was free or is new. -/
structure Joins (t t' : ProcessTable) (id : ProcessId) : Prop where
  fresh : ¬ t.Live id.index
  resolved : t'.resolve id = some id.index
  live : ∀ j, t'.Live j ↔ id.index = j ∨ t.Live j
  generation : ∀ j, t'.generation? j = t.generation? j ∨
    t.generation? j = none ∧ t'.generation? j = some 0

namespace Joins

theorem knows (h : t.Joins t' id) (known : t.Knows id') : t'.Knows id' := by
  obtain ⟨g, generation, used⟩ := known
  refine ⟨g, ?_, used.imp_right fun current => ⟨current.1, (h.live _).mpr (Or.inr current.2)⟩⟩
  rcases h.generation id'.index with same | ⟨none, -⟩
  · exact same.trans generation
  · rw [generation] at none
    cases none

/-- The handle is new. -/
theorem stranger (h : t.Joins t' id) : ¬ t.Knows id := by
  rintro ⟨g, generation, used⟩
  obtain ⟨-, generation', -⟩ := resolve_eq_some.mp h.resolved
  rcases h.generation id.index with same | ⟨none, -⟩
  · rw [generation', generation] at same
    obtain rfl := Option.some.inj same
    rcases used with older | ⟨-, live⟩
    · exact Nat.lt_irrefl _ older
    · exact h.fresh live
  · rw [generation] at none
    cases none

theorem dated (h : t.Joins t' id) (dated : t.Dated n) : t'.Dated n := by
  intro j g generation
  rcases h.generation j with same | ⟨-, zero⟩
  · exact dated j g (same.symm.trans generation)
  · rw [zero] at generation
    obtain rfl := Option.some.inj generation
    exact Nat.zero_le n

theorem resolve (h : t.Joins t' id) (resolved : t'.resolve id' = some j) :
    id' = id ∨ t.resolve id' = some j := by
  obtain ⟨index, generation, live⟩ := resolve_eq_some.mp resolved
  rcases (h.live j).mp live with rfl | live
  · exact Or.inl (resolve_injective resolved h.resolved)
  · refine Or.inr (resolve_eq_some.mpr ⟨index, ?_, live⟩)
    rcases h.generation j with same | ⟨none, -⟩
    · exact same.symm.trans generation
    · have present := isSome_generation?.mpr live.lt
      rw [none] at present
      cases present

theorem resolve_of_resolve (h : t.Joins t' id) (resolved : t.resolve id' = some j) :
    t'.resolve id' = some j := by
  obtain ⟨index, generation, live⟩ := resolve_eq_some.mp resolved
  refine resolve_eq_some.mpr ⟨index, ?_, (h.live j).mpr (Or.inr live)⟩
  rcases h.generation j with same | ⟨none, -⟩
  · exact same.trans generation
  · rw [generation] at none
    cases none

theorem sameSlots {t'' : ProcessTable} (h : t.Joins t' id) (same : t'.SameSlots t'') :
    t.Joins t'' id where
  fresh := h.fresh
  resolved := (same.resolve id).trans h.resolved
  live := fun j => (same.live j).trans (h.live j)
  generation := by
    intro j
    rw [same.generation]
    exact h.generation j

end Joins

theorem generation?_insert (t : ProcessTable) (p : Process) (j : Nat) :
    (t.insert p).2.generation? j = t.generation? j ∨
      t.generation? j = none ∧ (t.insert p).2.generation? j = some 0 := by
  cases vacant : t.vacant with
  | nil =>
    simp only [insert, vacant, generation?]
    rcases Nat.lt_trichotomy j t.slots.length with lt | rfl | gt
    · rw [List.getElem?_append_left lt]
      exact Or.inl rfl
    · rw [List.getElem?_append_right (Nat.le_refl _), List.getElem?_eq_none (Nat.le_refl _),
        Nat.sub_self]
      exact Or.inr ⟨rfl, rfl⟩
    · rw [List.getElem?_eq_none, List.getElem?_eq_none (Nat.le_of_lt gt)]
      · exact Or.inl rfl
      · rw [List.length_append, List.length_singleton]
        exact gt
  | cons i rest =>
    left
    simp only [insert, vacant, generation?, List.getElem?_modify]
    cases t.slots[j]? with
    | none => rfl
    | some s => by_cases eq : i = j <;> simp [eq]

theorem Wellformed.insert_joins (wf : t.Wellformed) (p : Process) :
    t.Joins (t.insert p).2 (t.insert p).1 := by
  obtain ⟨i, t', inserted, slot⟩ := insert_spec wf p
  have generation := generation?_insert t p
  rw [inserted] at generation ⊢
  have live : ∀ j, t'.Live j ↔ i = j ∨ t.Live j := by
    intro j
    rw [ProcessTable.Live, slot.process]
    split
    · rename_i eq
      simp [eq]
    · rename_i ne
      simp [ne, ProcessTable.Live]
  exact ⟨slot.fresh, resolve_idAt ((live i).mpr (Or.inl rfl)), live, generation⟩

/-! ### A process goes -/

/-- The process with this handle went. -/
structure Leaves (t t' : ProcessTable) (id : ProcessId) : Prop where
  resolved : t.resolve id = some id.index
  live : ∀ j, t'.Live j ↔ id.index ≠ j ∧ t.Live j
  generation : ∀ j, t'.generation? j =
    if id.index = j then (t.generation? j).map (· + 1) else t.generation? j

namespace Leaves

/-- The generation of the slot moves on. -/
theorem generation_self (h : t.Leaves t' id) :
    t'.generation? id.index = some (id.generation + 1) := by
  rw [h.generation, if_pos rfl, (resolve_eq_some.mp h.resolved).2.1]
  rfl

theorem next_generation (h : t.Leaves t' id) (dated : t.Dated n) (room : n + 1 < 2 ^ 32) :
    (id.generation + 1).toNat = id.generation.toNat + 1 := by
  have le := dated _ _ (resolve_eq_some.mp h.resolved).2.1
  rw [UInt32.toNat_add, UInt32.toNat_one, Nat.mod_eq_of_lt]
  omega

theorem knows (h : t.Leaves t' id) (dated : t.Dated n) (room : n + 1 < 2 ^ 32)
    (known : t.Knows id') : t'.Knows id' := by
  obtain ⟨g, generation, used⟩ := known
  by_cases eq : id.index = id'.index
  · have same := (resolve_eq_some.mp h.resolved).2.1
    rw [eq, generation] at same
    obtain rfl := Option.some.inj same
    refine ⟨id.generation + 1, eq ▸ h.generation_self, Or.inl ?_⟩
    rw [h.next_generation dated room]
    rcases used with older | ⟨current, -⟩
    · omega
    · rw [current]
      omega
  · refine ⟨g, ?_, used.imp_right fun current => ⟨current.1, (h.live _).mpr ⟨eq, current.2⟩⟩⟩
    rw [h.generation, if_neg eq]
    exact generation

theorem dated (h : t.Leaves t' id) (dated : t.Dated n) (room : n + 1 < 2 ^ 32) :
    t'.Dated (n + 1) := by
  intro j g generation
  by_cases eq : id.index = j
  · subst eq
    rw [h.generation_self] at generation
    obtain rfl := Option.some.inj generation
    rw [h.next_generation dated room]
    exact Nat.succ_le_succ (dated _ _ (resolve_eq_some.mp h.resolved).2.1)
  · rw [h.generation, if_neg eq] at generation
    exact Nat.le_succ_of_le (dated j g generation)

/-- The other handles are as good as before. -/
theorem resolve (h : t.Leaves t' id) :
    t'.resolve id' = some j ↔ id' ≠ id ∧ t.resolve id' = some j := by
  constructor
  · intro resolved
    obtain ⟨index, generation, live⟩ := resolve_eq_some.mp resolved
    obtain ⟨ne, live⟩ := (h.live j).mp live
    rw [h.generation, if_neg ne] at generation
    refine ⟨?_, resolve_eq_some.mpr ⟨index, generation, live⟩⟩
    rintro rfl
    exact ne index
  · rintro ⟨other, resolved⟩
    obtain ⟨index, generation, live⟩ := resolve_eq_some.mp resolved
    have ne : id.index ≠ j := by
      rintro rfl
      exact other (resolve_injective resolved h.resolved)
    refine resolve_eq_some.mpr ⟨index, ?_, (h.live j).mpr ⟨ne, live⟩⟩
    rw [h.generation, if_neg ne]
    exact generation

theorem sameSlots {t₀ : ProcessTable} (same : t₀.SameSlots t) (h : t.Leaves t' id) :
    t₀.Leaves t' id where
  resolved := (same.resolve id).symm.trans h.resolved
  live := by
    intro j
    rw [h.live, same.live]
  generation := by
    intro j
    rw [h.generation, same.generation]

end Leaves

theorem remove_leaves (removed : t.remove id = some (p, t')) :
    t.Leaves t' id ∧ ∀ j, t'.process? j = if id.index = j then none else t.process? j := by
  unfold remove at removed
  obtain ⟨i, resolved, rest⟩ := Option.bind_eq_some_iff.mp removed
  obtain ⟨process, -, made⟩ := Option.bind_eq_some_iff.mp rest
  obtain ⟨rfl, -, live⟩ := resolve_eq_some.mp resolved
  cases made
  let t' : ProcessTable :=
    { slots := t.slots.modify id.index fun s => ⟨s.generation + 1, none⟩
      vacant := id.index :: t.vacant, count := t.count - 1 }
  have node : ∀ j, t'.node? j = if id.index = j then none else t.node? j :=
    node?_written rfl live.lt fun _ => rfl
  refine ⟨⟨resolved, ?_, ?_⟩, process?_written node⟩
  · intro j
    rw [live_written node]
    split
    · rename_i eq
      simp [eq]
    · rename_i ne
      simp [ne]
  · intro j
    simp only [generation?, List.getElem?_modify]
    split
    · cases t.slots[j]? <;> rfl
    · cases t.slots[j]? <;> rfl

end ProcessTable

end TrapKernel
