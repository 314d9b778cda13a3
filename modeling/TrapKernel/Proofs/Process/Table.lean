import Mathlib.Data.List.Nodup
import Mathlib.Data.List.Range
import TrapKernel.Process.Table
import TrapKernel.Proofs.Thread

/-!
# Slots and handles

What the operations of the table do to the processes, to the links and to the handles. The links of
a slot and the process in it are looked at apart: writing a link changes no process, and the other
way round. `Rewired` says that a table differs from another in its links only.
-/

namespace TrapKernel

namespace ProcessTable

variable {t t' t'' : ProcessTable} {i j : Nat}

/-- The neighbours that a slot names. -/
def links (t : ProcessTable) (i : Nat) : Option Links :=
  (t.node? i).map fun n => ⟨n.next, n.prev⟩

/-- There is a process in the slot. -/
def Live (t : ProcessTable) (i : Nat) : Prop := (t.process? i).isSome

/-- The generation of a slot. -/
def generation? (t : ProcessTable) (i : Nat) : Option UInt32 := t.slots[i]?.map (·.generation)

theorem live_iff : t.Live i ↔ ∃ p, t.process? i = some p := Option.isSome_iff_exists

theorem isSome_node? : (t.node? i).isSome ↔ t.Live i := by
  rw [Live, process?, Option.isSome_map]

theorem isSome_links : (t.links i).isSome ↔ t.Live i := by
  rw [links, Option.isSome_map, isSome_node?]

theorem isSome_generation? : (t.generation? i).isSome ↔ i < t.slots.length := by
  rw [generation?, Option.isSome_map, isSome_getElem?]

theorem Live.lt (h : t.Live i) : i < t.slots.length := by
  rw [← isSome_node?, node?] at h
  by_contra ge
  rw [List.getElem?_eq_none (Nat.le_of_not_lt ge)] at h
  cases h

theorem idAt_eq : t.idAt i = ⟨i, (t.generation? i).getD 0⟩ := rfl

theorem resolve_eq_some {id : ProcessId} :
    t.resolve id = some i ↔ id.index = i ∧ t.generation? i = some id.generation ∧ t.Live i := by
  rw [resolve, generation?, ← isSome_node?, node?]
  cases slot : t.slots[id.index]? with
  | none =>
    simp only [reduceCtorEq, false_iff]
    rintro ⟨rfl, generation, -⟩
    rw [slot] at generation
    cases generation
  | some s =>
    by_cases current : s.generation = id.generation ∧ s.node.isSome
    · simp only [if_pos current, Option.some.injEq]
      constructor
      · rintro rfl
        rw [slot]
        exact ⟨rfl, congrArg some current.1, current.2⟩
      · exact And.left
    · simp only [if_neg current, reduceCtorEq, false_iff]
      rintro ⟨rfl, generation, live⟩
      rw [slot] at generation live
      exact current ⟨Option.some.inj generation, live⟩

/-- The handle of a live slot resolves to it. -/
theorem resolve_idAt (live : t.Live i) : t.resolve (t.idAt i) = some i := by
  rw [resolve_eq_some, idAt_eq]
  obtain ⟨g, generation⟩ := Option.isSome_iff_exists.mp (isSome_generation?.mpr live.lt)
  rw [generation]
  exact ⟨rfl, rfl, live⟩

theorem idAt_of_resolve {id : ProcessId} (resolved : t.resolve id = some i) : t.idAt i = id := by
  obtain ⟨rfl, generation, -⟩ := resolve_eq_some.mp resolved
  rw [idAt_eq, generation]
  rfl

/-- Only one handle is good for a slot. -/
theorem resolve_injective {id id' : ProcessId} (resolved : t.resolve id = some i)
    (resolved' : t.resolve id' = some i) : id = id' :=
  (idAt_of_resolve resolved).symm.trans (idAt_of_resolve resolved')

/-! ### Writing a slot -/

theorem node?_modify (f : Node → Node) :
    (t.modify i f).node? j = if i = j then (t.node? j).map f else t.node? j := by
  rw [node?, modify, List.getElem?_modify, node?]
  by_cases eq : i = j
  · simp only [if_pos eq]
    cases t.slots[j]? <;> rfl
  · simp only [if_neg eq]
    cases t.slots[j]? <;> rfl

theorem generation?_modify (f : Node → Node) : (t.modify i f).generation? j = t.generation? j := by
  rw [generation?, modify, List.getElem?_modify, generation?]
  by_cases eq : i = j
  · simp only [if_pos eq]
    cases t.slots[j]? <;> rfl
  · simp only [if_neg eq]
    cases t.slots[j]? <;> rfl

@[simp] theorem links_setNext (next : Option Nat) :
    (t.setNext i next).links j =
      if i = j then (t.links j).map ({ · with next }) else t.links j := by
  rw [links, setNext, node?_modify, links]
  by_cases eq : i = j
  · simp only [if_pos eq]
    cases t.node? j <;> rfl
  · simp only [if_neg eq]

@[simp] theorem links_setPrev (prev : Option Nat) :
    (t.setPrev i prev).links j =
      if i = j then (t.links j).map ({ · with prev }) else t.links j := by
  rw [links, setPrev, node?_modify, links]
  by_cases eq : i = j
  · simp only [if_pos eq]
    cases t.node? j <;> rfl
  · simp only [if_neg eq]

@[simp] theorem links_modifyProcess (f : Process → Process) :
    (t.modifyProcess i f).links j = t.links j := by
  rw [links, modifyProcess, node?_modify, links]
  by_cases eq : i = j
  · simp only [if_pos eq]
    cases t.node? j <;> rfl
  · simp only [if_neg eq]

@[simp] theorem process?_modifyProcess (f : Process → Process) :
    (t.modifyProcess i f).process? j =
      if i = j then (t.process? j).map f else t.process? j := by
  rw [process?, modifyProcess, node?_modify, process?]
  by_cases eq : i = j
  · simp only [if_pos eq]
    cases t.node? j <;> rfl
  · simp only [if_neg eq]

/-! ### Tables with the same processes -/

/-- The two tables have the same slots, and the same of them are in use. -/
structure SameSlots (t t' : ProcessTable) : Prop where
  generation : ∀ i, t'.generation? i = t.generation? i
  live : ∀ i, t'.Live i ↔ t.Live i
  vacant : t'.vacant = t.vacant
  count : t'.count = t.count

/-- The two tables differ in their links only. -/
structure Rewired (t t' : ProcessTable) : Prop extends SameSlots t t' where
  process : ∀ i, t'.process? i = t.process? i

theorem SameSlots.modify (f : Node → Node) : t.SameSlots (t.modify i f) := by
  refine ⟨fun j => generation?_modify f, fun j => ?_, rfl, rfl⟩
  rw [← isSome_node?, ← isSome_node?, node?_modify]
  by_cases eq : i = j
  · rw [if_pos eq, Option.isSome_map]
  · rw [if_neg eq]

theorem SameSlots.symm (h : t.SameSlots t') : t'.SameSlots t where
  generation := fun i => (h.generation i).symm
  live := fun i => (h.live i).symm
  vacant := h.vacant.symm
  count := h.count.symm

theorem SameSlots.trans (h : t.SameSlots t') (h' : t'.SameSlots t'') : t.SameSlots t'' where
  generation := fun i => (h'.generation i).trans (h.generation i)
  live := fun i => (h'.live i).trans (h.live i)
  vacant := h'.vacant.trans h.vacant
  count := h'.count.trans h.count

theorem SameSlots.resolve (h : t.SameSlots t') (id : ProcessId) : t'.resolve id = t.resolve id := by
  apply Option.ext
  intro i
  rw [resolve_eq_some, resolve_eq_some, h.generation, h.live]

theorem SameSlots.idAt (h : t.SameSlots t') (i : Nat) : t'.idAt i = t.idAt i := by
  rw [idAt_eq, idAt_eq, h.generation]

theorem SameSlots.length (h : t.SameSlots t') : t'.slots.length = t.slots.length := by
  have same : ∀ i, i < t'.slots.length ↔ i < t.slots.length := by
    intro i
    rw [← isSome_generation?, ← isSome_generation?, h.generation]
  apply Nat.le_antisymm
  · exact Nat.le_of_not_lt fun lt => Nat.lt_irrefl _ ((same _).mp lt)
  · exact Nat.le_of_not_lt fun lt => Nat.lt_irrefl _ ((same _).mpr lt)

theorem Rewired.refl (t : ProcessTable) : t.Rewired t :=
  ⟨⟨fun _ => rfl, fun _ => Iff.rfl, rfl, rfl⟩, fun _ => rfl⟩

theorem Rewired.trans (h : t.Rewired t') (h' : t'.Rewired t'') : t.Rewired t'' :=
  ⟨h.toSameSlots.trans h'.toSameSlots, fun i => (h'.process i).trans (h.process i)⟩

theorem Rewired.setNext (next : Option Nat) : t.Rewired (t.setNext i next) := by
  refine ⟨SameSlots.modify _, fun j => ?_⟩
  rw [process?, ProcessTable.setNext, node?_modify, process?]
  by_cases eq : i = j
  · rw [if_pos eq, Option.map_map]
    rfl
  · rw [if_neg eq]

theorem Rewired.setPrev (prev : Option Nat) : t.Rewired (t.setPrev i prev) := by
  refine ⟨SameSlots.modify _, fun j => ?_⟩
  rw [process?, ProcessTable.setPrev, node?_modify, process?]
  by_cases eq : i = j
  · rw [if_pos eq, Option.map_map]
    rfl
  · rw [if_neg eq]

/-! ### Entries -/

theorem mem_entries {p : Process} : (i, p) ∈ t.entries ↔ t.process? i = some p := by
  rw [entries, List.mem_filterMap]
  constructor
  · rintro ⟨j, -, eq⟩
    obtain ⟨q, process, same⟩ := Option.map_eq_some_iff.mp eq
    cases same
    exact process
  · intro process
    refine ⟨i, List.mem_range.mpr (Live.lt (live_iff.mpr ⟨p, process⟩)), ?_⟩
    rw [process]
    rfl

/-- The slots in use, in order. -/
theorem map_fst_entries :
    t.entries.map (·.1) = (List.range t.slots.length).filter fun i => (t.process? i).isSome := by
  rw [entries, List.map_filterMap]
  generalize List.range t.slots.length = l
  induction l with
  | nil => rfl
  | cons i l ih =>
    cases process : t.process? i with
    | none => simpa [process] using ih
    | some p => simpa [process] using ih

theorem nodup_entries : (t.entries.map (·.1)).Nodup := by
  rw [map_fst_entries]
  exact List.nodup_range.filter _

theorem position_eq_some {name : String} (found : t.position name = some i) :
    ∃ p, t.process? i = some p ∧ p.name = name := by
  obtain ⟨⟨j, p⟩, first, rfl⟩ := Option.map_eq_some_iff.mp found
  have member := List.mem_of_find?_eq_some first
  have named := List.find?_some first
  exact ⟨p, mem_entries.mp member, of_decide_eq_true named⟩

theorem position_eq_none {name : String} :
    t.position name = none ↔ ∀ i p, t.process? i = some p → p.name ≠ name := by
  rw [position, Option.map_eq_none_iff, List.find?_eq_none]
  constructor
  · intro none i p process
    simpa using none (i, p) (mem_entries.mpr process)
  · rintro none ⟨i, p⟩ member
    simpa using none i p (mem_entries.mp member)

/-! ### Slots come and go -/

/-- The vacant slots are the ones without a process, each of them once, and the table knows how many
processes it has. -/
structure Wellformed (t : ProcessTable) : Prop where
  nodup : t.vacant.Nodup
  mem_vacant : ∀ i, i ∈ t.vacant ↔ i < t.slots.length ∧ ¬ t.Live i
  count : t.count = t.slots.countP (·.node.isSome)

theorem wellformed_empty : empty.Wellformed :=
  ⟨List.nodup_nil, fun i => iff_of_false List.not_mem_nil fun slot => Nat.not_lt_zero i slot.1, rfl⟩

theorem process?_isSome (t : ProcessTable) (i : Nat) :
    (t.process? i).isSome = (t.slots[i]?.bind (·.node)).isSome := by
  rw [process?, Option.isSome_map, node?]

theorem length_entries (t : ProcessTable) :
    t.entries.length = t.slots.countP (·.node.isSome) := by
  have slots : (List.range t.slots.length).map (t.slots[·]?) = t.slots.map some := by
    apply List.ext_getElem?
    intro i
    by_cases lt : i < t.slots.length
    · simp [lt]
    · simp [lt]
  rw [entries, List.length_filterMap_eq_countP]
  have counted := List.countP_map (p := fun s => (s.bind (·.node)).isSome)
    (f := fun i : Nat => t.slots[i]?) (l := List.range t.slots.length)
  rw [slots, List.countP_map] at counted
  rw [show t.slots.countP (·.node.isSome) = _ from counted]
  apply List.countP_congr
  intro i _
  rw [Option.isSome_map, process?_isSome]
  rfl

theorem SameSlots.wellformed (h : t.SameSlots t') (wf : t.Wellformed) : t'.Wellformed := by
  refine ⟨h.vacant ▸ wf.nodup, fun i => ?_, ?_⟩
  · rw [h.vacant, wf.mem_vacant, h.length, h.live]
  · have entries : t'.entries.map (·.1) = t.entries.map (·.1) := by
      rw [map_fst_entries, map_fst_entries, h.length]
      apply List.filter_congr
      intro i _
      exact Bool.eq_iff_iff.mpr (h.live i)
    rw [h.count, wf.count, ← length_entries, ← length_entries, ← List.length_map (·.1), ← entries,
      List.length_map]

theorem countP_modify {slots : List Slot} {f : Slot → Slot} (lt : i < slots.length) :
    (slots.modify i f).countP (·.node.isSome) + (if slots[i].node.isSome then 1 else 0) =
      slots.countP (·.node.isSome) + if (f slots[i]).node.isSome then 1 else 0 := by
  have split : slots = slots.take i ++ slots[i] :: slots.drop (i + 1) := by simp
  have whole := congrArg (List.countP (·.node.isSome)) split
  rw [List.countP_append, List.countP_cons] at whole
  rw [List.modify_eq_take_cons_drop lt, List.countP_append, List.countP_cons]
  omega

/-! What is seen of a table in which one slot was written. -/

section Written

variable {n : Option Node}

theorem node?_written {f : Slot → Slot} (slots : t'.slots = t.slots.modify i f)
    (lt : i < t.slots.length) (written : ∀ s, (f s).node = n) (j : Nat) :
    t'.node? j = if i = j then n else t.node? j := by
  rw [node?, slots, List.getElem?_modify, node?]
  by_cases eq : i = j
  · subst eq
    simp [lt, written]
  · simp [eq]

variable (node : ∀ j, t'.node? j = if i = j then n else t.node? j) (j : Nat)
include node

theorem process?_written :
    t'.process? j = if i = j then n.map (·.process) else t.process? j := by
  rw [process?, node, process?]
  split <;> rfl

theorem links_written :
    t'.links j = if i = j then n.map fun n => ⟨n.next, n.prev⟩ else t.links j := by
  rw [links, node, links]
  split <;> rfl

theorem live_written : t'.Live j ↔ if i = j then n.isSome = true else t.Live j := by
  rw [← isSome_node?, node]
  split
  · rfl
  · exact isSome_node?

end Written

/-- Putting a process into a table: the slot was free, and no other one changes. -/
structure Inserted (t t' : ProcessTable) (i : Nat) (p : Process) : Prop where
  fresh : ¬ t.Live i
  process : ∀ j, t'.process? j = if i = j then some p else t.process? j
  links : ∀ j, t'.links j = if i = j then some ⟨none, none⟩ else t.links j
  generation : ∀ j, t.Live j → t'.generation? j = t.generation? j
  wellformed : t'.Wellformed

/-- If no slot is vacant, there will be another one. -/
theorem insert_appended (wf : t.Wellformed) (vacant : t.vacant = []) (p : Process) :
    (t.insert p).1 = (t.insert p).2.idAt t.slots.length ∧
      t.Inserted (t.insert p).2 t.slots.length p := by
  have node : ∀ j, (t.insert p).2.node? j =
      if t.slots.length = j then some ⟨p, none, none⟩ else t.node? j := by
    intro j
    simp only [insert, vacant, node?]
    rcases Nat.lt_trichotomy j t.slots.length with lt | rfl | gt
    · rw [List.getElem?_append_left lt, if_neg (Nat.ne_of_gt lt)]
    · rw [List.getElem?_append_right (Nat.le_refl _), if_pos rfl, Nat.sub_self]
      rfl
    · rw [List.getElem?_eq_none, List.getElem?_eq_none (Nat.le_of_lt gt), if_neg (Nat.ne_of_lt gt)]
      rw [List.length_append, List.length_singleton]
      exact gt
  refine ⟨?_, ?_, process?_written node, links_written node, ?_, ?_, ?_, ?_⟩
  · simp [insert, vacant, idAt]
  · exact fun live => Nat.lt_irrefl _ live.lt
  · intro j live
    simp only [insert, vacant, generation?]
    rw [List.getElem?_append_left live.lt]
  · simp [insert, vacant]
  · intro j
    have full : ∀ k, ¬ (k < t.slots.length ∧ ¬ t.Live k) := by
      intro k free
      have member := (wf.mem_vacant k).mpr free
      rw [vacant] at member
      cases member
    rw [live_written node]
    simp only [insert, vacant, List.not_mem_nil, List.length_append, List.length_singleton,
      false_iff]
    rintro ⟨lt, dead⟩
    by_cases eq : t.slots.length = j
    · rw [if_pos eq] at dead
      exact dead rfl
    · rw [if_neg eq] at dead
      exact full j ⟨by omega, dead⟩
  · simp [insert, vacant, wf.count]

/-- The slot that was freed last is used again. -/
theorem insert_reused {rest : List Nat} (wf : t.Wellformed) (vacant : t.vacant = i :: rest)
    (p : Process) :
    (t.insert p).1 = (t.insert p).2.idAt i ∧ t.Inserted (t.insert p).2 i p := by
  obtain ⟨lt, dead⟩ := (wf.mem_vacant i).mp (vacant ▸ List.mem_cons_self)
  obtain ⟨outside, nodup⟩ := List.nodup_cons.mp (vacant ▸ wf.nodup)
  have noNode : t.slots[i].node = none := by
    rw [← isSome_node?, node?, List.getElem?_eq_getElem lt] at dead
    exact Option.not_isSome_iff_eq_none.mp dead
  have slots : (t.insert p).2.slots =
      t.slots.modify i fun s => { s with node := some ⟨p, none, none⟩ } := by
    simp only [insert, vacant]
  have node := node?_written slots lt fun _ => rfl
  have generation : ∀ j, (t.insert p).2.generation? j = t.generation? j := by
    intro j
    rw [generation?, slots, List.getElem?_modify, generation?]
    cases t.slots[j]? with
    | none => rfl
    | some s => by_cases eq : i = j <;> simp [eq]
  refine ⟨?_, dead, process?_written node, links_written node, fun j _ => generation j, ?_, ?_, ?_⟩
  · rw [idAt_eq, generation]
    simp only [insert, vacant, idAt_eq]
  · simp only [insert, vacant]
    exact nodup
  · intro j
    have member := wf.mem_vacant j
    rw [vacant, List.mem_cons] at member
    rw [live_written node]
    simp only [insert, vacant, List.length_modify]
    by_cases eq : i = j
    · subst eq
      simp [outside]
    · rw [if_neg eq, ← member, or_iff_right (Ne.symm eq)]
  · have counted := countP_modify (f := fun s => { s with node := some ⟨p, none, none⟩ }) lt
    rw [noNode] at counted
    simp only [insert, vacant, wf.count]
    simpa using counted.symm

theorem insert_spec (wf : t.Wellformed) (p : Process) :
    ∃ i t', t.insert p = (t'.idAt i, t') ∧ t.Inserted t' i p := by
  cases vacant : t.vacant with
  | nil =>
    obtain ⟨handle, inserted⟩ := insert_appended wf vacant p
    exact ⟨_, _, Prod.ext handle rfl, inserted⟩
  | cons i rest =>
    obtain ⟨handle, inserted⟩ := insert_reused wf vacant p
    exact ⟨_, _, Prod.ext handle rfl, inserted⟩

/-- Taking a process out of a table: its slot is free, and no other one changes. -/
structure Removed (t t' : ProcessTable) (i : Nat) : Prop where
  process : ∀ j, t'.process? j = if i = j then none else t.process? j
  links : ∀ j, t'.links j = if i = j then none else t.links j
  generation : ∀ j, i ≠ j → t'.generation? j = t.generation? j
  wellformed : t'.Wellformed

theorem remove_spec (wf : t.Wellformed) {id : ProcessId} {p : Process}
    (resolved : t.resolve id = some i) (process : t.process? i = some p) :
    ∃ t', t.remove id = some (p, t') ∧ t.Removed t' i := by
  have live : t.Live i := live_iff.mpr ⟨p, process⟩
  have lt := live.lt
  let t' : ProcessTable :=
    { slots := t.slots.modify i fun s => ⟨s.generation + 1, none⟩
      vacant := i :: t.vacant, count := t.count - 1 }
  have node : ∀ j, t'.node? j = if i = j then none else t.node? j :=
    node?_written rfl lt fun _ => rfl
  refine ⟨t', ?_, process?_written node, links_written node, ?_, ?_, ?_, ?_⟩
  · rw [remove, resolved]
    simp only [Option.bind_eq_bind, Option.bind_some, process]
    rfl
  · intro j ne
    simp only [t', generation?, List.getElem?_modify, if_neg ne]
    cases t.slots[j]? <;> rfl
  · refine List.nodup_cons.mpr ⟨fun member => ?_, wf.nodup⟩
    exact ((wf.mem_vacant i).mp member).2 live
  · intro j
    rw [List.mem_cons, wf.mem_vacant, live_written node]
    simp only [t', List.length_modify]
    by_cases eq : i = j
    · subst eq
      simp [lt]
    · rw [if_neg eq, or_iff_right (Ne.symm eq)]
  · have counted := countP_modify (f := fun s => ⟨s.generation + 1, none⟩) lt
    have present : t.slots[i].node.isSome = true := by
      rw [← isSome_node?, node?, List.getElem?_eq_getElem lt] at live
      exact live
    rw [present] at counted
    simp only [t', wf.count]
    simp only [Option.isSome_none, if_true, Bool.false_eq_true, if_false] at counted
    omega

end ProcessTable

end TrapKernel
