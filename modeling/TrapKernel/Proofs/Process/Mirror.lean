import Mathlib.Logic.Function.Basic
import TrapKernel.Proofs.Process.Contexts
import TrapKernel.Proofs.Process.RollOrder

/-!
# What a roll has to do with a registry

`Registry.Mirrors` says that a roll holds a card for each process of a registry, that the card says
what there is to say of the process, and that the cards of a list stand in the order of the queue.
Taking a card out, putting one in and changing one where it is are what the operations of a registry
do to its processes.
-/

namespace TrapKernel

/-- The card says what there is to say of the process, whose stack is whole. -/
structure Card.Describes (c : Card) (p : Process) : Prop where
  name : c.name = p.name
  owner : c.owner = p.owner
  priority : c.priority = p.priority
  state : c.state = p.state
  record : c.record = p.record
  round : c.round = p.round
  holds : p.Holds c.context

namespace Roll

/-- Every process, given by its handle, has one card, in the list of its state. -/
structure Files (m : Roll) (get : ProcessId → Option Process) : Prop where
  nodup : ∀ s, ((m.list s).map (·.id)).Nodup
  card : ∀ s, ∀ c ∈ m.list s, c.state = s ∧ ∃ p, get c.id = some p ∧ c.Describes p
  complete : ∀ id p, get id = some p → ∃ c ∈ m.list p.state, c.id = id
  unranked : ∀ c ∈ m.list .readySuspended, c.round = 0

variable {m : Roll} {get : ProcessId → Option Process} {c d : Card} {s s' : ProcessState}
  {id : ProcessId} {p p' : Process}

theorem mem_all : c ∈ m.all ↔ ∃ s, c ∈ m.list s := by
  simp only [all, List.mem_flatMap]
  constructor
  · rintro ⟨s, -, hc⟩
    exact ⟨s, hc⟩
  · rintro ⟨s, hc⟩
    exact ⟨s, by cases s <;> simp, hc⟩

namespace Files

/-- A process has one card only. -/
theorem unique (h : m.Files get) (hc : c ∈ m.list s) (hd : d ∈ m.list s') (same : c.id = d.id) :
    c = d := by
  obtain ⟨inS, p, got, describes⟩ := h.card s c hc
  obtain ⟨inS', p', got', describes'⟩ := h.card s' d hd
  obtain rfl := Option.some.inj (got.symm.trans (same ▸ got'))
  obtain rfl : s = s' := by rw [← inS, ← inS', describes.state, describes'.state]
  exact List.inj_on_of_nodup_map (h.nodup s) hc hd same

theorem describes (h : m.Files get) (hc : c ∈ m.list s) (got : get c.id = some p) :
    c.Describes p := by
  obtain ⟨-, p', got', describes⟩ := h.card s c hc
  obtain rfl := Option.some.inj (got.symm.trans got')
  exact describes

theorem holder_eq_none (h : m.Files get) (gone : get id = none) : m.holder id = none := by
  rw [holder, List.find?_eq_none]
  intro c hc
  obtain ⟨s, hc⟩ := mem_all.mp hc
  obtain ⟨-, p, got, -⟩ := h.card s c hc
  rw [decide_eq_true_eq]
  rintro rfl
  rw [gone] at got
  cases got

/-- The first card with the handle is the only one. -/
theorem holder_eq_some (h : m.Files get) (got : get id = some p) :
    ∃ c, m.holder id = some c ∧ c.id = id ∧ c ∈ m.list p.state ∧ c.Describes p := by
  obtain ⟨c, hc, rfl⟩ := h.complete id p got
  cases found : m.holder c.id with
  | none =>
    rw [holder, List.find?_eq_none] at found
    exact absurd (decide_eq_true rfl) (found c (mem_all.mpr ⟨_, hc⟩))
  | some d =>
    obtain ⟨s, hd⟩ := mem_all.mp (List.mem_of_find?_eq_some found)
    have same : d.id = c.id := by simpa using List.find?_some found
    obtain rfl := h.unique hd hc same
    exact ⟨d, rfl, rfl, hc, h.describes hc got⟩

/-! ### What happens to a card -/

theorem without (h : m.Files get) (id : ProcessId) :
    (m.without id).Files (Function.update get id none) := by
  have mem {s : ProcessState} {c : Card} :
      c ∈ (m.without id).list s ↔ c ∈ m.list s ∧ c.id ≠ id := by
    rw [Roll.without, List.mem_filter, decide_eq_true_eq]
  refine ⟨fun s => (h.nodup s).sublist (List.filter_sublist.map _), fun s c hc => ?_,
    fun id' p got => ?_, fun c hc => h.unranked c (mem.mp hc).1⟩
  · obtain ⟨hc, other⟩ := mem.mp hc
    rw [Function.update_of_ne other]
    exact h.card s c hc
  · have other : id' ≠ id := by
      rintro rfl
      rw [Function.update_self] at got
      cases got
    rw [Function.update_of_ne other] at got
    obtain ⟨c, hc, rfl⟩ := h.complete id' p got
    exact ⟨c, mem.mpr ⟨hc, other⟩, rfl⟩

/-- A card is put where the order of its list wants it. -/
theorem enter (h : m.Files get) (fresh : get c.id = none) (describes : c.Describes p)
    (unranked : c.state = .readySuspended → c.round = 0) :
    (m.enter c).Files (Function.update get c.id (some p)) := by
  have stamped : Card.Describes { c with since := m.clock } p := ⟨describes.name, describes.owner,
    describes.priority, describes.state, describes.record, describes.round, describes.holds⟩
  have mem {s : ProcessState} {d : Card} : d ∈ (m.enter c).list s ↔
      d ∈ m.list s ∨ s = c.state ∧ d = { c with since := m.clock } := by
    unfold Roll.enter
    simp only []
    split
    · rename_i eq
      rw [Card.mem_put]
      tauto
    · tauto
  have other {s : ProcessState} {d : Card} (hd : d ∈ m.list s) : d.id ≠ c.id := by
    obtain ⟨-, p, got, -⟩ := h.card s d hd
    rintro same
    rw [same, fresh] at got
    cases got
  refine ⟨fun s => ?_, fun s d hd => ?_, fun id p' got => ?_, fun d hd => ?_⟩
  · unfold Roll.enter
    simp only []
    split
    · rw [((Card.perm_put _ _).map _).nodup_iff, List.map_cons, List.nodup_cons]
      refine ⟨fun member => ?_, h.nodup s⟩
      obtain ⟨d, hd, same⟩ := List.mem_map.mp member
      exact other hd same
    · exact h.nodup s
  · rcases mem.mp hd with hd | ⟨rfl, rfl⟩
    · rw [Function.update_of_ne (other hd)]
      exact h.card s d hd
    · exact ⟨rfl, p, Function.update_self .., stamped⟩
  · by_cases same : id = c.id
    · subst same
      rw [Function.update_self] at got
      obtain rfl := Option.some.inj got
      exact ⟨_, mem.mpr (Or.inr ⟨describes.state.symm, rfl⟩), rfl⟩
    · rw [Function.update_of_ne same] at got
      obtain ⟨d, hd, rfl⟩ := h.complete id p' got
      exact ⟨d, mem.mpr (Or.inl hd), rfl⟩
  · rcases mem.mp hd with hd | ⟨inS, rfl⟩
    · exact h.unranked d hd
    · exact unranked inS.symm

/-- The other lists have no card with this handle. -/
theorem list_rewrite {f : Card → Card} (h : m.Files get) (hc : c ∈ m.list s) (s' : ProcessState) :
    (m.rewrite c f).list s' = (m.list s').map fun d => if d.id = c.id then f d else d := by
  unfold Roll.rewrite
  simp only []
  split
  · rfl
  · rename_i ne
    refine ((List.map_congr_left fun d hd => if_neg fun eq => ne ?_).trans (List.map_id _)).symm
    obtain rfl := h.unique hd hc eq
    exact (h.card s' d hd).1.symm

/-- A card is changed where it is. -/
theorem rewrite {f : Card → Card} (h : m.Files get) (hc : c ∈ m.list s) (same : (f c).id = c.id)
    (state : (f c).state = c.state) (round : (f c).round = c.round)
    (describes : (f c).Describes p) :
    (m.rewrite c f).Files (Function.update get c.id (some p)) := by
  obtain ⟨rfl, q, got, -⟩ := h.card s c hc
  let g : Card → Card := fun d => if d.id = c.id then f d else d
  have changed {d : Card} {s : ProcessState} (hd : d ∈ m.list s) :
      d = c ∧ g d = f c ∨ d.id ≠ c.id ∧ g d = d := by
    by_cases eq : d.id = c.id
    · obtain rfl := h.unique hd hc eq
      exact Or.inl ⟨rfl, if_pos rfl⟩
    · exact Or.inr ⟨eq, if_neg eq⟩
  have list (s : ProcessState) : (m.rewrite c f).list s = (m.list s).map g := h.list_rewrite hc s
  have ids : ∀ s, ∀ d ∈ m.list s, (g d).id = d.id ∧ (g d).state = d.state ∧
      (g d).round = d.round := by
    intro s d hd
    rcases changed hd with ⟨rfl, eq⟩ | ⟨-, eq⟩ <;> rw [eq]
    · exact ⟨same, state, round⟩
    · exact ⟨rfl, rfl, rfl⟩
  refine ⟨fun s => ?_, fun s d hd => ?_, fun id p' got' => ?_, fun d hd => ?_⟩
  · have unchanged : ((m.list s).map g).map (·.id) = (m.list s).map (·.id) := by
      rw [List.map_map]
      exact List.map_congr_left fun d hd => (ids s d hd).1
    rw [list, unchanged]
    exact h.nodup s
  · rw [list] at hd
    obtain ⟨e, he, rfl⟩ := List.mem_map.mp hd
    refine ⟨(ids s e he).2.1.trans (h.card s e he).1, ?_⟩
    rw [(ids s e he).1]
    rcases changed he with ⟨rfl, eq⟩ | ⟨ne, eq⟩ <;> rw [eq]
    · exact ⟨p, Function.update_self .., describes⟩
    · rw [Function.update_of_ne ne]
      exact (h.card s e he).2
  · by_cases eq : id = c.id
    · subst eq
      rw [Function.update_self] at got'
      obtain rfl := Option.some.inj got'
      refine ⟨g c, ?_, (ids _ c hc).1⟩
      rw [list, ← describes.state, state]
      exact List.mem_map_of_mem hc
    · rw [Function.update_of_ne eq] at got'
      obtain ⟨d, hd, rfl⟩ := h.complete id p' got'
      refine ⟨g d, ?_, (ids _ d hd).1⟩
      rw [list]
      exact List.mem_map_of_mem hd
  · rw [list] at hd
    obtain ⟨e, he, rfl⟩ := List.mem_map.mp hd
    exact (ids _ e he).2.2.trans (h.unranked e he)

end Files

/-- The slots of the cards. -/
def order (m : Roll) : Order := fun k => (m.list k.state).map (·.id.index)

end Roll

/-! ### Handles -/

/-- The handles that a table has given out. -/
def ProcessTable.handles (t : ProcessTable) : Handles := ⟨t.slots.map (·.generation), t.vacant⟩

namespace ProcessTable

variable {t t' : ProcessTable} {id : ProcessId} {p : Process}

theorem SameSlots.handles (h : t.SameSlots t') : t'.handles = t.handles := by
  have generations : t'.slots.map (·.generation) = t.slots.map (·.generation) := by
    apply List.ext_getElem?
    intro i
    rw [List.getElem?_map, List.getElem?_map]
    exact h.generation i
  rw [ProcessTable.handles, generations, h.vacant]
  rfl

theorem handles_insert (t : ProcessTable) (p : Process) :
    (t.insert p).1 = t.handles.next.1 ∧ (t.insert p).2.handles = t.handles.next.2 := by
  unfold insert Handles.next ProcessTable.handles
  cases t.vacant with
  | nil => simp
  | cons i vacant =>
    have kept : (t.slots.modify i fun s => { s with node := some ⟨p, none, none⟩ }).map
        (·.generation) = t.slots.map (·.generation) := by
      apply List.ext_getElem?
      intro j
      rw [List.getElem?_map, List.getElem?_modify, List.getElem?_map]
      split <;> cases t.slots[j]? <;> rfl
    exact ⟨by simp [idAt], by simp only [kept]⟩

theorem handles_remove (removed : t.remove id = some (p, t')) :
    t'.handles = t.handles.retire id := by
  unfold remove at removed
  obtain ⟨i, resolved, rest⟩ := Option.bind_eq_some_iff.mp removed
  obtain ⟨process, -, made⟩ := Option.bind_eq_some_iff.mp rest
  obtain ⟨rfl, -⟩ := resolve_eq_some.mp resolved
  cases made
  have moved : (t.slots.modify id.index fun s => ⟨s.generation + 1, none⟩).map (·.generation) =
      (t.slots.map (·.generation)).modify id.index (· + 1) := by
    apply List.ext_getElem?
    intro j
    rw [List.getElem?_map, List.getElem?_modify, List.getElem?_modify, List.getElem?_map]
    split <;> cases t.slots[j]? <;> rfl
  simp only [ProcessTable.handles, Handles.retire, moved]

end ProcessTable

namespace Registry

open ProcessTable ProcessQueue

variable {r r' : Registry} {m : Roll} {c : Card} {p q : Process} {i : Nat} {id : ProcessId}
  {name : String}

/-! ### Processes by their handles -/

/-- One process changed. -/
theorem get_of_process {f : Process → Process} (slots : r.table.SameSlots r'.table)
    (process : ∀ j, r'.table.process? j =
      if i = j then (r.table.process? j).map f else r.table.process? j)
    (resolved : r.table.resolve id = some i) (found : r.table.process? i = some p) :
    r'.get = Function.update r.get id (some (f p)) := by
  funext id'
  by_cases eq : id' = id
  · rw [eq, Function.update_self, get, slots.resolve, resolved, Option.bind_some, process,
      if_pos rfl, found]
    rfl
  · rw [Function.update_of_ne eq, get, slots.resolve, get]
    cases resolved' : r.table.resolve id' with
    | none => rfl
    | some j =>
      rw [Option.bind_some, process, if_neg]
      · rfl
      · rintro rfl
        exact eq (resolve_injective resolved' resolved)

theorem get_of_joins (joins : r.table.Joins r'.table id)
    (process : ∀ j, r'.table.process? j =
      if id.index = j then some q else r.table.process? j) :
    r'.get = Function.update r.get id (some q) := by
  funext id'
  by_cases eq : id' = id
  · rw [eq, Function.update_self, get, joins.resolved, Option.bind_some, process, if_pos rfl]
  · rw [Function.update_of_ne eq]
    apply Option.ext
    intro p
    constructor
    · intro got
      exact ((get_joins joins process got).resolve_left fun same => eq same.1).2
    · intro got
      obtain ⟨j, resolved, found⟩ := get_eq_some.mp got
      refine get_eq_some.mpr ⟨j, joins.resolve_of_resolve resolved, ?_⟩
      rw [process, if_neg, found]
      rintro rfl
      exact joins.fresh (live_iff.mpr ⟨p, found⟩)

theorem get_of_leaves (leaves : r.table.Leaves r'.table id)
    (process : ∀ j, r'.table.process? j =
      if id.index = j then none else r.table.process? j) :
    r'.get = Function.update r.get id none := by
  funext id'
  by_cases eq : id' = id
  · rw [eq, Function.update_self, Option.eq_none_iff_forall_ne_some]
    intro p got
    exact (get_leaves leaves process got).1 rfl
  · rw [Function.update_of_ne eq]
    apply Option.ext
    intro p
    constructor
    · intro got
      exact (get_leaves leaves process got).2
    · intro got
      obtain ⟨j, resolved, found⟩ := get_eq_some.mp got
      have resolved' := leaves.resolve.mpr ⟨eq, resolved⟩
      refine get_eq_some.mpr ⟨j, resolved', ?_⟩
      rw [process, if_neg, found]
      rintro rfl
      exact eq (resolve_injective resolved leaves.resolved)

/-! ### A roll of a registry -/

/-- The roll says what the registry holds: the processes, their order in the queues, the round, and
the handles to give out next. -/
structure Mirrors (r : Registry) (m : Roll) : Prop where
  sound : r.Sound m.order
  files : m.Files r.get
  handles : m.handles = r.table.handles
  round : m.round = r.round

/-- The card of a process. -/
structure Has (r : Registry) (m : Roll) (c : Card) (p : Process) : Prop where
  mem : c ∈ m.list p.state
  resolved : r.table.resolve c.id = some c.id.index
  found : r.table.process? c.id.index = some p
  describes : c.Describes p

namespace Mirrors

theorem has (h : r.Mirrors m) {s : ProcessState} (hc : c ∈ m.list s) :
    ∃ p, r.Has m c p ∧ p.state = s := by
  obtain ⟨inS, p, got, describes⟩ := h.files.card s c hc
  obtain ⟨i, resolved, found⟩ := get_eq_some.mp got
  obtain rfl := (resolve_eq_some.mp resolved).1
  obtain rfl : p.state = s := describes.state.symm.trans inS
  exact ⟨p, ⟨hc, resolved, found, describes⟩, rfl⟩

/-- The card with a handle is the one that the handle leads to. -/
theorem holder (h : r.Mirrors m) (resolved : r.table.resolve id = some i) :
    ∃ c p, m.holder id = some c ∧ c.id = id ∧ i = id.index ∧ r.Has m c p := by
  obtain ⟨p, found⟩ := live_iff.mp (resolve_eq_some.mp resolved).2.2
  obtain rfl := (resolve_eq_some.mp resolved).1
  obtain ⟨c, holds, rfl, hc, describes⟩ :=
    h.files.holder_eq_some (get_eq_some.mpr ⟨_, resolved, found⟩)
  exact ⟨c, p, holds, rfl, rfl, hc, resolved, found, describes⟩

theorem no_holder (h : r.Mirrors m) (gone : r.table.resolve id = none) : m.holder id = none :=
  h.files.holder_eq_none (by rw [get, gone, Option.bind_none])

/-- The card with a name is the one of the process with that name. -/
theorem named (h : r.Mirrors m) (found : r.table.position name = some i) :
    ∃ c p, m.named name = some c ∧ c.id.index = i ∧ p.name = name ∧ r.Has m c p := by
  obtain ⟨p, process, rfl⟩ := position_eq_some found
  have resolved := resolve_idAt (live_iff.mpr ⟨p, process⟩)
  obtain ⟨c, p', -, same, -, has⟩ := h.holder resolved
  have index : c.id.index = i := by rw [same]; rfl
  obtain rfl : p' = p := Option.some.inj (has.found.symm.trans (index ▸ process))
  refine ⟨c, p', ?_, index, rfl, has⟩
  cases other : m.named p'.name with
  | none =>
    rw [Roll.named, List.find?_eq_none] at other
    refine absurd ?_ (other c (Roll.mem_all.mpr ⟨_, has.mem⟩))
    exact decide_eq_true has.describes.name
  | some d =>
    obtain ⟨s, hd⟩ := Roll.mem_all.mp (List.mem_of_find?_eq_some other)
    have sameName : d.name = p'.name := by simpa using List.find?_some other
    obtain ⟨q, has', -⟩ := h.has hd
    have sameSlot := h.sound.roster.distinct _ _ q p' has'.found has.found
      (has'.describes.name.symm.trans sameName)
    have sameId := resolve_injective (sameSlot ▸ has'.resolved) has.resolved
    rw [h.files.unique hd has.mem sameId]

theorem not_named (h : r.Mirrors m) (unknown : r.table.position name = none) :
    m.named name = none := by
  rw [Roll.named, List.find?_eq_none]
  intro c hc
  obtain ⟨s, hc⟩ := Roll.mem_all.mp hc
  obtain ⟨p, has, -⟩ := h.has hc
  rw [decide_eq_true_eq, has.describes.name]
  exact position_eq_none.mp unknown _ p has.found

end Mirrors

end Registry

end TrapKernel
