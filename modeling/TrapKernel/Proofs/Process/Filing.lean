import TrapKernel.Proofs.Process.Mirror

/-!
# Operations on a roll and on a registry

Each operation of a registry does to the processes what the same operation of a roll does to their
cards, and both answer alike.
-/

namespace TrapKernel

/-- A card goes where its process goes. -/
theorem Card.Describes.goingTo {c : Card} {p : Process} (h : c.Describes p) (state : ProcessState)
    (round : Nat) : (c.goingTo state round).Describes (Registry.entering state round p) where
  name := h.name
  owner := h.owner
  priority := h.priority
  state := rfl
  record := h.record
  round := rfl
  holds := h.holds.of_matter rfl

namespace Registry

open ProcessTable ProcessQueue

variable {r r' : Registry} {m m' : Roll} {c : Card} {p q : Process} {i : Nat} {id : ProcessId}
  {name : String} {k k' : QueueKind} {state : ProcessState}

/-! ### The order of the queues -/

/-- Whom `i` outranks it outranks with all that stand behind. -/
theorem outranks_mono {t : ProcessTable} {i j j' : Nat} (live : t.Live j')
    (apart : outranks t j' j = false) (before : outranks t i j = true) :
    outranks t i j' = true := by
  obtain ⟨p, q, process, process', runs⟩ := outranks_eq_true.mp before
  obtain ⟨q', process''⟩ := live_iff.mp live
  simp only [outranks, process, process', process'', decide_eq_false_iff_not,
    decide_eq_true_eq] at apart ⊢
  simp only [Process.RunsBefore] at *
  omega

/-- In a sorted list a slot is put behind those that it does not outrank. -/
theorem placed_eq_filter {t : ProcessTable} {l : List Nat} (ranked : k.discipline = .priority)
    (sorted : Sorted k t l) (live : ∀ j ∈ l, t.Live j) (i : Nat) :
    placed k t i l = l.filter (!outranks t i ·) ++ i :: l.filter (outranks t i ·) := by
  have monotone : l.Pairwise fun j j' => (!outranks t i j') = true → (!outranks t i j) = true := by
    refine (sorted ranked).imp_of_mem fun {j j'} _ hj' apart behind => ?_
    rw [Bool.not_eq_true'] at behind ⊢
    by_contra before
    rw [outranks_mono (live j' hj') apart (by simpa using before)] at behind
    cases behind
  obtain ⟨take, drop⟩ := takeWhile_eq_filter monotone
  simp only [placed, ranked, take, drop, Bool.not_not]

theorem Mirrors.order_without (h : r.Mirrors m) (has : r.Has m c p) :
    (m.without c.id).order = m.order.without c.id.index := by
  funext k
  have nodup : (m.order k).Nodup := (h.sound.threads k).nodup
  rw [Order.without, nodup.erase_eq_filter, Roll.order, Roll.order, Roll.without, List.filter_map]
  congr 1
  apply List.filter_congr
  intro d hd
  obtain ⟨q, has', -⟩ := h.has hd
  have same : d.id = c.id ↔ d.id.index = c.id.index := by
    refine ⟨fun eq => eq ▸ rfl, fun eq => ?_⟩
    exact resolve_injective has'.resolved (eq ▸ has.resolved)
  rw [Bool.eq_iff_iff]
  simp [same]

/-- One process outranks another one whose card does not stay ahead of its own. -/
theorem outranks_eq {t : ProcessTable} {d : Card} {i j : Nat} (hc : c.Describes p)
    (hd : d.Describes q) (found : t.process? i = some p) (found' : t.process? j = some q)
    (inK : c.state = k.state) (ranked : k.discipline = .priority)
    (rounds : k = .suspendedReady → c.round = 0 ∧ d.round = 0) :
    outranks t i j = !d.staysAhead c := by
  simp only [outranks, found, found', Card.staysAhead, inK, Process.RunsBefore, ← hc.round,
    ← hc.priority, ← hd.round, ← hd.priority]
  rw [Bool.eq_iff_iff]
  cases k with
  | ready =>
    simp only [QueueKind.state, decide_eq_true_eq, Bool.not_eq_true', decide_eq_false_iff_not]
    omega
  | suspendedReady =>
    obtain ⟨zero, zero'⟩ := rounds rfl
    simp only [QueueKind.state, decide_eq_true_eq, Bool.not_eq_true', decide_eq_false_iff_not]
    omega
  | blocked | suspendedBlocked => cases ranked

/-- Putting a slot into a queue is putting its card into a list. -/
theorem placed_map {t : ProcessTable} {l : List Card} (inK : c.state = k.state)
    (sorted : Sorted k t (l.map (·.id.index))) (live : ∀ d ∈ l, t.Live d.id.index)
    (rank : k.discipline = .priority → ∀ d ∈ l,
      outranks t c.id.index d.id.index = !d.staysAhead c) :
    placed k t c.id.index (l.map (·.id.index)) = (c.put l).map (·.id.index) := by
  cases ranked : k.discipline with
  | fifo =>
    have all : ∀ d : Card, d.staysAhead c = true := by
      intro d
      unfold Card.staysAhead
      rw [inK]
      cases k with
      | ready | suspendedReady => cases ranked
      | blocked | suspendedBlocked => rfl
    simp [placed, ranked, Card.put, all]
  | priority =>
    have same : ∀ d ∈ l, outranks t c.id.index d.id.index = !d.staysAhead c := rank ranked
    have live : ∀ j ∈ l.map (·.id.index), t.Live j := by
      intro j hj
      obtain ⟨d, hd, rfl⟩ := List.mem_map.mp hj
      exact live d hd
    simp only [placed_eq_filter ranked sorted live, List.filter_map, Card.put, List.map_append,
      List.map_cons]
    congr 2
    · refine List.filter_congr fun d hd => ?_
      rw [Function.comp_apply, same d hd, Bool.not_not]
    · congr 1
      exact List.filter_congr same

/-- A slot is put where its card is put. -/
theorem enter_order {t : ProcessTable} (files : (m.enter c).Files r.get)
    (sound : r.Sound (m.order.including t c.id.index c.state))
    (process : ∀ j, r.table.process? j = t.process? j) :
    m.order.including t c.id.index c.state = (m.enter c).order := by
  let c' : Card := { c with since := m.clock }
  funext k
  by_cases inK : c.state = k.state
  · have list : (m.enter c).list k.state = c'.put (m.list k.state) := if_pos inK.symm
    have entered : QueueKind.ofState c.state = some k := QueueKind.ofState_eq_some.mpr inK
    have filed : ∀ d ∈ c' :: m.list k.state, ∃ q, r.table.process? d.id.index = some q ∧
        d.Describes q ∧ (k = .suspendedReady → d.round = 0) := by
      intro d hd
      have hd : d ∈ (m.enter c).list k.state := by
        rw [list, Card.mem_put]
        exact List.mem_cons.mp hd
      obtain ⟨-, q, got, describes⟩ := files.card _ d hd
      obtain ⟨i, resolved, found⟩ := get_eq_some.mp got
      obtain rfl := (resolve_eq_some.mp resolved).1
      refine ⟨q, found, describes, ?_⟩
      rintro rfl
      exact files.unranked d hd
    obtain ⟨p, foundC, describesC, roundC⟩ := filed c' List.mem_cons_self
    have inOrder : Sorted k t ((m.list k.state).map (·.id.index)) := by
      have sorted := sound.sorted k
      rw [Order.including, if_pos entered] at sorted
      obtain ⟨a, b, split, eq⟩ := placed_eq k t c.id.index (m.order k)
      rw [eq] at sorted
      have sub : (m.order k).Sublist (a ++ c.id.index :: b) := by
        rw [split]
        exact (List.Sublist.refl a).append (List.sublist_cons_self _ b)
      exact sorted_congr (sorted.sublist sub) fun j _ => (process j).symm
    rw [Order.including, if_pos entered, Roll.order, Roll.order, list]
    refine placed_map (c := c') inK inOrder (fun d hd => ?_) fun ranked d hd => ?_
    · obtain ⟨q, found, -⟩ := filed d (List.mem_cons_of_mem c' hd)
      exact live_iff.mpr ⟨q, (process _).symm.trans found⟩
    · obtain ⟨q, found, describes, round⟩ := filed d (List.mem_cons_of_mem c' hd)
      exact outranks_eq describesC describes ((process _).symm.trans foundC)
        ((process _).symm.trans found) inK ranked fun eq => ⟨roundC eq, round eq⟩
  · have list : (m.enter c).list k.state = m.list k.state := if_neg (Ne.symm inK)
    rw [Order.including, if_neg fun entered => inK (QueueKind.ofState_eq_some.mp entered),
      Roll.order, Roll.order, list]

/-! ### Out of one list and into another -/

theorem unranked_goingTo (c : Card) (state : ProcessState) (round : Nat)
    (suspended : (c.goingTo state round).state = .readySuspended) :
    (c.goingTo state round).round = 0 := by
  refine if_neg ?_
  rw [show state = .readySuspended from suspended]
  decide

theorem Has.live (has : r.Has m c p) : r.table.Live c.id.index := live_iff.mpr ⟨p, has.found⟩

theorem Has.stateAt (has : r.Has m c p) : r.stateAt c.id.index = some c.state := by
  rw [Registry.stateAt, has.found, has.describes.state]
  rfl

theorem Has.rewrite (has : r.Has m c p) {f : Process → Process} {g : Card → Card}
    (same : (g c).id = c.id) (state : (g c).state = c.state) (describes : (g c).Describes (f p)) :
    (r.modifyProcess c.id.index f).Has (m.rewrite c g) (g c) (f p) := by
  have slots : r.table.SameSlots (r.modifyProcess c.id.index f).table := SameSlots.modify _
  refine ⟨?_, ?_, ?_, describes⟩
  · rw [← describes.state, state, Roll.rewrite]
    simp only [if_true]
    refine List.mem_map.mpr ⟨c, ?_, if_pos rfl⟩
    rw [has.describes.state]
    exact has.mem
  · rw [same, slots.resolve]
    exact has.resolved
  · rw [same, Registry.modifyProcess, process?_modifyProcess, if_pos rfl, has.found]
    rfl

namespace Mirrors

/-- The card of a process that changed is put into a list anew. -/
theorem reenter (h : r.Mirrors m) (has : r.Has m c p) {f : Process → Process} {c' : Card}
    (slots : r.table.SameSlots r'.table)
    (process : ∀ j, r'.table.process? j = if c.id.index = j
      then (r.table.process? j).map f else r.table.process? j)
    (same : c'.id = c.id) (describes : c'.Describes (f p))
    (unranked : c'.state = .readySuspended → c'.round = 0) :
    ((m.without c.id).enter c').Files r'.get := by
  have out := h.files.without c.id
  have fresh : Function.update r.get c.id none c'.id = none := by
    rw [same]
    exact Function.update_self ..
  have into := out.enter fresh describes unranked
  rw [same, Function.update_idem] at into
  rw [get_of_process slots process has.resolved has.found]
  exact into

theorem of_enter {t : ProcessTable} (files : (m.enter c).Files r'.get)
    (sound : r'.Sound (m.order.including t c.id.index c.state))
    (process : ∀ j, r'.table.process? j = t.process? j) (handles : m.handles = r'.table.handles)
    (round : m.round = r'.round) : r'.Mirrors (m.enter c) := by
  refine ⟨?_, files, handles, round⟩
  rw [← enter_order files sound process]
  exact sound

/-- A process leaves its queue and enters another one. -/
theorem moveTo (h : r.Mirrors m) (has : r.Has m c p) (state : ProcessState) :
    (r.moveTo c.id.index state).Mirrors (m.moveTo c state) := by
  have slots := r.sameSlots_moveTo c.id.index state
  have describes := has.describes.goingTo state m.round
  rw [h.round] at describes
  have sound := h.sound.moveTo_order has.live state
  rw [← h.order_without has] at sound
  obtain ⟨detached, rewired, -⟩ := h.sound.unlink has.live
  obtain ⟨-, rewired', -⟩ := detached.link state r.round
  refine of_enter ?_ sound rewired'.process (h.handles.trans slots.handles.symm)
    (h.round.trans (r.round_moveTo ..).symm)
  rw [h.round]
  exact h.reenter has slots (r.process?_moveTo c.id.index state) rfl describes
    (unranked_goingTo c state r.round)

/-- A process that ran goes into a queue. -/
theorem settle (h : r.Mirrors m) (has : r.Has m c p) (running : p.state = .running)
    (k : QueueKind) (round : Nat) :
    (r.link c.id.index k.state round).Mirrors
      ((m.without c.id).enter (c.goingTo k.state round)) := by
  have stateAt : r.stateAt c.id.index = some .running := by
    rw [has.stateAt, has.describes.state, running]
  have slots := r.sameSlots_link c.id.index k.state round
  have detached := h.sound.detached stateAt
  obtain ⟨sound, rewired, -⟩ := detached.link k.state round
  have order : m.order = (m.without c.id).order := by
    rw [h.order_without has]
    funext k
    exact (List.erase_of_not_mem (detached.free k)).symm
  rw [order] at sound
  refine of_enter ?_ sound rewired.process (h.handles.trans slots.handles.symm)
    (h.round.trans (r.round_link ..).symm)
  exact h.reenter has slots (r.process?_link c.id.index k.state round) rfl
    (has.describes.goingTo k.state round) (unranked_goingTo c k.state round)

/-- A process that gets another priority, where priorities count, finds its place anew. -/
theorem reprioritize (h : r.Mirrors m) (has : r.Has m c p) {priority : Nat}
    (le : priority ≤ maxPriority) :
    (((r.modifyProcess c.id.index ({ · with priority })).unlink c.id.index).link c.id.index
      p.state p.round).Mirrors
        ((m.without c.id).enter ({ c with priority }.goingTo c.state c.round)) := by
  let f : Process → Process := ({ · with priority })
  have changed : r.table.SameSlots (r.modifyProcess c.id.index f).table := SameSlots.modify _
  obtain ⟨detached, rewired, round⟩ := h.sound.unlink_changed (f := f) (fun _ => rfl)
    (fun _ => rfl) (fun _ _ => le) has.live
  obtain ⟨sound, rewired', round'⟩ := detached.link p.state p.round
  have slots := changed.trans (rewired.toSameSlots.trans
    ((SameSlots.modify _).trans rewired'.toSameSlots))
  have process : ∀ j, (((r.modifyProcess c.id.index f).unlink c.id.index).link c.id.index
      p.state p.round).table.process? j = if c.id.index = j
        then (r.table.process? j).map (entering p.state p.round ∘ f) else r.table.process? j := by
    intro j
    rw [process?_link, rewired.process, Registry.modifyProcess, process?_modifyProcess]
    split
    · rw [Option.map_map]
    · rfl
  have describes : Card.Describes { c with priority } (f p) := ⟨has.describes.name,
    has.describes.owner, rfl, has.describes.state, has.describes.record, has.describes.round,
    has.describes.holds.of_matter rfl⟩
  rw [← h.order_without has] at sound
  rw [has.describes.state, has.describes.round]
  refine of_enter ?_ sound rewired'.process (h.handles.trans slots.handles.symm)
    (h.round.trans (round'.trans round).symm)
  exact h.reenter has slots process rfl (describes.goingTo p.state p.round)
    (unranked_goingTo _ p.state p.round)

/-- A card changes where it is. -/
theorem rewrite (h : r.Mirrors m) (has : r.Has m c p) {f : Process → Process} {g : Card → Card}
    (sound : (r.modifyProcess c.id.index f).Sound m.order) (same : ∀ d, (g d).id = d.id)
    (state : (g c).state = c.state) (round : (g c).round = c.round)
    (describes : (g c).Describes (f p)) :
    (r.modifyProcess c.id.index f).Mirrors (m.rewrite c g) := by
  have slots : r.table.SameSlots (r.modifyProcess c.id.index f).table := SameSlots.modify _
  have order : (m.rewrite c g).order = m.order := by
    funext k
    rw [Roll.order, Roll.order, Roll.rewrite]
    simp only []
    split
    · rw [List.map_map]
      apply List.map_congr_left
      intro d _
      rw [Function.comp_apply]
      split
      · rw [same]
      · rfl
    · rfl
  have files := h.files.rewrite has.mem (same c) state round describes
  refine ⟨order ▸ sound, ?_, h.handles.trans slots.handles.symm, h.round⟩
  rw [get_of_process slots (fun j => process?_modifyProcess f) has.resolved has.found]
  exact files

theorem shift (h : r.Mirrors m) (has : r.Has m c p)
    (target : ProcessState → Option ProcessState) :
    (r.shift c.id.index target).1 = (m.shift c target).1 ∧
      (r.shift c.id.index target).2.Mirrors (m.shift c target).2 := by
  rw [Registry.shift, has.stateAt, Option.bind_some, Roll.shift]
  cases target c.state with
  | none => exact ⟨rfl, h⟩
  | some state => exact ⟨rfl, h.moveTo has state⟩

/-- All processes of a queue go to another one. -/
theorem drain (h : r.Mirrors m) {k k' : QueueKind} (ne : k ≠ k') {most : Nat}
    (le : (m.list k.state).length ≤ most) :
    (r.drain k k'.state most).1 = (m.drain k.state k'.state).1 ∧
      (r.drain k k'.state most).2.Mirrors (m.drain k.state k'.state).2 := by
  induction most generalizing r m with
  | zero =>
    rw [Roll.drain, List.length_eq_zero_iff.mp (Nat.le_zero.mp le)]
    exact ⟨rfl, h⟩
  | succ most ih =>
    have head : (r.queue k).head = (m.list k.state).head?.map (·.id.index) := by
      rw [← List.head?_map]
      exact (h.sound.threads k).head
    rw [Registry.drain, head, Roll.drain]
    cases list : m.list k.state with
    | nil => exact ⟨rfl, h⟩
    | cons c rest =>
      obtain ⟨p, has, -⟩ := h.has (list ▸ List.mem_cons_self)
      have moved := h.moveTo has k'.state
      have left : (m.moveTo c k'.state).list k.state = rest := by
        have other : k.state ≠ k'.state := fun same => ne (QueueKind.state_injective same)
        have nodup := h.files.nodup k.state
        rw [list, List.map_cons, List.nodup_cons] at nodup
        refine (if_neg other).trans ?_
        show (m.list k.state).filter (·.id ≠ c.id) = rest
        rw [list, List.filter_cons_of_neg (by simp), List.filter_eq_self]
        intro d hd
        refine decide_eq_true fun same => nodup.1 ?_
        rw [← same]
        exact List.mem_map_of_mem hd
      rw [list] at le
      obtain ⟨count, mirrors⟩ := ih moved (left ▸ Nat.le_of_succ_le_succ le)
      rw [Roll.drain, left] at count mirrors
      exact ⟨congrArg (· + 1) count, mirrors⟩

theorem length_list_le (h : r.Mirrors m) (k : QueueKind) :
    (m.list k.state).length ≤ r.table.slots.length := by
  have le := (h.sound.threads k).length_le
  rw [Roll.order, List.length_map] at le
  exact le

theorem resumeAll (h : r.Mirrors m) :
    r.resumeAll.1 = m.resumeAll.1 ∧ r.resumeAll.2.Mirrors m.resumeAll.2 := by
  have ready : QueueKind.suspendedReady ≠ .ready := by decide
  have blocked : QueueKind.suspendedBlocked ≠ .blocked := by decide
  obtain ⟨fromReady, mirrors⟩ := h.drain ready (h.length_list_le .suspendedReady)
  obtain ⟨fromBlocked, mirrors'⟩ :=
    mirrors.drain blocked (mirrors.length_list_le .suspendedBlocked)
  refine ⟨?_, mirrors'⟩
  exact congrArg₂ (· + ·) fromReady fromBlocked

/-! ### Processes come and go -/

/-- A process that is gone has no card, and its handle is not given out again. -/
theorem destroy (h : r.Mirrors m) (has : r.Has m c p) (memory : Memory) :
    ∃ r', r.destroy memory c.id = .ok (r', memory.release c.record) ∧
      r'.Mirrors { m.without c.id with handles := m.handles.retire c.id } := by
  obtain ⟨detached, rewired, round⟩ := h.sound.unlink has.live
  obtain ⟨t, removed, gone⟩ := remove_spec detached.wellformed
    ((rewired.resolve c.id).trans has.resolved) ((rewired.process _).trans has.found)
  have done : r.destroy memory c.id =
      .ok ({ r.unlink c.id.index with table := t }, memory.release c.record) := by
    rw [Registry.destroy, Registry.resolve, has.resolved, has.describes.record]
    simp only [bind, Except.bind, removed]
    rfl
  obtain ⟨leaves, -, process⟩ := destroy_process done
  refine ⟨_, done, ?_, ?_, ?_, h.round.trans round.symm⟩
  · have sound := detached.remove gone
    rw [← h.order_without has] at sound
    exact sound
  · rw [get_of_leaves leaves process]
    have files := h.files.without c.id
    exact ⟨files.nodup, files.card, files.complete, files.unranked⟩
  · rw [handles_remove removed, rewired.toSameSlots.handles, h.handles]

/-- A new process gets the next handle, and a card among the ready ones. -/
theorem create (h : r.Mirrors m) {memory memory' : Memory} {owner : ProcessClass} {priority : Nat}
    (done : r.create memory name owner priority = .ok (id, r', memory')) :
    ∃ m', m.create memory name owner priority = .ok ((id, memory'), m') ∧ r'.Mirrors m' := by
  obtain ⟨record, t, allocated, admissible, unused, insertEq, rfl⟩ := create_ok done
  let p : Process := .create name owner priority record
  have joined := create_effect h.sound.wellformed done
  obtain ⟨record', allocated', joins, -, -, process⟩ := joined
  obtain rfl : record' = record :=
    congrArg Prod.fst (Except.ok.inj (allocated'.symm.trans allocated))
  obtain ⟨i, t', insertEq', inserted⟩ := insert_spec h.sound.wellformed p
  obtain ⟨rfl, rfl⟩ := Prod.mk.inj (insertEq.symm.trans insertEq')
  obtain ⟨sound, rewired, -⟩ := (h.sound.insert inserted admissible unused).link .ready r.round
  obtain ⟨next, given⟩ := r.table.handles_insert p
  rw [insertEq, ← h.handles] at next given
  let c : Card := ⟨t.idAt i, name, owner, priority, .ready, Card.start record' 0, record',
    m.round, 0⟩
  have describes : c.Describes (entering .ready r.round p) := ⟨rfl, rfl, rfl, rfl, rfl, h.round,
    (Process.holds_create name owner priority record').entering .ready r.round⟩
  have unknown : m.named name = none := h.not_named (position_eq_none.mpr unused)
  refine ⟨{ m with handles := m.handles.next.2 }.enter c, ?_, ?_⟩
  · have length : ¬ (name.length < minNameLength ∨ maxNameLength < name.length) := by
      have lower : minNameLength ≤ name.length := admissible.minName
      have upper : name.length ≤ maxNameLength := admissible.maxName
      omega
    have le : ¬ maxPriority < priority := Nat.not_lt.mpr admissible.priority
    simp only [Roll.create, if_neg length, if_neg le, unknown, allocated]
    rw [← next]
    rfl
  · have slots := (SameSlots.modify (t := t) (i := i) _).trans rewired.toSameSlots
    refine of_enter (c := c) ?_ sound rewired.process (given.symm.trans slots.handles.symm) ?_
    · have files : Roll.Files { m with handles := m.handles.next.2 } r.get :=
        ⟨h.files.nodup, h.files.card, h.files.complete, h.files.unranked⟩
      rw [get_of_joins joins process]
      refine files.enter ?_ describes nofun
      rw [Option.eq_none_iff_forall_ne_some]
      intro q got
      obtain ⟨j, resolved, found⟩ := get_eq_some.mp got
      obtain rfl := (resolve_eq_some.mp resolved).1
      exact joins.fresh (live_iff.mpr ⟨q, found⟩)
    · have round := round_link { r with table := t } i .ready r.round
      exact h.round.trans round.symm

/-- What refuses a registry a new process refuses a roll its card. -/
theorem create_refused (h : r.Mirrors m) {memory : Memory} {owner : ProcessClass} {priority : Nat}
    {e : RegistryError} (refused : r.create memory name owner priority = .error e) :
    m.create memory name owner priority = .error e := by
  have known : (m.named name).isSome = (r.table.position name).isSome := by
    cases found : r.table.position name with
    | none =>
      rw [h.not_named found]
      rfl
    | some i =>
      obtain ⟨c, p, named, -⟩ := h.named found
      rw [named]
      rfl
  unfold Registry.create at refused
  unfold Roll.create
  rw [known]
  split_ifs at refused ⊢
  · exact congrArg Except.error (Except.error.inj refused)
  · exact congrArg Except.error (Except.error.inj refused)
  · exact congrArg Except.error (Except.error.inj refused)
  · cases allocated : memory.allocate recordSize with
    | error cause =>
      rw [allocated] at refused
      exact congrArg Except.error (Except.error.inj refused)
    | ok result =>
      rw [allocated] at refused
      cases refused

/-- The card of a new process is put aside, changed, until it is resumed. -/
theorem load (h : r.Mirrors m) {memory memory' : Memory} {owner : ProcessClass} {priority : Nat}
    {entry : UInt32} (done : r.load memory name owner priority entry = .ok (id, r', memory')) :
    ∃ m', m.load memory name owner priority entry = .ok ((id, memory'), m') ∧ r'.Mirrors m' := by
  obtain ⟨r₁, created, rfl⟩ := load_ok done
  obtain ⟨m₁, created', mirrors⟩ := h.create created
  obtain ⟨record, -, joins, -⟩ := create_effect h.sound.wellformed created
  obtain ⟨c, p, holder, rfl, -, has⟩ := mirrors.holder joins.resolved
  let f : Process → Process := (·.prepare entry)
  let g : Card → Card := fun d => { d with context := Card.start d.record entry }
  have sound : (r₁.modifyProcess c.id.index f).Sound m₁.order := mirrors.sound.modifyProcess_rank
    (fun _ => rfl) (fun _ => rfl) (fun _ => rfl) (fun _ => rfl)
  have describes : (g c).Describes (f p) := by
    have holds := Process.holds_prepare has.describes.holds.length entry
    refine ⟨has.describes.name, has.describes.owner, has.describes.priority, has.describes.state,
      has.describes.record, has.describes.round, ?_⟩
    show (f p).Holds (Card.start c.record entry)
    rw [has.describes.record]
    exact holds
  have prepared := mirrors.rewrite has (f := f) (g := g) sound (fun _ => rfl) rfl rfl describes
  have moved := prepared.moveTo (has.rewrite rfl rfl describes) .readySuspended
  have same : (m₁.rewrite c g).moveTo (g c) .readySuspended =
      m₁.moveTo (g c) .readySuspended := by
    rw [Roll.moveTo, Roll.moveTo]
    exact congrArg (fun m₂ : Roll => m₂.enter ((g c).goingTo .readySuspended m₁.round))
      (m₁.without_rewrite c fun _ => rfl)
  rw [same] at moved
  refine ⟨_, ?_, moved⟩
  rw [Roll.load, created']
  simp only [bind, Except.bind, holder]
  rfl

end Mirrors

end Registry

end TrapKernel
