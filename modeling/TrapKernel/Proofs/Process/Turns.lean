import TrapKernel.Proofs.Process.Verify
import TrapKernel.Proofs.Process.Window

/-!
# Taking turns

What becomes of the ready processes when the one that runs gives up the processor. The first of them
runs next, and the one that ran joins them. If some still waited for the current round they are one
fewer now, in the same order; if none did, all of them wait for the same round from then on.
-/

namespace TrapKernel

namespace Registry

open ProcessTable ProcessQueue

variable {r r' r₁ : Registry} {order : Order} {i j : Nat} {id next : ProcessId} {p q : Process}
  {saved : Context} {l : List Nat}

/-- The ready processes, in the order of their queue. -/
def readyIds (r : Registry) : List ProcessId := (r.members .ready).map r.table.idAt

/-- The process in the slot waits for the current round. -/
def isDue (r : Registry) (i : Nat) : Bool := (r.table.process? i).any (·.round = r.round)

/-- The ready processes that wait for the current round, in the order of their queue. -/
def dueIds (r : Registry) : List ProcessId := ((r.members .ready).filter r.isDue).map r.table.idAt

/-- The processes that are ready or run. -/
def contenders (r : Registry) : List ProcessId :=
  (r.table.entries.filter fun e => e.2.state = .ready ∨ e.2.state = .running).map
    fun e => r.table.idAt e.1

/-! ### Who contends for the processor -/

theorem nodup_map_idAt (t : ProcessTable) (nodup : l.Nodup) : (l.map t.idAt).Nodup :=
  nodup.map fun _ _ same => congrArg ProcessId.index same

theorem nodup_contenders (r : Registry) : r.contenders.Nodup := by
  have slots : (((r.table.entries.filter fun e =>
      e.2.state = .ready ∨ e.2.state = .running)).map (·.1)).Nodup :=
    nodup_entries.sublist (List.filter_sublist.map _)
  have ids := nodup_map_idAt r.table slots
  rw [List.map_map] at ids
  exact ids

theorem mem_contenders : id ∈ r.contenders ↔
    ∃ i, (r.stateAt i = some .ready ∨ r.stateAt i = some .running) ∧ r.table.idAt i = id := by
  rw [contenders, List.mem_map]
  constructor
  · rintro ⟨⟨i, p⟩, member, rfl⟩
    obtain ⟨entry, inState⟩ := List.mem_filter.mp member
    have found := mem_entries.mp entry
    refine ⟨i, ?_, rfl⟩
    rcases of_decide_eq_true inState with ready | running
    · exact Or.inl (stateAt_eq_some.mpr ⟨p, found, ready⟩)
    · exact Or.inr (stateAt_eq_some.mpr ⟨p, found, running⟩)
  · rintro ⟨i, inState, rfl⟩
    have found : ∃ p, r.table.process? i = some p ∧ (p.state = .ready ∨ p.state = .running) := by
      rcases inState with ready | running
      · obtain ⟨p, found, state⟩ := stateAt_eq_some.mp ready
        exact ⟨p, found, Or.inl state⟩
      · obtain ⟨p, found, state⟩ := stateAt_eq_some.mp running
        exact ⟨p, found, Or.inr state⟩
    obtain ⟨p, found, state⟩ := found
    exact ⟨(i, p), List.mem_filter.mpr ⟨mem_entries.mpr found, decide_eq_true state⟩, rfl⟩

theorem Sound.mem_readyIds (hs : r.Sound order) :
    id ∈ r.readyIds ↔ ∃ i, r.stateAt i = some .ready ∧ r.table.idAt i = id := by
  rw [readyIds, hs.toQueued.members, List.mem_map]
  constructor
  · rintro ⟨i, hi, same⟩
    exact ⟨i, hs.mem_iff.mp hi, same⟩
  · rintro ⟨i, state, same⟩
    exact ⟨i, hs.mem_iff.mpr state, same⟩

/-- The one that runs and the ready ones contend for the processor. -/
theorem Runs.perm_contenders (hr : r.Runs [id]) : (id :: r.readyIds).Perm r.contenders := by
  obtain ⟨order, hs⟩ := hr.sound
  obtain ⟨i, resolved⟩ := hr.resolves id List.mem_cons_self
  have running := hr.stateAt List.mem_cons_self resolved
  have own := idAt_of_resolve resolved
  have fresh : id ∉ r.readyIds := by
    intro member
    obtain ⟨j, ready, same⟩ := hs.mem_readyIds.mp member
    obtain rfl : j = i := congrArg ProcessId.index (same.trans own.symm)
    rw [running] at ready
    cases ready
  have nodup : (id :: r.readyIds).Nodup := by
    refine List.nodup_cons.mpr ⟨fresh, ?_⟩
    rw [readyIds, hs.toQueued.members]
    exact nodup_map_idAt r.table (hs.threads .ready).nodup
  rw [List.perm_ext_iff_of_nodup nodup r.nodup_contenders]
  intro id'
  rw [List.mem_cons, hs.mem_readyIds, mem_contenders]
  constructor
  · rintro (rfl | ⟨j, ready, same⟩)
    · exact ⟨i, Or.inr running, own⟩
    · exact ⟨j, Or.inl ready, same⟩
  · rintro ⟨j, ready | runs, same⟩
    · exact Or.inr ⟨j, ready, same⟩
    · obtain ⟨id'', member, resolved'⟩ := (hr.running j).mp runs
      obtain rfl := List.mem_singleton.mp member
      exact Or.inl (same.symm.trans (idAt_of_resolve resolved'))

/-! ### Saving changes no turn -/

theorem Sound.turns_saveContext (hs : r.Sound order) (done : r.saveContext id saved = .ok r') :
    r'.readyIds = r.readyIds ∧ r'.dueIds = r.dueIds := by
  obtain ⟨i, -, rfl⟩ := saveContext_ok done
  let f : Process → Process := (·.saveContext saved)
  have hs' : (r.modifyProcess i f).Sound order := hs.modifyProcess_rank (fun _ => rfl)
    (fun _ => rfl) (fun _ => rfl) (fun _ => rfl)
  have slots : r.table.SameSlots (r.modifyProcess i f).table := SameSlots.modify _
  have idAt : (r.modifyProcess i f).table.idAt = r.table.idAt := funext slots.idAt
  have due : (r.modifyProcess i f).isDue = r.isDue := by
    funext j
    rw [isDue, Registry.modifyProcess, process?_modifyProcess, isDue]
    split
    · cases r.table.process? j <;> rfl
    · rfl
  rw [readyIds, dueIds, hs'.toQueued.members, idAt, due, ← hs.toQueued.members]
  exact ⟨rfl, rfl⟩

/-! ### A turn -/

theorem isDue_eq (found : r.table.process? i = some p) :
    r.isDue i = decide (p.round = r.round) := by
  rw [isDue, found]
  rfl

/-- What the registry looks like once the first ready process runs and the one that ran was put
back: in which order the ready ones are, and what has become of each process. -/
structure Turned (r r' : Registry) (next id : ProcessId) (rest : List Nat) : Prop where
  runs : r'.Runs [next]
  slots : r.table.SameSlots r'.table
  round : ∃ i p, r.table.process? i = some p ∧ r.table.idAt i = next ∧
    r.members .ready = i :: rest ∧ r'.round = max r.round p.round
  order : ∃ j a b, r.table.idAt j = id ∧ rest = a ++ b ∧ r'.members .ready = a ++ j :: b ∧
    ∃ q, r'.table.process? j = some q ∧ q.round = r.round + 1
  others : ∀ j ∈ rest, r'.table.process? j = r.table.process? j

/-- The first ready process leaves the others in their order, and nothing else changes but the
round. -/
theorem Sound.first (hs : r.Sound order) (taken : r.takeReadyHead = some (next, r₁)) :
    ∃ i rest p, order .ready = i :: rest ∧ r.table.process? i = some p ∧ next = r.table.idAt i ∧
      r₁.Sound (order.without i) ∧ r.table.SameSlots r₁.table ∧
      (∀ j, i ≠ j → r₁.table.process? j = r.table.process? j) ∧
      r₁.round = max r.round p.round := by
  cases ready : order .ready with
  | nil =>
    rw [hs.takeReadyHead_none ready] at taken
    cases taken
  | cons i rest =>
    obtain ⟨r', p, taken', found, sound, -, -, round⟩ := hs.takeReadyHead ready
    rw [taken'] at taken
    cases taken
    obtain ⟨i', head, -, slots, process, -⟩ := takeReadyHead_ok taken'
    have same : i' = i := by
      rw [show r.ready.head = (order .ready).head? from (hs.threads .ready).head, ready] at head
      exact (Option.some.inj head).symm
    subst same
    exact ⟨i', rest, p, rfl, found, rfl, sound, slots,
      fun j other => (process j).trans (if_neg other), round⟩

/-- A process that ran finds its place among the ready ones, which stay in their order. -/
theorem Sound.members_link (hs : r.Sound order) (running : r.stateAt j = some .running)
    (round : Nat) : ∃ a b, order .ready = a ++ b ∧
      (r.link j .ready round).members .ready = a ++ j :: b := by
  have sound := (hs.settle running .ready round).1
  obtain ⟨a, b, split, placed⟩ := placed_eq .ready
    (r.table.modifyProcess j (entering .ready round)) j (order .ready)
  refine ⟨a, b, split, ?_⟩
  rw [← placed]
  exact (sound.toQueued.members .ready).trans (if_pos rfl)

theorem Runs.turn (hr : r.Runs [id]) (window : r.Window)
    (taken : r.takeReadyHead = some (next, r₁)) :
    ∃ rest r', r₁.requeueYielded id = .ok r' ∧ r.Turned r' next id rest := by
  obtain ⟨order, hs⟩ := hr.sound
  obtain ⟨runs₁, fresh, -⟩ := hr.takeReadyHead taken
  obtain ⟨j, resolved⟩ := hr.resolves id List.mem_cons_self
  obtain ⟨q, foundJ, stateJ⟩ := stateAt_eq_some.mp (hr.stateAt List.mem_cons_self resolved)
  obtain ⟨i, rest, p, ready, foundI, nextI, sound₁, slots₁, process₁, round₁⟩ := hs.first taken
  obtain ⟨r', requeued, runs', -⟩ :=
    runs₁.requeueYielded (List.mem_cons_of_mem next List.mem_cons_self)
  have only : ([next, id].erase id) = [next] := by
    have ne : next ≠ id := fun same => fresh (same ▸ List.mem_cons_self)
    rw [List.erase_cons_tail (by simpa using ne), List.erase_cons_head]
  have apart : ∀ k ∈ i :: rest, j ≠ k := by
    rintro k hk rfl
    have state := hs.mem_iff.mp (ready ▸ hk)
    rw [stateAt_eq_some.mpr ⟨q, foundJ, stateJ⟩] at state
    cases state
  have foundJ₁ : r₁.table.process? j = some q :=
    (process₁ j (apart i List.mem_cons_self).symm).trans foundJ
  -- the process that ran is put back, and waits for the next round
  obtain ⟨j', resolved', rfl⟩ := requeueYielded_ok requeued
  rw [slots₁.resolve, resolved] at resolved'
  obtain rfl := Option.some.inj resolved'
  rw [foundJ₁, Option.map_some, Option.getD_some] at runs' requeued
  rw [only] at runs'
  have without : (order.without i) .ready = rest := by
    rw [Order.without, ready, List.erase_cons_head]
  obtain ⟨a, b, split, members⟩ :=
    sound₁.members_link (stateAt_eq_some.mpr ⟨q, foundJ₁, stateJ⟩) (q.round + 1)
  have nodup : (i :: rest).Nodup := ready ▸ (hs.threads .ready).nodup
  refine ⟨rest, _, requeued, runs', slots₁.trans (sameSlots_link ..), ?_, ?_, ?_⟩
  · exact ⟨i, p, foundI, nextI.symm, (hs.toQueued.members .ready).trans ready,
      (round_link ..).trans round₁⟩
  · refine ⟨j, a, b, idAt_of_resolve resolved, without ▸ split, members,
      entering .ready (q.round + 1) q, ?_, ?_⟩
    · rw [process?_link, if_pos rfl, foundJ₁]
      rfl
    · rw [round_entering_ready, (window j q foundJ).running stateJ]
  · intro k hk
    have notFirst : i ≠ k := fun same => (List.nodup_cons.mp nodup).1 (same ▸ hk)
    rw [process?_link, if_neg (apart k (List.mem_cons_of_mem i hk)), process₁ k notFirst]

/-- One turn. The process that ran joins the ready ones; those that wait for the current round go on
in their order, or if there were none, all ready ones wait for the round that is current now. -/
theorem Turned.ids {rest : List Nat} (h : r.Turned r' next id rest) (hs : r.Sound order)
    (window : r.Window) :
    r.readyIds = next :: rest.map r.table.idAt ∧
      r'.readyIds.Perm (id :: rest.map r.table.idAt) ∧
      (r.dueIds = next :: r'.dueIds ∨ r.dueIds = [] ∧ r'.dueIds = r'.readyIds) := by
  obtain ⟨i, p, foundI, rfl, members, round⟩ := h.round
  obtain ⟨j, a, b, rfl, split, members', q, foundJ, late⟩ := h.order
  have idAt : r'.table.idAt = r.table.idAt := funext h.slots.idAt
  have ready : order .ready = i :: rest := (hs.toQueued.members .ready).symm.trans members
  -- those behind the first one wait for its round or for a later one
  have behind : ∀ k ∈ i :: rest, ∃ pk, r.table.process? k = some pk ∧ p.round ≤ pk.round ∧
      (pk.round = r.round ∨ pk.round = r.round + 1) := by
    intro k hk
    rw [← ready] at hk
    obtain ⟨pk, found, state⟩ := stateAt_eq_some.mp (hs.mem_iff.mp hk)
    exact ⟨pk, found, hs.round_le ready foundI hk found, (window k pk found).ready state⟩
  obtain ⟨p', found', -, first⟩ := behind i List.mem_cons_self
  obtain rfl := Option.some.inj (foundI.symm.trans found')
  refine ⟨?_, ?_, ?_⟩
  · rw [readyIds, members, List.map_cons]
  · rw [readyIds, members', idAt, split]
    exact List.perm_middle.map _
  · rcases first with now | later
    · left
      have same : r'.round = r.round := by omega
      have lastNot : r'.isDue j = false := by
        rw [isDue_eq foundJ, same, late]
        exact decide_eq_false (Nat.succ_ne_self _)
      have others : ∀ k ∈ rest, r'.isDue k = r.isDue k := by
        intro k hk
        rw [isDue, h.others k hk, same, isDue]
      have due : r.isDue i = true := by
        rw [isDue_eq foundI]
        exact decide_eq_true now
      have filtered : (a ++ j :: b).filter r'.isDue = rest.filter r.isDue := by
        rw [List.filter_append, List.filter_cons_of_neg (by rw [lastNot]; exact nofun),
          ← List.filter_append, ← split]
        exact List.filter_congr others
      rw [dueIds, members, List.filter_cons_of_pos due, List.map_cons, dueIds, members', idAt,
        filtered]
    · right
      have next : r'.round = r.round + 1 := by omega
      refine ⟨?_, ?_⟩
      · have none : (i :: rest).filter r.isDue = [] := by
          rw [List.filter_eq_nil_iff]
          intro k hk
          obtain ⟨pk, found, le, -⟩ := behind k hk
          rw [isDue_eq found]
          simp only [decide_eq_true_eq]
          omega
        rw [dueIds, members, none, List.map_nil]
      · have all : (a ++ j :: b).filter r'.isDue = a ++ j :: b := by
          rw [List.filter_eq_self]
          intro k hk
          rcases List.mem_cons.mp (List.perm_middle.mem_iff.mp hk) with rfl | hk
          · rw [isDue_eq foundJ, late, next]
            exact decide_eq_true rfl
          · rw [← split] at hk
            obtain ⟨pk, found, le, waits⟩ := behind k (List.mem_cons_of_mem i hk)
            rw [isDue_eq ((h.others k hk).trans found)]
            apply decide_eq_true
            omega
        rw [dueIds, readyIds, members', all]

end Registry

end TrapKernel
