import TrapKernel.Proofs.Process.Pouring

/-!
# Resuming everybody

`resumeAll` pours the suspended ready processes into the ready queue and the suspended blocked ones
into the blocked queue. `Resumes` says what comes of that.
-/

namespace TrapKernel

open ProcessTable ProcessQueue

/-! ### A round that others join -/

namespace ProcessTable

variable {t t' : ProcessTable} {base list : List Nat} {i j round : Nat}

theorem joined_congr (rounds : ∀ j ∈ base, t'.roundAt j = t.roundAt j)
    (priorities : t'.priorityAt = t.priorityAt) :
    t'.joined round base list = t.joined round base list := by
  have same (p : Nat → Bool) :
      base.filter (fun j => p (t'.roundAt j)) = base.filter (fun j => p (t.roundAt j)) :=
    List.filter_congr fun j hj => by rw [rounds j hj]
  rw [joined, joined, same (· < round), same (· = round), same (round < ·), priorities]

/-- Those of a descending list keep their order among the others. -/
theorem sublist_ranked {rank : Nat → Nat} {l l' : List Nat} (descends : Descends rank l)
    (sub : l.Sublist l') : l.Sublist (ranked rank l') := by
  refine List.sublist_mergeSort ranks_trans ranks_total (descends.imp fun le => ?_) sub
  exact decide_eq_true le

/-- Whoever descends in priority and waits for the round or joins it keeps its order. -/
theorem sublist_joined {l : List Nat} (descends : Descends t.priorityAt l)
    (sub : l.Sublist (base.filter (t.roundAt · = round) ++ list)) :
    l.Sublist (t.joined round base list) :=
  ((sublist_ranked descends sub).trans (List.sublist_append_left _ _)).trans
    (List.sublist_append_right _ _)

theorem Scheduled.descends {l : List Nat} (scheduled : t.Scheduled l)
    (same : ∀ j ∈ l, t.roundAt j = round) : Descends t.priorityAt l := by
  refine List.Pairwise.imp_of_mem (fun {i j} hi hj apart => ?_) scheduled
  have atI := same i hi
  have atJ := same j hj
  omega

/-- Those who wait already keep their order. -/
theorem Scheduled.sublist_joined (scheduled : t.Scheduled base) (round : Nat) (list : List Nat) :
    base.Sublist (t.joined round base list) := by
  have now : ∀ j ∈ base.filter (t.roundAt · = round), t.roundAt j = round := fun j hj =>
    of_decide_eq_true (List.mem_filter.mp hj).2
  have descends := Scheduled.descends (scheduled.sublist List.filter_sublist) now
  have kept := sublist_ranked descends (List.sublist_append_left _ list)
  have whole := (List.Sublist.refl (base.filter (t.roundAt · < round))).append
    (kept.append (List.Sublist.refl (base.filter (round < t.roundAt ·))))
  rwa [scheduled.split round] at whole

/-- Whoever joins a round is ahead of those that wait for a later one. -/
theorem ahead_joined (joins : i ∈ list) (waits : j ∈ base) (later : round < t.roundAt j) :
    [i, j].Sublist (t.joined round base list) := by
  have front : [i].Sublist (ranked t.priorityAt (base.filter (t.roundAt · = round) ++ list)) :=
    List.singleton_sublist.mpr (mem_ranked.mpr (List.mem_append_right _ joins))
  have back : [j].Sublist (base.filter (round < t.roundAt ·)) :=
    List.singleton_sublist.mpr (List.mem_filter.mpr ⟨waits, decide_eq_true later⟩)
  exact (front.append back).trans (List.sublist_append_right _ _)

/-- Whoever joins a round is behind those of its priority that wait for it. -/
theorem behind_joined (joins : i ∈ list) (waits : j ∈ base) (now : t.roundAt j = round)
    (same : t.priorityAt j = t.priorityAt i) : [j, i].Sublist (t.joined round base list) := by
  have front : [j].Sublist (base.filter (t.roundAt · = round)) :=
    List.singleton_sublist.mpr (List.mem_filter.mpr ⟨waits, decide_eq_true now⟩)
  have descends : Descends t.priorityAt [j, i] := by
    simp [Descends, same]
  exact ProcessTable.sublist_joined descends (front.append (List.singleton_sublist.mpr joins))

end ProcessTable

namespace Registry

variable {r r' : Registry} {m : Roll} {order : Order} {i j n : Nat}

/-- What becomes of a process when everybody is resumed. -/
def resumed (round : Nat) (p : Process) : Process :=
  match resumeTarget p.state with
  | none => p
  | some state => entering state round p

/-- Everybody was resumed in `r`, and `r'` has come of it. -/
structure Resumes (r : Registry) (n : Nat) (r' : Registry) : Prop where
  /-- Both loops end. -/
  ends : ∃ fromReady r₁ fromBlocked, Empties .suspendedReady .ready r fromReady r₁ ∧
    Empties .suspendedBlocked .blocked r₁ fromBlocked r' ∧ n = fromReady + fromBlocked
  count : n = (r.members .suspendedReady).length + (r.members .suspendedBlocked).length
  suspendedReady : r'.members .suspendedReady = []
  suspendedBlocked : r'.members .suspendedBlocked = []
  blocked : r'.members .blocked = r.members .blocked ++ r.members .suspendedBlocked
  /-- The rounds before and after the current one are what they were, and in the current one the
  resumed are ranked with those that are there already. -/
  ready : r'.members .ready =
    (r.members .ready).filter (r.table.roundAt · < r.round) ++
      (ranked r.table.priorityAt ((r.members .ready).filter (r.table.roundAt · = r.round) ++
        r.members .suspendedReady) ++
      (r.members .ready).filter (r.round < r.table.roundAt ·))
  scheduled : r'.table.Scheduled (r'.members .ready)
  /-- Neither those that were ready nor those that are resumed overtake one another. -/
  kept : (r.members .ready).Sublist (r'.members .ready)
  inOrder : (r.members .suspendedReady).Sublist (r'.members .ready)
  behind : ∀ i ∈ r.members .suspendedReady, ∀ j ∈ r.members .ready,
    r.table.roundAt j = r.round → r.table.priorityAt j = r.table.priorityAt i →
      [j, i].Sublist (r'.members .ready)
  ahead : ∀ i ∈ r.members .suspendedReady, ∀ j ∈ r.members .ready,
    r.round < r.table.roundAt j → [i, j].Sublist (r'.members .ready)
  /-- The same processes are in the same slots. -/
  slots : r.table.SameSlots r'.table
  process : ∀ i, r'.table.process? i = (r.table.process? i).map (resumed r.round)
  unchanged : ∀ i p, r.table.process? i = some p → ∃ p', r'.table.process? i = some p' ∧
    p'.name = p.name ∧ p'.owner = p.owner ∧ p'.priority = p.priority ∧ p'.record = p.record ∧
      p'.stack = p.stack ∧ p'.context = p.context
  round : r'.round = r.round

theorem resumed_unchanged (round : Nat) (p : Process) :
    ∃ state round', resumed round p = { p with state, round := round' } := by
  unfold resumed
  split
  · exact ⟨p.state, p.round, rfl⟩
  · exact ⟨_, _, rfl⟩

section Loops

variable {r₁ : Registry} {n₁ n₂ : Nat}

/-- The ready queue after the first loop. -/
theorem Sound.ready_poured (hs : r.Sound order)
    (first : r.Poured order .suspendedReady .ready n₁ r₁) :
    order.poured r₁.table .suspendedReady .ready .ready =
      r.table.joined r.round (order .ready) (order .suspendedReady) := by
  have waiting : ∀ j ∈ order .ready, r₁.table.process? j = r.table.process? j := by
    intro j hj
    rw [first.process, if_neg]
    intro mem
    cases hs.toQueued.eq_of_mem mem hj
  have joins : ∀ j ∈ order .suspendedReady, r₁.table.roundAt j = r.round := by
    intro j hj
    obtain ⟨p, found⟩ := live_iff.mp (hs.toQueued.live hj)
    rw [roundAt, first.process, if_pos hj, found]
    rfl
  have priorities : r₁.table.priorityAt = r.table.priorityAt := by
    funext j
    rw [priorityAt, first.process, priorityAt]
    split
    · rw [Option.map_map]
      rfl
    · rfl
  have live : ∀ j, j ∈ order .ready ∨ j ∈ order .suspendedReady → r₁.table.Live j := by
    intro j hj
    rw [first.slots.live]
    exact hj.elim hs.toQueued.live hs.toQueued.live
  have sorted : Sorted .ready r₁.table (order .ready) := sorted_congr (hs.sorted .ready) waiting
  have poured := foldl_placed_ready sorted live joins
  rw [joined_congr (fun j hj => by rw [roundAt, waiting j hj, roundAt]) priorities] at poured
  exact poured

/-- Whom the two loops move, and where to. -/
theorem Sound.process_poured (hs : r.Sound order)
    (first : r.Poured order .suspendedReady .ready n₁ r₁)
    (second : r₁.Poured (order.poured r₁.table .suspendedReady .ready) .suspendedBlocked .blocked
      n₂ r') (i : Nat) :
    r'.table.process? i = (r.table.process? i).map (resumed r.round) := by
  have same : order.poured r₁.table .suspendedReady .ready .suspendedBlocked =
      order .suspendedBlocked := rfl
  rw [second.process, first.process, first.round, same]
  simp only [hs.mem_iff, stateAt]
  cases r.table.process? i with
  | none => rfl
  | some p =>
    simp only [Option.map_some, Option.some.injEq, resumed]
    cases state : p.state <;> rfl

/-- A suspended process waits for no round. -/
theorem Mirrors.roundAt_suspended (h : r.Mirrors m) (hi : i ∈ m.order .suspendedReady) :
    r.table.roundAt i = 0 := by
  obtain ⟨c, hc, rfl⟩ := List.mem_map.mp hi
  obtain ⟨p, has, -⟩ := h.has hc
  rw [roundAt, has.found, Option.map_some, Option.getD_some, ← has.describes.round]
  exact h.files.unranked c hc

theorem Mirrors.resumes_poured (h : r.Mirrors m)
    (first : r.Poured m.order .suspendedReady .ready n₁ r₁)
    (second : r₁.Poured (m.order.poured r₁.table .suspendedReady .ready) .suspendedBlocked .blocked
      n₂ r') : r.Resumes (n₁ + n₂) r' := by
  have hs := h.sound
  have process := hs.process_poured first second
  have members : ∀ k, r.members k = m.order k := hs.toQueued.members
  have members' : ∀ k, r'.members k = (m.order.poured r₁.table .suspendedReady .ready).poured
      r'.table .suspendedBlocked .blocked k := second.sound.toQueued.members
  have ready : r'.members .ready =
      r.table.joined r.round (r.members .ready) (r.members .suspendedReady) := by
    rw [members', members, members]
    exact hs.ready_poured first
  have scheduled : r.table.Scheduled (r.members .ready) := by
    rw [members]
    exact scheduled_of_sorted (hs.sorted .ready) fun j hj => hs.toQueued.live hj
  have suspended : Descends r.table.priorityAt (r.members .suspendedReady) := by
    rw [members]
    have sorted : r.table.Scheduled (m.order .suspendedReady) :=
      scheduled_of_sorted (hs.sorted .suspendedReady) fun j hj => hs.toQueued.live hj
    exact sorted.descends fun j hj => h.roundAt_suspended hj
  refine ⟨⟨n₁, r₁, n₂, first.empties, second.empties, rfl⟩, ?_, members' .suspendedReady,
    members' .suspendedBlocked, ?_, ready, ?_, ?_, ?_, ?_, ?_, first.slots.trans second.slots,
    process, fun i p found => ?_, second.round.trans first.round⟩
  · rw [first.count, second.count, members, members]
    rfl
  · rw [members', members, members]
    exact foldl_placed_fifo rfl
  · rw [members']
    exact scheduled_of_sorted (second.sound.sorted .ready) fun j hj => second.sound.toQueued.live hj
  · rw [ready]
    exact scheduled.sublist_joined r.round _
  · rw [ready]
    exact ProcessTable.sublist_joined suspended (List.sublist_append_right _ _)
  · intro i hi j hj now same
    rw [ready]
    exact behind_joined hi hj now same
  · intro i hi j hj later
    rw [ready]
    exact ahead_joined hi hj later
  · obtain ⟨state, round, eq⟩ := resumed_unchanged r.round p
    refine ⟨resumed r.round p, by rw [process, found, Option.map_some], ?_⟩
    rw [eq]
    exact ⟨rfl, rfl, rfl, rfl, rfl, rfl⟩

end Loops

theorem Mirrors.resumes (h : r.Mirrors m) : r.Resumes r.resumeAll.1 r.resumeAll.2 := by
  have ready : QueueKind.suspendedReady ≠ .ready := by decide
  have blocked : QueueKind.suspendedBlocked ≠ .blocked := by decide
  have first := h.sound.drain_pours ready (h.sound.threads .suspendedReady).length_le
  have second := first.sound.drain_pours blocked (first.sound.threads .suspendedBlocked).length_le
  exact h.resumes_poured first second

/-- Whatever was asked of a registry, everybody can be resumed in it: both loops end, the suspended
queues are empty then, the blocked have gone behind the blocked, and the ready have joined the
current round in the order of their priorities. -/
theorem resumes_calls (calls : List AnyCall) (permitted : empty.Permits calls) :
    (empty.after calls).Resumes (empty.after calls).resumeAll.1 (empty.after calls).resumeAll.2 :=
  (mirrors_empty.after calls permitted).resumes

/-- Two processes are created, and one of them has its turn. Then two more are suspended when they
are ready, one is blocked, and one is blocked and suspended. -/
def gathering : List AnyCall :=
  let memory := Memory.bump (.create 2000)
  [⟨_, .create memory "first" .user 3⟩, ⟨_, .create memory "second" .user 5⟩, ⟨_, .takeReadyHead⟩,
    ⟨_, .requeueYielded ⟨1, 0⟩⟩, ⟨_, .create memory "third" .user 3⟩,
    ⟨_, .create memory "fourth" .user 7⟩, ⟨_, .suspend "third"⟩, ⟨_, .suspend "fourth"⟩,
    ⟨_, .create memory "fifth" .user 5⟩, ⟨_, .block "fifth"⟩, ⟨_, .create memory "sixth" .user 5⟩,
    ⟨_, .block "sixth"⟩, ⟨_, .suspend "sixth"⟩]

/-- The fourth goes before the first, the third behind it, and both before the second, which waits
for the next round. -/
theorem resumes_calls_gathering : empty.Permits gathering ∧
    (empty.after gathering).Resumes (empty.after gathering).resumeAll.1
      (empty.after gathering).resumeAll.2 ∧
    (empty.after gathering).resumeAll.1 = 3 ∧
    (empty.after gathering).resumeAll.2.members .ready = [3, 0, 2, 1] ∧
    (empty.after gathering).resumeAll.2.members .blocked = [4, 5] := by
  have runs : ((empty.after (gathering.take 3)).get ⟨1, 0⟩).map (·.state) = some .running := by
    decide +kernel
  have permitted : empty.Permits gathering := by
    refine ⟨trivial, trivial, trivial, fun p got => ?_, trivial, trivial, trivial, trivial, trivial,
      trivial, trivial, trivial, trivial, trivial⟩
    have state := congrArg (Option.map (·.state)) got
    exact Option.some.inj (state.symm.trans runs)
  exact ⟨permitted, resumes_calls gathering permitted, by decide +kernel, by decide +kernel,
    by decide +kernel⟩

end Registry

end TrapKernel
