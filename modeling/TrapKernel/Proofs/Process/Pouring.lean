import TrapKernel.Proofs.Process.Axes
import TrapKernel.Proofs.Process.Ranked

/-!
# One queue is poured into another

`drain` takes the first of a queue and moves it, until there is no first one. The loop ends: every
turn takes one out of the queue and puts none in, so there are as many turns as there were members.
They are put into the other queue one after the other. In one that is first come, first served they
go to the end. In the ready queue they join the current round, which lies between the rounds before
it and the rounds after it, and there each is put behind those that have its priority.
-/

namespace TrapKernel

open ProcessTable ProcessQueue

/-- The order after all of queue `k` have gone to queue `k'`. -/
def Order.poured (order : Order) (t : ProcessTable) (k k' : QueueKind) : Order := fun k₁ =>
  if k₁ = k then []
  else if k₁ = k' then (order k).foldl (fun l i => placed k' t i l) (order k')
  else order k₁

/-! ### Where they are put -/

namespace ProcessTable

variable {t : ProcessTable} {l : List Nat} {i j round : Nat}

/-- The round for which the process in a slot waits. -/
def roundAt (t : ProcessTable) (i : Nat) : Nat := ((t.process? i).map (·.round)).getD 0

/-- The priority of the process in a slot. -/
def priorityAt (t : ProcessTable) (i : Nat) : Nat := ((t.process? i).map (·.priority)).getD 0

theorem outranks_eq (live : t.Live i) (live' : t.Live j) : outranks t i j =
    decide (t.roundAt i < t.roundAt j ∨
      t.roundAt i = t.roundAt j ∧ t.priorityAt j < t.priorityAt i) := by
  obtain ⟨p, process⟩ := live_iff.mp live
  obtain ⟨q, process'⟩ := live_iff.mp live'
  simp only [outranks, roundAt, priorityAt, process, process', Option.map_some, Option.getD_some]
  rfl

/-- Nobody stands behind a later round, nor in its own round behind a lower priority. -/
def Scheduled (t : ProcessTable) (l : List Nat) : Prop :=
  l.Pairwise fun i j => t.roundAt i < t.roundAt j ∨
    t.roundAt i = t.roundAt j ∧ t.priorityAt j ≤ t.priorityAt i

theorem scheduled_of_sorted (sorted : Sorted .ready t l) (live : ∀ j ∈ l, t.Live j) :
    t.Scheduled l := by
  refine (sorted rfl).imp_of_mem fun {i j} hi hj apart => ?_
  rw [outranks_eq (live j hj) (live i hi), decide_eq_false_iff_not] at apart
  omega

/-! Slots are put into the ready queue one after the other, all of them for the same round. -/

variable {base list : List Nat}

theorem sorted_foldl_placed {k : QueueKind} (sorted : Sorted k t base)
    (live : ∀ j, j ∈ base ∨ j ∈ list → t.Live j) :
    Sorted k t (list.foldl (fun l i => placed k t i l) base) := by
  induction list generalizing base with
  | nil => exact sorted
  | cons i list ih =>
    refine ih (sorted.placed fun j hj => live j (Or.inl hj)) fun j hj => live j ?_
    rw [mem_placed] at hj
    rw [List.mem_cons]
    tauto

theorem foldl_placed_fifo {k : QueueKind} (fifo : k.discipline = .fifo) :
    list.foldl (fun l i => placed k t i l) base = base ++ list := by
  induction list generalizing base with
  | nil => exact (List.append_nil base).symm
  | cons i list ih =>
    rw [List.foldl_cons, ih, placed, fifo, List.append_assoc, List.singleton_append]

/-- A sorted list is made of the rounds before a round, of that round, and of the rounds after it. -/
theorem Scheduled.split (scheduled : t.Scheduled l) (round : Nat) :
    l.filter (t.roundAt · < round) ++ (l.filter (t.roundAt · = round) ++
      l.filter (round < t.roundAt ·)) = l := by
  have early : l.Pairwise fun i j =>
      decide (t.roundAt j < round) → decide (t.roundAt i < round) := by
    refine scheduled.imp fun {i j} apart => ?_
    simp only [decide_eq_true_eq]
    omega
  let rest := l.filter fun j => !decide (t.roundAt j < round)
  have now : rest.Pairwise fun i j =>
      decide (t.roundAt j = round) → decide (t.roundAt i = round) := by
    refine (scheduled.sublist List.filter_sublist).imp_of_mem fun {i j} hi _ apart => ?_
    have notEarly := (List.mem_filter.mp hi).2
    simp only [Bool.not_eq_true', decide_eq_false_iff_not] at notEarly
    simp only [decide_eq_true_eq]
    omega
  have atRound : rest.filter (t.roundAt · = round) = l.filter (t.roundAt · = round) := by
    rw [List.filter_filter]
    refine List.filter_congr fun j _ => ?_
    rw [Bool.eq_iff_iff]
    simp only [Bool.and_eq_true, decide_eq_true_eq, Bool.not_eq_true', decide_eq_false_iff_not]
    omega
  have behind : rest.filter (fun j => !decide (t.roundAt j = round)) =
      l.filter (round < t.roundAt ·) := by
    rw [List.filter_filter]
    refine List.filter_congr fun j _ => ?_
    rw [Bool.eq_iff_iff]
    simp only [Bool.and_eq_true, decide_eq_true_eq, Bool.not_eq_true', decide_eq_false_iff_not]
    omega
  calc l.filter (t.roundAt · < round) ++ (l.filter (t.roundAt · = round) ++
        l.filter (round < t.roundAt ·))
    _ = l.filter (t.roundAt · < round) ++ rest := by
      rw [← atRound, ← behind, filter_append_filter_not now]
    _ = l := filter_append_filter_not early

/-- The ready queue after the slots of a list have joined a round. -/
def joined (t : ProcessTable) (round : Nat) (base list : List Nat) : List Nat :=
  base.filter (t.roundAt · < round) ++
    (ranked t.priorityAt (base.filter (t.roundAt · = round) ++ list) ++
      base.filter (round < t.roundAt ·))

theorem mem_joined : j ∈ t.joined round base list ↔ j ∈ base ∨ j ∈ list := by
  simp only [joined, List.mem_append, mem_ranked, List.mem_filter, decide_eq_true_eq]
  have rounds := Nat.lt_trichotomy (t.roundAt j) round
  tauto

/-- One more that joins the round is put behind those of its priority. -/
theorem placed_joined (live : ∀ j, j ∈ base ∨ j ∈ list → t.Live j) (live' : t.Live i)
    (joins : ∀ j ∈ list, t.roundAt j = round) (atI : t.roundAt i = round)
    (sorted : Sorted .ready t (t.joined round base list)) :
    placed .ready t i (t.joined round base list) = t.joined round base (list ++ [i]) := by
  have liveAll : ∀ j ∈ t.joined round base list, t.Live j := fun j hj => live j (mem_joined.mp hj)
  have early : ∀ j ∈ base.filter (t.roundAt · < round), outranks t i j = false := by
    intro j hj
    obtain ⟨hj, before⟩ := List.mem_filter.mp hj
    rw [decide_eq_true_eq] at before
    rw [outranks_eq live' (live j (Or.inl hj)), decide_eq_false_iff_not]
    omega
  have now : ∀ j ∈ ranked t.priorityAt (base.filter (t.roundAt · = round) ++ list),
      outranks t i j = !decide (t.priorityAt i ≤ t.priorityAt j) := by
    intro j hj
    have atJ : t.Live j ∧ t.roundAt j = round := by
      rw [mem_ranked, List.mem_append, List.mem_filter, decide_eq_true_eq] at hj
      rcases hj with ⟨hj, atJ⟩ | hj
      · exact ⟨live j (Or.inl hj), atJ⟩
      · exact ⟨live j (Or.inr hj), joins j hj⟩
    rw [outranks_eq live' atJ.1, ← decide_not, decide_eq_decide]
    omega
  have later : ∀ j ∈ base.filter (round < t.roundAt ·), outranks t i j = true := by
    intro j hj
    obtain ⟨hj, after⟩ := List.mem_filter.mp hj
    rw [decide_eq_true_eq] at after
    rw [outranks_eq live' (live j (Or.inl hj)), decide_eq_true_eq]
    omega
  have front : (t.joined round base list).filter (!outranks t i ·) =
      base.filter (t.roundAt · < round) ++
        (ranked t.priorityAt (base.filter (t.roundAt · = round) ++ list)).filter
          (t.priorityAt i ≤ t.priorityAt ·) := by
    have all : (base.filter (t.roundAt · < round)).filter (!outranks t i ·) =
        base.filter (t.roundAt · < round) :=
      List.filter_eq_self.mpr fun j hj => by rw [early j hj, Bool.not_false]
    have none : (base.filter (round < t.roundAt ·)).filter (!outranks t i ·) = [] :=
      List.filter_eq_nil_iff.mpr fun j hj => by simp [later j hj]
    rw [joined, List.filter_append, List.filter_append, all, none, List.append_nil]
    congr 1
    exact List.filter_congr fun j hj => by rw [now j hj, Bool.not_not]
  have back : (t.joined round base list).filter (outranks t i ·) =
      ((ranked t.priorityAt (base.filter (t.roundAt · = round) ++ list)).filter
          fun j => !decide (t.priorityAt i ≤ t.priorityAt j)) ++
        base.filter (round < t.roundAt ·) := by
    have none : (base.filter (t.roundAt · < round)).filter (outranks t i ·) = [] :=
      List.filter_eq_nil_iff.mpr fun j hj => by simp [early j hj]
    have all : (base.filter (round < t.roundAt ·)).filter (outranks t i ·) =
        base.filter (round < t.roundAt ·) := List.filter_eq_self.mpr later
    rw [joined, List.filter_append, List.filter_append, none, List.nil_append, all]
    congr 1
    exact List.filter_congr now
  rw [Registry.placed_eq_filter rfl sorted liveAll, front, back, joined, ← List.append_assoc _ list,
    ranked_append_singleton]
  simp only [List.append_assoc, List.cons_append]

/-- Slots that join a round one after the other are ranked with those that wait for it. -/
theorem foldl_placed_ready (sorted : Sorted .ready t base)
    (live : ∀ j, j ∈ base ∨ j ∈ list → t.Live j) (joins : ∀ i ∈ list, t.roundAt i = round) :
    list.foldl (fun l i => placed .ready t i l) base = t.joined round base list := by
  induction list using List.reverseRecOn with
  | nil =>
    have scheduled := scheduled_of_sorted sorted fun j hj => live j (Or.inl hj)
    have descends : Descends t.priorityAt (base.filter (t.roundAt · = round)) := by
      refine (scheduled.sublist List.filter_sublist).imp_of_mem fun {i j} hi hj apart => ?_
      have atI := of_decide_eq_true (List.mem_filter.mp hi).2
      have atJ := of_decide_eq_true (List.mem_filter.mp hj).2
      omega
    rw [joined, List.append_nil, ← eq_ranked descends fun _ => rfl, scheduled.split, List.foldl_nil]
  | append_singleton list i ih =>
    have live' : ∀ j, j ∈ base ∨ j ∈ list → t.Live j := by
      intro j hj
      refine live j (hj.imp_right fun mem => ?_)
      exact List.mem_append_left [i] mem
    have joins' : ∀ j ∈ list, t.roundAt j = round := fun j hj =>
      joins j (List.mem_append_left [i] hj)
    have last : i ∈ list ++ [i] := List.mem_append_right list List.mem_cons_self
    have sorted' := sorted_foldl_placed sorted live'
    rw [ih live' joins'] at sorted'
    rw [List.foldl_append, List.foldl_cons, List.foldl_nil, ih live' joins']
    exact placed_joined live' (live i (Or.inr last)) joins' (joins i last) sorted'

end ProcessTable

/-! ### The loop -/

namespace Registry

variable {r r' : Registry} {order : Order} {k k' : QueueKind} {i n : Nat}

/-- As long as the queue has a first process, that one is moved to the state. The loop that begins
in `r` ends in `r'` after `n` turns. -/
inductive Empties (kind : QueueKind) (state : ProcessState) : Registry → Nat → Registry → Prop where
  | done {r : Registry} (empty : (r.queue kind).head = none) : Empties kind state r 0 r
  | turn {r r' : Registry} {i n : Nat} (first : (r.queue kind).head = some i)
      (rest : Empties kind state (r.moveTo i state) n r') : Empties kind state r (n + 1) r'

/-- All of queue `k` have gone to queue `k'`, and nothing else has happened. -/
structure Poured (r : Registry) (order : Order) (k k' : QueueKind) (n : Nat) (r' : Registry) :
    Prop where
  empties : Empties k k'.state r n r'
  count : n = (order k).length
  sound : r'.Sound (order.poured r'.table k k')
  slots : r.table.SameSlots r'.table
  process : ∀ j, r'.table.process? j = if j ∈ order k
    then (r.table.process? j).map (entering k'.state r.round) else r.table.process? j
  round : r'.round = r.round

theorem Sound.poured_nil (hs : r.Sound order) (empty : order k = []) (k' : QueueKind) :
    r.Poured order k k' 0 r := by
  have head : (r.queue k).head = none := by
    rw [(hs.threads k).head, empty, List.head?_nil]
  have same : order.poured r.table k k' = order := by
    funext k₁
    unfold Order.poured
    split
    · rename_i eq
      rw [eq, empty]
    · split
      · rename_i eq
        rw [empty, List.foldl_nil, eq]
      · rfl
  refine ⟨.done head, by rw [empty, List.length_nil], same.symm ▸ hs,
    (Rewired.refl r.table).toSameSlots, ?_, rfl⟩
  intro j
  rw [empty, if_neg List.not_mem_nil]

/-- The first of a queue goes to its place in another one. -/
theorem Sound.move_first (hs : r.Sound order) (ne : k ≠ k') {rest : List Nat}
    (members : order k = i :: rest) :
    ∃ order₁, (r.moveTo i k'.state).Sound order₁ ∧ order₁ k = rest ∧
      order₁ k' = placed k' ((r.unlink i).table.modifyProcess i (entering k'.state r.round)) i
        (order k') ∧
      ∀ k₁, k₁ ≠ k → k₁ ≠ k' → order₁ k₁ = order k₁ := by
  have inK : i ∈ order k := members ▸ List.mem_cons_self
  have kept : ∀ k₁, k₁ ≠ k → order.without i k₁ = order k₁ := fun k₁ other =>
    List.erase_of_not_mem fun member => other (hs.toQueued.eq_of_mem member inK)
  refine ⟨_, hs.moveTo_order (hs.toQueued.live inK) k'.state, ?_, ?_, fun k₁ notK notK' => ?_⟩
  · rw [Order.including_of_ne ne, Order.without, members, List.erase_cons_head]
  · rw [Order.including, if_pos (QueueKind.ofState_state k'), kept k' ne.symm]
  · rw [Order.including_of_ne notK', kept k₁ notK]

/-- The first is moved, and then the rest are poured. -/
theorem Sound.poured_cons (hs : r.Sound order) (ne : k ≠ k') {rest : List Nat}
    (members : order k = i :: rest) {order₁ : Order} (fromK : order₁ k = rest)
    (toK : order₁ k' = placed k'
      ((r.unlink i).table.modifyProcess i (entering k'.state r.round)) i (order k'))
    (others : ∀ k₁, k₁ ≠ k → k₁ ≠ k' → order₁ k₁ = order k₁)
    (poured : (r.moveTo i k'.state).Poured order₁ k k' n r') : r.Poured order k k' (n + 1) r' := by
  have inK : i ∈ order k := members ▸ List.mem_cons_self
  have head : (r.queue k).head = some i := by
    rw [(hs.threads k).head, members, List.head?_cons]
  have process : ∀ j, r'.table.process? j = if j ∈ order k
      then (r.table.process? j).map (entering k'.state r.round) else r.table.process? j := by
    intro j
    obtain ⟨outside, -⟩ := List.nodup_cons.mp (members ▸ (hs.threads k).nodup)
    rw [poured.process, fromK, process?_moveTo, round_moveTo, members]
    by_cases eq : i = j
    · subst eq
      rw [if_neg outside, if_pos rfl, if_pos List.mem_cons_self]
    · simp only [if_neg eq, List.mem_cons, Ne.symm eq, false_or]
  -- whoever is put in later changes nothing about the place of the first
  have place : placed k' ((r.unlink i).table.modifyProcess i (entering k'.state r.round)) i
      (order k') = placed k' r'.table i (order k') := by
    refine (placed_congr ?_ (fun j hj => ?_) k').symm
    · rw [process i, if_pos inK, process?_modifyProcess, if_pos rfl, (r.rewired_unlink i).process]
    · have notK : j ∉ order k := fun mem => ne (hs.toQueued.eq_of_mem mem hj)
      have other : i ≠ j := by
        rintro rfl
        exact notK inK
      rw [process j, if_neg notK, process?_modifyProcess, if_neg other,
        (r.rewired_unlink i).process]
  have same : order₁.poured r'.table k k' = order.poured r'.table k k' := by
    funext k₁
    unfold Order.poured
    split
    · rfl
    · rename_i notK
      split
      · rw [fromK, toK, members, List.foldl_cons, place]
      · rename_i notK'
        exact others k₁ notK notK'
  refine ⟨.turn head poured.empties, ?_, same ▸ poured.sound,
    (r.sameSlots_moveTo i _).trans poured.slots, process, poured.round.trans (r.round_moveTo i _)⟩
  rw [poured.count, fromK, members, List.length_cons]

/-- As many turns as there are slots are enough. -/
theorem Sound.drain_pours (hs : r.Sound order) (ne : k ≠ k') {most : Nat}
    (le : (order k).length ≤ most) :
    r.Poured order k k' (r.drain k k'.state most).1 (r.drain k k'.state most).2 := by
  induction most generalizing r order with
  | zero => exact hs.poured_nil (List.length_eq_zero_iff.mp (Nat.le_zero.mp le)) k'
  | succ most ih =>
    rw [Registry.drain, show (r.queue k).head = (order k).head? from (hs.threads k).head]
    cases members : order k with
    | nil => exact hs.poured_nil members k'
    | cons i rest =>
      obtain ⟨order₁, sound, fromK, toK, others⟩ := hs.move_first ne members
      have shorter : (order₁ k).length ≤ most := by
        rw [members] at le
        rw [fromK]
        exact Nat.le_of_succ_le_succ le
      exact hs.poured_cons ne members fromK toK others (ih sound shorter)

end Registry

end TrapKernel
