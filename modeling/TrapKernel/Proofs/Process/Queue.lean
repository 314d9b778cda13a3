import Mathlib.Data.List.Perm.Subperm
import Mathlib.Data.List.TakeWhile
import TrapKernel.Process.Queue
import TrapKernel.Proofs.Process.Table

/-!
# Queues as lists

`ProcessQueue.Threads` says that a queue holds the slots of a list, in that order. Removing a slot
and putting one in are described by what they make of the list; the processes themselves do not
change, and neither do the links of other slots. Where a slot is put depends on the processes only.
-/

namespace TrapKernel

namespace ProcessTable

/-- Make `next` follow slot `i`, if there is an `i`. -/
def follow (t : ProcessTable) (i next : Option Nat) : ProcessTable :=
  match i with
  | none => t
  | some i => t.setNext i next

/-- Make `prev` precede slot `i`, if there is an `i`. -/
def precede (t : ProcessTable) (i prev : Option Nat) : ProcessTable :=
  match i with
  | none => t
  | some i => t.setPrev i prev

variable {t : ProcessTable} {j : Nat}

@[simp] theorem links_follow (i next : Option Nat) : (t.follow i next).links j =
    if some j = i then (t.links j).map ({ · with next }) else t.links j := by
  cases i with
  | none => rfl
  | some i => simp [follow, eq_comm]

@[simp] theorem links_precede (i prev : Option Nat) : (t.precede i prev).links j =
    if some j = i then (t.links j).map ({ · with prev }) else t.links j := by
  cases i with
  | none => rfl
  | some i => simp [precede, eq_comm]

theorem Rewired.follow (i next : Option Nat) : t.Rewired (t.follow i next) := by
  cases i with
  | none => exact Rewired.refl t
  | some i => exact Rewired.setNext next

theorem Rewired.precede (i prev : Option Nat) : t.Rewired (t.precede i prev) := by
  cases i with
  | none => exact Rewired.refl t
  | some i => exact Rewired.setPrev prev

end ProcessTable

namespace ProcessQueue

open ProcessTable

variable {q : ProcessQueue} {t t' : ProcessTable} {a b l : List Nat} {i : Nat}
  {prev next : Option Nat}

/-- The queue holds the slots of `l`, in this order. -/
structure Threads (q : ProcessQueue) (t : ProcessTable) (l : List Nat) : Prop where
  head : q.head = l.head?
  tail : q.tail = l.getLast?
  count : q.count = l.length
  threaded : Threaded t.links none l none
  nodup : l.Nodup

theorem bind_next (t : ProcessTable) (i : Nat) :
    (t.node? i).bind (·.next) = (t.links i).bind (·.next) := by
  rw [links]
  cases t.node? i <;> rfl

theorem bind_prev (t : ProcessTable) (i : Nat) :
    (t.node? i).bind (·.prev) = (t.links i).bind (·.prev) := by
  rw [links]
  cases t.node? i <;> rfl

namespace Threads

theorem live (hq : q.Threads t l) {i : Nat} (hi : i ∈ l) : t.Live i :=
  isSome_links.mp (hq.threaded.isSome_of_mem hi)

/-- Whoever changes no link of its members does not change a queue. -/
theorem congr (hq : q.Threads t l) (same : ∀ i ∈ l, t'.links i = t.links i) : q.Threads t' l :=
  ⟨hq.head, hq.tail, hq.count, hq.threaded.congr same, hq.nodup⟩

/-- There is room for the members in the table. -/
theorem length_le (hq : q.Threads t l) : l.length ≤ t.slots.length := by
  have sub : l ⊆ List.range t.slots.length := by
    intro i hi
    exact List.mem_range.mpr (hq.live hi).lt
  have le := (List.subperm_of_subset hq.nodup sub).length_le
  rwa [List.length_range] at le

theorem members (hq : q.Threads t l) : q.members t = l := by
  have walk : ∀ (l : List Nat) (prev : Option Nat) (most : Nat), Threaded t.links prev l none →
      l.length ≤ most → t.walk most l.head? = l := by
    intro l
    induction l with
    | nil =>
      intro prev most _ _
      cases most <;> rfl
    | cons i l ih =>
      intro prev most threaded le
      obtain ⟨links, rest⟩ := threaded
      cases most with
      | zero => cases le
      | succ most =>
        have ih := ih (some i) most rest (Nat.le_of_succ_le_succ le)
        rw [ProcessTable.links, Option.map_eq_some_iff] at links
        obtain ⟨n, node, eq⟩ := links
        have next : n.next = l.head? := by
          rw [← Option.or_none (o := l.head?)]
          exact congrArg Links.next eq
        rw [List.head?_cons, ProcessTable.walk, node]
        simp only [next, ih]
  rw [ProcessQueue.members, hq.head]
  exact walk l none _ hq.threaded hq.length_le

end Threads

/-! ### Removing a slot -/

theorem remove_eq (own : t.links i = some ⟨next, prev⟩) : q.remove t i =
    ({ q with
        head := if prev = none then next else q.head
        tail := if next = none then prev else q.tail
        count := q.count - 1 },
      (((t.follow prev next).precede next prev).setNext i none).setPrev i none) := by
  have atNext : (t.node? i).bind (·.next) = next := by rw [bind_next, own]; rfl
  have atPrev : (t.node? i).bind (·.prev) = prev := by rw [bind_prev, own]; rfl
  rw [remove]
  simp only [atNext, atPrev]
  cases prev <;> cases next <;> rfl

/-- Taking a slot out writes links only. -/
theorem rewired_remove (q : ProcessQueue) (t : ProcessTable) (i : Nat) :
    t.Rewired (q.remove t i).2 := by
  rw [remove]
  generalize (t.node? i).bind (·.next) = next, (t.node? i).bind (·.prev) = prev
  have removed : t.Rewired (((t.follow prev next).precede next prev).setNext i none |>.setPrev i
      none) :=
    (((Rewired.follow _ _).trans (Rewired.precede _ _)).trans (Rewired.setNext _)).trans
      (Rewired.setPrev _)
  cases prev <;> cases next <;> exact removed

namespace Threads

/-- A slot leaves its queue, and its links are cleared. -/
theorem remove (hq : q.Threads t (a ++ i :: b)) :
    (q.remove t i).1.Threads (q.remove t i).2 (a ++ b) ∧ (q.remove t i).1.kind = q.kind ∧
      t.Rewired (q.remove t i).2 ∧ (q.remove t i).2.links i = some ⟨none, none⟩ ∧
      ∀ j, j ∉ a ++ i :: b → (q.remove t i).2.links j = t.links j := by
  have own := hq.threaded.links_eq
  rw [Option.or_none, Option.or_none] at own
  obtain ⟨outside, nodup⟩ := List.nodup_cons.mp (List.nodup_middle.mp hq.nodup)
  rw [remove_eq own]
  have links : ∀ j, j ≠ i →
      ((((t.follow a.getLast? b.head?).precede b.head? a.getLast?).setNext i none).setPrev i
        none).links j = joined t.links a.getLast? b.head? j := by
    intro j ne
    simp only [links_setPrev, links_setNext, if_neg (Ne.symm ne), links_precede, links_follow]
    exact joined_eq (neighbours_apart nodup)
  refine ⟨⟨?_, ?_, ?_, ?_, ?_⟩, rfl, ?_, ?_, ?_⟩
  · have head := hq.head
    cases a with
    | nil => rfl
    | cons j a => simpa using head
  · have tail := hq.tail
    cases b with
    | nil => simp
    | cons k b =>
      rw [List.getLast?_append, List.getLast?_cons_cons] at tail
      rw [List.head?_cons, List.getLast?_append, if_neg (Option.some_ne_none k), tail]
  · have count := hq.count
    simp only [List.length_append, List.length_cons] at count ⊢
    omega
  · refine hq.threaded.unlink hq.nodup fun j hj => links j ?_
    rintro rfl
    exact outside hj
  · exact nodup
  · have rewired := rewired_remove q t i
    rw [remove_eq own] at rewired
    exact rewired
  · have rewired := (Rewired.follow (t := t) a.getLast? b.head?).trans
      (Rewired.precede b.head? a.getLast?)
    have live : t.Live i := isSome_links.mp (by rw [own]; rfl)
    obtain ⟨l, links⟩ := Option.isSome_iff_exists.mp (isSome_links.mpr ((rewired.live i).mpr live))
    rw [links_setPrev, if_pos rfl, links_setNext, if_pos rfl, links]
    rfl
  · intro j hj
    rw [List.mem_append, List.mem_cons, or_left_comm, not_or, ← List.mem_append] at hj
    rw [links j hj.1, joined_of_notMem hj.2]

end Threads

/-! ### Putting a slot in -/

theorem linkBefore_eq (before : next.elim q.tail (fun n => (t.node? n).bind (·.prev)) = prev) :
    q.linkBefore t i next = ({ q with
      head := if prev = none then some i else q.head
      tail := if next = none then some i else q.tail
      count := q.count + 1 },
      (((t.setNext i next).setPrev i prev).follow prev (some i)).precede next (some i)) := by
  unfold ProcessQueue.linkBefore
  cases next with
  | none =>
    simp only [Option.elim] at before
    simp only [before]
    cases prev <;> rfl
  | some n =>
    simp only [Option.elim] at before
    simp only [before]
    cases prev <;> rfl

/-- Putting a slot in writes links only. -/
theorem rewired_linkBefore (q : ProcessQueue) (t : ProcessTable) (i : Nat) (next : Option Nat) :
    t.Rewired (q.linkBefore t i next).2 := by
  rw [linkBefore_eq rfl]
  exact (((Rewired.setNext _).trans (Rewired.setPrev _)).trans (Rewired.follow _ _)).trans
    (Rewired.precede _ _)

theorem rewired_enqueue (q : ProcessQueue) (t : ProcessTable) (i : Nat) :
    t.Rewired (q.enqueue t i).2 := by
  rw [enqueue]
  split
  · exact q.rewired_linkBefore t i none
  · exact q.rewired_linkBefore t i _

namespace Threads

/-- A slot that is in no queue gets between two others. -/
theorem linkBefore (hq : q.Threads t (a ++ b)) (fresh : i ∉ a ++ b) (live : t.Live i) :
    (q.linkBefore t i b.head?).1.Threads (q.linkBefore t i b.head?).2 (a ++ i :: b) ∧
      (q.linkBefore t i b.head?).1.kind = q.kind ∧ t.Rewired (q.linkBefore t i b.head?).2 ∧
      ∀ j, j ∉ a ++ i :: b → (q.linkBefore t i b.head?).2.links j = t.links j := by
  have before : b.head?.elim q.tail (fun n => (t.node? n).bind (·.prev)) = a.getLast? := by
    cases b with
    | nil =>
      have tail := hq.tail
      rw [List.append_nil] at tail
      exact tail
    | cons n b =>
      have own := hq.threaded.links_eq
      simp only [List.head?_cons, Option.elim, bind_prev, own, Option.bind_some, Option.or_none]
  have nodup : (a ++ i :: b).Nodup := List.nodup_middle.mpr (List.nodup_cons.mpr ⟨fresh, hq.nodup⟩)
  rw [linkBefore_eq before]
  have links : ∀ j,
      ((((t.setNext i b.head?).setPrev i a.getLast?).follow a.getLast? (some i)).precede b.head?
        (some i)).links j = inserted t.links i a.getLast? b.head? j := by
    intro j
    simp only [links_precede, links_follow]
    refine inserted_eq (neighbours_apart hq.nodup) ?_ ?_
    · rintro rfl
      refine ⟨fun eq => fresh ?_, fun eq => fresh ?_⟩
      · exact List.mem_append_left b (List.mem_of_getLast? eq.symm)
      · exact List.mem_append_right a (List.mem_of_head? eq.symm)
    · rw [links_setPrev, links_setNext]
      by_cases eq : i = j
      · simp only [if_pos eq, if_pos eq.symm, Option.map_map, Function.comp_def]
      · simp only [if_neg eq, if_neg (Ne.symm eq)]
  refine ⟨⟨?_, ?_, ?_, ?_, nodup⟩, rfl, ?_, ?_⟩
  · have head := hq.head
    cases a with
    | nil => rfl
    | cons j a => simpa using head
  · have tail := hq.tail
    cases b with
    | nil => simp
    | cons k b =>
      rw [List.getLast?_append] at tail
      rw [List.head?_cons, List.getLast?_append, List.getLast?_cons_cons,
        if_neg (Option.some_ne_none k), tail]
  · have count := hq.count
    simp only [List.length_append, List.length_cons] at count ⊢
    omega
  · exact hq.threaded.link nodup (isSome_links.mpr live) fun j _ => links j
  · have rewired := q.rewired_linkBefore t i b.head?
    rw [linkBefore_eq before] at rewired
    exact rewired
  · intro j hj
    rw [List.mem_append, List.mem_cons, or_left_comm, not_or, ← List.mem_append] at hj
    rw [links j, inserted_of_notMem hj.1 hj.2]

end Threads

/-! ### The order of a queue -/

/-- Where a slot is put in a list: before the first one that it outranks, or at the end of a list
that is first come, first served. -/
def placed (kind : QueueKind) (t : ProcessTable) (i : Nat) (l : List Nat) : List Nat :=
  match kind.discipline with
  | .fifo => l ++ [i]
  | .priority => l.takeWhile (!outranks t i ·) ++ i :: l.dropWhile (!outranks t i ·)

theorem placed_eq (kind : QueueKind) (t : ProcessTable) (i : Nat) (l : List Nat) :
    ∃ a b, l = a ++ b ∧ placed kind t i l = a ++ i :: b := by
  unfold placed
  cases kind.discipline with
  | fifo => exact ⟨l, [], (List.append_nil l).symm, rfl⟩
  | priority => exact ⟨_, _, List.takeWhile_append_dropWhile.symm, rfl⟩

theorem mem_placed {kind : QueueKind} {t : ProcessTable} {i j : Nat} {l : List Nat} :
    j ∈ placed kind t i l ↔ j = i ∨ j ∈ l := by
  obtain ⟨a, b, rfl, eq⟩ := placed_eq kind t i l
  rw [eq, List.mem_append, List.mem_cons, List.mem_append]
  tauto

theorem find?_eq_head?_dropWhile (p : Nat → Bool) (l : List Nat) :
    l.find? p = (l.dropWhile (!p ·)).head? := by
  induction l with
  | nil => rfl
  | cons i l ih =>
    cases h : p i <;> simp [h, ih]

/-- A slot that is in no queue is put where the order of the queue wants it. -/
theorem Threads.enqueue (hq : q.Threads t l) (fresh : i ∉ l) (live : t.Live i) :
    (q.enqueue t i).1.Threads (q.enqueue t i).2 (placed q.kind t i l) ∧
      (q.enqueue t i).1.kind = q.kind ∧ t.Rewired (q.enqueue t i).2 ∧
      ∀ j, j ≠ i → j ∉ l → (q.enqueue t i).2.links j = t.links j := by
  have put : ∃ a b, l = a ++ b ∧ placed q.kind t i l = a ++ i :: b ∧
      q.enqueue t i = q.linkBefore t i b.head? := by
    unfold ProcessQueue.enqueue placed
    cases q.kind.discipline with
    | fifo => exact ⟨l, [], (List.append_nil l).symm, rfl, rfl⟩
    | priority =>
      refine ⟨_, _, List.takeWhile_append_dropWhile.symm, rfl, ?_⟩
      simp only [hq.members, find?_eq_head?_dropWhile]
  obtain ⟨a, b, rfl, placed, enqueue⟩ := put
  obtain ⟨threads, kind, rewired, links⟩ := hq.linkBefore fresh live
  rw [placed, enqueue]
  refine ⟨threads, kind, rewired, fun j ne outside => links j ?_⟩
  rw [List.mem_append, List.mem_cons]
  rw [List.mem_append] at outside
  tauto

/-- Nobody stands behind somebody whom it outranks. -/
def Sorted (kind : QueueKind) (t : ProcessTable) (l : List Nat) : Prop :=
  kind.discipline = .priority → l.Pairwise fun i j => outranks t j i = false

theorem outranks_eq_true {i j : Nat} : outranks t i j = true ↔
    ∃ p p', t.process? i = some p ∧ t.process? j = some p' ∧ p.RunsBefore p' := by
  rw [outranks]
  cases t.process? i <;> cases t.process? j <;> simp

/-- Whom `i` outranks is not before anybody whom it does not. -/
theorem outranks_trans {i j k : Nat} (live : t.Live k) (before : outranks t i j = true)
    (behind : outranks t k j = false) : outranks t k i = false := by
  obtain ⟨p, p', process, process', runs⟩ := outranks_eq_true.mp before
  obtain ⟨p'', process''⟩ := live_iff.mp live
  simp only [outranks, process, process', process'', decide_eq_false_iff_not] at behind ⊢
  simp only [Process.RunsBefore] at *
  omega

theorem outranks_asymm {i j : Nat} (before : outranks t i j = true) : outranks t j i = false := by
  obtain ⟨p, p', process, process', runs⟩ := outranks_eq_true.mp before
  simp only [outranks, process, process', decide_eq_false_iff_not]
  simp only [Process.RunsBefore] at *
  omega

theorem Sorted.sublist {kind : QueueKind} {l' : List Nat} (h : Sorted kind t l)
    (sub : l'.Sublist l) : Sorted kind t l' := fun priority => (h priority).sublist sub

/-- A slot is put where it keeps the order. -/
theorem Sorted.placed {kind : QueueKind} (h : Sorted kind t l) (live : ∀ j ∈ l, t.Live j) :
    Sorted kind t (placed kind t i l) := by
  intro priority
  have h := h priority
  simp only [ProcessQueue.placed, priority]
  have split : l = l.takeWhile (!outranks t i ·) ++ l.dropWhile (!outranks t i ·) :=
    List.takeWhile_append_dropWhile.symm
  rw [split] at h
  obtain ⟨sortedA, sortedB, between⟩ := List.pairwise_append.mp h
  have inFront : ∀ j ∈ l.takeWhile (!outranks t i ·), outranks t i j = false := by
    intro j hj
    simpa using List.mem_takeWhile_imp hj
  have behind : ∀ j ∈ l.dropWhile (!outranks t i ·), outranks t j i = false := by
    cases drop : l.dropWhile (!outranks t i ·) with
    | nil => exact nofun
    | cons k rest =>
      have first : outranks t i k = true := by
        have found := List.head?_dropWhile_not (!outranks t i ·) l
        rw [drop] at found
        simpa using found
      rw [drop] at sortedB
      intro j hj
      rcases List.mem_cons.mp hj with rfl | hj
      · exact outranks_asymm first
      · have memL : j ∈ l := by
          rw [split, drop]
          simp [hj]
        exact outranks_trans (live j memL) first ((List.pairwise_cons.mp sortedB).1 j hj)
  refine List.pairwise_append.mpr ⟨sortedA, List.pairwise_cons.mpr ⟨behind, sortedB⟩, ?_⟩
  intro j hj k hk
  rcases List.mem_cons.mp hk with rfl | hk
  · exact inFront j hj
  · exact between j hj k hk

/-! ### Verification -/

/-- Walking forward finds the members. -/
theorem forward_eq {most met : Nat} (threaded : Threaded t.links prev l none)
    (states : ∀ i ∈ l, ∃ p, t.process? i = some p ∧ p.state = q.kind.state)
    (sorted : Sorted q.kind t (prev.toList ++ l)) (few : met + l.length ≤ q.count)
    (enough : l.length ≤ most) : q.forward t most met prev l.head? = .ok l := by
  induction l generalizing prev most met with
  | nil => cases most <;> rfl
  | cons i l ih =>
    obtain ⟨links, rest⟩ := threaded
    obtain ⟨p, process, state⟩ := states i List.mem_cons_self
    rw [ProcessTable.links, Option.map_eq_some_iff] at links
    obtain ⟨n, node, eq⟩ := links
    obtain ⟨nextEq, prevEq⟩ := Links.mk.inj eq
    rw [Option.or_none] at nextEq
    rw [process?, node, Option.map_some, Option.some.injEq] at process
    rw [List.length_cons] at few enough
    have inOrder : ¬ (q.kind.discipline = .priority ∧ prev.any (outranks t i) = true) := by
      rintro ⟨priority, before⟩
      cases prev with
      | none => cases before
      | some j =>
        have apart := (List.pairwise_cons.mp (sorted priority)).1 i List.mem_cons_self
        rw [show outranks t i j = true from before] at apart
        cases apart
    have sortedRest : Sorted q.kind t ((some i).toList ++ l) :=
      sorted.sublist (List.sublist_append_right prev.toList (i :: l))
    cases most with
    | zero => omega
    | succ most =>
      have ih := ih rest (fun j hj => states j (List.mem_cons_of_mem i hj)) sortedRest
        (show met + 1 + l.length ≤ q.count by omega) (show l.length ≤ most by omega)
      rw [List.head?_cons, forward, if_neg (by omega), node]
      simp only [prevEq, process, state, ne_eq, not_true_eq_false, if_false, inOrder, nextEq, bind,
        Except.bind, ih]
      rfl

/-- Walking backward finds them in the opposite order. -/
theorem backward_eq {most : Nat} (threaded : Threaded t.links none l next)
    (enough : l.length ≤ most) : q.backward t most l.getLast? = .ok l.reverse := by
  induction most generalizing l next with
  | zero =>
    obtain rfl := List.eq_nil_of_length_eq_zero (Nat.le_zero.mp enough)
    rfl
  | succ most ih =>
    rcases l.eq_nil_or_concat with rfl | ⟨l, i, rfl⟩
    · rfl
    · rw [List.concat_eq_append] at *
      obtain ⟨front, links⟩ := (Threaded.concat l i).mp threaded
      rw [List.length_append, List.length_singleton] at enough
      have ih := ih front (Nat.le_of_succ_le_succ enough)
      rw [List.getLast?_concat, backward, bind_prev, links, Option.bind_some, Option.or_none, ih,
        List.reverse_concat]
      rfl

theorem Threads.verify (hq : q.Threads t l)
    (states : ∀ i ∈ l, ∃ p, t.process? i = some p ∧ p.state = q.kind.state)
    (sorted : Sorted q.kind t l) : q.verify t = .ok l := by
  have count := hq.count
  have forward : q.forward t (q.count + 1) 0 none l.head? = .ok l :=
    forward_eq hq.threaded states sorted (by omega) (by omega)
  have backward : q.backward t (q.count + 1) l.getLast? = .ok l.reverse :=
    backward_eq hq.threaded (by omega)
  rw [ProcessQueue.verify, hq.head, forward]
  simp only [bind, Except.bind, count, ne_eq, not_true_eq_false, if_false, hq.tail]
  rw [count] at backward
  simp only [backward, List.reverse_reverse, not_true_eq_false, if_false]
  rfl

end ProcessQueue

end TrapKernel
