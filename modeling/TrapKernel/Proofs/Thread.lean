/-!
# Threads

Doubly linked lists whose links live in numbered nodes. `Threaded links prev l next` says that the
nodes of `l` follow one another, that `prev` is the node before the first of them and `next` the
one after the last. Both the blocks of a heap and the processes of a queue are threaded in this
way, so taking a node out of a list and putting one in is settled here for both.
-/

namespace TrapKernel

/-- The neighbours that a node names. -/
@[ext] structure Links where
  next : Option Nat
  prev : Option Nat
  deriving DecidableEq

/-- The nodes of `l` are linked one after the other, between `prev` and `next`. -/
def Threaded (links : Nat → Option Links) : Option Nat → List Nat → Option Nat → Prop
  | _, [], _ => True
  | prev, i :: l, next =>
    links i = some ⟨l.head?.or next, prev⟩ ∧ Threaded links (some i) l next

/-- Links after which the nodes `prev` and `next` are neighbours. -/
def joined (links : Nat → Option Links) (prev next : Option Nat) (i : Nat) : Option Links :=
  if some i = prev then (links i).map ({ · with next })
  else if some i = next then (links i).map ({ · with prev })
  else links i

/-- Links after which node `i` stands between `prev` and `next`. -/
def inserted (links : Nat → Option Links) (i : Nat) (prev next : Option Nat) (j : Nat) :
    Option Links :=
  if j = i then (links j).map fun _ => ⟨next, prev⟩
  else if some j = prev then (links j).map ({ · with next := some i })
  else if some j = next then (links j).map ({ · with prev := some i })
  else links j

section Writes

variable {links : Nat → Option Links} {prev next : Option Nat} {a b : List Nat} {i j : Nat}

/-- No node is both of the neighbours. -/
theorem neighbours_apart (nodup : (a ++ b).Nodup) (last : some j = a.getLast?) :
    some j ≠ b.head? := fun first =>
  (List.nodup_append.mp nodup).2.2 j (List.mem_of_getLast? last.symm) j
    (List.mem_of_head? first.symm) rfl

/-- First `prev` is linked to `next`, then `next` to `prev`. -/
theorem joined_eq (apart : some j = prev → some j ≠ next) :
    (if some j = next then
      (if some j = prev then (links j).map ({ · with next }) else links j).map ({ · with prev })
    else if some j = prev then (links j).map ({ · with next }) else links j) =
      joined links prev next j := by
  rw [joined]
  by_cases atPrev : some j = prev
  · rw [if_neg (apart atPrev), if_pos atPrev, if_pos atPrev]
  · rw [if_neg atPrev, if_neg atPrev]

/-- First the node itself is linked, then `prev` and `next` are linked to it. -/
theorem inserted_eq (apart : some j = prev → some j ≠ next)
    (own : j = i → some j ≠ prev ∧ some j ≠ next) {own' : Option Links}
    (eq : own' = if j = i then (links j).map fun _ => ⟨next, prev⟩ else links j) :
    (if some j = next then
      (if some j = prev then own'.map ({ · with next := some i }) else own').map
        ({ · with prev := some i })
    else if some j = prev then own'.map ({ · with next := some i }) else own') =
      inserted links i prev next j := by
  rw [inserted, eq]
  by_cases atNode : j = i
  · rw [if_neg (own atNode).2, if_neg (own atNode).1, if_pos atNode, if_pos atNode]
  · rw [if_neg atNode, if_neg atNode]
    by_cases atPrev : some j = prev
    · rw [if_neg (apart atPrev), if_pos atPrev, if_pos atPrev]
    · rw [if_neg atPrev, if_neg atPrev]

theorem joined_of_notMem (outside : j ∉ a ++ b) :
    joined links a.getLast? b.head? j = links j := by
  rw [joined, if_neg, if_neg]
  · intro eq
    exact outside (List.mem_append_right a (List.mem_of_head? eq.symm))
  · intro eq
    exact outside (List.mem_append_left b (List.mem_of_getLast? eq.symm))

theorem inserted_of_notMem (ne : j ≠ i) (outside : j ∉ a ++ b) :
    inserted links i a.getLast? b.head? j = links j := by
  rw [inserted, if_neg ne, if_neg, if_neg]
  · intro eq
    exact outside (List.mem_append_right a (List.mem_of_head? eq.symm))
  · intro eq
    exact outside (List.mem_append_left b (List.mem_of_getLast? eq.symm))

end Writes

namespace Threaded

variable {links links' : Nat → Option Links} {prev next : Option Nat}

theorem append (a b : List Nat) : Threaded links prev (a ++ b) next ↔
    Threaded links prev a (b.head?.or next) ∧ Threaded links (a.getLast?.or prev) b next := by
  induction a generalizing prev with
  | nil => simp [Threaded]
  | cons i a ih =>
    have last : ((i :: a).getLast?).or prev = a.getLast?.or (some i) := by
      cases a with
      | nil => rfl
      | cons j a => rw [List.getLast?_cons_cons, List.getLast?_cons]; rfl
    rw [last, List.cons_append]
    simp only [Threaded, List.head?_append, Option.or_assoc, ih, and_assoc]

theorem concat (a : List Nat) (i : Nat) : Threaded links prev (a ++ [i]) next ↔
    Threaded links prev a (some i) ∧ links i = some ⟨next, a.getLast?.or prev⟩ := by
  rw [append]
  simp [Threaded]

/-- A thread depends on the links of its own nodes only. -/
theorem congr {l : List Nat} (same : ∀ i ∈ l, links' i = links i)
    (h : Threaded links prev l next) : Threaded links' prev l next := by
  induction l generalizing prev with
  | nil => trivial
  | cons i l ih =>
    obtain ⟨first, rest⟩ := h
    refine ⟨(same i List.mem_cons_self).trans first, ih (fun j hj => ?_) rest⟩
    exact same j (List.mem_cons_of_mem i hj)

/-- Every node of a thread exists. -/
theorem isSome_of_mem {l : List Nat} {i : Nat} (h : Threaded links prev l next) (hi : i ∈ l) :
    (links i).isSome := by
  induction l generalizing prev with
  | nil => cases hi
  | cons j l ih =>
    rcases List.mem_cons.mp hi with rfl | hi
    · rw [h.1]; rfl
    · exact ih h.2 hi

/-- The links of a node in the middle of a thread. -/
theorem links_eq {a b : List Nat} {i : Nat} (h : Threaded links prev (a ++ i :: b) next) :
    links i = some ⟨b.head?.or next, a.getLast?.or prev⟩ :=
  ((append a (i :: b)).mp h).2.1

/-- Whatever follows the last node, it can be linked to something else. -/
theorem setNext {a : List Nat} {x : Option Nat} (h : Threaded links prev a x) (nodup : a.Nodup)
    (last : ∀ i, a.getLast? = some i → links' i = (links i).map ({ · with next }))
    (same : ∀ i ∈ a, a.getLast? ≠ some i → links' i = links i) :
    Threaded links' prev a next := by
  rcases a.eq_nil_or_concat with rfl | ⟨l, i, rfl⟩
  · trivial
  · rw [List.concat_eq_append] at *
    rw [List.getLast?_concat] at last same
    obtain ⟨front, atEnd⟩ := (concat l i).mp h
    refine (concat l i).mpr ⟨front.congr fun j hj => ?_, by rw [last i rfl, atEnd]; rfl⟩
    refine same j (List.mem_append_left _ hj) fun eq => ?_
    have disjoint := (List.nodup_append.mp nodup).2.2 j hj i List.mem_cons_self
    exact disjoint (Option.some.inj eq).symm

/-- Whatever precedes the first node, it can be linked to something else. -/
theorem setPrev {b : List Nat} {x : Option Nat} (h : Threaded links x b next) (nodup : b.Nodup)
    (first : ∀ i, b.head? = some i → links' i = (links i).map ({ · with prev }))
    (same : ∀ i ∈ b, b.head? ≠ some i → links' i = links i) :
    Threaded links' prev b next := by
  cases b with
  | nil => trivial
  | cons i b =>
    obtain ⟨atStart, rest⟩ := h
    refine ⟨by rw [first i rfl, atStart]; rfl, rest.congr fun j hj => ?_⟩
    refine same j (List.mem_cons_of_mem i hj) fun eq => ?_
    rw [List.head?_cons, Option.some.injEq] at eq
    exact (List.nodup_cons.mp nodup).1 (eq ▸ hj)

/-- Taking a node out: its neighbours are linked to each other. -/
theorem unlink {a b : List Nat} {i : Nat} (h : Threaded links none (a ++ i :: b) none)
    (nodup : (a ++ i :: b).Nodup)
    (change : ∀ j ∈ a ++ b, links' j = joined links a.getLast? b.head? j) :
    Threaded links' none (a ++ b) none := by
  obtain ⟨front, -, back⟩ := (append a (i :: b)).mp h
  obtain ⟨nodupA, nodupIB, apart⟩ := List.nodup_append.mp nodup
  have nodupB := (List.nodup_cons.mp nodupIB).2
  have apart : ∀ j ∈ a, ∀ k ∈ b, j ≠ k := fun j hj k hk =>
    apart j hj k (List.mem_cons_of_mem i hk)
  refine (append a b).mpr ⟨?_, ?_⟩
  · rw [Option.or_none]
    refine front.setNext nodupA (fun j hj => ?_) (fun j hj ne => ?_)
    · rw [change j (List.mem_append_left _ (List.mem_of_getLast? hj)), joined, if_pos hj.symm]
    · rw [change j (List.mem_append_left _ hj), joined, if_neg (Ne.symm ne), if_neg]
      exact fun eq => apart j hj j (List.mem_of_head? eq.symm) rfl
  · rw [Option.or_none]
    refine back.setPrev nodupB (fun j hj => ?_) (fun j hj ne => ?_)
    · have hb := List.mem_of_head? hj
      rw [change j (List.mem_append_right _ hb), joined, if_neg, if_pos hj.symm]
      exact fun eq => apart j (List.mem_of_getLast? eq.symm) j hb rfl
    · rw [change j (List.mem_append_right _ hj), joined, if_neg, if_neg (Ne.symm ne)]
      exact fun eq => apart j (List.mem_of_getLast? eq.symm) j hj rfl

/-- Putting a node in: it is linked to both its neighbours, and they to it. -/
theorem link {a b : List Nat} {i : Nat} (h : Threaded links none (a ++ b) none)
    (nodup : (a ++ i :: b).Nodup) (exists_i : (links i).isSome)
    (change : ∀ j ∈ a ++ i :: b, links' j = inserted links i a.getLast? b.head? j) :
    Threaded links' none (a ++ i :: b) none := by
  obtain ⟨front, back⟩ := (append a b).mp h
  obtain ⟨nodupA, nodupIB, apart⟩ := List.nodup_append.mp nodup
  obtain ⟨fresh, nodupB⟩ := List.nodup_cons.mp nodupIB
  have apartB : ∀ j ∈ a, ∀ k ∈ b, j ≠ k := fun j hj k hk =>
    apart j hj k (List.mem_cons_of_mem i hk)
  have ne_of_mem : ∀ j ∈ a, j ≠ i := fun j hj => apart j hj i List.mem_cons_self
  refine (append a (i :: b)).mpr ⟨?_, ?_, ?_⟩
  · refine front.setNext nodupA (fun j hj => ?_) (fun j hj ne => ?_)
    · have ha := List.mem_of_getLast? hj
      rw [change j (List.mem_append_left _ ha), inserted, if_neg (ne_of_mem j ha),
        if_pos hj.symm]
      rfl
    · rw [change j (List.mem_append_left _ hj), inserted, if_neg (ne_of_mem j hj),
        if_neg (Ne.symm ne), if_neg]
      exact fun eq => apartB j hj j (List.mem_of_head? eq.symm) rfl
  · obtain ⟨l, hl⟩ := Option.isSome_iff_exists.mp exists_i
    rw [change i (by simp), inserted, if_pos rfl, hl, Option.or_none, Option.or_none]
    rfl
  · have change : ∀ j ∈ b, links' j =
        if some j = b.head? then (links j).map ({ · with prev := some i }) else links j := by
      intro j hj
      rw [change j (by simp [hj]), inserted, if_neg fun (eq : j = i) => fresh (eq ▸ hj), if_neg]
      exact fun eq => apartB j (List.mem_of_getLast? eq.symm) j hj rfl
    refine back.setPrev nodupB (fun j hj => ?_) (fun j hj ne => ?_)
    · rw [change j (List.mem_of_head? hj), if_pos hj.symm]
    · rw [change j hj, if_neg (Ne.symm ne)]

end Threaded

end TrapKernel
