import Mathlib.Data.List.Basic

/-!
# In order of rank

The list with the highest rank first, where elements of the same rank keep the order in which they
came. Such a list is known from its ranks: two lists that descend in rank are the same as soon as
they have the same elements of each rank, in the same order. So ranking goes well with filtering,
and an element that comes last is put behind all that do not rank below it.
-/

namespace TrapKernel

variable {α β : Type} (rank : α → Nat)

/-- The list in descending order of rank; elements of the same rank stay in their order. -/
def ranked (l : List α) : List α := l.mergeSort fun a b => rank b ≤ rank a

/-- The list descends in rank. -/
def Descends (l : List α) : Prop := l.Pairwise fun a b => rank b ≤ rank a

variable {rank} {l l' : List α} {a : α}

/-! ### The ranks tell the list -/

theorem eq_of_ranks (descends : Descends rank l) (descends' : Descends rank l')
    (same : ∀ n, l.filter (rank · = n) = l'.filter (rank · = n)) : l = l' := by
  have mem : ∀ {l l' : List α}, (∀ n, l.filter (rank · = n) = l'.filter (rank · = n)) →
      ∀ {a}, a ∈ l → a ∈ l' := by
    intro l l' same a ha
    have inClass : a ∈ l.filter (rank · = rank a) := List.mem_filter.mpr ⟨ha, decide_eq_true rfl⟩
    rw [same] at inClass
    exact (List.mem_filter.mp inClass).1
  induction l generalizing l' with
  | nil =>
    cases l' with
    | nil => rfl
    | cons b rest => cases mem (fun n => (same n).symm) (List.mem_cons_self (a := b) (l := rest))
  | cons a l ih =>
    cases l' with
    | nil => cases mem same (List.mem_cons_self (a := a) (l := l))
    | cons b l' =>
      obtain ⟨first, rest⟩ := List.pairwise_cons.mp descends
      obtain ⟨first', rest'⟩ := List.pairwise_cons.mp descends'
      have level : rank a = rank b := by
        have le : rank b ≤ rank a := by
          rcases List.mem_cons.mp (mem (fun n => (same n).symm) List.mem_cons_self) with eq | later
          · exact Nat.le_of_eq (congrArg rank eq)
          · exact first b later
        have le' : rank a ≤ rank b := by
          rcases List.mem_cons.mp (mem same List.mem_cons_self) with eq | later
          · exact Nat.le_of_eq (congrArg rank eq)
          · exact first' a later
        exact Nat.le_antisymm le' le
      -- the class of the first element begins with it in both lists
      have heads := same (rank a)
      rw [List.filter_cons_of_pos (by simp), List.filter_cons_of_pos (by simp [level])] at heads
      obtain ⟨rfl, tails⟩ := List.cons.inj heads
      rw [ih rest rest']
      intro n
      by_cases eq : rank a = n
      · exact eq ▸ tails
      · have whole := same n
        rwa [List.filter_cons_of_neg (by simpa using eq),
          List.filter_cons_of_neg (by simpa using eq)] at whole

/-! ### Ranking -/

theorem perm_ranked (rank : α → Nat) (l : List α) : (ranked rank l).Perm l :=
  List.mergeSort_perm l _

theorem ranked_nil (rank : α → Nat) : ranked rank [] = [] := by
  rw [ranked, List.mergeSort_nil]

theorem mem_ranked : a ∈ ranked rank l ↔ a ∈ l := (perm_ranked rank l).mem_iff

theorem ranks_trans (a b c : α) :
    decide (rank b ≤ rank a) = true → decide (rank c ≤ rank b) = true →
      decide (rank c ≤ rank a) = true := by
  simp only [decide_eq_true_eq]
  omega

theorem ranks_total (a b : α) : (decide (rank b ≤ rank a) || decide (rank a ≤ rank b)) = true := by
  simp only [Bool.or_eq_true, decide_eq_true_eq]
  omega

theorem descends_ranked (rank : α → Nat) (l : List α) : Descends rank (ranked rank l) :=
  (List.pairwise_mergeSort ranks_trans ranks_total l).imp of_decide_eq_true

/-- Elements of the same rank stay in their order. -/
theorem filter_ranked_eq (rank : α → Nat) (l : List α) (n : Nat) :
    (ranked rank l).filter (rank · = n) = l.filter (rank · = n) := by
  have level : (l.filter (rank · = n)).Pairwise fun a b => decide (rank b ≤ rank a) = true := by
    refine List.pairwise_iff_forall_sublist.mpr fun {a b} sub => ?_
    have ha := List.mem_filter.mp (sub.subset List.mem_cons_self)
    have hb := List.mem_filter.mp (sub.subset (List.mem_cons_of_mem a List.mem_cons_self))
    simp only [decide_eq_true_eq] at ha hb ⊢
    omega
  have sub := (List.sublist_mergeSort ranks_trans ranks_total level List.filter_sublist).filter
    (rank · = n)
  simp only [List.filter_filter, Bool.and_self] at sub
  exact (sub.eq_of_length ((perm_ranked rank l).filter _).length_eq.symm).symm

/-- A list is ranked if it descends and has the elements of each rank in their order. -/
theorem eq_ranked (descends : Descends rank l')
    (same : ∀ n, l'.filter (rank · = n) = l.filter (rank · = n)) : l' = ranked rank l :=
  eq_of_ranks descends (descends_ranked rank l) fun n =>
    (same n).trans (filter_ranked_eq rank l n).symm

/-- Whom a filter leaves out makes no difference to the others. -/
theorem ranked_filter (rank : α → Nat) (p : α → Bool) (l : List α) :
    ranked rank (l.filter p) = (ranked rank l).filter p := by
  refine (eq_ranked ((descends_ranked rank l).sublist List.filter_sublist) fun n => ?_).symm
  rw [List.filter_comm, filter_ranked_eq, List.filter_comm]

theorem map_ranked (f : α → β) (rank : α → Nat) (rank' : β → Nat)
    (same : ∀ a, rank' (f a) = rank a) (l : List α) :
    (ranked rank l).map f = ranked rank' (l.map f) := by
  refine List.map_mergeSort fun a _ b _ => ?_
  rw [same, same]

/-- An element that comes last is put behind all that do not rank below it. -/
theorem ranked_append_singleton (rank : α → Nat) (l : List α) (a : α) :
    ranked rank (l ++ [a]) = (ranked rank l).filter (rank a ≤ rank ·) ++
      a :: (ranked rank l).filter fun b => !decide (rank a ≤ rank b) := by
  have sorted := descends_ranked rank l
  symm
  apply eq_ranked
  · rw [Descends, List.pairwise_append, List.pairwise_cons]
    refine ⟨sorted.sublist List.filter_sublist, ⟨?_, sorted.sublist List.filter_sublist⟩, ?_⟩
    · intro b hb
      have below := (List.mem_filter.mp hb).2
      simp only [Bool.not_eq_true', decide_eq_false_iff_not] at below
      omega
    · intro b hb d hd
      have above := of_decide_eq_true (List.mem_filter.mp hb).2
      rcases List.mem_cons.mp hd with rfl | hd
      · exact above
      · have below := (List.mem_filter.mp hd).2
        simp only [Bool.not_eq_true', decide_eq_false_iff_not] at below
        omega
  · intro n
    rw [List.filter_append, List.filter_append, List.filter_comm, ← filter_ranked_eq rank l n]
    by_cases above : rank a ≤ n
    · -- all of this rank stay ahead
      have front : ((ranked rank l).filter (rank · = n)).filter (rank a ≤ rank ·) =
          (ranked rank l).filter (rank · = n) := by
        refine List.filter_eq_self.mpr fun b hb => ?_
        have level := of_decide_eq_true (List.mem_filter.mp hb).2
        exact decide_eq_true (level ▸ above)
      have back : ((ranked rank l).filter fun b => !decide (rank a ≤ rank b)).filter
          (rank · = n) = [] := by
        refine List.filter_eq_nil_iff.mpr fun b hb => ?_
        have below := (List.mem_filter.mp hb).2
        simp only [Bool.not_eq_true', decide_eq_false_iff_not, decide_eq_true_eq] at below ⊢
        omega
      rw [front, List.filter_cons, back, List.filter_cons, List.filter_nil]
    · have front : ((ranked rank l).filter (rank · = n)).filter (rank a ≤ rank ·) = [] := by
        refine List.filter_eq_nil_iff.mpr fun b hb => ?_
        have level := of_decide_eq_true (List.mem_filter.mp hb).2
        simp only [decide_eq_true_eq]
        omega
      have other : rank a ≠ n := by omega
      have back : ((ranked rank l).filter fun b => !decide (rank a ≤ rank b)).filter
          (rank · = n) = (ranked rank l).filter (rank · = n) := by
        rw [List.filter_comm]
        refine List.filter_eq_self.mpr fun b hb => ?_
        have level := of_decide_eq_true (List.mem_filter.mp hb).2
        simp only [Bool.not_eq_true', decide_eq_false_iff_not]
        omega
      rw [front, List.filter_cons_of_neg (by simpa using other), back,
        List.filter_cons_of_neg (by simpa using other), List.filter_nil, List.nil_append,
        List.append_nil]

end TrapKernel
