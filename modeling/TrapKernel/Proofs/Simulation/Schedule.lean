import Mathlib.Algebra.BigOperators.Group.List.Basic
import Mathlib.Algebra.Order.BigOperators.Group.List
import Mathlib.Data.ENat.Lattice
import TrapKernel.Proofs.Process.Ranked
import TrapKernel.Simulation.File

/-!
# The schedule of a simulation

What the scripts of a simulation say about its schedule, if all that they do is give up the
processor and exit. A process of the configuration takes a turn in every round. A script takes one
for each step before its first exit, and one more in which it ends. In each round those that still
have a turn take it, the highest priority first, and those of the same priority in the order in
which they came.
-/

namespace TrapKernel

/-- A process, as its simulation file describes it. -/
structure Participant where
  name : String
  priority : Nat
  /-- How often it gets the processor, its last turn included. -/
  turns : ℕ∞

/-- How many turns the steps of a script take. -/
def turnsOf (steps : List Step) : ℕ := (steps.takeWhile (· ≠ .exit)).length + 1

/-- The processes of a simulation, in the order in which they come. -/
def SimulationFile.participants (file : SimulationFile) : List Participant :=
  file.kernel.processes.map (fun p => ⟨p.name, p.priority.toNat, ⊤⟩) ++
    file.scripts.map fun script => ⟨script.name, script.priority.toNat, turnsOf script.steps⟩

namespace Participant

/-- Whether a process takes a turn in a round: it has more turns than there were rounds before. -/
def takes (round : ℕ) (p : Participant) : Bool := (round : ℕ∞) < p.turns

variable (ps : List Participant)

/-- Who takes a turn in a round, and in which order. -/
def inRound (round : ℕ) : List Participant := ranked priority (ps.filter (takes round))

/-- The names of those who get the processor in the first rounds, one after the other. -/
def schedule (rounds : ℕ) : List String :=
  (List.range rounds).flatMap fun round => (inRound ps round).map (·.name)

/-- How many turns all processes take. -/
def totalTurns : ℕ∞ := (ps.map (·.turns)).sum

variable {ps}

theorem takes_iff {round : ℕ} {p : Participant} : p.takes round = true ↔ (round : ℕ∞) < p.turns :=
  decide_eq_true_iff

/-! ### Counting turns -/

theorem length_inRound (round : ℕ) :
    ((inRound ps round).length : ℕ∞) =
      (ps.map fun p => if (round : ℕ∞) < p.turns then 1 else 0).sum := by
  rw [inRound, (perm_ranked _ _).length_eq]
  induction ps with
  | nil => rfl
  | cons p ps ih =>
    rw [List.map_cons, List.sum_cons, ← ih]
    by_cases more : (round : ℕ∞) < p.turns
    · rw [List.filter_cons_of_pos (takes_iff.mpr more), if_pos more, List.length_cons,
        Nat.cast_add, Nat.cast_one, add_comm]
    · rw [List.filter_cons_of_neg (mt takes_iff.mp more), if_neg more, zero_add]

theorem min_succ (round : ℕ) (turns : ℕ∞) :
    min ((round + 1 : ℕ) : ℕ∞) turns =
      min (round : ℕ∞) turns + if (round : ℕ∞) < turns then 1 else 0 := by
  by_cases more : (round : ℕ∞) < turns
  · rw [if_pos more, min_eq_left more.le, min_eq_left, Nat.cast_add, Nat.cast_one]
    exact Order.add_one_le_of_lt more
  · have done : turns ≤ round := not_lt.mp more
    have later : turns ≤ (round + 1 : ℕ) := done.trans (Nat.cast_le.mpr (Nat.le_add_right _ _))
    rw [if_neg more, min_eq_right done, min_eq_right later, add_zero]

/-- In the first rounds everybody takes as many turns as there are, or all turns that it has. -/
theorem length_schedule (rounds : ℕ) :
    ((schedule ps rounds).length : ℕ∞) = (ps.map fun p => min (rounds : ℕ∞) p.turns).sum := by
  induction rounds with
  | zero => simp [schedule, List.sum_eq_zero]
  | succ rounds ih =>
    have last : schedule ps (rounds + 1) =
        schedule ps rounds ++ (inRound ps rounds).map (·.name) := by
      rw [schedule, List.range_succ, List.flatMap_append, List.flatMap_singleton, schedule]
    have each : ∀ p : Participant, min ((rounds + 1 : ℕ) : ℕ∞) p.turns =
        min (rounds : ℕ∞) p.turns + if (rounds : ℕ∞) < p.turns then 1 else 0 := fun p =>
      min_succ rounds p.turns
    rw [last, List.length_append, List.length_map, Nat.cast_add, ih, length_inRound]
    simp only [each, List.sum_map_add]

/-- Up to `most` turns it makes no difference who has more of them. -/
theorem min_sum {most : ℕ∞} {rounds : ℕ} (le : most ≤ rounds) (ps : List Participant) :
    min most (ps.map fun p => min (rounds : ℕ∞) p.turns).sum = min most (totalTurns ps) := by
  rw [totalTurns]
  by_cases all : ∀ p ∈ ps, p.turns ≤ rounds
  · rw [List.map_congr_left fun p hp => min_eq_right (all p hp)]
  · obtain ⟨p, hp, more⟩ : ∃ p ∈ ps, (rounds : ℕ∞) < p.turns := by simpa using all
    have enough : most ≤ (ps.map fun p => min (rounds : ℕ∞) p.turns).sum := by
      refine le.trans ((min_eq_left more.le).symm.le.trans ?_)
      exact List.single_le_sum (fun _ _ => zero_le) _ (List.mem_map_of_mem hp)
    have enough' : most ≤ (ps.map (·.turns)).sum :=
      (le.trans more.le).trans
        (List.single_le_sum (fun _ _ => zero_le) _ (List.mem_map_of_mem hp))
    rw [min_eq_left enough, min_eq_left enough']

/-- The first names are as many as there are turns. -/
theorem length_take_schedule {most rounds : ℕ} (le : most ≤ rounds) :
    (((schedule ps rounds).take most).length : ℕ∞) = min (most : ℕ∞) (totalTurns ps) := by
  rw [List.length_take, Nat.mono_cast.map_min, length_schedule, min_sum (Nat.cast_le.mpr le)]

/-- The schedule is over before that exactly if all turns are. -/
theorem length_schedule_lt {most rounds : ℕ} (le : most ≤ rounds) :
    (schedule ps rounds).length < most ↔ totalTurns ps < most := by
  have total := min_sum (Nat.cast_le.mpr le : (most : ℕ∞) ≤ rounds) ps
  rw [← length_schedule] at total
  rw [← Nat.cast_lt (α := ℕ∞), ← not_le, ← inf_lt_left, total, inf_lt_left, not_le]

/-! ### Taking turns -/

/-- Somebody who took a turn waits for the next one, unless it was the last. -/
def again (p : Participant) : List Participant :=
  if 1 < p.turns then [{ p with turns := p.turns - 1 }] else []

/-- Who gets the processor if all wait in one queue, and join it again when they took a turn. -/
def served : List Participant → ℕ → List String
  | _, 0 => []
  | [], _ + 1 => []
  | p :: queue, most + 1 => p.name :: served (queue ++ p.again) most

theorem again_succ (name : String) (priority : Nat) {turns : ℕ∞} (more : 0 < turns) :
    again ⟨name, priority, turns + 1⟩ = [⟨name, priority, turns⟩] := by
  have two : 1 < turns + 1 ∧ turns + 1 - 1 = turns := by
    induction turns using ENat.recTopCoe with
    | top => simp
    | coe turns =>
      norm_cast at more ⊢
      omega
  rw [again, if_pos two.1, two.2]

theorem again_one (name : String) (priority : Nat) : again ⟨name, priority, 1⟩ = [] :=
  if_neg (lt_irrefl _)

/-- If somebody has turns for ever, so has somebody after the next turn. -/
theorem forever_again {p : Participant} {queue : List Participant}
    (forever : ∃ q ∈ p :: queue, q.turns = ⊤) : ∃ q ∈ queue ++ p.again, q.turns = ⊤ := by
  obtain ⟨q, hq, top⟩ := forever
  rcases List.mem_cons.mp hq with rfl | hq
  · refine ⟨q, List.mem_append_right _ ?_, top⟩
    obtain ⟨name, priority, _⟩ := q
    obtain rfl := top
    exact (again_succ name priority ENat.top_pos : again ⟨name, priority, ⊤⟩ = _) ▸
      List.mem_cons_self
  · exact ⟨q, List.mem_append_left _ hq, top⟩

theorem again_turns {p next : Participant} (member : next ∈ p.again) : 0 < next.turns := by
  unfold again at member
  split at member
  · rename_i more
    rw [List.mem_singleton.mp member]
    exact tsub_pos_of_lt more
  · cases member

/-- In a later round those are left who have so many turns. -/
theorem filter_again (p : Participant) (round : ℕ) :
    (p.again.filter (takes round)).map (·.name) =
      ([p].filter (takes (round + 1))).map (·.name) := by
  have later : 1 < p.turns ∧ (round : ℕ∞) < p.turns - 1 ↔ ((round + 1 : ℕ) : ℕ∞) < p.turns := by
    induction p.turns using ENat.recTopCoe with
    | top => simp
    | coe turns =>
      norm_cast
      omega
  unfold again
  by_cases more : ((round + 1 : ℕ) : ℕ∞) < p.turns
  · obtain ⟨two, left⟩ := later.mpr more
    rw [if_pos two, List.filter_cons_of_pos (takes_iff.mpr left),
      List.filter_cons_of_pos (takes_iff.mpr more)]
    rfl
  · rw [List.filter_cons_of_neg (mt takes_iff.mp more)]
    split
    · rename_i two
      rw [List.filter_cons_of_neg fun left => more (later.mp ⟨two, takes_iff.mp left⟩)]
      rfl
    · rfl

/-- What follows in the rounds, if some are still due in this one and the others are not. -/
def remaining (due others : List Participant) (rounds : ℕ) : List String :=
  due.map (·.name) ++ (List.range rounds).flatMap fun round =>
    (others.filter (takes round) ++ due.filter (takes (round + 1))).map (·.name)

theorem remaining_cons (p : Participant) (due others : List Participant) (rounds : ℕ) :
    remaining (p :: due) others rounds = p.name :: remaining due (others ++ p.again) rounds := by
  rw [remaining, List.map_cons, List.cons_append, remaining]
  refine congrArg (p.name :: due.map (·.name) ++ ·) (List.flatMap_congr fun round _ => ?_)
  have front : (p :: due).filter (takes (round + 1)) =
      [p].filter (takes (round + 1)) ++ due.filter (takes (round + 1)) := by
    rw [← List.filter_append, List.singleton_append]
  rw [front, List.filter_append, List.append_assoc, List.map_append, List.map_append,
    List.map_append, List.map_append, filter_again]

/-- When nobody is due any more the next round begins. -/
theorem remaining_nil {others : List Participant} (more : ∀ p ∈ others, 0 < p.turns)
    (rounds : ℕ) : remaining [] others (rounds + 1) = remaining others [] rounds := by
  have all : others.filter (takes 0) = others :=
    List.filter_eq_self.mpr fun p hp => takes_iff.mpr (more p hp)
  simp only [remaining, List.map_nil, List.nil_append, List.filter_nil, List.append_nil,
    List.range_succ_eq_map, List.flatMap_cons, List.flatMap_map, all]

/-- A queue goes through the rounds. -/
theorem served_eq {due others : List Participant} (more : ∀ p ∈ others, 0 < p.turns)
    {most rounds : ℕ} (le : most ≤ due.length + rounds) :
    served (due ++ others) most = (remaining due others rounds).take most := by
  induction most generalizing due others rounds with
  | zero => rw [served, List.take_zero]
  | succ most ih =>
    have turn : ∀ (p : Participant) (due others : List Participant) (rounds : ℕ),
        (∀ p ∈ others, 0 < p.turns) → most ≤ due.length + rounds →
        served (p :: due ++ others) (most + 1) =
          (remaining (p :: due) others rounds).take (most + 1) := by
      intro p due others rounds more le
      have more' : ∀ q ∈ others ++ p.again, 0 < q.turns := fun q hq =>
        (List.mem_append.mp hq).elim (more q) again_turns
      rw [List.cons_append, served, remaining_cons, List.take_succ_cons, List.append_assoc,
        ih more' le]
    cases due with
    | cons p due => exact turn p due others rounds more (by rw [List.length_cons] at le; omega)
    | nil =>
      cases others with
      | nil => simp [served, remaining]
      | cons p others =>
        obtain ⟨rounds, rfl⟩ : ∃ n, rounds = n + 1 :=
          Nat.exists_eq_succ_of_ne_zero fun none => by simp [none] at le
        have first := turn p others [] rounds nofun (by rw [List.length_nil] at le; omega)
        rw [remaining_nil more, List.nil_append, ← first, List.append_nil]

/-- If they wait in order of priority, they are served as the schedule says. -/
theorem served_ranked {most rounds : ℕ} (more : ∀ p ∈ ps, 0 < p.turns) (le : most ≤ rounds) :
    served (ranked priority ps) most = (schedule ps rounds).take most := by
  have order : remaining [] (ranked priority ps) rounds = schedule ps rounds := by
    rw [remaining, List.map_nil, List.nil_append]
    refine List.flatMap_congr fun round _ => ?_
    rw [List.filter_nil, List.append_nil, inRound, ranked_filter]
  rw [← order, ← served_eq (fun p hp => more p (mem_ranked.mp hp)) (by simpa using le),
    List.nil_append]

end Participant

end TrapKernel
