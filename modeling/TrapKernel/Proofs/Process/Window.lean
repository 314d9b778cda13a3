import TrapKernel.Proofs.Process.Places

/-!
# The window of rounds

A process that is ready waits for the current round or for the next one, and a process that runs
took its turn in the current round. So once a process gives up the processor, those that still wait
for the current round come first, whatever the priorities; and when none is left, all ready processes
wait for the same round.
-/

namespace TrapKernel

/-- The round of the process fits the current one. -/
structure Process.InWindow (round : Nat) (p : Process) : Prop where
  ready : p.state = .ready → p.round = round ∨ p.round = round + 1
  running : p.state = .running → p.round = round

namespace Registry

open ProcessTable ProcessQueue

variable {r r' r₁ : Registry} {order : Order} {i j : Nat} {id next : ProcessId}
  {m m' : Memory} {p q : Process} {saved : Context} {ran kept : Option ProcessId}

/-- Every process fits the current round. -/
def Window (r : Registry) : Prop := ∀ i p, r.table.process? i = some p → p.InWindow r.round

namespace Window

/-- One process changed, and the round is the same. -/
theorem of_process {f : Process → Process} (h : r.Window) (round : r'.round = r.round)
    (process : ∀ j, r'.table.process? j =
      if i = j then (r.table.process? j).map f else r.table.process? j)
    (fits : ∀ p, r.table.process? i = some p → (f p).InWindow r.round) : r'.Window := by
  intro j p found
  rw [round]
  rw [process] at found
  split at found
  · rename_i eq
    subst eq
    obtain ⟨q, before, rfl⟩ := Option.map_eq_some_iff.mp found
    exact fits q before
  · exact h j p found

theorem rearranged (h : r.Window) (moved : r.Rearranged r') : r'.Window := by
  intro i p' found
  obtain ⟨p, before, -⟩ := moved.process found
  have old := h i p before
  rw [moved.round]
  rcases moved.moved i p p' before found with ⟨state, round⟩ | ⟨-, idle, round⟩
  · exact ⟨fun ready => round ▸ old.ready (state.symm.trans ready),
      fun running => round.trans (old.running (state.symm.trans running))⟩
  · refine ⟨fun ready => Or.inl ?_, fun running => absurd running idle⟩
    rw [round, if_pos ready]

/-- A process came. -/
theorem arrive (h : r.Window) (round : r'.round = r.round)
    (process : ∀ j, r'.table.process? j = if id.index = j then some q else r.table.process? j)
    (fits : q.InWindow r.round) : r'.Window := by
  intro j p found
  rw [round]
  rw [process] at found
  split at found
  · cases found
    exact fits
  · exact h j p found

/-- A process went. -/
theorem leave (h : r.Window) (round : r'.round = r.round)
    (process : ∀ j, r'.table.process? j = if id.index = j then none else r.table.process? j) :
    r'.Window := by
  intro j p found
  rw [round]
  rw [process] at found
  split at found
  · cases found
  · exact h j p found

theorem saveContext (h : r.Window) (done : r.saveContext id saved = .ok r') : r'.Window := by
  obtain ⟨i, -, rfl⟩ := saveContext_ok done
  refine h.of_process rfl (fun j => process?_modifyProcess _) fun p found => ?_
  exact ⟨(h i p found).ready, (h i p found).running⟩

theorem entered (h : r.Window) (half : Entered saved r ran kept r') : r'.Window := by
  cases half with
  | nobody => exact h
  | keeps done => exact h.saveContext done
  | parks done parked =>
    obtain ⟨i, -, rfl⟩ := parkBlocked_ok parked
    refine (h.saveContext done).of_process (round_link ..) (process?_link _ i _ _) fun p _ => ?_
    exact ⟨nofun, nofun⟩
  | ends done =>
    obtain ⟨-, round, process⟩ := destroy_process done
    exact h.leave round process

end Window

/-! ### Taking the first ready process -/

/-- The first of the ready processes waits for the earliest round. -/
theorem Sound.round_le {rest : List Nat} (hs : r.Sound order) (ready : order .ready = i :: rest)
    (first : r.table.process? i = some p) (hj : j ∈ order .ready)
    (found : r.table.process? j = some q) : p.round ≤ q.round := by
  rw [ready] at hj
  rcases List.mem_cons.mp hj with rfl | hj
  · rw [Option.some.inj (first.symm.trans found)]
  · have sorted := hs.sorted .ready rfl
    rw [ready] at sorted
    have behind := (List.pairwise_cons.mp sorted).1 j hj
    simp only [outranks, first, found, decide_eq_false_iff_not] at behind
    simp only [Process.RunsBefore] at behind
    omega

/-- The process that is taken runs in its round. The others fit that round as well, but for one that
ran before. -/
theorem Window.take (h : r.Window) (hs : r.Sound order)
    (taken : r.takeReadyHead = some (next, r₁)) :
    (r₁.round = r.round ∨ r₁.round = r.round + 1) ∧ ∀ j p, r₁.table.process? j = some p →
      p.InWindow r₁.round ∨ r.stateAt j = some .running ∧ p.round = r.round := by
  obtain ⟨i, head, -, -, process, round⟩ := takeReadyHead_ok taken
  obtain ⟨rest, ready⟩ : ∃ rest, order .ready = i :: rest := by
    rw [show r.ready.head = (order .ready).head? from (hs.threads .ready).head] at head
    cases listed : order .ready with
    | nil =>
      rw [listed] at head
      cases head
    | cons j rest =>
      rw [listed] at head
      cases head
      exact ⟨rest, rfl⟩
  obtain ⟨p, first, state⟩ := stateAt_eq_some.mp (hs.stateAt_head (k := .ready) head)
  have window := (h i p first).ready state
  have now : r₁.round = p.round := by
    rw [round, first]
    simp only [Option.map_some, Option.getD_some]
    omega
  refine ⟨now ▸ window, fun j q found => ?_⟩
  rw [process] at found
  split at found
  · rename_i eq
    subst eq
    rw [first] at found
    cases found
    exact Or.inl ⟨nofun, fun _ => now.symm⟩
  · have old := h j q found
    by_cases running : q.state = .running
    · exact Or.inr ⟨stateAt_eq_some.mpr ⟨q, found, running⟩, old.running running⟩
    · refine Or.inl ⟨fun waits => ?_, fun runs => absurd runs running⟩
      have le := hs.round_le ready first (hs.mem_iff.mpr (stateAt_eq_some.mpr ⟨q, found, waits⟩))
        found
      have := old.ready waits
      omega

/-- A process is put back into the round after the one in which it ran. -/
theorem Window.requeue (round : r₁.round = r.round ∨ r₁.round = r.round + 1)
    (resolved : r₁.table.resolve id = some i) (found : r₁.table.process? i = some p)
    (ran : p.round = r.round)
    (others : ∀ j p, i ≠ j → r₁.table.process? j = some p → p.InWindow r₁.round)
    (done : r₁.requeueYielded id = .ok r') : r'.Window := by
  obtain ⟨i', resolved', rfl⟩ := requeueYielded_ok done
  obtain rfl := Option.some.inj (resolved.symm.trans resolved')
  intro j q after
  rw [round_link]
  rw [process?_link] at after
  split at after
  · rename_i eq
    subst eq
    rw [found] at after
    cases after
    refine ⟨fun _ => ?_, nofun⟩
    rw [Option.map_some, Option.getD_some, round_entering_ready]
    omega
  · rename_i ne
    exact others j q ne after

/-- Whoever is chosen, every process fits the round that is current after that. -/
theorem Window.chosen {chosen : Option ProcessId} (h : r.Window) (runs : r.Runs kept.toList)
    (half : r.Chosen kept chosen r') : r'.Window := by
  obtain ⟨order, hs⟩ := runs.sound
  cases half with
  | alone same nobody => exact h
  | home requeued =>
    cases requeued with
    | nobody => exact h
    | @back id _ done =>
      obtain ⟨i, resolved⟩ := runs.resolves id List.mem_cons_self
      obtain ⟨p, found, state⟩ := stateAt_eq_some.mp (runs.stateAt List.mem_cons_self resolved)
      exact Window.requeue (Or.inl rfl) resolved found ((h i p found).running state)
        (fun j q _ before => h j q before) done
  | @next _ r₁ _ taken requeued =>
    obtain ⟨round, fits⟩ := h.take hs taken
    -- who ran before is the process that keeps the processor
    have before : ∀ j, r.stateAt j = some .running → ∃ id ∈ kept, r.table.resolve id = some j := by
      intro j running
      obtain ⟨id, member, resolved⟩ := (runs.running j).mp running
      exact ⟨id, Option.mem_toList.mp member, resolved⟩
    cases requeued with
    | nobody =>
      intro j q found
      refine (fits j q found).resolve_right fun running => ?_
      obtain ⟨id, member, -⟩ := before j running.1
      cases member
    | @back id _ done =>
      have slots := (SameMatter.takeReadyHead taken).slots
      obtain ⟨i, resolved⟩ := runs.resolves id List.mem_cons_self
      have running := runs.stateAt List.mem_cons_self resolved
      obtain ⟨p₀, found₀, state⟩ := stateAt_eq_some.mp running
      obtain ⟨runs₁, fresh, -⟩ := runs.takeReadyHead taken
      obtain ⟨i₁, head, rfl, -, process, -⟩ := takeReadyHead_ok taken
      have other : i₁ ≠ i := by
        rintro rfl
        exact fresh (by simp [idAt_of_resolve resolved])
      have found : r₁.table.process? i = some p₀ := by
        rw [process, if_neg other]
        exact found₀
      refine Window.requeue round ((slots.resolve id).trans resolved) found
        ((h i p₀ found₀).running state) (fun j q ne after => ?_) done
      refine (fits j q after).resolve_right fun ran => ?_
      obtain ⟨id', member, resolved'⟩ := before j ran.1
      cases member
      exact ne (Option.some.inj (resolved.symm.trans resolved'))

end Registry

end TrapKernel
