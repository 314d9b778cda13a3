import TrapKernel.Proofs.Process.Sound
import TrapKernel.Proofs.Steps

/-!
# What an operation has done

One lemma for each operation of a registry that may be refused. If it was not, the lemma names what
it found on its way and says what it made of the registry. All that is proved about these operations
begins with one of them.
-/

namespace TrapKernel

theorem ok_of_toOption {ε α : Type} {result : Except ε α} {a : α}
    (some : result.toOption = some a) : result = .ok a := by
  cases result with
  | error e => cases some
  | ok b => rw [Option.some.inj some]

namespace Registry

open ProcessTable

variable {r r' : Registry} {m m' : Memory} {id : ProcessId} {i : Nat} {b : Bool} {name : String}
  {owner : ProcessClass} {priority : Nat} {entry : UInt32}

/-! ### Names and handles -/

theorem position_found (found : r.position name = .ok i) : r.table.position name = some i := by
  unfold position at found
  split at found
  · cases found
  · rename_i j atJ
    cases found
    exact atJ

theorem position_ok (found : r.position name = .ok i) :
    ∃ p, r.table.process? i = some p ∧ p.name = name := position_eq_some (position_found found)

theorem resolve_ok (found : r.resolve id = .ok i) : r.table.resolve id = some i := by
  unfold resolve at found
  split at found
  · cases found
  · rename_i j atJ
    cases found
    exact atJ

/-! ### Processes come and go -/

/-- Only admissible processes with a new name are created. -/
theorem create_ok (done : r.create m name owner priority = .ok (id, r', m')) :
    ∃ record t, m.allocate recordSize = .ok (record, m') ∧
      (Process.create name owner priority record).Admissible ∧
      (∀ j p, r.table.process? j = some p → p.name ≠ name) ∧
      r.table.insert (.create name owner priority record) = (id, t) ∧
      r' = Registry.link { r with table := t } id.index .ready r.round := by
  unfold create at done
  split at done
  · cases done
  rename_i nameOk
  split at done
  · cases done
  rename_i priorityOk
  split at done
  · cases done
  rename_i unused
  split at done
  · cases done
  rename_i record m'' allocated
  cases done
  rw [not_or] at nameOk
  refine ⟨record, _, allocated, ⟨Nat.le_of_not_lt nameOk.1, Nat.le_of_not_lt nameOk.2,
    Nat.le_of_not_lt priorityOk⟩, ?_, rfl, rfl⟩
  rw [← position_eq_none]
  simpa using unused

theorem load_ok (done : r.load m name owner priority entry = .ok (id, r', m')) :
    ∃ r₁, r.create m name owner priority = .ok (id, r₁, m') ∧
      r' = (r₁.modifyProcess id.index (·.prepare entry)).moveTo id.index .readySuspended := by
  obtain ⟨⟨id₁, r₁, m₁⟩, created, rest⟩ := ok_of_bind done
  cases rest
  exact ⟨r₁, created, rfl⟩

theorem destroy_ok (done : r.destroy m id = .ok (r', m')) :
    ∃ p t, r.table.resolve id = some id.index ∧
      (r.unlink id.index).table.remove id = some (p, t) ∧
      r' = { r.unlink id.index with table := t } ∧ m' = m.release p.record := by
  obtain ⟨i, found, rest⟩ := ok_of_bind done
  have resolved := resolve_ok found
  obtain rfl := (resolve_eq_some.mp resolved).1
  cases removed : (r.unlink id.index).table.remove id with
  | none =>
    simp only [removed] at rest
    cases rest
  | some result =>
    simp only [removed] at rest
    cases rest
    exact ⟨result.1, result.2, resolved, rfl, rfl, rfl⟩

/-- Only a process that does not run can be deleted. -/
theorem delete_ok (done : r.delete m name = .ok (id, r', m')) :
    ∃ i p, r.position name = .ok i ∧ r.table.process? i = some p ∧ p.state ≠ .running ∧
      id = r.table.idAt i ∧ r.destroy m id = .ok (r', m') := by
  obtain ⟨i, found, rest⟩ := ok_of_bind done
  obtain ⟨p, process, -⟩ := position_ok found
  split at rest
  · cases rest
  rename_i notRunning
  obtain ⟨⟨r₁, m₁⟩, destroyed, rest⟩ := ok_of_bind rest
  cases rest
  refine ⟨i, p, found, process, ?_, rfl, destroyed⟩
  intro running
  exact notRunning (stateAt_eq_some.mpr ⟨p, process, running⟩)

/-! ### Changes of state -/

theorem blockAt_ok (done : r.blockAt i = .ok (b, r')) : r.shift i blockTarget = (b, r') := by
  obtain ⟨-, -, rest⟩ := ok_of_bind done
  exact Except.ok.inj rest

theorem unblockAt_ok (done : r.unblockAt i = .ok (b, r')) : r.shift i unblockTarget = (b, r') := by
  obtain ⟨-, -, rest⟩ := ok_of_bind done
  exact Except.ok.inj rest

theorem block_ok (done : r.block name = .ok (b, r')) :
    ∃ i, r.position name = .ok i ∧ r.shift i blockTarget = (b, r') := by
  obtain ⟨i, found, rest⟩ := ok_of_bind done
  exact ⟨i, found, blockAt_ok rest⟩

theorem unblock_ok (done : r.unblock name = .ok (b, r')) :
    ∃ i, r.position name = .ok i ∧ r.shift i unblockTarget = (b, r') := by
  obtain ⟨i, found, rest⟩ := ok_of_bind done
  exact ⟨i, found, unblockAt_ok rest⟩

theorem release_ok (done : r.release id = .ok (b, r')) :
    ∃ i, r.table.resolve id = some i ∧ r.shift i unblockTarget = (b, r') := by
  obtain ⟨i, found, rest⟩ := ok_of_bind done
  exact ⟨i, resolve_ok found, unblockAt_ok rest⟩

/-- A process that gets another priority is put into its new place, if its queue is ordered by
priority. -/
theorem setPriority_ok (done : r.setPriority name priority = .ok r') :
    ∃ i p, r.position name = .ok i ∧ r.table.process? i = some p ∧ priority ≤ maxPriority ∧
      let r₁ := r.modifyProcess i ({ · with priority })
      ((QueueKind.ofState p.state).map (·.discipline) = some .priority ∧
          r' = (r₁.unlink i).link i p.state p.round ∨
        (QueueKind.ofState p.state).map (·.discipline) ≠ some .priority ∧ r' = r₁) := by
  unfold setPriority at done
  split at done
  · cases done
  rename_i admissible
  obtain ⟨i, found, rest⟩ := ok_of_bind done
  obtain ⟨p, process, -⟩ := position_ok found
  let f : Process → Process := ({ · with priority })
  have changed : (r.modifyProcess i f).table.process? i = some (f p) := by
    rw [modifyProcess, process?_modifyProcess, if_pos rfl, process]
    rfl
  simp only [show (r.modifyProcess i ({ · with priority })).table.process? i = some (f p)
    from changed] at rest
  refine ⟨i, p, found, process, Nat.le_of_not_lt admissible, ?_⟩
  split at rest
  · rename_i ranked
    cases rest
    exact Or.inl ⟨ranked, rfl⟩
  · rename_i notRanked
    cases rest
    exact Or.inr ⟨notRanked, rfl⟩

/-! ### What the dispatcher does -/

theorem requeueYielded_ok (done : r.requeueYielded id = .ok r') :
    ∃ i, r.table.resolve id = some i ∧
      r' = r.link i .ready (((r.table.process? i).map (·.round)).getD 0 + 1) := by
  obtain ⟨i, found, rest⟩ := ok_of_bind done
  cases rest
  exact ⟨i, resolve_ok found, rfl⟩

theorem parkBlocked_ok (done : r.parkBlocked id = .ok r') :
    ∃ i, r.table.resolve id = some i ∧ r' = r.link i .blocked r.round := by
  obtain ⟨i, found, rest⟩ := ok_of_bind done
  cases rest
  exact ⟨i, resolve_ok found, rfl⟩

theorem saveContext_ok {c : Context} (done : r.saveContext id c = .ok r') :
    ∃ i, r.table.resolve id = some i ∧ r' = r.modifyProcess i (·.saveContext c) := by
  obtain ⟨i, found, rest⟩ := ok_of_bind done
  cases rest
  exact ⟨i, resolve_ok found, rfl⟩

end Registry

end TrapKernel
