import TrapKernel.Kernel.Dispatch
import TrapKernel.Proofs.Process.Running

/-!
# The steps of a trap

What each step of a trap does to a kernel whose registry is sound. A step writes the registry, and
perhaps the device, the buffers and the memory; the dispatcher's own notes are the same before and
after it.
-/

namespace TrapKernel

namespace Kernel

open Registry ProcessTable

variable {k k' : Kernel} {who : List ProcessId} {id : ProcessId} {i : Nat}

/-- The dispatcher's own notes are the same. -/
structure SameNotes (k k' : Kernel) : Prop where
  running : k'.running = k.running
  halted : k'.halted = k.halted
  shutdown : k'.shutdownRequested = k.shutdownRequested
  config : k'.config = k.config

theorem SameNotes.refl (k : Kernel) : k.SameNotes k := ⟨rfl, rfl, rfl, rfl⟩

theorem SameNotes.trans {k'' : Kernel} (h : k.SameNotes k') (h' : k'.SameNotes k'') :
    k.SameNotes k'' where
  running := h'.running.trans h.running
  halted := h'.halted.trans h.halted
  shutdown := h'.shutdown.trans h.shutdown
  config := h'.config.trans h.config

theorem notes_save (k : Kernel) (id : ProcessId) (c : Context) : k.SameNotes (k.save id c) := by
  unfold save
  split <;> exact ⟨rfl, rfl, rfl, rfl⟩

theorem notes_requeue (k : Kernel) (kept : Option ProcessId) : k.SameNotes (k.requeue kept) := by
  unfold requeue
  split
  · exact SameNotes.refl k
  · split <;> exact ⟨rfl, rfl, rfl, rfl⟩

theorem notes_park (k : Kernel) (id : ProcessId) : k.SameNotes (k.park id) := by
  unfold park
  split <;> exact ⟨rfl, rfl, rfl, rfl⟩

theorem notes_exit (k : Kernel) (id : ProcessId) : k.SameNotes (k.exit id) := by
  unfold exit cancelTransfers
  simp only []
  split <;> exact ⟨rfl, rfl, rfl, rfl⟩

theorem notes_startTransfer (k : Kernel) (id : ProcessId) (direction : Direction)
    (device : DeviceId) (buffer : BufferId) (c : Context) :
    k.SameNotes (k.startTransfer id direction device buffer c).2 := by
  have saved := notes_save k id c
  unfold startTransfer
  simp only []
  split
  · refine saved.trans (.trans ?_ (notes_park _ id))
    exact ⟨rfl, rfl, rfl, rfl⟩
  · exact saved.trans ⟨rfl, rfl, rfl, rfl⟩

theorem notes_poll (k : Kernel) : k.SameNotes k.poll := by
  unfold poll
  simp only []
  split
  · exact ⟨rfl, rfl, rfl, rfl⟩
  · split <;> exact ⟨rfl, rfl, rfl, rfl⟩

/-! ### What the steps write -/

theorem save_spec (runs : k.registry.Runs who) (id : ProcessId) (c : Context) :
    ∃ r, k.save id c = { k with registry := r } ∧ r.Runs who ∧ k.registry.SameRecords r := by
  obtain ⟨order, hs⟩ := runs.sound
  unfold save
  cases saved : k.registry.saveContext id c with
  | error e => exact ⟨k.registry, rfl, runs, (Steady.refl _).toSameRecords⟩
  | ok r =>
    obtain ⟨order', sound, steady⟩ := hs.saveContext saved
    exact ⟨r, rfl, runs.steady ⟨order', sound⟩ steady, steady.toSameRecords⟩

theorem park_spec (runs : k.registry.Runs who) (member : id ∈ who) :
    ∃ r, k.park id = { k with registry := r } ∧ r.Runs (who.erase id) ∧
      k.registry.SameRecords r := by
  obtain ⟨r, parked, runs', same⟩ := runs.parkBlocked member
  refine ⟨r, ?_, runs', same⟩
  rw [park, parked]

theorem requeue_spec (runs : k.registry.Runs who) (member : id ∈ who) :
    ∃ r, k.requeue (some id) = { k with registry := r } ∧ r.Runs (who.erase id) ∧
      k.registry.SameRecords r := by
  obtain ⟨r, requeued, runs', same⟩ := runs.requeueYielded member
  refine ⟨r, ?_, runs', same⟩
  simp only [requeue, requeued]

/-- The process that ends gives back its record, after those of its transfers that wait. -/
theorem exit_spec (runs : k.registry.Runs who) (member : id ∈ who) :
    ∃ i p r, k.registry.table.resolve id = some i ∧ k.registry.table.process? i = some p ∧
      k.exit id = { k.cancelTransfers id with
        registry := r, memory := (k.cancelTransfers id).memory.release p.record } ∧
      r.Runs (who.erase id) ∧ k.registry.Gone r i := by
  obtain ⟨order, hs⟩ := runs.sound
  obtain ⟨i, resolved⟩ := runs.resolves id member
  obtain ⟨p, found⟩ := live_iff.mp (resolve_eq_some.mp resolved).2.2
  obtain ⟨r, destroyed, sound, gone⟩ := hs.destroy resolved found (k.cancelTransfers id).memory
  refine ⟨i, p, r, resolved, found, ?_, runs.gone sound resolved gone, gone⟩
  unfold exit
  simp only []
  rw [show (k.cancelTransfers id).registry.destroy (k.cancelTransfers id).memory id = _
    from destroyed]

/-- The owner of a transfer that ended is released, if there is one. -/
theorem poll_spec (runs : k.registry.Runs who) :
    ∃ r, k.poll = { k with
        device := (k.device.checkCompletion k.shared k.memory).2.1
        shared := (k.device.checkCompletion k.shared k.memory).2.2.1
        memory := (k.device.checkCompletion k.shared k.memory).2.2.2
        registry := r } ∧ r.Runs who ∧ k.registry.SameRecords r := by
  obtain ⟨order, hs⟩ := runs.sound
  have same := (Steady.refl k.registry).toSameRecords
  unfold poll
  simp only []
  cases (k.device.checkCompletion k.shared k.memory).1 with
  | none => exact ⟨k.registry, rfl, runs, same⟩
  | some id =>
    simp only []
    cases released : k.registry.release id with
    | error e => exact ⟨k.registry, rfl, runs, same⟩
    | ok result =>
      obtain ⟨order', sound, steady⟩ := hs.release released
      exact ⟨result.2, rfl, runs.steady ⟨order', sound⟩ steady, steady.toSameRecords⟩

end Kernel

end TrapKernel
