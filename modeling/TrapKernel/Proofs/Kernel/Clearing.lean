import TrapKernel.Proofs.Kernel.Single

/-!
# A kernel can be shut down

With a heap the reason is that the kernel accounts for its records, so the heap is empty once all of
them are given back. Without a heap there is nothing to be empty, and it is enough that the memory
never becomes a heap. Either way no call stands in the way of a shutdown.
-/

namespace TrapKernel

namespace Memory

variable {m m' : Memory} {address bytes : Nat}

theorem heap?_allocate (bump : m.heap? = none) (done : m.allocate bytes = .ok (address, m')) :
    m'.heap? = none := by
  cases m with
  | heap h => cases bump
  | bump b =>
    obtain ⟨result, -, rest⟩ := ok_of_bind done
    cases rest
    rfl

theorem heap?_release (bump : m.heap? = none) (address : Nat) :
    (m.release address).heap? = none := by
  cases m with
  | heap h => cases bump
  | bump b => rfl

theorem heap?_foldl_release (bump : m.heap? = none) (addresses : List Nat) :
    (addresses.foldl Memory.release m).heap? = none := by
  induction addresses generalizing m with
  | nil => exact bump
  | cons address rest ih => exact ih (heap?_release bump address)

end Memory

namespace Kernel

open Registry

variable {k k' : Kernel} {who : List ProcessId} {c : KernelConfig} {uart : Uart}

/-! ### Without a heap -/

/-- The processes of `who` run, and records come from a region that is never empty again. -/
structure Heapless (k : Kernel) (who : List ProcessId) : Prop where
  runs : k.registry.Runs who
  bump : k.memory.heap? = none

theorem trapInvariant_heapless : TrapInvariant Heapless where
  runs := Heapless.runs
  notes := fun _ _ _ _ _ _ h => ⟨h.runs, h.bump⟩
  registry := fun h runs _ => ⟨runs, h.bump⟩
  accept := by
    intro k who t how d s m h _ done
    refine ⟨h.runs, ?_⟩
    rcases (Device.submit_ok done).2 with ⟨-, -, -, rfl⟩ | ⟨-, -, -, record, allocated, -⟩
    · exact h.bump
    · exact Memory.heap?_allocate h.bump allocated
  complete := by
    intro k who h
    refine ⟨h.runs, ?_⟩
    rcases k.device.checkCompletion_cases k.shared k.memory with ⟨-, eq⟩ |
      ⟨finished, -, -, ⟨-, eq⟩ | ⟨next, rest, -, eq⟩⟩ <;> rw [eq]
    · exact h.bump
    · exact h.bump
    · exact Memory.heap?_release h.bump _
  exit := by
    intro k who id h member
    obtain ⟨i, p, r, -, -, eq, runs, -⟩ := exit_spec h.runs member
    rw [eq]
    refine ⟨runs, Memory.heap?_release ?_ _⟩
    rw [cancelTransfers_eq]
    exact Memory.heap?_foldl_release h.bump _

theorem heap?_destroyAll (bump : k.memory.heap? = none) (ids : List ProcessId) :
    (k.destroyAll ids).2.memory.heap? = none := by
  induction ids generalizing k with
  | nil => exact bump
  | cons id ids ih =>
    have cancelled : (k.cancelTransfers id).memory.heap? = none := by
      rw [cancelTransfers_eq]
      exact Memory.heap?_foldl_release bump _
    rw [destroyAll]
    cases done : (k.cancelTransfers id).registry.destroy (k.cancelTransfers id).memory id with
    | error e => exact cancelled
    | ok result =>
      obtain ⟨p, t, -, -, -, released⟩ := destroy_ok done
      apply ih
      rw [released]
      exact Memory.heap?_release cancelled _

/-- A memory without a heap cannot fail to be empty. -/
theorem Heapless.shutdown (h : k.Heapless who) :
    ∃ k', k.shutdown = (.ok (), k') ∧ k'.running = none ∧ k'.Heapless [] := by
  obtain ⟨port, closed⟩ := k.closePort_eq
  let k₁ : Kernel := { k with device.port := port }
  obtain ⟨k₂, -, destroyed, -⟩ := destroyAll_vacant (k := k₁) h.runs (names_ids k.registry)
  have bump : k₂.memory.heap? = none := by
    have after := heap?_destroyAll (k := k₁) h.bump k₁.registry.ids
    rw [show k₁.destroyAll k₁.registry.ids = _ from destroyed] at after
    exact after
  have released : (releaseDeviceRecord { k₂ with running := none }).memory.heap? = none := by
    unfold releaseDeviceRecord
    split
    · exact bump
    · exact Memory.heap?_release bump _
  have done : k.shutdown = (.ok (), releaseDeviceRecord { k₂ with running := none }) := by
    unfold Kernel.shutdown
    rw [closed]
    simp only []
    rw [show k₁.destroyAll k₁.registry.ids = _ from destroyed]
    simp only []
    rw [if_pos]
    rw [heapIsEmpty, released]
    rfl
  obtain ⟨runs, -, running, -⟩ := shutdown_vacant h.runs
  rw [done] at runs running
  exact ⟨_, done, running, runs, released⟩

/-! ### With a heap or without -/

/-- The records of the kernel are accounted for, or there is no heap that could account for them. -/
def Clears (k : Kernel) : Prop :=
  (∃ size device, 0 < size ∧ k.Balanced size device) ∨ BetweenTraps Heapless k

namespace Clears

theorem boot (booted : boot c uart = .ok k) : k.Clears := by
  cases kind : c.memory with
  | heap =>
    obtain ⟨pos, running, record, ha⟩ := boot_spec kind booted
    refine Or.inl ⟨c.heapSize, some record, pos, [], Nat.zero_le 1, fun _ => ?_, ha⟩
    rw [running]
    rfl
  | bump =>
    obtain ⟨m, port, record, m₁, r, m₂, made, -, allocated, loaded, rfl⟩ := boot_eq booted
    have bump : m.heap? = none := by
      rw [memoryOf, kind] at made
      cases made
      rfl
    have bump₂ : m₂.heap? = none := by
      refine loadAll_keeps (P := fun _ m => m.heap? = none) ?_
        (Memory.heap?_allocate bump allocated) loaded
      intro r r' m m' id name owner priority entry bump done
      obtain ⟨r₁, created, -⟩ := Registry.load_ok done
      obtain ⟨record, t, granted, -⟩ := Registry.create_ok created
      exact Memory.heap?_allocate bump granted
    have resumed : r.resumeAll.2.Runs [] :=
      (runs_loadAll loaded).steadily fun order hs => hs.resumeAll
    exact Or.inr ⟨[], Nat.zero_le 1, fun _ => rfl, resumed, bump₂⟩

theorem shutdown (h : k.Clears) : ∃ k', k.shutdown = (.ok (), k') ∧ k'.Clears := by
  rcases h with ⟨size, device, pos, balanced⟩ | ⟨who, -, -, heapless⟩
  · have after := balanced.shutdown pos
    obtain ⟨who, -, -, ha⟩ := balanced
    obtain ⟨-, k', done, -⟩ := ha.shutdown pos
    rw [call, done] at after
    exact ⟨k', done, Or.inl ⟨size, none, pos, after⟩⟩
  · obtain ⟨k', done, running, after⟩ := heapless.shutdown
    refine ⟨k', done, Or.inr ⟨[], Nat.zero_le 1, fun _ => ?_, after⟩⟩
    rw [running]
    rfl

end Clears

/-- Processes come, go and change their states without a heap. -/
theorem Heapless.outcome {n : Note} (h : BetweenTraps Heapless k) (outcome : k.Outcome n k') :
    BetweenTraps Heapless k' := by
  obtain ⟨who, one, running, runs, bump⟩ := h
  cases outcome with
  | outside slot port shared shutdownRequested => exact ⟨who, one, running, runs, bump⟩
  | moved moves =>
    exact ⟨who, one, running, runs.steadily fun order hs => (moves order hs).1, bump⟩
  | created done =>
    obtain ⟨record, i, allocated, runs', -⟩ := runs.create done
    exact ⟨who, one, running, runs', Memory.heap?_allocate bump allocated⟩
  | loaded done =>
    obtain ⟨record, i, allocated, runs', -⟩ := runs.load done
    exact ⟨who, one, running, runs', Memory.heap?_allocate bump allocated⟩
  | deleted done =>
    obtain ⟨-, -, -, -, -, runs', -⟩ := runs.delete done
    obtain ⟨i, p, -, -, -, -, destroyed⟩ := Registry.delete_ok done
    obtain ⟨-, -, -, -, -, rfl⟩ := destroy_ok destroyed
    refine ⟨who, one, running, runs', ?_⟩
    rw [cancelTransfers_eq]
    exact Memory.heap?_foldl_release (Memory.heap?_release bump _) _
  | trapped slot saved =>
    exact trapInvariant_heapless.dispatch (k := { k with slot }) ⟨who, one, running, runs, bump⟩
      saved
  | down =>
    obtain ⟨k', done, off, after⟩ := Heapless.shutdown ⟨runs, bump⟩
    rw [done]
    refine ⟨[], Nat.zero_le 1, fun _ => ?_, after⟩
    rw [off]
    rfl

theorem Clears.call (h : k.Clears) (c : KernelCall) : (k.call c).Clears := by
  by_cases down : c = .shutdown
  · obtain ⟨k', done, after⟩ := h.shutdown
    rw [down, Kernel.call, done]
    exact after
  · rcases h with ⟨size, device, pos, balanced⟩ | heapless
    · exact Or.inl ⟨size, device, pos, balanced.call c down⟩
    · exact Or.inr (Heapless.outcome heapless (Outcome.call k c))

/-- Whatever a kernel has been through, with a heap or without, it can be shut down. -/
theorem shutdown_ok (booted : boot c uart = .ok k) (calls : List KernelCall) :
    ∃ k', (calls.foldl Kernel.call k).shutdown = (.ok (), k') := by
  have clears : (calls.foldl Kernel.call k).Clears := by
    induction calls using List.reverseRecOn with
    | nil => exact .boot booted
    | append_singleton calls c ih =>
      rw [List.foldl_append]
      exact ih.call c
  obtain ⟨k', done, -⟩ := clears.shutdown
  exact ⟨k', done⟩

end Kernel

end TrapKernel
