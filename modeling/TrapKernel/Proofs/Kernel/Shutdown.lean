import TrapKernel.Proofs.Kernel.Ownership

/-!
# Shutting down

A kernel that accounts for its records can be shut down at any time: the port is closed, every
process goes with its transfers, whether it runs or not, and the heap is one free block again.
-/

namespace TrapKernel

theorem SerialPort.close_ok {p : SerialPort} (isOpen : p.isOpen = true) :
    ∃ p', p.close = .ok p' := by
  unfold SerialPort.close
  rw [if_pos isOpen]
  simp only []
  split
  · exact ⟨_, rfl⟩
  · exact ⟨_, rfl⟩

namespace Registry

open ProcessTable

variable {r r' : Registry} {id : ProcessId} {ids : List ProcessId} {i : Nat}

/-- The handles are those of all processes, each of them once. -/
structure Names (r : Registry) (ids : List ProcessId) : Prop where
  nodup : ids.Nodup
  resolves : ∀ id ∈ ids, ∃ i, r.table.resolve id = some i
  all : ∀ i, r.table.Live i → r.table.idAt i ∈ ids

theorem names_ids (r : Registry) : r.Names r.ids where
  nodup := by
    have distinct := List.pairwise_map.mp (nodup_entries (t := r.table))
    apply List.pairwise_map.mpr
    apply distinct.imp
    intro e e' ne same
    exact ne (congrArg ProcessId.index same)
  resolves := by
    intro id member
    obtain ⟨⟨i, p⟩, entry, rfl⟩ := List.mem_map.mp member
    exact ⟨i, resolve_idAt (live_iff.mpr ⟨p, mem_entries.mp entry⟩)⟩
  all := by
    intro i live
    obtain ⟨p, found⟩ := live_iff.mp live
    exact List.mem_map.mpr ⟨(i, p), mem_entries.mpr found, rfl⟩

/-- If the first process goes, the other handles are those of the processes that are left. -/
theorem Names.gone (hn : r.Names (id :: ids)) (resolved : r.table.resolve id = some i)
    (gone : r.Gone r' i) : r'.Names ids := by
  obtain ⟨fresh, nodup⟩ := List.nodup_cons.mp hn.nodup
  refine ⟨nodup, fun id' member => ?_, fun j live => ?_⟩
  · obtain ⟨j, resolved'⟩ := hn.resolves id' (List.mem_cons_of_mem id member)
    refine ⟨j, (gone.resolve ?_).mpr resolved'⟩
    rintro rfl
    have same := resolve_injective resolved' resolved
    exact fresh (same ▸ member)
  · obtain ⟨ne, live⟩ := gone.live_iff.mp live
    have same : r'.table.idAt j = r.table.idAt j := by
      rw [idAt_eq, idAt_eq, gone.generation j ne]
    rw [same]
    refine (List.mem_cons.mp (hn.all j live)).resolve_left ?_
    intro eq
    exact ne ((congrArg ProcessId.index eq).trans (resolve_eq_some.mp resolved).1).symm

end Registry

namespace Kernel

open Registry ProcessTable

variable {k k' : Kernel} {who : List ProcessId} {ids : List ProcessId} {size : Nat}
  {device : Option Nat}

/-- Closing the port writes nothing but the port. -/
theorem closePort_eq (k : Kernel) : ∃ port, k.closePort = .ok { k with device.port := port } := by
  unfold closePort
  split
  · rename_i isOpen
    obtain ⟨port, closed⟩ := SerialPort.close_ok isOpen
    refine ⟨port, ?_⟩
    rw [closed]
    rfl
  · exact ⟨k.device.port, rfl⟩

/-- Everything can be given back that is given back when some processes are removed, and after that
the record of the device. -/
def RemovalFrees (k : Kernel) : List ProcessId → Prop
  | [] => k.memory.Frees k.deviceRecord.toList
  | id :: ids =>
    (∀ p, k.registry.get id = some p → k.memory.Frees (k.device.held id ++ [p.record])) ∧
      ∀ registry memory,
        k.registry.destroy (k.cancelTransfers id).memory id = .ok (registry, memory) →
          RemovalFrees { k.cancelTransfers id with registry, memory } ids

namespace Accounts

theorem frees_device (ha : Accounts size device k who) :
    k.memory.Frees k.deviceRecord.toList :=
  (ha.holds.frees (List.Perm.refl _)).1

/-- If the list names every process, none is left. -/
theorem destroyAll (ha : Accounts size device k who) (names : k.registry.Names ids) :
    k.RemovalFrees ids ∧ ∃ k' who', k.destroyAll ids = (.ok (), k') ∧
      Accounts size device k' who' ∧ (∀ i, ¬ k'.registry.table.Live i) ∧ k'.halted = k.halted := by
  induction ids generalizing k who with
  | nil =>
    refine ⟨ha.frees_device, k, who, rfl, ha, ?_, rfl⟩
    intro i live
    exact absurd (names.all i live) List.not_mem_nil
  | cons id ids ih =>
    obtain ⟨i, resolved⟩ := names.resolves id List.mem_cons_self
    obtain ⟨p, found⟩ := live_iff.mp (resolve_eq_some.mp resolved).2.2
    obtain ⟨order, hs⟩ := ha.runs.sound
    obtain ⟨r, destroyed, sound, gone⟩ := hs.destroy resolved found (k.cancelTransfers id).memory
    have runs := ha.runs.gone sound resolved gone
    have perm : (k.device.held id ++ [p.record]).Perm (p.record :: k.device.held id) :=
      List.perm_append_comm
    obtain ⟨frees, after⟩ := ha.gone resolved found runs gone perm
    let k₁ : Kernel := { k.cancelTransfers id with
      registry := r, memory := (k.cancelTransfers id).memory.release p.record }
    have after : Accounts size device k₁ (who.erase id) := by
      rw [List.foldl_append, cancelTransfers_eq] at after
      simp only [k₁, cancelTransfers_eq]
      exact after
    obtain ⟨frees₁, k', who', done, rest⟩ := ih after (names.gone resolved gone)
    refine ⟨⟨?_, ?_⟩, k', who', ?_, rest⟩
    · intro p' got
      rw [Registry.get, resolved, Option.bind_some, found] at got
      cases got
      exact frees
    · intro registry memory destroyed'
      rw [destroyed] at destroyed'
      cases destroyed'
      exact frees₁
    · rw [Kernel.destroyAll]
      rw [show (k.cancelTransfers id).registry.destroy (k.cancelTransfers id).memory id = _
        from destroyed]
      exact done

/-- A kernel without processes has no transfers that wait either. -/
theorem no_transfers (ha : Accounts size device k who) (vacant : ∀ i, ¬ k.registry.table.Live i) :
    k.device.waiting = [] := by
  rw [List.eq_nil_iff_forall_not_mem]
  intro w waits
  obtain ⟨i, owner⟩ := ha.owners w waits
  exact vacant i (resolve_eq_some.mp owner).2.2

theorem nobody_runs (ha : Accounts size device k who) (vacant : ∀ i, ¬ k.registry.table.Live i) :
    who = [] := by
  rw [List.eq_nil_iff_forall_not_mem]
  intro id member
  obtain ⟨i, resolved⟩ := ha.runs.resolves id member
  exact vacant i (resolve_eq_some.mp resolved).2.2

end Accounts

theorem entries_eq_nil {t : ProcessTable} (vacant : ∀ i, ¬ t.Live i) : t.entries = [] := by
  rw [List.eq_nil_iff_forall_not_mem]
  rintro ⟨i, p⟩ member
  exact vacant i (live_iff.mpr ⟨p, mem_entries.mp member⟩)

/-- The last step: the device gives back its record, if it still has it. -/
theorem Accounts.release (ha : Accounts size device k who) :
    Accounts size none k.releaseDeviceRecord who := by
  unfold releaseDeviceRecord
  split
  · rename_i gone
    exact ⟨ha.runs, gone, ha.holds, ha.owners⟩
  · rename_i record there
    have split : k.owned.Perm ([record] ++ (k.registry.records ++ k.device.records)) := by
      rw [owned, there]
      exact List.Perm.refl _
    exact ⟨ha.runs, rfl, (ha.holds.frees split).2, ha.owners⟩

/-- Everything that a shutdown gives back can be given back. -/
def ShutdownFrees (k : Kernel) : Prop :=
  ∀ k', k.closePort = .ok k' → k'.RemovalFrees k'.registry.ids

/-- No process is left and no transfer waits, and the heap is one free block. -/
structure Down (size : Nat) (k : Kernel) : Prop where
  registry : k.registry.isEmpty = true
  waiting : k.device.waiting = []
  memory : ∃ h, k.memory = .heap h ∧ h.showAllocated = [] ∧
    h.showFree = [⟨headerSize, size - overhead, .free⟩]

theorem Accounts.down (ha : Accounts size none k who) (pos : 0 < size)
    (vacant : ∀ i, ¬ k.registry.table.Live i) : k.Down size ∧ k.heapIsEmpty = true := by
  obtain ⟨order, hs⟩ := ha.runs.sound
  have entries := entries_eq_nil vacant
  have waiting := ha.no_transfers vacant
  have holds := ha.holds
  rw [owned, ha.device, records, entries, Device.records, waiting] at holds
  obtain ⟨h, memory, empty, allocated, free⟩ := Memory.Holds.nothing holds pos
  refine ⟨⟨?_, waiting, h, memory, allocated, free⟩, ?_⟩
  · rw [Registry.isEmpty, Registry.count, hs.wellformed.count, ← length_entries, entries]
    rfl
  · rw [heapIsEmpty, memory]
    exact empty

/-- Whatever state the kernel is in, it can be shut down. -/
theorem Accounts.shutdown (ha : Accounts size device k who) (pos : 0 < size) :
    k.ShutdownFrees ∧ ∃ k', k.shutdown = (.ok (), k') ∧ Accounts size none k' [] ∧
      k'.running = none ∧ k'.Down size := by
  obtain ⟨port, closed⟩ := k.closePort_eq
  let k₁ : Kernel := { k with device.port := port }
  have ha₁ : Accounts size device k₁ who := ⟨ha.runs, ha.device, ha.holds, ha.owners⟩
  obtain ⟨frees, k₂, who₂, destroyed, ha₂, vacant, -⟩ := ha₁.destroyAll (names_ids k.registry)
  obtain rfl := ha₂.nobody_runs vacant
  let k₃ : Kernel := { k₂ with running := none }
  have ha₃ : Accounts size device k₃ [] := ⟨ha₂.runs, ha₂.device, ha₂.holds, ha₂.owners⟩
  have registry : k₃.releaseDeviceRecord.registry = k₂.registry := by
    unfold releaseDeviceRecord
    split <;> rfl
  have running : k₃.releaseDeviceRecord.running = none := by
    unfold releaseDeviceRecord
    split <;> rfl
  have vacant : ∀ i, ¬ k₃.releaseDeviceRecord.registry.table.Live i := by
    rw [registry]
    exact vacant
  have after := ha₃.release
  obtain ⟨down, empty⟩ := after.down pos vacant
  refine ⟨?_, k₃.releaseDeviceRecord, ?_, after, running, down⟩
  · intro k' closed'
    rw [closed] at closed'
    cases closed'
    exact frees
  · unfold Kernel.shutdown
    rw [closed]
    simp only []
    rw [show k₁.destroyAll k₁.registry.ids = _ from destroyed]
    simp only []
    rw [if_pos]
    exact empty

end Kernel

end TrapKernel
