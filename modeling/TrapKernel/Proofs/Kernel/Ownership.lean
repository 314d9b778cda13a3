import TrapKernel.Proofs.Device.Transfers
import TrapKernel.Proofs.Kernel.Trap
import TrapKernel.Proofs.Memory.Holds
import TrapKernel.Proofs.Process.Records

/-!
# Who owns the records

The blocks of the heap that are in use belong to the device, to the processes and to the transfers
that wait. `Kernel.Accounts` says that these are all of them, each once, and that a transfer waits
only for a process that is there. Every step that takes a record away from its owner gives it back.
-/

namespace TrapKernel

namespace Kernel

open Registry ProcessTable

variable {k k' : Kernel} {who who' : List ProcessId} {id : ProcessId} {i size : Nat} {p : Process}
  {device : Option Nat} {r : Registry}

/-- The records that the device, the processes and the waiting transfers have. -/
def owned (k : Kernel) : List Nat :=
  k.deviceRecord.toList ++ (k.registry.records ++ k.device.records)

theorem cancelTransfers_eq (k : Kernel) (id : ProcessId) : k.cancelTransfers id = { k with
    device := (k.device.cancel k.memory id).2.1
    memory := (k.device.held id).foldl Memory.release k.memory } := by
  rw [← Device.memory_cancel]
  rfl

/-- The processes of `who` run, `device` is the record of the device, the records are the blocks of
the heap that are in use, and every transfer that waits is one of a process that is there. -/
structure Accounts (size : Nat) (device : Option Nat) (k : Kernel) (who : List ProcessId) :
    Prop where
  runs : k.registry.Runs who
  device : k.deviceRecord = device
  holds : k.memory.Holds size k.owned
  owners : ∀ w ∈ k.device.waiting, ∃ i, k.registry.table.resolve w.transfer.owner = some i

namespace Accounts

/-- Processes may change as long as they keep their records. -/
theorem same (ha : Accounts size device k who) (runs : r.Runs who')
    (same : k.registry.SameRecords r) : Accounts size device { k with registry := r } who' := by
  refine ⟨runs, ha.device, ?_, ?_⟩
  · have holds := ha.holds
    rw [owned, ← same.records_eq] at holds
    exact holds
  · intro w waits
    rw [same.slots.resolve]
    exact ha.owners w waits

/-- A new process takes a record from the heap. -/
theorem arrived {m : Memory} {record : Nat} (ha : Accounts size device k who) (runs : r.Runs who')
    (allocated : k.memory.allocate recordSize = .ok (record, m))
    (arrived : k.registry.Arrived r i record) :
    Accounts size device { k with registry := r, memory := m } who' := by
  refine ⟨runs, ha.device, ?_, ?_⟩
  · refine (ha.holds.allocate allocated).perm ?_
    rw [List.perm_iff_count]
    intro a
    have records := arrived.records_perm.count_eq a
    simp only [owned, List.count_append, List.count_cons] at records ⊢
    omega
  · intro w waits
    obtain ⟨j, resolved⟩ := ha.owners w waits
    exact ⟨j, arrived.resolve resolved⟩

/-- A process that goes gives back its record and those of its transfers that wait, in any order. -/
theorem gone {back : List Nat} (ha : Accounts size device k who)
    (resolved : k.registry.table.resolve id = some i) (found : k.registry.table.process? i = some p)
    (runs : r.Runs who') (gone : k.registry.Gone r i)
    (all : back.Perm (p.record :: k.device.held id)) :
    k.memory.Frees back ∧ Accounts size device { k.cancelTransfers id with
      registry := r, memory := back.foldl Memory.release k.memory } who' := by
  have split : k.owned.Perm (back ++ owned { k.cancelTransfers id with registry := r }) := by
    rw [List.perm_iff_count]
    intro a
    have records := (gone.records_perm found).count_eq a
    have transfers := (k.device.records_perm k.memory id).count_eq a
    have all := all.count_eq a
    simp only [owned, cancelTransfers_eq, List.count_append, List.count_cons] at *
    omega
  obtain ⟨frees, holds⟩ := ha.holds.frees split
  refine ⟨frees, runs, ha.device, holds, ?_⟩
  intro w waits
  rw [cancelTransfers_eq] at waits
  rw [Device.waiting_cancel] at waits
  obtain ⟨waits, other⟩ := List.mem_filter.mp waits
  obtain ⟨j, owner⟩ := ha.owners w waits
  refine ⟨j, (gone.resolve ?_).mpr owner⟩
  rintro rfl
  have same := resolve_injective owner resolved
  exact of_decide_eq_true other same

/-- What a process leaves behind can be given back, in any order. -/
theorem frees_process {back : List Nat} (ha : Accounts size device k who)
    (resolved : k.registry.table.resolve id = some i) (found : k.registry.table.process? i = some p)
    (all : back.Perm (p.record :: k.device.held id)) : k.memory.Frees back := by
  obtain ⟨order, hs⟩ := ha.runs.sound
  obtain ⟨r, -, sound, gone⟩ := hs.destroy resolved found k.memory
  exact (ha.gone resolved found (ha.runs.gone sound resolved gone) gone all).1

/-- A transfer that has to wait takes a record from the heap. -/
theorem submit {t : Transfer} {how : Submitted} {d : Device} {s : Shared} {m : Memory}
    (ha : Accounts size device k who)
    (owner : ∃ i, k.registry.table.resolve t.owner = some i)
    (done : k.device.submit k.shared k.memory t = .ok (how, d, s, m)) :
    Accounts size device { k with device := d, shared := s, memory := m } who := by
  rcases Device.submit_cases done with ⟨waiting, rfl⟩ | ⟨record, allocated, waiting⟩
  · refine ⟨ha.runs, ha.device, ?_, ?_⟩
    · have holds := ha.holds
      rw [owned, Device.records, ← waiting] at holds
      exact holds
    · rw [waiting]
      exact ha.owners
  · refine ⟨ha.runs, ha.device, ?_, ?_⟩
    · refine (ha.holds.allocate allocated).perm ?_
      simp only [owned, Device.records, waiting, List.map_append, List.map_cons, List.map_nil]
      rw [List.perm_iff_count]
      intro a
      simp only [List.count_append, List.count_cons, List.count_nil]
      omega
    · rw [waiting]
      intro w waits
      rcases List.mem_append.mp waits with waits | new
      · exact ha.owners w waits
      · rw [List.mem_singleton.mp new]
        exact owner

/-- The record of the transfer that is started next can be given back. -/
theorem frees_first (ha : Accounts size device k who) :
    k.memory.Frees (k.device.records.take 1) := by
  have split : k.owned.Perm (k.device.records.take 1 ++
      (k.deviceRecord.toList ++ (k.registry.records ++ k.device.records.drop 1))) := by
    rw [owned, List.perm_iff_count]
    intro a
    have parts := congrArg (List.count a) (List.take_append_drop 1 k.device.records)
    simp only [List.count_append] at parts ⊢
    omega
  exact (ha.holds.frees split).1

theorem complete (ha : Accounts size device k who) : Accounts size device { k with
    device := (k.device.checkCompletion k.shared k.memory).2.1
    shared := (k.device.checkCompletion k.shared k.memory).2.2.1
    memory := (k.device.checkCompletion k.shared k.memory).2.2.2 } who := by
  have holds := ha.holds
  rcases k.device.waiting_checkCompletion k.shared k.memory with ⟨waiting, memory⟩ |
    ⟨next, rest, before, waiting, memory⟩
  · refine ⟨ha.runs, ha.device, ?_, ?_⟩
    · rw [owned, Device.records, ← waiting] at holds
      rw [memory]
      exact holds
    · rw [waiting]
      exact ha.owners
  · have split : k.owned.Perm ([next.record] ++
        (k.deviceRecord.toList ++ (k.registry.records ++ rest.map (·.record)))) := by
      rw [owned, Device.records, before, List.perm_iff_count]
      intro a
      simp only [List.count_append, List.map_cons, List.count_cons, List.count_nil]
      omega
    refine ⟨ha.runs, ha.device, ?_, ?_⟩
    · rw [memory]
      simp only [owned, Device.records, waiting]
      exact (holds.frees split).2
    · rw [waiting]
      intro w waits
      apply ha.owners w
      rw [before]
      exact List.mem_cons_of_mem next waits

end Accounts

/-! ### A trap -/

theorem trapInvariant_accounts (size : Nat) (device : Option Nat) :
    TrapInvariant (Accounts size device) where
  runs := Accounts.runs
  notes := fun _ _ _ _ _ _ ha => ⟨ha.runs, ha.device, ha.holds, ha.owners⟩
  registry := Accounts.same
  accept := Accounts.submit
  complete := Accounts.complete
  exit := by
    intro k who id ha member
    obtain ⟨i, p, r, resolved, found, eq, runs, gone⟩ := exit_spec ha.runs member
    have all : (k.device.held id ++ [p.record]).Perm (p.record :: k.device.held id) :=
      List.perm_append_comm
    have after := (ha.gone resolved found runs gone all).2
    rw [List.foldl_append, cancelTransfers_eq] at after
    rw [eq, cancelTransfers_eq]
    exact after

end Kernel

end TrapKernel
