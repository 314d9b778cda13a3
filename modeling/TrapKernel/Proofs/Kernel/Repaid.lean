import TrapKernel.Proofs.Kernel.Logged
import TrapKernel.Proofs.Kernel.Shutdown

/-!
# Whatever is given back is taken back

A memory that refuses what it is given back stays as it is, and nobody is told. `DispatchFrees`,
`RemovalFrees` and their like say what is given back, and that it can be. Here that is compared with
the logs: there is nothing else that is given back on the way, and the memory takes all of it.
-/

namespace TrapKernel

/-- What is given back was handed out. -/
def Subcall.Repaid : Subcall → Prop
  | .free m address => ∃ m', m.free address = .ok m'
  | .unlink .. | .link .. | .dequeue .. | .saveContext .. | .context .. | .parkBlocked ..
  | .requeueYielded .. | .destroy .. => True

namespace Logged

open Registry ProcessTable

variable {r : Registry} {order : Order} {m : Memory} {i : Nat} {id : ProcessId} {p : Process}
  {name : String} {priority : Nat} {owner : ProcessClass} {k : Kernel} {who ids : List ProcessId}

/-! ### Nothing is given back -/

theorem repaid_moveTo (r : Registry) (i : Nat) (state : ProcessState) :
    (moveTo r i state).All Subcall.Repaid := all_moveTo.mpr ⟨trivial, trivial⟩

theorem repaid_create : (create r m name owner priority).All Subcall.Repaid :=
  all_create fun _ _ _ => trivial

theorem repaid_load {entry : UInt32} : (load r m name owner priority entry).All Subcall.Repaid :=
  all_load repaid_create fun _ _ _ _ => repaid_moveTo _ _ _

theorem repaid_shiftByName {target : ProcessState → Option ProcessState} :
    (shiftByName r name target).All Subcall.Repaid :=
  all_shiftByName fun _ _ _ _ => repaid_moveTo _ _ _

theorem repaid_shiftKnown {target : ProcessState → Option ProcessState} :
    (shiftKnown r name target).All Subcall.Repaid :=
  all_shiftKnown fun _ _ _ _ => repaid_moveTo _ _ _

theorem repaid_release : (release r id).All Subcall.Repaid :=
  all_release fun _ _ _ _ => repaid_moveTo _ _ _

theorem repaid_drain {kind : QueueKind} {state : ProcessState} {most : Nat} :
    (drain r kind state most).All Subcall.Repaid := by
  induction most generalizing r with
  | zero => exact all_pure _
  | succ most ih =>
    unfold drain
    split
    · exact all_pure _
    · exact all_bind.mpr ⟨repaid_moveTo _ _ _, all_bind.mpr ⟨ih, all_pure _⟩⟩

theorem repaid_resumeAll : (resumeAll r).All Subcall.Repaid :=
  all_bind.mpr ⟨repaid_drain, all_bind.mpr ⟨repaid_drain, all_pure _⟩⟩

theorem repaid_setPriority : (setPriority r name priority).All Subcall.Repaid :=
  all_setPriority fun _ _ => ⟨trivial, fun _ _ => trivial⟩

theorem repaid_takeReadyHead : (takeReadyHead r).All Subcall.Repaid :=
  all_takeReadyHead fun _ _ => trivial

theorem repaid_requeueYielded : (requeueYielded r id).All Subcall.Repaid :=
  all_requeueYielded trivial fun _ _ _ => trivial

theorem repaid_parkBlocked : (parkBlocked r id).All Subcall.Repaid :=
  all_parkBlocked trivial fun _ _ _ => trivial

/-! ### What a process leaves behind -/

theorem repaid_giveBackAll {back : List Nat} (h : m.Frees back) :
    (giveBackAll m back).All Subcall.Repaid := by
  induction back generalizing m with
  | nil => exact all_pure _
  | cons address back ih =>
    obtain ⟨m', done, rest⟩ := h
    refine all_bind.mpr ⟨all_giveBack.mpr ⟨m', done⟩, ih ?_⟩
    rw [value_giveBack, Memory.release_eq done]
    exact rest

/-- The record that is given back is the one of the process. -/
theorem repaid_destroy (hs : r.Sound order) (resolved : r.table.resolve id = some i)
    (found : r.table.process? i = some p) (h : m.Frees [p.record]) :
    (destroy r m id).All Subcall.Repaid := by
  obtain ⟨detached, rewired, -⟩ := hs.unlink (live_iff.mpr ⟨p, found⟩)
  obtain ⟨t, removed, -⟩ := remove_spec detached.wellformed
    ((rewired.resolve id).trans resolved) ((rewired.process i).trans found)
  refine all_destroy trivial (fun _ _ => trivial) fun j process table resolved' removed' => ?_
  obtain rfl := Option.some.inj (resolved.symm.trans resolved')
  cases removed.symm.trans removed'
  obtain ⟨m', done, -⟩ := h
  exact ⟨m', done⟩

/-- A process that ends, or is removed while the kernel is shut down. -/
theorem repaid_removal (runs : k.registry.Runs who)
    (resolved : k.registry.table.resolve id = some i)
    (found : k.registry.table.process? i = some p)
    (h : k.memory.Frees (k.device.held id ++ [p.record])) :
    (giveBackAll k.memory (k.device.held id)).All Subcall.Repaid ∧
      (destroy k.registry (k.cancelTransfers id).memory id).All Subcall.Repaid := by
  obtain ⟨order, hs⟩ := runs.sound
  obtain ⟨held, record⟩ := Memory.frees_append.mp h
  refine ⟨repaid_giveBackAll held, repaid_destroy hs resolved found ?_⟩
  rw [Kernel.cancelTransfers_eq]
  exact record

/-- A process that is deleted. -/
theorem repaid_deleteProcess (runs : k.registry.Runs who)
    (h : ∀ i p, k.registry.table.position name = some i → k.registry.table.process? i = some p →
      p.state ≠ .running → k.memory.Frees (p.record :: k.device.held (k.registry.table.idAt i))) :
    (deleteProcess k name).All Subcall.Repaid := by
  obtain ⟨order, hs⟩ := runs.sound
  have removed : ∀ i p, k.registry.table.position name = some i →
      k.registry.table.process? i = some p → p.state ≠ .running →
        (destroy k.registry k.memory (k.registry.table.idAt i)).All Subcall.Repaid ∧
          (giveBackAll (k.memory.release p.record)
            (k.device.held (k.registry.table.idAt i))).All Subcall.Repaid := by
    intro i p named found idle
    have frees : k.memory.Frees ([p.record] ++ k.device.held (k.registry.table.idAt i)) :=
      h i p named found idle
    obtain ⟨record, held⟩ := Memory.frees_append.mp frees
    have resolved := resolve_idAt (live_iff.mpr ⟨p, found⟩)
    exact ⟨repaid_destroy hs resolved found record, repaid_giveBackAll held⟩
  refine all_bind.mpr ⟨all_delete fun i named idle => ?_, ?_⟩
  · obtain ⟨p, found, -⟩ := position_eq_some named
    exact (removed i p named found fun state => idle (stateAt_eq_some.mpr ⟨p, found, state⟩)).1
  rw [value_delete]
  cases deleted : k.registry.delete k.memory name with
  | error e => exact all_pure _
  | ok result =>
    obtain ⟨id, r, m⟩ := result
    obtain ⟨i, p, named, found, idle, rfl, destroyed⟩ := delete_ok deleted
    obtain ⟨r', destroyed', -⟩ := hs.destroy (resolve_idAt (live_iff.mpr ⟨p, found⟩)) found k.memory
    cases destroyed.symm.trans destroyed'
    refine all_bind.mpr ⟨all_cancelTransfers.mpr ?_, all_pure _⟩
    exact (removed i p (position_found named) found idle).2

/-! ### Shutting down -/

theorem repaid_destroyAll (runs : k.registry.Runs who) (names : k.registry.Names ids)
    (h : k.RemovalFrees ids) : (destroyAll k ids).All Subcall.Repaid := by
  induction ids generalizing k who with
  | nil => exact all_pure _
  | cons id ids ih =>
    obtain ⟨first, rest⟩ := h
    obtain ⟨i, resolved⟩ := names.resolves id List.mem_cons_self
    obtain ⟨p, found⟩ := live_iff.mp (resolve_eq_some.mp resolved).2.2
    obtain ⟨order, hs⟩ := runs.sound
    obtain ⟨r, destroyed, sound, gone⟩ := hs.destroy resolved found (k.cancelTransfers id).memory
    have frees := first p (Option.bind_eq_some_iff.mpr ⟨i, resolved, found⟩)
    obtain ⟨held, record⟩ := repaid_removal runs resolved found frees
    refine all_bind.mpr ⟨all_cancelTransfers.mpr held, ?_⟩
    rw [value_cancelTransfers]
    refine all_bind.mpr ⟨record, ?_⟩
    rw [value_destroy, show (k.cancelTransfers id).registry.destroy _ id = _ from destroyed]
    exact ih (runs.gone sound resolved gone) (names.gone resolved gone) (rest r _ destroyed)

end Logged

namespace Kernel

variable {k k' : Kernel} {who ids : List ProcessId}

/-- Once every process is gone the record of the device can be given back. -/
theorem RemovalFrees.device (h : k.RemovalFrees ids) (done : k.destroyAll ids = (.ok (), k')) :
    k'.memory.Frees k'.deviceRecord.toList := by
  induction ids generalizing k with
  | nil =>
    cases done
    exact h
  | cons id ids ih =>
    unfold destroyAll at done
    simp only [] at done
    split at done
    · cases done
    · rename_i registry memory destroyed
      exact ih (h.2 registry memory destroyed) done

/-- Whatever shutting down gives back is taken back. -/
theorem ShutdownFrees.logged (runs : k.registry.Runs who) (h : k.ShutdownFrees) :
    (Logged.shutdown k).All Subcall.Repaid := by
  obtain ⟨port, closed⟩ := k.closePort_eq
  have frees := h _ closed
  unfold Logged.shutdown
  rw [closed]
  refine Logged.all_bind.mpr ⟨?_, ?_⟩
  · exact Logged.repaid_destroyAll runs (Registry.names_ids k.registry) frees
  rw [Logged.value_destroyAll]
  split
  · exact Logged.all_pure _
  · rename_i k' destroyed
    refine Logged.all_bind.mpr ⟨?_, ?_⟩
    · have device := frees.device destroyed
      unfold Logged.releaseDeviceRecord
      split
      · exact Logged.all_pure _
      · rename_i record there
        rw [show k'.deviceRecord = some record from there] at device
        obtain ⟨m, done, -⟩ := device
        exact Logged.all_bind.mpr ⟨Logged.all_giveBack.mpr ⟨m, done⟩, Logged.all_pure _⟩
    · split <;> exact Logged.all_pure _

end Kernel

end TrapKernel
