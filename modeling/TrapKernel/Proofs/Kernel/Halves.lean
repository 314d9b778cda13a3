import TrapKernel.Proofs.Kernel.Asking
import TrapKernel.Proofs.Kernel.Scheduling
import TrapKernel.Proofs.Process.Places

/-!
# The two halves of a trap

What a trap that succeeds does to the processes. In its first half the process that trapped is saved
and keeps the processor, or waits for its transfer, or ends. Then the device may release a process.
In its second half the first ready process is taken and the one that kept the processor is put back,
or goes on if it is alone. Every invariant that tells the processes apart by what they do is proved
from these few cases.
-/

namespace TrapKernel

namespace Kernel

open Registry ProcessTable

variable {k k' : Kernel} {who : List ProcessId} {id : ProcessId} {kept : Option ProcessId}
  {saved c : Context} {r : Registry}

/-! ### The steps that cannot fail -/

theorem save_eq (done : k.registry.saveContext id saved = .ok r) :
    k.save id saved = { k with registry := r } := by
  rw [save, done]

theorem park_eq (done : k.registry.parkBlocked id = .ok r) :
    k.park id = { k with registry := r } := by
  rw [park, done]

theorem requeue_eq (done : k.registry.requeueYielded id = .ok r) :
    k.requeue (some id) = { k with registry := r } := by
  simp only [requeue, done]

/-- Putting a process back writes only the registry. -/
theorem requeue_cases (runs : k.registry.Runs who) (kept : Option ProcessId)
    (member : ∀ id ∈ kept, id ∈ who) :
    ∃ r, k.requeue kept = { k with registry := r } ∧ k.registry.Requeued kept r := by
  cases kept with
  | none => exact ⟨k.registry, rfl, .nobody⟩
  | some id =>
    obtain ⟨r, done, -⟩ := runs.requeueYielded (member id rfl)
    exact ⟨r, requeue_eq done, .back done⟩

/-! ### The first half -/

/-- The context to return to, once the code whose context is `saved` has trapped. -/
def homeAt (k : Kernel) (saved : Context) : Option Context :=
  if k.running.isSome then k.bootContext else some saved

theorem startTransfer_cases (runs : k.registry.Runs who) (member : id ∈ who)
    (direction : Direction) (device : DeviceId) (buffer : BufferId) (saved : Context) :
    ∃ kept k', k.startTransfer id direction device buffer saved = (kept, k') ∧
      k'.bootContext = k.bootContext ∧ Entered saved k.registry (some id) kept k'.registry := by
  obtain ⟨r, done, runs⟩ := runs.saveContext member saved
  unfold startTransfer
  rw [save_eq done]
  simp only []
  cases k.device.submit k.shared k.memory ⟨direction, device, buffer, id⟩ with
  | error e => exact ⟨some id, _, rfl, rfl, .keeps done⟩
  | ok result =>
    obtain ⟨how, d, s, m⟩ := result
    obtain ⟨r', parked, -⟩ := runs.parkBlocked member
    let accepted : Kernel := { k with registry := r, device := d, shared := s, memory := m }
    have eq := park_eq (k := accepted) parked
    refine ⟨none, _, rfl, ?_, ?_⟩
    · rw [show Kernel.park _ id = _ from eq]
    · rw [show Kernel.park _ id = _ from eq]
      exact .parks done parked

theorem enter_cases (on : k.halted = none) (runs : k.registry.Runs k.running.toList)
    (entered : k.enter saved = (.ok kept, k')) :
    Entered saved k.registry k.running kept k'.registry ∧ k'.registry.Runs kept.toList ∧
      k'.running = none ∧ k'.bootContext = k.homeAt saved := by
  obtain ⟨result, k₁, entered', off, after⟩ := trapInvariant_runs.enter on runs saved
  rw [entered] at entered'
  cases entered'
  have ran := k.ask_process
  have trapped : ∀ id, k.running = some id → id ∈ k.running.toList := by
    intro id running
    rw [running]
    exact List.mem_cons_self
  rw [enter_eq] at entered
  cases asked : k.ask with
  | nothing =>
    rw [asked] at entered ran
    cases entered
    rw [← ran, homeAt, ← ran]
    exact ⟨.nobody, after.2, rfl, rfl⟩
  | invalid id fatal =>
    rw [asked] at entered
    cases entered
  | yields id =>
    rw [asked] at entered ran
    obtain ⟨r, done, -⟩ := runs.saveContext (trapped id ran.symm) saved
    have eq := save_eq (k := k.inside) done
    simp only [eq] at entered
    cases entered
    rw [← ran, homeAt, ← ran]
    exact ⟨.keeps done, after.2, rfl, rfl⟩
  | exits id =>
    rw [asked] at entered ran
    obtain ⟨r, m, done, -⟩ :=
      runs.destroy (trapped id ran.symm) (k.inside.cancelTransfers id).memory
    have eq : k.inside.exit id =
        { k.inside.cancelTransfers id with registry := r, memory := m } := by
      unfold exit
      simp only []
      rw [show Registry.destroy (k.inside.cancelTransfers id).registry _ id = _ from done]
    simp only [eq] at entered
    cases entered
    rw [← ran, homeAt, ← ran]
    exact ⟨.ends done, after.2, rfl, rfl⟩
  | transfers t =>
    rw [asked] at entered ran
    obtain ⟨kept₁, k₁, started, home, cases⟩ :=
      startTransfer_cases (k := k.inside) runs (trapped _ ran.symm) t.direction t.device t.buffer
        saved
    simp only [started] at entered
    cases entered
    rw [← ran, homeAt, ← ran]
    exact ⟨cases, after.2, off, home⟩

/-! ### In between -/

theorem poll_rearranged (k : Kernel) :
    k.registry.Rearranged k.poll.registry ∧ k.poll.bootContext = k.bootContext := by
  rcases k.poll_cases with ⟨-, eq⟩ | ⟨t, r, -, -, -, eq, released⟩
  · rw [eq]
    exact ⟨Rearranged.refl _, rfl⟩
  · rw [eq]
    refine ⟨?_, rfl⟩
    rcases released with ⟨b, done⟩ | ⟨-, rfl⟩
    · exact Rearranged.release done
    · exact Rearranged.refl _

/-! ### The second half -/

theorem switchTo_ok (done : k.switchTo id = (.ok c, k')) :
    k.registry.context id = .ok c ∧
      k' = { k with running := some id, switches := k.switches + 1 } := by
  unfold switchTo at done
  split at done
  · rename_i context
    cases done
    exact ⟨context, rfl⟩
  · cases done

/-- What is resumed: the process that runs now, or the code at home if none does. -/
def Resumes (k : Kernel) (home : Context) (c : Context) : Prop :=
  match k.running with
  | none => c = home
  | some id => k.registry.context id = .ok c

theorem resumes_home (off : k.running = none) (home : Context) : k.Resumes home home := by
  rw [Resumes, off]

theorem leave_cases (runs : k.registry.Runs kept.toList) (off : k.running = none)
    (left : k.leave kept saved = (.ok c, k')) :
    Chosen k.registry kept k'.running k'.registry ∧ k'.bootContext = k.bootContext ∧
      k'.Resumes (k.home saved) c := by
  have kept_mem : ∀ id ∈ kept, id ∈ kept.toList := fun id member => Option.mem_toList.mpr member
  have home : ∀ r, k.registry.Requeued kept r → k.registry.Chosen kept k.running r := by
    intro r requeued
    rw [off]
    exact .home requeued
  unfold leave at left
  split at left
  · obtain ⟨r, eq, requeued⟩ := requeue_cases runs kept kept_mem
    rw [eq] at left
    cases left
    exact ⟨home r requeued, rfl, resumes_home (k := { k with registry := r }) off _⟩
  · cases taken : k.registry.takeReadyHead with
    | some result =>
      obtain ⟨next, r₁⟩ := result
      obtain ⟨runs₁, -, -⟩ := runs.takeReadyHead taken
      obtain ⟨r, eq, requeued⟩ := requeue_cases (k := { k with registry := r₁ }) runs₁ kept
        fun id member => List.mem_cons_of_mem next (kept_mem id member)
      simp only [taken, eq] at left
      obtain ⟨context, rfl⟩ := switchTo_ok left
      exact ⟨.next taken requeued, rfl, context⟩
    | none =>
      simp only [taken] at left
      cases kept with
      | some id =>
        obtain ⟨context, rfl⟩ := switchTo_ok left
        exact ⟨.alone rfl taken, rfl, context⟩
      | none =>
        simp only [] at left
        split at left
        · cases left
          exact ⟨home _ .nobody, rfl, resumes_home off _⟩
        · cases left

theorem leave_error {fatal : Fatal} (left : k.leave kept saved = (.error fatal, k')) :
    k'.halted = some fatal := by
  have switch : ∀ {k : Kernel} {id}, k.switchTo id = (.error fatal, k') →
      k'.halted = some fatal := by
    intro k id switched
    unfold switchTo at switched
    split at switched
    · cases switched
    · cases switched
      rfl
  unfold leave at left
  split at left
  · cases left
  · split at left
    · exact switch left
    · split at left
      · exact switch left
      · split at left
        · cases left
        · cases left
          rfl

/-! ### Both halves -/

/-- A trap that succeeds goes through both halves. -/
theorem dispatch_cases (on : k.halted = none) (runs : k.registry.Runs k.running.toList)
    (done : k.dispatch saved = (.ok c, k')) :
    ∃ kept r₁ r₂, Entered saved k.registry k.running kept r₁ ∧ r₁.Rearranged r₂ ∧
      Chosen r₂ kept k'.running k'.registry ∧ r₁.Runs kept.toList ∧ r₂.Runs kept.toList ∧
      k'.bootContext = k.homeAt saved ∧ k'.Resumes ((k.homeAt saved).getD saved) c := by
  unfold dispatch at done
  rw [on] at done
  simp only [] at done
  cases entered : k.enter saved with
  | mk result k₁ =>
    cases result with
    | error fatal =>
      rw [entered] at done
      cases done
    | ok kept =>
      rw [entered] at done
      obtain ⟨cases₁, runs₁, off, home⟩ := enter_cases on runs entered
      obtain ⟨rearranged, sameHome⟩ := k₁.poll_rearranged
      have runs₂ : k₁.poll.registry.Runs kept.toList := trapInvariant_runs.poll runs₁
      have off₂ : k₁.poll.running = none := (notes_poll k₁).running.trans off
      obtain ⟨chosen, sameHome', resumes⟩ := leave_cases runs₂ off₂ done
      have home₂ : k₁.poll.bootContext = k.homeAt saved := sameHome.trans home
      refine ⟨kept, _, _, cases₁, rearranged, chosen, runs₁, runs₂, sameHome'.trans home₂, ?_⟩
      rw [Kernel.home, home₂] at resumes
      exact resumes

/-- A trap that fails halts the kernel. -/
theorem dispatch_error {fatal : Fatal} (on : k.halted = none)
    (runs : k.registry.Runs k.running.toList) (done : k.dispatch saved = (.error fatal, k')) :
    k'.halted = some fatal := by
  obtain ⟨result, k₁, entered, -, after⟩ := trapInvariant_runs.enter on runs saved
  unfold dispatch at done
  rw [on, entered] at done
  cases result with
  | error fatal' =>
    cases done
    exact after.1
  | ok kept => exact leave_error done

/-- A kernel that was halted answers no trap. -/
theorem on_of_dispatch (done : k.dispatch saved = (.ok c, k')) : k.halted = none := by
  cases on : k.halted with
  | none => rfl
  | some fatal =>
    unfold dispatch at done
    rw [on] at done
    cases done

/-- If the kernel is not halted after a trap, the trap succeeded. -/
theorem dispatch_on (runs : k.halted = none → k.registry.Runs k.running.toList)
    (on' : (k.dispatch saved).2.halted = none) :
    ∃ answer, k.dispatch saved = (.ok answer, (k.dispatch saved).2) := by
  cases done : k.dispatch saved with
  | mk result k' =>
    rw [done] at on'
    cases result with
    | ok answer => exact ⟨answer, rfl⟩
    | error fatal =>
      cases on : k.halted with
      | none =>
        rw [dispatch_error on (runs on) done] at on'
        cases on'
      | some fatal' =>
        unfold dispatch at done
        rw [on] at done
        cases done
        rw [on] at on'
        cases on'

end Kernel

end TrapKernel
