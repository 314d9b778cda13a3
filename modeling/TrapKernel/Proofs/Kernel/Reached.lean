import TrapKernel.Proofs.Kernel.Single
import TrapKernel.Proofs.Process.Refinement

/-!
# What a kernel asks of its registry

A kernel changes its registry by calls, and it puts back only processes that run. So whatever has
happened to a kernel, its registry was reached by permitted calls and is as good as a roll.
-/

namespace TrapKernel

namespace Registry

variable {r r' : Registry} {α : Type} {who : List ProcessId} {id : ProcessId}

/-- The registry was reached by permitted calls. -/
inductive Reached : Registry → Prop where
  | start : Reached .empty
  | call {r : Registry} {α : Type} (h : Reached r) (c : Call α) (allowed : r.Allows c) :
      Reached (r.perform c).2

theorem permits_append {calls calls' : List AnyCall} (permitted : r.Permits calls)
    (permitted' : (r.after calls).Permits calls') : r.Permits (calls ++ calls') := by
  induction calls generalizing r with
  | nil => exact permitted'
  | cons c calls ih => exact ⟨permitted.1, ih permitted.2 permitted'⟩

/-- The calls by which it was reached. -/
theorem Reached.calls (h : r.Reached) : ∃ calls, empty.Permits calls ∧ empty.after calls = r := by
  induction h with
  | start => exact ⟨[], trivial, rfl⟩
  | @call r α h c allowed ih =>
    obtain ⟨calls, permitted, rfl⟩ := ih
    refine ⟨calls ++ [⟨α, c⟩], permits_append permitted ⟨allowed, trivial⟩, ?_⟩
    rw [after, List.foldl_append]
    rfl

/-- What was reached has a roll. -/
theorem Reached.refines (h : r.Reached) : ∃ m : Roll, m.InOrder ∧ r.Refines m := by
  obtain ⟨calls, permitted, rfl⟩ := h.calls
  have inOrder := Roll.inOrder_empty.after calls
  exact ⟨_, inOrder, (mirrors_empty.after calls permitted).refines inOrder⟩

theorem Reached.of_call (h : r.Reached) (c : Call α) (allowed : r.Allows c)
    (leaves : (r.perform c).2 = r') : r'.Reached := leaves ▸ h.call c allowed

theorem Reached.destroy {m m' : Memory} (h : r.Reached) (done : r.destroy m id = .ok (r', m')) :
    r'.Reached := h.of_call (.destroy m id) trivial (by rw [perform, done]; rfl)

theorem Runs.state (runs : r.Runs who) (member : id ∈ who) {p : Process}
    (got : r.get id = some p) : p.state = .running := by
  obtain ⟨i, resolved, found⟩ := Option.bind_eq_some_iff.mp got
  obtain ⟨p', found', running⟩ := stateAt_eq_some.mp (runs.stateAt member resolved)
  exact Option.some.inj (found.symm.trans found') ▸ running

end Registry

namespace Kernel

open Registry

variable {k : Kernel} {who : List ProcessId} {id : ProcessId} {c : KernelConfig} {uart : Uart}

/-- The processes of `who` run, and only processes that ran were ever put back. -/
structure Fair (k : Kernel) (who : List ProcessId) : Prop where
  runs : k.registry.Runs who
  reached : k.registry.Reached

/-! ### A trap -/

theorem reached_save (h : k.registry.Reached) (id : ProcessId) (c : Context) :
    (k.save id c).registry.Reached := by
  unfold save
  split
  · rename_i done
    exact h.of_call (.saveContext id c) trivial (by rw [perform, done]; rfl)
  · exact h

theorem reached_park (h : k.Fair who) (member : id ∈ who) : (k.park id).registry.Reached := by
  unfold park
  split
  · rename_i done
    have allowed : k.registry.Allows (.parkBlocked id) := fun p got => h.runs.state member got
    exact h.reached.of_call (.parkBlocked id) allowed (by rw [perform, done]; rfl)
  · exact h.reached

theorem reached_requeue (h : k.Fair who) (member : id ∈ who) :
    (k.requeue (some id)).registry.Reached := by
  simp only [requeue]
  split
  · rename_i done
    have allowed : k.registry.Allows (.requeueYielded id) := fun p got => h.runs.state member got
    exact h.reached.of_call (.requeueYielded id) allowed (by rw [perform, done]; rfl)
  · exact h.reached

theorem reached_exit (h : k.registry.Reached) (id : ProcessId) :
    (k.exit id).registry.Reached := by
  unfold exit
  simp only []
  split
  · rename_i done
    exact h.destroy done
  · exact h

theorem reached_startTransfer (h : k.Fair who) (member : id ∈ who) (direction : Direction)
    (device : DeviceId) (buffer : BufferId) (saved : Context) :
    (k.startTransfer id direction device buffer saved).2.registry.Reached := by
  have reached := reached_save h.reached id saved
  obtain ⟨r, eq, runs, -⟩ := save_spec h.runs id saved
  rw [eq] at reached
  unfold startTransfer
  rw [eq]
  simp only []
  split
  · exact reached_park ⟨runs, reached⟩ member
  · exact reached

theorem reached_enter (h : k.Fair k.running.toList) (saved : Context) :
    (k.enter saved).2.registry.Reached := by
  have ran := k.ask_process
  rw [enter_eq]
  cases asked : k.ask with
  | nothing => exact h.reached
  | invalid id fatal => exact h.reached
  | yields id => exact reached_save (k := k.inside) h.reached id saved
  | exits id => exact reached_exit (k := k.inside) h.reached id
  | transfers t =>
    rw [asked] at ran
    have member : t.owner ∈ k.running.toList := Option.mem_toList.mpr ran.symm
    exact reached_startTransfer (k := k.inside) ⟨h.runs, h.reached⟩ member _ _ _ saved

theorem reached_poll (h : k.registry.Reached) : k.poll.registry.Reached := by
  rcases k.poll_cases with ⟨-, eq⟩ | ⟨t, r, -, -, -, eq, ⟨b, done⟩ | ⟨-, same⟩⟩ <;> rw [eq]
  · exact h
  · exact h.of_call (.release t.owner) trivial (by rw [perform, done]; rfl)
  · exact same ▸ h

/-- The next process is taken first, and the one that kept the processor still runs when it is put
back. -/
theorem switchInvariant_fair : SwitchInvariant Fair where
  runs h := h.runs
  notes _ _ _ _ h := ⟨h.runs, h.reached⟩
  take {k who next r} h taken :=
    ⟨(h.runs.takeReadyHead taken).1,
      h.reached.of_call .takeReadyHead trivial (by rw [perform, taken])⟩
  requeue {k who id} h member := by
    have reached := reached_requeue h member
    obtain ⟨r, eq, runs, -⟩ := requeue_spec h.runs member
    rw [eq] at reached ⊢
    exact ⟨runs, reached⟩

theorem reached_dispatch (atRest : k.AtRest) (h : k.registry.Reached) (saved : Context) :
    (k.dispatch saved).2.registry.Reached := by
  unfold dispatch
  cases on : k.halted with
  | some fatal => exact h
  | none =>
    have runs := atRest.runs_running on
    have reached := reached_enter ⟨runs, h⟩ saved
    obtain ⟨result, k₁, entered, off, after⟩ := trapInvariant_runs.enter on runs saved
    rw [entered] at reached ⊢
    cases result with
    | error fatal => exact reached
    | ok kept =>
      have runs' : k₁.poll.registry.Runs kept.toList := trapInvariant_runs.poll after.2
      have fair : k₁.poll.Fair kept.toList := ⟨runs', reached_poll reached⟩
      have off' : k₁.poll.running = none := (notes_poll k₁).running.trans off
      obtain ⟨who, -, -, fair'⟩ := switchInvariant_fair.leave fair off' saved
      exact fair'.reached

/-! ### The other calls -/

theorem reached_destroyAll (h : k.registry.Reached) (ids : List ProcessId) :
    (k.destroyAll ids).2.registry.Reached := by
  induction ids generalizing k with
  | nil => exact h
  | cons id ids ih =>
    unfold destroyAll
    simp only []
    split
    · exact h
    · rename_i done
      exact ih (h.destroy done)

theorem reached_shutdown (h : k.registry.Reached) : k.shutdown.2.registry.Reached := by
  obtain ⟨port, closed⟩ := k.closePort_eq
  have destroyed := reached_destroyAll (k := { k with device.port := port }) h k.registry.ids
  unfold shutdown
  rw [closed]
  simp only []
  split
  · rename_i done
    rw [show Kernel.destroyAll _ _ = _ from done] at destroyed
    exact destroyed
  · rename_i k' done
    rw [show Kernel.destroyAll _ _ = _ from done] at destroyed
    obtain ⟨m, record, released⟩ := releaseDeviceRecord_eq { k' with running := none }
    rw [released]
    split <;> exact destroyed

theorem reached_call (atRest : k.AtRest) (h : k.registry.Reached) (call : KernelCall) :
    (k.call call).registry.Reached := by
  have update {ε α : Type} {result : Except ε α} {part : α → Kernel}
      (done : ∀ a, result = .ok a → (part a).registry.Reached) :
      (k.update result part).registry.Reached := by
    cases result with
    | error e => exact h
    | ok a => exact done a rfl
  cases call with
  | dispatch saved => exact reached_dispatch atRest h saved
  | syscall r saved =>
    simp only [Kernel.call, Kernel.syscall]
    cases left : k.request r with
    | error e => exact h
    | ok k' =>
      rw [request_ok left]
      exact reached_dispatch (k := k.post r) ⟨atRest.runs, atRest.home⟩ h saved
  | request r =>
    refine update fun k' done => ?_
    rw [request_ok done]
    exact h
  | post r => exact h
  | serviceInterrupts => exact h
  | create name owner priority =>
    refine update fun result done => ?_
    obtain ⟨id, r, m, created, rfl⟩ := create_ok done
    exact h.of_call (.create k.memory name owner priority) trivial (by rw [perform, created]; rfl)
  | load name owner priority entry =>
    refine update fun result done => ?_
    obtain ⟨id, r, m, loaded, rfl⟩ := load_ok done
    exact h.of_call (.load k.memory name owner priority entry) trivial
      (by rw [perform, loaded]; rfl)
  | delete name =>
    refine update fun result done => ?_
    obtain ⟨id, r, m, deleted, rfl⟩ := delete_ok done
    exact h.of_call (.delete k.memory name) trivial (by rw [perform, deleted]; rfl)
  | block name =>
    refine update fun result done => ?_
    obtain ⟨b, r, blocked, rfl⟩ := block_ok done
    exact h.of_call (.block name) trivial (by rw [perform, blocked]; rfl)
  | unblock name =>
    refine update fun result done => ?_
    obtain ⟨b, r, unblocked, rfl⟩ := unblock_ok done
    exact h.of_call (.unblock name) trivial (by rw [perform, unblocked]; rfl)
  | suspend name => exact h.call (.suspend name) trivial
  | resume name => exact h.call (.resume name) trivial
  | resumeAll => exact h.call .resumeAll trivial
  | setPriority name priority =>
    refine update fun result done => ?_
    obtain ⟨r, changed, rfl⟩ := setPriority_ok done
    exact h.of_call (.setPriority name priority) trivial (by rw [perform, changed]; rfl)
  | requestShutdown => exact h
  | shutdown => exact reached_shutdown h
  | outside shared uart => exact h

theorem reached_step (atRest : k.AtRest) (h : k.registry.Reached) (e : KernelEvent) :
    (k.step e).registry.Reached := by
  cases e with
  | call c => exact reached_call atRest h c
  | shell c =>
    rw [step]
    rcases k.shell_cases c with ⟨-, eq⟩ | eq <;> rw [eq]
    · exact h
    · exact reached_call atRest h c.call
  | driver port shared => exact h

theorem reached_boot (booted : boot c uart = .ok k) : k.registry.Reached := by
  obtain ⟨m, port, record, m₁, r, m₂, -, -, -, loaded, rfl⟩ := boot_eq booted
  have reached : r.Reached := by
    refine loadAll_keeps (P := fun r _ => r.Reached) ?_ .start loaded
    intro r r' m m' id name owner priority entry h loaded
    exact h.of_call (.load m name owner priority entry) trivial (by rw [perform, loaded]; rfl)
  exact reached.call .resumeAll trivial

/-- Whatever happens to a kernel after it was booted, only permitted calls reach its registry. -/
theorem reached_steps (booted : boot c uart = .ok k) (events : List KernelEvent) :
    (events.foldl step k).registry.Reached := by
  induction events using List.reverseRecOn with
  | nil => exact reached_boot booted
  | append_singleton events e ih =>
    rw [List.foldl_append]
    exact reached_step (AtRest.steps booted events) ih e

/-- So at any time its registry is a roll to everybody who asks it something. -/
theorem refines_steps (booted : boot c uart = .ok k) (events : List KernelEvent) :
    ∃ m : Roll, m.InOrder ∧ (events.foldl step k).registry.Refines m :=
  (reached_steps booted events).refines

end Kernel

end TrapKernel
