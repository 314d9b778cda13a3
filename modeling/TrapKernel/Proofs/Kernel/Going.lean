import TrapKernel.Proofs.Kernel.Clearing
import TrapKernel.Proofs.Process.Contending

/-!
# A kernel that keeps going

If every request passes its check before the trap, there is one reason only why a trap fails: the
process that trapped left the processor, no process is ready, and the kernel does not go home when
that happens. As long as the traps succeed the kernel can take another one, and can be shut down.
-/

namespace TrapKernel

namespace Kernel

open Registry

variable {k k' : Kernel} {c : KernelConfig} {uart : Uart} {saved context : Context} {r : Request}
  {kept : Option ProcessId} {id : ProcessId} {n : Note}

/-! ### The configuration is never changed -/

/-- The first half of a trap changes neither the configuration nor whether the kernel goes home. -/
theorem settings_enter (k : Kernel) (saved : Context) :
    (k.enter saved).2.config = k.config ∧
      (k.enter saved).2.shutdownRequested = k.shutdownRequested := by
  have same : ∀ {k' : Kernel}, k.inside.SameNotes k' →
      k'.config = k.config ∧ k'.shutdownRequested = k.shutdownRequested := fun notes =>
    ⟨notes.config, notes.shutdown⟩
  rw [enter_eq]
  cases k.ask with
  | nothing => exact ⟨rfl, rfl⟩
  | invalid id fatal => exact ⟨rfl, rfl⟩
  | yields id => exact same (notes_save k.inside id saved)
  | exits id => exact same (notes_exit k.inside id)
  | transfers t =>
    exact same (notes_startTransfer k.inside t.owner t.direction t.device t.buffer saved)

theorem config_switchTo (k : Kernel) (id : ProcessId) : (k.switchTo id).2.config = k.config := by
  unfold switchTo
  split <;> rfl

theorem config_leave (k : Kernel) (kept : Option ProcessId) (saved : Context) :
    (k.leave kept saved).2.config = k.config := by
  unfold leave
  split
  · exact (k.notes_requeue kept).config
  · split
    · rename_i next registry _
      rw [config_switchTo]
      exact (notes_requeue { k with registry } kept).config
    · split
      · exact config_switchTo k _
      · split <;> rfl

theorem config_dispatch (k : Kernel) (saved : Context) :
    (k.dispatch saved).2.config = k.config := by
  unfold dispatch
  split
  · rfl
  · have entered := (k.settings_enter saved).1
    split
    · rename_i eq
      rw [eq] at entered
      exact entered
    · rename_i kept k' eq
      rw [eq] at entered
      rw [config_leave]
      exact (notes_poll k').config.trans entered

theorem config_destroyAll (k : Kernel) (ids : List ProcessId) :
    (k.destroyAll ids).2.config = k.config := by
  induction ids generalizing k with
  | nil => rfl
  | cons id ids ih =>
    rw [destroyAll]
    cases (k.cancelTransfers id).registry.destroy (k.cancelTransfers id).memory id with
    | error e => rfl
    | ok result => exact ih _

theorem config_shutdown (k : Kernel) : k.shutdown.2.config = k.config := by
  obtain ⟨port, closed⟩ := k.closePort_eq
  have destroyed := config_destroyAll { k with device.port := port } k.registry.ids
  unfold shutdown
  rw [closed]
  simp only []
  split
  · rename_i eq
    rw [eq] at destroyed
    exact destroyed
  · rename_i k' eq
    rw [eq] at destroyed
    obtain ⟨memory, record, released⟩ := releaseDeviceRecord_eq { k' with running := none }
    split <;> exact (congrArg config released).trans destroyed

theorem config_outcome (outcome : k.Outcome n k') : k'.config = k.config := by
  cases outcome with
  | outside | moved | created | loaded | deleted => rfl
  | trapped slot saved => exact config_dispatch _ saved
  | down => exact k.config_shutdown

/-! ### What a trap answers -/

/-- A trap of a process, or of the code that booted the kernel, whose request makes sense. -/
def Sensible (k : Kernel) : Prop := ∀ id fatal, k.ask ≠ .invalid id fatal

/-- A request that passed its check makes sense. -/
theorem sensible_request (left : k.request r = .ok k') : k'.Sensible := by
  obtain ⟨o, valid, rest⟩ := ok_of_bind left
  cases rest
  unfold Request.validate at valid
  intro id fatal
  unfold ask
  cases (k.post r).running with
  | none => nofun
  | some id' =>
    simp only [post, RequestSlot.post]
    cases known : Operation.ofCode? r.code with
    | none =>
      rw [known] at valid
      cases valid
    | some o' =>
      have transfer : o'.isTransfer = true → ∃ buffer, r.buffer = some buffer := by
        intro moves
        cases buffer : r.buffer with
        | none =>
          rw [known] at valid
          simp only [moves, buffer, Request.checkBuffer, Option.map_none, if_true] at valid
          cases valid
        | some id => exact ⟨id, rfl⟩
      cases o' with
      | idle | exit => nofun
      | read | write =>
        obtain ⟨buffer, eq⟩ := transfer rfl
        simp only [ask.transfer, eq]
        intro invalid
        cases invalid

theorem enter_sensible (sensible : k.Sensible) (saved : Context) :
    ∃ kept k', k.enter saved = (.ok kept, k') := by
  rw [enter_eq]
  cases asked : k.ask with
  | nothing => exact ⟨_, _, rfl⟩
  | invalid id fatal => exact absurd asked (sensible id fatal)
  | yields id => exact ⟨_, _, rfl⟩
  | exits id => exact ⟨_, _, rfl⟩
  | transfers t => exact ⟨_, _, rfl⟩

/-- Nobody is left to run: the process that trapped does not keep the processor, and nobody is
ready. -/
structure Dry (k : Kernel) (saved : Context) : Prop where
  nobody : ∃ k', k.enter saved = (.ok none, k') ∧ k'.poll.registry.takeReadyHead = none
  stays : k.config.shutdownOnEmpty = false
  goes : k.shutdownRequested = false

/-- Somebody is resumed, or the kernel goes home, if anybody is left or it may go home. -/
theorem leave_answers
    (first : ∀ next registry, k.registry.takeReadyHead = some (next, registry) →
      ∃ context, (requeue { k with registry } kept).registry.context next = .ok context)
    (same : ∀ id ∈ kept, ∃ context, k.registry.context id = .ok context) (saved : Context) :
    (∃ context k', k.leave kept saved = (.ok context, k')) ∨
      (kept = none ∧ k.registry.takeReadyHead = none ∧ k.config.shutdownOnEmpty = false ∧
        k.shutdownRequested = false) ∧
        ∃ k', k.leave kept saved = (.error .emptyReadyQueue, k') := by
  unfold leave
  by_cases goes : k.shutdownRequested = true
  · rw [if_pos goes]
    exact Or.inl ⟨_, _, rfl⟩
  rw [if_neg goes]
  cases taken : k.registry.takeReadyHead with
  | some result =>
    obtain ⟨next, registry⟩ := result
    obtain ⟨context, found⟩ := first next registry taken
    simp only [switchTo, found]
    exact Or.inl ⟨_, _, rfl⟩
  | none =>
    cases kept with
    | some id =>
      obtain ⟨context, found⟩ := same id rfl
      simp only [switchTo, found]
      exact Or.inl ⟨_, _, rfl⟩
    | none =>
      by_cases home : k.config.shutdownOnEmpty = true
      · simp only [if_pos home]
        exact Or.inl ⟨_, _, rfl⟩
      · simp only [if_neg home]
        exact Or.inr ⟨⟨trivial, trivial, Bool.eq_false_iff.mpr home, Bool.eq_false_iff.mpr goes⟩,
          _, rfl⟩

/-- A trap that is told something sensible succeeds, or nobody is left to run. -/
theorem AtRest.dispatch_answers (h : k.AtRest) (on : k.halted = none) (sensible : k.Sensible)
    (saved : Context) :
    (∃ context k', k.dispatch saved = (.ok context, k')) ∨
      k.Dry saved ∧ ∃ k', k.dispatch saved = (.error .emptyReadyQueue, k') := by
  obtain ⟨kept, k₁, entered⟩ := enter_sensible sensible saved
  obtain ⟨first, same⟩ := (h.smooth on saved).resumes kept k₁ entered
  have dispatched : k.dispatch saved = k₁.poll.leave kept saved := by
    unfold Kernel.dispatch
    rw [on, entered]
  rw [dispatched]
  rcases leave_answers first same saved with done | ⟨⟨rfl, nobody, stays, goes⟩, failed⟩
  · exact Or.inl done
  · obtain ⟨config, shutdown⟩ := k.settings_enter saved
    rw [entered] at config shutdown
    have notes := notes_poll k₁
    rw [notes.config, config] at stays
    rw [notes.shutdown, shutdown] at goes
    exact Or.inr ⟨⟨⟨k₁, entered, nobody⟩, stays, goes⟩, failed⟩

/-- A process that gives up the processor keeps it if there is no other. -/
theorem not_dry_of_yields (asked : k.ask = .yields id) : ¬ k.Dry saved := by
  rintro ⟨⟨k', entered, -⟩, -⟩
  rw [enter_eq, asked] at entered
  cases entered

/-! ### Keeping going -/

/-- Who is resumed is not halted. -/
theorem halted_leave (left : k.leave kept saved = (.ok context, k')) : k'.halted = k.halted := by
  unfold leave at left
  split at left
  · cases left
    exact (k.notes_requeue kept).halted
  · split at left
    · rename_i next registry _
      obtain ⟨-, rfl⟩ := switchTo_ok left
      exact (notes_requeue { k with registry } kept).halted
    · split at left
      · obtain ⟨-, rfl⟩ := switchTo_ok left
        rfl
      · split at left
        · cases left
          rfl
        · cases left

theorem halted_dispatch (runs : k.registry.Runs k.running.toList)
    (done : k.dispatch saved = (.ok context, k')) : k'.halted = none := by
  have on := on_of_dispatch done
  obtain ⟨result, k₁, entered, -, after⟩ := trapInvariant_runs.enter on runs saved
  unfold dispatch at done
  rw [on, entered] at done
  cases result with
  | error fatal => cases done
  | ok kept => exact (halted_leave done).trans ((notes_poll k₁).halted.trans after.1)

/-- A kernel with this configuration can take the next trap, and it can be shut down. -/
structure Going (c : KernelConfig) (k : Kernel) : Prop where
  rest : k.AtRest
  on : k.halted = none
  clears : k.Clears
  config : k.config = c

namespace Going

theorem boot (booted : Kernel.boot c uart = .ok k) : k.Going c := by
  have rest := AtRest.boot booted
  have clears := Clears.boot booted
  obtain ⟨m, port, record, m₁, r, m₂, -, -, -, -, rfl⟩ := boot_eq booted
  exact ⟨rest, rfl, clears, rfl⟩

/-- A call that does not halt the kernel. -/
theorem call (h : k.Going c) (what : KernelCall) (on : (k.call what).halted = none) :
    (k.call what).Going c :=
  ⟨h.rest.outcome (Outcome.call k what), on, h.clears.call what,
    (config_outcome (Outcome.call k what)).trans h.config⟩

theorem load (h : k.Going c) {name : String} {owner : ProcessClass} {priority : Nat}
    {entry : UInt32} (done : k.load name owner priority entry = .ok (id, k')) : k'.Going c := by
  have after : k.call (.load name owner priority entry) = k' := by
    rw [Kernel.call, done]
    rfl
  obtain ⟨id', r, m, -, eq⟩ := load_ok done
  obtain ⟨-, rfl⟩ := Prod.mk.inj eq
  rw [← after]
  exact h.call _ (by rw [after]; exact h.on)

theorem resume (h : k.Going c) (name : String) : (k.resume name).2.Going c :=
  h.call (.resume name) h.on

/-- What the processes do with their buffers, and what happens on the line. -/
theorem outside (h : k.Going c) (shared : Shared) (uart : Uart) :
    Going c { k with shared, device.port := k.device.port.onUart fun _ => uart } :=
  h.call (.outside shared uart) h.on

theorem serviceInterrupts (h : k.Going c) : k.serviceInterrupts.2.Going c :=
  h.call .serviceInterrupts h.on

theorem requestShutdown (h : k.Going c) : k.requestShutdown.Going c :=
  h.call .requestShutdown h.on

theorem request (h : k.Going c) (left : k.request r = .ok k') : k'.Going c := by
  have after : k.call (.request r) = k' := by
    rw [Kernel.call, left]
    rfl
  rw [← after]
  refine h.call _ ?_
  rw [after, request_ok left]
  exact h.on

theorem dispatch (h : k.Going c) (done : k.dispatch saved = (.ok context, k')) : k'.Going c := by
  have after : k.call (.dispatch saved) = k' := by rw [Kernel.call, done]
  rw [← after]
  refine h.call _ ?_
  rw [after]
  exact halted_dispatch (h.rest.runs_running h.on) done

/-- A request that passes its check is answered, or nobody is left to run. -/
theorem syscall_answers (h : k.Going c) (left : k.request r = .ok k') (saved : Context) :
    (∃ context k'', k'.dispatch saved = (.ok context, k'') ∧ k''.Going c ∧
      k.syscall r saved = (.ok context, k'')) ∨
      k'.Dry saved ∧ ∃ k'', k.syscall r saved = (.error (.halted .emptyReadyQueue), k'') := by
  have going := h.request left
  unfold syscall
  rw [left]
  rcases going.rest.dispatch_answers going.on (sensible_request left) saved with
    ⟨context, k'', done⟩ | ⟨dry, k'', failed⟩
  · simp only [done]
    exact Or.inl ⟨context, k'', rfl, going.dispatch done, rfl⟩
  · simp only [failed]
    exact Or.inr ⟨dry, k'', rfl⟩

end Going

/-! ### A process that never waits -/

/-- If it is the process in this slot that traps, it gives up the processor. -/
def Yields (k : Kernel) (i : Nat) : Prop :=
  ∀ id ∈ k.running, k.registry.table.resolve id = some i → k.ask = .yields id

namespace Going

variable {i : Nat} {name : String} {k₁ : Kernel}

theorem contends_poll (contends : k.registry.Contends i name) :
    k.poll.registry.Contends i name := by
  rcases k.poll_cases with ⟨-, eq⟩ | ⟨t, r, -, -, -, eq, ⟨b, released⟩ | ⟨-, rfl⟩⟩ <;> rw [eq]
  · exact contends
  · exact contends.release released
  · exact contends

/-- A process that only gives up the processor contends for it all the time. -/
theorem contends_polled (h : k.Going c) (contends : k.registry.Contends i name)
    (yields : k.Yields i) (entered : k.enter saved = (.ok kept, k₁)) :
    k₁.poll.registry.Contends i name := by
  obtain ⟨half, -⟩ := enter_cases h.on (h.rest.runs_running h.on) entered
  refine contends_poll (contends.entered half ?_)
  rintro rfl id running resolved
  rw [enter_eq, yields id running resolved] at entered
  cases entered

theorem contends_dispatch (h : k.Going c) (contends : k.registry.Contends i name)
    (yields : k.Yields i) (done : k.dispatch saved = (.ok context, k')) :
    k'.registry.Contends i name := by
  have runs := h.rest.runs_running h.on
  unfold Kernel.dispatch at done
  rw [h.on] at done
  simp only [] at done
  cases entered : k.enter saved with
  | mk result k₁ =>
    rw [entered] at done
    cases result with
    | error fatal => cases done
    | ok kept =>
      obtain ⟨-, runs₁, off, -⟩ := enter_cases h.on runs entered
      have runs₂ : k₁.poll.registry.Runs kept.toList := trapInvariant_runs.poll runs₁
      obtain ⟨chosen, -⟩ := leave_cases runs₂ ((notes_poll k₁).running.trans off) done
      exact (h.contends_polled contends yields entered).chosen chosen

/-- So there is always somebody to run. -/
theorem not_dry (h : k.Going c) (contends : k.registry.Contends i name) (yields : k.Yields i) :
    ¬ k.Dry saved := by
  rintro ⟨⟨k₁, entered, nobody⟩, -⟩
  obtain ⟨-, runs₁, -⟩ := enter_cases h.on (h.rest.runs_running h.on) entered
  have runs₂ : k₁.poll.registry.Runs [] := trapInvariant_runs.poll runs₁
  exact (h.contends_polled contends yields entered).isSome_takeReadyHead runs₂ nobody

end Going

end Kernel

end TrapKernel
