import TrapKernel.Proofs.Kernel.Events

/-!
# One process runs

The dispatcher notes which process runs, and the registry has it in the state of a running one. The
two agree between any two traps, whatever has happened to the kernel since it was booted. So nothing
is missing when a trap looks for the process that trapped, for the one that it chose, or for the
context of the code that booted the kernel, and the log of a trap shows no question to the registry
that is refused.
-/

namespace TrapKernel

/-- What is asked of the registry is not refused. -/
def Subcall.Granted : Subcall → Prop
  | .saveContext r id c => ∃ r', r.saveContext id c = .ok r'
  | .context r id => ∃ c, r.context id = .ok c
  | .parkBlocked r id => ∃ r', r.parkBlocked id = .ok r'
  | .requeueYielded r id => ∃ r', r.requeueYielded id = .ok r'
  | .destroy r m id => ∃ result, r.destroy m id = .ok result
  | .unlink .. | .link .. | .dequeue .. | .free .. => True

namespace Kernel

open Registry ProcessTable

variable {k k' : Kernel} {who : List ProcessId} {c : KernelConfig} {uart : Uart}

/-- Between two traps the noted process runs, and the kernel can return to where it was booted from.
This holds until the kernel is halted. -/
structure AtRest (k : Kernel) : Prop where
  runs : BetweenTraps (fun k who => k.registry.Runs who) k
  home : k.halted = none → k.running.isSome → k.bootContext.isSome

namespace AtRest

theorem runs_running (h : k.AtRest) (on : k.halted = none) : k.registry.Runs k.running.toList := by
  obtain ⟨who, -, running, runs⟩ := h.runs
  rw [running on] at runs
  exact runs

/-- What happens to the processes between traps leaves those that run alone. -/
theorem processes (h : k.AtRest) {r : Registry} {m : Memory} {d : Device}
    (keeps : ∀ who, k.registry.Runs who → r.Runs who) :
    AtRest { k with registry := r, memory := m, device := d } := by
  obtain ⟨who, one, running, runs⟩ := h.runs
  exact ⟨⟨who, one, running, keeps who runs⟩, h.home⟩

theorem homeAt_isSome (h : k.AtRest) (on : k.halted = none) (saved : Context) :
    (k.homeAt saved).isSome := by
  unfold homeAt
  split
  · rename_i trapped
    exact h.home on trapped
  · rfl

theorem dispatch (h : k.AtRest) (saved : Context) : (k.dispatch saved).2.AtRest := by
  refine ⟨trapInvariant_runs.dispatch h.runs saved, fun on' _ => ?_⟩
  obtain ⟨answer, done⟩ := dispatch_on h.runs_running on'
  have on := on_of_dispatch done
  obtain ⟨-, -, -, -, -, -, -, -, home, -⟩ := dispatch_cases on (h.runs_running on) done
  rw [home]
  exact h.homeAt_isSome on saved

theorem shutdown (h : k.AtRest) : k.shutdown.2.AtRest := by
  obtain ⟨who, -, -, runs⟩ := h.runs
  obtain ⟨runs', -, running, -, -⟩ := shutdown_vacant runs
  refine ⟨⟨[], Nat.zero_le 1, fun _ => ?_, runs'⟩, fun _ trapped => ?_⟩
  · rw [running]
    rfl
  · rw [running] at trapped
    cases trapped

theorem outcome {n : Note} (h : k.AtRest) (outcome : k.Outcome n k') : k'.AtRest := by
  cases outcome with
  | outside slot port shared shutdownRequested => exact ⟨h.runs, h.home⟩
  | moved moves =>
    exact h.processes fun who runs => runs.steadily fun order hs => (moves order hs).1
  | created done =>
    refine h.processes fun who runs => ?_
    obtain ⟨-, -, -, runs', -⟩ := runs.create done
    exact runs'
  | loaded done =>
    refine h.processes fun who runs => ?_
    obtain ⟨-, -, -, runs', -⟩ := runs.load done
    exact runs'
  | deleted done =>
    refine h.processes fun who runs => ?_
    obtain ⟨-, -, -, -, -, runs', -⟩ := runs.delete done
    exact runs'
  | trapped slot saved => exact dispatch (k := { k with slot }) ⟨h.runs, h.home⟩ saved
  | down => exact h.shutdown

theorem boot (booted : Kernel.boot c uart = .ok k) : k.AtRest := by
  obtain ⟨m, port, record, m₁, r, m₂, -, -, -, loaded, rfl⟩ := boot_eq booted
  have resumed : r.resumeAll.2.Runs [] :=
    (runs_loadAll loaded).steadily fun order hs => hs.resumeAll
  exact ⟨⟨[], Nat.zero_le 1, fun _ => rfl, resumed⟩, nofun⟩

theorem steps (booted : Kernel.boot c uart = .ok k) (events : List KernelEvent) :
    (events.foldl step k).AtRest := by
  induction events using List.reverseRecOn with
  | nil => exact boot booted
  | append_singleton events e ih =>
    rw [List.foldl_append]
    exact ih.outcome ((events.foldl step k).outcome e)

end AtRest

/-! ### What follows for a trap -/

/-- The noted process is the one that runs, and none runs if none is noted. -/
structure Single (k : Kernel) : Prop where
  runs : ∀ id, k.running = some id → ∃ p, k.registry.get id = some p ∧ p.state = .running
  only : ∀ id p, k.registry.get id = some p → p.state = .running → k.running = some id

/-- Nothing is missing that a trap looks for. -/
structure Smooth (k : Kernel) (saved : Context) : Prop where
  /-- The process that trapped can be saved, and parked after that. -/
  parks : ∀ id, k.running = some id →
    ∃ r, k.inside.registry.saveContext id saved = .ok r ∧ ∃ r', r.parkBlocked id = .ok r'
  /-- It can be ended, once its transfers were cancelled. -/
  ends : ∀ id, k.running = some id → ∃ result,
    (k.inside.cancelTransfers id).registry.destroy (k.inside.cancelTransfers id).memory id =
      .ok result
  /-- If it keeps the processor it can be put back, at once or after another one was taken. -/
  requeues : ∀ id k', k.enter saved = (.ok (some id), k') →
    (∃ r, k'.poll.registry.requeueYielded id = .ok r) ∧
      ∀ next r, k'.poll.registry.takeReadyHead = some (next, r) →
        ∃ r', r.requeueYielded id = .ok r'
  /-- The process that is chosen is still there: the first ready one, or the one that keeps the
  processor. -/
  resumes : ∀ kept k', k.enter saved = (.ok kept, k') →
    (∀ next r, k'.poll.registry.takeReadyHead = some (next, r) →
      ∃ c, (Kernel.requeue { k'.poll with registry := r } kept).registry.context next = .ok c) ∧
      ∀ id ∈ kept, ∃ c, k'.poll.registry.context id = .ok c
  /-- There is a context to return to. -/
  home : ∀ kept k', k.enter saved = (.ok kept, k') →
    ∃ c, (k'.poll.requeue kept).bootContext = some c

/-- If nothing is missing, whatever the trap asks of the registry is granted. -/
theorem Smooth.logged {saved : Context} (h : k.Smooth saved) :
    (Logged.dispatch k saved).All Subcall.Granted := by
  refine Logged.all_dispatch fun _ => ⟨Logged.all_enter fun id running => ?_, ?_⟩
  · obtain ⟨r, saved', parks⟩ := h.parks id running
    refine ⟨⟨r, saved'⟩, ?_, Logged.all_giveBackAll fun _ _ => trivial, ?_⟩
    · rw [save, saved']
      exact Logged.all_parkBlocked parks fun _ _ _ => trivial
    · exact Logged.all_destroy (h.ends id running) (fun _ _ => trivial) fun _ _ _ _ _ => trivial
  · intro kept k' entered
    obtain ⟨first, rest⟩ := h.resumes kept k' entered
    refine ⟨Logged.all_poll (fun _ _ => trivial) fun id _ => ?_, ?_, fun id member => ?_, ?_⟩
    · exact Logged.all_release fun _ _ _ _ => Logged.all_moveTo.mpr ⟨trivial, trivial⟩
    · exact Logged.all_takeReadyHead fun _ _ => trivial
    · obtain rfl := Option.mem_def.mp member
      obtain ⟨alone, behind⟩ := h.requeues id k' entered
      refine ⟨Logged.all_requeueYielded alone fun _ _ _ => trivial, fun next r taken => ?_⟩
      exact Logged.all_requeueYielded (behind next r taken) fun _ _ _ => trivial
    · exact ⟨first, rest⟩

namespace AtRest

theorem single (h : k.AtRest) (on : k.halted = none) : k.Single := by
  have runs := h.runs_running on
  refine ⟨fun id running => ?_, fun id p got state => ?_⟩
  · have member : id ∈ k.running.toList := Option.mem_toList.mpr running
    obtain ⟨i, resolved⟩ := runs.resolves id member
    obtain ⟨p, found, state⟩ := stateAt_eq_some.mp (runs.stateAt member resolved)
    exact ⟨p, Option.bind_eq_some_iff.mpr ⟨i, resolved, found⟩, state⟩
  · obtain ⟨i, resolved, found⟩ := Option.bind_eq_some_iff.mp got
    obtain ⟨id', member, resolved'⟩ := (runs.running i).mp (stateAt_eq_some.mpr ⟨p, found, state⟩)
    rw [resolve_injective resolved resolved']
    exact Option.mem_toList.mp member

theorem smooth (h : k.AtRest) (on : k.halted = none) (saved : Context) : k.Smooth saved := by
  have runs := h.runs_running on
  have trapped : ∀ id, k.running = some id → id ∈ k.running.toList := fun id running =>
    Option.mem_toList.mpr running
  have polled : ∀ {kept k'}, k.enter saved = (.ok kept, k') →
      k'.poll.registry.Runs kept.toList := fun entered =>
    trapInvariant_runs.poll (enter_cases on runs entered).2.1
  refine ⟨fun id running => ?_, fun id running => ?_, fun id k' entered => ?_,
    fun kept k' entered => ⟨fun next r taken => ?_, fun id member => ?_⟩, fun kept k' entered => ?_⟩
  · obtain ⟨r, done, runs'⟩ := runs.saveContext (trapped id running) saved
    obtain ⟨r', parked, -⟩ := runs'.parkBlocked (trapped id running)
    exact ⟨r, done, r', parked⟩
  · obtain ⟨r, m, done, -⟩ := runs.destroy (trapped id running) _
    exact ⟨(r, m), done⟩
  · have runs' := polled entered
    refine ⟨?_, fun next r taken => ?_⟩
    · obtain ⟨r, done, -⟩ := runs'.requeueYielded List.mem_cons_self
      exact ⟨r, done⟩
    · obtain ⟨runs'', -, -⟩ := runs'.takeReadyHead taken
      obtain ⟨r', done, -⟩ := runs''.requeueYielded (List.mem_cons_of_mem next List.mem_cons_self)
      exact ⟨r', done⟩
  · obtain ⟨runs', fresh, -⟩ := (polled entered).takeReadyHead taken
    cases kept with
    | none => exact runs'.context List.mem_cons_self
    | some id =>
      obtain ⟨r', requeued, runs'', -⟩ :=
        runs'.requeueYielded (List.mem_cons_of_mem next List.mem_cons_self)
      have other : next ≠ id := fun same => fresh (same ▸ List.mem_cons_self)
      rw [requeue_eq (k := { k'.poll with registry := r }) requeued]
      exact runs''.context ((List.mem_erase_of_ne other).mpr List.mem_cons_self)
  · exact (polled entered).context (Option.mem_toList.mpr member)
  · have home := (enter_cases on runs entered).2.2.2
    obtain ⟨r, eq, -⟩ := requeue_cases (polled entered) kept fun id member =>
      Option.mem_toList.mpr member
    rw [eq]
    apply Option.isSome_iff_exists.mp
    rw [show k'.poll.bootContext = k.homeAt saved from k'.poll_rearranged.2.trans home]
    exact h.homeAt_isSome on saved

end AtRest

/-- Whatever has happened to a kernel since it was booted, unless it was halted, the process that
the dispatcher noted is the only one that runs, and the next trap misses nothing: whatever it asks
of the registry is granted. -/
theorem single_steps (booted : boot c uart = .ok k) (events : List KernelEvent)
    (on : (events.foldl step k).halted = none) :
    let k' := events.foldl step k
    k'.Single ∧ ∀ saved, k'.Smooth saved ∧ (Logged.dispatch k' saved).value = k'.dispatch saved ∧
      ∀ c ∈ (Logged.dispatch k' saved).log, c.Granted := by
  intro k'
  have rests : k'.AtRest := AtRest.steps booted events
  refine ⟨rests.single on, fun saved => ?_⟩
  have smooth := rests.smooth on saved
  exact ⟨smooth, Logged.value_dispatch k' saved, smooth.logged⟩

/-- One of two processes waits for its transfer and the other one gives up the processor, while a
user types commands. The third one is about to give it up. -/
def turns : List KernelEvent :=
  [.call (.create "reader" .user 5), .call (.create "writer" .user 3), .call (.dispatch .zero),
    .call (.post ⟨Operation.read.code, .serial, some ⟨0⟩⟩), .call (.dispatch .zero),
    .shell (.suspend "reader"), .shell (.create "third" .user 7),
    .call (.syscall (.control .idle) .zero), .shell .resumeAll, .call (.post (.control .idle))]

/-- The trap saves the third process, takes the first ready one and puts the third one back: three
questions to the registry, and two changes of a queue. -/
theorem single_steps_turns :
    ∃ k, boot { processes := [] } (Uart.create com1 true) = .ok k ∧
      let k' := turns.foldl step k
      k'.runningName = some "third" ∧ (Logged.dispatch k' .zero).log.length = 5 ∧ k'.Single ∧
        k'.Smooth .zero ∧ ∀ c ∈ (Logged.dispatch k' .zero).log, c.Granted := by
  have ends : (boot { processes := [] } (Uart.create com1 true)).toOption.any (fun k =>
      let k' := turns.foldl step k
      k'.halted = none ∧ k'.runningName = some "third" ∧
        (Logged.dispatch k' .zero).log.length = 5) := by decide +kernel
  obtain ⟨k, booted, seen⟩ := ok_of_any ends
  obtain ⟨on, running, length⟩ := of_decide_eq_true seen
  obtain ⟨single, others⟩ := single_steps booted turns on
  obtain ⟨smooth, -, granted⟩ := others .zero
  exact ⟨k, booted, running, length, single, smooth, granted⟩

end Kernel

end TrapKernel
