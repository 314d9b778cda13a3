import TrapKernel.Proofs.Kernel.Reached
import TrapKernel.Proofs.Process.Ease

/-!
# The current round

A trap takes at most one of the ready processes, so it starts at most one new round. A process that
is ready waits for the current round or for the next one, a process that runs took its turn in the
current round, and all others have no round. This holds in every state of a kernel, whether it was
halted or not.
-/

namespace TrapKernel

open Registry ProcessTable

/-- Whatever a registry was asked, only processes that are ready or run have a round. -/
theorem Registry.Reached.eased {r : Registry} (h : r.Reached) :
    r.Eased ∧ r.table.Wellformed := by
  induction h with
  | start => exact ⟨nofun, sound_empty.wellformed⟩
  | @call r α _ c _ ih =>
    obtain ⟨eased, wf⟩ := ih
    refine ⟨?_, (effect_perform wf c).wellformed wf⟩
    by_cases takes : (⟨α, c⟩ : AnyCall) = ⟨_, .takeReadyHead⟩
    · cases takes
      rw [perform]
      cases taken : r.takeReadyHead with
      | none => exact eased
      | some result => exact eased.takeReadyHead taken
    · exact (Continues.perform wf ⟨α, c⟩ takes).eased eased

namespace Kernel

variable {k k' k₁ : Kernel} {kept : Option ProcessId} {saved : Context} {e : KernelEvent} {n : Note}
  {c : KernelConfig} {uart : Uart}

/-! ### Traps -/

/-- The first of the ready processes, and the registry after it was taken, if the second half of a
trap takes it. -/
def pick (k : Kernel) : Option (ProcessId × Registry) :=
  if k.shutdownRequested then none else k.registry.takeReadyHead

/-- What a trap takes from the ready processes. -/
def selecting (k : Kernel) (saved : Context) : Option (ProcessId × Registry) :=
  match k.halted, k.enter saved with
  | none, (.ok _, k₁) => k₁.poll.pick
  | _, _ => none

/-- What an event takes from the ready processes. -/
def taking (k : Kernel) (e : KernelEvent) : Option (ProcessId × Registry) :=
  (k.trapping e).bind fun t => t.1.selecting t.2

/-- The round that is current after the process was taken, or is still current if none was. -/
def roundAfter (k : Kernel) : Option (ProcessId × Registry) → Nat
  | none => k.registry.round
  | some (_, r) => r.round

theorem registry_switchTo (k : Kernel) (id : ProcessId) :
    (k.switchTo id).2.registry = k.registry := by
  unfold switchTo
  split <;> rfl

/-- A trap that finds no proper request leaves the processes alone. -/
theorem registry_enter_error {fatal : Fatal} (entered : k.enter saved = (.error fatal, k')) :
    k'.registry = k.registry := by
  rw [enter_eq] at entered
  cases asked : k.ask with
  | invalid id fatal =>
    rw [asked] at entered
    cases entered
    rfl
  | nothing | yields | exits | transfers =>
    rw [asked] at entered
    cases entered

/-- The second half of a trap, whether it succeeds or halts the kernel. -/
theorem registry_leave (runs : k.registry.Runs kept.toList) (saved : Context) :
    (∃ next, k.registry.Chosen kept next (k.leave kept saved).2.registry) ∧
      (k.leave kept saved).2.registry.round = k.roundAfter k.pick := by
  have kept_mem : ∀ id ∈ kept, id ∈ kept.toList := fun id member => Option.mem_toList.mpr member
  unfold leave pick
  by_cases stops : k.shutdownRequested = true
  · obtain ⟨r, eq, requeued⟩ := requeue_cases runs kept kept_mem
    simp only [if_pos stops, eq]
    exact ⟨⟨none, .home requeued⟩, requeued.round⟩
  · simp only [if_neg stops]
    cases taken : k.registry.takeReadyHead with
    | some result =>
      obtain ⟨next, r₁⟩ := result
      obtain ⟨runs₁, -, -⟩ := runs.takeReadyHead taken
      obtain ⟨r, eq, requeued⟩ := requeue_cases (k := { k with registry := r₁ }) runs₁ kept
        fun id member => List.mem_cons_of_mem next (kept_mem id member)
      simp only [eq, registry_switchTo]
      exact ⟨⟨some next, .next taken requeued⟩, requeued.round⟩
    | none =>
      cases kept with
      | some id =>
        simp only [registry_switchTo]
        exact ⟨⟨some id, .alone rfl taken⟩, rfl⟩
      | none =>
        simp only []
        split <;> exact ⟨⟨none, .home .nobody⟩, rfl⟩

/-- A trap leaves the processes alone, or it goes through both halves. -/
theorem dispatch_halves (rest : k.AtRest) (saved : Context) :
    (k.dispatch saved).2.registry = k.registry ∧ k.selecting saved = none ∨
      ∃ (kept : Option ProcessId) (r₁ : Registry) (k₂ : Kernel),
        Entered saved k.registry k.running kept r₁ ∧ r₁.Rearranged k₂.registry ∧
        k₂.registry.Runs kept.toList ∧ k.dispatch saved = k₂.leave kept saved ∧
        k.selecting saved = k₂.pick := by
  unfold dispatch selecting
  cases on : k.halted with
  | some fatal => exact Or.inl ⟨rfl, rfl⟩
  | none =>
    simp only []
    cases entered : k.enter saved with
    | mk result k₁ =>
      cases result with
      | error fatal => exact Or.inl ⟨registry_enter_error entered, rfl⟩
      | ok kept =>
        obtain ⟨half, runs, -, -⟩ := enter_cases on (rest.runs_running on) entered
        exact Or.inr ⟨kept, k₁.registry, k₁.poll, half, k₁.poll_rearranged.1,
          trapInvariant_runs.poll runs, rfl, rfl⟩

/-- A trap starts a new round only by the process that it takes. -/
theorem round_dispatch (rest : k.AtRest) (saved : Context) :
    (k.dispatch saved).2.registry.round = k.roundAfter (k.selecting saved) := by
  rcases dispatch_halves rest saved with ⟨same, nobody⟩ |
    ⟨kept, r₁, k₂, half, between, runs, eq, selected⟩
  · rw [same, nobody]
    rfl
  · have round : k₂.registry.round = k.registry.round := between.round.trans half.round
    rw [eq, selected, (registry_leave runs saved).2]
    cases k₂.pick with
    | none => exact round
    | some result => rfl

/-! ### The window -/

/-- Every process fits the current round, whether the kernel is halted or not. -/
structure InPace (k : Kernel) : Prop where
  rest : k.AtRest
  window : k.registry.Window

namespace InPace

theorem dispatch (h : k.InPace) (saved : Context) : (k.dispatch saved).2.InPace := by
  refine ⟨h.rest.dispatch saved, ?_⟩
  rcases dispatch_halves h.rest saved with ⟨same, -⟩ |
    ⟨kept, r₁, k₂, half, between, runs, eq, -⟩
  · rw [same]
    exact h.window
  · rw [eq]
    obtain ⟨next, chosen⟩ := (registry_leave runs saved).1
    exact ((h.window.entered half).rearranged between).chosen runs chosen

theorem outcome (h : k.InPace) (outcome : k.Outcome n k') : k'.InPace := by
  obtain ⟨who, -, -, runs⟩ := h.rest.runs
  obtain ⟨order, hs⟩ := runs.sound
  refine ⟨h.rest.outcome outcome, ?_⟩
  cases outcome with
  | outside slot port shared shutdownRequested => exact h.window
  | moved moves => exact h.window.rearranged (moves order hs).2
  | created done =>
    obtain ⟨record, -, round, process⟩ := hs.create_process done
    exact h.window.arrive round process ⟨fun _ => Or.inl rfl, nofun⟩
  | loaded done =>
    obtain ⟨record, -, round, process⟩ := hs.load_process done
    exact h.window.arrive round process ⟨nofun, nofun⟩
  | deleted done =>
    obtain ⟨-, round, process⟩ := delete_process done
    exact h.window.leave round process
  | trapped slot saved =>
    exact (dispatch (k := { k with slot }) ⟨⟨h.rest.runs, h.rest.home⟩, h.window⟩ saved).window
  | down =>
    obtain ⟨-, vacant, -⟩ := shutdown_vacant runs
    exact fun i p found => absurd (live_iff.mpr ⟨p, found⟩) (vacant i)

theorem boot (booted : Kernel.boot c uart = .ok k) : k.InPace := by
  have rest := AtRest.boot booted
  obtain ⟨m, port, record, m₁, r, m₂, -, -, -, loaded, rfl⟩ := boot_eq booted
  obtain ⟨runs, window⟩ : r.Runs [] ∧ r.Window := by
    refine loadAll_keeps (P := fun r _ => r.Runs [] ∧ r.Window) ?_ ⟨runs_empty, nofun⟩ loaded
    rintro r r' m m' id name owner priority entry ⟨runs, window⟩ loaded
    obtain ⟨order, hs⟩ := runs.sound
    obtain ⟨-, -, -, runs', -⟩ := runs.load loaded
    obtain ⟨record, -, round, process⟩ := hs.load_process loaded
    exact ⟨runs', window.arrive round process ⟨nofun, nofun⟩⟩
  obtain ⟨order, hs⟩ := runs.sound
  exact ⟨rest, window.rearranged hs.rearranged_resumeAll⟩

theorem steps (booted : Kernel.boot c uart = .ok k) (events : List KernelEvent) :
    (events.foldl step k).InPace := by
  induction events using List.reverseRecOn with
  | nil => exact boot booted
  | append_singleton events e ih =>
    rw [List.foldl_append]
    exact ih.outcome ((events.foldl step k).outcome e)

end InPace

/-! ### Events -/

/-- What a trap finds differs from the kernel before it in the request at most. -/
theorem trapping_slot (trapped : k.trapping e = some (k₁, saved)) :
    (∃ slot, k₁ = { k with slot }) ∧ k.step e = (k₁.dispatch saved).2 := by
  unfold trapping at trapped
  split at trapped
  · cases trapped
    exact ⟨⟨k.slot, rfl⟩, rfl⟩
  · rename_i r saved'
    cases left : k.request r with
    | error e =>
      rw [left] at trapped
      cases trapped
    | ok k' =>
      rw [left] at trapped
      cases trapped
      refine ⟨⟨k.slot.post r, request_ok left⟩, ?_⟩
      simp only [step, call, syscall, left]
  · cases trapped

/-- An event that is no trap is not noted as one. -/
theorem note_ne_trap (quiet : k.trapping e = none) : k.note e ≠ .trap saved := by
  have called : ∀ c : KernelCall, k.trapping (.call c) = none → k.noteOfCall c ≠ .trap saved := by
    intro c quiet
    cases c with
    | dispatch saved => cases quiet
    | syscall r saved =>
      simp only [noteOfCall]
      cases left : k.request r with
      | error e => simp only [ne_eq, reduceCtorEq, not_false_eq_true]
      | ok k' =>
        rw [trapping, left] at quiet
        cases quiet
    | create | load =>
      simp only [noteOfCall]
      split <;> simp only [ne_eq, reduceCtorEq, not_false_eq_true]
    | _ => simp only [noteOfCall, ne_eq, reduceCtorEq, not_false_eq_true]
  cases e with
  | call c => exact called c quiet
  | shell c => exact called c.call (by cases c <;> rfl)
  | driver port shared => simp only [note, ne_eq, reduceCtorEq, not_false_eq_true]

theorem round_destroyAll (k : Kernel) (ids : List ProcessId) :
    (k.destroyAll ids).2.registry.round = k.registry.round := by
  induction ids generalizing k with
  | nil => rfl
  | cons id ids ih =>
    unfold destroyAll
    simp only []
    split
    · rfl
    · rename_i done
      exact (ih _).trans (destroy_process done).2.1

theorem round_shutdown (k : Kernel) : k.shutdown.2.registry.round = k.registry.round := by
  obtain ⟨port, closed⟩ := k.closePort_eq
  have destroyed := round_destroyAll { k with device.port := port } k.registry.ids
  unfold shutdown
  rw [closed]
  simp only []
  split
  · rename_i done
    rw [show Kernel.destroyAll _ _ = _ from done] at destroyed
    exact destroyed
  · rename_i k' done
    rw [show Kernel.destroyAll _ _ = _ from done] at destroyed
    obtain ⟨m, record, released⟩ := releaseDeviceRecord_eq { k' with running := none }
    rw [released]
    split <;> exact destroyed

/-- What is no trap leaves the round alone. -/
theorem Outcome.round (outcome : k.Outcome n k') (rest : k.AtRest)
    (quiet : ∀ saved, n ≠ .trap saved) : k'.registry.round = k.registry.round := by
  obtain ⟨who, -, -, runs⟩ := rest.runs
  obtain ⟨order, hs⟩ := runs.sound
  cases outcome with
  | outside => rfl
  | moved moves => exact (moves order hs).2.round
  | created done =>
    obtain ⟨record, -, round, -⟩ := hs.create_process done
    exact round
  | loaded done =>
    obtain ⟨record, -, round, -⟩ := hs.load_process done
    exact round
  | deleted done => exact (delete_process done).2.1
  | trapped slot saved => exact absurd rfl (quiet saved)
  | down => exact k.round_shutdown

/-- An event leaves the round alone, or it is a trap. -/
theorem step_traps (rest : k.AtRest) (e : KernelEvent) :
    (k.step e).registry.round = k.registry.round ∧ k.taking e = none ∨
      ∃ slot saved, k.step e = ({ k with slot }.dispatch saved).2 ∧
        k.taking e = { k with slot }.selecting saved := by
  unfold taking
  cases trapped : k.trapping e with
  | none => exact Or.inl ⟨(k.outcome e).round rest fun saved => note_ne_trap trapped, rfl⟩
  | some t =>
    obtain ⟨k₁, saved⟩ := t
    obtain ⟨⟨slot, rfl⟩, eq⟩ := trapping_slot trapped
    exact Or.inr ⟨slot, saved, eq, rfl⟩

/-- An event starts a new round only by the process that it takes. -/
theorem round_step (rest : k.AtRest) (e : KernelEvent) :
    (k.step e).registry.round = k.roundAfter (k.taking e) := by
  rcases step_traps rest e with ⟨same, nobody⟩ | ⟨slot, saved, eq, taken⟩
  · rw [same, nobody]
    rfl
  · rw [eq, taken]
    exact round_dispatch (k := { k with slot }) ⟨rest.runs, rest.home⟩ saved

/-- At most one new round begins in a trap. -/
theorem InPace.round_dispatch (h : k.InPace) (saved : Context) :
    (k.dispatch saved).2.registry.round = k.registry.round ∨
      (k.dispatch saved).2.registry.round = k.registry.round + 1 := by
  rcases dispatch_halves h.rest saved with ⟨same, -⟩ |
    ⟨kept, r₁, k₂, half, between, runs, eq, -⟩
  · exact Or.inl (congrArg Registry.round same)
  · obtain ⟨order, hs⟩ := runs.sound
    obtain ⟨next, chosen⟩ := (registry_leave runs saved).1
    rw [eq, ← half.round, ← between.round]
    exact chosen.round ((h.window.entered half).rearranged between) hs

theorem InPace.round_step (h : k.InPace) (e : KernelEvent) :
    (k.step e).registry.round = k.registry.round ∨
      (k.step e).registry.round = k.registry.round + 1 := by
  rcases step_traps h.rest e with ⟨same, -⟩ | ⟨slot, saved, eq, -⟩
  · exact Or.inl same
  · rw [eq]
    exact round_dispatch (k := { k with slot }) ⟨⟨h.rest.runs, h.rest.home⟩, h.window⟩ saved

/-- The rounds of the processes fit the current one, and only a process that is taken to run next
starts another. -/
structure Paced (k : Kernel) : Prop where
  ready : ∀ i p, k.registry.table.process? i = some p → p.state = .ready →
    p.round = k.registry.round ∨ p.round = k.registry.round + 1
  running : ∀ i p, k.registry.table.process? i = some p → p.state = .running →
    p.round = k.registry.round
  /-- The noted process runs, until the kernel is halted. -/
  noted : k.halted = none → ∀ id, k.running = some id →
    ∃ p, k.registry.get id = some p ∧ p.state = .running ∧ p.round = k.registry.round
  /-- A process that waits for its transfer or is suspended has no round. -/
  waiting : ∀ i p, k.registry.table.process? i = some p → p.state ≠ .ready →
    p.state ≠ .running → p.round = 0
  /-- Whatever the registry is asked, the round goes on, unless it is the first ready process. -/
  asked : ∀ c : AnyCall, c ≠ ⟨_, .takeReadyHead⟩ →
    (k.registry.perform c.2).2.round = k.registry.round
  /-- Whatever happens to the kernel, the round is that of the process that is taken, if one is. -/
  taken : ∀ e, (k.step e).registry.round = k.roundAfter (k.taking e)
  grows : ∀ e, (k.step e).registry.round = k.registry.round ∨
    (k.step e).registry.round = k.registry.round + 1

theorem InPace.paced (h : k.InPace) (reached : k.registry.Reached) : k.Paced := by
  obtain ⟨eased, wf⟩ := reached.eased
  refine ⟨fun i p found => (h.window i p found).ready,
    fun i p found => (h.window i p found).running, fun on id running => ?_, eased,
    fun c other => (Continues.perform wf c other).round, Kernel.round_step h.rest, h.round_step⟩
  obtain ⟨p, got, state⟩ := (h.rest.single on).runs id running
  obtain ⟨i, -, found⟩ := Option.bind_eq_some_iff.mp got
  exact ⟨p, got, state, (h.window i p found).running state⟩

/-- In every state of a kernel, whether it was halted or not, a process that is ready waits for the
current round or for the next one, the process that runs took its turn in the current round, and all
others have no round. Nothing but taking the first of the ready processes changes the current round,
which never goes back and goes on by one at most. -/
theorem paced_steps (booted : boot c uart = .ok k) (events : List KernelEvent) :
    (events.foldl step k).Paced :=
  (InPace.steps booted events).paced (reached_steps booted events)

/-- One process is suspended and one is blocked while the others take turns, and another one comes
late. -/
def mixed : List KernelEvent :=
  [.call (.create "first" .user 5), .call (.create "second" .user 5),
    .call (.create "third" .user 5), .call (.create "fourth" .user 5), .call (.dispatch .zero),
    .shell (.suspend "second"), .call (.syscall (.control .idle) .zero),
    .call (.syscall (.control .idle) .zero), .call (.syscall (.control .idle) .zero),
    .call (.syscall (.control .idle) .zero), .shell (.block "fourth"),
    .call (.create "fifth" .user 9)]

/-- The second round has begun: the first process had its turn, and the third one has it. -/
theorem paced_steps_mixed :
    ∃ k, boot { processes := [] } (Uart.create com1 true) = .ok k ∧
      (mixed.foldl step k).registry.round = 1 ∧
      (mixed.foldl step k).registry.table.entries.map (fun entry =>
        (entry.2.name, entry.2.state, entry.2.round)) =
        [("first", .ready, 2), ("second", .readySuspended, 0), ("third", .running, 1),
          ("fourth", .blocked, 0), ("fifth", .ready, 1)] ∧
      (mixed.foldl step k).Paced := by
  have ends : ((boot { processes := [] } (Uart.create com1 true)).toOption.map fun k =>
      ((mixed.foldl step k).registry.round,
        (mixed.foldl step k).registry.table.entries.map fun entry =>
          (entry.2.name, entry.2.state, entry.2.round))) =
      some (1, [("first", .ready, 2), ("second", .readySuspended, 0), ("third", .running, 1),
        ("fourth", .blocked, 0), ("fifth", .ready, 1)]) := by
    decide +kernel
  obtain ⟨k, booted, seen⟩ := ok_of_seen ends
  obtain ⟨round, places⟩ := Prod.mk.inj seen
  exact ⟨k, booted, round, places, paced_steps booted mixed⟩

end Kernel

end TrapKernel
