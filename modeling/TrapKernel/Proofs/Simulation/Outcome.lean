import TrapKernel.Proofs.Simulation.Start

/-!
# How a simulation ends

A script may ask for whatever it likes: the kernel checks a request before the trap, and a process
whose request is rejected gives up the processor instead. So a run fails for one reason only, that
no process is left to run and the kernel does not go home then. Whatever the scripts have left
undone when the cycles are over, the kernel is brought home and shut down.
-/

namespace TrapKernel

namespace Simulation

open Registry

variable {file : SimulationFile} {s s' : Simulation} {c : KernelConfig} {process : String}
  {k k' : Kernel} {saved : Context} {id : ProcessId}

/-! ### Steps of a script -/

theorem lookup_advance (programs : List (String × List Step)) (process name : String) :
    (advance programs process).lookup name =
      (programs.lookup name).map fun steps => if name = process then steps.drop 1 else steps := by
  induction programs with
  | nil => rfl
  | cons program programs ih =>
    obtain ⟨other, steps⟩ := program
    rw [advance, List.map_cons, ← advance, List.lookup_cons, List.lookup_cons, ih]
    by_cases eq : name = other
    · subst eq
      simp
    · have other : (name == other) = false := beq_false_of_ne eq
      simp only [other]

/-- A step makes a request, and perhaps a buffer for it. -/
theorem nextRequest_eq (s : Simulation) (process : String) :
    ∃ shared, (s.nextRequest process).2.kernel = { s.kernel with shared } ∧
      (s.nextRequest process).2.programs = advance s.programs process := by
  unfold nextRequest
  cases nextStep s.programs process with
  | yield | exit => exact ⟨s.kernel.shared, rfl, rfl⟩
  | write text => exact ⟨_, rfl, rfl⟩
  | read count => exact ⟨_, rfl, rfl⟩

theorem nextRequest_yield (yields : nextStep s.programs process = .yield) :
    s.nextRequest process =
      (.control .idle, { s with programs := advance s.programs process }) := by
  rw [nextRequest, yields]

/-! ### Traps -/

/-- To give up the processor is always accepted. -/
theorem request_idle (k : Kernel) : k.request (.control .idle) = .ok (k.post (.control .idle)) :=
  rfl

theorem ask_idle (running : k.running = some id) :
    (k.post (.control .idle)).ask = .yields id := by
  unfold Kernel.ask
  rw [show (k.post (.control .idle)).running = some id from running]
  rfl

/-- What a process traps with: a request that passed its check. If the next step of the process is
to give up the processor, or its request was rejected, that is what it does. -/
structure Posts (s : Simulation) (process : String) (k : Kernel) : Prop where
  posted : ∃ shared r, k = Kernel.post { s.kernel with shared } r
  sensible : k.Sensible
  yields : nextStep s.programs process = .yield → ∀ id ∈ s.kernel.running, k.ask = .yields id

/-- How the trap of a process ends. -/
inductive Traps (s : Simulation) (process : String) (saved : Context) (k : Kernel) :
    Except SimulationError (Context × Simulation) → Prop where
  | resumed {context : Context} {k' : Kernel} {s' : Simulation}
      (done : k.dispatch saved = (.ok context, k')) (kernel : s'.kernel = k')
      (programs : s'.programs = advance s.programs process) :
      Traps s process saved k (.ok (context, s'))
  | dry (dry : k.Dry saved) :
      Traps s process saved k (.error (.trap process (.halted .emptyReadyQueue)))

/-- A process traps, with the request for its next step or without. -/
theorem trap_cases (h : s.kernel.Going c) (running : s.kernel.running = some id)
    (process : String) (saved : Context) :
    ∃ k, s.Posts process k ∧ k.Going c ∧ s.Traps process saved k (s.trap process saved) := by
  obtain ⟨shared, kernel, programs⟩ := s.nextRequest_eq process
  have going : Kernel.Going c { s.kernel with shared } :=
    h.outside shared s.kernel.device.port.uart
  unfold trap
  generalize asked : s.nextRequest process = next at kernel programs
  obtain ⟨r, s₁⟩ := next
  simp only [] at kernel programs ⊢
  rw [kernel]
  cases left : Kernel.request { s.kernel with shared } r with
  | ok k =>
    obtain rfl := Kernel.request_ok left
    refine ⟨_, ⟨⟨shared, r, rfl⟩, Kernel.sensible_request left, fun yields id running => ?_⟩,
      going.request left, ?_⟩
    · rw [nextRequest_yield yields] at asked
      obtain ⟨rfl, -⟩ := Prod.mk.inj asked
      exact ask_idle (k := { s.kernel with shared }) running
    · rcases going.syscall_answers left saved with ⟨context, k', done, -, eq⟩ | ⟨dry, k', eq⟩
      · rw [eq]
        exact .resumed done rfl programs
      · rw [eq]
        exact .dry dry
  | error e =>
    have rejected : Kernel.syscall { s.kernel with shared } r saved =
        (.error (.rejected e), { s.kernel with shared }) := by
      rw [Kernel.syscall, left]
    have yields := ask_idle (k := { s.kernel with shared }) running
    have left := request_idle { s.kernel with shared }
    rw [rejected]
    refine ⟨_, ⟨⟨shared, .control .idle, rfl⟩, Kernel.sensible_request left,
      fun _ id' running' => ?_⟩, going.request left, ?_⟩
    · exact ask_idle (k := { s.kernel with shared }) running'
    · rcases going.syscall_answers left saved with ⟨context, k', done, -, eq⟩ | ⟨dry, -⟩
      · simp only [eq]
        exact .resumed done rfl programs
      · exact absurd dry (Kernel.not_dry_of_yields yields)

/-! ### Processes without a script -/

/-- Some process without a script contends for the processor. -/
def Attended (s : Simulation) : Prop :=
  ∃ i name, s.kernel.registry.Contends i name ∧ s.programs.lookup name = none

theorem nextStep_of_lookup (absent : s.programs.lookup process = none) :
    nextStep s.programs process = .yield := by
  rw [nextStep, absent]

/-- A process without a script gives up the processor when it traps. -/
theorem Posts.yields_of_contends {i : Nat} {name : String} (h : s.Posts process k)
    (runs : s.kernel.runningName = some process)
    (contends : s.kernel.registry.Contends i name) (absent : s.programs.lookup name = none) :
    k.Yields i ∧ k.registry.Contends i name := by
  obtain ⟨⟨shared, r, rfl⟩, -, yields⟩ := h
  refine ⟨fun id running resolved => ?_, contends⟩
  obtain ⟨p, found, rfl, -⟩ := contends
  have trapped : process = p.name := by
    rw [Kernel.runningName, show s.kernel.running = some id from running, Option.bind_some,
      Registry.get, show s.kernel.registry.table.resolve id = some i from resolved,
      Option.bind_some, found] at runs
    exact (Option.some.inj runs).symm
  exact yields (nextStep_of_lookup (trapped ▸ absent)) id running

/-- What a trap comes to. -/
theorem trap_answers (h : s.kernel.Going c) (runs : s.kernel.runningName = some process)
    (saved : Context) :
    (∃ context s', s.trap process saved = .ok (context, s') ∧ s'.kernel.Going c ∧
      (s.Attended → s'.Attended)) ∨
      s.trap process saved = .error (.trap process (.halted .emptyReadyQueue)) ∧
        c.shutdownOnEmpty = false ∧ ¬ s.Attended := by
  obtain ⟨p, found, -⟩ := Option.map_eq_some_iff.mp runs
  obtain ⟨id, running, -⟩ := Option.bind_eq_some_iff.mp found
  obtain ⟨k, posts, going, traps⟩ := trap_cases h running process saved
  generalize s.trap process saved = result at traps
  cases traps with
  | resumed done kernel programs =>
    rename_i context k' s'
    refine Or.inl ⟨context, s', rfl, kernel ▸ going.dispatch done, ?_⟩
    rintro ⟨i, name, contends, absent⟩
    obtain ⟨yields, contends⟩ := posts.yields_of_contends runs contends absent
    refine ⟨i, name, kernel ▸ going.contends_dispatch contends yields done, ?_⟩
    rw [programs, lookup_advance, absent, Option.map_none]
  | dry dry =>
    refine Or.inr ⟨rfl, going.config ▸ dry.stays, ?_⟩
    rintro ⟨i, name, contends, absent⟩
    obtain ⟨yields, contends⟩ := posts.yields_of_contends runs contends absent
    exact going.not_dry contends yields dry

/-! ### Cycles -/

/-- However many cycles there are, the kernel can go on after them, unless a trap finds nobody to
run. -/
theorem cycle_answers {p : Progress} (h : p.simulation.kernel.Going c) (most : Nat) :
    (∃ p', cycle p most = .ok p' ∧ p'.simulation.kernel.Going c ∧
      p'.resumed.length ≤ p.resumed.length + most) ∨
      (∃ process, cycle p most = .error (.trap process (.halted .emptyReadyQueue))) ∧
        c.shutdownOnEmpty = false ∧ ¬ p.simulation.Attended := by
  induction most generalizing p with
  | zero => exact Or.inl ⟨p, rfl, h, Nat.le_refl _⟩
  | succ most ih =>
    rw [cycle]
    cases runs : p.simulation.kernel.runningName with
    | none => exact Or.inl ⟨_, rfl, h, Nat.le_add_right _ _⟩
    | some process =>
      rcases trap_answers h runs p.context with ⟨context, s, done, going, attended⟩ |
        ⟨failed, stays, alone⟩
      · simp only [done]
        rcases ih (p := ⟨{ s with kernel := s.kernel.serviceInterrupts.2 }, context,
            process :: p.resumed, false⟩) going.serviceInterrupts with
          ⟨p', ended, going', le⟩ | ⟨failed, stays, alone⟩
        · refine Or.inl ⟨p', ended, going', Nat.le_trans le ?_⟩
          rw [List.length_cons]
          omega
        · exact Or.inr ⟨failed, stays, fun before => alone (attended before)⟩
      · simp only [failed]
        exact Or.inr ⟨⟨process, rfl⟩, stays, alone⟩

/-! ### The end -/

/-- A process that runs when the cycles are over gives up the processor, and the kernel goes home. -/
theorem goHome_ok (h : s.kernel.Going c) (context : Context) :
    ∃ s', s.goHome context = .ok s' ∧ s'.kernel.Going c := by
  unfold goHome
  cases running : s.kernel.running with
  | none => exact ⟨s, rfl, h⟩
  | some id =>
    have left := request_idle s.kernel.requestShutdown
    have yields : (s.kernel.requestShutdown.post (.control .idle)).ask = .yields id :=
      ask_idle running
    rcases h.requestShutdown.syscall_answers left context with
      ⟨context', k, -, going, eq⟩ | ⟨dry, -⟩
    · simp only [eq]
      exact ⟨_, rfl, going⟩
    · exact absurd dry (Kernel.not_dry_of_yields yields)

/-- What is left of a run after its cycles. -/
theorem finish {p : Progress} (h : p.simulation.kernel.Going c) {cycles : Nat} {k : Kernel}
    {context : Context} (first : s.kernel.dispatch .zero = (.ok context, k))
    (done : cycle ⟨{ s with kernel := k }, context, [], false⟩ cycles = .ok p) :
    ∃ report, s.run cycles = .ok report ∧ report.order = p.resumed.reverse ∧
      report.returnedHome = p.returnedHome := by
  obtain ⟨s', home, going⟩ := goHome_ok h p.context
  obtain ⟨k', down, -⟩ := going.clears.shutdown
  refine ⟨s'.report p.resumed.reverse p.returnedHome, ?_, rfl, rfl⟩
  simp only [run, first, bind, Except.bind, Except.mapError, done, home, down]
  rfl

/-- A trap found nobody to run: the first one, or that of a process. -/
inductive RunsDry : SimulationError → Prop where
  | first : RunsDry (.firstDispatch .emptyReadyQueue)
  | later (process : String) : RunsDry (.trap process (.halted .emptyReadyQueue))

/-- A process of the configuration without a script contends from the beginning. -/
theorem Started.attended (h : Started file s) {p : ProcessConfig}
    (configured : p ∈ file.kernel.processes)
    (unscripted : ∀ script ∈ file.scripts, script.name ≠ p.name) : s.Attended := by
  obtain ⟨ws, waits, m, mirrors, -, lineup⟩ := h.lines
  have member : (p.name, p.priority.toNat) ∈ ws.map fun w => (w.name, w.priority) := by
    rw [waits.named, newcomers]
    exact List.mem_append_left _ (List.mem_map_of_mem configured)
  obtain ⟨w, hw, same⟩ := List.mem_map.mp member
  have ready : w ∈ m.waiters .ready := by
    rw [show m.waiters .ready = ranked Waiter.priority ws from congrArg Lineup.ready lineup]
    exact mem_ranked.mpr hw
  obtain ⟨c, q, -, rfl, has, state⟩ := mirrors.card ready
  have named : c.name = p.name := congrArg Prod.fst same
  refine ⟨c.id.index, p.name, ⟨q, has.found, has.describes.name.symm.trans named,
    Or.inl state⟩, ?_⟩
  rw [h.programs, List.lookup_eq_none_iff]
  intro program member
  obtain ⟨script, scripted, rfl⟩ := List.mem_map.mp member
  simpa using (unscripted script scripted).symm

/-- Whatever the scripts and the input, a run that has started succeeds, with no more traps than
cycles, or a trap finds nobody to run. That does not happen if the kernel goes home then, or if some
process of the configuration has no script. -/
theorem run_succeeds_or_runs_dry (done : start file = .ok s) (cycles : Nat) :
    ((∃ report, s.run cycles = .ok report ∧ report.order.length ≤ cycles) ∨
      ∃ e, s.run cycles = .error e ∧ RunsDry e) ∧
      (file.kernel.shutdownOnEmpty = true ∨
        (∃ p ∈ file.kernel.processes, ∀ script ∈ file.scripts, script.name ≠ p.name) →
          ∃ report, s.run cycles = .ok report ∧ report.order.length ≤ cycles) := by
  have h := started done
  suffices answer : (∃ report, s.run cycles = .ok report ∧ report.order.length ≤ cycles) ∨
      (∃ e, s.run cycles = .error e ∧ RunsDry e) ∧ file.kernel.shutdownOnEmpty = false ∧
        ¬ s.Attended by
    refine ⟨answer.imp_right And.left, fun spared => answer.resolve_right ?_⟩
    rintro ⟨-, stays, alone⟩
    rcases spared with home | ⟨p, configured, unscripted⟩
    · rw [stays] at home
      cases home
    · exact alone (h.attended configured unscripted)
  -- the first trap comes from the code that booted the kernel
  have nothing : s.kernel.ask = .nothing := by rw [Kernel.ask, h.running]
  have sensible : s.kernel.Sensible := fun id fatal asked => by
    rw [nothing] at asked
    cases asked
  have yields : ∀ i, s.kernel.Yields i := fun i id running => by
    rw [h.running] at running
    cases running
  rcases h.going.rest.dispatch_answers h.going.on sensible .zero with
    ⟨context, k, first⟩ | ⟨dry, k, first⟩
  · have attended : s.Attended → Attended { s with kernel := k } := by
      rintro ⟨i, name, contends, absent⟩
      exact ⟨i, name, h.going.contends_dispatch contends (yields i) first, absent⟩
    rcases cycle_answers (p := ⟨{ s with kernel := k }, context, [], false⟩)
      (h.going.dispatch first) cycles with
      ⟨p, ended, going, le⟩ | ⟨⟨process, failed⟩, stays, alone⟩
    · obtain ⟨report, succeeded, order, -⟩ := finish going first ended
      refine Or.inl ⟨report, succeeded, ?_⟩
      rw [order, List.length_reverse]
      simpa using le
    · refine Or.inr ⟨⟨_, ?_, .later process⟩, stays, fun before => alone (attended before)⟩
      simp only [run, first, bind, Except.bind, Except.mapError, failed]
  · refine Or.inr ⟨⟨_, ?_, .first⟩, h.going.config ▸ dry.stays, ?_⟩
    · simp only [run, first, bind, Except.bind, Except.mapError]
    · rintro ⟨i, name, contends, -⟩
      exact h.going.not_dry contends (yields i) dry

/-- A process whose first request is rejected, and which then waits for bytes that never come. -/
def starving (kernel : KernelConfig) : SimulationFile :=
  { kernel, scripts := [{ name := "reader", steps := [.write "", .read 4] }] }

/-- Alone it leaves nobody to run. With the processes of the default configuration nothing fails. -/
theorem run_succeeds_or_runs_dry_starving :
    (∃ s, start (starving { processes := [] }) = .ok s ∧ ∃ e, s.run 10 = .error e ∧ RunsDry e) ∧
      ∃ s, start (starving {}) = .ok s ∧
        ∃ report, s.run 10 = .ok report ∧ report.order.length ≤ 10 := by
  constructor
  · have fails : ((start (starving { processes := [] })).toOption.map fun s =>
        (s.run 10).isOk) = some false := by decide +kernel
    obtain ⟨s, done, failed⟩ := ok_of_seen fails
    refine ⟨s, done, (run_succeeds_or_runs_dry done 10).1.resolve_left ?_⟩
    rintro ⟨report, succeeded, -⟩
    rw [succeeded] at failed
    cases failed
  · have starts : (start (starving {})).isOk = true := by decide +kernel
    cases done : start (starving {}) with
    | error e =>
      rw [done] at starts
      cases starts
    | ok s =>
      refine ⟨s, rfl, (run_succeeds_or_runs_dry done 10).2 (Or.inr ?_)⟩
      exact ⟨⟨"idle", .system, 0, 0x1000⟩, List.mem_cons_self, by decide⟩

end Simulation

end TrapKernel
