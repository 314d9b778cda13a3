import TrapKernel.Proofs.Kernel.Takeover
import TrapKernel.Proofs.Simulation.Outcome
import TrapKernel.Proofs.Simulation.Schedule

/-!
# A simulation follows its schedule

If the scripts do nothing but give up the processor and exit, all processes wait in one queue: those
that are still due in this round, and behind them those that have had their turn and wait for the
next one. The first takes over, and joins the queue again at its end unless it exits. That queue
goes through the rounds of the schedule.
-/

namespace TrapKernel

/-- The queue behind a process that has the processor: first those who are still due in its round,
then those who wait for the next one. Each round goes through the priorities from the top. -/
def Waiter.Rota (w : Waiter) (queue : List Waiter) : Prop :=
  ∃ due others, queue = due ++ others ∧ (∀ v ∈ due, v.round = w.round) ∧
    (∀ v ∈ others, v.round = w.round + 1) ∧ Descends priority (others ++ w :: due)

namespace Waiter.Rota

variable {w next : Waiter} {queue rest : List Waiter} {kept : Option Waiter}

/-- Whoever has had his turn comes last. -/
theorem ahead_later (h : w.Rota queue) : ∀ v ∈ queue, v.ahead w.later = true := by
  obtain ⟨due, others, rfl, now, later, descends⟩ := h
  have above := (List.pairwise_append.mp descends).2.2
  intro v hv
  rw [ahead, decide_eq_true_iff]
  rcases List.mem_append.mp hv with hv | hv
  · exact Or.inl (Nat.lt_succ_of_le (Nat.le_of_eq (now v hv)))
  · exact Or.inr ⟨later v hv, above v hv w List.mem_cons_self⟩

/-- Whoever had the processor is as urgent as before. -/
theorem descends_later {front back : List Waiter}
    (descends : Descends priority (front ++ w :: back)) (same : ∀ v ∈ kept, v = w) :
    Descends priority (front ++ ((kept.map later).toList ++ back)) := by
  have sub : ((front ++ ((kept.map later).toList ++ back)).map priority).Sublist
      ((front ++ w :: back).map priority) := by
    rw [List.map_append, List.map_append, List.map_append]
    refine List.Sublist.append_left ?_ _
    cases kept with
    | none => exact List.sublist_cons_self _ _
    | some v =>
      obtain rfl := same v rfl
      exact List.Sublist.refl _
  have ranks : ((front ++ w :: back).map priority).Pairwise fun m n => n ≤ m :=
    List.pairwise_map.mpr descends
  exact List.pairwise_map.mp (ranks.sublist sub)

/-- All names are different, also when the one that had the processor joins the queue again. -/
theorem nodup_later (names : ((w :: next :: rest).map (·.name)).Nodup) (same : ∀ v ∈ kept, v = w) :
    ((next :: (rest ++ (kept.map later).toList)).map (·.name)).Nodup := by
  cases kept with
  | none =>
    rw [Option.map_none, Option.toList_none, List.append_nil]
    exact (List.nodup_cons.mp names).2
  | some v =>
    obtain rfl := same v rfl
    have turned : ((next :: rest ++ [v.later]).map (·.name)).Perm
        ((v :: next :: rest).map (·.name)) := by
      rw [List.map_append]
      exact List.perm_append_singleton _ _
    exact turned.nodup_iff.mpr names

theorem nil (w : Waiter) : w.Rota [] :=
  ⟨[], [], rfl, nofun, nofun, List.pairwise_singleton _ _⟩

/-- The next one takes over. -/
theorem takeover (h : w.Rota (next :: rest)) (same : ∀ v ∈ kept, v = w) :
    max w.round next.round = next.round ∧ next.Rota (rest ++ (kept.map later).toList) := by
  obtain ⟨due, others, queue, now, later, descends⟩ := h
  have back : ∀ v ∈ (kept.map Waiter.later).toList, v.round = w.round + 1 := by
    intro v hv
    obtain ⟨u, kept, rfl⟩ := Option.map_eq_some_iff.mp (Option.mem_toList.mp hv)
    rw [same u kept]
    rfl
  have behind := descends_later descends same
  cases due with
  | cons d due =>
    obtain ⟨rfl, rfl⟩ := List.cons.inj queue
    have round := now next List.mem_cons_self
    refine ⟨by omega, due, others ++ (kept.map Waiter.later).toList, List.append_assoc _ _ _,
      fun v hv => (now v (List.mem_cons_of_mem _ hv)).trans round.symm, fun v hv => ?_, ?_⟩
    · rw [round]
      exact (List.mem_append.mp hv).elim (later v) (back v)
    · rwa [List.append_assoc]
  | nil =>
    rw [List.nil_append] at queue
    subst queue
    have round := later next List.mem_cons_self
    refine ⟨by omega, rest ++ (kept.map Waiter.later).toList, [], (List.append_nil _).symm,
      fun v hv => ?_, nofun, ?_⟩
    · rw [round]
      exact (List.mem_append.mp hv).elim (fun hv => later v (List.mem_cons_of_mem _ hv)) (back v)
    · rwa [List.append_nil] at behind

end Waiter.Rota

namespace Simulation

open Registry Kernel

variable {file : SimulationFile} {s s' : Simulation} {c : KernelConfig} {process : String}
  {programs : List (String × List Step)} {w v : Waiter} {queue : List Waiter} {saved : Context}

/-! ### Turns of a process -/

/-- The scripts do nothing but give up the processor and exit. -/
def Plain (programs : List (String × List Step)) : Prop :=
  ∀ program ∈ programs, ∀ step ∈ program.2, step = .yield ∨ step = .exit

/-- The turns that a process has still to take. -/
def turnsLeft (programs : List (String × List Step)) (process : String) : ℕ∞ :=
  (programs.lookup process).elim ⊤ (turnsOf ·)

/-- A process in line, with the turns that it has still to take. -/
def participant (programs : List (String × List Step)) (w : Waiter) : Participant :=
  ⟨w.name, w.priority, turnsLeft programs w.name⟩

/-- The process that keeps the processor after the next turn of a process. -/
def keeps (programs : List (String × List Step)) (w : Waiter) : Option Waiter :=
  if nextStep programs w.name = .yield then some w else none

theorem Plain.advance (plain : Plain programs) (process : String) :
    Plain (advance programs process) := by
  intro program member step hs
  obtain ⟨before, member', rfl⟩ := List.mem_map.mp member
  refine plain before member' step ?_
  dsimp only at hs
  split at hs
  · exact List.mem_of_mem_drop hs
  · exact hs

theorem Plain.nextStep (plain : Plain programs) (process : String) :
    nextStep programs process = .yield ∨ nextStep programs process = .exit := by
  unfold Simulation.nextStep
  split
  · exact Or.inl rfl
  · exact Or.inr rfl
  · rename_i step steps found
    obtain ⟨front, back, rfl, -⟩ := List.lookup_eq_some_iff.mp found
    exact plain _ (List.mem_append_right front List.mem_cons_self) step List.mem_cons_self

theorem turnsOf_pos (steps : List Step) : 0 < turnsOf steps := Nat.succ_pos _

/-- A turn of a process is one turn less for it. -/
theorem turnsLeft_yield (yields : nextStep programs process = .yield) :
    turnsLeft programs process = turnsLeft (advance programs process) process + 1 := by
  rw [turnsLeft, turnsLeft, lookup_advance]
  simp only [if_true]
  unfold nextStep at yields
  split at yields
  · rename_i absent
    rw [absent]
    rfl
  · cases yields
  · rename_i step steps found
    subst yields
    rw [found]
    rfl

theorem turnsLeft_exit (exits : nextStep programs process = .exit) :
    turnsLeft programs process = 1 := by
  rw [turnsLeft]
  unfold nextStep at exits
  split at exits
  · cases exits
  · rename_i found
    rw [found]
    rfl
  · rename_i step steps found
    subst exits
    rw [found]
    rfl

theorem turnsLeft_pos (programs : List (String × List Step)) (process : String) :
    0 < turnsLeft programs process := by
  rw [turnsLeft]
  cases programs.lookup process with
  | none => exact ENat.top_pos
  | some steps => exact Nat.cast_pos'.mpr (turnsOf_pos steps)

/-- Unless it exits the process joins the queue again. -/
theorem again_participant (plain : Plain programs) (w : Waiter) :
    (participant programs w).again =
      (keeps programs w).toList.map (participant (advance programs w.name)) := by
  rw [participant, keeps]
  rcases plain.nextStep w.name with yields | exits
  · rw [if_pos yields, turnsLeft_yield yields, Participant.again_succ _ _ (turnsLeft_pos _ _)]
    rfl
  · have stays : nextStep programs w.name ≠ .yield := by
      rw [exits]
      nofun
    rw [if_neg stays, turnsLeft_exit exits, Participant.again_one]
    rfl

/-- And the others have as many as before. -/
theorem participant_advance (other : v.name ≠ process) :
    participant (advance programs process) v = participant programs v := by
  rw [participant, turnsLeft, lookup_advance, participant, turnsLeft]
  simp only [if_neg other, Option.map_id']

/-! ### One turn -/

/-- A process runs, and these wait behind it. -/
structure Turn (s : Simulation) (w : Waiter) (queue : List Waiter) : Prop where
  running : s.kernel.running = some w.id
  lined : s.kernel.Lined ⟨[w], queue, [], w.round⟩
  rota : w.Rota queue
  names : ((w :: queue).map (·.name)).Nodup
  plain : Plain s.programs

/-- The processes that wait for the processor, the one that runs first. -/
inductive Queues (s : Simulation) : List Participant → Prop where
  | home (running : s.kernel.running = none) : Queues s []
  | turn {w : Waiter} {queue : List Waiter} (h : s.Turn w queue) :
      Queues s ((w :: queue).map (participant s.programs))

/-- What a process asks for, and whether it keeps the processor. -/
theorem asks_plain (plain : Plain s.programs) (running : s.kernel.running = some w.id) :
    ∃ r, s.nextRequest w.name = (r, { s with programs := advance s.programs w.name }) ∧
      s.kernel.request r = .ok (s.kernel.post r) ∧
        Lined.Asks (s.kernel.post r).ask [w] (keeps s.programs w) := by
  rcases plain.nextStep w.name with yields | exits
  · refine ⟨_, nextRequest_yield yields, request_idle _, ?_⟩
    rw [ask_idle running, keeps, if_pos yields]
    exact .yields w
  · have asked : s.nextRequest w.name =
        (.control .exit, { s with programs := advance s.programs w.name }) := by
      rw [nextRequest, exits]
    have ends : (s.kernel.post (.control .exit)).ask = .exits w.id := by
      unfold ask
      rw [show (s.kernel.post (.control .exit)).running = some w.id from running]
      rfl
    have stays : nextStep s.programs w.name ≠ .yield := by
      rw [exits]
      intro same
      cases same
    refine ⟨_, asked, rfl, ?_⟩
    rw [ends, keeps, if_neg stays]
    exact .exits w

theorem trap_of_dispatch {r : Request} {k k' : Kernel} {context : Context}
    (asked : s.nextRequest process = (r, s')) (left : s'.kernel.request r = .ok k)
    (done : k.dispatch saved = (.ok context, k')) :
    s.trap process saved = .ok (context, { s' with kernel := k' }) := by
  simp only [Simulation.trap, asked, syscall, left, done, Except.mapError]

/-- The others do not notice a turn. -/
theorem map_participant_advance {rest : List Waiter} (other : ∀ v ∈ rest, v.name ≠ process) :
    rest.map (participant (advance programs process)) = rest.map (participant programs) :=
  List.map_congr_left fun v hv => participant_advance (other v hv)

/-- The process that runs takes a turn, and joins the queue again unless it exits. -/
theorem Turn.trap (h : s.Turn w queue) (going : s.kernel.Going c)
    (lasts : c.shutdownOnEmpty = true ∨
      queue.map (participant s.programs) ++ (participant s.programs w).again ≠ [])
    (saved : Context) :
    ∃ context s', s.trap w.name saved = .ok (context, s') ∧ s'.kernel.Going c ∧
      s'.Queues (queue.map (participant s.programs) ++ (participant s.programs w).again) := by
  obtain ⟨r, asked, left, asks⟩ := asks_plain h.plain h.running
  have lined : (s.kernel.post r).Lined ⟨[w], queue, [], w.round⟩ :=
    ⟨h.lined.quiet, h.lined.stays, h.lined.lines⟩
  have posted := going.request left
  obtain ⟨k, dispatched, off, config, entered⟩ := lined.dispatch_eq posted.on asks saved
  rw [again_participant h.plain] at lasts ⊢
  have same : ∀ v ∈ keeps s.programs w, v = w := by
    intro v kept
    rw [keeps] at kept
    split at kept
    · exact (Option.some.inj kept).symm
    · cases kept
  have others : w.name ∉ queue.map (·.name) := (List.nodup_cons.mp h.names).1
  have unnoticed : queue.map (participant s.programs) =
      queue.map (participant (advance s.programs w.name)) := by
    refine (map_participant_advance fun v hv eq => others ?_).symm
    rw [← eq]
    exact List.mem_map_of_mem hv
  rw [unnoticed, ← List.map_append] at lasts ⊢
  generalize keeps s.programs w = kept at *
  cases queue with
  | cons next rest =>
    obtain ⟨context, k', done, running, lined'⟩ := entered.leave_next
      (fun v hv u hu => same v hv ▸ h.rota.ahead_later u (List.mem_cons_of_mem _ hu)) saved
    rw [← dispatched] at done
    obtain ⟨round, rota⟩ := h.rota.takeover same
    rw [round] at lined'
    let s' : Simulation := { s with programs := advance s.programs w.name, kernel := k' }
    have turn : s'.Turn next (rest ++ (kept.map Waiter.later).toList) :=
      ⟨running, lined', rota, Waiter.Rota.nodup_later h.names same, h.plain.advance w.name⟩
    have joined : (kept.map Waiter.later).toList.map (participant s'.programs) =
        kept.toList.map (participant s'.programs) := by
      cases kept <;> rfl
    refine ⟨context, s', trap_of_dispatch asked left done, posted.dispatch done, ?_⟩
    rw [List.cons_append, List.map_cons, List.map_append, ← joined, ← List.map_append,
      ← List.map_cons]
    exact .turn turn
  | nil =>
    cases kept with
    | none =>
      have home : k.config.shutdownOnEmpty = true := by
        rw [config, posted.config]
        exact lasts.resolve_right (· rfl)
      obtain ⟨context, done⟩ := entered.leave_home home saved
      have done := dispatched.trans done
      exact ⟨context, _, trap_of_dispatch asked left done, posted.dispatch done, .home off⟩
    | some v =>
      obtain rfl := same v rfl
      obtain ⟨context, k', done, running, lined'⟩ := entered.leave_alone saved
      have done := dispatched.trans done
      exact ⟨context, _, trap_of_dispatch asked left done, posted.dispatch done,
        .turn ⟨running, lined', .nil v, h.names, h.plain.advance v.name⟩⟩

/-- Whoever is first gets the processor. -/
theorem Queues.trap {p : Participant} {queue : List Participant} (h : s.Queues (p :: queue))
    (going : s.kernel.Going c)
    (lasts : c.shutdownOnEmpty = true ∨ queue ++ p.again ≠ []) (saved : Context) :
    s.kernel.runningName = some p.name ∧
      ∃ context s', s.trap p.name saved = .ok (context, s') ∧ s'.kernel.Going c ∧
        s'.Queues (queue ++ p.again) := by
  cases h with
  | turn h =>
    obtain ⟨process, found, named⟩ := h.lined.lines.get List.mem_cons_self
    refine ⟨?_, h.trap going lasts saved⟩
    rw [runningName, h.running, Option.bind_some, found]
    exact congrArg some named

theorem Queues.serviceInterrupts {queue : List Participant} (h : s.Queues queue) :
    Queues { s with kernel := s.kernel.serviceInterrupts.2 } queue := by
  cases h with
  | home running => exact .home running
  | turn h => exact .turn ⟨h.running, ⟨h.lined.quiet, h.lined.stays, h.lined.lines⟩, h.rota,
      h.names, h.plain⟩

/-! ### All turns -/

/-- The cycles serve the queue, and when it is empty the kernel is home. -/
theorem cycle_serves {p : Progress} {queue : List Participant}
    (going : p.simulation.kernel.Going c) (h : p.simulation.Queues queue)
    (lasts : c.shutdownOnEmpty = true ∨ ∃ q ∈ queue, q.turns = ⊤) (here : p.returnedHome = false)
    (most : ℕ) :
    ∃ p', cycle p most = .ok p' ∧ p'.simulation.kernel.Going c ∧
      p'.resumed.reverse = p.resumed.reverse ++ Participant.served queue most ∧
        (p'.returnedHome = true ↔ (Participant.served queue most).length < most) := by
  induction most generalizing p queue with
  | zero =>
    refine ⟨p, rfl, going, ?_, ?_⟩ <;> rw [Participant.served]
    · exact (List.append_nil _).symm
    · rw [here]
      exact ⟨(absurd · Bool.false_ne_true), fun less => absurd less (Nat.not_lt_zero _)⟩
  | succ most ih =>
    rw [cycle]
    cases queue with
    | nil =>
      cases h with
      | home running =>
        have nobody : p.simulation.kernel.runningName = none := by rw [runningName, running]; rfl
        rw [nobody, Participant.served]
        exact ⟨_, rfl, going, (List.append_nil _).symm, iff_of_true rfl (Nat.succ_pos _)⟩
    | cons first queue =>
      have after : c.shutdownOnEmpty = true ∨ ∃ q ∈ queue ++ first.again, q.turns = ⊤ :=
        lasts.imp_right Participant.forever_again
      have anybody : c.shutdownOnEmpty = true ∨ queue ++ first.again ≠ [] :=
        after.imp_right fun endless => List.ne_nil_of_mem endless.choose_spec.1
      obtain ⟨runs, context, s', done, going', h'⟩ := h.trap going anybody p.context
      rw [runs]
      simp only [done]
      obtain ⟨p', ended, going'', order, home⟩ := ih (p := ⟨{ s' with kernel :=
        s'.kernel.serviceInterrupts.2 }, context, first.name :: p.resumed, false⟩)
        going'.serviceInterrupts h'.serviceInterrupts after rfl
      refine ⟨p', ended, going'', ?_, ?_⟩
      · rw [order, List.reverse_cons, List.append_assoc, Participant.served]
        rfl
      · rw [home, Participant.served, List.length_cons, Nat.add_lt_add_iff_right]

/-! ### From the first trap to the report -/

/-- All processes are different, so the file says of each how many turns it takes. -/
theorem participants_eq (names : ((newcomers file).map (·.1)).Nodup) :
    file.participants = (newcomers file).map fun who => ⟨who.1, who.2,
      turnsLeft (file.scripts.map fun script => (script.name, script.steps)) who.1⟩ := by
  rw [newcomers, List.map_append, List.nodup_append', List.map_map, List.map_map] at names
  obtain ⟨-, scripts, apart⟩ := names
  rw [SimulationFile.participants, newcomers, List.map_append, List.map_map, List.map_map]
  congr 1
  · refine List.map_congr_left fun p hp => ?_
    have unscripted : (file.scripts.map fun script => (script.name, script.steps)).lookup p.name =
        none := by
      refine List.lookup_eq_none_iff.mpr fun program member => ?_
      obtain ⟨script, hs, rfl⟩ := List.mem_map.mp member
      refine bne_iff_ne.mpr fun eq => apart (List.mem_map_of_mem hp) ?_
      exact List.mem_map.mpr ⟨script, hs, eq.symm⟩
    rw [Function.comp_apply, turnsLeft, unscripted]
    rfl
  · refine List.map_congr_left fun script hs => ?_
    have scripted : (file.scripts.map fun script => (script.name, script.steps)).lookup
        script.name = some script.steps := by
      obtain ⟨front, back, eq⟩ := List.append_of_mem hs
      rw [eq, List.map_append, List.map_cons, List.nodup_append'] at scripts
      refine List.lookup_eq_some_iff.mpr ⟨front.map _, back.map _, by rw [eq, List.map_append]; rfl,
        fun program member => ?_⟩
      obtain ⟨other, before, rfl⟩ := List.mem_map.mp member
      refine bne_iff_ne.mpr fun eq => scripts.2.2 (List.mem_map_of_mem before) ?_
      exact List.mem_cons.mpr (Or.inl eq.symm)
    rw [Function.comp_apply, turnsLeft, scripted]
    rfl

/-- Everybody takes a turn. -/
theorem participants_turns : ∀ p ∈ file.participants, 0 < p.turns := by
  intro p member
  rcases List.mem_append.mp member with member | member
  · obtain ⟨process, -, rfl⟩ := List.mem_map.mp member
    exact ENat.top_pos
  · obtain ⟨script, -, rfl⟩ := List.mem_map.mp member
    exact Nat.cast_pos'.mpr (turnsOf_pos script.steps)

/-- A process of the configuration takes turns for ever. -/
theorem participants_forever
    (lasts : file.kernel.shutdownOnEmpty = true ∨ file.kernel.processes ≠ []) :
    file.kernel.shutdownOnEmpty = true ∨
      ∃ q ∈ ranked Participant.priority file.participants, q.turns = ⊤ := by
  refine lasts.imp_right fun some => ?_
  obtain ⟨p, hp⟩ := List.exists_mem_of_ne_nil _ some
  refine ⟨⟨p.name, p.priority.toNat, ⊤⟩, mem_ranked.mpr ?_, rfl⟩
  exact List.mem_append_left _ (List.mem_map_of_mem hp)

/-- The first trap brings the first process of the first round. -/
theorem Started.dispatch (h : Started file s)
    (plain : ∀ script ∈ file.scripts, ∀ step ∈ script.steps, step = .yield ∨ step = .exit)
    (lasts : file.kernel.shutdownOnEmpty = true ∨ file.kernel.processes ≠ []) :
    ∃ context k, s.kernel.dispatch .zero = (.ok context, k) ∧ k.Going file.kernel ∧
      Queues { s with kernel := k } (ranked Participant.priority file.participants) := by
  obtain ⟨ws, waits, lines⟩ := h.lines
  have lined : s.kernel.Lined ⟨[], ranked Waiter.priority ws, [], 0⟩ := ⟨h.quiet, h.stays, lines⟩
  have nothing : s.kernel.ask = .nothing := by rw [ask, h.running]
  have asks : Lined.Asks s.kernel.ask [] none := nothing ▸ .nothing
  obtain ⟨k, dispatched, off, config, entered⟩ := lined.dispatch_eq h.going.on asks .zero
  have names : (ws.map (·.name)).Nodup :=
    ((perm_ranked Waiter.priority ws).map _).nodup_iff.mp lines.nodup_names
  have queue : ranked Participant.priority file.participants =
      (ranked Waiter.priority ws).map (participant s.programs) := by
    have distinct : ((newcomers file).map (·.1)).Nodup := by
      rw [← waits.named, List.map_map]
      exact names
    rw [map_ranked (participant s.programs) Waiter.priority Participant.priority fun _ => rfl,
      participants_eq distinct, ← waits.named, List.map_map, h.programs]
    rfl
  have plain' : Plain s.programs := by
    rw [h.programs]
    intro program member
    obtain ⟨script, hs, rfl⟩ := List.mem_map.mp member
    exact plain script hs
  rw [queue]
  cases order : ranked Waiter.priority ws with
  | nil =>
    rw [order] at entered
    have home : k.config.shutdownOnEmpty = true := by
      rw [config, h.going.config]
      refine (participants_forever lasts).resolve_right ?_
      rw [queue, order]
      rintro ⟨q, nobody, -⟩
      cases nobody
    obtain ⟨context, done⟩ := entered.leave_home home .zero
    have done := dispatched.trans done
    exact ⟨context, k, done, h.going.dispatch done, .home off⟩
  | cons first rest =>
    rw [order] at entered
    obtain ⟨context, k', done, running, lined'⟩ := entered.leave_next
      (fun v hv => absurd hv (Option.not_mem_none v)) .zero
    have done := dispatched.trans done
    have now : ∀ w ∈ first :: rest, w.round = 0 := fun w hw =>
      waits.first w (mem_ranked.mp (order ▸ hw))
    have start := now first List.mem_cons_self
    rw [Option.map_none, Option.toList_none, List.append_nil, Nat.zero_max] at lined'
    refine ⟨context, k', done, h.going.dispatch done, .turn ⟨running, lined', ?_, ?_, plain'⟩⟩
    · refine ⟨rest, [], (List.append_nil _).symm, fun w hw => ?_,
        fun w hw => absurd hw List.not_mem_nil, ?_⟩
      · rw [start, now w (List.mem_cons_of_mem _ hw)]
      · have sorted := descends_ranked Waiter.priority ws
        rwa [order] at sorted
    · have distinct := lines.nodup_names
      rwa [order] at distinct

/-- If the scripts do nothing but give up the processor and exit, and the kernel goes home when
they have all ended or has processes of its own, then a run succeeds whatever the number of cycles.
It gives the processor to the processes as the schedule says, until the cycles or the turns are
over, and returns home if the turns are over first. -/
theorem run_follows_schedule (done : start file = .ok s)
    (plain : ∀ script ∈ file.scripts, ∀ step ∈ script.steps, step = .yield ∨ step = .exit)
    (lasts : file.kernel.shutdownOnEmpty = true ∨ file.kernel.processes ≠ []) (cycles : ℕ) :
    ∃ report, s.run cycles = .ok report ∧
      (report.order.length : ℕ∞) = min (cycles : ℕ∞) (Participant.totalTurns file.participants) ∧
        (∀ rounds ≥ cycles,
          report.order = (Participant.schedule file.participants rounds).take cycles) ∧
          (report.returnedHome = true ↔ Participant.totalTurns file.participants < cycles) := by
  obtain ⟨context, k, first, going, queues⟩ := (started done).dispatch plain lasts
  obtain ⟨p, ended, going', order, home⟩ := cycle_serves
    (p := ⟨{ s with kernel := k }, context, [], false⟩) going queues (participants_forever lasts)
    rfl cycles
  obtain ⟨report, ran, order', home'⟩ := finish going' first ended
  have served : ∀ rounds ≥ cycles,
      report.order = (Participant.schedule file.participants rounds).take cycles := by
    intro rounds le
    rw [order', order, ← Participant.served_ranked participants_turns le]
    rfl
  have length : report.order.length = _ := congrArg List.length (served cycles le_rfl)
  refine ⟨report, ran, ?_, served, ?_⟩
  · rw [length, Participant.length_take_schedule le_rfl]
  · have short : (Participant.schedule file.participants cycles).length < cycles ↔
        Participant.totalTurns file.participants < cycles := Participant.length_schedule_lt le_rfl
    rw [home', home, ← short, Participant.served_ranked participants_turns (le_refl cycles),
      List.length_take]
    omega

/-- Two scripts beside the processes of the default configuration. One of them exits before its last
step. -/
def relay : SimulationFile :=
  { scripts := [{ name := "worker", priority := 5, steps := [.yield, .exit, .yield] },
      { name := "helper", priority := 7, steps := [.yield] }] }

theorem run_follows_schedule_relay : ∃ s, start relay = .ok s ∧ ∃ report, s.run 8 = .ok report ∧
    (report.order.length : ℕ∞) = min ((8 : ℕ) : ℕ∞) (Participant.totalTurns relay.participants) ∧
      (∀ rounds ≥ 8, report.order = (Participant.schedule relay.participants rounds).take 8) ∧
        (report.returnedHome = true ↔ Participant.totalTurns relay.participants < (8 : ℕ)) := by
  have starts : (start relay).isOk = true := by decide +kernel
  cases done : start relay with
  | error e =>
    rw [done] at starts
    cases starts
  | ok s => exact ⟨s, rfl, run_follows_schedule done (by decide) (Or.inr nofun) 8⟩

example : ((start relay).toOption.bind fun s => (s.run 8).toOption.map (·.order)) =
    some ["helper", "worker", "idle", "secondaryidle", "helper", "worker", "idle",
      "secondaryidle"] := by
  decide +kernel

end Simulation

end TrapKernel
