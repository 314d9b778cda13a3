import TrapKernel.Proofs.Kernel.Pace
import TrapKernel.Proofs.Process.Turns

/-!
# Rounds are fair

As long as the processes do nothing but give up the processor in turn, the ready ones that still
wait for the current round are resumed first, in the order of their queue. From then on every process
that contends for the processor is resumed once in each round, whatever its priority, and whatever
had happened to the kernel before.
-/

namespace TrapKernel

/-- A trap of a process that gives up the processor. -/
structure Yield where
  request : Request
  saved : Context
  idle : request.code = Operation.idle.code

namespace Kernel

open Registry ProcessTable

variable {k k' : Kernel} {id : ProcessId} {c : KernelConfig} {uart : Uart}

/-- The process that is resumed when the one that runs gives up the processor, if the trap succeeds,
and the kernel after that. -/
def yield (k : Kernel) (y : Yield) : Option ProcessId × Kernel :=
  let (result, k') := (k.post y.request).dispatch y.saved
  (if result.isOk then k'.running else none, k')

/-- The processes that are resumed one after the other. -/
def resumed (k : Kernel) : List Yield → List (Option ProcessId)
  | [] => []
  | y :: ys => (k.yield y).1 :: (k.yield y).2.resumed ys

/-- The kernel after some traps. -/
def afterYields (k : Kernel) (ys : List Yield) : Kernel := ys.foldl (fun k y => (k.yield y).2) k

theorem resumed_append (k : Kernel) (ys ys' : List Yield) :
    k.resumed (ys ++ ys') = k.resumed ys ++ (k.afterYields ys).resumed ys' := by
  induction ys generalizing k with
  | nil => rfl
  | cons y ys ih => exact congrArg ((k.yield y).1 :: ·) (ih (k.yield y).2)

/-- Between two traps, every process fits the current round, until the kernel is halted. -/
structure Timely (k : Kernel) : Prop where
  rest : k.AtRest
  window : k.halted = none → k.registry.Window

theorem Timely.steps (booted : boot c uart = .ok k) (events : List KernelEvent) :
    (events.foldl step k).Timely :=
  ⟨(InPace.steps booted events).rest, fun _ => (InPace.steps booted events).window⟩

/-! ### One turn -/

/-- A process runs, and nothing but the processor is contended for. -/
structure Spinning (k : Kernel) (id : ProcessId) : Prop where
  on : k.halted = none
  running : k.running = some id
  quiet : k.device.active = none
  stays : k.shutdownRequested = false
  runs : k.registry.Runs [id]
  window : k.registry.Window

theorem poll_quiet (quiet : k.device.active = none) : k.poll = k := by
  have nothing : k.device.checkCompletion k.shared k.memory =
      (none, k.device, k.shared, k.memory) := by
    unfold Device.checkCompletion
    rw [quiet]
    split <;> rfl
  unfold poll
  rw [nothing]

namespace Spinning

/-- The process that runs is saved and keeps the processor; then the next one is chosen. -/
theorem yield_eq (h : k.Spinning id) (y : Yield) :
    ∃ r, k.registry.saveContext id y.saved = .ok r ∧
      (k.post y.request).dispatch y.saved =
        Kernel.leave { k with slot := .empty, running := none, registry := r } (some id)
          y.saved := by
  obtain ⟨r, done, -⟩ := h.runs.saveContext List.mem_cons_self y.saved
  have asked : (k.post y.request).ask = .yields id := by
    have idle : Operation.ofCode? y.request.code = some .idle := by
      rw [y.idle]
      exact Operation.ofCode?_code .idle
    unfold ask
    rw [show (k.post y.request).running = some id from h.running]
    simp only [post, RequestSlot.post, idle]
  have saved : Kernel.save (k.post y.request).inside id y.saved =
      { k with slot := .empty, running := none, registry := r } :=
    save_eq (k := (k.post y.request).inside) done
  refine ⟨r, done, ?_⟩
  unfold Kernel.dispatch
  rw [show (k.post y.request).halted = none from h.on, enter_eq, asked]
  simp only [saved]
  exact congrArg (fun polled => polled.leave (some id) y.saved) (poll_quiet (k := { k with
    slot := .empty, running := none, registry := r }) h.quiet)

/-- The process that runs is alone, or the first ready one takes its turn. -/
theorem yield (h : k.Spinning id) (y : Yield) :
    (k.registry.readyIds = [] ∧ ∃ k', k.yield y = (some id, k') ∧ k'.Spinning id ∧
      k'.registry.readyIds = [] ∧ k'.registry.dueIds = k.registry.dueIds) ∨
      ∃ next rest k', k.registry.readyIds = next :: rest ∧ k.yield y = (some next, k') ∧
        k'.Spinning next ∧ k'.registry.readyIds.Perm (id :: rest) ∧
        (k.registry.dueIds = next :: k'.registry.dueIds ∨
          k.registry.dueIds = [] ∧ k'.registry.dueIds = k'.registry.readyIds) := by
  obtain ⟨r, done, eq⟩ := h.yield_eq y
  obtain ⟨order, hs⟩ := h.runs.sound
  obtain ⟨readySame, dueSame⟩ := hs.turns_saveContext done
  have runs : r.Runs [id] := h.runs.steadily fun order hs => hs.saveContext done
  have window : r.Window := h.window.saveContext done
  obtain ⟨order', hs'⟩ := runs.sound
  rw [leave, if_neg (by rw [h.stays]; exact nofun)] at eq
  cases taken : r.takeReadyHead with
  | none =>
    left
    have nobody : r.readyIds = [] := by
      cases ready : order' .ready with
      | nil => rw [readyIds, hs'.toQueued.members, ready, List.map_nil]
      | cons i rest =>
        obtain ⟨r₁, p, taken', -⟩ := hs'.takeReadyHead ready
        rw [taken] at taken'
        cases taken'
    obtain ⟨answer, context⟩ := runs.context List.mem_cons_self
    simp only [taken, switchTo, context] at eq
    refine ⟨readySame ▸ nobody, { k with
      slot := .empty, running := some id, registry := r, switches := k.switches + 1 },
      ?_, ?_, nobody, dueSame⟩
    · rw [Kernel.yield, eq]
      rfl
    · exact ⟨h.on, rfl, h.quiet, h.stays, runs, window⟩
  | some result =>
    right
    obtain ⟨next, r₁⟩ := result
    obtain ⟨rest, r', requeued, turned⟩ := runs.turn window taken
    obtain ⟨ready, perm, due⟩ := turned.ids hs' window
    obtain ⟨answer, context⟩ := turned.runs.context List.mem_cons_self
    simp only [taken, requeue, requeued, switchTo, context] at eq
    refine ⟨next, rest.map r.table.idAt, { k with
      slot := .empty, running := some next, registry := r', switches := k.switches + 1 },
      readySame ▸ ready, ?_, ?_, perm, dueSame ▸ due⟩
    · rw [Kernel.yield, eq]
      rfl
    · have alone : r.Runs (some id).toList := runs
      exact ⟨h.on, rfl, h.quiet, h.stays, turned.runs,
        window.chosen alone (.next taken (.back requeued))⟩

/-! ### Rounds -/

/-- The rest of the current round: who still waits for it is resumed. -/
theorem finishes (h : k.Spinning id) {ys : List Yield}
    (enough : ys.length = k.registry.dueIds.length) :
    k.resumed ys = k.registry.dueIds.map some ∧ ∃ id', (k.afterYields ys).Spinning id' ∧
      (k.afterYields ys).registry.dueIds = [] ∧
      (id' :: (k.afterYields ys).registry.readyIds).Perm (id :: k.registry.readyIds) := by
  induction ys generalizing k id with
  | nil =>
    have none := List.eq_nil_of_length_eq_zero enough.symm
    rw [none]
    exact ⟨rfl, id, h, none, List.Perm.refl _⟩
  | cons y ys ih =>
    rcases h.yield y with ⟨nobody, k', -, -, -, -⟩ | ⟨next, rest, k', ready, eq, h', perm, due⟩
    · have none : k.registry.dueIds = [] := by
        rw [readyIds, List.map_eq_nil_iff] at nobody
        rw [dueIds, nobody]
        rfl
      rw [none] at enough
      cases enough
    · rcases due with due | ⟨none, -⟩
      · rw [due, List.length_cons, List.length_cons] at enough
        obtain ⟨resumed, id', after, done, perm'⟩ := ih h' (Nat.succ.inj enough)
        rw [Kernel.resumed, afterYields, List.foldl_cons, eq, due, List.map_cons]
        refine ⟨congrArg (some next :: ·) resumed, id', after, done, perm'.trans ?_⟩
        rw [ready]
        exact (perm.cons next).trans (List.Perm.swap id next rest)
      · rw [none] at enough
        cases enough

/-- A whole round, once nobody waits for the current one: everybody is resumed once. -/
theorem round (h : k.Spinning id) (ended : k.registry.dueIds = []) {ys : List Yield}
    (whole : ys.length = k.registry.readyIds.length + 1) :
    ∃ (turn : List ProcessId) (id' : ProcessId), k.resumed ys = turn.map some ∧
      turn.Perm (id :: k.registry.readyIds) ∧ (k.afterYields ys).Spinning id' ∧
      (k.afterYields ys).registry.dueIds = [] ∧
      (id' :: (k.afterYields ys).registry.readyIds).Perm (id :: k.registry.readyIds) := by
  cases ys with
  | nil => cases whole
  | cons y ys =>
    rw [List.length_cons, Nat.add_right_cancel_iff] at whole
    rw [Kernel.resumed, afterYields, List.foldl_cons]
    rcases h.yield y with ⟨nobody, k', eq, h', nobody', due⟩ |
      ⟨next, rest, k', ready, eq, h', perm, due⟩
    · rw [nobody] at whole ⊢
      obtain rfl := List.eq_nil_of_length_eq_zero whole
      rw [eq]
      refine ⟨[id], id, rfl, List.Perm.refl _, h', due.trans ended, ?_⟩
      rw [List.foldl_nil, nobody']
    · have all : k'.registry.dueIds = k'.registry.readyIds := by
        rcases due with due | ⟨-, all⟩
        · rw [ended] at due
          cases due
        · exact all
      have swap : (next :: k'.registry.readyIds).Perm (id :: k.registry.readyIds) := by
        rw [ready]
        exact (perm.cons next).trans (List.Perm.swap id next rest)
      have enough : ys.length = k'.registry.dueIds.length := by
        rw [whole, ready, all, perm.length_eq, List.length_cons, List.length_cons]
      obtain ⟨resumed, id', after, done, perm'⟩ := h'.finishes enough
      rw [eq]
      refine ⟨next :: k'.registry.dueIds, id', congrArg (some next :: ·) resumed, ?_, after, done,
        perm'.trans swap⟩
      rw [all]
      exact swap

/-- Round after round. -/
theorem rounds (h : k.Spinning id) (ended : k.registry.dueIds = []) {blocks : List (List Yield)}
    (whole : ∀ ys ∈ blocks, ys.length = k.registry.readyIds.length + 1) :
    ∃ turns : List (List ProcessId), k.resumed blocks.flatten = turns.flatten.map some ∧
      turns.length = blocks.length ∧ ∀ turn ∈ turns, turn.Perm (id :: k.registry.readyIds) := by
  induction blocks generalizing k id with
  | nil => exact ⟨[], rfl, rfl, nofun⟩
  | cons ys blocks ih =>
    obtain ⟨turn, id', resumed, fair, after, ended', perm⟩ :=
      h.round ended (whole ys List.mem_cons_self)
    have same : (k.afterYields ys).registry.readyIds.length = k.registry.readyIds.length :=
      Nat.succ.inj perm.length_eq
    obtain ⟨turns, resumed', length, fair'⟩ := ih after ended' fun ys' member => by
      rw [same]
      exact whole ys' (List.mem_cons_of_mem ys member)
    refine ⟨turn :: turns, ?_, congrArg (· + 1) length, fun turn' member => ?_⟩
    · rw [List.flatten_cons, resumed_append, resumed, resumed', List.flatten_cons, List.map_append]
    · rcases List.mem_cons.mp member with rfl | member
      · exact fair
      · exact (fair' turn' member).trans perm

end Spinning

/-- Whatever has happened to a kernel since it was booted: if a process runs, no transfer is
outstanding, and from then on the processes only give up the processor, then those that still wait
for the current round are resumed first, in the order of their queue, and after that every process
that contends for the processor is resumed once in each block of traps that has one trap for each. -/
theorem fair_steps (booted : boot c uart = .ok k) (events : List KernelEvent)
    (on : (events.foldl step k).halted = none)
    (running : (events.foldl step k).running = some id)
    (quiet : (events.foldl step k).device.outstanding = [])
    (stays : (events.foldl step k).shutdownRequested = false)
    (first : List Yield) (blocks : List (List Yield))
    (enough : first.length = (events.foldl step k).registry.dueIds.length)
    (whole : ∀ ys ∈ blocks, ys.length = (events.foldl step k).registry.contenders.length) :
    ∃ turns : List (List ProcessId), turns.length = blocks.length ∧
      (events.foldl step k).resumed (first ++ blocks.flatten) =
        ((events.foldl step k).registry.dueIds ++ turns.flatten).map some ∧
      ∀ turn ∈ turns, turn.Nodup ∧ turn.Perm (events.foldl step k).registry.contenders := by
  have timely := Timely.steps booted events
  generalize events.foldl step k = k at *
  have runs : k.registry.Runs [id] := by
    have runs := timely.rest.runs_running on
    rw [running] at runs
    exact runs
  have idle : k.device.active = none := by
    rw [Device.outstanding, List.append_eq_nil_iff, Option.toList_eq_nil_iff] at quiet
    exact quiet.1
  have spinning : k.Spinning id := ⟨on, running, idle, stays, runs, timely.window on⟩
  have contend := runs.perm_contenders
  obtain ⟨resumed, id', after, ended, perm⟩ := spinning.finishes enough
  obtain ⟨turns, resumed', length, fair⟩ := after.rounds ended fun ys member => by
    rw [whole ys member, ← contend.length_eq, ← perm.length_eq, List.length_cons]
  refine ⟨turns, length, ?_, fun turn member => ?_⟩
  · rw [resumed_append, resumed, resumed', List.map_append]
  · have all := (fair turn member).trans (perm.trans contend)
    exact ⟨all.nodup_iff.mpr k.registry.nodup_contenders, all⟩

/-- Processes of different priorities take turns; one of them was suspended for a while, and the
last one came late. -/
def unequal : List KernelEvent :=
  [.call (.create "low" .user 9), .call (.create "high" .user 1), .call (.dispatch .zero),
    .shell (.suspend "low"), .call (.syscall (.control .idle) .zero), .shell (.resume "low"),
    .call (.create "late" .user 0), .call (.syscall (.control .idle) .zero)]

/-- Two of the five still wait for the current round. They are resumed, and then all five in each of
two rounds. -/
theorem fair_steps_unequal :
    ∃ k, boot {} (Uart.create com1 true) = .ok k ∧
      let k' := unequal.foldl step k
      let y : Yield := ⟨.control .idle, .zero, rfl⟩
      k'.registry.dueIds.length = 2 ∧ k'.registry.contenders.length = 5 ∧
        ∃ turns : List (List ProcessId), turns.length = 2 ∧
          k'.resumed (List.replicate 2 y ++ (List.replicate 2 (List.replicate 5 y)).flatten) =
            (k'.registry.dueIds ++ turns.flatten).map some ∧
          ∀ turn ∈ turns, turn.Nodup ∧ turn.Perm k'.registry.contenders := by
  have ends : ((boot {} (Uart.create com1 true)).toOption.map fun k =>
      let k' := unequal.foldl step k
      (k'.halted, k'.running.map (·.index), k'.device.outstanding.isEmpty, k'.shutdownRequested,
        k'.registry.dueIds.length, k'.registry.contenders.length)) =
        some (none, some 0, true, false, 2, 5) := by decide +kernel
  obtain ⟨k, booted, seen⟩ := ok_of_seen ends
  simp only [Prod.mk.injEq, Option.map_eq_some_iff, List.isEmpty_iff] at seen
  obtain ⟨on, ⟨id, running, -⟩, quiet, stays, due, contend⟩ := seen
  let y : Yield := ⟨.control .idle, .zero, rfl⟩
  refine ⟨k, booted, due, contend, ?_⟩
  refine fair_steps booted unequal on running quiet stays (List.replicate 2 y)
    (List.replicate 2 (List.replicate 5 y)) (List.length_replicate.trans due.symm) ?_
  intro ys member
  rw [List.eq_of_mem_replicate member, List.length_replicate, contend]

end Kernel

end TrapKernel
