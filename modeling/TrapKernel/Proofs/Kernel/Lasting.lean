import TrapKernel.Proofs.Kernel.Going

/-!
# A process that the processor can count on

A process that does nothing but give up the processor is ready or runs at every moment, as long as
nobody blocks, suspends or deletes it: it is put back whenever another one is chosen, and goes on
when there is no other. So no trap ever finds that nobody is left to run, whatever the other
processes ask for, and whenever the device interrupts.
-/

namespace TrapKernel

namespace Registry

open ProcessTable

variable {r r' : Registry} {order : Order} {id id' : ProcessId} {name : String}

/-- The process of this handle has this name, and is ready or runs. -/
def Available (r : Registry) (id : ProcessId) (name : String) : Prop :=
  ∃ p, r.get id = some p ∧ p.name = name ∧ (p.state = .ready ∨ p.state = .running)

/-- The handle leads to a process of this name, which contends for the processor. -/
structure Sustains (r : Registry) (id : ProcessId) (name : String) : Prop where
  resolved : r.table.resolve id = some id.index
  contends : r.Contends id.index name

theorem sustains_iff : r.Sustains id name ↔ r.Available id name := by
  constructor
  · rintro ⟨resolved, p, found, rest⟩
    exact ⟨p, Option.bind_eq_some_iff.mpr ⟨_, resolved, found⟩, rest⟩
  · rintro ⟨p, got, rest⟩
    obtain ⟨i, resolved, found⟩ := Option.bind_eq_some_iff.mp got
    obtain ⟨rfl, -, -⟩ := resolve_eq_some.mp resolved
    exact ⟨resolved, p, found, rest⟩

namespace Sustains

/-- The handles are as good as before. -/
theorem of_slots (h : r.Sustains id name) (slots : r.table.SameSlots r'.table)
    (contends : r'.Contends id.index name) : r'.Sustains id name :=
  ⟨(slots.resolve id).trans h.resolved, contends⟩

/-- It is the only handle that leads to the process. -/
theorem other (h : r.Sustains id name) (ne : id' ≠ id) : r.table.resolve id' ≠ some id.index :=
  fun resolved => ne (resolve_injective resolved h.resolved)

theorem entered {saved : Context} {ran kept : Option ProcessId} (h : r.Sustains id name)
    (half : Entered saved r ran kept r') (other : kept = none → ran ≠ some id) :
    r'.Sustains id name := by
  have contends : r'.Contends id.index name := by
    refine h.contends.entered half fun left id' trapped => ?_
    refine h.other ?_
    rintro rfl
    exact other left trapped
  cases half with
  | nobody => exact h
  | keeps done =>
    obtain ⟨i, -, rfl⟩ := saveContext_ok done
    exact h.of_slots (SameSlots.modify _) contends
  | parks done parked =>
    obtain ⟨i, -, rfl⟩ := saveContext_ok done
    have slots : r.table.SameSlots (r.modifyProcess i (·.saveContext saved)).table :=
      SameSlots.modify _
    exact h.of_slots (slots.trans (SameMatter.parkBlocked parked).slots) contends
  | ends done =>
    refine ⟨(destroy_process done).1.resolve.mpr ⟨?_, h.resolved⟩, contends⟩
    rintro rfl
    exact other rfl rfl

/-- Another process is removed. -/
theorem delete {m m' : Memory} {name' : String} (h : r.Sustains id name) (other : name' ≠ name)
    (done : r.delete m name' = .ok (id', r', m')) : r'.Sustains id name := by
  have contends := h.contends.delete other done
  obtain ⟨leaves, -, process⟩ := delete_process done
  refine ⟨leaves.resolve.mpr ⟨?_, h.resolved⟩, contends⟩
  rintro rfl
  obtain ⟨p, found, -⟩ := contends
  rw [process, if_pos rfl] at found
  cases found

theorem joined {p : Process} (h : r.Sustains id name) (joins : r.table.Joins r'.table id')
    (process : ∀ k, r'.table.process? k = if id'.index = k then some p else r.table.process? k) :
    r'.Sustains id name :=
  ⟨joins.resolve_of_resolve h.resolved, h.contends.joined joins process⟩

end Sustains

end Registry

namespace Kernel

open Registry ProcessTable

variable {k k' : Kernel} {c : KernelConfig} {uart : Uart} {id : ProcessId} {name : String}
  {saved : Context}

/-! ### What is asked of the process, and of the others -/

/-- The request that waits for the next trap is to give up the processor. -/
def Idles (k : Kernel) : Prop := k.slot.pending.map (·.code) = some Operation.idle.code

instance (k : Kernel) : Decidable k.Idles := inferInstanceAs (Decidable (_ = _))

/-- If it is this process that traps, it gives up the processor. -/
def Idling (id : ProcessId) (k : Kernel) (e : KernelEvent) : Prop :=
  ∀ t ∈ k.trapping e, t.1.running = some id → t.1.Idles

instance (id : ProcessId) (k : Kernel) (e : KernelEvent) : Decidable (k.Idling id e) :=
  inferInstanceAs (Decidable (∀ t ∈ _, _))

/-- The call blocks, suspends or deletes the process of this name, or shuts the kernel down. -/
def harms (name : String) : KernelCall → Bool
  | .block name' | .suspend name' | .delete name' => name' = name
  | .shutdown => true
  | _ => false

/-- The event is such a call, or such a command. -/
def touches (name : String) : KernelEvent → Bool
  | .call c => harms name c
  | .shell c => harms name c.call
  | .driver .. => false

/-- In all these events the process only gives up the processor, and is left alone. -/
def LeftAlone (id : ProcessId) (name : String) : Kernel → List KernelEvent → Prop
  | _, [] => True
  | k, e :: events =>
    k.Idling id e ∧ touches name e = false ∧ LeftAlone id name (k.step e) events

instance LeftAlone.decidable (id : ProcessId) (name : String) :
    (k : Kernel) → (events : List KernelEvent) → Decidable (LeftAlone id name k events)
  | _, [] => .isTrue trivial
  | k, e :: events =>
    have := decidable id name (k.step e) events
    inferInstanceAs (Decidable (_ ∧ _ ∧ _))

/-- The condition that an event reports, if it is a trap that fails. -/
def fatal? (k : Kernel) : KernelEvent → Option Fatal
  | .call (.dispatch saved) =>
    match (k.dispatch saved).1 with
    | .error fatal => some fatal
    | .ok _ => none
  | .call (.syscall r saved) =>
    match (k.syscall r saved).1 with
    | .error (.halted fatal) => some fatal
    | _ => none
  | _ => none

/-! ### A trap -/

/-- A request that makes no sense is reported as such. -/
theorem ask_invalid {fatal : Fatal} (asked : k.ask = .invalid id fatal) :
    fatal ≠ .emptyReadyQueue := by
  have invalid : ∀ code, Fatal.invalidRequest code ≠ .emptyReadyQueue := by
    intro code same
    cases same
  have transfer : ∀ {id' : ProcessId} {r : Request} {d : Direction},
      ask.transfer id' r d = .invalid id fatal → fatal ≠ .emptyReadyQueue := by
    intro id' r d eq
    unfold ask.transfer at eq
    split at eq
    · cases eq
      exact invalid _
    · cases eq
  unfold ask at asked
  split at asked
  · cases asked
  split at asked
  · cases asked
    exact invalid _
  split at asked
  · cases asked
    exact invalid _
  · cases asked
  · cases asked
  · exact transfer asked
  · exact transfer asked

theorem Idles.ask (idles : k.Idles) (running : k.running = some id) : k.ask = .yields id := by
  obtain ⟨r, pending, code⟩ := Option.map_eq_some_iff.mp idles
  simp only [Kernel.ask, running, pending, code, Operation.ofCode?_code]

/-- A process that contends for the processor after the first half of a trap is ready or runs after
the trap, and the trap succeeds. -/
theorem AtRest.dispatch_sustains {kept : Option ProcessId} {k₁ : Kernel} (h : k.AtRest)
    (on : k.halted = none) (entered : k.enter saved = (.ok kept, k₁))
    (stays : k₁.registry.Sustains id name) :
    ∃ context k', k.dispatch saved = (.ok context, k') ∧ k'.registry.Sustains id name := by
  obtain ⟨-, runs₁, off, -⟩ := enter_cases on (h.runs_running on) entered
  have polled : k₁.poll.registry.Sustains id name :=
    stays.of_slots k₁.poll_rearranged.1.slots (Going.contends_poll stays.contends)
  have runs₂ : k₁.poll.registry.Runs kept.toList := trapInvariant_runs.poll runs₁
  have dispatched : k.dispatch saved = k₁.poll.leave kept saved := by
    unfold Kernel.dispatch
    rw [on, entered]
  obtain ⟨first, same⟩ := (h.smooth on saved).resumes kept k₁ entered
  rcases leave_answers first same saved with ⟨context, k', left⟩ | ⟨⟨rfl, nobody, -⟩, -⟩
  · obtain ⟨chosen, -⟩ := leave_cases runs₂ ((notes_poll k₁).running.trans off) left
    exact ⟨context, k', dispatched.trans left,
      polled.of_slots chosen.sameMatter.slots (polled.contends.chosen chosen)⟩
  · exact absurd nobody (polled.contends.isSome_takeReadyHead runs₂)

/-- The handle leads to a process that contends for the processor, and the kernel has never found
that nobody does. -/
structure Lasts (id : ProcessId) (name : String) (k : Kernel) : Prop where
  rest : k.AtRest
  sustains : k.registry.Sustains id name
  fed : k.halted ≠ some .emptyReadyQueue

namespace Lasts

theorem dispatch (h : k.Lasts id name) (idles : k.running = some id → k.Idles)
    (saved : Context) : (k.dispatch saved).2.Lasts id name ∧
      (k.dispatch saved).1 ≠ .error .emptyReadyQueue := by
  have rest := h.rest.dispatch saved
  cases on : k.halted with
  | some fatal =>
    have stuck : k.dispatch saved = (.error fatal, k) := by
      unfold Kernel.dispatch
      rw [on]
    rw [stuck]
    refine ⟨h, fun same => h.fed ?_⟩
    rw [on, Except.error.inj same]
  | none =>
    have runs := h.rest.runs_running on
    cases entered : k.enter saved with
    | mk result k₁ =>
      cases result with
      | error fatal =>
        have failed : k.dispatch saved = (.error fatal, k₁) := by
          unfold Kernel.dispatch
          rw [on, entered]
        rw [failed] at rest ⊢
        rw [enter_eq] at entered
        cases asked : k.ask with
        | invalid id' fatal' =>
          rw [asked] at entered
          cases entered
          refine ⟨⟨rest, h.sustains, ?_⟩, ?_⟩
          · exact fun same => ask_invalid asked (Option.some.inj same)
          · exact fun same => ask_invalid asked (Except.error.inj same)
        | _ =>
          rw [asked] at entered
          cases entered
      | ok kept =>
        obtain ⟨half, -⟩ := enter_cases on runs entered
        have stays : k₁.registry.Sustains id name := by
          refine h.sustains.entered half ?_
          rintro rfl running
          rw [enter_eq, (idles running).ask running] at entered
          cases entered
        obtain ⟨context, k', done, sustains⟩ := h.rest.dispatch_sustains on entered stays
        rw [done] at rest ⊢
        refine ⟨⟨rest, sustains, ?_⟩, nofun⟩
        rw [halted_dispatch runs done]
        exact nofun

theorem idling_syscall {r : Request} (left : k.request r = .ok k')
    (idling : k.Idling id (.call (.syscall r saved))) : k'.running = some id → k'.Idles := by
  refine idling (k', saved) ?_
  rw [trapping, left]
  rfl

/-- The dispatcher has no part in it, and the process goes on contending. -/
theorem outside (h : k.Lasts id name) {n : Note} (outcome : k.Outcome n k')
    (sustains : k'.registry.Sustains id name) (halted : k'.halted = k.halted) :
    k'.Lasts id name :=
  ⟨h.rest.outcome outcome, sustains, by rw [halted]; exact h.fed⟩

theorem update {ε α : Type} {result : Except ε α} {part : α → Kernel} (h : k.Lasts id name)
    (done : ∀ a, result = .ok a → (part a).Lasts id name) :
    (k.update result part).Lasts id name := by
  cases result with
  | error e => exact h
  | ok a => exact done a rfl

/-- What moves processes between queues leaves it where it contends. -/
theorem moved (h : k.Lasts id name) {r : Registry} (moves : Moves k.registry r)
    (contends : r.Contends id.index name) : Lasts id name { k with registry := r } := by
  obtain ⟨who, -, -, runs⟩ := h.rest.runs
  obtain ⟨order, hs⟩ := runs.sound
  exact h.outside (.moved moves) (h.sustains.of_slots (moves order hs).2.slots contends) rfl

theorem request (h : k.Lasts id name) {r : Request} (left : k.request r = .ok k') :
    k'.Lasts id name := by
  rw [request_ok left]
  exact h.outside (.outside (k.slot.post r) k.device.port k.shared k.shutdownRequested)
    h.sustains rfl

theorem call (h : k.Lasts id name) {c : KernelCall} (idling : k.Idling id (.call c))
    (unharmed : harms name c = false) : (k.call c).Lasts id name := by
  obtain ⟨who, -, -, runs⟩ := h.rest.runs
  obtain ⟨order, hs⟩ := runs.sound
  have contends := h.sustains.contends
  have outcome := Outcome.call k c
  cases c with
  | dispatch saved => exact (h.dispatch (idling (k, saved) rfl) saved).1
  | syscall r saved =>
    simp only [Kernel.call, Kernel.syscall]
    cases left : k.request r with
    | error e => exact h
    | ok k' => exact ((h.request left).dispatch (idling_syscall left idling) saved).1
  | request r => exact h.update fun k' left => h.request left
  | post r => exact h.outside outcome h.sustains rfl
  | serviceInterrupts => exact h.outside outcome h.sustains rfl
  | requestShutdown => exact h.outside outcome h.sustains rfl
  | outside shared uart => exact h.outside outcome h.sustains rfl
  | create name' owner priority =>
    refine h.update fun result done => ?_
    obtain ⟨id', r, m, created, rfl⟩ := create_ok done
    obtain ⟨record, joins, -, process⟩ := hs.create_process created
    exact h.outside (.created created) (h.sustains.joined joins process) rfl
  | load name' owner priority entry =>
    refine h.update fun result done => ?_
    obtain ⟨id', r, m, loaded, rfl⟩ := load_ok done
    obtain ⟨record, joins, -, process⟩ := hs.load_process loaded
    exact h.outside (.loaded loaded) (h.sustains.joined joins process) rfl
  | delete name' =>
    refine h.update fun result done => ?_
    obtain ⟨id', r, m, deleted, rfl⟩ := delete_ok done
    exact h.outside (.deleted deleted) (h.sustains.delete (of_decide_eq_false unharmed) deleted) rfl
  | block name' =>
    refine h.update fun result done => ?_
    obtain ⟨b, r, blocked, rfl⟩ := block_ok done
    exact h.moved (fun order hs => ⟨hs.block blocked, .block blocked⟩)
      (contends.block (of_decide_eq_false unharmed) blocked)
  | unblock name' =>
    refine h.update fun result done => ?_
    obtain ⟨b, r, unblocked, rfl⟩ := unblock_ok done
    exact h.moved (fun order hs => ⟨hs.unblock unblocked, .unblock unblocked⟩)
      (contends.unblock unblocked)
  | suspend name' =>
    exact h.moved (fun order hs => ⟨hs.suspend name', .suspend _ name'⟩)
      (contends.suspend (of_decide_eq_false unharmed))
  | resume name' =>
    exact h.moved (fun order hs => ⟨hs.resume name', .resume _ name'⟩) (contends.resume name')
  | resumeAll =>
    exact h.moved (fun order hs => ⟨hs.resumeAll, hs.rearranged_resumeAll⟩) (contends.resumeAll hs)
  | setPriority name' priority =>
    refine h.update fun result done => ?_
    obtain ⟨r, changed, rfl⟩ := setPriority_ok done
    exact h.moved (fun order hs => ⟨hs.setPriority changed, .setPriority changed⟩)
      (contends.setPriority changed)
  | shutdown => cases unharmed

theorem step (h : k.Lasts id name) {e : KernelEvent} (idling : k.Idling id e)
    (untouched : touches name e = false) : (k.step e).Lasts id name := by
  cases e with
  | call c => exact h.call idling untouched
  | shell c =>
    rw [Kernel.step]
    rcases k.shell_cases c with ⟨-, eq⟩ | eq <;> rw [eq]
    · exact h
    · refine h.call ?_ untouched
      cases c <;> trivial
  | driver port shared => exact h.outside (k.outcome (.driver port shared)) h.sustains rfl

theorem fatal? (h : k.Lasts id name) {e : KernelEvent} (idling : k.Idling id e) :
    k.fatal? e ≠ some .emptyReadyQueue := by
  have quiet : none ≠ some Fatal.emptyReadyQueue := (Option.some_ne_none _).symm
  cases e with
  | shell | driver => exact quiet
  | call c =>
    cases c with
    | dispatch saved =>
      have fed := (h.dispatch (idling (k, saved) rfl) saved).2
      rw [Kernel.fatal?]
      cases answer : (k.dispatch saved).1 with
      | ok context => exact quiet
      | error fatal =>
        exact fun same => fed (answer.trans (congrArg Except.error (Option.some.inj same)))
    | syscall r saved =>
      rw [Kernel.fatal?, Kernel.syscall]
      cases left : k.request r with
      | error e => exact quiet
      | ok k' =>
        have fed := ((h.request left).dispatch (idling_syscall left idling) saved).2
        cases answer : (k'.dispatch saved).1 with
        | ok context =>
          simp only [answer]
          exact quiet
        | error fatal =>
          simp only [answer]
          exact fun same => fed (answer.trans (congrArg Except.error (Option.some.inj same)))
    | _ => exact quiet

end Lasts

/-- At every moment of a run the process of this handle is ready or runs, and no trap reports that
nobody is left to run. -/
def Fed (id : ProcessId) (name : String) : Kernel → List KernelEvent → Prop
  | k, [] => k.registry.Available id name
  | k, e :: events =>
    k.registry.Available id name ∧ k.fatal? e ≠ some .emptyReadyQueue ∧
      Fed id name (k.step e) events

theorem Lasts.steps (h : k.Lasts id name) {events : List KernelEvent}
    (alone : LeftAlone id name k events) : Fed id name k events := by
  induction events generalizing k with
  | nil => exact sustains_iff.mp h.sustains
  | cons e events ih =>
    obtain ⟨idling, untouched, rest⟩ := alone
    exact ⟨sustains_iff.mp h.sustains, h.fatal? idling, ih (h.step idling untouched) rest⟩

/-- Whatever has happened to a kernel since it was booted, unless it was halted: if from now on a
process that is ready or runs only gives up the processor, and is neither blocked, suspended nor
deleted, and the kernel is not shut down, then the process is ready or runs at every moment, and no
trap finds that nobody is left to run. -/
theorem fed_steps {p : Process} (booted : boot c uart = .ok k) (events : List KernelEvent)
    (on : (events.foldl step k).halted = none)
    (got : (events.foldl step k).registry.get id = some p)
    (contends : p.state = .ready ∨ p.state = .running) {later : List KernelEvent}
    (alone : LeftAlone id p.name (events.foldl step k) later) :
    Fed id p.name (events.foldl step k) later := by
  have lasts : (events.foldl step k).Lasts id p.name := by
    refine ⟨AtRest.steps booted events, sustains_iff.mpr ⟨p, got, rfl, contends⟩, ?_⟩
    rw [on]
    exact nofun
  exact lasts.steps alone

/-- The process that only gives up the processor, and two that outrank it. -/
def outranked (k : Kernel) : List KernelEvent :=
  [.call (.create "idle" .system 0), .call (.create "writer" .user 5),
    .call (.create "worker" .user 5),
    .call (.outside (k.shared.addBuffer (.forWrite [0x61])).2 k.device.port.uart),
    .call (.dispatch .zero)]

/-- One of the two waits for a transfer and the other one ends. The process is alone until the
transfer is complete, and a request that makes no sense halts the kernel in the end. -/
def dwindling : List KernelEvent :=
  [.call (.syscall ⟨Operation.write.code, .serial, some ⟨0⟩⟩ .zero),
    .call (.syscall (.control .exit) .zero), .call (.syscall (.control .idle) .zero),
    .call .serviceInterrupts, .call (.post (.control .idle)), .call (.dispatch .zero),
    .shell .resumeAll, .call (.setPriority "idle" 9), .call (.post ⟨77, .serial, none⟩),
    .call (.dispatch .zero)]

theorem fed_steps_dwindling :
    ∃ k, boot { processes := [] } (Uart.create com1 true) = .ok k ∧
      (dwindling.foldl step ((outranked k).foldl step k)).halted =
        some (.invalidRequest (some 77)) ∧
      Fed ⟨0, 0⟩ "idle" ((outranked k).foldl step k) dwindling := by
  obtain ⟨k, booted⟩ : ∃ k, boot { processes := [] } (Uart.create com1 true) = .ok k :=
    boot_ok rfl rfl (by decide) (by decide) (by decide)
  have ends : ((boot { processes := [] } (Uart.create com1 true)).toOption.map fun k =>
      (((outranked k).foldl step k).halted,
        ((outranked k).foldl step k).registry.get ⟨0, 0⟩ |>.map fun p => (p.name, p.state),
        (dwindling.foldl step ((outranked k).foldl step k)).halted,
        decide (LeftAlone ⟨0, 0⟩ "idle" ((outranked k).foldl step k) dwindling))) =
      some (none, some ("idle", .ready), some (.invalidRequest (some 77)), true) := by
    decide +kernel
  rw [booted] at ends
  obtain ⟨on, rest⟩ := Prod.mk.inj (Option.some.inj ends)
  obtain ⟨there, rest⟩ := Prod.mk.inj rest
  obtain ⟨halted, alone⟩ := Prod.mk.inj rest
  obtain ⟨p, got, eq⟩ := Option.map_eq_some_iff.mp there
  obtain ⟨name, state⟩ := Prod.mk.inj eq
  have fed := fed_steps booted (outranked k) on got (Or.inl state)
    (name.symm ▸ of_decide_eq_true alone)
  exact ⟨k, booted, halted, name ▸ fed⟩

end Kernel

end TrapKernel
