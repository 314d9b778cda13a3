import TrapKernel.Proofs.Process.Filing
import TrapKernel.Proofs.Process.Turns
import TrapKernel.Proofs.Process.Views

/-!
# A registry is a roll

Every call of a registry is answered as the same call of a roll is, and the roll goes on saying what
the registry holds. The dispatcher puts back only processes that run.
-/

namespace TrapKernel

/-! ### The tables of the registry are those of the roll -/

namespace StateChange

theorem target_block : block.target = Registry.blockTarget := by
  funext s
  cases s <;> rfl

theorem target_unblock : unblock.target = Registry.unblockTarget := by
  funext s
  cases s <;> rfl

theorem target_suspend : suspend.target = Registry.suspendTarget := by
  funext s
  cases s <;> rfl

theorem target_resume : resume.target = Registry.resumeTarget := by
  funext s
  cases s <;> rfl

end StateChange

namespace Card

theorem ranks_iff {s : ProcessState} :
    ranks s = true ↔ (QueueKind.ofState s).map (·.discipline) = some .priority := by
  cases s <;> decide

theorem queue?_eq (c : Card) : c.queue? = QueueKind.ofState c.state := by
  rw [queue?]
  cases c.state <;> rfl

end Card

namespace Registry

open ProcessTable

variable {r r' : Registry} {m m' : Roll} {c : Card} {p q : Process} {i : Nat} {id : ProcessId}
  {name : String} {α : Type}

/-! ### What is known of a card -/

namespace Mirrors

theorem info_eq (has : r.Has m c p) : r.info c.id.index = some c.info := by
  have id := idAt_of_resolve has.resolved
  rw [info, has.found, Option.map_some, Card.info, id, has.describes.name, has.describes.owner,
    has.describes.state, has.describes.priority]

/-- The first ready process begins to run. -/
theorem takeReadyHead (h : r.Mirrors m) :
    (r.perform .takeReadyHead).1 = m.takeReadyHead.1 ∧
      (r.perform .takeReadyHead).2.Mirrors m.takeReadyHead.2 := by
  unfold Roll.takeReadyHead
  cases list : m.list .ready with
  | nil =>
    have order : m.order .ready = [] := by
      rw [Roll.order, QueueKind.state, list]
      rfl
    rw [perform, h.sound.takeReadyHead_none order]
    exact ⟨rfl, h⟩
  | cons c rest =>
    obtain ⟨p, has, -⟩ := h.has (list ▸ List.mem_cons_self)
    have order : m.order .ready = c.id.index :: rest.map (·.id.index) := by
      rw [Roll.order, QueueKind.state, list]
      rfl
    obtain ⟨r', p', taken, found, sound, -, -, round⟩ := h.sound.takeReadyHead order
    obtain rfl := Option.some.inj (found.symm.trans has.found)
    obtain ⟨i, head, -, slots, process, -⟩ := takeReadyHead_ok taken
    have first : i = c.id.index := by
      rw [show r.ready.head = (m.order .ready).head? from (h.sound.threads .ready).head, order]
        at head
      exact (Option.some.inj head).symm
    rw [first] at process
    rw [perform, taken, idAt_of_resolve has.resolved]
    let c' : Card := { c with state := .running }
    let m' : Roll := { (m.without c.id).enter c' with round := max m.round c.round }
    suffices mirrors : r'.Mirrors m' from ⟨rfl, mirrors⟩
    refine ⟨?_, ?_, h.handles.trans slots.handles.symm, ?_⟩
    · have outside : ((m.without c.id).enter c').order = (m.without c.id).order := by
        funext k
        exact congrArg (List.map _) (if_neg (queueKind_state_ne_running k))
      rw [← h.order_without has, ← outside] at sound
      exact sound
    · have describes : c'.Describes { p' with state := .running } :=
        ⟨has.describes.name, has.describes.owner, has.describes.priority, rfl,
          has.describes.record, has.describes.round, has.describes.holds.of_matter rfl⟩
      have unranked : c'.state ≠ .readySuspended := show ProcessState.running ≠ _ by decide
      have files : ((m.without c.id).enter c').Files r'.get :=
        h.reenter (f := ({ · with state := .running })) has slots process rfl describes
          (absurd · unranked)
      exact ⟨files.nodup, files.card, files.complete, files.unranked⟩
    · show max m.round c.round = r'.round
      rw [round, has.describes.round, h.round]

/-- What is shown of a queue. -/
theorem shown (h : r.Mirrors m) (k : QueueKind) :
    (r.members k).filterMap r.info = (m.list k.state).map (·.info) := by
  rw [h.sound.toQueued.members k, Roll.order, List.filterMap_map]
  rw [List.filterMap_congr (g := fun c => some c.info), List.filterMap_eq_map']
  intro c hc
  obtain ⟨p, has, -⟩ := h.has hc
  exact info_eq has

theorem snapshot (h : r.Mirrors m) (k k' : QueueKind) :
    r.snapshot [k, k'] = (m.list k.state ++ m.list k'.state).map (·.info) := by
  simp only [Registry.snapshot, List.flatMap_cons, List.flatMap_nil, List.append_nil,
    List.filterMap_append, h.shown, List.map_append]

end Mirrors

/-! ### Answers -/

/-- A registry and a roll answered alike, and the roll still says what the registry holds. -/
structure Agrees (x : α × Registry) (y : α × Roll) : Prop where
  answer : x.1 = y.1
  mirrors : x.2.Mirrors y.2

/-- A registry and a roll refused for the same reason, or did what was asked and agree. -/
inductive Accord :
    Except RegistryError (α × Registry) → Except RegistryError (α × Roll) → Prop where
  | refused (e : RegistryError) : Accord (.error e) (.error e)
  | done (a : α) {r : Registry} {m : Roll} (mirrors : r.Mirrors m) :
    Accord (.ok (a, r)) (.ok (a, m))

theorem Accord.settled {x : Except RegistryError (α × Registry)}
    {y : Except RegistryError (α × Roll)} (h : r.Mirrors m) (accord : Accord x y) :
    Agrees (settled r x) (settled m y) := by
  cases accord with
  | refused e => exact ⟨rfl, h⟩
  | done a mirrors => exact ⟨rfl, mirrors⟩

theorem map_bind {ε β γ δ : Type} (x : Except ε β) (f : β → Except ε γ) (g : γ → δ) :
    (x >>= f).map g = x >>= fun a => (f a).map g := by
  cases x <;> rfl

namespace Mirrors

theorem withName (h : r.Mirrors m) (name : String) {f : Nat → Except RegistryError (α × Registry)}
    {g : Card → Except RegistryError (α × Roll)}
    (each : ∀ c p, r.Has m c p → p.name = name → Accord (f c.id.index) (g c)) :
    Accord (r.position name >>= f) (m.withName name g) := by
  unfold Registry.position Roll.withName
  cases found : r.table.position name with
  | none =>
    rw [h.not_named found]
    exact .refused _
  | some i =>
    obtain ⟨c, p, named, rfl, same, has⟩ := h.named found
    rw [named]
    exact each c p has same

theorem withHandle (h : r.Mirrors m) (id : ProcessId)
    {f : Nat → Except RegistryError (α × Registry)}
    {g : Card → Except RegistryError (α × Roll)}
    (each : ∀ c p, r.Has m c p → c.id = id → Accord (f c.id.index) (g c)) :
    Accord (r.resolve id >>= f) (m.withHandle id g) := by
  unfold Registry.resolve Roll.withHandle
  cases resolved : r.table.resolve id with
  | none =>
    rw [h.no_holder resolved]
    exact .refused _
  | some i =>
    obtain ⟨c, p, holder, rfl, rfl, has⟩ := h.holder resolved
    rw [holder]
    exact each c p has rfl

theorem shiftIdle (h : r.Mirrors m) (has : r.Has m c p)
    (target : ProcessState → Option ProcessState) :
    Accord (do r.notRunning c.id.index; return r.shift c.id.index target)
      (m.shiftIdle c target) := by
  unfold Registry.notRunning Roll.shiftIdle
  rw [has.found, has.describes.state, has.describes.name]
  simp only []
  split
  · exact .refused _
  · obtain ⟨answer, mirrors⟩ := h.shift has target
    have same : m.shift c target =
        ((r.shift c.id.index target).1, (m.shift c target).2) := by rw [answer]
    rw [same]
    exact .done _ mirrors

theorem shiftNamed (h : r.Mirrors m) (name : String)
    (target : ProcessState → Option ProcessState) :
    Agrees (match r.table.position name with
      | none => (false, r)
      | some i => r.shift i target) (m.shiftNamed name target) := by
  unfold Roll.shiftNamed
  cases found : r.table.position name with
  | none =>
    rw [h.not_named found]
    exact ⟨rfl, h⟩
  | some i =>
    obtain ⟨c, p, named, rfl, -, has⟩ := h.named found
    rw [named]
    obtain ⟨answer, mirrors⟩ := h.shift has target
    exact ⟨answer, mirrors⟩

/-! ### Calls -/

theorem accord_create (h : r.Mirrors m) (memory : Memory) (name : String) (owner : ProcessClass)
    (priority : Nat) :
    Accord ((r.create memory name owner priority).map fun (id, r, m) => ((id, m), r))
      (m.create memory name owner priority) := by
  cases done : r.create memory name owner priority with
  | error e =>
    rw [h.create_refused done]
    exact .refused e
  | ok result =>
    obtain ⟨m', created, mirrors⟩ := h.create done
    rw [created]
    exact .done _ mirrors

theorem accord_load (h : r.Mirrors m) (memory : Memory) (name : String) (owner : ProcessClass)
    (priority : Nat) (entry : UInt32) :
    Accord ((r.load memory name owner priority entry).map fun (id, r, m) => ((id, m), r))
      (m.load memory name owner priority entry) := by
  cases done : r.create memory name owner priority with
  | error e =>
    rw [Registry.load, done, Roll.load, h.create_refused done]
    exact .refused e
  | ok result =>
    have loaded : r.load memory name owner priority entry = .ok (result.1,
        (result.2.1.modifyProcess result.1.index (·.prepare entry)).moveTo result.1.index
          .readySuspended, result.2.2) := by
      rw [Registry.load, done]
      rfl
    obtain ⟨m', loaded', mirrors⟩ := h.load loaded
    rw [loaded, loaded']
    exact .done _ mirrors

theorem roll_destroy (h : r.Mirrors m) (has : r.Has m c p) (memory : Memory) :
    m.destroy memory c.id = .ok (memory.release c.record,
      { m.without c.id with handles := m.handles.retire c.id }) := by
  obtain ⟨c', p', holder, same, -, has'⟩ := h.holder has.resolved
  obtain rfl := h.files.unique has'.mem has.mem same
  rw [Roll.destroy, Roll.withHandle, holder]

theorem accord_delete (h : r.Mirrors m) (memory : Memory) (name : String) :
    Accord ((r.delete memory name).map fun (id, r, m) => ((id, m), r)) (m.delete memory name) := by
  rw [Registry.delete, map_bind]
  refine h.withName name fun c p has _ => ?_
  simp only [has.stateAt, Option.some.injEq]
  split
  · exact .refused _
  · obtain ⟨r', done, mirrors⟩ := h.destroy has memory
    rw [idAt_of_resolve has.resolved, done, h.roll_destroy has memory]
    exact .done _ mirrors

theorem accord_destroy (h : r.Mirrors m) (memory : Memory) (id : ProcessId) :
    Accord ((r.destroy memory id).map fun (r, m) => (m, r)) (m.destroy memory id) := by
  cases resolved : r.table.resolve id with
  | none =>
    rw [Registry.destroy, Registry.resolve, resolved, Roll.destroy, Roll.withHandle,
      h.no_holder resolved]
    exact .refused _
  | some i =>
    obtain ⟨c, p, -, rfl, -, has⟩ := h.holder resolved
    obtain ⟨r', done, mirrors⟩ := h.destroy has memory
    rw [done, h.roll_destroy has memory]
    exact .done _ mirrors

theorem accord_setPriority (h : r.Mirrors m) (name : String) (priority : Nat) :
    Accord ((r.setPriority name priority).map ((), ·)) (m.setPriority name priority) := by
  unfold Registry.setPriority Roll.setPriority
  split
  · exact .refused _
  rename_i admissible
  have le := Nat.le_of_not_lt admissible
  rw [map_bind]
  refine h.withName name fun c p has _ => ?_
  let f : Process → Process := ({ · with priority })
  have changed : (r.modifyProcess c.id.index f).table.process? c.id.index = some (f p) := by
    rw [Registry.modifyProcess, process?_modifyProcess, if_pos rfl, has.found]
    rfl
  simp only [show (r.modifyProcess c.id.index ({ · with priority })).table.process? c.id.index =
    some (f p) from changed, has.describes.state, Card.ranks_iff]
  split
  · have mirrors := h.reprioritize has le
    rw [has.describes.state] at mirrors
    exact .done () mirrors
  · rename_i notRanked
    have sound := h.sound.modifyPriority has.found le notRanked
    exact .done () (h.rewrite has sound (fun _ => rfl) rfl rfl ⟨has.describes.name,
      has.describes.owner, rfl, has.describes.state, has.describes.record, has.describes.round,
      has.describes.holds.of_matter rfl⟩)

theorem accord_requeueYielded (h : r.Mirrors m)
    (running : ∀ p, r.get id = some p → p.state = .running) :
    Accord ((r.requeueYielded id).map ((), ·)) (m.withHandle id fun c =>
      .ok ((), (m.without id).enter (c.goingTo .ready (c.round + 1)))) := by
  rw [Registry.requeueYielded, map_bind]
  refine h.withHandle id fun c p has same => ?_
  have running := running p (same ▸ get_eq_some.mpr ⟨_, has.resolved, has.found⟩)
  have mirrors := h.settle has running .ready (p.round + 1)
  rw [has.found, ← same, has.describes.round]
  exact .done () mirrors

theorem accord_parkBlocked (h : r.Mirrors m)
    (running : ∀ p, r.get id = some p → p.state = .running) :
    Accord ((r.parkBlocked id).map ((), ·)) (m.withHandle id fun c =>
      .ok ((), (m.without id).enter (c.goingTo .blocked m.round))) := by
  rw [Registry.parkBlocked, map_bind]
  refine h.withHandle id fun c p has same => ?_
  have running := running p (same ▸ get_eq_some.mpr ⟨_, has.resolved, has.found⟩)
  have mirrors := h.settle has running .blocked r.round
  rw [← same, h.round]
  exact .done () mirrors

theorem accord_saveContext (h : r.Mirrors m) (id : ProcessId) (context : Context) :
    Accord ((r.saveContext id context).map ((), ·)) (m.withHandle id fun c =>
      .ok ((), m.rewrite c ({ · with context }))) := by
  rw [Registry.saveContext, map_bind]
  refine h.withHandle id fun c p has _ => ?_
  have sound := h.sound.modifyProcess_rank (i := c.id.index) (f := (·.saveContext context))
    (fun _ => rfl) (fun _ => rfl) (fun _ => rfl) (fun _ => rfl)
  exact .done () (h.rewrite has sound (fun _ => rfl) rfl rfl ⟨has.describes.name,
    has.describes.owner, has.describes.priority, has.describes.state, has.describes.record,
    has.describes.round, Process.holds_saveContext has.describes.holds.length context⟩)

theorem context (h : r.Mirrors m) (id : ProcessId) :
    r.context id = m.withHandle id fun c => .ok c.context := by
  unfold Registry.context Registry.resolve Roll.withHandle
  cases resolved : r.table.resolve id with
  | none =>
    rw [h.no_holder resolved]
    rfl
  | some i =>
    obtain ⟨c, p, holder, rfl, rfl, has⟩ := h.holder resolved
    rw [holder]
    simp only [bind, Except.bind, has.found]
    exact congrArg Except.ok has.describes.holds.context

theorem «show» (h : r.Mirrors m) (name : String) : r.show name = (m.named name).map (·.info) := by
  rw [Registry.show]
  cases found : r.table.position name with
  | none => rw [h.not_named found, Option.bind_none, Option.map_none]
  | some i =>
    obtain ⟨c, p, named, rfl, -, has⟩ := h.named found
    rw [named, Option.bind_some, info_eq has, Option.map_some]

/-- A process is found in the queue of its state. -/
theorem find (h : r.Mirrors m) (name : String) :
    r.find name = (m.named name).bind (·.queue?) := by
  rw [h.sound.find_eq, h.show, Option.bind_map]
  congr 1
  funext c
  exact c.queue?_eq.symm

theorem isSystem (h : r.Mirrors m) (name : String) :
    r.isSystem name = (m.named name).map fun c => decide (c.owner = .system) := by
  rw [Registry.isSystem, Registry.named]
  cases found : r.table.position name with
  | none => rw [h.not_named found, Option.bind_none, Option.map_none, Option.map_none]
  | some i =>
    obtain ⟨c, p, named, rfl, -, has⟩ := h.named found
    rw [named, Option.bind_some, has.found, Option.map_some, Option.map_some,
      has.describes.owner]
    rfl

end Mirrors

/-- The dispatcher puts back only processes that run, and parks no others (`Kernel.reached_steps`).
Everything else may be asked at any time. -/
def Allows (r : Registry) : Call α → Prop
  | .requeueYielded id | .parkBlocked id => ∀ p, r.get id = some p → p.state = .running
  | _ => True

/-- A call that is allowed is answered as the roll answers it. -/
theorem Mirrors.perform (h : r.Mirrors m) (call : Call α) (allowed : r.Allows call) :
    Agrees (r.perform call) (m.perform call) := by
  cases call with
  | create memory name owner priority =>
    exact (h.accord_create memory name owner priority).settled h
  | load memory name owner priority entry =>
    exact (h.accord_load memory name owner priority entry).settled h
  | delete memory name => exact (h.accord_delete memory name).settled h
  | destroy memory id => exact (h.accord_destroy memory id).settled h
  | block name =>
    rw [Roll.perform, StateChange.target_block]
    exact (h.withName name fun c p has _ => h.shiftIdle has _).settled h
  | unblock name =>
    rw [Roll.perform, StateChange.target_unblock]
    exact (h.withName name fun c p has _ => h.shiftIdle has _).settled h
  | release id =>
    rw [Roll.perform, StateChange.target_unblock]
    exact (h.withHandle id fun c p has _ => h.shiftIdle has _).settled h
  | suspend name =>
    rw [Roll.perform, StateChange.target_suspend]
    exact h.shiftNamed name suspendTarget
  | resume name =>
    rw [Roll.perform, StateChange.target_resume]
    exact h.shiftNamed name resumeTarget
  | resumeAll => exact ⟨h.resumeAll.1, h.resumeAll.2⟩
  | setPriority name priority => exact (h.accord_setPriority name priority).settled h
  | takeReadyHead => exact ⟨h.takeReadyHead.1, h.takeReadyHead.2⟩
  | requeueYielded id => exact (h.accord_requeueYielded allowed).settled h
  | parkBlocked id => exact (h.accord_parkBlocked allowed).settled h
  | saveContext id context => exact (h.accord_saveContext id context).settled h
  | context id => exact ⟨h.context id, h⟩
  | find name => exact ⟨h.find name, h⟩
  | «show» name => exact ⟨h.show name, h⟩
  | isSystem name => exact ⟨h.isSystem name, h⟩
  | showReady => exact ⟨h.snapshot .ready .suspendedReady, h⟩
  | showBlocked => exact ⟨h.snapshot .blocked .suspendedBlocked, h⟩

/-! ### Any number of calls -/

/-- Every one of the calls is allowed when it is made. -/
def Permits : Registry → List AnyCall → Prop
  | _, [] => True
  | r, c :: calls => r.Allows c.2 ∧ (r.perform c.2).2.Permits calls

theorem mirrors_empty : empty.Mirrors .empty where
  sound := sound_empty
  files := ⟨fun _ => .nil, fun _ _ => nofun, fun _ _ => nofun, fun _ => nofun⟩
  handles := rfl
  round := rfl

theorem Mirrors.after (h : r.Mirrors m) (calls : List AnyCall) (permitted : r.Permits calls) :
    (r.after calls).Mirrors (m.after calls) := by
  induction calls generalizing r m with
  | nil => exact h
  | cons c calls ih => exact ih (h.perform c.2 permitted.1).mirrors permitted.2

/-- What a registry and its roll show to those who look at them. -/
structure Shows (r : Registry) (m : Roll) : Prop where
  /-- The same processes are in the queues, in the same order. -/
  queues : ∀ k, (r.members k).map r.table.idAt = (m.list k.state).map (·.id)
  /-- Each of them has the state of its list, and is what its card says. -/
  cards : ∀ s, ∀ c ∈ m.list s, c.state = s ∧ ∃ p, r.get c.id = some p ∧ c.Describes p
  complete : ∀ id p, r.get id = some p → ∃ c ∈ m.list p.state, c.id = id
  round : r.round = m.round

theorem Mirrors.shows (h : r.Mirrors m) : r.Shows m where
  queues k := by
    rw [h.sound.toQueued.members k, Roll.order, List.map_map]
    refine List.map_congr_left fun c hc => ?_
    obtain ⟨p, has, -⟩ := h.has hc
    exact idAt_of_resolve has.resolved
  cards := h.files.card
  complete := h.files.complete
  round := h.round.symm

/-- A registry is a roll to everybody who asks it something. -/
structure Refines (r : Registry) (m : Roll) : Prop where
  shows : r.Shows m
  /-- Both answer alike, and show the same afterwards. -/
  perform : ∀ {α : Type} (call : Call α), r.Allows call →
    (r.perform call).1 = (m.perform call).1 ∧ (r.perform call).2.Shows (m.perform call).2
  /-- The cards that a call is not about stay as they are, and in their order. -/
  others : ∀ {α : Type} (call : Call α) (s : ProcessState),
    ((m.perform call).2.list s).filter (·.id ∉ m.subjects call) =
      (m.list s).filter (·.id ∉ m.subjects call)
  /-- The ready are in the order of dispatch, and the first of them is dispatched. -/
  ready : (m.list .ready).Pairwise Card.Earlier
  dispatched : (r.perform .takeReadyHead).1 = (m.list .ready).head?.map (·.id)

theorem Mirrors.refines (h : r.Mirrors m) (inOrder : m.InOrder) : r.Refines m where
  shows := h.shows
  perform call allowed :=
    have agrees := h.perform call allowed
    ⟨agrees.answer, agrees.mirrors.shows⟩
  others call := (m.keeps_perform inOrder call).others
  ready := inOrder.sorted .ready
  dispatched := by
    rw [h.takeReadyHead.1, Roll.takeReadyHead]
    cases m.list .ready <;> rfl

/-- Whatever was asked of a registry, it has become what the roll became of which the same was
asked, and it goes on answering as the roll does. -/
theorem refines_calls (calls : List AnyCall) (permitted : empty.Permits calls) :
    (empty.after calls).Refines (Roll.empty.after calls) :=
  (mirrors_empty.after calls permitted).refines (Roll.inOrder_empty.after calls)

/-- Two processes are created, the first of them gets its turn and yields, and then it gets the
highest priority. -/
def yielding : List AnyCall :=
  [⟨_, .create (.bump (.create 2000)) "first" .user 3⟩,
    ⟨_, .create (.bump (.create 2000)) "second" .user 3⟩,
    ⟨_, .takeReadyHead⟩, ⟨_, .requeueYielded ⟨0, 0⟩⟩, ⟨_, .setPriority "first" 9⟩]

/-- The second is next all the same, because the first waits for the next round. -/
theorem refines_calls_yielding : empty.Permits yielding ∧
    (empty.after yielding).Refines (Roll.empty.after yielding) ∧
    ((Roll.empty.after yielding).list .ready).map (·.id) = [⟨1, 0⟩, ⟨0, 0⟩] := by
  have runs : ((empty.after (yielding.take 3)).get ⟨0, 0⟩).map (·.state) = some .running := by
    decide +kernel
  have permitted : empty.Permits yielding := by
    refine ⟨trivial, trivial, trivial, fun p got => ?_, trivial, trivial⟩
    have state := congrArg (Option.map (·.state)) got
    exact Option.some.inj (state.symm.trans runs)
  exact ⟨permitted, refines_calls yielding permitted, by decide +kernel⟩

end Registry

end TrapKernel
