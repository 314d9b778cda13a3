import TrapKernel.Proofs.Process.Ranked
import TrapKernel.Proofs.Process.Refinement

/-!
# Who is in line for the processor

When it comes to whose turn it is, a process is no more than its name, its priority and the round
for which it waits. A registry has a lineup: the processes that run, those that are ready, and those
that would be if they were not suspended, in the order of their lists. This is how the operations
that a process meets on its way to the processor change it.
-/

namespace TrapKernel

/-- A process, as far as that decides when it is dispatched. -/
structure Waiter where
  id : ProcessId
  name : String
  priority : Nat
  round : Nat

namespace Waiter

variable {w : Waiter} {l : List Waiter}

/-- A waiter stays ahead of one that joins later. -/
def ahead (w late : Waiter) : Bool :=
  w.round < late.round ∨ w.round = late.round ∧ late.priority ≤ w.priority

/-- A process that ran waits for the round after the one in which it ran. -/
def later (w : Waiter) : Waiter := { w with round := w.round + 1 }

/-- A waiter joins a line, behind all that stay ahead of it. -/
def join (w : Waiter) (l : List Waiter) : List Waiter :=
  l.filter (·.ahead w) ++ w :: l.filter (!·.ahead w)

theorem join_last (all : ∀ v ∈ l, v.ahead w = true) : w.join l = l ++ [w] := by
  rw [join, List.filter_eq_self.mpr all, List.filter_eq_nil_iff.mpr fun v hv => by simp [all v hv]]

/-- While all wait for the same round, a line is in order of priority, and whoever comes last is put
behind all others of his priority. -/
theorem join_ranked (same : ∀ v ∈ l, v.round = w.round) :
    w.join (ranked priority l) = ranked priority (l ++ [w]) := by
  have ahead : ∀ v ∈ ranked priority l, v.ahead w = decide (w.priority ≤ v.priority) := by
    intro v hv
    simp [Waiter.ahead, same v (mem_ranked.mp hv)]
  rw [ranked_append_singleton, join, List.filter_congr ahead,
    List.filter_congr fun v hv => congrArg (!·) (ahead v hv)]

/-- Who comes in order of priority lines up in that order. -/
theorem foldl_join (front : List Waiter) {round : Nat} (same : ∀ v ∈ front ++ l, v.round = round)
    (descends : Descends priority (front ++ l)) :
    l.foldl (fun line w => Waiter.join { w with round } line) front = front ++ l := by
  induction l generalizing front with
  | nil => exact (List.append_nil front).symm
  | cons w l ih =>
    have now : ({ w with round } : Waiter) = w := by
      rw [← same w (List.mem_append_right front List.mem_cons_self)]
    have last : w.join front = front ++ [w] := by
      refine join_last fun v hv => ?_
      have above := (List.pairwise_append.mp descends).2.2 v hv w List.mem_cons_self
      simp [ahead, same v (List.mem_append_left _ hv),
        same w (List.mem_append_right front List.mem_cons_self), above]
    rw [List.append_cons] at same descends ⊢
    rw [List.foldl_cons, now, last]
    exact ih _ same descends

end Waiter

/-- Who is in line. -/
structure Lineup where
  running : List Waiter
  ready : List Waiter
  suspended : List Waiter
  /-- The round that is being dispatched. -/
  round : Nat

/-- The part of a card that decides when its process is dispatched. -/
def Card.waiter (c : Card) : Waiter := ⟨c.id, c.name, c.priority, c.round⟩

theorem Card.map_waiter_put {c : Card} {l : List Card}
    (same : ∀ d ∈ l, d.staysAhead c = d.waiter.ahead c.waiter) :
    (c.put l).map waiter = c.waiter.join (l.map waiter) := by
  have front : l.filter (·.staysAhead c) = l.filter ((·.ahead c.waiter) ∘ waiter) :=
    List.filter_congr same
  have back : l.filter (!·.staysAhead c) = l.filter ((!·.ahead c.waiter) ∘ waiter) :=
    List.filter_congr fun d hd => congrArg (!·) (same d hd)
  rw [put, Waiter.join, List.map_append, List.map_cons, front, back, List.filter_map,
    List.filter_map]

namespace Roll

variable {m : Roll} {get : ProcessId → Option Process} {c : Card} {s : ProcessState}

/-- The processes in a state. -/
def waiters (m : Roll) (s : ProcessState) : List Waiter := (m.list s).map (·.waiter)

def lineup (m : Roll) : Lineup :=
  ⟨m.waiters .running, m.waiters .ready, m.waiters .readySuspended, m.round⟩

theorem waiters_without (m : Roll) (id : ProcessId) (s : ProcessState) :
    (m.without id).waiters s = (m.waiters s).filter (·.id ≠ id) := by
  rw [waiters, waiters, List.filter_map]
  rfl

/-- The other lists do not have the card. -/
theorem waiters_without_of_ne {s' : ProcessState} (files : m.Files get) (hc : c ∈ m.list s)
    (other : s' ≠ s) : (m.without c.id).waiters s' = m.waiters s' := by
  rw [waiters_without, List.filter_eq_self]
  intro w hw
  obtain ⟨d, hd, rfl⟩ := List.mem_map.mp hw
  refine decide_eq_true fun same => other ?_
  obtain rfl := files.unique hd hc same
  exact (files.card _ _ hd).1.symm.trans (files.card _ _ hc).1

theorem waiters_enter_of_ne {s' : ProcessState} (inS : c.state = s') (other : s ≠ s') :
    (m.enter c).waiters s = m.waiters s :=
  congrArg (List.map Card.waiter) (if_neg (inS.symm ▸ other))

theorem waiters_enter_ready (ready : c.state = .ready) :
    (m.enter c).waiters .ready = c.waiter.join (m.waiters .ready) := by
  let c' : Card := { c with since := m.clock }
  have list : (m.enter c).list .ready = c'.put (m.list .ready) := if_pos ready.symm
  rw [waiters, list]
  refine Card.map_waiter_put fun d _ => ?_
  rw [Card.staysAhead, show c'.state = .ready from ready]
  rfl

theorem waiters_enter_running (running : c.state = .running) :
    (m.enter c).waiters .running = m.waiters .running ++ [c.waiter] := by
  let c' : Card := { c with since := m.clock }
  have list : (m.enter c).list .running = c'.put (m.list .running) := if_pos running.symm
  have all : ∀ d : Card, d.staysAhead c' = true := by
    intro d
    rw [Card.staysAhead, show c'.state = .running from running]
  have put : c'.put (m.list .running) = m.list .running ++ [c'] := by
    rw [Card.put, List.filter_eq_self.mpr fun d _ => all d,
      List.filter_eq_nil_iff.mpr fun d _ => by simp [all d]]
  rw [waiters, list, put, List.map_append]
  rfl

/-- The card of a new process finds its place among the ready ones. -/
theorem create_ok {memory memory' : Memory} {name : String} {owner : ProcessClass}
    {priority : Nat} {id : ProcessId} {m' : Roll} (inOrder : m.InOrder)
    (done : m.create memory name owner priority = .ok ((id, memory'), m')) :
    ∃ c front back, c.waiter = ⟨id, name, priority, m.round⟩ ∧ m.list .ready = front ++ back ∧
      m'.list .ready = front ++ c :: back ∧ (∀ s, s ≠ .ready → m'.waiters s = m.waiters s) ∧
      m'.round = m.round := by
  unfold create at done
  split at done
  · cases done
  split at done
  · cases done
  split at done
  · cases done
  split at done
  · cases done
  cases done
  obtain ⟨front, back, old, put, -, -⟩ := Card.put_eq
    (c := ⟨m.handles.next.1, name, owner, priority, .ready, _, _, m.round, m.clock⟩) rfl
    (inOrder.sorted .ready)
  exact ⟨_, front, back, rfl, old, put, fun s other => waiters_enter_of_ne rfl other, rfl⟩

/-- Where all rounds are the same, only priorities count. -/
theorem waiters_enter_suspended (suspended : c.state = .readySuspended) (unranked : c.round = 0)
    (files : m.Files get) :
    (m.enter c).waiters .readySuspended = c.waiter.join (m.waiters .readySuspended) := by
  let c' : Card := { c with since := m.clock }
  have list : (m.enter c).list .readySuspended = c'.put (m.list .readySuspended) :=
    if_pos suspended.symm
  rw [waiters, list]
  refine Card.map_waiter_put fun d hd => ?_
  rw [Card.staysAhead, show c'.state = .readySuspended from suspended]
  simp [Waiter.ahead, Card.waiter, files.unranked d hd, show c'.round = 0 from unranked]

/-- A suspended process becomes ready. -/
theorem lineup_moveTo_ready (files : m.Files get) (hc : c ∈ m.list .readySuspended) :
    (m.moveTo c .ready).lineup = { m.lineup with
      ready := Waiter.join { c.waiter with round := m.round } m.lineup.ready
      suspended := m.lineup.suspended.filter (·.id ≠ c.id) } := by
  have ready : (c.goingTo .ready m.round).state = .ready := rfl
  have running : (m.moveTo c .ready).waiters .running = m.waiters .running := by
    rw [moveTo, waiters_enter_of_ne ready (by decide),
      waiters_without_of_ne files hc (by decide)]
  have joined : (m.moveTo c .ready).waiters .ready =
      Waiter.join { c.waiter with round := m.round } (m.waiters .ready) := by
    rw [moveTo, waiters_enter_ready ready, waiters_without_of_ne files hc (by decide)]
    rfl
  have suspended : (m.moveTo c .ready).waiters .readySuspended =
      (m.waiters .readySuspended).filter (·.id ≠ c.id) := by
    rw [moveTo, waiters_enter_of_ne ready (by decide), waiters_without]
  rw [lineup, running, joined, suspended]
  rfl

theorem lineup_moveTo_blocked (files : m.Files get) (hc : c ∈ m.list .blockedSuspended) :
    (m.moveTo c .blocked).lineup = m.lineup := by
  have same : ∀ s, s ≠ .blocked → s ≠ .blockedSuspended →
      (m.moveTo c .blocked).waiters s = m.waiters s := fun s notTarget notSource =>
    (waiters_enter_of_ne rfl notTarget).trans (waiters_without_of_ne files hc notSource)
  rw [lineup, same _ (by decide) (by decide), same _ (by decide) (by decide),
    same _ (by decide) (by decide)]
  rfl

end Roll

namespace Registry

open ProcessTable

variable {r r' : Registry} {m : Roll} {c : Card} {l : Lineup} {w : Waiter} {id : ProcessId}
  {name : String}

/-- The registry has this lineup. -/
def Lines (r : Registry) (l : Lineup) : Prop := ∃ m, r.Mirrors m ∧ m.InOrder ∧ m.lineup = l

theorem lines_empty : empty.Lines ⟨[], [], [], 0⟩ :=
  ⟨.empty, mirrors_empty, Roll.inOrder_empty, rfl⟩

namespace Mirrors

/-- The others stay where they are if the card of one process is taken out of a list. -/
theorem list_moveTo (h : r.Mirrors m) {d : Card} {s state : ProcessState} {front back : List Card}
    (list : m.list s = front ++ d :: back) (same : d.id = c.id) (other : s ≠ state) :
    (m.moveTo c state).list s = front ++ back := by
  have nodup := h.files.nodup s
  rw [list, List.map_append, List.map_cons, List.nodup_middle, List.nodup_cons,
    ← List.map_append, same] at nodup
  have apart : ∀ e ∈ front ++ back, e.id ≠ c.id := fun e he eq =>
    nodup.1 (eq ▸ List.mem_map_of_mem he)
  refine (if_neg other).trans ?_
  show (m.list s).filter (·.id ≠ c.id) = front ++ back
  rw [list, List.filter_append, List.filter_cons_of_neg (by simp [same]), ← List.filter_append,
    List.filter_eq_self]
  exact fun e he => decide_eq_true (apart e he)

theorem rest_moveTo (h : r.Mirrors m) {s state : ProcessState} {rest : List Card}
    (list : m.list s = c :: rest) (other : s ≠ state) : (m.moveTo c state).list s = rest :=
  h.list_moveTo (List.nil_append (c :: rest) ▸ list) rfl other

/-- Suspended processes become ready one after the other. -/
theorem lineup_drain_ready (h : r.Mirrors m) {cards : List Card}
    (list : m.list .readySuspended = cards) :
    (cards.foldl (fun m c => m.moveTo c .ready) m).lineup = { m.lineup with
      ready := (cards.map (·.waiter)).foldl (fun ready w => { w with round := m.round }.join ready)
        m.lineup.ready
      suspended := [] } := by
  induction cards generalizing r m with
  | nil =>
    have none : m.waiters .readySuspended = [] := by rw [Roll.waiters, list, List.map_nil]
    rw [List.foldl_nil, Roll.lineup, none]
    rfl
  | cons c rest ih =>
    have first : c ∈ m.list .readySuspended := list ▸ List.mem_cons_self
    obtain ⟨p, has, -⟩ := h.has first
    rw [List.foldl_cons, ih (h.moveTo has .ready) (h.rest_moveTo list (by decide)),
      Roll.lineup_moveTo_ready h.files first]
    rfl

theorem lineup_drain_blocked (h : r.Mirrors m) {cards : List Card}
    (list : m.list .blockedSuspended = cards) :
    (cards.foldl (fun m c => m.moveTo c .blocked) m).lineup = m.lineup := by
  induction cards generalizing r m with
  | nil => rfl
  | cons c rest ih =>
    have first : c ∈ m.list .blockedSuspended := list ▸ List.mem_cons_self
    obtain ⟨p, has, -⟩ := h.has first
    rw [List.foldl_cons, ih (h.moveTo has .blocked) (h.rest_moveTo list (by decide)),
      Roll.lineup_moveTo_blocked h.files first]

/-- A process in line has a card. -/
theorem card (h : r.Mirrors m) {s : ProcessState} (hw : w ∈ m.waiters s) :
    ∃ c p, c ∈ m.list s ∧ c.waiter = w ∧ r.Has m c p ∧ p.state = s := by
  obtain ⟨c, hc, rfl⟩ := List.mem_map.mp hw
  obtain ⟨p, has, state⟩ := h.has hc
  exact ⟨c, p, hc, rfl, has, state⟩

/-- A process is found by its name. -/
theorem position (h : r.Mirrors m) {p : Process} (has : r.Has m c p) :
    r.table.position c.name = some c.id.index :=
  h.sound.roster.position_eq_some.mpr ⟨p, has.found, has.describes.name.symm⟩

end Mirrors

namespace Lines

/-! ### Processes come -/

/-- A process that is loaded finds its place among the suspended ones. -/
theorem load (h : r.Lines l) {memory memory' : Memory} {owner : ProcessClass} {priority : Nat}
    {entry : UInt32} (done : r.load memory name owner priority entry = .ok (id, r', memory')) :
    r'.Lines { l with suspended := Waiter.join ⟨id, name, priority, 0⟩ l.suspended } := by
  obtain ⟨m, mirrors, inOrder, rfl⟩ := h
  obtain ⟨m', loaded, mirrors'⟩ := mirrors.load done
  refine ⟨m', mirrors', (Roll.Keeps.load inOrder loaded).inOrder, ?_⟩
  -- on the way it is ready for a moment
  obtain ⟨r₁, created, -⟩ := load_ok done
  obtain ⟨m₁, created', mirrors₁⟩ := mirrors.create created
  obtain ⟨c, front, back, waiter, old, list, others, round⟩ := Roll.create_ok inOrder created'
  have first : c ∈ m₁.list .ready := list ▸ List.mem_append_right front List.mem_cons_self
  obtain ⟨p, has, -⟩ := mirrors₁.has first
  obtain ⟨rfl, rfl, rfl, -⟩ := Waiter.mk.inj waiter
  obtain ⟨d, p', holder, same, -, has'⟩ := mirrors₁.holder has.resolved
  obtain rfl := mirrors₁.files.unique has'.mem first same
  simp only [Roll.load, created', bind, Except.bind, holder] at loaded
  cases loaded
  let c : Card := { d with context := Card.start d.record entry }
  have suspends : (c.goingTo .readySuspended m₁.round).state = .readySuspended := rfl
  have running : (m₁.moveTo c .readySuspended).waiters .running = m.waiters .running := by
    rw [Roll.moveTo, Roll.waiters_enter_of_ne suspends (by decide),
      Roll.waiters_without_of_ne mirrors₁.files first (by decide), others _ (by decide)]
  have ready : (m₁.moveTo c .readySuspended).waiters .ready = m.waiters .ready := by
    have left : (m₁.moveTo c .readySuspended).list .ready = front ++ back :=
      mirrors₁.list_moveTo (c := c) list rfl (by decide)
    rw [Roll.waiters, left, ← old, Roll.waiters]
  have suspended : (m₁.moveTo c .readySuspended).waiters .readySuspended =
      Waiter.join ⟨d.id, d.name, d.priority, 0⟩ (m.waiters .readySuspended) := by
    rw [Roll.moveTo, Roll.waiters_enter_suspended suspends rfl (mirrors₁.files.without c.id),
      Roll.waiters_without_of_ne mirrors₁.files first (by decide), others _ (by decide)]
    rfl
  rw [Roll.lineup, running, ready, suspended]
  exact congrArg (Lineup.mk _ _ _) round

/-- All suspended processes become ready. -/
theorem resumeAll (h : r.Lines l) : r.resumeAll.2.Lines { l with
    ready := l.suspended.foldl (fun ready w => { w with round := l.round }.join ready) l.ready
    suspended := [] } := by
  obtain ⟨m, mirrors, inOrder, rfl⟩ := h
  have ready : QueueKind.suspendedReady ≠ .ready := by decide
  have drained := (mirrors.drain ready (mirrors.length_list_le .suspendedReady)).2
  exact ⟨m.resumeAll.2, mirrors.resumeAll.2, (Roll.Keeps.resumeAll inOrder).inOrder,
    (drained.lineup_drain_blocked rfl).trans (mirrors.lineup_drain_ready rfl)⟩

/-- The suspended process with this name becomes ready. -/
theorem resume (h : r.Lines l) (hw : w ∈ l.suspended) : (r.resume w.name).2.Lines { l with
    ready := Waiter.join { w with round := l.round } l.ready
    suspended := l.suspended.filter (·.id ≠ w.id) } := by
  obtain ⟨m, mirrors, inOrder, rfl⟩ := h
  obtain ⟨c, p, hc, rfl, has, state⟩ := mirrors.card hw
  have named := mirrors.position has
  have resumed : r.resume c.waiter.name = (true, r.moveTo c.id.index .ready) := by
    rw [Registry.resume, show r.table.position c.waiter.name = _ from named]
    simp only [Registry.shift, has.stateAt, has.describes.state, state, Option.bind_some,
      resumeTarget]
  refine ⟨m.moveTo c .ready, ?_, (Roll.Keeps.moveTo inOrder (List.mem_singleton_self _) _).inOrder,
    Roll.lineup_moveTo_ready mirrors.files hc⟩
  rw [resumed]
  exact mirrors.moveTo has .ready

/-! ### The dispatcher -/

theorem saveContext (h : r.Lines l) (hw : w ∈ l.running) (context : Context) :
    ∃ r', r.saveContext w.id context = .ok r' ∧ r'.Lines l := by
  obtain ⟨m, mirrors, inOrder, rfl⟩ := h
  obtain ⟨c, p, -, rfl, has, -⟩ := mirrors.card (s := .running) hw
  obtain ⟨d, q, holder, same, -, has'⟩ := mirrors.holder has.resolved
  obtain rfl := mirrors.files.unique has'.mem has.mem same
  have done : r.saveContext d.id context =
      .ok (r.modifyProcess d.id.index (·.saveContext context)) := by
    rw [Registry.saveContext, Registry.resolve, has.resolved]
    rfl
  have performed : (r.perform (.saveContext d.id context)).2 =
      r.modifyProcess d.id.index (·.saveContext context) := by
    rw [perform, done]
    rfl
  have rewritten : (m.perform (.saveContext d.id context)).2 =
      m.rewrite d ({ · with context }) := by
    rw [Roll.perform, Roll.withHandle, holder]
    rfl
  have after := (mirrors.perform (.saveContext d.id context) trivial).mirrors
  have sorted := (m.keeps_perform inOrder (.saveContext d.id context)).inOrder
  rw [performed, rewritten] at after
  rw [rewritten] at sorted
  refine ⟨_, done, _, after, sorted, ?_⟩
  have waiters : ∀ s, (m.rewrite d ({ · with context })).waiters s = m.waiters s := by
    intro s
    rw [Roll.waiters, mirrors.files.list_rewrite has.mem, List.map_map]
    refine List.map_congr_left fun e _ => ?_
    rw [Function.comp_apply]
    split <;> rfl
  rw [Roll.lineup, waiters, waiters, waiters]
  rfl

theorem context (h : r.Lines l) (hw : w ∈ l.running) : ∃ context, r.context w.id = .ok context := by
  obtain ⟨m, mirrors, -, rfl⟩ := h
  obtain ⟨c, p, -, rfl, has, -⟩ := mirrors.card (s := .running) hw
  refine ⟨p.context, ?_⟩
  rw [Registry.context, Registry.resolve, show c.waiter.id = c.id from rfl, has.resolved]
  simp only [bind, Except.bind, has.found]
  rfl

/-- The process that ran ends. -/
theorem destroy (h : r.Lines l) (running : l.running = [w]) (memory : Memory) :
    ∃ r' memory', r.destroy memory w.id = .ok (r', memory') ∧
      r'.Lines { l with running := [] } := by
  obtain ⟨m, mirrors, inOrder, rfl⟩ := h
  replace running : m.waiters .running = [w] := running
  obtain ⟨c, p, hc, rfl, has, -⟩ := mirrors.card (s := .running) (running ▸ List.mem_cons_self)
  obtain ⟨r', done, after⟩ := mirrors.destroy has memory
  have out := Roll.Keeps.without inOrder (List.mem_singleton_self c.id)
  refine ⟨r', _, done, _, after, ⟨out.inOrder.sorted, out.inOrder.since⟩, ?_⟩
  show Lineup.mk ((m.without c.id).waiters .running) ((m.without c.id).waiters .ready)
    ((m.without c.id).waiters .readySuspended) m.round = _
  rw [Roll.waiters_without, running, List.filter_cons_of_neg (by simp [Card.waiter]),
    List.filter_nil, Roll.waiters_without_of_ne mirrors.files hc (by decide),
    Roll.waiters_without_of_ne mirrors.files hc (by decide)]
  rfl

theorem takeReadyHead_none (h : r.Lines l) (ready : l.ready = []) : r.takeReadyHead = none := by
  obtain ⟨m, mirrors, -, rfl⟩ := h
  have list : m.list .ready = [] := List.map_eq_nil_iff.mp ready
  apply mirrors.sound.takeReadyHead_none
  rw [Roll.order, QueueKind.state, list, List.map_nil]

/-- The first ready process begins to run, and its round becomes the current one. -/
theorem takeReadyHead {rest : List Waiter} (h : r.Lines l) (ready : l.ready = w :: rest) :
    ∃ r', r.takeReadyHead = some (w.id, r') ∧ r'.Lines { l with
      running := l.running ++ [w], ready := rest, round := max l.round w.round } := by
  obtain ⟨m, mirrors, inOrder, rfl⟩ := h
  obtain ⟨c, cards, list, rfl, rfl⟩ := List.map_eq_cons_iff.mp ready
  have hc : c ∈ m.list .ready := list ▸ List.mem_cons_self
  obtain ⟨answer, after⟩ := mirrors.takeReadyHead
  have sorted := (Roll.Keeps.takeReadyHead inOrder).inOrder
  let c' : Card := { c with state := .running }
  let m' : Roll := { (m.without c.id).enter c' with round := max m.round c.round }
  have taken : m.takeReadyHead = (some c.id, m') := by
    rw [Roll.takeReadyHead, list]
  rw [taken] at answer after sorted
  cases head : r.takeReadyHead with
  | none =>
    rw [perform, head] at answer
    cases answer
  | some result =>
    obtain ⟨id, r'⟩ := result
    rw [perform, head] at answer after
    obtain rfl := Option.some.inj answer
    refine ⟨r', rfl, m', after, sorted, ?_⟩
    have runs : c'.state = .running := rfl
    have running : m'.waiters .running = m.waiters .running ++ [c.waiter] := by
      refine (Roll.waiters_enter_running runs).trans ?_
      rw [Roll.waiters_without_of_ne mirrors.files hc (by decide)]
      rfl
    have left : m'.waiters .ready = cards.map (·.waiter) := by
      have rest : (m.moveTo c .running).list .ready = cards := mirrors.rest_moveTo list (by decide)
      exact congrArg (List.map Card.waiter) rest
    have suspended : m'.waiters .readySuspended = m.waiters .readySuspended := by
      show ((m.without c.id).enter c').waiters .readySuspended = _
      rw [Roll.waiters_enter_of_ne runs (by decide),
        Roll.waiters_without_of_ne mirrors.files hc (by decide)]
    rw [Roll.lineup, running, left, suspended]
    rfl

/-- A process that ran joins the ready ones, for the round after the one in which it ran. -/
theorem requeueYielded (h : r.Lines l) (hw : w ∈ l.running) :
    ∃ r', r.requeueYielded w.id = .ok r' ∧ r'.Lines { l with
      running := l.running.filter (·.id ≠ w.id)
      ready := w.later.join l.ready } := by
  obtain ⟨m, mirrors, inOrder, rfl⟩ := h
  obtain ⟨c, p, hc, rfl, has, running⟩ := mirrors.card (s := .running) hw
  have after : (r.link c.id.index .ready (c.round + 1)).Mirrors
      ((m.without c.id).enter (c.goingTo .ready (c.round + 1))) :=
    mirrors.settle has running .ready (c.round + 1)
  have done : r.requeueYielded c.waiter.id = .ok (r.link c.id.index .ready (c.round + 1)) := by
    rw [Registry.requeueYielded, Registry.resolve, show c.waiter.id = c.id from rfl,
      has.resolved, has.describes.round]
    simp only [bind, Except.bind, has.found]
    rfl
  have reentered : m.Keeps [c.id] ((m.without c.id).enter (c.goingTo .ready (c.round + 1))) :=
    .reenter inOrder (List.mem_singleton_self _) rfl
  refine ⟨_, done, _, after, reentered.inOrder, ?_⟩
  have waits : (c.goingTo .ready (c.round + 1)).state = .ready := rfl
  rw [Roll.lineup, Roll.waiters_enter_of_ne waits (by decide),
    Roll.waiters_enter_ready waits, Roll.waiters_enter_of_ne waits (by decide),
    Roll.waiters_without, Roll.waiters_without_of_ne mirrors.files hc (by decide),
    Roll.waiters_without_of_ne mirrors.files hc (by decide)]
  rfl

/-! ### What is known of those in line -/

theorem get (h : r.Lines l) (hw : w ∈ l.running) : ∃ p, r.get w.id = some p ∧ p.name = w.name := by
  obtain ⟨m, mirrors, -, rfl⟩ := h
  obtain ⟨c, p, -, rfl, has, -⟩ := mirrors.card (s := .running) hw
  exact ⟨p, get_eq_some.mpr ⟨_, has.resolved, has.found⟩, has.describes.name.symm⟩

theorem nodup_running (h : r.Lines l) : (l.running.map (·.id)).Nodup := by
  obtain ⟨m, mirrors, -, rfl⟩ := h
  rw [show m.lineup.running = (m.list .running).map (·.waiter) from rfl, List.map_map]
  exact mirrors.files.nodup .running

/-- No two processes have the same name. -/
theorem nodup_names (h : r.Lines l) : (l.ready.map (·.name)).Nodup := by
  obtain ⟨m, mirrors, -, rfl⟩ := h
  have nodup := mirrors.files.nodup .ready
  rw [show m.lineup.ready = (m.list .ready).map (·.waiter) from rfl, List.map_map]
  refine (List.nodup_map_iff_inj_on nodup.of_map).mpr fun c hc d hd same => ?_
  obtain ⟨p, has, -⟩ := mirrors.has hc
  obtain ⟨q, has', -⟩ := mirrors.has hd
  have slot : some c.id.index = some d.id.index := by
    rw [← mirrors.position has, ← mirrors.position has']
    exact congrArg r.table.position same
  refine mirrors.files.unique hc hd (resolve_injective has.resolved ?_)
  rw [Option.some.inj slot]
  exact has'.resolved

end Lines

end Registry

end TrapKernel
