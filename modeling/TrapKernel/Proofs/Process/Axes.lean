import TrapKernel.Proofs.Process.Refinement

/-!
# Two axes

A process is blocked or not, and it is suspended or not. A call that blocks or unblocks and one that
suspends or resumes the same process can be made in either order: the answers are the same, and so
is the registry.

On the way the process passes through different queues. It leaves no trace there, because a registry
is known from its processes and the order of its queues, and because where a process is put depends
on those who are there already and not on where it comes from.
-/

namespace TrapKernel

open ProcessTable ProcessQueue

/-! ### A registry is known from its order -/

namespace ProcessTable

variable {t t' : ProcessTable} {i : Nat}

/-- A table has nothing but its slots, and in these a process and its links. -/
theorem SameSlots.eq (h : t.SameSlots t') (process : ∀ i, t'.process? i = t.process? i)
    (links : ∀ i, t'.links i = t.links i) : t' = t := by
  have node : ∀ i, t'.node? i = t.node? i := by
    intro i
    have process := process i
    have links := links i
    rw [process?, process?] at process
    rw [ProcessTable.links, ProcessTable.links] at links
    cases atI : t.node? i with
    | none =>
      rw [atI] at process
      exact Option.map_eq_none_iff.mp process
    | some n =>
      rw [atI] at process links
      obtain ⟨n', atI', same⟩ := Option.map_eq_some_iff.mp process
      rw [atI', Option.map_some, Option.map_some, Option.some.injEq, Links.mk.injEq] at links
      cases n
      cases n'
      simp_all only
  have slots : t'.slots = t.slots := by
    apply List.ext_getElem?
    intro i
    have generation := h.generation i
    have node := node i
    rw [generation?, generation?] at generation
    rw [node?, node?] at node
    cases atI : t.slots[i]? with
    | none =>
      rw [atI] at generation
      exact Option.map_eq_none_iff.mp generation
    | some s =>
      rw [atI] at generation node
      obtain ⟨s', atI', same⟩ := Option.map_eq_some_iff.mp generation
      rw [atI', Option.bind_some, Option.bind_some] at node
      cases s
      cases s'
      simp_all only
  cases t
  cases t'
  rw [ProcessTable.mk.injEq]
  exact ⟨slots, h.vacant, h.count⟩

end ProcessTable

/-- A queue has nothing but its kind and what its list tells. -/
theorem ProcessQueue.Threads.eq {q q' : ProcessQueue} {t t' : ProcessTable} {l : List Nat}
    (hq : q.Threads t l) (hq' : q'.Threads t' l) (kind : q'.kind = q.kind) : q' = q := by
  have head := hq'.head.trans hq.head.symm
  have tail := hq'.tail.trans hq.tail.symm
  have count := hq'.count.trans hq.count.symm
  cases q
  cases q'
  rw [ProcessQueue.mk.injEq]
  exact ⟨kind, head, tail, count⟩

/-- Where a slot is put depends on its process and on those in the queue only. -/
theorem ProcessQueue.placed_congr {t t' : ProcessTable} {i : Nat} {l : List Nat}
    (own : t'.process? i = t.process? i) (others : ∀ j ∈ l, t'.process? j = t.process? j)
    (k : QueueKind) : placed k t' i l = placed k t i l := by
  cases ranked : k.discipline with
  | fifo => simp only [placed, ranked]
  | priority =>
    simp only [placed, ranked]
    induction l with
    | nil => rfl
    | cons j l ih =>
      have same : outranks t' i j = outranks t i j := by
        rw [outranks, own, others j List.mem_cons_self, outranks]
      have ih := ih fun j' hj' => others j' (List.mem_cons_of_mem j hj')
      cases before : outranks t i j with
      | true => simp [same, before]
      | false => simpa [same, before] using ih

/-- A slot that was put in and is taken out again has disturbed nothing. -/
theorem Order.without_including {order : Order} {i : Nat} (free : ∀ k, i ∉ order k)
    (t : ProcessTable) (state : ProcessState) :
    (order.including t i state).without i = order := by
  funext k
  rw [without, including]
  split
  · obtain ⟨a, b, split, placed⟩ := placed_eq k t i (order k)
    have outside : i ∉ a := fun mem => free k (split ▸ List.mem_append_left b mem)
    rw [placed, split, List.erase_append_right _ outside, List.erase_cons_head]
  · exact List.erase_of_not_mem (free k)

namespace Registry

variable {r r' : Registry} {order : Order} {i : Nat}

/-- The links of a table say no more than the order of the queues does. -/
theorem Queued.links_eq (hq : r.Queued order) (hq' : r'.Queued order)
    (slots : r.table.SameSlots r'.table) (i : Nat) : r'.table.links i = r.table.links i := by
  by_cases queued : ∃ k, i ∈ order k
  · obtain ⟨k, mem⟩ := queued
    obtain ⟨a, b, split⟩ := List.append_of_mem mem
    have threaded := (hq.threads k).threaded
    have threaded' := (hq'.threads k).threaded
    rw [split] at threaded threaded'
    exact threaded'.links_eq.trans threaded.links_eq.symm
  · have free : ∀ k, i ∉ order k := fun k mem => queued ⟨k, mem⟩
    by_cases live : r.table.Live i
    · exact (hq'.idle i ((slots.live i).mpr live) free).trans (hq.idle i live free).symm
    · have dead : ∀ {t : ProcessTable}, ¬ t.Live i → t.links i = none := fun dead =>
        Option.not_isSome_iff_eq_none.mp fun linked => dead (isSome_links.mp linked)
      rw [dead live, dead fun live' => live ((slots.live i).mp live')]

/-- A registry is known from its processes, the order of its queues, and the round. -/
theorem Queued.eq (hq : r.Queued order) (hq' : r'.Queued order)
    (slots : r.table.SameSlots r'.table)
    (process : ∀ i, r'.table.process? i = r.table.process? i) (round : r'.round = r.round) :
    r' = r := by
  have table : r'.table = r.table := slots.eq process (hq.links_eq hq' slots)
  have queue : ∀ k, r'.queue k = r.queue k := fun k =>
    (hq.threads k).eq (hq'.threads k) ((hq'.kind k).trans (hq.kind k).symm)
  have ready := queue .ready
  have blocked := queue .blocked
  have suspendedReady := queue .suspendedReady
  have suspendedBlocked := queue .suspendedBlocked
  cases r
  cases r'
  rw [Registry.mk.injEq]
  exact ⟨table, ready, blocked, suspendedReady, suspendedBlocked, round⟩

/-! ### Detours -/

/-- Whoever goes to a state by way of another one ends up as if it had gone there at once. -/
theorem Sound.moveTo_moveTo (hs : r.Sound order) (live : r.table.Live i)
    (way state : ProcessState) : (r.moveTo i way).moveTo i state = r.moveTo i state := by
  have slots := r.sameSlots_moveTo i way
  have round : (r.moveTo i way).round = r.round := r.round_moveTo i way
  -- the second move sees the same processes, but for the one that moves
  have process : ∀ j, (((r.moveTo i way).unlink i).table.modifyProcess i
      (entering state (r.moveTo i way).round)).process? j =
        ((r.unlink i).table.modifyProcess i (entering state r.round)).process? j := by
    intro j
    rw [process?_modifyProcess, process?_modifyProcess, ((r.moveTo i way).rewired_unlink i).process,
      (r.rewired_unlink i).process, process?_moveTo, round]
    split
    · rw [Option.map_map]
      rfl
    · rfl
  have free : ∀ k, i ∉ order.without i k := fun k mem => (hs.toQueued.mem_without.mp mem).1 rfl
  have detour := (hs.moveTo_order live way).moveTo_order ((slots.live i).mpr live) state
  have same : ∀ k, Order.including (order.without i)
      (((r.moveTo i way).unlink i).table.modifyProcess i
        (entering state (r.moveTo i way).round)) i state k =
      Order.including (order.without i)
        ((r.unlink i).table.modifyProcess i (entering state r.round)) i state k := by
    intro k
    rw [Order.including, Order.including, placed_congr (process i) fun j _ => process j]
  rw [Order.without_including free, funext same] at detour
  refine (hs.moveTo_order live state).toQueued.eq detour.toQueued ?_ ?_ ?_
  · have back : (r.moveTo i state).table.SameSlots r.table := (r.sameSlots_moveTo i state).symm
    exact back.trans (slots.trans ((r.moveTo i way).sameSlots_moveTo i state))
  · intro j
    rw [process?_moveTo, process?_moveTo, process?_moveTo, round]
    split
    · rw [Option.map_map]
      rfl
    · rfl
  · rw [round_moveTo, round_moveTo, round_moveTo]

/-! ### Changes that leave each other alone -/

/-- Neither change makes the other possible or impossible, and the state in which both have ended
does not tell which came first. -/
structure Independent (f g : ProcessState → Option ProcessState) : Prop where
  left : ∀ s s', g s = some s' → (f s').isSome = (f s).isSome
  right : ∀ s s', f s = some s' → (g s').isSome = (g s).isSome
  meet : ∀ s s₁ s₂, f s = some s₁ → g s = some s₂ → f s₂ = g s₁

theorem shift_eq {state : ProcessState} (atI : r.stateAt i = some state)
    (f : ProcessState → Option ProcessState) : r.shift i f =
      ((f state).isSome, (f state).elim r (r.moveTo i)) := by
  rw [shift, atI, Option.bind_some]
  cases f state <;> rfl

theorem stateAt_shift {state : ProcessState} (atI : r.stateAt i = some state)
    (f : ProcessState → Option ProcessState) :
    (r.shift i f).2.stateAt i = some ((f state).getD state) := by
  rw [shift_eq atI]
  cases f state with
  | none => exact atI
  | some state' =>
    rw [Option.elim_some, stateAt_moveTo, if_pos rfl, atI]
    rfl

/-- Of two independent changes either may be made first. -/
theorem Sound.shift_shift (hs : r.Sound order) {f g : ProcessState → Option ProcessState}
    (h : Independent f g) {state : ProcessState} (atI : r.stateAt i = some state) :
    ((r.shift i g).2.shift i f).1 = (r.shift i f).1 ∧
      ((r.shift i f).2.shift i g).1 = (r.shift i g).1 ∧
      ((r.shift i f).2.shift i g).2 = ((r.shift i g).2.shift i f).2 := by
  have live := live_of_stateAt atI
  rw [shift_eq (stateAt_shift atI f), shift_eq (stateAt_shift atI g), shift_eq atI, shift_eq atI]
  cases toF : f state with
  | none =>
    cases toG : g state with
    | none =>
      simp only [Option.getD_none, toF, toG, Option.elim_none, and_self]
    | some s₂ =>
      have stays := h.left state s₂ toG
      rw [toF, Option.isSome_none, Option.isSome_eq_false_iff, Option.isNone_iff_eq_none] at stays
      simp only [Option.getD_none, Option.getD_some, toG, stays, Option.elim_none, and_self]
  | some s₁ =>
    have goesG := h.right state s₁ toF
    cases toG : g state with
    | none =>
      rw [toG, Option.isSome_none, Option.isSome_eq_false_iff, Option.isNone_iff_eq_none] at goesG
      simp only [Option.getD_none, Option.getD_some, toF, goesG, Option.elim_none, and_self]
    | some s₂ =>
      have meet := h.meet state s₁ s₂ toF toG
      rw [toG] at goesG
      obtain ⟨s₃, last⟩ := Option.isSome_iff_exists.mp goesG
      rw [last] at meet
      simp only [Option.getD_some, last, meet, Option.isSome_some, Option.elim_some, true_and]
      rw [hs.moveTo_moveTo live, hs.moveTo_moveTo live]

/-- The calls that block a process or unblock it. -/
inductive Blocking where
  | block
  | unblock

/-- The calls that suspend a process or resume it. -/
inductive Suspending where
  | suspend
  | resume

namespace Blocking

/-- The change of state that the call is for. -/
def target : Blocking → ProcessState → Option ProcessState
  | block => blockTarget
  | unblock => unblockTarget

/-- The call for the process with a name. -/
def call (name : String) : Blocking → Call (Except RegistryError Bool)
  | block => .block name
  | unblock => .unblock name

theorem perform_call (b : Blocking) (r : Registry) (name : String) : r.perform (b.call name) =
    match r.table.position name with
    | none => (.error (.notFound name), r)
    | some i =>
      if r.stateAt i = some .running then (.error (.running name), r)
      else (.ok (r.shift i b.target).1, (r.shift i b.target).2) := by
  have either : r.perform (b.call name) = settled r (do
      let i ← r.position name
      r.notRunning i
      return r.shift i b.target) := by
    cases b <;> rfl
  rw [either, position]
  cases found : r.table.position name with
  | none => rfl
  | some i =>
    obtain ⟨p, process, rfl⟩ := position_eq_some found
    simp only [bind, Except.bind, notRunning, process, stateAt, Option.map_some, Option.some.injEq]
    by_cases running : p.state = .running
    · simp only [if_pos running]
      rfl
    · simp only [if_neg running]
      rfl

end Blocking

namespace Suspending

/-- The change of state that the call is for. -/
def target : Suspending → ProcessState → Option ProcessState
  | suspend => suspendTarget
  | resume => resumeTarget

/-- The call for the process with a name. -/
def call (name : String) : Suspending → Call Bool
  | suspend => .suspend name
  | resume => .resume name

theorem perform_call (s : Suspending) (r : Registry) (name : String) : r.perform (s.call name) =
    match r.table.position name with
    | none => (false, r)
    | some i => r.shift i s.target := by
  cases s <;> rfl

end Suspending

theorem independent_targets (b : Blocking) (s : Suspending) : Independent b.target s.target := by
  constructor
  · intro state state' moved
    cases b <;> cases s <;> cases state <;> cases moved <;> rfl
  · intro state state' moved
    cases b <;> cases s <;> cases state <;> cases moved <;> rfl
  · intro state s₁ s₂ first second
    cases b <;> cases s <;> cases state <;> cases first <;> cases second <;> rfl

/-! ### Calls in either order -/

/-- The two calls are answered alike in either order, and the registry is the same afterwards. -/
structure Orthogonal {α β : Type} (r : Registry) (c : Call α) (d : Call β) : Prop where
  first : ((r.perform d).2.perform c).1 = (r.perform c).1
  second : ((r.perform c).2.perform d).1 = (r.perform d).1
  registry : ((r.perform c).2.perform d).2 = ((r.perform d).2.perform c).2

/-- Names lead to the same slots after a change of state. -/
theorem Sound.position_shift (hs : r.Sound order) {f : ProcessState → Option ProcessState}
    (axis : Sound.Axis f) {name : String} (found : r.table.position name = some i) :
    (r.shift i f).2.table.position name = some i := by
  obtain ⟨p, process, named⟩ := position_eq_some found
  obtain ⟨order', sound, -⟩ := hs.shift axis i
  rw [sound.roster.position_eq_some, Registry.shift]
  cases (r.stateAt i).bind f with
  | none => exact ⟨p, process, named⟩
  | some state =>
    refine ⟨entering state r.round p, ?_, named⟩
    rw [process?_moveTo, if_pos rfl, process]
    rfl

theorem Blocking.axis (b : Blocking) : Sound.Axis b.target := by
  cases b with
  | block => exact Sound.axis_block
  | unblock => exact Sound.axis_unblock

theorem Suspending.axis (s : Suspending) : Sound.Axis s.target := by
  cases s with
  | suspend => exact Sound.axis_suspend
  | resume => exact Sound.axis_resume

theorem Sound.orthogonal (hs : r.Sound order) (b : Blocking) (s : Suspending) (name : String) :
    r.Orthogonal (b.call name) (s.call name) := by
  cases found : r.table.position name with
  | none =>
    have blocking : r.perform (b.call name) = (.error (.notFound name), r) := by
      rw [b.perform_call, found]
    have suspending : r.perform (s.call name) = (false, r) := by
      rw [s.perform_call, found]
    constructor <;> simp only [blocking, suspending]
  | some i =>
    obtain ⟨p, process, -⟩ := position_eq_some found
    have atI : r.stateAt i = some p.state := stateAt_eq_some.mpr ⟨p, process, rfl⟩
    have suspending : r.perform (s.call name) = r.shift i s.target := by
      rw [s.perform_call, found]
    by_cases running : p.state = .running
    · rw [running] at atI
      have refused : r.perform (b.call name) = (.error (.running name), r) := by
        rw [b.perform_call, found]
        exact if_pos atI
      have nothing : r.shift i s.target = (false, r) := by
        rw [shift_eq atI]
        cases s <;> rfl
      constructor <;> simp only [suspending, nothing, refused]
    · have awake (r' : Registry) (found' : r'.table.position name = some i)
          (state : r'.stateAt i ≠ some .running) : r'.perform (b.call name) =
            (.ok (r'.shift i b.target).1, (r'.shift i b.target).2) := by
        rw [b.perform_call, found']
        exact if_neg state
      have blocking := awake r found (by rw [atI]; exact fun eq => running (Option.some.inj eq))
      have suspended := awake (r.shift i s.target).2 (hs.position_shift s.axis found) (by
        obtain ⟨-, -, steady⟩ := hs.shift s.axis i
        rw [Ne, steady.running, atI]
        exact fun eq => running (Option.some.inj eq))
      have blocked : (r.shift i b.target).2.perform (s.call name) =
          (r.shift i b.target).2.shift i s.target := by
        rw [s.perform_call, hs.position_shift b.axis found]
      obtain ⟨first, second, same⟩ := hs.shift_shift (independent_targets b s) atI
      constructor
      · rw [suspending, suspended, blocking, first]
      · rw [blocking, blocked, suspending, second]
      · rw [blocking, blocked, suspending, suspended, same]

/-- Whatever was asked of a registry, it makes no difference whether a process is first blocked or
unblocked and then suspended or resumed, or the other way round. The process may be running, and
there need not be one of that name. -/
theorem orthogonal_calls (calls : List AnyCall) (permitted : empty.Permits calls) (b : Blocking)
    (s : Suspending) (name : String) :
    (empty.after calls).Orthogonal (b.call name) (s.call name) :=
  (mirrors_empty.after calls permitted).sound.orthogonal b s name

/-- Three processes are created, and the second is blocked and suspended. -/
def crossing : List AnyCall :=
  [⟨_, .create (.bump (.create 4000)) "first" .user 3⟩,
    ⟨_, .create (.bump (.create 4000)) "second" .user 5⟩,
    ⟨_, .create (.bump (.create 4000)) "third" .user 3⟩,
    ⟨_, .block "second"⟩, ⟨_, .suspend "second"⟩]

/-- The first comes to stand behind the second, be it by way of the blocked or of the suspended. -/
theorem orthogonal_calls_crossing : empty.Permits crossing ∧
    (empty.after crossing).Orthogonal (Blocking.block.call "first")
      (Suspending.suspend.call "first") ∧
    ((((empty.after crossing).perform (.block "first")).2.perform (.suspend "first")).2.members
      .suspendedBlocked) = [1, 0] := by
  have permitted : empty.Permits crossing := ⟨trivial, trivial, trivial, trivial, trivial, trivial⟩
  exact ⟨permitted, orthogonal_calls crossing permitted .block .suspend "first", by decide +kernel⟩

end Registry

end TrapKernel
