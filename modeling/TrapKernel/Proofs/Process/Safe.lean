import TrapKernel.Proofs.Process.Running

/-!
# Safety of the queue operations

The definitions of the queue operations give a result whatever the table holds. A program that
indexes a vacant slot stops there, and one that counts a queue below zero counts wrongly. The
predicates here say that an operation does neither: every slot that it reads or writes on its way is
in use, and a queue that it shortens is not empty. A sound registry makes all of them true.
-/

namespace TrapKernel

namespace ProcessTable

/-- A walk from `start` along the forward links ends. It finds every slot in use, and so is every
slot that a backward link on the way names. -/
def WalkSafe (t : ProcessTable) : (most : Nat) → (start : Option Nat) → Prop
  | _, none => True
  | 0, some _ => False
  | most + 1, some i =>
    ∃ l, t.links i = some l ∧ (∀ j ∈ l.prev, t.Live j) ∧ t.WalkSafe most l.next

end ProcessTable

namespace ProcessQueue

open ProcessTable

variable {q : ProcessQueue} {t : ProcessTable} {l : List Nat} {i : Nat}

/-- What `remove` reads, writes and counts is there. -/
structure RemoveSafe (q : ProcessQueue) (t : ProcessTable) (i : Nat) : Prop where
  live : t.Live i
  next : ∀ j ∈ (t.node? i).bind (·.next), t.Live j
  prev : ∀ j ∈ (t.node? i).bind (·.prev), t.Live j
  counted : 0 < q.count

/-- What `enqueue` reads and writes is there, wherever it stops. -/
structure EnqueueSafe (q : ProcessQueue) (t : ProcessTable) (i : Nat) : Prop where
  live : t.Live i
  tail : ∀ j ∈ q.tail, t.Live j
  walk : t.WalkSafe t.slots.length q.head

namespace Threads

theorem removeSafe (hq : q.Threads t l) (hi : i ∈ l) : q.RemoveSafe t i := by
  obtain ⟨a, b, rfl⟩ := List.append_of_mem hi
  have own := hq.threaded.links_eq
  rw [Option.or_none, Option.or_none] at own
  refine ⟨hq.live hi, ?_, ?_, ?_⟩
  · intro j next
    rw [bind_next, own] at next
    exact hq.live (by simp [List.mem_of_head? next])
  · intro j prev
    rw [bind_prev, own] at prev
    exact hq.live (by simp [List.mem_of_getLast? prev])
  · rw [hq.count, List.length_append, List.length_cons]
    omega

theorem walkSafe (hq : q.Threads t l) : t.WalkSafe t.slots.length q.head := by
  have walk : ∀ (l : List Nat) (prev : Option Nat) (most : Nat), Threaded t.links prev l none →
      (∀ j ∈ prev, t.Live j) → l.length ≤ most → t.WalkSafe most l.head? := by
    intro l
    induction l with
    | nil =>
      intro prev most _ _ _
      cases most <;> trivial
    | cons i l ih =>
      intro prev most threaded live le
      obtain ⟨links, rest⟩ := threaded
      cases most with
      | zero => cases le
      | succ most =>
        have liveI : ∀ j ∈ some i, t.Live j := by
          intro j same
          obtain rfl := Option.mem_some_iff.mp same
          exact isSome_links.mp (by rw [links]; rfl)
        have ih := ih (some i) most rest liveI (Nat.le_of_succ_le_succ le)
        rw [Option.or_none] at links
        exact ⟨_, links, live, ih⟩
  rw [hq.head]
  exact walk l none _ hq.threaded nofun hq.length_le

theorem enqueueSafe (hq : q.Threads t l) (live : t.Live i) : q.EnqueueSafe t i := by
  refine ⟨live, ?_, hq.walkSafe⟩
  intro j tail
  rw [hq.tail] at tail
  exact hq.live (List.mem_of_getLast? tail)

end Threads

end ProcessQueue

namespace Registry

open ProcessTable ProcessQueue

variable {r r' : Registry} {order : Order} {i : Nat} {id : ProcessId} {who : List ProcessId}

/-- Taking slot `i` out of the queue of its state is safe. -/
structure UnlinkSafe (r : Registry) (i : Nat) : Prop where
  live : r.table.Live i
  queue : ∀ k, r.stateAt i = some k.state → (r.queue k).RemoveSafe r.table i

/-- Giving slot `i` a state and putting it into the queue of that state is safe. -/
structure LinkSafe (r : Registry) (i : Nat) (state : ProcessState) (round : Nat) : Prop where
  live : r.table.Live i
  queue : ∀ k, state = k.state →
    (r.queue k).EnqueueSafe (r.table.modifyProcess i (entering state round)) i

/-- Moving slot `i` to the queue of a state is safe. -/
structure MoveSafe (r : Registry) (i : Nat) (state : ProcessState) : Prop where
  unlink : r.UnlinkSafe i
  link : (r.unlink i).LinkSafe i state r.round

/-- Moving slot `i` along an axis is safe. -/
def ShiftSafe (r : Registry) (i : Nat) (target : ProcessState → Option ProcessState) : Prop :=
  ∀ state, (r.stateAt i).bind target = some state → r.MoveSafe i state

/-- Each of the moves by which a queue is drained is safe. -/
def DrainSafe (r : Registry) (k : QueueKind) (state : ProcessState) : (most : Nat) → Prop
  | 0 => True
  | most + 1 => ∀ i, (r.queue k).head = some i →
    r.MoveSafe i state ∧ (r.moveTo i state).DrainSafe k state most

/-- Putting a new process into the ready queue is safe. -/
def CreateSafe (r : Registry) (m : Memory) (name : String) (owner : ProcessClass) (priority : Nat) :
    Prop :=
  ∀ result, r.create m name owner priority = .ok result → ∀ record,
    let (id, table) := r.table.insert (.create name owner priority record)
    LinkSafe { r with table } id.index .ready r.round

/-- Creating a process and suspending it is safe. -/
def LoadSafe (r : Registry) (m : Memory) (name : String) (owner : ProcessClass) (priority : Nat)
    (entry : UInt32) : Prop :=
  r.CreateSafe m name owner priority ∧
    ∀ id r' m', r.create m name owner priority = .ok (id, r', m') →
      (r'.modifyProcess id.index (·.prepare entry)).MoveSafe id.index .readySuspended

/-- Taking a process that goes out of its queue is safe. -/
def DestroySafe (r : Registry) (id : ProcessId) : Prop :=
  ∀ i, r.table.resolve id = some i → r.UnlinkSafe i

/-- Resuming every suspended process is safe. -/
def ResumeAllSafe (r : Registry) : Prop :=
  r.DrainSafe .suspendedReady .ready r.table.slots.length ∧
    let r' := (r.drain .suspendedReady .ready r.table.slots.length).2
    r'.DrainSafe .suspendedBlocked .blocked r'.table.slots.length

/-- Putting a process into its new place is safe. -/
def SetPrioritySafe (r : Registry) (name : String) (priority : Nat) : Prop :=
  ∀ i, r.table.position name = some i →
    let r' := r.modifyProcess i ({ · with priority })
    r'.UnlinkSafe i ∧ ∀ state round, (r'.unlink i).LinkSafe i state round

/-- Taking the first ready process is safe. -/
def TakeSafe (r : Registry) : Prop := ∀ i, r.ready.head = some i → r.ready.RemoveSafe r.table i

/-- Putting the process of a handle into a queue, from outside of all queues, is safe. -/
def ReturnSafe (r : Registry) (id : ProcessId) (k : QueueKind) : Prop :=
  ∀ i, r.table.resolve id = some i → ∀ round, r.LinkSafe i k.state round

/-! ### Sound registries -/

theorem Queued.unlinkSafe (hq : r.Queued order) (live : r.table.Live i)
    (complete : ∀ k, r.stateAt i = some k.state → i ∈ order k) : r.UnlinkSafe i where
  live := live
  queue := fun k state => (hq.threads k).removeSafe (complete k state)

theorem Queued.linkSafe (hq : r.Queued order) (live : r.table.Live i) (free : ∀ k, i ∉ order k)
    (state : ProcessState) (round : Nat) : r.LinkSafe i state round := by
  refine ⟨live, fun k _ => ?_⟩
  have changed : (r.modifyProcess i (entering state round)).Queued order :=
    hq.modifyProcess fun k hi => absurd hi (free k)
  have threads := changed.threads k
  rw [queue_modifyProcess] at threads
  exact threads.enqueueSafe (((SameSlots.modify _).live i).mpr live)

theorem Detached.linkSafe (hd : r.Detached order i) (state : ProcessState) (round : Nat) :
    r.LinkSafe i state round := hd.toQueued.linkSafe hd.live hd.free state round

namespace Sound

theorem unlinkSafe (hs : r.Sound order) (live : r.table.Live i) : r.UnlinkSafe i :=
  hs.toQueued.unlinkSafe live (hs.complete i)

theorem moveSafe (hs : r.Sound order) (live : r.table.Live i) (state : ProcessState) :
    r.MoveSafe i state :=
  ⟨hs.unlinkSafe live, (hs.unlink live).1.linkSafe state r.round⟩

theorem shiftSafe (hs : r.Sound order) (i : Nat) (target : ProcessState → Option ProcessState) :
    r.ShiftSafe i target := by
  intro state moved
  obtain ⟨old, atI, -⟩ := Option.bind_eq_some_iff.mp moved
  exact hs.moveSafe (live_of_stateAt atI) state

theorem drainSafe (hs : r.Sound order) (k k' : QueueKind) (most : Nat) :
    r.DrainSafe k k'.state most := by
  induction most generalizing r order with
  | zero => trivial
  | succ most ih =>
    intro i head
    have atI := hs.stateAt_head head
    obtain ⟨order', sound, -⟩ := hs.steady_moveTo atI k'
    exact ⟨hs.moveSafe (live_of_stateAt atI) k'.state, ih sound⟩

theorem createSafe (hs : r.Sound order) (m : Memory) (name : String) (owner : ProcessClass)
    (priority : Nat) : r.CreateSafe m name owner priority := by
  rintro ⟨id, r', m'⟩ done record
  obtain ⟨record', t', -, ⟨minName, maxName, lePriority⟩, unused, -, -⟩ := create_ok done
  obtain ⟨i, t, insertEq, inserted⟩ :=
    insert_spec hs.wellformed (Process.create name owner priority record)
  rw [insertEq]
  exact (hs.insert inserted ⟨minName, maxName, lePriority⟩ unused).linkSafe .ready r.round

theorem loadSafe (hs : r.Sound order) (m : Memory) (name : String) (owner : ProcessClass)
    (priority : Nat) (entry : UInt32) : r.LoadSafe m name owner priority entry := by
  refine ⟨hs.createSafe m name owner priority, fun id r' m' done => ?_⟩
  obtain ⟨record, i, -, ⟨order', sound⟩, -, resolved, -⟩ := hs.create done
  obtain ⟨index, -, live⟩ := resolve_eq_some.mp resolved
  rw [index]
  have prepared : (r'.modifyProcess i (·.prepare entry)).Sound order' :=
    sound.modifyProcess_rank (fun _ => rfl) (fun _ => rfl) (fun _ => rfl) (fun _ => rfl)
  exact prepared.moveSafe (((SameSlots.modify _).live i).mpr live) .readySuspended

theorem destroySafe (hs : r.Sound order) (id : ProcessId) : r.DestroySafe id := by
  intro i resolved
  exact hs.unlinkSafe (resolve_eq_some.mp resolved).2.2

theorem resumeAllSafe (hs : r.Sound order) : r.ResumeAllSafe := by
  obtain ⟨order', sound, -⟩ := hs.drain .suspendedReady .ready r.table.slots.length
  exact ⟨hs.drainSafe .suspendedReady .ready _, sound.drainSafe .suspendedBlocked .blocked _⟩

theorem setPrioritySafe (hs : r.Sound order) (name : String) (priority : Nat) :
    r.SetPrioritySafe name priority := by
  intro i found
  obtain ⟨p, process, -⟩ := position_eq_some found
  let f : Process → Process := ({ · with priority })
  have live : (r.modifyProcess i f).table.Live i :=
    ((SameSlots.modify _).live i).mpr (live_iff.mpr ⟨p, process⟩)
  have queued : (r.modifyProcess i f).Queued order := hs.toQueued.modifyProcess fun _ _ _ _ => rfl
  have complete : ∀ k, (r.modifyProcess i f).stateAt i = some k.state → i ∈ order k := by
    intro k state
    rw [stateAt_modifyProcess (f := f) fun _ => rfl] at state
    exact hs.complete i k state
  obtain ⟨unlinked, rewired, -⟩ := queued.unlink complete
  refine ⟨queued.unlinkSafe live complete, fun state round => ?_⟩
  exact unlinked.linkSafe ((rewired.live i).mpr live) (fun k hi => (hs.mem_without.mp hi).1 rfl)
    state round

theorem takeSafe (hs : r.Sound order) : r.TakeSafe := by
  intro i head
  have threads : r.ready.Threads r.table (order .ready) := hs.threads .ready
  rw [threads.head] at head
  exact threads.removeSafe (List.mem_of_head? head)

end Sound

/-- A process that runs can be put into any queue. -/
theorem Runs.returnSafe (hr : r.Runs who) (member : id ∈ who) (k : QueueKind) :
    r.ReturnSafe id k := by
  obtain ⟨order, hs⟩ := hr.sound
  intro i resolved round
  exact (hs.detached (hr.stateAt member resolved)).linkSafe k.state round

end Registry

end TrapKernel
