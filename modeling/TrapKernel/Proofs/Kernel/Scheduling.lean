import TrapKernel.Proofs.Kernel.Logged
import TrapKernel.Proofs.Kernel.Trap
import TrapKernel.Proofs.Process.Verify

/-!
# Scheduling

What becomes of a registry under any sequence of its operations and of traps. An operation may come
with any memory, and a trap may meet any device, any buffers, any request and any memory: of the
kernel around the registry only the dispatcher's own notes are kept from one trap to the next.

`Registry.Orderly` is what holds of the registry after any such sequence. `Scheduling.Safe` says
that the next call indexes no vacant slot on its way and counts no queue below zero. That this is
said of everything that the call does on its way is seen from the same call with a log.
-/

namespace TrapKernel

namespace Registry

open ProcessTable ProcessQueue

variable {r : Registry} {order : Order} {i : Nat} {who : List ProcessId}

/-- The registry is in order: it passes its own check, names and priorities are admissible, every
process is in the one queue in which it belongs, and every link leads to a process. -/
structure Orderly (r : Registry) : Prop where
  verified : r.verify = .ok ()
  distinct : ∀ i j p p', r.table.process? i = some p → r.table.process? j = some p' →
    p.name = p'.name → i = j
  named : ∀ i p, r.table.process? i = some p → 3 ≤ p.name.length ∧ p.name.length ≤ 20
  ranked : ∀ i p, r.table.process? i = some p → p.priority ≤ 9
  queued : ∀ i p k, r.table.process? i = some p → p.state = k.state →
    ∀ k', (r.members k').count i = if k' = k then 1 else 0
  /-- A process that runs is in no queue and has no neighbours. -/
  running : ∀ i n, r.table.node? i = some n → n.process.state = .running →
    n.next = none ∧ n.prev = none ∧ ∀ k, i ∉ r.members k
  ends : ∀ k i, (r.queue k).head = some i ∨ (r.queue k).tail = some i → r.table.Live i
  neighbours : ∀ i n, r.table.node? i = some n →
    ∀ j, n.next = some j ∨ n.prev = some j → r.table.Live j

theorem Sound.count_members (hs : r.Sound order) (k k' : QueueKind)
    (state : r.stateAt i = some k.state) : (r.members k').count i = if k' = k then 1 else 0 := by
  rw [hs.toQueued.members]
  split
  · rename_i eq
    subst eq
    exact List.count_eq_one_of_mem (hs.threads k').nodup (hs.mem_iff.mpr state)
  · rename_i ne
    apply List.count_eq_zero.mpr
    intro hi
    exact ne (hs.toQueued.eq_of_mem hi (hs.mem_iff.mpr state))

theorem Sound.neighbours_live (hs : r.Sound order) {n : Node} (node : r.table.node? i = some n) :
    ∀ j, n.next = some j ∨ n.prev = some j → r.table.Live j := by
  have live : r.table.Live i := isSome_node?.mp (by rw [node]; rfl)
  by_cases queued : ∃ k, i ∈ order k
  · obtain ⟨k, hi⟩ := queued
    have safe := (hs.threads k).removeSafe hi
    rintro j (next | prev)
    · exact safe.next j (by rw [node]; exact next)
    · exact safe.prev j (by rw [node]; exact prev)
  · have idle := hs.idle i live fun k hi => queued ⟨k, hi⟩
    rw [links, node] at idle
    obtain ⟨next, prev⟩ := Links.mk.inj (Option.some.inj idle)
    rintro j (eq | eq)
    · rw [next] at eq
      cases eq
    · rw [prev] at eq
      cases eq

theorem Runs.orderly (hr : r.Runs who) (one : who.length ≤ 1) : r.Orderly := by
  obtain ⟨order, hs⟩ := hr.sound
  refine ⟨hr.verify one, hs.roster.distinct, ?_, ?_, ?_, ?_, ?_, ?_⟩
  · intro i p found
    have admissible := hs.roster.admissible i p found
    exact ⟨admissible.minName, admissible.maxName⟩
  · intro i p found
    exact (hs.roster.admissible i p found).priority
  · intro i p k found state
    exact fun k' => hs.count_members k k' (stateAt_eq_some.mpr ⟨p, found, state⟩)
  · intro i n node running
    have state : r.stateAt i = some .running := by
      refine stateAt_eq_some.mpr ⟨n.process, ?_, running⟩
      rw [process?, node]
      rfl
    have detached := hs.detached state
    have idle := detached.idle i detached.live detached.free
    rw [links, node] at idle
    obtain ⟨next, prev⟩ := Links.mk.inj (Option.some.inj idle)
    refine ⟨next, prev, fun k => ?_⟩
    rw [hs.toQueued.members]
    exact detached.free k
  · rintro k i (head | tail)
    · rw [(hs.threads k).head] at head
      exact hs.toQueued.live (List.mem_of_head? head)
    · rw [(hs.threads k).tail] at tail
      exact hs.toQueued.live (List.mem_of_getLast? tail)
  · intro i n node
    exact hs.neighbours_live node

theorem runs_empty : Registry.empty.Runs [] := by
  refine ⟨⟨_, sound_empty⟩, List.nodup_nil, nofun, fun i => ?_⟩
  refine iff_of_false nofun ?_
  rintro ⟨id, member, -⟩
  cases member

end Registry

namespace Kernel

open Registry ProcessTable

variable {k k' : Kernel} {who : List ProcessId} {id : ProcessId} {saved : Context}

/-- Whatever else a kernel has, each step of a trap keeps its registry sound. -/
theorem trapInvariant_runs : TrapInvariant fun k who => k.registry.Runs who where
  runs := id
  notes := fun _ _ _ _ _ _ runs => runs
  registry := fun _ runs _ => runs
  accept := fun runs _ _ => runs
  complete := id
  exit := by
    intro k who id runs member
    obtain ⟨i, p, r, -, -, eq, runs', -⟩ := exit_spec runs member
    rw [eq]
    exact runs'

/-- What a trap does to the registry is safe: it ends the process that ran, or saves its context and
lets it wait; it releases the owner of a transfer that ended; it takes the first ready process, and
puts the process that ran back among the ready ones. -/
def DispatchSafe (k : Kernel) (saved : Context) : Prop :=
  k.halted = none →
    (∀ id ∈ k.running, k.registry.DestroySafe id ∧
      (k.save id saved).registry.ReturnSafe id .blocked) ∧
    ∀ kept k', k.enter saved = (.ok kept, k') →
      (∀ id ∈ (k'.device.checkCompletion k'.shared k'.memory).1,
        ∀ i, k'.registry.table.resolve id = some i → k'.registry.ShiftSafe i unblockTarget) ∧
      k'.poll.registry.TakeSafe ∧
      (∀ id ∈ kept, k'.poll.registry.ReturnSafe id .ready) ∧
      ∀ next r, k'.poll.registry.takeReadyHead = some (next, r) →
        ∀ id ∈ kept, r.ReturnSafe id .ready

theorem dispatchSafe (runs : k.registry.Runs k.running.toList) : k.DispatchSafe saved := by
  intro on
  refine ⟨fun id member => ?_, fun kept k' entered => ?_⟩
  · obtain ⟨order, hs⟩ := runs.sound
    obtain ⟨r, eq, runs', -⟩ := save_spec runs id saved
    rw [eq]
    exact ⟨hs.destroySafe id, runs'.returnSafe (Option.mem_toList.mpr member) .blocked⟩
  · obtain ⟨result, k₁, entered', -, after⟩ := trapInvariant_runs.enter on runs saved
    rw [entered] at entered'
    cases entered'
    obtain ⟨-, runs₁⟩ := after
    obtain ⟨order₁, hs₁⟩ := runs₁.sound
    have runs₂ : k'.poll.registry.Runs kept.toList := trapInvariant_runs.poll runs₁
    obtain ⟨order₂, hs₂⟩ := runs₂.sound
    refine ⟨fun id _ i _ => hs₁.shiftSafe i unblockTarget, hs₂.takeSafe, ?_, ?_⟩
    · intro id member
      exact runs₂.returnSafe (Option.mem_toList.mpr member) .ready
    · intro next r taken id member
      obtain ⟨runs₃, -, -⟩ := runs₂.takeReadyHead taken
      exact runs₃.returnSafe (List.mem_cons_of_mem next (Option.mem_toList.mpr member)) .ready

theorem registry_save_inside (k : Kernel) (id : ProcessId) (saved : Context) :
    (k.inside.save id saved).registry = (k.save id saved).registry := by
  unfold save inside
  cases k.registry.saveContext id saved <;> rfl

/-- Whatever a safe trap does to a queue is safe. -/
theorem DispatchSafe.logged (h : k.DispatchSafe saved) :
    (Logged.dispatch k saved).All Subcall.Safe := by
  refine Logged.all_dispatch fun on => ?_
  obtain ⟨acts, rest⟩ := h on
  refine ⟨Logged.all_enter fun id member => ?_, fun kept k' entered => ?_⟩
  · obtain ⟨destroys, parks⟩ := acts id member
    refine ⟨trivial, Logged.safe_parkBlocked ?_, ?_, Logged.safe_destroy destroys⟩
    · rw [registry_save_inside]
      exact parks
    · exact Logged.all_giveBackAll fun _ _ => trivial
  · obtain ⟨releases, takes, requeues, requeues'⟩ := rest kept k' entered
    refine ⟨Logged.all_poll (fun _ _ => trivial) fun id owner => ?_, ?_⟩
    · exact Logged.safe_release (releases id owner)
    refine ⟨Logged.safe_takeReadyHead takes, fun id member => ⟨?_, fun next r taken => ?_⟩, ?_⟩
    · exact Logged.safe_requeueYielded (requeues id member)
    · exact Logged.safe_requeueYielded (requeues' next r taken id member)
    · exact ⟨fun _ _ _ => trivial, fun _ _ => trivial⟩

end Kernel

/-- A call that changes a registry: an operation on processes, with the memory that it may use, or a
trap that a kernel with this registry takes. -/
inductive RegistryCall where
  | create (memory : Memory) (name : String) (owner : ProcessClass) (priority : Nat)
  | load (memory : Memory) (name : String) (owner : ProcessClass) (priority : Nat) (entry : UInt32)
  | delete (memory : Memory) (name : String)
  | block (name : String)
  | unblock (name : String)
  | suspend (name : String)
  | resume (name : String)
  | resumeAll
  | setPriority (name : String) (priority : Nat)
  | trap (around : Kernel) (saved : Context)

/-- A registry, and what the dispatcher notes about it from one trap to the next. -/
structure Scheduling where
  registry : Registry
  running : Option ProcessId
  halted : Option Fatal

namespace Scheduling

open Registry

variable {s : Scheduling}

/-- There are no processes, and the kernel is on. -/
def initial : Scheduling := ⟨.empty, none, none⟩

/-- A kernel in which everything but the registry and the notes is as in `around`. -/
def within (s : Scheduling) (around : Kernel) : Kernel :=
  { around with registry := s.registry, running := s.running, halted := s.halted }

/-- The registry that is part of what an operation answered, or the old one if it failed. -/
def update {α : Type} (s : Scheduling) (result : Except RegistryError α) (part : α → Registry) :
    Scheduling :=
  match result with
  | .ok a => { s with registry := part a }
  | .error _ => s

/-- What a call makes of the registry. -/
def call (s : Scheduling) : RegistryCall → Scheduling
  | .create m name owner priority => s.update (s.registry.create m name owner priority) (·.2.1)
  | .load m name owner priority entry =>
    s.update (s.registry.load m name owner priority entry) (·.2.1)
  | .delete m name => s.update (s.registry.delete m name) (·.2.1)
  | .block name => s.update (s.registry.block name) (·.2)
  | .unblock name => s.update (s.registry.unblock name) (·.2)
  | .suspend name => { s with registry := (s.registry.suspend name).2 }
  | .resume name => { s with registry := (s.registry.resume name).2 }
  | .resumeAll => { s with registry := s.registry.resumeAll.2 }
  | .setPriority name priority => s.update (s.registry.setPriority name priority) id
  | .trap around saved =>
    let k := ((s.within around).dispatch saved).2
    ⟨k.registry, k.running, k.halted⟩

/-- A call that is logged. -/
def logged (s : Scheduling) : RegistryCall → Logged Scheduling
  | .create m name owner priority => do
    return s.update (← Logged.create s.registry m name owner priority) (·.2.1)
  | .load m name owner priority entry => do
    return s.update (← Logged.load s.registry m name owner priority entry) (·.2.1)
  | .delete m name => do return s.update (← Logged.delete s.registry m name) (·.2.1)
  | .block name => do
    return s.update (← Logged.shiftByName s.registry name blockTarget) (·.2)
  | .unblock name => do
    return s.update (← Logged.shiftByName s.registry name unblockTarget) (·.2)
  | .suspend name => do
    let (_, registry) ← Logged.shiftKnown s.registry name suspendTarget
    return { s with registry }
  | .resume name => do
    let (_, registry) ← Logged.shiftKnown s.registry name resumeTarget
    return { s with registry }
  | .resumeAll => do
    let (_, registry) ← Logged.resumeAll s.registry
    return { s with registry }
  | .setPriority name priority => do
    return s.update (← Logged.setPriority s.registry name priority) id
  | .trap around saved => do
    let (_, k) ← Logged.dispatch (s.within around) saved
    return ⟨k.registry, k.running, k.halted⟩

theorem value_logged (s : Scheduling) (c : RegistryCall) : (s.logged c).value = s.call c := by
  cases c <;> simp [logged, call]

/-- Nothing that a call does on its way indexes a vacant slot or counts a queue below zero. -/
def Safe (s : Scheduling) : RegistryCall → Prop
  | .create m name owner priority => s.registry.CreateSafe m name owner priority
  | .load m name owner priority entry => s.registry.LoadSafe m name owner priority entry
  | .delete _ name => ∀ i, s.registry.table.position name = some i →
      s.registry.DestroySafe (s.registry.table.idAt i)
  | .block name => ∀ i, s.registry.table.position name = some i →
      s.registry.ShiftSafe i blockTarget
  | .unblock name => ∀ i, s.registry.table.position name = some i →
      s.registry.ShiftSafe i unblockTarget
  | .suspend name => ∀ i, s.registry.table.position name = some i →
      s.registry.ShiftSafe i suspendTarget
  | .resume name => ∀ i, s.registry.table.position name = some i →
      s.registry.ShiftSafe i resumeTarget
  | .resumeAll => s.registry.ResumeAllSafe
  | .setPriority name priority => s.registry.SetPrioritySafe name priority
  | .trap around saved => (s.within around).DispatchSafe saved

/-- The registry is sound, and at most one process runs, the one of the notes unless the kernel was
halted. -/
def Valid (s : Scheduling) : Prop :=
  ∃ who, who.length ≤ 1 ∧ (s.halted = none → who = s.running.toList) ∧ s.registry.Runs who

theorem valid_initial : initial.Valid := ⟨[], Nat.zero_le 1, fun _ => rfl, runs_empty⟩

theorem Valid.steady (hs : s.Valid) {r : Registry}
    (keeps : ∀ order, s.registry.Sound order →
      ∃ order', r.Sound order' ∧ s.registry.Steady r) : Valid { s with registry := r } := by
  obtain ⟨who, one, running, runs⟩ := hs
  exact ⟨who, one, running, runs.steadily keeps⟩

theorem Valid.update {α : Type} (hs : s.Valid) {result : Except RegistryError α}
    {part : α → Registry}
    (keeps : ∀ a, result = .ok a → ∀ who, s.registry.Runs who → (part a).Runs who) :
    (s.update result part).Valid := by
  cases result with
  | error e => exact hs
  | ok a =>
    obtain ⟨who, one, running, runs⟩ := hs
    exact ⟨who, one, running, keeps a rfl who runs⟩

theorem Valid.call (hs : s.Valid) (c : RegistryCall) : (s.call c).Valid := by
  cases c with
  | create m name owner priority =>
    apply hs.update
    intro result created who runs
    obtain ⟨record, i, -, runs', -⟩ := runs.create created
    exact runs'
  | load m name owner priority entry =>
    apply hs.update
    intro result loaded who runs
    obtain ⟨record, i, -, runs', -⟩ := runs.load loaded
    exact runs'
  | delete m name =>
    apply hs.update
    intro result deleted who runs
    obtain ⟨i, p, -, -, -, runs', -⟩ := runs.delete deleted
    exact runs'
  | block name =>
    apply hs.update
    intro result blocked who runs
    exact runs.steadily fun order sound => sound.block blocked
  | unblock name =>
    apply hs.update
    intro result unblocked who runs
    exact runs.steadily fun order sound => sound.unblock unblocked
  | suspend name => exact hs.steady fun order sound => sound.suspend name
  | resume name => exact hs.steady fun order sound => sound.resume name
  | resumeAll => exact hs.steady fun order sound => sound.resumeAll
  | setPriority name priority =>
    apply hs.update
    intro result changed who runs
    exact runs.steadily fun order sound => sound.setPriority changed
  | trap around saved =>
    have between : Kernel.BetweenTraps (fun k who => k.registry.Runs who) (s.within around) := hs
    exact Kernel.trapInvariant_runs.dispatch between saved

theorem Valid.safe (hs : s.Valid) (c : RegistryCall) : s.Safe c := by
  obtain ⟨who, one, running, runs⟩ := hs
  obtain ⟨order, sound⟩ := runs.sound
  cases c with
  | create m name owner priority => exact sound.createSafe m name owner priority
  | load m name owner priority entry => exact sound.loadSafe m name owner priority entry
  | delete m name => exact fun i _ => sound.destroySafe (s.registry.table.idAt i)
  | block name => exact fun i _ => sound.shiftSafe i blockTarget
  | unblock name => exact fun i _ => sound.shiftSafe i unblockTarget
  | suspend name => exact fun i _ => sound.shiftSafe i suspendTarget
  | resume name => exact fun i _ => sound.shiftSafe i resumeTarget
  | resumeAll => exact sound.resumeAllSafe
  | setPriority name priority => exact sound.setPrioritySafe name priority
  | trap around saved =>
    intro on
    rw [running on] at runs
    exact Kernel.dispatchSafe (k := s.within around) runs on

/-- Whatever a safe call does to a queue is safe. -/
theorem Safe.logged {c : RegistryCall} (h : s.Safe c) : (s.logged c).All Subcall.Safe := by
  cases c with
  | create m name owner priority => simpa [Scheduling.logged] using Logged.safe_create h
  | load m name owner priority entry => simpa [Scheduling.logged] using Logged.safe_load h
  | delete m name => simpa [Scheduling.logged] using Logged.safe_delete h
  | block name | unblock name => simpa [Scheduling.logged] using Logged.safe_shiftByName h
  | suspend name | resume name => simpa [Scheduling.logged] using Logged.safe_shiftKnown h
  | resumeAll => simpa [Scheduling.logged] using Logged.safe_resumeAll h
  | setPriority name priority => simpa [Scheduling.logged] using Logged.safe_setPriority h
  | trap around saved => simpa [Scheduling.logged] using Kernel.DispatchSafe.logged h

theorem valid_calls (calls : List RegistryCall) : (calls.foldl call initial).Valid := by
  induction calls using List.reverseRecOn with
  | nil => exact valid_initial
  | append_singleton calls c ih =>
    rw [List.foldl_append]
    exact ih.call c

/-- After any sequence of registry operations and traps the registry is in order, and whatever call
comes next is safe, in every step that it takes on its way. -/
theorem orderly_calls (calls : List RegistryCall) :
    let s := calls.foldl call initial
    s.registry.Orderly ∧ ∀ next, s.Safe next ∧ (s.logged next).value = s.call next ∧
      ∀ c ∈ (s.logged next).log, c.Safe := by
  intro s
  have valid : s.Valid := valid_calls calls
  refine ⟨?_, fun next => ?_⟩
  · obtain ⟨who, one, -, runs⟩ := valid
    exact runs.orderly one
  · have safe := valid.safe next
    exact ⟨safe, s.value_logged next, safe.logged⟩

end Scheduling

end TrapKernel
