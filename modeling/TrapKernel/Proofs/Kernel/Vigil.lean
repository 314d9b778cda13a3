import TrapKernel.Proofs.Kernel.Backlog
import TrapKernel.Proofs.Kernel.Events

/-!
# Who is woken too early

A trap that finds a transfer finished lets its owner go, whatever else the owner waits for. Whoever
waits has usually asked for nothing else: to ask he must run. But a process that waits can be
unblocked by hand, and may then ask for another transfer. A `Vigil` goes along with a kernel and
writes down who is woken by a trap, and what of his is still unfinished then. It also counts the
`lapses` of a process: how often it was let go in another way since it last had nothing unfinished.
A process that is woken has no more unfinished transfers than lapses. So nobody is woken too early
who was not unblocked while he waited for a transfer.

There is one more way to be let go. Handles repeat after 2 ^ 32 processes in one slot, so when the
transfer in flight is `stray`, as its owner is gone, somebody else may be taken for the owner.
-/

namespace TrapKernel

/-- A process that waits is let go because the owner of the transfer that has finished has its
handle. -/
structure Wake where
  owner : ProcessId
  /-- The transfers of the process that were accepted and have not finished. -/
  others : List Transfer
  /-- How often the process was let go while a transfer of it was unfinished. -/
  lapses : Nat

/-- A kernel, and what has happened to those who wait. -/
structure Vigil where
  kernel : Kernel
  /-- The owner of the transfer in flight is gone. -/
  stray : Bool
  /-- How often the process in a slot was let go, other than because a transfer of it had finished,
  since it last had no unfinished transfer. -/
  lapses : Nat → Nat
  /-- Who was let go by a trap that found a transfer finished, in this order. -/
  wakes : List Wake

namespace Vigil

open Registry ProcessTable Kernel

variable {v : Vigil} {k k' : Kernel} {who who' : List ProcessId} {id : ProcessId} {t : Transfer}
  {c : KernelConfig} {uart : Uart}

/-- The vigil begins. -/
def initial (k : Kernel) : Vigil := ⟨k, false, fun _ => 0, []⟩

/-- The unfinished transfers of the process in a slot. -/
def unfinished (v : Vigil) (i : Nat) : List Transfer :=
  v.kernel.registry.unfinished v.kernel.device v.stray i

/-- The device is polled. If the transfer in flight has finished and its owner waits, he is woken.
If the owner is gone, another process may have got his handle: it is woken for nothing. -/
def poll (v : Vigil) : Vigil :=
  let next : Vigil := { v with kernel := v.kernel.poll, stray := false }
  match (v.kernel.device.checkCompletion v.kernel.shared v.kernel.memory).1 with
  | none => { v with kernel := v.kernel.poll }
  | some owner =>
    match v.kernel.registry.table.resolve owner with
    | none => next
    | some i =>
      if v.kernel.registry.waitsAt i then
        let lapses := if v.stray then lapse v.lapses i else v.lapses
        { next with lapses, wakes := v.wakes ++ [⟨owner, next.unfinished i, lapses i⟩] }
      else next

/-- The vigil after a trap. The device is polled once the trap has acted on what it asks for. -/
def trap (v : Vigil) (saved : Context) : Vigil :=
  match v.kernel.halted, v.kernel.enter saved with
  | none, (.ok _, kernel) =>
    { poll { v with kernel } with kernel := (v.kernel.dispatch saved).2 }
  | _, _ => { v with kernel := (v.kernel.dispatch saved).2 }

/-- The lapses once the process with this name is unblocked. -/
def unblocking (v : Vigil) (name : String) : Nat → Nat :=
  match v.kernel.registry.table.position name with
  | none => v.lapses
  | some i => if v.kernel.registry.waitsAt i then lapse v.lapses i else v.lapses

/-- The vigil after a call. -/
def call (v : Vigil) : KernelCall → Vigil
  | .dispatch saved => v.trap saved
  | .syscall r saved =>
    match v.kernel.request r with
    | .error _ => v
    | .ok kernel => trap { v with kernel } saved
  | .unblock name =>
    { v with kernel := v.kernel.call (.unblock name), lapses := v.unblocking name }
  | c => { v with kernel := v.kernel.call c }

/-- The vigil after a command. -/
def shell (v : Vigil) : ShellCommand → Vigil
  | .unblock name =>
    { v with kernel := v.kernel.shell (.unblock name), lapses := v.unblocking name }
  | c => { v with kernel := v.kernel.shell c }

/-- Whoever has no unfinished transfer begins anew. -/
def forgive (v : Vigil) : Vigil :=
  { v with lapses := fun i => if (v.unfinished i).isEmpty then 0 else v.lapses i }

/-- The transfer in flight is marked when its owner is gone. -/
def mark (v : Vigil) : Vigil :=
  { v with stray := v.stray ||
      v.kernel.device.active.any fun t => (v.kernel.registry.table.resolve t.owner).isNone }

/-- The vigil after an event. -/
def step (v : Vigil) : KernelEvent → Vigil
  | .call c => (v.call c).mark.forgive
  | .shell c => (v.shell c).mark.forgive
  | e => mark { v with kernel := v.kernel.step e } |>.forgive

/-! ### The kernel goes its way -/

theorem kernel_poll (v : Vigil) : v.poll.kernel = v.kernel.poll := by
  unfold poll
  split
  · rfl
  · split
    · rfl
    · split <;> rfl

theorem kernel_trap (v : Vigil) (saved : Context) :
    (v.trap saved).kernel = (v.kernel.dispatch saved).2 := by
  unfold trap
  split <;> rfl

theorem kernel_call (v : Vigil) (c : KernelCall) : (v.call c).kernel = v.kernel.call c := by
  cases c with
  | dispatch saved => exact v.kernel_trap saved
  | syscall r saved =>
    simp only [call, Kernel.call, Kernel.syscall]
    cases v.kernel.request r with
    | error e => rfl
    | ok kernel => exact kernel_trap { v with kernel } saved
  | _ => rfl

theorem kernel_step (v : Vigil) (e : KernelEvent) : (v.step e).kernel = v.kernel.step e := by
  cases e with
  | call c => exact v.kernel_call c
  | shell c => cases c <;> rfl
  | driver port shared => rfl

theorem kernel_steps (v : Vigil) (events : List KernelEvent) :
    (events.foldl step v).kernel = events.foldl Kernel.step v.kernel := by
  induction events generalizing v with
  | nil => rfl
  | cons e events ih => rw [List.foldl_cons, List.foldl_cons, ih, kernel_step]

/-! ### What is written down -/

/-- Whoever waits when the device is polled, and does not wait any more then, is written down with
what of his is still unfinished. -/
theorem wakes_poll {i : Nat} (waited : v.kernel.registry.waitsAt i = true)
    (free : v.kernel.poll.registry.waitsAt i = false) :
    ∃ w ∈ v.poll.wakes, v.kernel.registry.table.resolve w.owner = some i ∧
      w.others = v.kernel.poll.registry.unfinished v.kernel.poll.device false i := by
  cases answer : (v.kernel.device.checkCompletion v.kernel.shared v.kernel.memory).1 with
  | none =>
    rw [poll_unfinished answer, waited] at free
    cases free
  | some owner =>
    obtain ⟨t, rfl, f⟩ := poll_finishes answer
    have owns : v.kernel.registry.table.resolve t.owner = some i := by
      by_contra other
      rw [f.waits, if_neg other, waited] at free
      cases free
    unfold poll
    simp only [answer, owns, waited, if_true]
    exact ⟨_, List.mem_append_right _ (List.mem_singleton_self _), owns, rfl⟩

theorem wakes_trap {kept : Option ProcessId} {saved : Context} {i : Nat}
    (on : v.kernel.halted = none) (entered : v.kernel.enter saved = (.ok kept, k))
    (waited : k.registry.waitsAt i = true) (free : k.poll.registry.waitsAt i = false) :
    ∃ w ∈ (v.trap saved).wakes, k.registry.table.resolve w.owner = some i ∧
      w.others = k.poll.registry.unfinished k.poll.device false i := by
  unfold trap
  simp only [on, entered]
  exact wakes_poll (v := { v with kernel := k }) waited free

/-! ### What the vigil watches over -/

/-- The processes of `who` run, and nobody has more unfinished transfers than he may have. -/
structure Minded (v : Vigil) (who : List ProcessId) : Prop where
  runs : v.kernel.registry.Runs who
  excused : Excused v.kernel.registry v.kernel.device v.stray v.lapses
  woken : ∀ w ∈ v.wakes, w.others.length ≤ w.lapses

namespace Minded

/-! ### The steps of a trap -/

/-- Processes may change in what is not about waiting. -/
theorem registry {r : Registry} (h : v.Minded who) (runs : r.Runs who')
    (same : v.kernel.registry.SameWaits r) :
    Minded { v with kernel := { v.kernel with registry := r } } who' :=
  ⟨runs, h.excused.same same, h.woken⟩

theorem waits (v : Vigil) : WaitsInvariant fun k who => Minded { v with kernel := k } who where
  runs := runs
  notes := fun _ _ _ _ h => ⟨h.runs, h.excused, h.woken⟩
  registry := registry

theorem save (h : v.Minded who) (id : ProcessId) (c : Context) :
    Minded { v with kernel := v.kernel.save id c } who := (waits v).save h id c

theorem exit (h : v.Minded who) (member : id ∈ who) :
    Minded { v with kernel := v.kernel.exit id } (who.erase id) := by
  obtain ⟨r, m, done, runs⟩ :=
    h.runs.destroy member (v.kernel.cancelTransfers id).memory
  obtain ⟨leaves, waits⟩ := destroy_leaves done
  unfold Kernel.exit
  simp only []
  rw [show (v.kernel.cancelTransfers id).registry.destroy _ id = _ from done]
  exact ⟨runs, h.excused.leave leaves waits v.kernel.memory, h.woken⟩

/-- A transfer that is accepted makes its owner wait. -/
theorem startTransfer (h : v.Minded who) (member : t.owner ∈ who) (saved : Context) :
    ∃ kept k, v.kernel.startTransfer t.owner t.direction t.device t.buffer saved = (kept, k) ∧
      (kept = some t.owner ∧ Minded { v with kernel := k } who ∨
        kept = none ∧ Minded { v with kernel := k } (who.erase t.owner)) := by
  obtain ⟨r₀, eq, -⟩ := save_spec h.runs t.owner saved
  have h := h.save t.owner saved
  rw [eq] at h
  unfold Kernel.startTransfer
  simp only [eq]
  cases submitted : v.kernel.device.submit v.kernel.shared v.kernel.memory t with
  | error e => exact ⟨_, _, rfl, Or.inl ⟨rfl, h.runs, h.excused, h.woken⟩⟩
  | ok result =>
    obtain ⟨how, d, s, m⟩ := result
    obtain ⟨i, resolved⟩ := h.runs.resolves t.owner member
    obtain ⟨r, parked, runs, -⟩ := h.runs.parkBlocked member
    obtain ⟨slots, waits⟩ := waitsAt_parkBlocked parked
    have free : r₀.waitsAt i = false := waitsAt_eq (h.runs.stateAt member resolved)
    have parked_eq := park_eq (k := { v.kernel with
      registry := r₀, device := d, shared := s, memory := m }) parked
    refine ⟨none, _, rfl, Or.inr ⟨rfl, ?_⟩⟩
    rw [parked_eq]
    exact ⟨runs, h.excused.park resolved free submitted slots waits, h.woken⟩

/-- Who is woken has no more unfinished transfers than lapses. -/
theorem poll (h : v.Minded who) : v.poll.Minded who := by
  have runs : v.kernel.poll.registry.Runs who := trapInvariant_runs.poll h.runs
  unfold Vigil.poll
  cases answer : (v.kernel.device.checkCompletion v.kernel.shared v.kernel.memory).1 with
  | none =>
    simp only [poll_unfinished answer]
    exact h
  | some owner =>
    obtain ⟨t, rfl, f⟩ := poll_finishes answer
    -- The lapses may only grow, and do if the transfer was stray and somebody is taken for its owner.
    have finish : ∀ lapses', (∀ j, v.lapses j ≤ lapses' j) →
        (v.stray = true → ∀ j, v.kernel.registry.table.resolve t.owner = some j →
          v.kernel.registry.waitsAt j = true → v.lapses j + 1 ≤ lapses' j) →
        Excused v.kernel.poll.registry v.kernel.poll.device false lapses' := fun _ =>
      h.excused.release f.prompt f.left f.rest f.slots f.waits
    have same : ∀ j, v.lapses j ≤ v.lapses j := fun _ => Nat.le_refl _
    simp only []
    cases resolved : v.kernel.registry.table.resolve t.owner with
    | none => exact ⟨runs, finish _ same fun _ j own => absurd own (by simp [resolved]), h.woken⟩
    | some i =>
      simp only []
      cases waits : v.kernel.registry.waitsAt i with
      | false =>
        refine ⟨runs, finish _ same fun _ j own waited => ?_, h.woken⟩
        rw [resolved] at own
        rw [← Option.some.inj own, waits] at waited
        cases waited
      | true =>
        rw [if_pos rfl]
        have more : ∀ j, v.lapses j ≤ (if v.stray then lapse v.lapses i else v.lapses) j := by
          intro j
          split
          · exact le_lapse v.lapses i j
          · exact Nat.le_refl _
        have excused := finish _ more fun stray j own _ => by
          rw [resolved] at own
          rw [if_pos stray, ← Option.some.inj own, lapse_self]
        refine ⟨runs, excused, fun w member => ?_⟩
        rcases List.mem_append.mp member with old | new
        · exact h.woken w old
        · have bound := excused.bound i
          rw [f.waits i, if_pos resolved, Bool.toNat_false, Nat.zero_add] at bound
          rw [List.mem_singleton.mp new]
          exact bound

/-! ### Traps -/

theorem enter (h : v.Minded v.kernel.running.toList) (saved : Context) :
    ∃ result k, v.kernel.enter saved = (result, k) ∧ k.running = none ∧
      match result with
      | .error fatal =>
        k.halted = some fatal ∧ ∃ who, who.length ≤ 1 ∧ Minded { v with kernel := k } who
      | .ok kept => Minded { v with kernel := k } kept.toList := by
  have inside : Minded { v with kernel := v.kernel.inside } v.kernel.ask.process.toList := by
    rw [ask_process]
    exact ⟨h.runs, h.excused, h.woken⟩
  rw [enter_eq]
  cases asked : v.kernel.ask with
  | nothing =>
    rw [asked] at inside
    exact ⟨_, _, rfl, rfl, inside.runs, inside.excused, inside.woken⟩
  | invalid id fatal =>
    rw [asked] at inside
    exact ⟨_, _, rfl, rfl, rfl, [id], Nat.le_refl 1, inside.runs, inside.excused, inside.woken⟩
  | yields id =>
    rw [asked] at inside
    exact ⟨_, _, rfl, (notes_save v.kernel.inside id saved).running, inside.save id saved⟩
  | exits id =>
    rw [asked] at inside
    have after := inside.exit List.mem_cons_self
    rw [Ask.process, Option.toList_some, List.erase_cons_head] at after
    exact ⟨_, _, rfl, (notes_exit v.kernel.inside id).running, after⟩
  | transfers t =>
    rw [asked] at inside
    have notes := notes_startTransfer v.kernel.inside t.owner t.direction t.device t.buffer saved
    obtain ⟨kept, k, started, outcome⟩ := inside.startTransfer List.mem_cons_self saved
    rw [started] at notes
    simp only [started]
    refine ⟨_, _, rfl, notes.running, ?_⟩
    rcases outcome with ⟨rfl, after⟩ | ⟨rfl, after⟩
    · exact after
    · rw [Ask.process, Option.toList_some, List.erase_cons_head] at after
      exact after

end Minded

/-- Between two traps everybody is minded. -/
abbrev Between (v : Vigil) : Prop :=
  BetweenTraps (fun k who => Minded { v with kernel := k } who) v.kernel

/-- Between two events everything that is pending has an owner, too. -/
structure Rests (v : Vigil) : Prop where
  between : v.Between
  owned : ∀ t ∈ v.kernel.device.pending v.stray, ∃ i,
    v.kernel.registry.table.resolve t.owner = some i

/-- The processes go one after the other, each together with its transfers that wait. -/
theorem excused_destroyAll {result : Except RegistryError Unit} {stray : Bool} {lapses : Nat → Nat}
    {ids : List ProcessId} (h : Excused k.registry k.device stray lapses)
    (done : k.destroyAll ids = (result, k')) :
    Excused k'.registry k'.device stray lapses := by
  induction ids generalizing k with
  | nil =>
    cases done
    exact h
  | cons id ids ih =>
    rw [Kernel.destroyAll] at done
    split at done
    · cases done
      exact h.cancel k.memory id
    · rename_i r m destroyed
      obtain ⟨leaves, waits⟩ := destroy_leaves destroyed
      exact ih (h.leave leaves waits k.memory) done

namespace Between

theorem trap (h : v.Between) (saved : Context) : (v.trap saved).Between := by
  unfold Vigil.trap
  cases on : v.kernel.halted with
  | some fatal =>
    have dispatched : (v.kernel.dispatch saved).2 = v.kernel := by rw [Kernel.dispatch, on]
    simp only [dispatched]
    exact h
  | none =>
    obtain ⟨who, -, running, h⟩ := h
    rw [running on] at h
    obtain ⟨result, k, entered, off, after⟩ := h.enter saved
    cases result with
    | error fatal =>
      have dispatched : (v.kernel.dispatch saved).2 = k := by
        simp only [Kernel.dispatch, on, entered]
      obtain ⟨halted, who, one, after⟩ := after
      simp only [entered, dispatched]
      refine BetweenTraps.halted ?_ one after
      rw [show k.halted = some fatal from halted]
      exact Option.some_ne_none fatal
    | ok kept =>
      have dispatched : (v.kernel.dispatch saved).2 = (k.poll.leave kept saved).2 := by
        simp only [Kernel.dispatch, on, entered]
      have off : k.poll.running = none := (notes_poll k).running.trans off
      have polled : k.poll = (Vigil.poll { v with kernel := k }).kernel :=
        (kernel_poll { v with kernel := k }).symm
      simp only [entered, dispatched]
      rw [polled] at off ⊢
      exact (Minded.waits _).switch.leave after.poll off saved

/-! ### Calls -/

/-- Requests, the port and the buffers do not matter. -/
theorem frame (h : v.Between) (slot : RequestSlot) (port : SerialPort) (shared : Shared)
    (shutdown : Bool) :
    Between { v with kernel := { v.kernel with
      slot, shared, shutdownRequested := shutdown, device.port := port } } := by
  obtain ⟨who, one, running, h⟩ := h
  exact ⟨who, one, running, h.runs, h.excused.device rfl rfl, h.woken⟩

/-- An operation on processes, after which nobody has more unfinished transfers than he may have. -/
theorem registry {r : Registry} {lapses : Nat → Nat} (h : v.Between)
    (keeps : ∀ order, v.kernel.registry.Sound order →
      (∃ order', r.Sound order' ∧ v.kernel.registry.Steady r) ∧
        (Excused v.kernel.registry v.kernel.device v.stray v.lapses →
          Excused r v.kernel.device v.stray lapses)) :
    Between { v with kernel := { v.kernel with registry := r }, lapses } := by
  obtain ⟨who, one, running, h⟩ := h
  obtain ⟨order, hs⟩ := h.runs.sound
  obtain ⟨⟨order', sound, steady⟩, excused⟩ := keeps order hs
  exact ⟨who, one, running, h.runs.steady ⟨order', sound⟩ steady, excused h.excused, h.woken⟩

theorem update {ε α : Type} {result : Except ε α} {part : α → Kernel} (h : v.Between)
    (keeps : ∀ a, result = .ok a → Between { v with kernel := part a }) :
    Between { v with kernel := v.kernel.update result part } := by
  cases result with
  | error e => exact h
  | ok a => exact keeps a rfl

theorem block (h : v.Between) (name : String) :
    Between { v with kernel := v.kernel.call (.block name) } := by
  refine h.update fun changed done => ?_
  obtain ⟨b, r, blocked, rfl⟩ := Kernel.block_ok done
  refine h.registry fun order hs => ⟨hs.block blocked, fun excused => ?_⟩
  obtain ⟨i, -, shifted⟩ := Registry.block_ok blocked
  obtain rfl := congrArg Prod.snd shifted
  exact excused.registry (v.kernel.registry.sameSlots_shift i _) fun j waits =>
    waitsAt_block i waits

/-- Whoever waits when he is unblocked has one more lapse. -/
theorem unblock (h : v.Between) (name : String) :
    Between { v with kernel := v.kernel.call (.unblock name), lapses := v.unblocking name } := by
  have lapsed : ∀ {r : Registry}, v.kernel.registry.table.SameSlots r.table →
      (∀ j, v.kernel.registry.table.position name ≠ some j →
        r.waitsAt j = v.kernel.registry.waitsAt j) →
      Excused v.kernel.registry v.kernel.device v.stray v.lapses →
        Excused r v.kernel.device v.stray (v.unblocking name) := by
    intro r slots others excused
    cases found : v.kernel.registry.table.position name with
    | none =>
      have same : v.unblocking name = v.lapses := by rw [unblocking, found]
      rw [same]
      exact excused.same ⟨slots, fun j => others j (by simp [found])⟩
    | some i =>
      have counted : v.unblocking name =
          if v.kernel.registry.waitsAt i then lapse v.lapses i else v.lapses := by
        rw [unblocking, found]
      have others : ∀ j, i ≠ j → r.waitsAt j = v.kernel.registry.waitsAt j := fun j ne =>
        others j (by simpa [found] using ne)
      rw [counted]
      split
      · exact excused.letGo slots others
      · rename_i free
        refine excused.registry slots fun j waits => ?_
        rw [others j fun same => free (same ▸ waits)]
        exact waits
  cases done : v.kernel.unblock name with
  | error e =>
    have refused : v.kernel.call (.unblock name) = v.kernel := by
      simp only [Kernel.call, Kernel.update, done]
    rw [refused]
    exact h.registry fun order hs =>
      ⟨⟨order, hs, .refl _⟩, lapsed (Rewired.refl _).toSameSlots fun _ _ => rfl⟩
  | ok changed =>
    obtain ⟨b, r, unblocked, rfl⟩ := Kernel.unblock_ok done
    have after : v.kernel.call (.unblock name) = { v.kernel with registry := r } := by
      simp only [Kernel.call, Kernel.update, done]
    rw [after]
    refine h.registry fun order hs => ⟨hs.unblock unblocked, ?_⟩
    obtain ⟨i, found, shifted⟩ := Registry.unblock_ok unblocked
    obtain rfl := congrArg Prod.snd shifted
    refine lapsed (v.kernel.registry.sameSlots_shift i _) fun j other => ?_
    rw [waitsAt_unblock, if_neg]
    rintro rfl
    exact other (position_found found)

/-- A process comes. What is pending belongs to others. -/
theorem join {r : Registry} {m : Memory} (h : v.Rests) (admits : v.kernel.registry.Admits r id) :
    Between { v with kernel := { v.kernel with registry := r, memory := m } } := by
  obtain ⟨⟨who, one, running, h⟩, owned⟩ := h
  obtain ⟨runs, joins, waits⟩ := admits who h.runs
  exact ⟨who, one, running, runs, h.excused.join joins waits owned, h.woken⟩

theorem create {name : String} {owner : ProcessClass} {priority : Nat}
    {result : ProcessId × Kernel} (h : v.Rests)
    (done : v.kernel.create name owner priority = .ok result) :
    Between { v with kernel := result.2 } := by
  obtain ⟨id, r, m, created, rfl⟩ := Kernel.create_ok done
  exact join h (create_admits created)

theorem load {name : String} {owner : ProcessClass} {priority : Nat} {entry : UInt32}
    {result : ProcessId × Kernel} (h : v.Rests)
    (done : v.kernel.load name owner priority entry = .ok result) :
    Between { v with kernel := result.2 } := by
  obtain ⟨id, r, m, loaded, rfl⟩ := Kernel.load_ok done
  exact join h (load_admits loaded)

theorem delete {name : String} {result : ProcessId × Kernel} (h : v.Between)
    (done : v.kernel.delete name = .ok result) : Between { v with kernel := result.2 } := by
  obtain ⟨id, r, m, deleted, rfl⟩ := Kernel.delete_ok done
  obtain ⟨who, one, running, h⟩ := h
  obtain ⟨i, p, -, -, -, runs, -⟩ := h.runs.delete deleted
  obtain ⟨leaves, waits⟩ := delete_leaves deleted
  exact ⟨who, one, running, runs, h.excused.leave leaves waits m, h.woken⟩

theorem shutdown (h : v.Between) : Between { v with kernel := v.kernel.shutdown.2 } := by
  obtain ⟨who, one, running, h⟩ := h
  obtain ⟨runs, -, off, -⟩ := shutdown_vacant h.runs
  refine ⟨[], Nat.zero_le 1, fun _ => ?_, runs, ?_, h.woken⟩
  · rw [off]
    rfl
  obtain ⟨port, closed⟩ := v.kernel.closePort_eq
  unfold Kernel.shutdown
  rw [closed]
  simp only []
  have excused : Excused v.kernel.registry { v.kernel.device with port } v.stray v.lapses :=
    h.excused.device rfl rfl
  split
  · rename_i destroyed
    exact excused_destroyAll (k := { v.kernel with device.port := port }) excused destroyed
  · rename_i u k' destroyed
    obtain ⟨m, record, released⟩ := releaseDeviceRecord_eq { k' with running := none }
    rw [released]
    have after := excused_destroyAll (k := { v.kernel with device.port := port }) excused destroyed
    split <;> exact after

theorem call (h : v.Rests) (c : KernelCall) : (v.call c).Between := by
  have between := h.between
  have requested : ∀ {r : Request} {k}, v.kernel.request r = .ok k →
      Between { v with kernel := k } := by
    intro r k done
    rw [request_ok done]
    exact between.frame (v.kernel.slot.post r) v.kernel.device.port v.kernel.shared
      v.kernel.shutdownRequested
  cases c with
  | dispatch saved => exact between.trap saved
  | syscall r saved =>
    simp only [Vigil.call]
    cases left : v.kernel.request r with
    | error e => exact between
    | ok k => exact (requested left).trap saved
  | request r => exact between.update fun k done => requested done
  | post r => exact between.frame _ _ _ _
  | serviceInterrupts => exact between.frame _ _ _ _
  | create name owner priority => exact between.update fun result done => create h done
  | load name owner priority entry => exact between.update fun result done => load h done
  | delete name => exact between.update fun result done => between.delete done
  | block name => exact between.block name
  | unblock name => exact between.unblock name
  | suspend name =>
    exact between.registry fun order hs => ⟨hs.suspend name, (·.same (.suspend _ name))⟩
  | resume name =>
    exact between.registry fun order hs => ⟨hs.resume name, (·.same (.resume _ name))⟩
  | resumeAll =>
    exact between.registry fun order hs => ⟨hs.resumeAll, (·.same hs.sameWaits_resumeAll)⟩
  | setPriority name priority =>
    refine between.update fun result done => ?_
    obtain ⟨r, changed, rfl⟩ := Kernel.setPriority_ok done
    exact between.registry fun order hs => ⟨hs.setPriority changed, (·.same (.setPriority changed))⟩
  | requestShutdown => exact between.frame _ _ _ _
  | shutdown => exact between.shutdown
  | outside shared uart => exact between.frame _ _ _ _

/-- A command is refused, or does what the call of the same name does. -/
theorem shell (h : v.Rests) (c : ShellCommand) : (v.shell c).Between := by
  have other : ∀ c, Between { v with kernel := v.kernel.call (ShellCommand.call c) } →
      Between { v with kernel := v.kernel.shell c } := by
    intro c after
    rcases v.kernel.shell_cases c with ⟨-, same⟩ | same
    · rw [same]
      exact h.between
    · rw [same]
      exact after
  have called := call h c.call
  cases c with
  | unblock name =>
    have same : v.kernel.shell (.unblock name) = v.kernel.call (.unblock name) :=
      update_mapError ..
    simp only [Vigil.shell, same]
    exact called
  | _ => exact other _ called

/-- Between two events whoever has no unfinished transfer begins anew, and the transfer in flight is
marked if its owner is gone. -/
theorem rests (h : v.Between) : v.mark.forgive.Rests := by
  obtain ⟨who, one, running, h⟩ := h
  have excused : Excused v.kernel.registry v.kernel.device v.mark.stray v.lapses := by
    unfold mark
    cases gone : v.kernel.device.active.any fun t =>
        (v.kernel.registry.table.resolve t.owner).isNone with
    | false =>
      rw [Bool.or_false]
      exact h.excused
    | true =>
      rw [Bool.or_true]
      refine h.excused.mark fun idle => ?_
      rw [show v.kernel.device.active = none from idle] at gone
      cases gone
  refine ⟨⟨who, one, running, h.runs, excused.forgive, h.woken⟩, fun t pending => ?_⟩
  have waits : t ∈ v.kernel.device.waiting.map (·.transfer) →
      ∃ i, v.kernel.registry.table.resolve t.owner = some i := by
    intro member
    obtain ⟨w, there, rfl⟩ := List.mem_map.mp member
    exact excused.owners w there
  have pending : t ∈ v.kernel.device.pending v.mark.stray := pending
  cases marked : v.mark.stray with
  | true =>
    rw [marked] at pending
    exact waits pending
  | false =>
    rw [marked] at pending
    rcases List.mem_append.mp pending with active | waiting
    · have there := (Bool.or_eq_false_iff.mp marked).2
      rw [Option.mem_toList.mp active, Option.any_some, Option.isNone_eq_false_iff] at there
      exact Option.isSome_iff_exists.mp there
    · exact waits waiting

end Between

namespace Rests

theorem step (h : v.Rests) (e : KernelEvent) : (v.step e).Rests := by
  cases e with
  | call c => exact (Between.call h c).rests
  | shell c => exact (Between.shell h c).rests
  | driver port shared =>
    exact (h.between.frame v.kernel.slot port shared v.kernel.shutdownRequested).rests

theorem steps (h : v.Rests) (events : List KernelEvent) : (events.foldl Vigil.step v).Rests := by
  induction events generalizing v with
  | nil => exact h
  | cons e events ih => exact ih (h.step e)

/-- A kernel that has come up has no transfers. -/
theorem boot (booted : Kernel.boot c uart = .ok k) : (initial k).Rests := by
  obtain ⟨m, port, record, m₁, r, m₂, -, -, -, loaded, rfl⟩ := boot_eq booted
  have runs : r.Runs [] := by
    refine loadAll_keeps (P := fun r _ => r.Runs []) ?_ runs_empty loaded
    rintro r r' m m' id name owner priority entry runs loaded
    exact (load_admits loaded [] runs).1
  obtain ⟨order, hs⟩ := runs.sound
  obtain ⟨order', sound, steady⟩ := hs.resumeAll
  refine ⟨⟨[], Nat.zero_le 1, fun _ => rfl, runs.steady ⟨order', sound⟩ steady, ?_, nofun⟩, nofun⟩
  exact ⟨fun _ => rfl, nofun, nofun, fun _ => Nat.zero_le _⟩

end Rests

/-- The kernel of a vigil goes its way, and nobody is woken with more unfinished transfers than
lapses. So whoever was not let go before is woken when all of his have finished. Nobody is overlooked:
whoever a trap lets go when it polls the device is written down. -/
theorem wakes_steps (booted : Kernel.boot c uart = .ok k) (events : List KernelEvent) :
    (events.foldl step (initial k)).kernel = events.foldl Kernel.step k ∧
      (∀ w ∈ (events.foldl step (initial k)).wakes, w.others.length ≤ w.lapses) ∧
      ∀ saved kept k' i, (events.foldl Kernel.step k).halted = none →
        (events.foldl Kernel.step k).enter saved = (.ok kept, k') →
        k'.registry.waitsAt i = true → k'.poll.registry.waitsAt i = false →
        ∃ w ∈ ((events ++ [KernelEvent.call (.dispatch saved)]).foldl step (initial k)).wakes,
          k'.registry.table.resolve w.owner = some i ∧
          w.others = k'.poll.registry.unfinished k'.poll.device false i := by
  obtain ⟨who, -, -, h⟩ := ((Rests.boot booted).steps events).between
  have same := kernel_steps (initial k) events
  refine ⟨same, h.woken, fun saved kept k' i on entered waited free => ?_⟩
  rw [show k = (initial k).kernel from rfl, ← same] at on entered
  rw [List.foldl_append]
  exact wakes_trap on entered waited free

/-- The worker is unblocked while it waits for a transfer, and asks for another one, which is
queued. The first one finishes before the next trap. -/
def rushed (k : Kernel) : List KernelEvent :=
  [.call (.create "worker" .user 3), .call (.create "spare" .user 3),
    .call (.outside ((k.shared.addBuffer (.forWrite [0x61])).2.addBuffer (.forWrite [0x62])).2
      k.device.port.uart),
    .call (.dispatch .zero),
    .call (.syscall ⟨Operation.write.code, .serial, some ⟨0⟩⟩ .zero),
    .shell (.unblock "worker"),
    .call (.syscall ⟨Operation.idle.code, .serial, none⟩ .zero),
    .call (.syscall ⟨Operation.write.code, .serial, some ⟨1⟩⟩ .zero),
    .call .serviceInterrupts,
    .call (.request ⟨Operation.idle.code, .serial, none⟩)]

theorem wakes_steps_rushed :
    ∃ k kept k',
      Kernel.boot { processes := [], shutdownOnEmpty := true } (Uart.create com1 true) = .ok k ∧
      ((rushed k).foldl Kernel.step k).halted = none ∧
      ((rushed k).foldl Kernel.step k).enter .zero = (.ok kept, k') ∧
      k'.registry.waitsAt 0 = true ∧ k'.poll.registry.waitsAt 0 = false ∧
      (∃ w ∈ ((rushed k ++ [KernelEvent.call (.dispatch .zero)]).foldl step (initial k)).wakes,
        k'.registry.table.resolve w.owner = some 0 ∧
        w.others = k'.poll.registry.unfinished k'.poll.device false 0) ∧
      ∀ w ∈ ((rushed k ++ [KernelEvent.call (.dispatch .zero)]).foldl step (initial k)).wakes,
        w.others.length ≤ w.lapses := by
  obtain ⟨k, booted⟩ : ∃ k,
      Kernel.boot { processes := [], shutdownOnEmpty := true } (Uart.create com1 true) = .ok k :=
    boot_ok rfl rfl (by decide) (by decide) (by decide)
  have trapped : ((Kernel.boot { processes := [], shutdownOnEmpty := true }
      (Uart.create com1 true)).toOption.map fun k =>
        (((rushed k).foldl Kernel.step k).halted,
          (((rushed k).foldl Kernel.step k).enter .zero).1,
          (((rushed k).foldl Kernel.step k).enter .zero).2.registry.waitsAt 0,
          (((rushed k).foldl Kernel.step k).enter .zero).2.poll.registry.waitsAt 0)) =
      some (none, .ok (some ⟨1, 0⟩), true, false) := by decide +kernel
  rw [booted] at trapped
  obtain ⟨on, rest⟩ := Prod.mk.inj (Option.some.inj trapped)
  generalize entered : ((rushed k).foldl Kernel.step k).enter .zero = result at rest
  obtain ⟨answer, k'⟩ := result
  obtain ⟨rfl, rest⟩ := Prod.mk.inj rest
  obtain ⟨waited, free⟩ := Prod.mk.inj rest
  obtain ⟨-, -, woken⟩ := wakes_steps booted (rushed k)
  obtain ⟨-, bounded, -⟩ := wakes_steps booted (rushed k ++ [KernelEvent.call (.dispatch .zero)])
  exact ⟨k, _, k', booted, on, entered, waited, free,
    woken .zero _ k' 0 on entered waited free, bounded⟩

/-- The worker runs again while its second transfer is in flight. -/
theorem woken_early :
    ∃ k, Kernel.boot { processes := [], shutdownOnEmpty := true } (Uart.create com1 true) = .ok k ∧
      ∃ w ∈ ((rushed k ++ [KernelEvent.call (.dispatch .zero)]).foldl step (initial k)).wakes,
        w.others = [⟨.write, .serial, ⟨1⟩, w.owner⟩] ∧
        ((rushed k ++ [KernelEvent.call (.dispatch .zero)]).foldl Kernel.step k).running = some w.owner := by
  obtain ⟨k, booted⟩ : ∃ k,
      Kernel.boot { processes := [], shutdownOnEmpty := true } (Uart.create com1 true) = .ok k :=
    boot_ok rfl rfl (by decide) (by decide) (by decide)
  have woken : ((Kernel.boot { processes := [], shutdownOnEmpty := true }
      (Uart.create com1 true)).toOption.map fun k =>
        let events := rushed k ++ [KernelEvent.call (.dispatch .zero)]
        ((events.foldl step (initial k)).wakes.map fun w => (w.owner, w.others),
          (events.foldl Kernel.step k).running)) =
      some ([(⟨0, 0⟩, [⟨.write, .serial, ⟨1⟩, ⟨0, 0⟩⟩])], some ⟨0, 0⟩) := by decide +kernel
  rw [booted] at woken
  obtain ⟨wakes, running⟩ := Prod.mk.inj (Option.some.inj woken)
  obtain ⟨w, only, eq⟩ := List.map_eq_singleton_iff.mp wakes
  obtain ⟨owner, others⟩ := Prod.mk.inj eq
  refine ⟨k, booted, w, ?_, ?_, ?_⟩
  · rw [only]
    exact List.mem_cons_self
  · rw [owner]
    exact others
  · rw [owner]
    exact running

end Vigil

end TrapKernel
