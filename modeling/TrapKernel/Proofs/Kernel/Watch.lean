import TrapKernel.Proofs.Kernel.Asking
import TrapKernel.Proofs.Kernel.Attended
import TrapKernel.Proofs.Kernel.Lifetime

/-!
# A process waits for its transfer

A `Watch` goes along with a kernel and writes down which transfers were accepted, what became of
those that have finished, and how many processes were removed. Whatever the kernel is called for, a
process that is blocked has one outstanding transfer and all others have none. So a process that is
resumed after a transfer of it was accepted finds that transfer finished.

Blocking and unblocking processes by hand is left out, and so is shutting down: they let a process
run whose transfer is outstanding, or wait without one.
-/

namespace TrapKernel

/-- A kernel, and what has happened to it. -/
structure Watch where
  kernel : Kernel
  /-- The transfers that the device accepted, in this order. -/
  accepted : List Transfer
  /-- What became of those that have finished, in this order. -/
  finished : List Ending
  /-- How many processes were deleted or ended. -/
  removed : Nat

namespace Watch

open Registry ProcessTable Kernel

variable {w : Watch} {k : Kernel} {who who' : List ProcessId} {id : ProcessId} {t : Transfer}

/-- The watch begins. -/
def initial (k : Kernel) : Watch := ⟨k, [], [], 0⟩

/-- The watch once a trap has acted on what it asks for. -/
def entering (w : Watch) (k : Kernel) : Watch :=
  ⟨k, w.accepted ++ w.kernel.accepting.toList, w.finished,
    w.removed + w.kernel.exiting.toNat⟩

theorem entering_eq (w : Watch) (accepting : w.kernel.accepting = none)
    (exiting : w.kernel.exiting = false) (k : Kernel) : w.entering k = { w with kernel := k } := by
  rw [entering, accepting, exiting, Option.toList_none, List.append_nil]
  rfl

/-- The watch after a trap. -/
def trap (w : Watch) (saved : Context) : Watch where
  kernel := (w.kernel.dispatch saved).2
  accepted := w.accepted ++ w.kernel.accepting.toList
  finished := w.finished ++ (w.kernel.finishing saved).toList
  removed := w.removed + w.kernel.exiting.toNat

/-- The watch after a call. -/
def call (w : Watch) : KernelCall → Watch
  | .dispatch saved => w.trap saved
  | .syscall r saved =>
    match w.kernel.request r with
    | .error _ => w
    | .ok kernel => { w with kernel }.trap saved
  | .delete name => { w with
      kernel := w.kernel.call (.delete name)
      removed := w.removed + (w.kernel.delete name).isOk.toNat }
  | c => { w with kernel := w.kernel.call c }

/-- The kernel goes its way, whoever watches. -/
theorem kernel_call (w : Watch) (c : KernelCall) : (w.call c).kernel = w.kernel.call c := by
  cases c with
  | syscall r saved =>
    simp only [call, Kernel.call, Kernel.syscall]
    cases w.kernel.request r <;> rfl
  | _ => rfl

/-- The processes of `who` run, and everybody waits for what it should. -/
structure Tended (w : Watch) (who : List ProcessId) : Prop where
  runs : w.kernel.registry.Runs who
  dated : w.kernel.registry.table.Dated w.removed
  attends : Attends w.kernel.registry w.kernel.device w.accepted (w.finished.map (·.transfer))
  reliable : w.kernel.device.Reliable w.kernel.shared
  final : ∀ e ∈ w.finished, e.Final

namespace Tended

/-! ### The steps of a trap -/

/-- A process that runs does not wait. -/
theorem not_waits (ht : w.Tended who) (member : id ∈ who) {i : Nat}
    (resolved : w.kernel.registry.table.resolve id = some i) :
    w.kernel.registry.waitsAt i = false :=
  waitsAt_eq (ht.runs.stateAt member resolved)

/-- What the dispatcher notes, and what processes leave in the request slot, does not matter. -/
theorem notes (ht : w.Tended who) (slot : RequestSlot) (running : Option ProcessId)
    (boot : Option Context) (halted : Option Fatal) (switches : Nat) (shutdown : Bool) :
    Tended { w with kernel := { w.kernel with
      slot, running, bootContext := boot, halted, switches, shutdownRequested := shutdown } } who :=
  ⟨ht.runs, ht.dated, ht.attends, ht.reliable, ht.final⟩

/-- Processes may change in what is not about waiting. -/
theorem registry {r : Registry} (ht : w.Tended who) (runs : r.Runs who')
    (same : w.kernel.registry.SameWaits r) :
    Tended { w with kernel := { w.kernel with registry := r } } who' :=
  ⟨runs, same.slots.dated ht.dated, ht.attends.registry same, ht.reliable, ht.final⟩

/-- The port may go on, and buffers may change, as long as the device remains reliable. -/
theorem device {d : Device} {shared : Shared} (ht : w.Tended who)
    (active : d.active = w.kernel.device.active) (waiting : d.waiting = w.kernel.device.waiting)
    (reliable : d.Reliable shared) :
    Tended { w with kernel := { w.kernel with device := d, shared } } who :=
  ⟨ht.runs, ht.dated, ht.attends.device active waiting, reliable, ht.final⟩

theorem waits (w : Watch) : WaitsInvariant fun k who => Tended { w with kernel := k } who where
  runs := runs
  notes := fun {k _} running boot halted switches ht =>
    ht.notes k.slot running boot halted switches k.shutdownRequested
  registry := registry

theorem save (ht : w.Tended who) (id : ProcessId) (c : Context) :
    Tended { w with kernel := w.kernel.save id c } who := (waits w).save ht id c

/-- A process goes, and so do those of its transfers that wait. -/
theorem leave {r : Registry} {m m' : Memory} (ht : w.Tended who) (runs : r.Runs who')
    (leaves : w.kernel.registry.table.Leaves r.table id)
    (waits : ∀ j, id.index ≠ j → r.waitsAt j = w.kernel.registry.waitsAt j)
    (room : w.removed + 1 < 2 ^ 32) :
    Tended { w with
      kernel := { w.kernel with
        registry := r, device := (w.kernel.device.cancel m id).2.1, memory := m' }
      removed := w.removed + 1 } who' := by
  refine ⟨runs, leaves.dated ht.dated room, ht.attends.leave leaves waits ht.dated room m, ?_,
    ht.final⟩
  rw [Device.cancel_eq]
  exact ht.reliable.waiting _

theorem exit (ht : w.Tended who) (member : id ∈ who) (room : w.removed + 1 < 2 ^ 32) :
    Tended { w with kernel := w.kernel.exit id, removed := w.removed + 1 } (who.erase id) := by
  obtain ⟨order, hs⟩ := ht.runs.sound
  obtain ⟨i, resolved⟩ := ht.runs.resolves id member
  obtain ⟨p, found⟩ := live_iff.mp (resolve_eq_some.mp resolved).2.2
  obtain ⟨r, destroyed, sound, gone⟩ :=
    hs.destroy resolved found (w.kernel.cancelTransfers id).memory
  obtain ⟨leaves, waits⟩ := destroy_leaves destroyed
  unfold Kernel.exit
  simp only []
  rw [show (w.kernel.cancelTransfers id).registry.destroy (w.kernel.cancelTransfers id).memory id
    = _ from destroyed]
  exact ht.leave (m := w.kernel.memory) (ht.runs.gone sound resolved gone) leaves waits room

/-- A transfer that is accepted makes its owner wait. One that is not leaves the code of the error
in its buffer, and its owner keeps the processor. -/
theorem startTransfer (ht : w.Tended who) (member : t.owner ∈ who) (saved : Context) :
    ∃ kept k, w.kernel.startTransfer t.owner t.direction t.device t.buffer saved = (kept, k) ∧
      ((∃ e, w.kernel.device.submit w.kernel.shared w.kernel.memory t = .error e) ∧
          kept = some t.owner ∧ Tended { w with kernel := k } who ∨
        (∃ result, w.kernel.device.submit w.kernel.shared w.kernel.memory t = .ok result) ∧
          kept = none ∧
          Tended { w with kernel := k, accepted := w.accepted ++ [t] } (who.erase t.owner)) := by
  obtain ⟨r₀, eq, -⟩ := save_spec ht.runs t.owner saved
  have ht := ht.save t.owner saved
  rw [eq] at ht
  unfold Kernel.startTransfer
  simp only [eq]
  cases submitted : w.kernel.device.submit w.kernel.shared w.kernel.memory t with
  | error e =>
    refine ⟨_, _, rfl, Or.inl ⟨⟨e, rfl⟩, rfl, ?_⟩⟩
    exact ⟨ht.runs, ht.dated, ht.attends, ht.reliable.fail t.buffer e.code, ht.final⟩
  | ok result =>
    obtain ⟨how, d, s, m⟩ := result
    obtain ⟨i, resolved⟩ := ht.runs.resolves t.owner member
    obtain ⟨r, parked, runs, -⟩ := ht.runs.parkBlocked member
    obtain ⟨slots, waits⟩ := waitsAt_parkBlocked parked
    refine ⟨none, { w.kernel with registry := r, device := d, shared := s, memory := m }, ?_,
      Or.inr ⟨⟨_, rfl⟩, rfl, ?_⟩⟩
    · simp only [Kernel.park]
      rw [show r₀.parkBlocked t.owner = .ok r from parked]
    · refine ⟨runs, slots.dated ht.dated, ?_, ht.reliable.submit submitted, ht.final⟩
      exact ht.attends.park resolved (ht.not_waits member resolved) submitted slots waits

/-- What becomes of the transfer in flight is written down, and its owner does not wait any more. -/
theorem poll (ht : w.Tended who) : Tended { w with
    kernel := w.kernel.poll
    finished := w.finished ++ (w.kernel.device.ended w.kernel.shared).toList } who := by
  have runs : w.kernel.poll.registry.Runs who := trapInvariant_runs.poll ht.runs
  rcases w.kernel.poll_cases with ⟨ended, eq⟩ | ⟨t, r, active, ended, answer, eq, -⟩
  · rw [ended, eq, Option.toList_none, List.append_nil]
    exact ht
  obtain ⟨t', -, finishes⟩ := poll_finishes answer
  obtain rfl := Option.some.inj (active.symm.trans finishes.active)
  have reliable : w.kernel.poll.device.Reliable w.kernel.poll.shared := by
    rw [eq]
    exact ht.reliable.checkCompletion w.kernel.memory
  rw [ended, Option.toList_some]
  refine ⟨runs, finishes.slots.dated ht.dated, ?_, reliable, ?_⟩
  · rw [List.map_append]
    exact ht.attends.release finishes.prompt finishes.left finishes.rest finishes.slots
      finishes.waits
  · intro e member
    rcases List.mem_append.mp member with old | new
    · exact ht.final e old
    · rw [List.mem_singleton.mp new]
      exact ht.reliable.ended_final ended

/-! ### Traps -/

theorem enter (ht : w.Tended w.kernel.running.toList) (on : w.kernel.halted = none)
    (room : w.removed + w.kernel.exiting.toNat < 2 ^ 32) (saved : Context) :
    ∃ result k, w.kernel.enter saved = (result, k) ∧ k.running = none ∧
      match result with
      | .error fatal => k.halted = some fatal ∧ ∃ who, who.length ≤ 1 ∧ (w.entering k).Tended who
      | .ok kept => k.halted = none ∧ (w.entering k).Tended kept.toList := by
  have inside : Tended { w with kernel := w.kernel.inside } w.kernel.ask.process.toList := by
    rw [ask_process]
    exact ht.notes .empty none w.kernel.bootContext w.kernel.halted w.kernel.switches
      w.kernel.shutdownRequested
  rw [enter_eq]
  cases asked : w.kernel.ask with
  | nothing =>
    rw [asked] at inside
    have entering := w.entering_eq (by rw [accepting, on, asked]) (by rw [exiting, on, asked])
    refine ⟨_, _, rfl, rfl, on, ?_⟩
    rw [entering]
    exact inside.notes _ _ (some saved) _ _ _
  | invalid id fatal =>
    rw [asked] at inside
    have entering := w.entering_eq (by rw [accepting, on, asked]) (by rw [exiting, on, asked])
    refine ⟨_, _, rfl, rfl, rfl, [id], Nat.le_refl 1, ?_⟩
    rw [entering]
    exact inside.notes _ _ _ (some fatal) _ _
  | yields id =>
    rw [asked] at inside
    have entering := w.entering_eq (by rw [accepting, on, asked]) (by rw [exiting, on, asked])
    have notes := notes_save w.kernel.inside id saved
    refine ⟨_, _, rfl, notes.running, notes.halted.trans on, ?_⟩
    rw [entering]
    exact inside.save id saved
  | exits id =>
    rw [asked] at inside
    have accepting : w.kernel.accepting = none := by rw [accepting, on, asked]
    have exiting : w.kernel.exiting = true := by rw [exiting, on, asked]
    rw [exiting] at room
    have notes := notes_exit w.kernel.inside id
    have after := inside.exit List.mem_cons_self room
    rw [Ask.process, Option.toList_some, List.erase_cons_head] at after
    refine ⟨_, _, rfl, notes.running, notes.halted.trans on, ?_⟩
    rw [entering, accepting, exiting, Option.toList_none, List.append_nil]
    exact after
  | transfers t =>
    rw [asked] at inside
    have exiting : w.kernel.exiting = false := by rw [exiting, on, asked]
    have notes := notes_startTransfer w.kernel.inside t.owner t.direction t.device t.buffer saved
    obtain ⟨kept, k, started, outcome⟩ := inside.startTransfer List.mem_cons_self saved
    rw [started] at notes
    simp only [started]
    refine ⟨_, _, rfl, notes.running, notes.halted.trans on, ?_⟩
    rcases outcome with ⟨⟨e, refused⟩, rfl, after⟩ | ⟨⟨result, accepted⟩, rfl, after⟩
    · have refused : w.kernel.device.submit w.kernel.shared w.kernel.memory t = .error e := refused
      have accepting : w.kernel.accepting = none := by simp only [accepting, on, asked, refused]
      rw [w.entering_eq accepting exiting]
      exact after
    · have accepted : w.kernel.device.submit w.kernel.shared w.kernel.memory t = .ok result :=
        accepted
      have accepting : w.kernel.accepting = some t := by simp only [accepting, on, asked, accepted]
      rw [Ask.process, Option.toList_some, List.erase_cons_head] at after
      rw [entering, accepting, exiting, Option.toList_some]
      exact after

end Tended

/-- Between two traps everybody waits for what it should. -/
abbrev Rests (w : Watch) : Prop :=
  BetweenTraps (fun k who => Tended { w with kernel := k } who) w.kernel

namespace Rests

theorem trap (hr : w.Rests) (saved : Context) (room : (w.trap saved).removed < 2 ^ 32) :
    (w.trap saved).Rests := by
  unfold Watch.trap at *
  cases on : w.kernel.halted with
  | some fatal =>
    have accepting : w.kernel.accepting = none := by rw [accepting, on]
    have exiting : w.kernel.exiting = false := by rw [exiting, on]
    have finishing : w.kernel.finishing saved = none := by rw [finishing, on]
    have dispatched : (w.kernel.dispatch saved).2 = w.kernel := by rw [Kernel.dispatch, on]
    rw [accepting, exiting, finishing, dispatched]
    simp only [Option.toList_none, List.append_nil, Bool.toNat_false, Nat.add_zero]
    exact hr
  | none =>
    obtain ⟨who, -, running, ht⟩ := hr
    rw [running on] at ht
    obtain ⟨result, k, entered, off, after⟩ := Tended.enter ht on room saved
    have dispatched : (w.kernel.dispatch saved).2 = match result with
        | .error _ => k
        | .ok kept => (k.poll.leave kept saved).2 := by
      simp only [Kernel.dispatch, on, entered]
      cases result <;> rfl
    have finishing : w.kernel.finishing saved = match result with
        | .error _ => none
        | .ok _ => k.device.ended k.shared := by
      simp only [finishing, on, entered]
      cases result <;> rfl
    rw [dispatched, finishing]
    cases result with
    | error fatal =>
      obtain ⟨halted, who, one, after⟩ := after
      refine BetweenTraps.halted ?_ one ?_
      · simp only [halted]
        exact Option.some_ne_none fatal
      · simp only [Option.toList_none, List.append_nil]
        exact after
    | ok kept =>
      have notes := notes_poll k
      exact (Tended.waits _).switch.leave after.2.poll (notes.running.trans off) saved

/-! ### Calls -/

/-- Requests and the dispatcher's notes do not matter. -/
theorem frame (hr : w.Rests) (slot : RequestSlot) (shutdown : Bool) :
    Rests { w with kernel := { w.kernel with slot, shutdownRequested := shutdown } } := by
  obtain ⟨who, one, running, ht⟩ := hr
  exact ⟨who, one, running, ht.notes slot w.kernel.running w.kernel.bootContext w.kernel.halted
    w.kernel.switches shutdown⟩

/-- An operation on processes changes nothing about waiting. -/
theorem registry {r : Registry} (hr : w.Rests)
    (keeps : ∀ order, w.kernel.registry.Sound order →
      (∃ order', r.Sound order' ∧ w.kernel.registry.Steady r) ∧ w.kernel.registry.SameWaits r) :
    Rests { w with kernel := { w.kernel with registry := r } } := by
  obtain ⟨who, one, running, ht⟩ := hr
  obtain ⟨order, hs⟩ := ht.runs.sound
  obtain ⟨⟨order', sound, steady⟩, same⟩ := keeps order hs
  exact ⟨who, one, running, ht.registry (ht.runs.steady ⟨order', sound⟩ steady) same⟩

theorem update {ε α : Type} {result : Except ε α} {part : α → Kernel} (hr : w.Rests)
    (keeps : ∀ a, result = .ok a → Rests { w with kernel := part a }) :
    Rests { w with kernel := w.kernel.update result part } := by
  cases result with
  | error e => exact hr
  | ok a => exact keeps a rfl

theorem join {r : Registry} {m : Memory} (hr : w.Rests)
    (admits : w.kernel.registry.Admits r id) :
    Rests { w with kernel := { w.kernel with registry := r, memory := m } } := by
  obtain ⟨who, one, running, ht⟩ := hr
  obtain ⟨runs, joins, waits⟩ := admits who ht.runs
  exact ⟨who, one, running, runs, joins.dated ht.dated, ht.attends.join joins waits,
    ht.reliable, ht.final⟩

theorem create {name : String} {owner : ProcessClass} {priority : Nat}
    {result : ProcessId × Kernel} (hr : w.Rests)
    (done : w.kernel.create name owner priority = .ok result) :
    Rests { w with kernel := result.2 } := by
  obtain ⟨id, r, m, created, rfl⟩ := Kernel.create_ok done
  exact hr.join (create_admits created)

theorem load {name : String} {owner : ProcessClass} {priority : Nat} {entry : UInt32}
    {result : ProcessId × Kernel} (hr : w.Rests)
    (done : w.kernel.load name owner priority entry = .ok result) :
    Rests { w with kernel := result.2 } := by
  obtain ⟨id, r, m, loaded, rfl⟩ := Kernel.load_ok done
  exact hr.join (load_admits loaded)

theorem delete (hr : w.Rests) (name : String)
    (room : (w.call (.delete name)).removed < 2 ^ 32) : (w.call (.delete name)).Rests := by
  cases done : w.kernel.delete name with
  | error e =>
    have refused : w.call (.delete name) = w := by
      simp only [Watch.call, Kernel.call, Kernel.update, done]
      rfl
    rw [refused]
    exact hr
  | ok result =>
    have after : w.call (.delete name) =
        { w with kernel := result.2, removed := w.removed + 1 } := by
      simp only [Watch.call, Kernel.call, Kernel.update, done]
      rfl
    rw [after] at room ⊢
    obtain ⟨id, r, m, deleted, rfl⟩ := Kernel.delete_ok done
    obtain ⟨who, one, running, ht⟩ := hr
    obtain ⟨i, p, -, -, -, runs, -⟩ := ht.runs.delete deleted
    obtain ⟨leaves, waits⟩ := delete_leaves deleted
    exact ⟨who, one, running, ht.leave (m := m) runs leaves waits room⟩

theorem request {r : Request} (hr : w.Rests) (done : w.kernel.request r = .ok k) :
    Rests { w with kernel := k } := by
  rw [request_ok done]
  exact hr.frame (w.kernel.slot.post r) w.kernel.shutdownRequested

theorem device {d : Device} {shared : Shared} (hr : w.Rests)
    (active : d.active = w.kernel.device.active) (waiting : d.waiting = w.kernel.device.waiting)
    (reliable : w.kernel.device.Reliable w.kernel.shared → d.Reliable shared) :
    Rests { w with kernel := { w.kernel with device := d, shared } } := by
  obtain ⟨who, one, running, ht⟩ := hr
  exact ⟨who, one, running, ht.device active waiting (reliable ht.reliable)⟩

theorem serviceInterrupts (hr : w.Rests) :
    Rests { w with kernel := w.kernel.serviceInterrupts.2 } := by
  have serves : w.kernel.device.Reliable w.kernel.shared →
      SerialPort.Serves w.kernel.device.event w.kernel.device.port
        (w.kernel.device.port.serviceInterrupts w.kernel.shared).2.1 w.kernel.shared
        (w.kernel.device.port.serviceInterrupts w.kernel.shared).2.2 := fun reliable =>
    SerialPort.serviceInterrupts_serves reliable.agrees.settled reliable.agrees.flagged _
  rw [Kernel.serviceInterrupts]
  generalize w.kernel.device.port.serviceInterrupts w.kernel.shared = served at serves ⊢
  obtain ⟨count, port, shared⟩ := served
  exact hr.device rfl rfl fun reliable => reliable.serves (serves reliable)

end Rests

end Watch

/-- The call neither blocks nor unblocks a process by hand, nor shuts the kernel down, nor stands
for what happens outside of the kernel. -/
def KernelCall.isRegular : KernelCall → Bool
  | .block _ | .unblock _ | .shutdown | .outside .. => false
  | .dispatch _ | .syscall .. | .request _ | .post _ | .serviceInterrupts | .create .. | .load ..
  | .delete _ | .suspend _ | .resume _ | .resumeAll | .setPriority .. | .requestShutdown => true

/-- Something that happens to a kernel. -/
inductive WatchEvent where
  | call (c : KernelCall) (regular : c.isRegular = true)
  /-- Something happens on the line; bytes may arrive. -/
  | line (change : Uart → Uart)
  /-- A process prepares a buffer. -/
  | prepare (id : BufferId) (b : Buffer)

namespace Watch

open Registry ProcessTable Kernel

variable {w : Watch} {k : Kernel} {c : KernelConfig} {uart : Uart}

/-- The watch after an event. A process does not prepare the buffer of an outstanding transfer. -/
def step (w : Watch) : WatchEvent → Watch
  | .call c _ => w.call c
  | .line change => { w with kernel.device.port := w.kernel.device.port.onUart change }
  | .prepare id b =>
    if id ∈ w.kernel.device.outstanding.map (·.buffer) then w
    else { w with kernel.shared := w.kernel.shared.setBuffer id b }

theorem removed_call (w : Watch) (c : KernelCall) :
    w.removed ≤ (w.call c).removed ∧ (w.call c).removed ≤ w.removed + 1 := by
  have trap : ∀ (w : Watch) saved,
      w.removed ≤ (w.trap saved).removed ∧ (w.trap saved).removed ≤ w.removed + 1 := by
    intro w saved
    have most := w.kernel.exiting.toNat_le
    simp only [Watch.trap]
    omega
  cases c with
  | dispatch saved => exact trap w saved
  | syscall r saved =>
    simp only [call]
    cases w.kernel.request r with
    | error e => exact ⟨Nat.le_refl _, Nat.le_succ _⟩
    | ok kernel => exact trap { w with kernel } saved
  | delete name =>
    have most := (w.kernel.delete name).isOk.toNat_le
    simp only [call]
    omega
  | _ => exact ⟨Nat.le_refl w.removed, Nat.le_succ w.removed⟩

theorem removed_step (w : Watch) (e : WatchEvent) :
    w.removed ≤ (w.step e).removed ∧ (w.step e).removed ≤ w.removed + 1 := by
  cases e with
  | call c _ => exact w.removed_call c
  | line change => exact ⟨Nat.le_refl w.removed, Nat.le_succ w.removed⟩
  | prepare id b =>
    simp only [step]
    split <;> exact ⟨Nat.le_refl w.removed, Nat.le_succ w.removed⟩

/-- An event removes one process at most. -/
theorem removed_steps (w : Watch) (events : List WatchEvent) :
    (events.foldl step w).removed ≤ w.removed + events.length := by
  induction events generalizing w with
  | nil => exact Nat.le_refl _
  | cons e events ih =>
    have one := (w.removed_step e).2
    have rest := ih (w.step e)
    rw [List.foldl_cons, List.length_cons]
    omega

namespace Rests

theorem call (hr : w.Rests) (c : KernelCall) (regular : c.isRegular = true)
    (room : (w.call c).removed < 2 ^ 32) : (w.call c).Rests := by
  cases c with
  | dispatch saved => exact hr.trap saved room
  | syscall r saved =>
    simp only [Watch.call] at room ⊢
    cases left : w.kernel.request r with
    | error e => exact hr
    | ok k =>
      rw [left] at room
      exact (hr.request left).trap saved room
  | request r => exact hr.update fun k done => hr.request done
  | post r => exact hr.frame _ _
  | serviceInterrupts => exact hr.serviceInterrupts
  | create name owner priority => exact hr.update fun result done => hr.create done
  | load name owner priority entry => exact hr.update fun result done => hr.load done
  | delete name => exact hr.delete name room
  | suspend name => exact hr.registry fun order hs => ⟨hs.suspend name, .suspend _ name⟩
  | resume name => exact hr.registry fun order hs => ⟨hs.resume name, .resume _ name⟩
  | resumeAll => exact hr.registry fun order hs => ⟨hs.resumeAll, hs.sameWaits_resumeAll⟩
  | setPriority name priority =>
    refine hr.update fun result done => ?_
    obtain ⟨r, changed, rfl⟩ := Kernel.setPriority_ok done
    exact hr.registry fun order hs => ⟨hs.setPriority changed, .setPriority changed⟩
  | requestShutdown => exact hr.frame _ _
  | block | unblock | shutdown | outside => cases regular

theorem step (hr : w.Rests) (e : WatchEvent) (room : (w.step e).removed < 2 ^ 32) :
    (w.step e).Rests := by
  cases e with
  | call c regular => exact hr.call c regular room
  | line change =>
    exact hr.device rfl rfl fun reliable => reliable.line (change w.kernel.device.port.uart)
  | prepare id b =>
    simp only [Watch.step]
    split
    · exact hr
    · rename_i unused
      refine hr.device rfl rfl fun reliable =>
        reliable.prepare (fun t active same => unused ?_) b
      refine List.mem_map.mpr ⟨t, List.mem_append_left _ ?_, same⟩
      exact Option.mem_toList.mpr active

theorem steps (hr : w.Rests) (events : List WatchEvent)
    (room : (events.foldl Watch.step w).removed < 2 ^ 32) : (events.foldl Watch.step w).Rests := by
  induction events using List.reverseRecOn with
  | nil => exact hr
  | append_singleton events e ih =>
    rw [List.foldl_append] at room ⊢
    have before := (removed_step (events.foldl Watch.step w) e).1
    exact (ih (Nat.lt_of_le_of_lt before room)).step e room

/-- A kernel that has come up has neither transfers nor processes that wait. -/
theorem boot (booted : Kernel.boot c uart = .ok k) : (initial k).Rests := by
  obtain ⟨m, port, record, m₁, r, m₂, -, opened, -, loaded, rfl⟩ := boot_eq booted
  obtain ⟨runs, dated, nobody⟩ : r.Runs [] ∧ r.table.Dated 0 ∧ ∀ i, r.waitsAt i = false := by
    refine loadAll_keeps
      (P := fun r _ => r.Runs [] ∧ r.table.Dated 0 ∧ ∀ i, r.waitsAt i = false) ?_
      ⟨runs_empty, nofun, fun _ => rfl⟩ loaded
    rintro r r' m m' id name owner priority entry ⟨runs, dated, nobody⟩ loaded
    obtain ⟨runs', joins, waits⟩ := load_admits loaded [] runs
    exact ⟨runs', joins.dated dated, fun i => (waits i).trans (nobody i)⟩
  obtain ⟨order, hs⟩ := runs.sound
  obtain ⟨order', sound, steady⟩ := hs.resumeAll
  have same := hs.sameWaits_resumeAll
  refine ⟨[], Nat.zero_le 1, fun _ => rfl, runs.steady ⟨order', sound⟩ steady,
    same.slots.dated dated, .initial rfl rfl fun i => (same.waits i).trans (nobody i), ?_, nofun⟩
  have idle : port.Idle := (SerialPort.openWith_idle opened).2.1
  exact .idle ⟨SerialPort.openWith_flagged opened, .nothing rfl idle⟩ rfl

end Rests

/-- A process that is blocked has one outstanding transfer, and nobody else has one but for a
process that has gone. So whoever runs finds its transfers finished. -/
structure Attended (w : Watch) : Prop where
  /-- A process that is blocked, suspended or not, waits for the last transfer that was accepted. -/
  blocked : ∀ id p, w.kernel.registry.get id = some p → p.state.isBlocked = true →
    ∃ t, transfersOf id w.kernel.device.outstanding = [t] ∧
      transfersOf id w.accepted = transfersOf id (w.finished.map (·.transfer)) ++ [t]
  /-- A process that is ready, suspended or not, or that runs, waits for none. -/
  free : ∀ id p, w.kernel.registry.get id = some p → p.state.isBlocked = false →
    transfersOf id w.kernel.device.outstanding = [] ∧
      transfersOf id w.accepted = transfersOf id (w.finished.map (·.transfer))
  /-- Only the transfer in flight may be one of a process that has gone. -/
  waiting : ∀ x ∈ w.kernel.device.waiting,
    ∃ p, w.kernel.registry.get x.transfer.owner = some p
  /-- If it is, no process notices that it has finished. -/
  gone : ∀ saved kept k t, w.kernel.halted = none → w.kernel.enter saved = (.ok kept, k) →
    k.device.active = some t → k.registry.get t.owner = none → k.poll.registry = k.registry
  /-- All transfers of a process that was resumed have finished. -/
  resumed : ∀ id, w.kernel.halted = none → w.kernel.running = some id →
    transfersOf id w.accepted = transfersOf id (w.finished.map (·.transfer))
  /-- A transfer finishes when its buffer holds the final count or the code of an error. -/
  final : ∀ e ∈ w.finished, e.buffer.count = e.moved ∨
    e.buffer.count = 0 ∧ e.buffer.error.isSome = true

theorem resolve_of_get {r : Registry} {id : ProcessId} {p : Process} (got : r.get id = some p) :
    ∃ i, r.table.resolve id = some i ∧ r.stateAt i = some p.state := by
  obtain ⟨i, resolved, found⟩ := Option.bind_eq_some_iff.mp got
  exact ⟨i, resolved, stateAt_eq_some.mpr ⟨p, found, rfl⟩⟩

/-- Nobody is released for a transfer whose owner has gone. -/
theorem poll_registry {t : Transfer} (active : k.device.active = some t)
    (gone : k.registry.get t.owner = none) : k.poll.registry = k.registry := by
  have unresolved : k.registry.table.resolve t.owner = none := by
    cases resolved : k.registry.table.resolve t.owner with
    | none => rfl
    | some i =>
      obtain ⟨p, found⟩ := live_iff.mp (resolve_eq_some.mp resolved).2.2
      rw [Registry.get, resolved, Option.bind_some, found] at gone
      cases gone
  rcases k.poll_cases with ⟨-, eq⟩ | ⟨t', r, active', -, -, eq, released⟩
  · rw [eq]
  · obtain rfl := Option.some.inj (active.symm.trans active')
    rw [eq]
    rcases released with ⟨b, done⟩ | ⟨-, same⟩
    · rw [release_eq_error unresolved] at done
      cases done
    · exact same

theorem Rests.attended (hr : w.Rests) : w.Attended := by
  obtain ⟨who, -, running, ht⟩ := hr
  refine ⟨?_, ?_, ?_, ?_, ?_, ht.final⟩
  · intro id p got waits
    obtain ⟨i, resolved, state⟩ := resolve_of_get got
    exact ht.attends.of_waits resolved ((waitsAt_eq state).trans waits)
  · intro id p got free
    obtain ⟨i, resolved, state⟩ := resolve_of_get got
    exact ht.attends.of_not_waits resolved ((waitsAt_eq state).trans free)
  · intro x member
    obtain ⟨i, resolved⟩ := ht.attends.waiting x member
    obtain ⟨p, found⟩ := live_iff.mp (resolve_eq_some.mp resolved).2.2
    refine ⟨p, ?_⟩
    rw [Registry.get, resolved]
    exact found
  · intro saved kept k t _ _ active gone
    exact poll_registry active gone
  · intro id on runs
    have member : id ∈ who := by
      rw [running on, runs]
      exact List.mem_cons_self
    obtain ⟨i, resolved⟩ := ht.runs.resolves id member
    exact (ht.attends.of_not_waits resolved (ht.not_waits member resolved)).2

/-- Whatever a kernel has been through since it was booted, as long as fewer than 2 ^ 32 processes
were removed, its processes wait for their transfers. -/
theorem attended_steps (booted : Kernel.boot c uart = .ok k) (events : List WatchEvent)
    (few : (events.foldl step (initial k)).removed < 2 ^ 32) :
    (events.foldl step (initial k)).Attended :=
  ((Rests.boot booted).steps events few).attended

/-- The reader is deleted while its transfer is in flight, and that of the writer starts when the
bytes arrive that end it. -/
def orphaned : List WatchEvent :=
  [.call (.create "reader" .user 5) rfl, .call (.create "writer" .user 3) rfl,
    .call (.dispatch .zero) rfl, .prepare ⟨0⟩ (.forRead 2),
    .call (.syscall ⟨Operation.read.code, .serial, some ⟨0⟩⟩ .zero) rfl,
    .prepare ⟨1⟩ (.ofParts [0x6F, 0x6B] 2),
    .call (.syscall ⟨Operation.write.code, .serial, some ⟨1⟩⟩ .zero) rfl,
    .call (.delete "reader") rfl, .line (·.inject [0x61, 0x62]),
    .call .serviceInterrupts rfl, .call (.dispatch .zero) rfl,
    .call .serviceInterrupts rfl, .call (.dispatch .zero) rfl]

theorem attended_steps_orphaned :
    ∃ k, Kernel.boot { processes := [], shutdownOnEmpty := true } (Uart.create com1 true) = .ok k ∧
      (orphaned.foldl step (initial k)).removed < 2 ^ 32 ∧
      (orphaned.foldl step (initial k)).finished.map (·.buffer.data) =
        [[0x61, 0x62], [0x6F, 0x6B]] ∧
      (orphaned.foldl step (initial k)).Attended := by
  obtain ⟨k, booted⟩ : ∃ k,
      Kernel.boot { processes := [], shutdownOnEmpty := true } (Uart.create com1 true) = .ok k :=
    boot_ok rfl rfl (by decide) (by decide) (by decide)
  have moved : ((Kernel.boot { processes := [], shutdownOnEmpty := true }
      (Uart.create com1 true)).toOption.map fun k =>
        (orphaned.foldl step (initial k)).finished.map (·.buffer.data)) =
      some [[0x61, 0x62], [0x6F, 0x6B]] := by decide +kernel
  rw [booted] at moved
  have few : (orphaned.foldl step (initial k)).removed < 2 ^ 32 :=
    Nat.lt_of_le_of_lt (removed_steps (initial k) orphaned) (show 0 + 13 < 2 ^ 32 by decide)
  exact ⟨k, booted, few, Option.some.inj moved, attended_steps booted orphaned few⟩

end Watch

end TrapKernel
