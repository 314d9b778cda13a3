import TrapKernel.Proofs.Kernel.Single
import TrapKernel.Proofs.Process.Contexts
import TrapKernel.Proofs.Process.Pouring

/-!
# What users may do to the processes of the kernel

The shell refuses to delete, suspend, resume and reprioritise a process of the kernel. It asks whose
process it is by its name. `resumeAll` has no name to ask about, and resumes the processes of the
kernel with those of the users. That is the only way: as long as nobody types it, every process of
the kernel stays as it was, apart from being blocked and unblocked.
-/

namespace TrapKernel

/-- What a user types: a command, or a question. -/
inductive ShellLine where
  | command (c : ShellCommand)
  | find (name : String)
  | «show» (name : String)
  | showReady
  | showBlocked
  | showAll

/-- The line resumes all suspended processes. -/
def ShellLine.resumesAll : ShellLine → Bool
  | .command .resumeAll => true
  | _ => false

namespace Process

/-- What no change of state touches. -/
def charter (p : Process) : String × ProcessClass × Nat := (p.name, p.owner, p.priority)

/-- The process kept its name, its class and its priority, and is suspended if it was, unless
processes were resumed. -/
structure Spared (resumed : Bool) (p p' : Process) : Prop where
  charter : p'.charter = p.charter
  suspended : p'.state.isSuspended = (p.state.isSuspended && !resumed)

theorem Spared.refl (p : Process) : p.Spared false p := ⟨rfl, (Bool.and_true _).symm⟩

theorem Spared.trans {a b : Bool} {p p' p'' : Process} (h : p.Spared a p') (h' : p'.Spared b p'') :
    p.Spared (a || b) p'' := by
  refine ⟨h'.charter.trans h.charter, ?_⟩
  rw [h'.suspended, h.suspended, Bool.not_or, Bool.and_assoc]

end Process

namespace Registry

open ProcessTable ProcessQueue

variable {r r' r'' : Registry} {order : Order} {i : Nat} {k k' : QueueKind} {id : ProcessId}
  {m m' : Memory} {name : String}

/-! ### Nobody stays suspended -/

theorem Sound.resumeAll_order (hs : r.Sound order) : ∃ order', r.resumeAll.2.Sound order' ∧
    order' .suspendedReady = [] ∧ order' .suspendedBlocked = [] := by
  have ready : QueueKind.suspendedReady ≠ .ready := by decide
  have blocked : QueueKind.suspendedBlocked ≠ .blocked := by decide
  have first := hs.drain_pours ready (hs.threads .suspendedReady).length_le
  have second := first.sound.drain_pours blocked (first.sound.threads .suspendedBlocked).length_le
  exact ⟨_, second.sound, rfl, rfl⟩

theorem Sound.not_suspended (hs : r.Sound order) (ready : order .suspendedReady = [])
    (blocked : order .suspendedBlocked = []) {p : Process} (found : r.table.process? i = some p) :
    p.state.isSuspended = false := by
  have outside : ∀ k : QueueKind, order k = [] → p.state ≠ k.state := by
    intro k empty inK
    have member := hs.complete i k (stateAt_eq_some.mpr ⟨p, found, inK⟩)
    rw [empty] at member
    cases member
  cases state : p.state with
  | ready => rfl
  | running => rfl
  | blocked => rfl
  | readySuspended => exact absurd state (outside .suspendedReady ready)
  | blockedSuspended => exact absurd state (outside .suspendedBlocked blocked)

theorem charter_drain (r : Registry) (k : QueueKind) (state : ProcessState) (most j : Nat) :
    ((r.drain k state most).2.table.process? j).map Process.charter =
      (r.table.process? j).map Process.charter := by
  induction most generalizing r with
  | zero => rfl
  | succ most ih =>
    rw [Registry.drain]
    cases (r.queue k).head with
    | none => rfl
    | some i =>
      refine (ih _).trans ?_
      rw [process?_moveTo]
      split
      · rw [Option.map_map]
        rfl
      · rfl

/-! ### What happens to the processes of the kernel -/

/-- The processes of the kernel are still there, under their handles, and were spared. -/
def Spares (resumed : Bool) (r r' : Registry) : Prop :=
  ∀ id p, r.get id = some p → p.owner = .system → ∃ p', r'.get id = some p' ∧ p.Spared resumed p'

/-- The process with this name is not one of the kernel. -/
def Unguarded (r : Registry) (name : String) : Prop :=
  ∀ i p, r.position name = .ok i → r.table.process? i = some p → p.owner ≠ .system

namespace Spares

theorem refl (r : Registry) : r.Spares false r := fun _ p got _ => ⟨p, got, .refl p⟩

theorem trans {a b : Bool} (h : r.Spares a r') (h' : r'.Spares b r'') : r.Spares (a || b) r'' := by
  intro id p got system
  obtain ⟨p', got', spared⟩ := h id p got system
  have owner : p'.owner = p.owner := congrArg (·.2.1) spared.charter
  obtain ⟨p'', got'', spared'⟩ := h' id p' got' (owner.trans system)
  exact ⟨p'', got'', spared.trans spared'⟩

/-- One process changed. -/
theorem of_process {f : Process → Process} (slots : r.table.SameSlots r'.table)
    (process : ∀ j, r'.table.process? j =
      if i = j then (r.table.process? j).map f else r.table.process? j)
    (spared : ∀ p, r.table.process? i = some p → p.owner = .system → p.Spared false (f p)) :
    r.Spares false r' := by
  intro id p got system
  obtain ⟨j, resolved, found⟩ := get_eq_some.mp got
  rw [← slots.resolve] at resolved
  by_cases eq : i = j
  · subst eq
    refine ⟨f p, get_eq_some.mpr ⟨i, resolved, ?_⟩, spared p found system⟩
    rw [process, if_pos rfl, found]
    rfl
  · refine ⟨p, get_eq_some.mpr ⟨j, resolved, ?_⟩, .refl p⟩
    rw [process, if_neg eq, found]

theorem shift {target : ProcessState → Option ProcessState} (i : Nat)
    (side : ∀ p state, r.table.process? i = some p → p.owner = .system →
      target p.state = some state → state.isSuspended = p.state.isSuspended) :
    r.Spares false (r.shift i target).2 := by
  rw [Registry.shift]
  cases moved : (r.stateAt i).bind target with
  | none => exact refl r
  | some state =>
    refine of_process (r.sameSlots_moveTo i state) (r.process?_moveTo i state) ?_
    intro p found system
    rw [stateAt, found] at moved
    refine ⟨rfl, ?_⟩
    rw [Bool.not_false, Bool.and_true]
    exact side p state found system moved

theorem block {b : Bool} (done : r.block name = .ok (b, r')) : r.Spares false r' := by
  obtain ⟨i, -, shifted⟩ := block_ok done
  have spares : r.Spares false (r.shift i blockTarget).2 := by
    refine shift i fun p state _ _ moved => ?_
    cases old : p.state <;> rw [old] at moved <;> cases moved <;> rfl
  rwa [shifted] at spares

theorem unblock {b : Bool} (done : r.unblock name = .ok (b, r')) : r.Spares false r' := by
  obtain ⟨i, -, shifted⟩ := unblock_ok done
  have spares : r.Spares false (r.shift i unblockTarget).2 := by
    refine shift i fun p state _ _ moved => ?_
    cases old : p.state <;> rw [old] at moved <;> cases moved <;> rfl
  rwa [shifted] at spares

theorem resumeAll (hs : r.Sound order) : r.Spares true r.resumeAll.2 := by
  intro id p got system
  obtain ⟨i, resolved, found⟩ := get_eq_some.mp got
  obtain ⟨order', sound, ready, blocked⟩ := hs.resumeAll_order
  obtain ⟨-, -, steady⟩ := hs.resumeAll
  have same : (r.resumeAll.2.table.process? i).map Process.charter = some p.charter := by
    refine (charter_drain _ .suspendedBlocked .blocked _ i).trans ?_
    rw [charter_drain, found]
    rfl
  obtain ⟨p', found', same⟩ := Option.map_eq_some_iff.mp same
  refine ⟨p', get_eq_some.mpr ⟨i, (steady.slots.resolve id).trans resolved, found'⟩, same, ?_⟩
  rw [sound.not_suspended ready blocked found', Bool.not_true, Bool.and_false]

theorem create (hs : r.Sound order) {owner : ProcessClass} {priority : Nat}
    (done : r.create m name owner priority = .ok (id, r', m')) : r.Spares false r' := by
  obtain ⟨record, joins, -, process⟩ := hs.create_process done
  intro id' p got _
  obtain ⟨j, resolved, found⟩ := get_eq_some.mp got
  refine ⟨p, get_eq_some.mpr ⟨j, joins.resolve_of_resolve resolved, ?_⟩, .refl p⟩
  rw [process, if_neg, found]
  rintro rfl
  exact joins.fresh (live_iff.mpr ⟨p, found⟩)

theorem suspend (free : r.Unguarded name) : r.Spares false (r.suspend name).2 := by
  unfold Registry.suspend
  cases atI : r.table.position name with
  | none => exact refl r
  | some i =>
    have found : r.position name = .ok i := by
      rw [position, atI]
    exact shift i fun p _ process system => absurd system (free i p found process)

theorem resume (free : r.Unguarded name) : r.Spares false (r.resume name).2 := by
  unfold Registry.resume
  cases atI : r.table.position name with
  | none => exact refl r
  | some i =>
    have found : r.position name = .ok i := by
      rw [position, atI]
    exact shift i fun p _ process system => absurd system (free i p found process)

theorem delete (free : r.Unguarded name) (done : r.delete m name = .ok (id, r', m')) :
    r.Spares false r' := by
  obtain ⟨i, q, named, process, -, rfl, -⟩ := delete_ok done
  obtain ⟨leaves, -, others⟩ := delete_process done
  intro id p got system
  obtain ⟨j, resolved, found⟩ := get_eq_some.mp got
  have other : i ≠ j := by
    rintro rfl
    exact free i p named found system
  refine ⟨p, get_eq_some.mpr ⟨j, leaves.resolve.mpr ⟨?_, resolved⟩, ?_⟩, .refl p⟩
  · rintro rfl
    exact other (resolve_eq_some.mp resolved).1
  · rw [others, if_neg (by exact other), found]

theorem setPriority {priority : Nat} (free : r.Unguarded name)
    (done : r.setPriority name priority = .ok r') : r.Spares false r' := by
  let f : Process → Process := ({ · with priority })
  obtain ⟨i, q, named, -, -, ⟨-, rfl⟩ | ⟨-, rfl⟩⟩ := setPriority_ok done
  · have changed : r.table.SameSlots (r.modifyProcess i f).table := SameSlots.modify _
    have slots := changed.trans ((rewired_unlink _ i).toSameSlots.trans
      (sameSlots_link _ i q.state q.round))
    refine of_process (f := entering q.state q.round ∘ f) slots (fun j => ?_)
      fun p process system => absurd system (free i p named process)
    rw [process?_link, (rewired_unlink _ i).process, Registry.modifyProcess,
      process?_modifyProcess]
    split
    · rw [Option.map_map]
    · rfl
  · exact of_process (SameSlots.modify _) (fun j => process?_modifyProcess f)
      fun p process system => absurd system (free i p named process)

end Spares

end Registry

namespace Kernel

open Registry

variable {k : Kernel} {c : KernelConfig} {uart : Uart}

/-- The kernel after a line. A question changes nothing. -/
def typed (k : Kernel) : ShellLine → Kernel
  | .command c => k.shell c
  | .find _ | .show _ | .showReady | .showBlocked | .showAll => k

/-- Whoever passes the guard means no process of the kernel. -/
theorem unguarded_of_guard {name : String} (passed : Shell.guard k name = .ok ()) :
    k.registry.Unguarded name := by
  intro i p found process system
  have atI : k.registry.table.position name = some i := by
    rw [Registry.position] at found
    cases position : k.registry.table.position name <;> rw [position] at found <;> cases found
    rfl
  have guarded : k.registry.isSystem name = some true := by
    rw [isSystem, named, atI, Option.bind_some, process, Option.map_some, Process.isSystem,
      decide_eq_true system]
  rw [Shell.guard, if_pos guarded] at passed
  cases passed

theorem spares_update {ε α : Type} {result : Except ε α} {part : α → Kernel}
    (spares : ∀ a, result = .ok a → k.registry.Spares false (part a).registry) :
    k.registry.Spares false (k.update result part).registry := by
  cases result with
  | error e => exact .refl _
  | ok a => exact spares a rfl

/-- A guarded command is refused, or means no process of the kernel. -/
theorem spares_guard {α : Type} {name : String} {result : Except CommandError α}
    {part : α → Kernel} (spares : k.registry.Unguarded name →
      k.registry.Spares false (k.update result part).registry) :
    k.registry.Spares false (k.update (Shell.guard k name >>= fun _ => result) part).registry := by
  cases passed : Shell.guard k name with
  | error e => exact .refl _
  | ok u => exact spares (unguarded_of_guard passed)

theorem spares_shell {order : Order} (hs : k.registry.Sound order) (c : ShellCommand) :
    k.registry.Spares (ShellLine.command c).resumesAll (k.shell c).registry := by
  cases c with
  | create name owner priority =>
    rw [shell, Shell.create, update_mapError]
    refine spares_update fun result done => ?_
    obtain ⟨id, r, m, created, rfl⟩ := create_ok done
    exact .create hs created
  | delete name =>
    refine spares_guard fun free => ?_
    rw [update_mapError]
    refine spares_update fun result done => ?_
    obtain ⟨id, r, m, deleted, rfl⟩ := delete_ok done
    exact .delete free deleted
  | block name =>
    rw [shell, Shell.block, update_mapError]
    refine spares_update fun result done => ?_
    obtain ⟨b, r, blocked, rfl⟩ := block_ok done
    exact .block blocked
  | unblock name =>
    rw [shell, Shell.unblock, update_mapError]
    refine spares_update fun result done => ?_
    obtain ⟨b, r, unblocked, rfl⟩ := unblock_ok done
    exact .unblock unblocked
  | suspend name => exact spares_guard fun free => .suspend free
  | resume name => exact spares_guard fun free => .resume free
  | resumeAll => exact .resumeAll hs
  | setPriority name priority =>
    refine spares_guard fun free => ?_
    rw [update_mapError]
    refine spares_update fun result done => ?_
    obtain ⟨r, changed, rfl⟩ := setPriority_ok done
    exact .setPriority free changed
  | shutdown => exact .refl _

theorem spares_typed {order : Order} (hs : k.registry.Sound order) (line : ShellLine) :
    k.registry.Spares line.resumesAll (k.typed line).registry := by
  cases line with
  | command c => exact spares_shell hs c
  | find | «show» | showReady | showBlocked | showAll => exact .refl _

theorem AtRest.typed (h : k.AtRest) (line : ShellLine) : (k.typed line).AtRest := by
  cases line with
  | command c => exact h.outcome (k.outcome (.shell c))
  | find | «show» | showReady | showBlocked | showAll => exact h

theorem AtRest.spares (h : k.AtRest) (lines : List ShellLine) :
    k.registry.Spares (lines.any ShellLine.resumesAll) (lines.foldl Kernel.typed k).registry := by
  induction lines generalizing k with
  | nil => exact .refl _
  | cons line lines ih =>
    obtain ⟨who, -, -, runs⟩ := h.runs
    obtain ⟨order, hs⟩ := runs.sound
    exact (spares_typed hs line).trans (ih (h.typed line))

/-- Whatever has happened to a kernel since it was booted, and whatever a user types then: the
processes of the kernel are all there afterwards, under the same handles and with the same
priorities, and those are suspended that were, unless the user resumed all processes. -/
theorem spares_lines (booted : boot c uart = .ok k) (events : List KernelEvent)
    (lines : List ShellLine) :
    (events.foldl step k).registry.Spares (lines.any ShellLine.resumesAll)
      (lines.foldl typed (events.foldl step k)).registry :=
  (AtRest.steps booted events).spares lines

/-- A user tries everything on a process of the kernel but to resume all. -/
def prodding : List ShellLine :=
  [.command (.delete "idle"), .command (.suspend "idle"), .command (.setPriority "idle" 9),
    .command (.block "idle"), .command (.create "idle" .user 3), .showAll, .command .shutdown]

theorem spares_lines_prodding : ∃ k p p', boot {} (Uart.create com1 true) = .ok k ∧
    k.registry.get ⟨0, 0⟩ = some p ∧ p.name = "idle" ∧ p.owner = .system ∧
    (prodding.foldl typed k).registry.get ⟨0, 0⟩ = some p' ∧ p.Spared false p' := by
  have starts : ((boot {} (Uart.create com1 true)).toOption.bind fun k =>
      (k.registry.get ⟨0, 0⟩).map fun p => (p.name, p.owner)) = some ("idle", .system) := by
    decide +kernel
  obtain ⟨k, booted, starts⟩ := Option.bind_eq_some_iff.mp starts
  obtain ⟨p, got, eq⟩ := Option.map_eq_some_iff.mp starts
  obtain ⟨name, owner⟩ := Prod.mk.inj eq
  have booted := ok_of_toOption booted
  obtain ⟨p', got', spared⟩ := spares_lines booted [] prodding ⟨0, 0⟩ p got owner
  exact ⟨k, p, p', booted, got, name, owner, got', spared⟩

/-- A process of the kernel was suspended by the kernel, and a user resumes it with all others. -/
theorem typed_resumeAll_idle : ∃ k p p', boot {} (Uart.create com1 true) = .ok k ∧
    (k.step (.call (.suspend "idle"))).registry.get ⟨0, 0⟩ = some p ∧ p.owner = .system ∧
    p.state.isSuspended = true ∧
    ((k.step (.call (.suspend "idle"))).typed (.command .resumeAll)).registry.get ⟨0, 0⟩ =
      some p' ∧ p'.state.isSuspended = false := by
  have resumed : ((boot {} (Uart.create com1 true)).toOption.bind fun k =>
      let k' := k.step (.call (.suspend "idle"))
      (k'.registry.get ⟨0, 0⟩).bind fun p =>
        ((k'.typed (.command .resumeAll)).registry.get ⟨0, 0⟩).map fun p' =>
          (p.owner, p.state.isSuspended, p'.state.isSuspended)) = some (.system, true, false) := by
    decide +kernel
  obtain ⟨k, booted, resumed⟩ := Option.bind_eq_some_iff.mp resumed
  obtain ⟨p, got, resumed⟩ := Option.bind_eq_some_iff.mp resumed
  obtain ⟨p', got', eq⟩ := Option.map_eq_some_iff.mp resumed
  obtain ⟨owner, sides⟩ := Prod.mk.inj eq
  obtain ⟨before, after⟩ := Prod.mk.inj sides
  exact ⟨k, p, p', ok_of_toOption booted, got, owner, before, got', after⟩

end Kernel

end TrapKernel
