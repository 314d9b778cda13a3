import TrapKernel.Proofs.Process.Calls
import TrapKernel.Proofs.Process.Window

/-!
# Rounds go on

Rounds are given to processes in several places, but a process gets one only when it becomes ready,
and whatever a registry is asked, the current round goes on. Only when the first of the ready
processes is taken, a new round may begin.
-/

namespace TrapKernel

/-- The process has no round, unless it is ready or runs. -/
def Process.AtEase (p : Process) : Prop := p.state ≠ .ready → p.state ≠ .running → p.round = 0

namespace Registry

open ProcessTable ProcessQueue

variable {r r' r'' : Registry} {order : Order} {i : Nat} {id : ProcessId} {m m' : Memory}
  {name : String} {q : Process} {saved : Context} {kept next : Option ProcessId}

/-! ### Operations -/

/-- Only processes that are ready or run have a round. -/
def Eased (r : Registry) : Prop := ∀ i p, r.table.process? i = some p → p.AtEase

theorem atEase_entering (state : ProcessState) (round : Nat) (p : Process) :
    (entering state round p).AtEase := by
  intro waits _
  exact if_neg waits

/-- The round goes on, and no process got a round that has no use for one. -/
structure Continues (r r' : Registry) : Prop where
  round : r'.round = r.round
  eased : r.Eased → r'.Eased

namespace Continues

theorem refl (r : Registry) : r.Continues r := ⟨rfl, id⟩

theorem trans (h : r.Continues r') (h' : r'.Continues r'') : r.Continues r'' :=
  ⟨h'.round.trans h.round, h'.eased ∘ h.eased⟩

/-- One process changed. -/
theorem of_process {f : Process → Process} (round : r'.round = r.round)
    (process : ∀ j, r'.table.process? j =
      if i = j then (r.table.process? j).map f else r.table.process? j)
    (atEase : ∀ p, p.AtEase → (f p).AtEase) : r.Continues r' := by
  refine ⟨round, fun eased j p found => ?_⟩
  rw [process] at found
  split at found
  · obtain ⟨q, before, rfl⟩ := Option.map_eq_some_iff.mp found
    exact atEase q (eased j q before)
  · exact eased j p found

/-- A process came. -/
theorem arrive (round : r'.round = r.round)
    (process : ∀ j, r'.table.process? j = if id.index = j then some q else r.table.process? j)
    (atEase : q.AtEase) : r.Continues r' := by
  refine ⟨round, fun eased j p found => ?_⟩
  rw [process] at found
  split at found
  · cases found
    exact atEase
  · exact eased j p found

/-- A process went. -/
theorem destroy (done : r.destroy m id = .ok (r', m')) : r.Continues r' := by
  obtain ⟨-, round, process⟩ := destroy_process done
  refine ⟨round, fun eased j p found => ?_⟩
  rw [process] at found
  split at found
  · cases found
  · exact eased j p found

theorem unlink (r : Registry) (i : Nat) : r.Continues (r.unlink i) := by
  refine ⟨r.round_unlink i, fun eased j p found => ?_⟩
  rw [(r.rewired_unlink i).process] at found
  exact eased j p found

theorem link (r : Registry) (i : Nat) (state : ProcessState) (round : Nat) :
    r.Continues (r.link i state round) :=
  of_process (r.round_link i state round) (r.process?_link i state round)
    fun p _ => atEase_entering state round p

theorem moveTo (r : Registry) (i : Nat) (state : ProcessState) :
    r.Continues (r.moveTo i state) := (unlink r i).trans (link _ i state _)

theorem shift (r : Registry) (i : Nat) (target : ProcessState → Option ProcessState) :
    r.Continues (r.shift i target).2 := by
  rw [Registry.shift]
  split
  · exact refl r
  · exact moveTo r i _

theorem drain (r : Registry) (k : QueueKind) (state : ProcessState) (most : Nat) :
    r.Continues (r.drain k state most).2 := by
  induction most generalizing r with
  | zero => exact refl r
  | succ most ih =>
    rw [Registry.drain]
    cases (r.queue k).head with
    | none => exact refl r
    | some i => exact (moveTo r i state).trans (ih _)

theorem setPriority {priority : Nat} (done : r.setPriority name priority = .ok r') :
    r.Continues r' := by
  let f : Process → Process := ({ · with priority })
  have changed : ∀ i, r.Continues (r.modifyProcess i f) := fun i =>
    of_process rfl (fun _ => process?_modifyProcess f) fun p atEase => atEase
  obtain ⟨i, p, -, -, -, ⟨-, rfl⟩ | ⟨-, rfl⟩⟩ := setPriority_ok done
  · exact (changed i).trans ((unlink _ i).trans (link _ i p.state p.round))
  · exact changed i

theorem saveContext (done : r.saveContext id saved = .ok r') : r.Continues r' := by
  obtain ⟨i, -, rfl⟩ := saveContext_ok done
  exact of_process rfl (fun _ => process?_modifyProcess _) fun p atEase => atEase

theorem parkBlocked (done : r.parkBlocked id = .ok r') : r.Continues r' := by
  obtain ⟨i, -, rfl⟩ := parkBlocked_ok done
  exact link r i .blocked r.round

/-- Whatever is asked, but for the first of the ready processes. -/
theorem perform (wf : r.table.Wellformed) (c : AnyCall) (other : c ≠ ⟨_, .takeReadyHead⟩) :
    r.Continues (r.perform c.2).2 := by
  have changed {ε β : Type} {result : Except ε (β × Registry)}
      (done : ∀ a r', result = .ok (a, r') → r.Continues r') :
      r.Continues (settled r result).2 := settled_snd (refl r) done
  have silent {ε : Type} {result : Except ε Registry}
      (done : ∀ r', result = .ok r' → r.Continues r') :
      r.Continues (settled r (result.map ((), ·))).2 := by
    cases result with
    | error e => exact refl r
    | ok r' => exact done r' rfl
  obtain ⟨α, c⟩ := c
  cases c with
  | create m name owner priority =>
    simp only [Registry.perform]
    cases done : r.create m name owner priority with
    | error e => exact refl r
    | ok result =>
      obtain ⟨record, -, -, -, round, process⟩ := create_effect wf done
      exact arrive round process (atEase_entering _ _ _)
  | load m name owner priority entry =>
    simp only [Registry.perform]
    cases done : r.load m name owner priority entry with
    | error e => exact refl r
    | ok result =>
      obtain ⟨record, -, -, -, round, process⟩ := load_effect wf done
      exact arrive round process (atEase_entering _ _ _)
  | delete m name =>
    simp only [Registry.perform]
    cases done : r.delete m name with
    | error e => exact refl r
    | ok result =>
      obtain ⟨i, p, -, -, -, -, destroyed⟩ := delete_ok done
      exact destroy destroyed
  | destroy m id =>
    simp only [Registry.perform]
    cases done : r.destroy m id with
    | error e => exact refl r
    | ok result => exact destroy done
  | block name =>
    refine changed fun b r' done => ?_
    obtain ⟨i, -, shifted⟩ := block_ok done
    have moved := shift r i blockTarget
    rwa [shifted] at moved
  | unblock name =>
    refine changed fun b r' done => ?_
    obtain ⟨i, -, shifted⟩ := unblock_ok done
    have moved := shift r i unblockTarget
    rwa [shifted] at moved
  | release id =>
    refine changed fun b r' done => ?_
    obtain ⟨i, -, shifted⟩ := release_ok done
    have moved := shift r i unblockTarget
    rwa [shifted] at moved
  | suspend name =>
    simp only [Registry.perform, Registry.suspend]
    split
    · exact refl r
    · exact shift r _ suspendTarget
  | resume name =>
    simp only [Registry.perform, Registry.resume]
    split
    · exact refl r
    · exact shift r _ resumeTarget
  | resumeAll => exact (drain r _ _ _).trans (drain _ _ _ _)
  | setPriority name priority => exact silent fun r' done => setPriority done
  | takeReadyHead => exact absurd rfl other
  | requeueYielded id =>
    refine silent fun r' done => ?_
    obtain ⟨i, -, rfl⟩ := requeueYielded_ok done
    exact link r i _ _
  | parkBlocked id => exact silent fun r' done => parkBlocked done
  | saveContext id c => exact silent fun r' done => saveContext done
  | context | find | «show» | isSystem | showReady | showBlocked => exact refl r

end Continues

/-- A process that is taken runs. -/
theorem Eased.takeReadyHead (h : r.Eased) (taken : r.takeReadyHead = some (id, r')) :
    r'.Eased := by
  obtain ⟨i, -, -, -, process, -⟩ := takeReadyHead_ok taken
  intro j p found
  rw [process] at found
  split at found
  · obtain ⟨q, -, rfl⟩ := Option.map_eq_some_iff.mp found
    intro _ idle
    exact absurd rfl idle
  · exact h j p found

/-! ### The halves of a trap -/

theorem Entered.round {ran : Option ProcessId} (half : Entered saved r ran kept r') :
    r'.round = r.round := by
  cases half with
  | nobody => rfl
  | keeps done => exact (Continues.saveContext done).round
  | parks done parked => exact ((Continues.saveContext done).trans (.parkBlocked parked)).round
  | ends done => exact (destroy_process done).2.1

theorem Requeued.round (h : r.Requeued kept r') : r'.round = r.round := by
  cases h with
  | nobody => rfl
  | back done =>
    obtain ⟨i, -, rfl⟩ := requeueYielded_ok done
    exact r.round_link i _ _

/-- Whoever is chosen, at most one new round begins. -/
theorem Chosen.round (half : r.Chosen kept next r') (window : r.Window) (hs : r.Sound order) :
    r'.round = r.round ∨ r'.round = r.round + 1 := by
  cases half with
  | home requeued => exact Or.inl requeued.round
  | next taken requeued =>
    rw [requeued.round]
    exact (window.take hs taken).1
  | alone => exact Or.inl rfl

end Registry

end TrapKernel
