import TrapKernel.Proofs.Process.Places
import TrapKernel.Proofs.Steps

/-!
# Calls of a registry

Everything that a registry can be asked, as data: what users ask for by name, what the dispatcher
does, and the questions. `perform` gives the answer and the registry afterwards. Whatever the call
and whatever the queues look like, it is one of three things to the table: no process comes or goes,
one comes, or one goes.
-/

namespace TrapKernel

namespace Registry

/-- What a registry can be asked, and the kind of its answer. -/
inductive Call : Type → Type where
  | create (m : Memory) (name : String) (owner : ProcessClass) (priority : Nat) :
      Call (Except RegistryError (ProcessId × Memory))
  | load (m : Memory) (name : String) (owner : ProcessClass) (priority : Nat) (entry : UInt32) :
      Call (Except RegistryError (ProcessId × Memory))
  | delete (m : Memory) (name : String) : Call (Except RegistryError (ProcessId × Memory))
  | destroy (m : Memory) (id : ProcessId) : Call (Except RegistryError Memory)
  | block (name : String) : Call (Except RegistryError Bool)
  | unblock (name : String) : Call (Except RegistryError Bool)
  | release (id : ProcessId) : Call (Except RegistryError Bool)
  | suspend (name : String) : Call Bool
  | resume (name : String) : Call Bool
  | resumeAll : Call Nat
  | setPriority (name : String) (priority : Nat) : Call (Except RegistryError Unit)
  | takeReadyHead : Call (Option ProcessId)
  | requeueYielded (id : ProcessId) : Call (Except RegistryError Unit)
  | parkBlocked (id : ProcessId) : Call (Except RegistryError Unit)
  | saveContext (id : ProcessId) (c : Context) : Call (Except RegistryError Unit)
  | context (id : ProcessId) : Call (Except RegistryError Context)
  | find (name : String) : Call (Option QueueKind)
  | «show» (name : String) : Call (Option ProcessInfo)
  | isSystem (name : String) : Call (Option Bool)
  | showReady : Call (List ProcessInfo)
  | showBlocked : Call (List ProcessInfo)

/-- A call, whatever it answers. -/
abbrev AnyCall := Σ α, Call α

/-- What the registry answers to a call, and the registry afterwards. -/
def perform {α : Type} (r : Registry) : Call α → α × Registry
  | .create m name owner priority =>
    settled r ((r.create m name owner priority).map fun (id, r, m) => ((id, m), r))
  | .load m name owner priority entry =>
    settled r ((r.load m name owner priority entry).map fun (id, r, m) => ((id, m), r))
  | .delete m name => settled r ((r.delete m name).map fun (id, r, m) => ((id, m), r))
  | .destroy m id => settled r ((r.destroy m id).map fun (r, m) => (m, r))
  | .block name => settled r (r.block name)
  | .unblock name => settled r (r.unblock name)
  | .release id => settled r (r.release id)
  | .suspend name => r.suspend name
  | .resume name => r.resume name
  | .resumeAll => r.resumeAll
  | .setPriority name priority => settled r ((r.setPriority name priority).map ((), ·))
  | .takeReadyHead =>
    match r.takeReadyHead with
    | none => (none, r)
    | some (id, r) => (some id, r)
  | .requeueYielded id => settled r ((r.requeueYielded id).map ((), ·))
  | .parkBlocked id => settled r ((r.parkBlocked id).map ((), ·))
  | .saveContext id c => settled r ((r.saveContext id c).map ((), ·))
  | .context id => (r.context id, r)
  | .find name => (r.find name, r)
  | .show name => (r.show name, r)
  | .isSystem name => (r.isSystem name, r)
  | .showReady => (r.showReady, r)
  | .showBlocked => (r.showBlocked, r)

/-- The registry after some calls. -/
def after (r : Registry) (calls : List AnyCall) : Registry :=
  calls.foldl (fun r c => (r.perform c.2).2) r

/-- The process that a call makes. -/
def came {α : Type} (r : Registry) : Call α → Option ProcessId
  | .create m name owner priority => (r.create m name owner priority).toOption.map (·.1)
  | .load m name owner priority entry => (r.load m name owner priority entry).toOption.map (·.1)
  | _ => none

/-- The process that a call removes. -/
def left {α : Type} (r : Registry) : Call α → Option ProcessId
  | .delete m name => (r.delete m name).toOption.map (·.1)
  | .destroy m id => (r.destroy m id).toOption.map fun _ => id
  | _ => none

end Registry

/-- What makes a process the one that it is. -/
def Process.identity (p : Process) : String × ProcessClass × Nat := (p.name, p.owner, p.record)

namespace Registry

open ProcessTable

variable {r r' r'' : Registry} {i : Nat} {id : ProcessId} {m m' : Memory} {name : String}
  {owner : ProcessClass} {priority : Nat}

/-! ### The same processes -/

/-- The same processes are there. -/
structure SameIdentities (r r' : Registry) : Prop where
  slots : r.table.SameSlots r'.table
  same : ∀ i, (r'.table.process? i).map (·.identity) = (r.table.process? i).map (·.identity)

namespace SameIdentities

theorem refl (r : Registry) : r.SameIdentities r := ⟨(Rewired.refl _).toSameSlots, fun _ => rfl⟩

theorem trans (h : r.SameIdentities r') (h' : r'.SameIdentities r'') : r.SameIdentities r'' :=
  ⟨h.slots.trans h'.slots, fun i => (h'.same i).trans (h.same i)⟩

/-- One process changed, but is still the same. -/
theorem of_process {f : Process → Process} (slots : r.table.SameSlots r'.table)
    (process : ∀ j, r'.table.process? j =
      if i = j then (r.table.process? j).map f else r.table.process? j)
    (same : ∀ p, (f p).identity = p.identity) : r.SameIdentities r' := by
  refine ⟨slots, fun j => ?_⟩
  rw [process]
  split
  · rw [Option.map_map]
    congr 1
    funext p
    exact same p
  · rfl

theorem unlink (r : Registry) (i : Nat) : r.SameIdentities (r.unlink i) :=
  ⟨(r.rewired_unlink i).toSameSlots, fun j => congrArg _ ((r.rewired_unlink i).process j)⟩

theorem link (r : Registry) (i : Nat) (state : ProcessState) (round : Nat) :
    r.SameIdentities (r.link i state round) :=
  of_process (r.sameSlots_link i state round) (r.process?_link i state round) fun _ => rfl

theorem moveTo (r : Registry) (i : Nat) (state : ProcessState) :
    r.SameIdentities (r.moveTo i state) :=
  of_process (r.sameSlots_moveTo i state) (r.process?_moveTo i state) fun _ => rfl

theorem modifyProcess (r : Registry) (i : Nat) {f : Process → Process}
    (same : ∀ p, (f p).identity = p.identity) : r.SameIdentities (r.modifyProcess i f) :=
  of_process (SameSlots.modify _) (fun _ => process?_modifyProcess f) same

theorem shift (r : Registry) (i : Nat) (target : ProcessState → Option ProcessState) :
    r.SameIdentities (r.shift i target).2 := by
  rw [Registry.shift]
  split
  · exact refl r
  · exact moveTo r i _

theorem drain (r : Registry) (k : QueueKind) (state : ProcessState) (most : Nat) :
    r.SameIdentities (r.drain k state most).2 := by
  induction most generalizing r with
  | zero => exact refl r
  | succ most ih =>
    rw [Registry.drain]
    cases (r.queue k).head with
    | none => exact refl r
    | some i => exact (moveTo r i state).trans (ih _)

theorem block {b : Bool} (done : r.block name = .ok (b, r')) : r.SameIdentities r' := by
  obtain ⟨i, -, shifted⟩ := block_ok done
  have same := shift r i blockTarget
  rwa [shifted] at same

theorem unblock {b : Bool} (done : r.unblock name = .ok (b, r')) : r.SameIdentities r' := by
  obtain ⟨i, -, shifted⟩ := unblock_ok done
  have same := shift r i unblockTarget
  rwa [shifted] at same

theorem release {b : Bool} (done : r.release id = .ok (b, r')) : r.SameIdentities r' := by
  obtain ⟨i, -, shifted⟩ := release_ok done
  have same := shift r i unblockTarget
  rwa [shifted] at same

theorem suspend (r : Registry) (name : String) : r.SameIdentities (r.suspend name).2 := by
  unfold Registry.suspend
  split
  · exact refl r
  · exact shift r _ suspendTarget

theorem resume (r : Registry) (name : String) : r.SameIdentities (r.resume name).2 := by
  unfold Registry.resume
  split
  · exact refl r
  · exact shift r _ resumeTarget

theorem setPriority (done : r.setPriority name priority = .ok r') : r.SameIdentities r' := by
  let f : Process → Process := ({ · with priority })
  have changed : ∀ i, r.SameIdentities (r.modifyProcess i f) := fun i =>
    modifyProcess r i fun _ => rfl
  obtain ⟨i, p, -, -, -, ⟨-, rfl⟩ | ⟨-, rfl⟩⟩ := setPriority_ok done
  · exact (changed i).trans ((unlink _ i).trans (link _ i p.state p.round))
  · exact changed i

theorem takeReadyHead (taken : r.takeReadyHead = some (id, r')) : r.SameIdentities r' := by
  obtain ⟨i, -, -, slots, process, -⟩ := takeReadyHead_ok taken
  exact of_process slots process fun _ => rfl

end SameIdentities

/-! ### Processes come and go -/

/-- What a call makes of the processes: all are there as before, or one came, or one went. -/
inductive Effect (r r' : Registry) : (came left : Option ProcessId) → Prop where
  | steady (same : r.SameIdentities r') : Effect r r' none none
  | came {id : ProcessId} (joins : r.table.Joins r'.table id) (wellformed : r'.table.Wellformed)
      (others : ∀ j, id.index ≠ j → r'.table.process? j = r.table.process? j) :
      Effect r r' (some id) none
  | left {id : ProcessId} (leaves : r.table.Leaves r'.table id) (wellformed : r'.table.Wellformed)
      (others : ∀ j, id.index ≠ j → r'.table.process? j = r.table.process? j) :
      Effect r r' none (some id)

theorem Effect.destroy (wf : r.table.Wellformed) (done : r.destroy m id = .ok (r', m')) :
    r.Effect r' none (some id) := by
  obtain ⟨leaves, -, process⟩ := destroy_process done
  refine .left leaves ?_ fun j other => (process j).trans (if_neg other)
  obtain ⟨p, t, resolved, removed, rfl, -⟩ := destroy_ok done
  have unlinked := (r.rewired_unlink id.index).toSameSlots
  have resolved' := (unlinked.resolve id).trans resolved
  obtain ⟨q, found⟩ := live_iff.mp (resolve_eq_some.mp resolved').2.2
  obtain ⟨t', removed', gone⟩ := remove_spec (unlinked.wellformed wf) resolved' found
  cases removed.symm.trans removed'
  exact gone.wellformed

theorem effect_perform {α : Type} (wf : r.table.Wellformed) (call : Call α) :
    r.Effect (r.perform call).2 (r.came call) (r.left call) := by
  have steady {ε β : Type} {result : Except ε (β × Registry)}
      (same : ∀ a r', result = .ok (a, r') → r.SameIdentities r') :
      r.Effect (settled r result).2 none none := .steady (settled_snd (.refl r) same)
  have silent {ε : Type} {result : Except ε Registry}
      (same : ∀ r', result = .ok r' → r.SameIdentities r') :
      r.Effect (settled r (result.map ((), ·))).2 none none := by
    cases result with
    | error e => exact .steady (.refl r)
    | ok r' => exact .steady (same r' rfl)
  cases call with
  | create m name owner priority =>
    simp only [perform, came, left]
    cases done : r.create m name owner priority with
    | error e => exact .steady (.refl r)
    | ok result =>
      obtain ⟨record, -, joins, wellformed, -, process⟩ := create_effect wf done
      exact .came joins wellformed fun j other => (process j).trans (if_neg other)
  | load m name owner priority entry =>
    simp only [perform, came, left]
    cases done : r.load m name owner priority entry with
    | error e => exact .steady (.refl r)
    | ok result =>
      obtain ⟨record, -, joins, wellformed, -, process⟩ := load_effect wf done
      exact .came joins wellformed fun j other => (process j).trans (if_neg other)
  | delete m name =>
    simp only [perform, came, left]
    cases done : r.delete m name with
    | error e => exact .steady (.refl r)
    | ok result =>
      obtain ⟨i, p, -, -, -, -, destroyed⟩ := delete_ok done
      exact .destroy wf destroyed
  | destroy m id =>
    simp only [perform, came, left]
    cases done : r.destroy m id with
    | error e => exact .steady (.refl r)
    | ok result => exact .destroy wf done
  | block name => exact steady fun b r' done => .block done
  | unblock name => exact steady fun b r' done => .unblock done
  | release id => exact steady fun b r' done => .release done
  | suspend name => exact .steady (.suspend r name)
  | resume name => exact .steady (.resume r name)
  | resumeAll => exact .steady ((SameIdentities.drain r _ _ _).trans (.drain _ _ _ _))
  | setPriority name priority => exact silent fun r' done => .setPriority done
  | takeReadyHead =>
    simp only [perform, came, left]
    cases taken : r.takeReadyHead with
    | none => exact .steady (.refl r)
    | some result => exact .steady (.takeReadyHead taken)
  | requeueYielded id =>
    refine silent fun r' done => ?_
    obtain ⟨i, -, rfl⟩ := requeueYielded_ok done
    exact .link r i _ _
  | parkBlocked id =>
    refine silent fun r' done => ?_
    obtain ⟨i, -, rfl⟩ := parkBlocked_ok done
    exact .link r i _ _
  | saveContext id c =>
    refine silent fun r' done => ?_
    obtain ⟨i, -, rfl⟩ := saveContext_ok done
    exact .modifyProcess r i fun _ => rfl
  | context | find | «show» | isSystem | showReady | showBlocked => exact .steady (.refl r)

theorem Effect.wellformed {came left : Option ProcessId} (h : r.Effect r' came left)
    (wf : r.table.Wellformed) : r'.table.Wellformed := by
  cases h with
  | steady same => exact same.slots.wellformed wf
  | came joins wellformed others => exact wellformed
  | left leaves wellformed others => exact wellformed

end Registry

end TrapKernel
