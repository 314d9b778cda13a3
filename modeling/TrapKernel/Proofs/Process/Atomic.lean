import TrapKernel.Proofs.Process.InPlace

/-!
# All or nothing

What users ask of a registry is done or is not done. When it fails, the registry and the memory are
what they were before, although the steps that led there were taken in place. A process is refused
for one of four reasons, and the first of them that holds is named.
-/

namespace TrapKernel

namespace Registry

open ProcessTable

/-- What a user may ask for, and the kind of the answer. -/
inductive Attempt : Type → Type where
  | create (name : String) (owner : ProcessClass) (priority : Nat) : Attempt ProcessId
  | load (name : String) (owner : ProcessClass) (priority : Nat) (entry : UInt32) :
      Attempt ProcessId
  | delete (name : String) : Attempt ProcessId
  | block (name : String) : Attempt Bool
  | unblock (name : String) : Attempt Bool
  | suspend (name : String) : Attempt Bool
  | resume (name : String) : Attempt Bool
  | setPriority (name : String) (priority : Nat) : Attempt Unit

namespace Attempt

variable {α : Type} {r : Registry} {m : Memory} {order : Order}

/-- What the registry answers, and what it and the memory become. -/
def outcome (r : Registry) (m : Memory) :
    Attempt α → Except RegistryError α × (Registry × Memory)
  | .create name owner priority => settled (r, m) (r.create m name owner priority)
  | .load name owner priority entry => settled (r, m) (r.load m name owner priority entry)
  | .delete name => settled (r, m) (r.delete m name)
  | .block name => settled (r, m) ((r.block name).map fun (done, r) => (done, (r, m)))
  | .unblock name => settled (r, m) ((r.unblock name).map fun (done, r) => (done, (r, m)))
  | .suspend name => (.ok (r.suspend name).1, (r.suspend name).2, m)
  | .resume name => (.ok (r.resume name).1, (r.resume name).2, m)
  | .setPriority name priority =>
    settled (r, m) ((r.setPriority name priority).map fun r => ((), (r, m)))

/-- The steps in which it is done. -/
def steps : Attempt α → InPlace α
  | .create name owner priority => InPlace.create name owner priority
  | .load name owner priority entry => InPlace.load name owner priority entry
  | .delete name => InPlace.delete name
  | .block name => InPlace.shiftIdle name blockTarget
  | .unblock name => InPlace.shiftIdle name unblockTarget
  | .suspend name => InPlace.shiftNamed name suspendTarget
  | .resume name => InPlace.shiftNamed name resumeTarget
  | .setPriority name priority => InPlace.setPriority name priority

/-- The answer says that nothing was done. -/
def Idle : Attempt α → α → Prop
  | .block _, done | .unblock _, done | .suspend _, done | .resume _, done => done = false
  | .create .., _ | .load .., _ | .delete _, _ | .setPriority .., _ => False

/-- An error is a failure, and so is the answer that nothing was done. -/
def Failed (a : Attempt α) : Except RegistryError α → Prop
  | .error _ => True
  | .ok answer => a.Idle answer

theorem after_steps (hs : r.Sound order) (a : Attempt α) :
    a.steps.after (r, m) = a.outcome r m := by
  cases a with
  | create name owner priority => exact InPlace.after_create name owner priority
  | load name owner priority entry => exact InPlace.after_load name owner priority entry
  | delete name => exact InPlace.after_delete hs name
  | block name => exact InPlace.after_shiftIdle name blockTarget
  | unblock name => exact InPlace.after_shiftIdle name unblockTarget
  | suspend name =>
    refine (InPlace.after_shiftNamed name suspendTarget).trans ?_
    rw [outcome, Registry.suspend]
    cases r.table.position name <;> rfl
  | resume name =>
    refine (InPlace.after_shiftNamed name resumeTarget).trans ?_
    rw [outcome, Registry.resume]
    cases r.table.position name <;> rfl
  | setPriority name priority => exact InPlace.after_setPriority name priority

end Attempt

variable {α : Type} {r r' : Registry} {m : Memory} {order : Order} {i : Nat} {name : String}
  {owner : ProcessClass} {priority : Nat} {e : RegistryError}

/-! ### Failures -/

theorem shift_false {target : ProcessState → Option ProcessState}
    (nothing : r.shift i target = (false, r')) : r' = r := by
  unfold shift at nothing
  cases moved : (r.stateAt i).bind target with
  | none =>
    rw [moved] at nothing
    exact (congrArg Prod.snd nothing).symm
  | some state =>
    rw [moved] at nothing
    cases nothing

theorem shiftNamed_false (target : ProcessState → Option ProcessState)
    (nothing : (match r.table.position name with
      | none => (false, r)
      | some i => r.shift i target).1 = false) :
    (match r.table.position name with
      | none => (false, r)
      | some i => r.shift i target).2 = r := by
  cases found : r.table.position name with
  | none => rfl
  | some i =>
    rw [found] at nothing
    exact shift_false (Prod.ext nothing rfl)

theorem Attempt.unchanged_settled {σ : Type} {s : σ} {result : Except RegistryError (α × σ)}
    (a : Attempt α) (idle : ∀ answer s', result = .ok (answer, s') → a.Idle answer → s' = s)
    (failed : a.Failed (settled s result).1) : (settled s result).2 = s := by
  cases result with
  | error e => rfl
  | ok done => exact idle done.1 done.2 rfl failed

/-- Who fails leaves everything as it was. -/
theorem Attempt.unchanged (a : Attempt α) (failed : a.Failed (a.outcome r m).1) :
    (a.outcome r m).2 = (r, m) := by
  have map_ok {result : Except RegistryError (Bool × Registry)} {b : Bool} {s : Registry × Memory}
      (done : (result.map fun (b, r) => (b, (r, m))) = .ok (b, s)) :
      result = .ok (b, s.1) ∧ s = (s.1, m) := by
    cases result with
    | error e => cases done
    | ok done' =>
      cases done
      exact ⟨rfl, rfl⟩
  -- the operations that answer more than yes or no have done something unless they fail
  cases a with
  | create name owner priority =>
    exact unchanged_settled (.create name owner priority) (fun _ _ _ idle => False.elim idle) failed
  | load name owner priority entry =>
    exact unchanged_settled (.load name owner priority entry)
      (fun _ _ _ idle => False.elim idle) failed
  | delete name =>
    exact unchanged_settled (.delete name) (fun _ _ _ idle => False.elim idle) failed
  | setPriority name priority =>
    exact unchanged_settled (.setPriority name priority) (fun _ _ _ idle => False.elim idle) failed
  | block name =>
    refine unchanged_settled (.block name) (fun answer s done idle => ?_) failed
    obtain ⟨blocked, eq⟩ := map_ok done
    obtain rfl : answer = false := idle
    obtain ⟨i, -, shifted⟩ := block_ok blocked
    rw [eq, shift_false shifted]
  | unblock name =>
    refine unchanged_settled (.unblock name) (fun answer s done idle => ?_) failed
    obtain ⟨unblocked, eq⟩ := map_ok done
    obtain rfl : answer = false := idle
    obtain ⟨i, -, shifted⟩ := unblock_ok unblocked
    rw [eq, shift_false shifted]
  | suspend name => exact congrArg (·, m) (shiftNamed_false suspendTarget failed)
  | resume name => exact congrArg (·, m) (shiftNamed_false resumeTarget failed)

/-! ### Refusals -/

/-- A name has 3 to 20 characters. -/
def NameFits (name : String) : Prop := 3 ≤ name.length ∧ name.length ≤ 20

/-- There is a process of this name, whatever it is doing. -/
def InUse (r : Registry) (name : String) : Prop := ∃ id p, r.get id = some p ∧ p.name = name

/-- Why a process is refused. The reasons are looked for in this order. -/
inductive Refused (r : Registry) (m : Memory) (name : String) (priority : Nat) :
    RegistryError → Prop where
  | badName (bad : ¬ NameFits name) : r.Refused m name priority (.invalidName name)
  | badPriority (fits : NameFits name) (bad : 9 < priority) :
      r.Refused m name priority (.invalidPriority priority)
  | inUse (fits : NameFits name) (low : priority ≤ 9) (used : r.InUse name) :
      r.Refused m name priority (.duplicateName name)
  | noMemory (fits : NameFits name) (low : priority ≤ 9) (unused : ¬ r.InUse name)
      {cause : MemoryError} (short : m.allocate recordSize = .error cause) :
      r.Refused m name priority (.outOfMemory cause)

theorem isSome_position : (r.table.position name).isSome ↔ r.InUse name := by
  constructor
  · intro found
    obtain ⟨i, position⟩ := Option.isSome_iff_exists.mp found
    obtain ⟨p, process, named⟩ := position_eq_some position
    have resolved := resolve_idAt (live_iff.mpr ⟨p, process⟩)
    exact ⟨r.table.idAt i, p, get_eq_some.mpr ⟨i, resolved, process⟩, named⟩
  · rintro ⟨id, p, got, named⟩
    obtain ⟨i, -, process⟩ := get_eq_some.mp got
    by_contra missing
    exact position_eq_none.mp (Option.not_isSome_iff_eq_none.mp missing) i p process named

theorem not_nameFits : ¬ NameFits name ↔
    name.length < minNameLength ∨ maxNameLength < name.length := by
  rw [NameFits, minNameLength, maxNameLength]
  omega

theorem create_of_refused (refused : r.Refused m name priority e) :
    r.create m name owner priority = .error e := by
  have within (fits : NameFits name) :
      ¬ (name.length < minNameLength ∨ maxNameLength < name.length) := fun bad =>
    not_nameFits.mpr bad fits
  have admitted (low : priority ≤ 9) : ¬ maxPriority < priority := Nat.not_lt.mpr low
  have excluded (bad : 9 < priority) : maxPriority < priority := bad
  rw [create]
  cases refused with
  | badName bad => rw [if_pos (not_nameFits.mp bad)]
  | badPriority fits bad => rw [if_neg (within fits), if_pos (excluded bad)]
  | inUse fits low used =>
    rw [if_neg (within fits), if_neg (admitted low), if_pos (isSome_position.mpr used)]
  | noMemory fits low unused short =>
    rw [if_neg (within fits), if_neg (admitted low), if_neg (isSome_position.not.mpr unused), short]

theorem refused_of_create (failed : r.create m name owner priority = .error e) :
    r.Refused m name priority e := by
  unfold create at failed
  split at failed
  · rename_i bad
    cases failed
    exact .badName (not_nameFits.mpr bad)
  rename_i within
  have fits : NameFits name := not_not.mp (not_nameFits.not.mpr within)
  split at failed
  · rename_i bad
    cases failed
    exact .badPriority fits bad
  rename_i admitted
  have low : priority ≤ 9 := Nat.not_lt.mp admitted
  split at failed
  · rename_i used
    cases failed
    exact .inUse fits low (isSome_position.mp used)
  rename_i unused
  split at failed
  · rename_i cause short
    cases failed
    exact .noMemory fits low (isSome_position.not.mp unused) short
  · cases failed

theorem create_eq_error : r.create m name owner priority = .error e ↔
    r.Refused m name priority e := ⟨refused_of_create, create_of_refused⟩

/-- A process that is created can be loaded. -/
theorem load_eq_error {entry : UInt32} : r.load m name owner priority entry = .error e ↔
    r.Refused m name priority e := by
  have created : r.create m name owner priority = .error e ↔ r.Refused m name priority e :=
    create_eq_error
  rw [← created, load]
  cases r.create m name owner priority with
  | error e' => rfl
  | ok result =>
    constructor
    · intro failed
      cases failed
    · intro failed
      cases failed

/-- What users ask of a registry is done or is not done. -/
structure Atomic (r : Registry) (m : Memory) : Prop where
  /-- The steps do what the operation does. -/
  outcome : ∀ {α : Type} (a : Attempt α), a.steps.after (r, m) = a.outcome r m
  unchanged : ∀ {α : Type} (a : Attempt α), a.Failed (a.steps.after (r, m)).1 →
    (a.steps.after (r, m)).2 = (r, m)
  create : ∀ (name : String) (owner : ProcessClass) (priority : Nat) (e : RegistryError),
    ((Attempt.create name owner priority).steps.after (r, m)).1 = .error e ↔
      r.Refused m name priority e
  load : ∀ (name : String) (owner : ProcessClass) (priority : Nat) (entry : UInt32)
    (e : RegistryError), ((Attempt.load name owner priority entry).steps.after (r, m)).1 = .error e ↔
      r.Refused m name priority e

theorem Sound.atomic (hs : r.Sound order) (m : Memory) : r.Atomic m := by
  have error {α : Type} {result : Except RegistryError (α × (Registry × Memory))}
      {e : RegistryError} : (settled (r, m) result).1 = .error e ↔ result = .error e := by
    cases result with
    | error e' => simp [settled]
    | ok done => simp [settled]
  refine ⟨fun a => a.after_steps hs, fun a failed => ?_, fun name owner priority e => ?_,
    fun name owner priority entry e => ?_⟩
  · rw [a.after_steps hs] at failed ⊢
    exact a.unchanged failed
  · rw [Attempt.after_steps hs]
    exact error.trans create_eq_error
  · rw [Attempt.after_steps hs]
    exact error.trans load_eq_error

/-- Whatever was asked of a registry, and whatever memory there is: what users ask of it next is
done, or everything stays as it was. -/
theorem atomic_calls (calls : List AnyCall) (permitted : empty.Permits calls) (m : Memory) :
    (empty.after calls).Atomic m :=
  (mirrors_empty.after calls permitted).sound.atomic m

/-- A process is created, and runs. -/
def occupying : List AnyCall :=
  [⟨_, .create (.bump (.create 2000)) "first" .user 3⟩, ⟨_, .takeReadyHead⟩]

/-- Its name is refused while it runs, and without memory every other name is. -/
theorem atomic_calls_occupying : empty.Permits occupying ∧
    (empty.after occupying).Atomic (.bump (.create 100)) ∧
    ((Attempt.create "first" .user 10).steps.after
      (empty.after occupying, .bump (.create 100))).1 = .error (.invalidPriority 10) ∧
    ((Attempt.create "first" .user 3).steps.after
      (empty.after occupying, .bump (.create 100))).1 = .error (.duplicateName "first") ∧
    ((Attempt.load "second" .user 3 0).steps.after
      (empty.after occupying, .bump (.create 100))).1.toOption = none := by
  have permitted : empty.Permits occupying := ⟨trivial, trivial, trivial⟩
  exact ⟨permitted, atomic_calls occupying permitted _, by decide +kernel, by decide +kernel,
    by decide +kernel⟩

end Registry

end TrapKernel
