import TrapKernel.Proofs.Process.Calls
import TrapKernel.Proofs.Process.Contexts

/-!
# How long a handle is good

A handle names a slot and the generation of the process in it. While that process is there the
handle leads to it, whatever else comes and goes. Once it is gone the generation of the slot has
moved on, and the handle leads nowhere. A generation has 32 bits, so that holds until 2 ^ 32
processes have left the slot: then its generations begin anew, and the next process in it gets the
old handle again.
-/

namespace TrapKernel

/-- The process is the one that the call asks for, and its record was allocated for it. -/
def Registry.Call.Describes {α : Type} : Registry.Call α → Process → Prop
  | .create m name owner _, p | .load m name owner _ _, p =>
    p.name = name ∧ p.owner = owner ∧ ∃ m', m.allocate recordSize = .ok (p.record, m')
  | _, _ => False

namespace Registry

open ProcessTable

variable {r r' : Registry} {i d : Nat} {id : ProcessId} {p : Process} {α : Type}

/-- How many processes leave a slot during some calls. -/
def departures (i : Nat) : Registry → List AnyCall → Nat
  | _, [] => 0
  | r, c :: calls =>
    (if (r.left c.2).any (·.index = i) then 1 else 0) + departures i (r.perform c.2).2 calls

/-- Whoever uses the handle reaches this process. -/
structure Reaches (r : Registry) (id : ProcessId) (p : Process) : Prop where
  slot : r.table.process? id.index = some p
  get : r.get id = some p
  release : r.release id = r.unblockAt id.index
  saveContext : ∀ c, r.saveContext id c = .ok (r.modifyProcess id.index (·.saveContext c))
  context : r.context id = .ok p.context

/-- Whoever uses the handle is told that it is stale. -/
structure Stale (r : Registry) (id : ProcessId) : Prop where
  get : r.get id = none
  release : r.release id = .error .staleHandle
  saveContext : ∀ c, r.saveContext id c = .error .staleHandle
  context : r.context id = .error .staleHandle

theorem reaches_of_resolve (resolved : r.table.resolve id = some id.index)
    (found : r.table.process? id.index = some p) : r.Reaches id p where
  slot := found
  get := by rw [Registry.get, resolved, Option.bind_some, found]
  release := by
    rw [Registry.release, Registry.resolve, resolved]
    rfl
  saveContext c := by
    rw [Registry.saveContext, Registry.resolve, resolved]
    rfl
  context := by
    rw [Registry.context, Registry.resolve, resolved]
    simp only [bind, Except.bind, found]
    rfl

theorem stale_of_resolve (gone : r.table.resolve id = none) : r.Stale id where
  get := by rw [Registry.get, gone, Option.bind_none]
  release := release_eq_error gone
  saveContext c := by
    rw [Registry.saveContext, Registry.resolve, gone]
    rfl
  context := by
    rw [Registry.context, Registry.resolve, gone]
    rfl

/-! ### Following a handle -/

/-- Since the handle `id` of the process `p` was given out, `d` processes have left its slot. -/
structure Followed (r : Registry) (id : ProcessId) (p : Process) (d : Nat) : Prop where
  wellformed : r.table.Wellformed
  generation : r.table.generation? id.index = some (id.generation + .ofNat d)
  /-- As long as nobody has left the slot, the process is in it. -/
  there : d = 0 → ∃ p', r.table.process? id.index = some p' ∧ p'.identity = p.identity

namespace Followed

theorem effect {came left : Option ProcessId} (h : r.Followed id p d)
    (effect : r.Effect r' came left) :
    r'.Followed id p ((if left.any (·.index = id.index) then 1 else 0) + d) := by
  have wellformed := effect.wellformed h.wellformed
  cases effect with
  | steady same =>
    rw [Option.any_none, if_neg Bool.false_ne_true, Nat.zero_add]
    refine ⟨wellformed, (same.slots.generation _).trans h.generation, fun none => ?_⟩
    obtain ⟨q, found, identity⟩ := h.there none
    have same := same.same id.index
    rw [found] at same
    obtain ⟨q', found', same⟩ := Option.map_eq_some_iff.mp same
    exact ⟨q', found', same.trans identity⟩
  | came joins _ others =>
    rw [Option.any_none, if_neg Bool.false_ne_true, Nat.zero_add]
    refine ⟨wellformed, ?_, fun none => ?_⟩
    · rcases joins.generation id.index with same | ⟨none, -⟩
      · exact same.trans h.generation
      · rw [h.generation] at none
        cases none
    · obtain ⟨q, found, identity⟩ := h.there none
      refine ⟨q, (others _ ?_).trans found, identity⟩
      rintro same
      exact joins.fresh (same ▸ live_iff.mpr ⟨q, found⟩)
  | @left gone leaves _ others =>
    rw [Option.any_some]
    by_cases here : gone.index = id.index
    · rw [if_pos (decide_eq_true here)]
      refine ⟨wellformed, ?_, fun none => ?_⟩
      · rw [leaves.generation, if_pos here, h.generation, Option.map_some, Nat.add_comm 1 d,
          UInt32.ofNat_add, UInt32.add_assoc]
        rfl
      · omega
    · rw [if_neg (by simpa using here), Nat.zero_add]
      refine ⟨wellformed, ?_, fun none => ?_⟩
      · rw [leaves.generation, if_neg here]
        exact h.generation
      · obtain ⟨q, found, identity⟩ := h.there none
        exact ⟨q, (others _ here).trans found, identity⟩

theorem after (h : r.Followed id p d) (calls : List AnyCall) :
    (r.after calls).Followed id p (d + r.departures id.index calls) := by
  induction calls generalizing r d with
  | nil => exact h
  | cons c calls ih =>
    have rest := ih (h.effect (effect_perform h.wellformed c.2))
    rw [departures, ← Nat.add_assoc, Nat.add_comm d]
    exact rest

theorem reaches (h : r.Followed id p 0) : ∃ p', r.Reaches id p' ∧ p'.identity = p.identity := by
  obtain ⟨p', found, identity⟩ := h.there rfl
  have resolved : r.table.resolve id = some id.index := by
    refine resolve_eq_some.mpr ⟨rfl, h.generation.trans ?_, live_iff.mpr ⟨p', found⟩⟩
    rw [show UInt32.ofNat 0 = 0 from rfl, UInt32.add_zero]
  exact ⟨p', reaches_of_resolve resolved found, identity⟩

theorem stale (h : r.Followed id p d) (moved : d % 2 ^ 32 ≠ 0) : r.Stale id := by
  apply stale_of_resolve
  rw [Option.eq_none_iff_forall_ne_some]
  intro i resolved
  obtain ⟨rfl, generation, -⟩ := resolve_eq_some.mp resolved
  rw [h.generation] at generation
  have same : id.generation + UInt32.ofNat d = id.generation := Option.some.inj generation
  have zero : UInt32.ofNat d = 0 := by simpa using same
  apply moved
  have bits := congrArg UInt32.toNat zero
  rw [UInt32.toNat_ofNat'] at bits
  exact bits

end Followed

theorem wellformed_after (wf : r.table.Wellformed) (calls : List AnyCall) :
    (r.after calls).table.Wellformed := by
  induction calls generalizing r with
  | nil => exact wf
  | cons c calls ih => exact ih ((effect_perform wf c.2).wellformed wf)

/-- Creating and loading make the process that was asked for. -/
theorem followed_came (wf : r.table.Wellformed) {call : Call α}
    (came : r.came call = some id) :
    ∃ p, call.Describes p ∧ (r.perform call).2.Followed id p 0 := by
  have follow {r' : Registry} {p : Process} (joins : r.table.Joins r'.table id)
      (wellformed : r'.table.Wellformed) (found : r'.table.process? id.index = some p) :
      r'.Followed id p 0 := by
    refine ⟨wellformed, ?_, fun _ => ⟨p, found, rfl⟩⟩
    rw [(resolve_eq_some.mp joins.resolved).2.1, show UInt32.ofNat 0 = 0 from rfl, UInt32.add_zero]
  cases call with
  | create m name owner priority =>
    obtain ⟨⟨id', r', m'⟩, done, rfl⟩ := Option.map_eq_some_iff.mp came
    have done := ok_of_toOption done
    obtain ⟨record, allocated, joins, wellformed, -, process⟩ := create_effect wf done
    refine ⟨entering .ready r.round (.create name owner priority record),
      ⟨rfl, rfl, m', allocated⟩, ?_⟩
    rw [perform, done]
    exact follow joins wellformed ((process _).trans (if_pos rfl))
  | load m name owner priority entry =>
    obtain ⟨⟨id', r', m'⟩, done, rfl⟩ := Option.map_eq_some_iff.mp came
    have done := ok_of_toOption done
    obtain ⟨record, allocated, joins, wellformed, -, process⟩ := load_effect wf done
    refine ⟨entering .readySuspended r.round
      ((entering .ready r.round (.create name owner priority record)).prepare entry),
      ⟨rfl, rfl, m', allocated⟩, ?_⟩
    rw [perform, done]
    exact follow joins wellformed ((process _).trans (if_pos rfl))
  | _ => cases came

/-- What a handle is good for: `made` is the registry in which it was given out for the process `p`,
and `calls` are what happened since. -/
structure Lifespan (made : Registry) (id : ProcessId) (p : Process)
    (calls : List AnyCall) : Prop where
  /-- As long as nobody has left the slot, the handle leads to the process. -/
  reaches : made.departures id.index calls = 0 →
    ∃ p', (made.after calls).Reaches id p' ∧ p'.identity = p.identity
  /-- The first to leave the slot is the process itself. -/
  first : made.departures id.index calls = 0 → ∀ (c : AnyCall) (gone : ProcessId),
    (made.after calls).left c.2 = some gone → gone.index = id.index → gone = id
  /-- From then on the handle leads nowhere, until the generations of the slot begin anew. -/
  stale : made.departures id.index calls % 2 ^ 32 ≠ 0 → (made.after calls).Stale id

theorem Followed.lifespan (h : r.Followed id p 0) (calls : List AnyCall) :
    r.Lifespan id p calls := by
  have later := h.after calls
  rw [Nat.zero_add] at later
  refine ⟨fun none => ?_, fun none c gone left same => ?_, later.stale⟩
  · rw [none] at later
    exact later.reaches
  · rw [none] at later
    obtain ⟨p', reaches, -⟩ := later.reaches
    obtain ⟨i, resolved, -⟩ := get_eq_some.mp reaches.get
    obtain rfl := (resolve_eq_some.mp resolved).1
    have effect := effect_perform later.wellformed c.2
    rw [left] at effect
    generalize (r.after calls).came c.2 = came at effect
    cases effect with
    | left leaves _ _ => exact resolve_injective (same ▸ leaves.resolved) resolved

/-! ### One slot that is used over and over -/

/-- A memory with room for one record. -/
def oneRecord : Memory := .bump (.create recordSize)

/-- The only slot of the registry holds a ready process. -/
def occupied (g : UInt32) (name : String) : Registry :=
  { empty with
    table := ⟨[⟨g, some ⟨entering .ready 0 (.create name .user 3 0), none, none⟩⟩], [], 1⟩
    ready := ⟨.ready, some 0, some 0, 1⟩ }

/-- The only slot of the registry is free. -/
def vacated (g : UInt32) : Registry := { empty with table := ⟨[⟨g, none⟩], [0], 0⟩ }

/-- Delete a process and create another one. -/
def renew (name name' : String) : List AnyCall :=
  [⟨_, .delete oneRecord name⟩, ⟨_, .create oneRecord name' .user 3⟩]

theorem delete_occupied (g : UInt32) (name : String) :
    (occupied g name).delete oneRecord name = .ok (⟨0, g⟩, vacated (g + 1), oneRecord) := by
  have position : (occupied g name).position name = .ok 0 := by
    simp [occupied, Registry.position, ProcessTable.position, entries, ProcessTable.process?, node?,
      entering, Process.create, Process.prepare, Process.saveContext, List.range_succ]
  have stateAt : (occupied g name).stateAt 0 = some .ready := rfl
  have idAt : (occupied g name).table.idAt 0 = ⟨0, g⟩ := rfl
  have resolve : (occupied g name).resolve ⟨0, g⟩ = .ok 0 := by
    simp [occupied, Registry.resolve, ProcessTable.resolve]
  have unlink : (occupied g name).unlink 0 =
      { occupied g name with ready := .empty .ready } := rfl
  have remove : (occupied g name).table.remove ⟨0, g⟩ =
      some (entering .ready 0 (.create name .user 3 0), (vacated (g + 1)).table) := by
    simp [ProcessTable.remove, ProcessTable.resolve, occupied, vacated, ProcessTable.process?,
      node?]
  simp only [Registry.delete, position, stateAt, idAt, destroy, bind, Except.bind, resolve,
    unlink, remove]
  rfl

theorem create_vacated (g : UInt32) {name : String} (lower : minNameLength ≤ name.length)
    (upper : name.length ≤ maxNameLength) :
    (vacated g).create oneRecord name .user 3 =
      .ok (⟨0, g⟩, occupied g name, .bump ⟨recordSize, recordSize, 1⟩) := by
  have position : (vacated g).table.position name = none := rfl
  have length : ¬ (name.length < minNameLength ∨ maxNameLength < name.length) := by omega
  have allocated : oneRecord.allocate recordSize =
      .ok (0, .bump ⟨recordSize, recordSize, 1⟩) := by
    simp [oneRecord, Memory.allocate, Bump.allocate, Bump.create, recordSize, bind, Except.bind,
      pure, Except.pure]
  simp only [Registry.create, if_neg length, position, allocated]
  rfl

theorem after_append (r : Registry) (calls calls' : List AnyCall) :
    r.after (calls ++ calls') = (r.after calls).after calls' :=
  List.foldl_append

theorem departures_append (i : Nat) (r : Registry) (calls calls' : List AnyCall) :
    r.departures i (calls ++ calls') =
      r.departures i calls + (r.after calls).departures i calls' := by
  induction calls generalizing r with
  | nil => exact (Nat.zero_add _).symm
  | cons c calls ih =>
    rw [List.cons_append, departures, ih, departures, Nat.add_assoc]
    rfl

/-- The new process is in the slot of the old one, one generation later. -/
theorem renew_occupied (g : UInt32) (name name' : String) (lower : minNameLength ≤ name'.length)
    (upper : name'.length ≤ maxNameLength) :
    (occupied g name).after (renew name name') = occupied (g + 1) name' ∧
      (occupied g name).departures 0 (renew name name') = 1 := by
  have first : ((occupied g name).perform (.delete oneRecord name)).2 = vacated (g + 1) := by
    rw [perform, delete_occupied]
    rfl
  have second : ((vacated (g + 1)).perform (.create oneRecord name' .user 3)).2 =
      occupied (g + 1) name' := by
    rw [perform, create_vacated _ lower upper]
    rfl
  have left : (occupied g name).left (.delete oneRecord name) = some ⟨0, g⟩ := by
    rw [Registry.left, delete_occupied]
    rfl
  constructor
  · rw [renew, after, List.foldl_cons, first, List.foldl_cons, second, List.foldl_nil]
  · rw [renew, departures, left, first, departures, second]
    rfl

/-- One process after the other in the same slot. -/
def renewed (n : Nat) : List AnyCall := (List.replicate n (renew "other" "other")).flatten

theorem renewed_occupied (n : Nat) (g : UInt32) :
    (occupied g "other").after (renewed n) = occupied (g + .ofNat n) "other" ∧
      (occupied g "other").departures 0 (renewed n) = n := by
  induction n generalizing g with
  | zero => exact ⟨congrArg (occupied · "other") (UInt32.add_zero g).symm, rfl⟩
  | succ n ih =>
    obtain ⟨once, one⟩ := renew_occupied g "other" "other" (by decide) (by decide)
    obtain ⟨rest, many⟩ := ih (g + 1)
    have split : renewed (n + 1) = renew "other" "other" ++ renewed n := rfl
    constructor
    · rw [split, after_append, once, rest, Nat.add_comm n 1, UInt32.ofNat_add, UInt32.add_assoc]
      rfl
    · rw [split, departures_append, one, once, many, Nat.add_comm]

/-! ### Every handle -/

/-- Whatever was asked of a registry before, and whatever is asked of it afterwards: the handle of a
process that was created or loaded leads to that very process as long as it is there, and leads to
no process once it is gone, unless the slot was left a multiple of 2 ^ 32 times since. -/
theorem lifespan_calls (before : List AnyCall) (call : Call α)
    (came : (empty.after before).came call = some id) (calls : List AnyCall) :
    ∃ p, call.Describes p ∧ ((empty.after before).perform call).2.Lifespan id p calls := by
  obtain ⟨p, describes, followed⟩ :=
    followed_came (wellformed_after wellformed_empty before) came
  exact ⟨p, describes, followed.lifespan calls⟩

/-- The process is deleted and another one takes its slot: the handle is stale. -/
theorem lifespan_calls_renewed :
    empty.came (.create oneRecord "first" .user 3) = some ⟨0, 0⟩ ∧
      ((occupied 0 "first").after (renew "first" "other")).Stale ⟨0, 0⟩ := by
  have came : empty.came (.create oneRecord "first" .user 3) = some ⟨0, 0⟩ := by decide +kernel
  obtain ⟨p, -, lifespan⟩ :=
    lifespan_calls [] (.create oneRecord "first" .user 3) came (renew "first" "other")
  have once := (renew_occupied 0 "first" "other" (by decide) (by decide)).2
  refine ⟨came, lifespan.stale ?_⟩
  exact (congrArg (· % 2 ^ 32) once).trans_ne (by decide)

/-- After 2 ^ 32 processes have left the slot, the handle of the first leads to the last. -/
theorem lifespan_wraps :
    empty.came (.create oneRecord "first" .user 3) = some ⟨0, 0⟩ ∧
      let made := (empty.perform (.create oneRecord "first" .user 3)).2
      let calls := renew "first" "other" ++ renewed (2 ^ 32 - 1)
      made.departures 0 calls = 2 ^ 32 ∧
        ((made.after calls).get ⟨0, 0⟩).map (·.name) = some "other" := by
  have came : empty.came (.create oneRecord "first" .user 3) = some ⟨0, 0⟩ := by decide +kernel
  have made : (empty.perform (.create oneRecord "first" .user 3)).2 = occupied 0 "first" := rfl
  obtain ⟨once, one⟩ := renew_occupied 0 "first" "other" (by decide) (by decide)
  obtain ⟨rest, many⟩ := renewed_occupied (2 ^ 32 - 1) (0 + 1)
  have wrapped : (0 + 1 + UInt32.ofNat (2 ^ 32 - 1) : UInt32) = 0 := by decide
  refine ⟨came, ?_, ?_⟩
  · rw [made, departures_append, one, once, many, Nat.add_sub_cancel' (by decide)]
  · rw [made, after_append, once, rest, wrapped]
    rfl

end Registry

end TrapKernel
