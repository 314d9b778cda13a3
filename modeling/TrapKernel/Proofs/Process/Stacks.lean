import TrapKernel.Proofs.Memory.Ledger
import TrapKernel.Proofs.Process.Calls
import TrapKernel.Proofs.Process.Records

/-!
# Stacks

The stack of a process lies at the start of its record, and records are blocks of a memory that
others use, too. As long as nobody else gives a record back, the blocks of different processes are
apart. The addresses of a stack have 32 bits and those of a record have not: a stack is where its
record is exactly if it ends below 2 ^ 32. The memory of a heap is never larger than that; a bump
region can be, and there the stacks of two processes can have the same addresses.
-/

namespace TrapKernel

/-- The first range is part of the second one. -/
def Grant.Within (g g' : Grant) : Prop :=
  g'.address ≤ g.address ∧ g.address + g.bytes ≤ g'.address + g'.bytes

instance : Std.Symm Grant.Apart := ⟨fun _ _ => Or.symm⟩

theorem Grant.Apart.within {g g' h h' : Grant} (apart : g.Apart g') (inner : h.Within g)
    (inner' : h'.Within g') : h.Apart h' := by
  obtain ⟨low, high⟩ := inner
  obtain ⟨low', high'⟩ := inner'
  rcases apart with below | above
  · exact Or.inl (by omega)
  · exact Or.inr (by omega)

namespace Process

variable {p q : Process}

/-- The block of memory that holds the record. -/
def block (p : Process) : Grant := ⟨p.record, recordSize⟩

/-- The addresses of the stack. -/
def stackRange (p : Process) : Grant := ⟨p.stackBase.toNat, stackSize⟩

/-- The addresses of the saved context. -/
def contextRange (p : Process) : Grant := ⟨p.stackTop.toNat, Context.size⟩

/-- The stack begins where the record does, its bytes have addresses of 32 bits, and it holds the
saved context. -/
structure OwnStack (p : Process) : Prop where
  base : p.stackBase.toNat = p.record
  addressable : p.stackRange.Within ⟨0, 2 ^ 32⟩
  stack : p.stackRange.Within p.block
  context : p.contextRange.Within p.stackRange

theorem stackBase_toNat (p : Process) : p.stackBase.toNat = p.record % 2 ^ 32 := rfl

/-- A stack that ends below 2 ^ 32 is where it should be, and no other one is. -/
theorem ownStack_iff : p.OwnStack ↔ p.record + stackSize ≤ 2 ^ 32 := by
  constructor
  · intro own
    have high := own.addressable.2
    rw [stackRange, own.base] at high
    simpa using high
  · intro fits
    have below : p.record < 2 ^ 32 := Nat.lt_of_lt_of_le (Nat.lt_add_of_pos_right (by decide)) fits
    have base : p.stackBase.toNat = p.record :=
      (stackBase_toNat p).trans (Nat.mod_eq_of_lt below)
    have top : p.stackTop.toNat = p.record + contextOffset := by
      have offset : (UInt32.ofNat contextOffset).toNat = contextOffset := by decide
      rw [stackTop, UInt32.toNat_add, base, offset, Nat.mod_eq_of_lt]
      exact Nat.lt_of_lt_of_le (Nat.add_lt_add_left (by decide) _) fits
    refine ⟨base, ⟨Nat.zero_le _, ?_⟩, ⟨?_, ?_⟩, ⟨?_, ?_⟩⟩
    · simpa only [stackRange, base, Nat.zero_add] using fits
    · exact Nat.le_of_eq base.symm
    · simp only [stackRange, block, base, recordSize]
      omega
    · simp only [stackRange, contextRange, base, top]
      omega
    · simp only [stackRange, contextRange, base, top, contextOffset, stackSize, Context.size]
      omega

end Process

namespace Registry

open ProcessTable

variable {α : Type} {r r' : Registry} {m m' : Memory} {size : Nat} {live : List Grant}

/-- Every process has its stack to itself. -/
structure PrivateStacks (r : Registry) : Prop where
  own : ∀ i p, r.table.process? i = some p → p.OwnStack
  apart : ∀ i j p q, r.table.process? i = some p → r.table.process? j = some q → i ≠ j →
    p.stackRange.Apart q.stackRange

/-! ### A memory that others use -/

/-- The same call, served from the memory `m`. -/
def Call.servedBy (m : Memory) : Call α → Call α
  | .create _ name owner priority => .create m name owner priority
  | .load _ name owner priority entry => .load m name owner priority entry
  | .delete _ name => .delete m name
  | .destroy _ id => .destroy m id
  | call => call

/-- What the memory `m` has become when a call that it served is answered. -/
def Call.memory (m : Memory) : Call α → α → Memory
  | .create .., answer | .load .., answer | .delete .., answer =>
    match answer with
    | .ok (_, m) => m
    | .error _ => m
  | .destroy .., answer =>
    match answer with
    | .ok m => m
    | .error _ => m
  | _, _ => m

/-- What happens to the processes and to the memory from which they have their records. -/
inductive Use where
  /-- The registry is asked for something. -/
  | asked (call : AnyCall)
  /-- Somebody else takes memory. -/
  | taken (bytes : Nat)
  /-- Somebody else gives memory back, which is not a record. -/
  | returned (address : Nat)

/-- The registry and the memory after a use. -/
def use (s : Registry × Memory) : Use → Registry × Memory
  | .asked ⟨_, call⟩ =>
    let (answer, r) := s.1.perform (call.servedBy s.2)
    (r, call.memory s.2 answer)
  | .taken bytes =>
    match s.2.allocate bytes with
    | .ok (_, m) => (s.1, m)
    | .error _ => s
  | .returned address => if address ∈ s.1.records then s else (s.1, s.2.release address)

/-- What a call makes of the records: `m` and `m'` are the memory before it and after it. -/
inductive Rehoused (r : Registry) (m : Memory) (r' : Registry) (m' : Memory) : Prop where
  | steady (same : ∀ i, r'.recordAt i = r.recordAt i) (memory : m' = m)
  | came {i record : Nat} (allocated : m.allocate recordSize = .ok (record, m'))
      (fresh : r.recordAt i = none)
      (records : ∀ j, r'.recordAt j = if i = j then some record else r.recordAt j)
  | left {i record : Nat} (found : r.recordAt i = some record) (memory : m' = m.release record)
      (records : ∀ j, r'.recordAt j = if i = j then none else r.recordAt j)

theorem SameIdentities.recordAt (h : r.SameIdentities r') (i : Nat) :
    r'.recordAt i = r.recordAt i := by
  have same := congrArg (Option.map fun identity => identity.2.2) (h.same i)
  rw [Option.map_map, Option.map_map] at same
  exact same

theorem recordAt_eq_none {i : Nat} (dead : ¬ r.table.Live i) : r.recordAt i = none := by
  rw [recordAt, Option.map_eq_none_iff]
  exact Option.eq_none_iff_forall_ne_some.mpr fun p found => dead (live_iff.mpr ⟨p, found⟩)

theorem mem_records {record : Nat} : record ∈ r.records ↔ ∃ i, r.recordAt i = some record := by
  rw [records, List.mem_map]
  constructor
  · rintro ⟨⟨i, p⟩, entry, rfl⟩
    exact ⟨i, congrArg (Option.map Process.record) (mem_entries.mp entry)⟩
  · rintro ⟨i, found⟩
    obtain ⟨p, process, rfl⟩ := Option.map_eq_some_iff.mp found
    exact ⟨(i, p), mem_entries.mpr process, rfl⟩

theorem Rehoused.arrived {id : ProcessId} {p : Process}
    (allocated : m.allocate recordSize = .ok (p.record, m')) (joins : r.table.Joins r'.table id)
    (process : ∀ j, r'.table.process? j = if id.index = j then some p else r.table.process? j) :
    r.Rehoused m r' m' := by
  refine .came allocated (recordAt_eq_none joins.fresh) fun j => ?_
  rw [recordAt, process]
  split
  · rfl
  · rfl

theorem Rehoused.destroy {id : ProcessId} (wf : r.table.Wellformed)
    (done : r.destroy m id = .ok (r', m')) : r.Rehoused m r' m' := by
  obtain ⟨-, -, process⟩ := destroy_process done
  obtain ⟨p, t, resolved, removed, -, released⟩ := destroy_ok done
  have unlinked := (r.rewired_unlink id.index).toSameSlots
  have resolved' := (unlinked.resolve id).trans resolved
  obtain ⟨q, found⟩ := live_iff.mp (resolve_eq_some.mp resolved').2.2
  obtain ⟨t', removed', -⟩ := remove_spec (unlinked.wellformed wf) resolved' found
  cases removed.symm.trans removed'
  rw [(r.rewired_unlink id.index).process] at found
  have record : r.recordAt id.index = some p.record :=
    congrArg (Option.map Process.record) found
  refine .left record released fun j => ?_
  rw [recordAt, process]
  split
  · rfl
  · rfl

theorem rehoused_perform (wf : r.table.Wellformed) (m : Memory) (call : Call α) :
    r.Rehoused m (r.perform (call.servedBy m)).2
      (call.memory m (r.perform (call.servedBy m)).1) := by
  have steady (same : r.SameIdentities (r.perform (call.servedBy m)).2)
      (memory : call.memory m (r.perform (call.servedBy m)).1 = m) :
      r.Rehoused m (r.perform (call.servedBy m)).2
        (call.memory m (r.perform (call.servedBy m)).1) := .steady same.recordAt memory
  have effect := effect_perform wf (call.servedBy m)
  cases call with
  | create _ name owner priority =>
    simp only [perform, Call.servedBy, Call.memory]
    cases done : r.create m name owner priority with
    | error e => exact .steady (fun _ => rfl) rfl
    | ok result =>
      obtain ⟨record, allocated, joins, -, -, process⟩ := create_effect wf done
      exact .arrived allocated joins process
  | load _ name owner priority entry =>
    simp only [perform, Call.servedBy, Call.memory]
    cases done : r.load m name owner priority entry with
    | error e => exact .steady (fun _ => rfl) rfl
    | ok result =>
      obtain ⟨record, allocated, joins, -, -, process⟩ := load_effect wf done
      exact .arrived allocated joins process
  | delete _ name =>
    simp only [perform, Call.servedBy, Call.memory]
    cases done : r.delete m name with
    | error e => exact .steady (fun _ => rfl) rfl
    | ok result =>
      obtain ⟨i, p, -, -, -, -, destroyed⟩ := delete_ok done
      exact .destroy wf destroyed
  | destroy _ id =>
    simp only [perform, Call.servedBy, Call.memory]
    cases done : r.destroy m id with
    | error e => exact .steady (fun _ => rfl) rfl
    | ok result => exact .destroy wf done
  | _ =>
    cases effect with
    | steady same => exact steady same rfl

/-! ### Everybody has a block -/

/-- Every record is a block that was handed out, and no two processes have the same one. -/
structure Housed (size : Nat) (r : Registry) (m : Memory) (live : List Grant) : Prop where
  wellformed : r.table.Wellformed
  sound : Ledger.Sound size ⟨m, live⟩
  granted : ∀ i record, r.recordAt i = some record → ⟨record, recordSize⟩ ∈ live
  alone : ∀ i j record, r.recordAt i = some record → r.recordAt j = some record → i = j

/-- What is handed out is apart from what was. -/
theorem sound_allocate {bytes address : Nat} (sound : Ledger.Sound size ⟨m, live⟩)
    (done : m.allocate bytes = .ok (address, m')) :
    Ledger.Sound size ⟨m', ⟨address, bytes⟩ :: live⟩ := by
  have called := sound.call (.allocate bytes)
  simp only [Ledger.call, done] at called
  exact called

/-- What is given back is gone, and nothing else is. -/
theorem sound_release (sound : Ledger.Sound size ⟨m, live⟩) (address : Nat) :
    ∃ live', Ledger.Sound size ⟨m.release address, live'⟩ ∧
      ∀ g ∈ live, g.address ≠ address → g ∈ live' := by
  have called := sound.call (.free address)
  simp only [Ledger.call] at called
  rw [Memory.release]
  cases answer : m.free address with
  | error e => exact ⟨live, sound, fun g member _ => member⟩
  | ok m' =>
    simp only [answer] at called
    exact ⟨_, called, fun g member ne => List.mem_filter.mpr ⟨member, decide_eq_true ne⟩⟩

namespace Housed

theorem empty (fresh : m.Fresh size) : empty.Housed size m [] := by
  have vacant (i : Nat) : Registry.empty.recordAt i = none := by
    rw [recordAt, process?_eq_none (Nat.zero_le i)]
    rfl
  refine ⟨wellformed_empty, .create fresh, ?_, ?_⟩
  · intro i record found
    rw [vacant] at found
    cases found
  · intro i j record found
    rw [vacant] at found
    cases found

/-- A process came. Its block is apart from the others, so none of them begins where it does. -/
theorem came {i record : Nat} (h : r.Housed size m live) (wellformed : r'.table.Wellformed)
    (allocated : m.allocate recordSize = .ok (record, m'))
    (records : ∀ j, r'.recordAt j = if i = j then some record else r.recordAt j) :
    r'.Housed size m' (⟨record, recordSize⟩ :: live) := by
  have sound := sound_allocate h.sound allocated
  have new : ∀ j, r.recordAt j ≠ some record := by
    intro j found
    have apart := (List.pairwise_cons.mp sound.promise.apart).1 _ (h.granted j record found)
    rcases apart with below | above
    · exact absurd below (by simp [recordSize, stackSize])
    · exact absurd above (by simp [recordSize, stackSize])
  refine ⟨wellformed, sound, ?_, ?_⟩
  · intro j record' found
    rw [records] at found
    split at found
    · cases found
      exact List.mem_cons_self
    · exact List.mem_cons_of_mem _ (h.granted j record' found)
  · intro j k record' found found'
    rw [records] at found found'
    split at found
    · rename_i here
      split at found'
      · rename_i here'
        exact here.symm.trans here'
      · cases found
        exact absurd found' (new k)
    · split at found'
      · cases found'
        exact absurd found (new j)
      · exact h.alone j k record' found found'

/-- A process went, and its block was given back. -/
theorem left {i record : Nat} (h : r.Housed size m live) (wellformed : r'.table.Wellformed)
    (found : r.recordAt i = some record)
    (records : ∀ j, r'.recordAt j = if i = j then none else r.recordAt j) :
    ∃ live', r'.Housed size (m.release record) live' := by
  obtain ⟨live', sound, kept⟩ := sound_release h.sound record
  have others : ∀ j record', r'.recordAt j = some record' →
      i ≠ j ∧ r.recordAt j = some record' := by
    intro j record' found'
    rw [records] at found'
    split at found'
    · cases found'
    · rename_i ne
      exact ⟨ne, found'⟩
  refine ⟨live', wellformed, sound, ?_, ?_⟩
  · intro j record' found'
    obtain ⟨ne, old⟩ := others j record' found'
    refine kept _ (h.granted j record' old) ?_
    rintro rfl
    exact ne (h.alone i j _ found old)
  · intro j k record' found' found''
    exact h.alone j k record' (others j record' found').2 (others k record' found'').2

theorem rehoused (h : r.Housed size m live) (wellformed : r'.table.Wellformed)
    (rehoused : r.Rehoused m r' m') : ∃ live', r'.Housed size m' live' := by
  cases rehoused with
  | steady same memory =>
    subst memory
    refine ⟨live, wellformed, h.sound, ?_, ?_⟩
    · intro i record
      rw [same]
      exact h.granted i record
    · intro i j record
      rw [same, same]
      exact h.alone i j record
  | came allocated _ records => exact ⟨_, h.came wellformed allocated records⟩
  | left found memory records =>
    subst memory
    exact h.left wellformed found records

theorem use {s : Registry × Memory} (h : s.1.Housed size s.2 live) (u : Use) :
    ∃ live', (use s u).1.Housed size (use s u).2 live' := by
  obtain ⟨r, m⟩ := s
  cases u with
  | asked call =>
    exact h.rehoused ((effect_perform h.wellformed _).wellformed h.wellformed)
      (rehoused_perform h.wellformed m call.2)
  | taken bytes =>
    simp only [Registry.use]
    cases done : m.allocate bytes with
    | error e => exact ⟨live, h⟩
    | ok result =>
      refine ⟨_, h.wellformed, sound_allocate h.sound done, ?_, h.alone⟩
      exact fun i record found => List.mem_cons_of_mem _ (h.granted i record found)
  | returned address =>
    simp only [Registry.use]
    split
    · exact ⟨live, h⟩
    · rename_i foreign
      obtain ⟨live', sound, kept⟩ := sound_release h.sound address
      refine ⟨live', h.wellformed, sound, ?_, h.alone⟩
      intro i record found
      refine kept _ (h.granted i record found) ?_
      rintro rfl
      exact foreign (mem_records.mpr ⟨i, found⟩)

theorem uses {s : Registry × Memory} (h : s.1.Housed size s.2 live) (us : List Use) :
    ∃ live', (us.foldl Registry.use s).1.Housed size (us.foldl Registry.use s).2 live' := by
  induction us generalizing s live with
  | nil => exact ⟨live, h⟩
  | cons u us ih =>
    obtain ⟨live', h'⟩ := h.use u
    exact ih h'

variable {i j : Nat} {p q : Process}

theorem inside (h : r.Housed size m live) (found : r.table.process? i = some p) :
    p.block.Within ⟨0, size⟩ := by
  have granted := h.granted i p.record (congrArg (Option.map Process.record) found)
  refine ⟨Nat.zero_le _, ?_⟩
  rw [Nat.zero_add]
  exact h.sound.promise.inside _ granted

theorem apart (h : r.Housed size m live) (found : r.table.process? i = some p)
    (found' : r.table.process? j = some q) (ne : i ≠ j) : p.block.Apart q.block := by
  have recorded : r.recordAt i = some p.record := congrArg (Option.map Process.record) found
  have recorded' : r.recordAt j = some q.record := congrArg (Option.map Process.record) found'
  refine h.sound.promise.apart.forall (h.granted i _ recorded) (h.granted j _ recorded') ?_
  intro same
  have same : p.record = q.record := congrArg Grant.address same
  exact ne (h.alone i j _ recorded (same ▸ recorded'))

end Housed

/-- Where the stacks of all processes are. -/
structure Stacks (size : Nat) (r : Registry) : Prop where
  /-- The blocks of the records lie in the memory, and no two of them share a byte. -/
  inside : ∀ i p, r.table.process? i = some p → p.block.Within ⟨0, size⟩
  apart : ∀ i j p q, r.table.process? i = some p → r.table.process? j = some q → i ≠ j →
    p.block.Apart q.block
  /-- The stack begins where the record does, but for what is cut off the address. -/
  base : ∀ i p, r.table.process? i = some p → p.stackBase.toNat = p.record % 2 ^ 32
  /-- Exactly the processes whose stacks end below 2 ^ 32 have them where they should be. -/
  own : ∀ i p, r.table.process? i = some p → (p.OwnStack ↔ p.record + stackSize ≤ 2 ^ 32)
  /-- Stacks that are where they should be do not overlap. -/
  disjoint : ∀ i j p q, r.table.process? i = some p → r.table.process? j = some q → i ≠ j →
    p.OwnStack → q.OwnStack → p.stackRange.Apart q.stackRange

theorem Housed.stacks (h : r.Housed size m live) : r.Stacks size where
  inside _ _ := h.inside
  apart _ _ _ _ := h.apart
  base _ p _ := p.stackBase_toNat
  own _ _ _ := Process.ownStack_iff
  disjoint _ _ _ _ found found' ne own own' := (h.apart found found' ne).within own.stack own'.stack

/-- In a memory without addresses above 2 ^ 32 every process has its stack to itself. -/
theorem Stacks.privateStacks (h : r.Stacks size) (low : size ≤ 2 ^ 32) : r.PrivateStacks := by
  have own : ∀ i p, r.table.process? i = some p → p.OwnStack := by
    intro i p found
    have high := (h.inside i p found).2
    rw [h.own i p found]
    simp only [Process.block, recordSize] at high
    omega
  refine ⟨own, fun i j p q found found' ne => ?_⟩
  exact h.disjoint i j p q found found' ne (own i p found) (own j q found')

/-- Whatever is asked of a registry and whoever else uses the memory: the blocks of the records are
apart, a stack is where its record is exactly if it ends below 2 ^ 32, and those that do are apart.
On a heap, and on a bump region of at most 2 ^ 32 bytes, that is every one. -/
theorem stacks_uses {memory : Memory} (fresh : memory.Fresh size) (us : List Use) :
    (us.foldl use (empty, memory)).1.Stacks size ∧
      ((∃ h, memory = .heap h) ∨ size ≤ 2 ^ 32 →
        (us.foldl use (empty, memory)).1.PrivateStacks) := by
  obtain ⟨live, housed⟩ := Housed.uses (s := (empty, memory)) (.empty fresh) us
  refine ⟨housed.stacks, fun bounded => housed.stacks.privateStacks ?_⟩
  rcases bounded with ⟨h, rfl⟩ | low
  · cases fresh with
    | heap created =>
      obtain ⟨-, below, -, -⟩ := Heap.create_eq_ok created
      exact Nat.le_of_lt below
  · exact low

/-- Two processes, with a block between their records that ends at 2 ^ 32. -/
def farApart : List Use :=
  [.asked ⟨_, .create (.bump (.create 0)) "first" .user 1⟩, .taken (2 ^ 32 - recordSize),
    .asked ⟨_, .create (.bump (.create 0)) "second" .user 1⟩]

theorem stacks_uses_farApart :
    (farApart.foldl use (empty, .bump (.create (2 ^ 33)))).1.table.count = 2 ∧
      (farApart.foldl use (empty, .bump (.create (2 ^ 33)))).1.Stacks (2 ^ 33) ∧
      ∃ h, Heap.create 4096 = .ok h ∧ (farApart.foldl use (empty, .heap h)).1.PrivateStacks := by
  obtain ⟨h, created, -, -⟩ := Heap.create_ok (show overhead < 4096 by decide) (by decide)
  exact ⟨by decide +kernel, (stacks_uses .bump farApart).1, h, created,
    (stacks_uses (.heap created) farApart).2 (Or.inl ⟨h, rfl⟩)⟩

/-- In a bump region of 2 ^ 33 bytes the stack of the second process has the addresses of the first
one's. -/
theorem stacks_farApart_overlap :
    (farApart.foldl use (empty, .bump (.create (2 ^ 33)))).1.table.entries.map
        (fun (i, p) => (i, p.record, p.stackRange)) =
      [(0, 0, ⟨0, stackSize⟩), (1, 2 ^ 32, ⟨0, stackSize⟩)] ∧
    ¬ ∀ (size : Nat) (memory : Memory), memory.Fresh size → ∀ us : List Use,
      (us.foldl use (empty, memory)).1.PrivateStacks := by
  have shown : (farApart.foldl use (empty, .bump (.create (2 ^ 33)))).1.table.entries.map
        (fun (i, p) => (i, p.record, p.stackRange)) =
      [(0, 0, ⟨0, stackSize⟩), (1, 2 ^ 32, ⟨0, stackSize⟩)] := by decide +kernel
  refine ⟨shown, fun claimed => ?_⟩
  have last : (1, 2 ^ 32, ⟨0, stackSize⟩) ∈
      (farApart.foldl use (empty, .bump (.create (2 ^ 33)))).1.table.entries.map
        (fun (i, p) => (i, p.record, p.stackRange)) := by
    rw [shown]
    exact List.mem_cons_of_mem _ List.mem_cons_self
  obtain ⟨⟨i, p⟩, entry, second⟩ := List.mem_map.mp last
  obtain ⟨-, second⟩ := Prod.mk.inj second
  obtain ⟨record, range⟩ := Prod.mk.inj second
  have base := ((claimed (2 ^ 33) _ .bump farApart).own i p (mem_entries.mp entry)).base
  have zero : p.stackBase.toNat = 0 := congrArg Grant.address range
  rw [zero, record] at base
  cases base

end Registry

end TrapKernel
