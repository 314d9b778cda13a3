import TrapKernel.Proofs.Memory.InPlace
import TrapKernel.Proofs.Memory.Verify

/-!
# What a memory promises

A `Ledger` follows the calls of a memory and remembers what was handed out and not taken back. The
memory itself only has its tags and links, or the end of what it handed out; that they agree with
the history is the invariant `Backs` of a heap and `Covers` of a bump region.
-/

namespace TrapKernel

/-- What a call of `allocate` handed out: where, and how much was asked for. -/
structure Grant where
  address : Nat
  bytes : Nat
  deriving DecidableEq, Repr

/-- The two ranges have no byte in common. -/
def Grant.Apart (g g' : Grant) : Prop :=
  g.address + g.bytes ≤ g'.address ∨ g'.address + g'.bytes ≤ g.address

/-- Taking back what is at one address leaves what is at the other ones. -/
theorem Grant.perm_filter {live : List Grant} {address : Nat} {rest : List Nat}
    (granted : (live.map (·.address)).Perm (address :: rest)) (nodup : (address :: rest).Nodup) :
    ((live.filter (·.address ≠ address)).map (·.address)).Perm rest := by
  have kept : (live.filter (·.address ≠ address)).map (·.address) =
      (live.map (·.address)).erase address := by
    rw [(granted.nodup_iff.mpr nodup).erase_eq_filter, List.filter_map]
    congr 2
    funext g
    exact decide_not
  have erased := granted.erase address
  rw [List.erase_cons_head] at erased
  rw [kept]
  exact erased

/-- A memory and what it handed out and did not take back. -/
structure Ledger where
  memory : Memory
  live : List Grant

namespace Ledger

/-- The ledger after a call. A refused call leaves it as it is. -/
def call (s : Ledger) : MemoryCall → Ledger
  | .allocate bytes =>
    match s.memory.allocate bytes with
    | .ok (address, memory) => ⟨memory, ⟨address, bytes⟩ :: s.live⟩
    | .error _ => s
  | .free address =>
    match s.memory.free address with
    | .ok memory => ⟨memory, s.live.filter (·.address ≠ address)⟩
    | .error _ => s

end Ledger

/-- The memory was just created, over `size` bytes. -/
inductive Memory.Fresh (size : Nat) : Memory → Prop where
  | heap {h : Heap} (created : Heap.create size = .ok h) : Fresh size (.heap h)
  | bump : Fresh size (.bump (.create size))

namespace Heap

variable {h : Heap} {blocks : List Block}

theorem LaidOut.showAllocated_eq (hl : h.LaidOut blocks) :
    h.showAllocated = (inUse blocks).map Block.info := hl.indexed.blocks_eq .allocated

theorem LaidOut.addresses_eq (hl : h.LaidOut blocks) :
    h.showAllocated.map (·.address) = (inUse blocks).map Block.address := by
  rw [hl.showAllocated_eq, List.map_map]
  rfl

theorem LaidOut.nodup_addresses (hl : h.LaidOut blocks) :
    ((inUse blocks).map Block.address).Nodup := by
  have sorted := hl.tiled.ascending.sublist (List.filter_sublist : (inUse blocks).Sublist blocks)
  apply List.pairwise_map.mpr
  apply sorted.imp
  intro b c above same
  have lower := Ascending.offset_lt above
  simp only [Block.address] at same
  omega

/-- Exactly the address of a block in use can be taken back. -/
theorem LaidOut.free_iff (hl : h.LaidOut blocks) (address : Nat) :
    (∃ h', h.free address = .ok h') ↔ ∃ b ∈ inUse blocks, b.address = address := by
  rcases hl.free_cases address with ⟨unknown, refused⟩ |
    ⟨below, b, above, h', rfl, allocated, rfl, done, -, -, -⟩
  · constructor
    · rintro ⟨h', done⟩
      rw [refused] at done
      cases done
    · rintro ⟨b, member, same⟩
      exact absurd same (unknown b member)
  · constructor
    · intro
      exact ⟨b, mem_inUse.mpr ⟨by simp, allocated⟩, rfl⟩
    · intro
      exact ⟨h', done⟩

/-- The block that is taken back is in use no more, and every other one still is. -/
theorem LaidOut.freed {address : Nat} {h' : Heap} (hl : h.LaidOut blocks)
    (done : h.free address = .ok h') :
    ∃ blocks', h'.LaidOut blocks' ∧ h'.capacity = h.capacity ∧
      inUse blocks' = (inUse blocks).filter (·.address ≠ address) := by
  rcases hl.free_cases address with ⟨-, refused⟩ |
    ⟨below, b, above, h'', rfl, allocated, rfl, done', laidOut, capacity, -⟩
  · rw [refused] at done
    cases done
  · rw [done'] at done
    cases done
    refine ⟨_, laidOut, capacity, ?_⟩
    have nodup := hl.nodup_addresses
    rw [inUse_append, inUse_cons, if_pos allocated, List.map_append, List.map_cons] at nodup
    have alone := (List.nodup_middle.mp nodup).notMem
    rw [← List.map_append] at alone
    have others : ∀ c ∈ inUse below ++ inUse above, c.address ≠ b.address :=
      fun c member same => alone (same ▸ List.mem_map_of_mem member)
    have kept : (inUse below ++ inUse above).filter (·.address ≠ b.address) =
        inUse below ++ inUse above :=
      List.filter_eq_self.mpr fun c member => decide_eq_true (others c member)
    rw [inUse_released, inUse_append, inUse_append, inUse_cons, if_pos allocated,
      List.filter_append, List.filter_cons_of_neg (by simp), ← List.filter_append, kept]

/-- The heap has a block for everything that was handed out, and no other block in use. -/
structure Backs (h : Heap) (blocks : List Block) (live : List Grant) : Prop where
  laidOut : h.LaidOut blocks
  granted : (live.map (·.address)).Perm ((inUse blocks).map Block.address)
  room : ∀ g ∈ live, ∃ b ∈ inUse blocks, b.address = g.address ∧ g.bytes ≤ b.size

namespace Backs

variable {live : List Grant}

theorem nodup (hb : h.Backs blocks live) : (live.map (·.address)).Nodup :=
  hb.granted.nodup_iff.mpr hb.laidOut.nodup_addresses

theorem mem_iff (hb : h.Backs blocks live) {address : Nat} :
    address ∈ live.map (·.address) ↔ ∃ b ∈ inUse blocks, b.address = address := by
  rw [hb.granted.mem_iff, List.mem_map]

theorem inside (hb : h.Backs blocks live) {g : Grant} (hg : g ∈ live) :
    g.address + g.bytes ≤ h.capacity := by
  obtain ⟨b, member, address, enough⟩ := hb.room g hg
  have top := hb.laidOut.inside (inUse_subset _ member)
  simp only [Block.endAt, Block.address, overhead] at top address
  omega

theorem apart (hb : h.Backs blocks live) : live.Pairwise Grant.Apart := by
  have distinct := List.pairwise_map.mp hb.nodup
  refine distinct.imp_of_mem ?_
  intro g g' hg hg' ne
  obtain ⟨b, memB, atB, roomB⟩ := hb.room g hg
  obtain ⟨c, memC, atC, roomC⟩ := hb.room g' hg'
  have ascending := hb.laidOut.tiled.ascending
  rcases ascending.apart (inUse_subset _ memB) (inUse_subset _ memC) with rfl | above | above
  · exact absurd (atB.symm.trans atC) ne
  · left
    simp only [Block.endAt, Block.address, overhead] at above atB atC
    omega
  · right
    simp only [Block.endAt, Block.address, overhead] at above atB atC
    omega

theorem allocate {address bytes : Nat} {h' : Heap} (hb : h.Backs blocks live)
    (done : h.allocate bytes = .ok (address, h')) :
    ∃ blocks', h'.Backs blocks' (⟨address, bytes⟩ :: live) ∧ h'.capacity = h.capacity := by
  rcases hb.laidOut.allocate_cases bytes with ⟨-, refused⟩ | ⟨-, -, refused⟩ |
    ⟨below, b, above, h'', rfl, -, fits, -, done', laidOut, capacity, -⟩
  · rw [refused] at done
    cases done
  · rw [refused] at done
    cases done
  · rw [done'] at done
    cases done
    obtain ⟨size, enough, split⟩ := b.inUse_split bytes
    have before : inUse (below ++ b :: above) = inUse below ++ inUse above := by
      rw [inUse_append, inUse_cons, if_neg]
      rw [fits.1]
      nofun
    have after : inUse (below ++ (b.split bytes ++ above)) =
        inUse below ++ ⟨b.offset, .allocated, size⟩ :: inUse above := by
      rw [inUse_append, inUse_append, split]
      rfl
    refine ⟨_, ⟨laidOut, ?_, ?_⟩, capacity⟩
    · have granted := hb.granted
      rw [before, List.map_append] at granted
      rw [after, List.map_cons, List.map_append, List.map_cons]
      exact (granted.cons _).trans List.perm_middle.symm
    · intro g hg
      rw [after]
      rcases List.mem_cons.mp hg with rfl | hg
      · exact ⟨⟨b.offset, .allocated, size⟩, by simp, rfl, enough⟩
      · obtain ⟨c, memC, room⟩ := hb.room g hg
        rw [before, List.mem_append] at memC
        refine ⟨c, ?_, room⟩
        rw [List.mem_append, List.mem_cons]
        exact memC.imp_right Or.inr

theorem free {address : Nat} {h' : Heap} (hb : h.Backs blocks live)
    (done : h.free address = .ok h') :
    ∃ blocks', h'.Backs blocks' (live.filter (·.address ≠ address)) ∧ h'.capacity = h.capacity := by
  obtain ⟨blocks', laidOut, capacity, left⟩ := hb.laidOut.freed done
  refine ⟨blocks', ⟨laidOut, ?_, ?_⟩, capacity⟩
  · have granted := hb.granted.filter (· ≠ address)
    rw [List.filter_map, List.filter_map] at granted
    rw [left]
    exact granted
  · intro g hg
    obtain ⟨hg, ne⟩ := List.mem_filter.mp hg
    obtain ⟨c, memC, atC, room⟩ := hb.room g hg
    refine ⟨c, ?_, atC, room⟩
    rw [left]
    refine List.mem_filter.mpr ⟨memC, ?_⟩
    rw [atC]
    exact ne

/-- Exactly what was handed out and not taken back can be taken back. -/
theorem free_iff (hb : h.Backs blocks live) (address : Nat) :
    (∃ h', h.free address = .ok h') ↔ address ∈ live.map (·.address) := by
  rw [hb.mem_iff]
  exact hb.laidOut.free_iff address

end Backs

/-- A call leaves the payload of every block in use alone, but for the one that it takes back. -/
theorem LaidOut.keeps (hl : h.LaidOut blocks) {call : MemoryCall} {b : Block}
    (hb : b ∈ inUse blocks) (other : call ≠ .free b.address) {i : Nat} (low : b.address ≤ i)
    (high : i < b.trailerAt) :
    (h.call call).region.byte i = h.region.byte i := by
  obtain ⟨member, allocated⟩ := mem_inUse.mp hb
  rw [Heap.call]
  cases call with
  | allocate bytes =>
    rcases hl.allocate_cases bytes with ⟨-, refused⟩ | ⟨-, -, refused⟩ |
      ⟨below, c, above, h', rfl, -, fits, -, done, -, -, keeps⟩
    · rw [Heap.answer, refused]
      rfl
    · rw [Heap.answer, refused]
      rfl
    · have elsewhere : b ∈ below ++ above := by
        rw [List.mem_append, List.mem_cons] at member
        rw [List.mem_append]
        refine member.imp_right fun rest => rest.resolve_left ?_
        rintro rfl
        rw [fits.1] at allocated
        cases allocated
      rw [Heap.answer, done]
      exact keeps b elsewhere i low high
  | free address =>
    rcases hl.free_cases address with ⟨-, refused⟩ |
      ⟨below, c, above, h', rfl, -, rfl, done, -, -, keeps⟩
    · rw [Heap.answer, refused]
    · have elsewhere : b ∈ inUse (below ++ above) := by
        rw [List.mem_append, List.mem_cons] at member
        rw [mem_inUse, List.mem_append]
        refine ⟨member.imp_right fun rest => rest.resolve_left ?_, allocated⟩
        rintro rfl
        exact other rfl
      rw [Heap.answer, done]
      exact keeps b elsewhere i low high

end Heap

namespace Bump

/-- Everything that was handed out lies below the end of what was handed out, one beside the
other. -/
structure Covers (m : Bump) (live : List Grant) : Prop where
  within : m.used ≤ m.capacity
  below : ∀ g ∈ live, g.address + g.bytes ≤ m.used
  apart : live.Pairwise Grant.Apart

theorem Covers.allocate {m m' : Bump} {live : List Grant} {address bytes : Nat}
    (hc : m.Covers live) (done : m.allocate bytes = .ok (address, m')) :
    m'.Covers (⟨address, bytes⟩ :: live) ∧ m'.capacity = m.capacity := by
  unfold Bump.allocate at done
  split at done
  · cases done
  · split at done
    · rename_i fits
      cases done
      refine ⟨⟨fits, ?_, ?_⟩, rfl⟩
      · intro g hg
        rcases List.mem_cons.mp hg with rfl | hg
        · exact Nat.le_refl _
        · exact Nat.le_trans (hc.below g hg) (Nat.le_add_right ..)
      · refine List.pairwise_cons.mpr ⟨?_, hc.apart⟩
        intro g hg
        exact Or.inr (hc.below g hg)
    · cases done

end Bump

namespace Ledger

variable {size : Nat} {s : Ledger}

/-- What holds of a ledger after every sequence of calls. -/
inductive Sound (size : Nat) : Ledger → Prop where
  | heap {h : Heap} {blocks : List Block} {live : List Grant} (backs : h.Backs blocks live)
    (capacity : h.capacity = size) : Sound size ⟨.heap h, live⟩
  | bump {m : Bump} {live : List Grant} (covers : m.Covers live) (capacity : m.capacity = size) :
    Sound size ⟨.bump m, live⟩

theorem Sound.create {m : Memory} (fresh : m.Fresh size) : Sound size ⟨m, []⟩ := by
  cases fresh with
  | heap created =>
    obtain ⟨-, -, laidOut, capacity⟩ := Heap.create_eq_ok created
    exact .heap ⟨laidOut, List.Perm.nil, nofun⟩ capacity
  | bump => exact .bump ⟨Nat.zero_le _, nofun, List.Pairwise.nil⟩ rfl

theorem Sound.call (hs : Sound size s) (call : MemoryCall) : Sound size (s.call call) := by
  cases hs with
  | heap backs capacity =>
    rename_i h blocks live
    cases call with
    | allocate bytes =>
      cases answer : h.allocate bytes with
      | error e =>
        simp only [Ledger.call, Memory.allocate, answer, bind, Except.bind]
        exact .heap backs capacity
      | ok done =>
        obtain ⟨blocks', backs', same⟩ := backs.allocate answer
        simp only [Ledger.call, Memory.allocate, answer, bind, Except.bind, pure, Except.pure]
        exact .heap backs' (same.trans capacity)
    | free address =>
      cases answer : h.free address with
      | error e =>
        simp only [Ledger.call, Memory.free, answer, Functor.map, Except.map]
        exact .heap backs capacity
      | ok h' =>
        obtain ⟨blocks', backs', same⟩ := backs.free answer
        simp only [Ledger.call, Memory.free, answer, Functor.map, Except.map]
        exact .heap backs' (same.trans capacity)
  | bump covers capacity =>
    rename_i m live
    cases call with
    | allocate bytes =>
      cases answer : m.allocate bytes with
      | error e =>
        simp only [Ledger.call, Memory.allocate, answer, bind, Except.bind]
        exact .bump covers capacity
      | ok done =>
        obtain ⟨covers', same⟩ := covers.allocate answer
        simp only [Ledger.call, Memory.allocate, answer, bind, Except.bind, pure, Except.pure]
        exact .bump covers' (same.trans capacity)
    | free address => exact .bump covers capacity

theorem Sound.calls (hs : Sound size s) (calls : List MemoryCall) :
    Sound size (calls.foldl Ledger.call s) := by
  induction calls generalizing s with
  | nil => exact hs
  | cons call calls ih => exact ih (hs.call call)

/-- What the history of its calls says about a memory. -/
structure Promise (size : Nat) (s : Ledger) : Prop where
  /-- Live ranges share no byte. -/
  apart : s.live.Pairwise Grant.Apart
  inside : ∀ g ∈ s.live, g.address + g.bytes ≤ size
  /-- A heap shows what is live and nothing else, each with at least the bytes asked for. -/
  shown : ∀ h, s.memory = .heap h →
    (s.live.map (·.address)).Perm (h.showAllocated.map (·.address)) ∧
      ∀ g ∈ s.live, ∃ b ∈ h.showAllocated, b.address = g.address ∧ g.bytes ≤ b.size
  /-- What is live in a heap can be taken back, and nothing else. -/
  freed : ∀ address, (∃ m, s.memory.free address = .ok m) ↔
    (∃ h, s.memory = .heap h) ∧ address ∈ s.live.map (·.address)
  refused : ∀ address e, s.memory.free address = .error e →
    s.call (.free address) = s ∧ s.memory.freeing address = (.error e, s.memory) ∧
      e = match s.memory with
        | .heap _ => .invalidAddress address
        | .bump _ => .freeUnsupported
  /-- What runs in place, tag by tag, does the same. -/
  settles : s.memory.Settles
  /-- The bytes of what is live change by no call, but for the one that takes it back. -/
  kept : ∀ h h' call, s.memory = .heap h → (s.call call).memory = .heap h' →
    ∀ b ∈ h.showAllocated, call ≠ .free b.address →
      ∀ i, b.address ≤ i → i < b.address + b.size → h'.region.byte i = h.region.byte i

theorem memory_call_heap (h : Heap) (live : List Grant) (call : MemoryCall) :
    (Ledger.call ⟨.heap h, live⟩ call).memory = .heap (h.call call) := by
  cases call with
  | allocate bytes =>
    cases answer : h.allocate bytes <;>
      simp only [Ledger.call, Heap.call, Heap.answer, Memory.allocate, answer, bind, Except.bind,
        pure, Except.pure, Functor.map, Except.map]
  | free address =>
    cases answer : h.free address <;>
      simp only [Ledger.call, Heap.call, Heap.answer, Memory.free, answer, Functor.map, Except.map]

theorem memory_calls_heap (h : Heap) (live : List Grant) (calls : List MemoryCall) :
    (calls.foldl Ledger.call ⟨.heap h, live⟩).memory = .heap (calls.foldl Heap.call h) := by
  induction calls generalizing h live with
  | nil => rfl
  | cons call calls ih =>
    have after := memory_call_heap h live call
    rcases next : Ledger.call ⟨.heap h, live⟩ call with ⟨memory, live'⟩
    rw [next] at after
    obtain rfl : memory = .heap (h.call call) := after
    rw [List.foldl_cons, List.foldl_cons, next]
    exact ih _ _

/-- The blocks of a heap of which `calls` were asked are those that its ledger knows as live. -/
theorem backs_calls {h : Heap} (created : Heap.create size = .ok h) (calls : List MemoryCall) :
    ∃ blocks, (calls.foldl Heap.call h).Backs blocks (calls.foldl Ledger.call ⟨.heap h, []⟩).live ∧
      (calls.foldl Heap.call h).capacity = size := by
  have sound := (Sound.create (.heap created)).calls calls
  have memory := memory_calls_heap h [] calls
  generalize calls.foldl Ledger.call ⟨.heap h, []⟩ = s at sound memory ⊢
  cases sound with
  | heap backs capacity =>
    obtain rfl := Memory.heap.inj memory
    exact ⟨_, backs, capacity⟩
  | bump => cases memory

theorem promise_heap {h : Heap} {blocks : List Block} {live : List Grant}
    (backs : h.Backs blocks live) (capacity : h.capacity = size) :
    Promise size ⟨.heap h, live⟩ := by
  have laidOut := backs.laidOut
  have settles := Memory.settles_heap laidOut
  refine ⟨backs.apart, ?_, ?_, ?_, ?_, settles, ?_⟩
  · intro g hg
    rw [← capacity]
    exact backs.inside hg
  · intro h' same
    cases same
    rw [laidOut.addresses_eq]
    refine ⟨backs.granted, ?_⟩
    intro g hg
    obtain ⟨b, member, address, enough⟩ := backs.room g hg
    rw [laidOut.showAllocated_eq]
    exact ⟨b.info, List.mem_map_of_mem member, address, enough⟩
  · intro address
    rw [← backs.free_iff address]
    constructor
    · rintro ⟨m, done⟩
      refine ⟨⟨h, rfl⟩, ?_⟩
      cases answer : h.free address with
      | error e =>
        rw [Memory.free, answer] at done
        cases done
      | ok h' => exact ⟨h', rfl⟩
    · rintro ⟨-, h', done⟩
      refine ⟨.heap h', ?_⟩
      rw [Memory.free, done]
      rfl
  · intro address e refused
    refine ⟨by simp only [Ledger.call, refused], settles.freeing_refused refused, ?_⟩
    rcases laidOut.free_cases address with ⟨-, answer⟩ |
      ⟨below, b, above, h', -, -, -, answer, -, -, -⟩
    · rw [Memory.free, answer] at refused
      cases refused
      rfl
    · rw [Memory.free, answer] at refused
      cases refused
  · intro h' h'' call same after b shown other i low high
    cases same
    rw [memory_call_heap] at after
    cases after
    rw [laidOut.showAllocated_eq] at shown
    obtain ⟨b, member, rfl⟩ := List.mem_map.mp shown
    exact laidOut.keeps member other low high

theorem promise_bump {m : Bump} {live : List Grant} (covers : m.Covers live)
    (capacity : m.capacity = size) : Promise size ⟨.bump m, live⟩ := by
  refine ⟨covers.apart, ?_, nofun, ?_, ?_, Memory.settles_bump m, nofun⟩
  · intro g hg
    rw [← capacity]
    exact Nat.le_trans (covers.below g hg) covers.within
  · intro address
    constructor
    · rintro ⟨m', done⟩
      cases done
    · rintro ⟨⟨h, same⟩, -⟩
      cases same
  · intro address e refused
    cases refused
    exact ⟨rfl, rfl, rfl⟩

theorem Sound.promise (hs : Sound size s) : s.Promise size := by
  cases hs with
  | heap backs capacity => exact promise_heap backs capacity
  | bump covers capacity => exact promise_bump covers capacity

/-- Whatever was asked of a memory since it was created, it keeps its promise. -/
theorem promise_calls {m : Memory} (fresh : m.Fresh size) (calls : List MemoryCall) :
    (calls.foldl Ledger.call ⟨m, []⟩).Promise size :=
  ((Sound.create fresh).calls calls).promise

/-- Of two blocks the first is taken back, and only once; a bump region refuses what does not fit
and takes nothing back. -/
theorem promise_calls_hundred :
    (∃ h s, Heap.create 100 = .ok h ∧
      [.allocate 8, .allocate 8, .free 20, .free 20].foldl Ledger.call ⟨.heap h, []⟩ = s ∧
      s.Promise 100 ∧ s.live = [⟨56, 8⟩]) ∧
    ∃ s, [.allocate 60, .allocate 60, .free 0].foldl Ledger.call ⟨.bump (.create 100), []⟩ = s ∧
      s.Promise 100 ∧ s.live = [⟨0, 60⟩] := by
  have ends : (Heap.create 100).toOption.any fun h =>
      ([.allocate 8, .allocate 8, .free 20, .free 20].foldl Ledger.call ⟨.heap h, []⟩).live =
        [⟨56, 8⟩] := by decide +kernel
  obtain ⟨h, created, seen⟩ := ok_of_any ends
  refine ⟨⟨h, _, created, rfl, promise_calls (.heap created) _, of_decide_eq_true seen⟩, ?_⟩
  exact ⟨_, rfl, promise_calls .bump _, by decide⟩

end Ledger

end TrapKernel
