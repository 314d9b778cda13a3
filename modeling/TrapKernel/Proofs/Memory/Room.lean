import Mathlib.Order.MinMax
import TrapKernel.Proofs.Memory.Ledger

/-!
# How much room there is

A memory that refuses a request names the largest one that it would grant. A heap finds that number
on a walk of its own over the free blocks, apart from the search for a block that fits; a bump
region has it left at its end. In both the number is exact: a request is granted as long as it asks
for no more, and a refusal changes nothing, so what it names is there for the next request.
-/

namespace TrapKernel

theorem le_foldl_max (n : Nat) (sizes : List Nat) (start : Nat) :
    n ≤ sizes.foldl max start ↔ n ≤ start ∨ ∃ size ∈ sizes, n ≤ size := by
  induction sizes generalizing start with
  | nil => simp
  | cons size sizes ih =>
    rw [List.foldl_cons, ih, le_max_iff, List.exists_mem_cons_iff, or_assoc]

namespace Heap.LaidOut

variable {h : Heap} {blocks : List Block} {bytes : Nat}

/-- The walk over the free blocks and the search agree: the largest free block is large enough
exactly if some block is. -/
theorem le_largestFree_iff (hl : h.LaidOut blocks) (pos : 0 < bytes) :
    bytes ≤ h.largestFree ↔ ∃ b ∈ blocks, b.Fits bytes := by
  have walked : h.showFree = (blocks.filter (·.kind = .free)).map Block.info :=
    hl.indexed.blocks_eq .free
  rw [largestFree, le_foldl_max, walked, List.map_map]
  constructor
  · rintro (none | ⟨size, found, le⟩)
    · exact absurd pos (Nat.not_lt.mpr none)
    · obtain ⟨b, listed, rfl⟩ := List.mem_map.mp found
      obtain ⟨member, free⟩ := List.mem_filter.mp listed
      have le : bytes ≤ b.size - overhead := le
      exact ⟨b, member, of_decide_eq_true free, by omega⟩
  · rintro ⟨b, member, free, enough⟩
    right
    refine ⟨b.size - overhead, List.mem_map.mpr ⟨b, ?_, rfl⟩, Nat.le_sub_of_add_le enough⟩
    exact List.mem_filter.mpr ⟨member, decide_eq_true free⟩

theorem allocate_within (hl : h.LaidOut blocks) (pos : 0 < bytes) (le : bytes ≤ h.largestFree) :
    ∃ done, h.allocate bytes = .ok done := by
  rcases hl.allocate_cases bytes with ⟨zero, -⟩ | ⟨-, none, -⟩ |
    ⟨below, b, above, h', -, -, -, -, done, -, -, -⟩
  · exact absurd zero (Nat.ne_of_gt pos)
  · obtain ⟨b, member, fits⟩ := (hl.le_largestFree_iff pos).mp le
    exact absurd fits (none b member)
  · exact ⟨_, done⟩

theorem allocate_beyond (hl : h.LaidOut blocks) (gt : h.largestFree < bytes) :
    h.allocate bytes = .error (.outOfMemory bytes h.largestFree) := by
  have pos : 0 < bytes := Nat.zero_lt_of_lt gt
  refine hl.allocate_refused (Nat.ne_of_gt pos) fun b member fits => ?_
  exact Nat.not_lt.mpr ((hl.le_largestFree_iff pos).mpr ⟨b, member, fits⟩) gt

end Heap.LaidOut

namespace Bump

variable {m : Bump} {bytes : Nat}

theorem allocate_within (pos : 0 < bytes) (le : bytes ≤ m.capacity - m.used) :
    ∃ done, m.allocate bytes = .ok done := by
  rw [allocate, if_neg (Nat.ne_of_gt pos), if_pos (by omega)]
  exact ⟨_, rfl⟩

theorem allocate_beyond (gt : m.capacity - m.used < bytes) :
    m.allocate bytes = .error (.outOfMemory bytes (m.capacity - m.used)) := by
  rw [allocate, if_neg (by omega), if_neg (by omega)]

end Bump

namespace Memory

/-- The largest request that would be granted. -/
def largest : Memory → Nat
  | heap h => h.largestFree
  | bump m => m.capacity - m.used

/-- The memory grants every request up to `largest`, and none beyond it. -/
structure Exact (m : Memory) : Prop where
  nothing : m.allocate 0 = .error .zeroSized
  within : ∀ bytes, 0 < bytes → bytes ≤ m.largest → ∃ done, m.allocate bytes = .ok done
  beyond : ∀ bytes, m.largest < bytes → m.allocate bytes = .error (.outOfMemory bytes m.largest)

theorem exact_heap {h : Heap} {blocks : List Block} (hl : h.LaidOut blocks) : (heap h).Exact where
  nothing := rfl
  within bytes pos le := by
    obtain ⟨⟨address, h'⟩, done⟩ := hl.allocate_within pos le
    exact ⟨(address, heap h'), by rw [allocate, done]; rfl⟩
  beyond bytes gt := by
    rw [allocate, hl.allocate_beyond gt]
    rfl

theorem exact_bump (m : Bump) : (bump m).Exact where
  nothing := rfl
  within bytes pos le := by
    obtain ⟨⟨address, m'⟩, done⟩ := Bump.allocate_within pos le
    exact ⟨(address, bump m'), by rw [allocate, done]; rfl⟩
  beyond bytes gt := by
    rw [allocate, Bump.allocate_beyond gt]
    rfl

end Memory

namespace Ledger

variable {s : Ledger} {size : Nat}

/-- What a memory says about the room that it has is true. -/
structure Candid (s : Ledger) : Prop where
  granted : ∀ bytes, 0 < bytes →
    ((∃ done, s.memory.allocate bytes = .ok done) ↔ bytes ≤ s.memory.largest)
  refused : ∀ bytes, s.memory.largest < bytes →
    s.memory.allocate bytes = .error (.outOfMemory bytes s.memory.largest) ∧
      s.call (.allocate bytes) = s ∧
      s.memory.allocating bytes = (.error (.outOfMemory bytes s.memory.largest), s.memory)
  /-- After a refusal a request for the amount that it names is granted, unless that is nothing, and
  no request for more. -/
  named : ∀ bytes requested largest,
    s.memory.allocate bytes = .error (.outOfMemory requested largest) →
      (0 < largest → ∃ done, (s.call (.allocate bytes)).memory.allocate largest = .ok done) ∧
      ∀ more, largest < more →
        ∀ done, (s.call (.allocate bytes)).memory.allocate more ≠ .ok done

/-- A memory that refuses for want of room names the amount up to which it grants requests. -/
theorem named_eq (exact : s.memory.Exact) {bytes requested largest : Nat}
    (refused : s.memory.allocate bytes = .error (.outOfMemory requested largest)) :
    largest = s.memory.largest := by
  rcases Nat.eq_zero_or_pos bytes with rfl | pos
  · rw [exact.nothing] at refused
    cases refused
  · by_cases le : bytes ≤ s.memory.largest
    · obtain ⟨done, granted⟩ := exact.within bytes pos le
      rw [granted] at refused
      cases refused
    · rw [exact.beyond bytes (Nat.lt_of_not_le le)] at refused
      cases refused
      rfl

theorem candid_of_exact (exact : s.memory.Exact) (settles : s.memory.Settles) : s.Candid := by
  have stays : ∀ {bytes e}, s.memory.allocate bytes = .error e → s.call (.allocate bytes) = s := by
    intro bytes e refused
    simp only [call, refused]
  refine ⟨fun bytes pos => ⟨?_, exact.within bytes pos⟩, fun bytes gt => ?_, ?_⟩
  · rintro ⟨done, granted⟩
    by_contra gt
    rw [exact.beyond bytes (Nat.lt_of_not_le gt)] at granted
    cases granted
  · have refused := exact.beyond bytes gt
    exact ⟨refused, stays refused, settles.allocating_refused refused⟩
  · intro bytes requested largest refused
    obtain rfl := named_eq exact refused
    rw [stays refused]
    refine ⟨fun pos => exact.within _ pos (Nat.le_refl _), fun more gt done granted => ?_⟩
    rw [exact.beyond more gt] at granted
    cases granted

theorem Sound.exact (hs : Sound size s) : s.memory.Exact := by
  cases hs with
  | heap backs => exact Memory.exact_heap backs.laidOut
  | bump => exact Memory.exact_bump _

/-- Whatever was asked of a memory since it was created, it tells the truth about its room. -/
theorem candid_calls {m : Memory} (fresh : m.Fresh size) (calls : List MemoryCall) :
    (calls.foldl Ledger.call ⟨m, []⟩).Candid :=
  have sound := (Sound.create fresh).calls calls
  candid_of_exact sound.exact sound.promise.settles

/-- After one small request a heap of 100 bytes has a free block that is just too small for any
other one, and a bump region has 40 bytes left. -/
theorem candid_calls_hundred :
    (∃ h s, Heap.create 100 = .ok h ∧
      [.allocate 16, .allocate 1].foldl Ledger.call ⟨.heap h, []⟩ = s ∧ s.Candid ∧
      s.memory.largest = 0) ∧
    ∃ s, [.allocate 60, .allocate 41].foldl Ledger.call ⟨.bump (.create 100), []⟩ = s ∧ s.Candid ∧
      s.memory.largest = 40 := by
  have ends : (Heap.create 100).toOption.any fun h =>
      ([.allocate 16, .allocate 1].foldl Ledger.call ⟨.heap h, []⟩).memory.largest = 0 := by
    decide +kernel
  obtain ⟨h, created, seen⟩ := ok_of_any ends
  refine ⟨⟨h, _, created, rfl, candid_calls (.heap created) _, of_decide_eq_true seen⟩, ?_⟩
  exact ⟨_, rfl, candid_calls .bump _, by decide⟩

end Ledger

end TrapKernel
