import TrapKernel.Proofs.Memory.FirstFit
import TrapKernel.Proofs.Memory.Gaps

/-!
# What a heap shows, whatever the order of the calls

The blocks in use decide everything that a heap shows. What is handed out and taken back at once
leaves no trace, however a block was split for it, and blocks can be taken back in any order, with
whichever neighbours each of them is joined on the way.
-/

namespace TrapKernel

theorem Block.info_injective : Function.Injective Block.info := by
  rintro ⟨off, kind, size⟩ ⟨off', kind', size'⟩ same
  simp only [info, address, BlockInfo.mk.injEq, Nat.add_right_cancel_iff] at same
  obtain ⟨rfl, rfl, rfl⟩ := same
  rfl

namespace Heap

/-- Both heaps show the same. -/
structure Alike (h h' : Heap) : Prop where
  showAllocated : h'.showAllocated = h.showAllocated
  showFree : h'.showFree = h.showFree
  freeBytes : h'.freeBytes = h.freeBytes
  largestFree : h'.largestFree = h.largestFree
  isEmpty : h'.isEmpty = h.isEmpty

/-- Give back what is at the addresses, one after the other. -/
def freeAll (h : Heap) (addresses : List Nat) : Except MemoryError Heap :=
  addresses.foldlM Heap.free h

variable {h h' : Heap} {blocks blocks' : List Block}

namespace LaidOut

theorem alike (hl : h.LaidOut blocks) (hl' : h'.LaidOut blocks) : h.Alike h' := by
  have shown : ∀ kind, h'.blocks kind = h.blocks kind := by
    intro kind
    rw [hl.indexed.blocks_eq kind, hl'.indexed.blocks_eq kind]
  have free : h'.showFree = h.showFree := shown .free
  have head : h'.head .allocated = h.head .allocated := by
    rw [hl.indexed.head .allocated, hl'.indexed.head .allocated]
  refine ⟨shown .allocated, free, ?_, ?_, congrArg Option.isNone head⟩
  · rw [freeBytes, freeBytes, free]
  · rw [largestFree, largestFree, free]

theorem alike_of_inUse (hl : h.LaidOut blocks) (hl' : h'.LaidOut blocks')
    (capacity : h'.capacity = h.capacity) (same : inUse blocks' = inUse blocks) : h.Alike h' := by
  obtain rfl := hl.unique hl' capacity same
  exact hl.alike hl'

/-- What is shown as in use decides what is shown as free. -/
theorem showFree_eq (hl : h.LaidOut blocks) (hl' : h'.LaidOut blocks')
    (capacity : h'.capacity = h.capacity) (shown : h'.showAllocated = h.showAllocated) :
    h'.showFree = h.showFree := by
  rw [hl.showAllocated_eq, hl'.showAllocated_eq] at shown
  exact (hl.alike_of_inUse hl' capacity (Block.info_injective.list_map shown)).showFree

/-! ### Handing out and taking back -/

theorem undo {bytes address : Nat} (hl : h.LaidOut blocks)
    (granted : h.allocate bytes = .ok (address, h')) :
    ∃ h'', h'.free address = .ok h'' ∧ h.Alike h'' := by
  rcases hl.allocate_cases bytes with ⟨-, refused⟩ | ⟨-, -, refused⟩ |
    ⟨below, b, above, h₁, rfl, -, fits, -, done, laidOut, capacity, -⟩
  · rw [refused] at granted
    cases granted
  · rw [refused] at granted
    cases granted
  · rw [done] at granted
    cases granted
    obtain ⟨size, rest, -, unused, split⟩ := b.split_cons bytes
    rw [split, List.cons_append] at laidOut
    obtain ⟨h₂, freed, laidOut₂, capacity₂, -⟩ := laidOut.free rfl
    refine ⟨h₂, freed, hl.alike_of_inUse laidOut₂ (capacity₂.trans capacity) ?_⟩
    have notInUse : b.kind ≠ .allocated := by
      rw [fits.1]
      nofun
    rw [inUse_released, inUse_append, inUse_append, unused, List.nil_append, inUse_append,
      inUse_cons, if_neg notInUse]

/-! ### Taking back in any order -/

theorem freeAll {back : List Nat} (hl : h.LaidOut blocks) (nodup : back.Nodup)
    (known : back ⊆ (inUse blocks).map Block.address) :
    ∃ h' blocks', h.freeAll back = .ok h' ∧ h'.LaidOut blocks' ∧ h'.capacity = h.capacity ∧
      inUse blocks' = (inUse blocks).filter (·.address ∉ back) := by
  induction back generalizing h blocks with
  | nil => exact ⟨h, blocks, rfl, hl, rfl, by simp⟩
  | cons address back ih =>
    obtain ⟨fresh, nodup⟩ := List.nodup_cons.mp nodup
    obtain ⟨here, known⟩ := List.cons_subset.mp known
    obtain ⟨h₁, done⟩ := (hl.free_iff address).mpr (List.mem_map.mp here)
    obtain ⟨blocks₁, laidOut₁, capacity₁, left⟩ := hl.freed done
    have known₁ : back ⊆ (inUse blocks₁).map Block.address := by
      intro other member
      obtain ⟨b, used, rfl⟩ := List.mem_map.mp (known member)
      have apart : b.address ≠ address := fun same => fresh (same ▸ member)
      rw [left]
      exact List.mem_map_of_mem (List.mem_filter.mpr ⟨used, decide_eq_true apart⟩)
    obtain ⟨h₂, blocks₂, rest, laidOut₂, capacity₂, left₂⟩ := ih laidOut₁ nodup known₁
    refine ⟨h₂, blocks₂, ?_, laidOut₂, capacity₂.trans capacity₁, ?_⟩
    · rw [Heap.freeAll, List.foldlM_cons, done]
      exact rest
    · rw [left₂, left, List.filter_filter]
      apply List.filter_congr
      intro b _
      simp [Bool.and_comm]

/-- Blocks in use can be given back in any order, and the heap shows the same in the end. -/
theorem reordered {back other : List Nat} (hl : h.LaidOut blocks) (nodup : back.Nodup)
    (known : back ⊆ (inUse blocks).map Block.address) (same : other.Perm back) :
    ∃ h₁ h₂, h.freeAll back = .ok h₁ ∧ h.freeAll other = .ok h₂ ∧ h₁.Alike h₂ := by
  have known' : other ⊆ (inUse blocks).map Block.address :=
    fun address member => known (same.mem_iff.mp member)
  obtain ⟨h₁, blocks₁, done₁, laidOut₁, capacity₁, left₁⟩ := hl.freeAll nodup known
  obtain ⟨h₂, blocks₂, done₂, laidOut₂, capacity₂, left₂⟩ :=
    hl.freeAll (same.nodup_iff.mpr nodup) known'
  refine ⟨h₁, h₂, done₁, done₂, ?_⟩
  apply laidOut₁.alike_of_inUse laidOut₂ (capacity₂.trans capacity₁.symm)
  rw [left₁, left₂]
  exact List.filter_congr fun b _ => by simp only [same.mem_iff]

/-- A heap to which everything was given back is one free block. -/
theorem emptied {order : List Nat} (hl : h.LaidOut blocks) (pos : 0 < h.capacity)
    (all : order.Perm ((inUse blocks).map Block.address)) :
    ∃ h', h.freeAll order = .ok h' ∧ h'.showAllocated = [] ∧
      h'.showFree = [⟨headerSize, h.capacity - overhead, .free⟩] := by
  obtain ⟨h', blocks', done, laidOut, capacity, left⟩ :=
    hl.freeAll (all.nodup_iff.mpr hl.nodup_addresses) all.subset
  have unused : inUse blocks' = [] := by
    rw [left, List.filter_eq_nil_iff]
    intro b member
    have out : b.address ∈ order := all.mem_iff.mpr (List.mem_map_of_mem member)
    simp [out]
  have tiled := laidOut.tiled
  rw [capacity] at tiled
  obtain rfl := laidOut.parted.single tiled pos unused
  exact ⟨h', done, laidOut.indexed.blocks_eq .allocated, laidOut.indexed.blocks_eq .free⟩

end LaidOut

/-! ### Every heap -/

/-- Whatever was asked of a new heap: what it hands out next can be taken back, and then it shows
what it has shown before. -/
theorem undone_calls {size bytes address : Nat} (created : create size = .ok h)
    (calls : List MemoryCall)
    (granted : (calls.foldl Heap.call h).allocate bytes = .ok (address, h')) :
    ∃ h'', h'.free address = .ok h'' ∧ (calls.foldl Heap.call h).Alike h'' := by
  obtain ⟨-, -, laidOut, -⟩ := create_eq_ok created
  obtain ⟨blocks, laidOut', -⟩ := laidOut.calls calls
  exact laidOut'.undo granted

/-- Three blocks are handed out, and the one in the middle is taken back. -/
def holed : List MemoryCall := [.allocate 8, .allocate 40, .allocate 8, .free 56]

theorem strip_holed : ∃ h, create 200 = .ok h ∧ (holed.foldl Heap.call h).strip =
    [⟨.allocated, 8⟩, ⟨.free, 40⟩, ⟨.allocated, 8⟩, ⟨.free, 32⟩] := by
  obtain ⟨h, created, laidOut, -⟩ := create_ok (show overhead < 200 by decide) (by decide)
  refine ⟨h, created, ?_⟩
  rw [laidOut.strip_calls holed, laidOut.strip_eq]
  decide

/-- A request that takes a gap as a whole. -/
theorem undone_calls_whole : ∃ h h' h'', create 200 = .ok h ∧
    (holed.foldl Heap.call h).allocate 12 = .ok (56, h') ∧ h'.free 56 = .ok h'' ∧
      (holed.foldl Heap.call h).Alike h'' := by
  obtain ⟨h, created, strip⟩ := strip_holed
  obtain ⟨blocks, backs, -⟩ := Ledger.backs_calls created holed
  have fits : Strip.allocate [⟨.allocated, 8⟩, ⟨.free, 40⟩, ⟨.allocated, 8⟩, ⟨.free, 32⟩] 12 =
      .ok (56, [⟨.allocated, 8⟩, ⟨.allocated, 40⟩, ⟨.allocated, 8⟩, ⟨.free, 32⟩]) := by
    decide
  have answer := backs.laidOut.strip_allocate 12
  rw [strip, fits] at answer
  cases granted : (holed.foldl Heap.call h).allocate 12 with
  | error e =>
    rw [granted] at answer
    cases answer
  | ok done =>
    obtain ⟨address, h'⟩ := done
    rw [granted] at answer
    obtain ⟨rfl, -⟩ := Prod.mk.inj (Except.ok.inj answer)
    obtain ⟨h'', freed, alike⟩ := undone_calls created holed granted
    exact ⟨h, h', h'', created, granted, freed, alike⟩

/-- What a heap shows is decided by what is out, whatever the order of the calls. -/
structure Orderless (h : Heap) (live : List Nat) : Prop where
  /-- What is out can be given back in any order. -/
  reordered : ∀ back other, back.Nodup → back ⊆ live → other.Perm back →
    ∃ h₁ h₂, h.freeAll back = .ok h₁ ∧ h.freeAll other = .ok h₂ ∧ h₁.Alike h₂
  /-- Any heap that shows the same blocks in use shows the same free ones. -/
  decided : ∀ {size : Nat} {new : Heap} (calls : List MemoryCall), create size = .ok new →
    (calls.foldl Heap.call new).capacity = h.capacity →
      (calls.foldl Heap.call new).showAllocated = h.showAllocated →
        (calls.foldl Heap.call new).showFree = h.showFree
  /-- One free block is left when everything was given back. -/
  emptied : ∀ order, order.Perm live → ∃ h', h.freeAll order = .ok h' ∧ h'.showAllocated = [] ∧
    h'.showFree = [⟨headerSize, h.capacity - overhead, .free⟩]

/-- Whatever was asked of a new heap, what is out of it can be given back in any order, and what it
shows as free follows from what it shows as in use. -/
theorem orderless_calls {size : Nat} (created : create size = .ok h) (calls : List MemoryCall) :
    (calls.foldl Heap.call h).Orderless
      ((calls.foldl Ledger.call ⟨.heap h, []⟩).live.map (·.address)) := by
  obtain ⟨low, -, -, -⟩ := create_eq_ok created
  obtain ⟨blocks, backs, capacity⟩ := Ledger.backs_calls created calls
  have laidOut := backs.laidOut
  refine ⟨fun back other nodup known same => ?_, fun calls' created' capacity' shown => ?_,
    fun order all => ?_⟩
  · exact laidOut.reordered nodup (List.Subset.trans known backs.granted.subset) same
  · obtain ⟨blocks', backs', -⟩ := Ledger.backs_calls created' calls'
    exact laidOut.showFree_eq backs'.laidOut capacity' shown
  · exact laidOut.emptied (capacity ▸ Nat.zero_lt_of_lt low) (all.trans backs.granted)

/-- Two blocks with a gap between them, given back from below and from above. -/
theorem orderless_calls_holed : ∃ h h₁ h₂, create 200 = .ok h ∧
    (holed.foldl Heap.call h).freeAll [20, 124] = .ok h₁ ∧
      (holed.foldl Heap.call h).freeAll [124, 20] = .ok h₂ ∧ h₁.Alike h₂ := by
  obtain ⟨h, created, strip⟩ := strip_holed
  obtain ⟨blocks, backs, -⟩ := Ledger.backs_calls created holed
  have live := backs.granted
  rw [← backs.laidOut.addresses_eq, showAllocated, backs.laidOut.blocks_eq, strip] at live
  obtain ⟨h₁, h₂, done₁, done₂, alike⟩ := (orderless_calls created holed).reordered [20, 124]
    [124, 20] (by decide) live.symm.subset (List.Perm.swap ..)
  exact ⟨h, h₁, h₂, created, done₁, done₂, alike⟩

end Heap

end TrapKernel
