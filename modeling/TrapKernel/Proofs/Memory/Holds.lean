import TrapKernel.Proofs.Memory.Gaps

/-!
# What a heap holds

Whoever takes records from a heap has to give back each of them, once. `Memory.Holds` says which
ones are out at the moment; as long as it is known, everything that is out can be given back, in any
order, and once nothing is out the heap is one free block again.
-/

namespace TrapKernel

namespace Memory

variable {m m' : Memory} {size : Nat} {owned owned' : List Nat}

/-- The memory is a heap over `size` bytes, and its blocks in use are the ones at the addresses of
`owned`. -/
def Holds (m : Memory) (size : Nat) (owned : List Nat) : Prop :=
  ∃ h blocks live, m = .heap h ∧ h.Backs blocks live ∧ h.capacity = size ∧
    (live.map (·.address)).Perm owned

/-- The addresses can be given back, one after the other. -/
def Frees (m : Memory) : List Nat → Prop
  | [] => True
  | address :: rest => ∃ m', m.free address = .ok m' ∧ m'.Frees rest

theorem release_eq {address : Nat} (done : m.free address = .ok m') : m.release address = m' := by
  rw [release, done]

/-- What is given back in two parts. -/
theorem frees_append {back rest : List Nat} :
    m.Frees (back ++ rest) ↔ m.Frees back ∧ (back.foldl release m).Frees rest := by
  induction back generalizing m with
  | nil => exact (and_iff_right trivial).symm
  | cons address back ih =>
    constructor
    · rintro ⟨m', done, frees⟩
      obtain ⟨first, last⟩ := ih.mp frees
      rw [List.foldl_cons, release_eq done]
      exact ⟨⟨m', done, first⟩, last⟩
    · rintro ⟨⟨m', done, first⟩, last⟩
      rw [List.foldl_cons, release_eq done] at last
      exact ⟨m', done, ih.mpr ⟨first, last⟩⟩

namespace Holds

theorem create {h : Heap} (created : Heap.create size = .ok h) : (heap h).Holds size [] := by
  obtain ⟨-, -, laidOut, capacity⟩ := Heap.create_eq_ok created
  exact ⟨h, _, [], rfl, ⟨laidOut, List.Perm.nil, nofun⟩, capacity, List.Perm.nil⟩

theorem perm (hm : m.Holds size owned) (same : owned.Perm owned') : m.Holds size owned' := by
  obtain ⟨h, blocks, live, rfl, backs, capacity, granted⟩ := hm
  exact ⟨h, blocks, live, rfl, backs, capacity, granted.trans same⟩

theorem nodup (hm : m.Holds size owned) : owned.Nodup := by
  obtain ⟨h, blocks, live, rfl, backs, capacity, granted⟩ := hm
  exact granted.nodup_iff.mp backs.nodup

theorem settles (hm : m.Holds size owned) : m.Settles := by
  obtain ⟨h, blocks, live, rfl, backs, -, -⟩ := hm
  exact settles_heap backs.laidOut

/-- What is out is what the heap shows. -/
theorem shown (hm : m.Holds size owned) :
    ∃ h, m = .heap h ∧ (h.showAllocated.map (·.address)).Perm owned := by
  obtain ⟨h, blocks, live, rfl, backs, capacity, granted⟩ := hm
  refine ⟨h, rfl, ?_⟩
  rw [backs.laidOut.addresses_eq]
  exact backs.granted.symm.trans granted

theorem allocate {bytes address : Nat} (hm : m.Holds size owned)
    (done : m.allocate bytes = .ok (address, m')) : m'.Holds size (address :: owned) := by
  obtain ⟨h, blocks, live, rfl, backs, capacity, granted⟩ := hm
  cases answer : h.allocate bytes with
  | error e =>
    rw [Memory.allocate, answer] at done
    cases done
  | ok result =>
    rw [Memory.allocate, answer] at done
    cases done
    obtain ⟨blocks', backs', same⟩ := backs.allocate answer
    exact ⟨_, blocks', _, rfl, backs', same.trans capacity, granted.cons _⟩

theorem free {address : Nat} (hm : m.Holds size (address :: owned)) :
    ∃ m', m.free address = .ok m' ∧ m'.Holds size owned := by
  have nodup := hm.nodup
  obtain ⟨h, blocks, live, rfl, backs, capacity, granted⟩ := hm
  have isLive : address ∈ live.map (·.address) := granted.mem_iff.mpr List.mem_cons_self
  obtain ⟨h', done⟩ := (backs.free_iff address).mpr isLive
  obtain ⟨blocks', backs', same⟩ := backs.free done
  have kept := Grant.perm_filter granted nodup
  refine ⟨.heap h', ?_, h', blocks', _, rfl, backs', same.trans capacity, kept⟩
  rw [Memory.free, done]
  rfl

/-- Only what is out is taken back. -/
theorem freed {address : Nat} (hm : m.Holds size owned) (done : m.free address = .ok m') :
    address ∈ owned ∧ m'.Holds size (owned.erase address) := by
  have out : address ∈ owned := by
    obtain ⟨h, blocks, live, rfl, backs, -, granted⟩ := hm
    cases answer : h.free address with
    | error e =>
      rw [Memory.free, answer] at done
      cases done
    | ok h' => exact granted.mem_iff.mp ((backs.free_iff address).mp ⟨h', answer⟩)
  obtain ⟨m'', done', holds⟩ := (hm.perm (List.perm_cons_erase out)).free
  obtain rfl := Except.ok.inj (done.symm.trans done')
  exact ⟨out, holds⟩

/-- What is out can be given back, in any order. -/
theorem frees {back rest : List Nat} (hm : m.Holds size owned)
    (split : owned.Perm (back ++ rest)) :
    m.Frees back ∧ (back.foldl release m).Holds size rest := by
  induction back generalizing m owned with
  | nil => exact ⟨trivial, hm.perm split⟩
  | cons address back ih =>
    obtain ⟨m', done, holds⟩ := (hm.perm split).free
    obtain ⟨frees, after⟩ := ih holds (List.Perm.refl _)
    refine ⟨⟨m', done, frees⟩, ?_⟩
    rw [List.foldl_cons, release_eq done]
    exact after

/-- A heap of which nothing is out is one free block. -/
theorem nothing (hm : m.Holds size []) (pos : 0 < size) :
    ∃ h, m = .heap h ∧ h.isEmpty = true ∧ h.showAllocated = [] ∧
      h.showFree = [⟨headerSize, size - overhead, .free⟩] := by
  obtain ⟨h, blocks, live, rfl, backs, capacity, granted⟩ := hm
  have unused : inUse blocks = [] := by
    have none := backs.granted.symm.trans granted
    exact List.map_eq_nil_iff.mp none.eq_nil
  have laidOut := backs.laidOut
  have tiled := laidOut.tiled
  rw [capacity] at tiled
  obtain rfl := laidOut.parted.single tiled pos unused
  refine ⟨h, rfl, ?_, laidOut.indexed.blocks_eq .allocated, laidOut.indexed.blocks_eq .free⟩
  have head : h.allocatedHead = none := laidOut.indexed.head .allocated
  rw [Heap.isEmpty, head]
  rfl

end Holds

end Memory

end TrapKernel
