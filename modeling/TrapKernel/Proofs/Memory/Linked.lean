import Mathlib.Data.List.Nodup
import Mathlib.Data.List.Perm.Subperm
import Mathlib.Logic.Function.Basic
import TrapKernel.Proofs.Memory.Carries

/-!
# The lists of a heap

The two lists of a heap, threaded through the blocks that its region carries. `Heap.Linked` does not
ask that the lists agree with the kinds of the blocks, nor that the blocks tile the region: it holds
after each of the single steps of which `allocate` and `free` consist. Every step is proved to
succeed here, with what it makes of blocks and lists.
-/

namespace TrapKernel

namespace Heap

open Region

variable {h : Heap} {blocks : List Block} {kind : BlockKind}

/-! ### The two lists -/

/-- Two lists of some of the blocks, each by address. No block is in both. -/
structure Listing (blocks : List Block) (lists : BlockKind → List Nat) : Prop where
  ascending : ∀ kind, (lists kind).Pairwise (· < ·)
  known : ∀ kind, lists kind ⊆ blocks.map (·.offset)
  disjoint : ∀ kind kind', kind ≠ kind' → ∀ off ∈ lists kind, off ∉ lists kind'

/-- The tags of the blocks are written in the region, and the two lists are threaded through
them. -/
structure Linked (h : Heap) (blocks : List Block) (lists : BlockKind → List Nat) : Prop
    extends Listing blocks lists where
  carries : h.region.Carries blocks
  head : ∀ kind, h.head kind = (lists kind).head?
  threaded : ∀ kind, Threaded h.region.links none (lists kind) none

/-- The first header of a list names the block after it and the one before it. -/
theorem decode_threaded {r : Region} {off : Nat} {l : List Nat} {prev : Option Nat}
    (threaded : Threaded r.links prev (off :: l) none) :
    Link.decode (r.header off).next = l.head? ∧ Link.decode (r.header off).prev = prev := by
  obtain ⟨next, prev⟩ := Links.mk.inj (Option.some.inj threaded.1)
  rw [Option.or_none] at next
  exact ⟨next, prev⟩

namespace Listing

variable {lists : BlockKind → List Nat} {below above : List Nat} {off : Nat}

theorem nodup (hl : Listing blocks lists) (kind : BlockKind) : (lists kind).Nodup :=
  (hl.ascending kind).imp Nat.ne_of_lt

/-- The last of some blocks of a list is a block. -/
theorem known_last (hl : Listing blocks lists) (sub : below ⊆ lists kind) :
    ∀ n, below.getLast? = some n → n ∈ blocks.map (·.offset) :=
  fun _ last => hl.known kind (sub (List.mem_of_getLast? last))

/-- The first of some blocks of a list is a block. -/
theorem known_first (hl : Listing blocks lists) (sub : above ⊆ lists kind) :
    ∀ n, above.head? = some n → n ∈ blocks.map (·.offset) :=
  fun _ first => hl.known kind (sub (List.mem_of_head? first))

theorem remove (hl : Listing blocks lists) (split : lists kind = below ++ off :: above) :
    Listing blocks (Function.update lists kind (below ++ above)) := by
  have sublist : ∀ k, (Function.update lists kind (below ++ above) k).Sublist (lists k) := by
    intro k
    by_cases eq : k = kind
    · subst eq
      rw [Function.update_self, split]
      exact (List.sublist_cons_self _ _).append_left below
    · rw [Function.update_of_ne eq]
  refine ⟨fun k => (hl.ascending k).sublist (sublist k), fun k => ?_, fun k k' ne j hj hj' => ?_⟩
  · exact List.Subset.trans (sublist k).subset (hl.known k)
  · exact hl.disjoint k k' ne j ((sublist k).subset hj) ((sublist k').subset hj')

theorem insert (hl : Listing blocks lists) (split : lists kind = below ++ above)
    (known : off ∈ blocks.map (·.offset)) (fresh : ∀ k, off ∉ lists k)
    (low : ∀ j ∈ below, j < off) (high : ∀ j ∈ above, off < j) :
    Listing blocks (Function.update lists kind (below ++ off :: above)) := by
  have mem : ∀ k j, j ∈ Function.update lists kind (below ++ off :: above) k →
      j ∈ lists k ∨ k = kind ∧ j = off := by
    intro k j hj
    by_cases eq : k = kind
    · subst eq
      rw [Function.update_self, List.mem_append, List.mem_cons] at hj
      rw [split, List.mem_append]
      tauto
    · rw [Function.update_of_ne eq] at hj
      exact Or.inl hj
  refine ⟨fun k => ?_, fun k j hj => ?_, fun k k' ne j hj hj' => ?_⟩
  · by_cases eq : k = kind
    · subst eq
      rw [Function.update_self]
      have sorted := hl.ascending k
      rw [split, List.pairwise_append] at sorted
      refine List.pairwise_append.mpr ⟨sorted.1, ?_, fun j hj i hi => ?_⟩
      · exact List.pairwise_cons.mpr ⟨high, sorted.2.1⟩
      · rcases List.mem_cons.mp hi with rfl | hi
        · exact low j hj
        · exact sorted.2.2 j hj i hi
    · rw [Function.update_of_ne eq]
      exact hl.ascending k
  · rcases mem k j hj with hj | ⟨-, rfl⟩
    · exact hl.known k hj
    · exact known
  · rcases mem k j hj with hj | ⟨atKind, atOff⟩ <;>
      rcases mem k' j hj' with hj' | ⟨atKind', atOff'⟩
    · exact hl.disjoint k k' ne j hj hj'
    · exact fresh k (atOff' ▸ hj)
    · exact fresh k' (atOff ▸ hj')
    · exact ne (atKind.trans atKind'.symm)

end Listing

@[simp] theorem head_setHead (h : Heap) (kind kind' : BlockKind) (first : Option Nat) :
    (h.setHead kind first).head kind' = if kind' = kind then first else h.head kind' := by
  cases kind <;> cases kind' <;> rfl

theorem region_setHead (h : Heap) (kind : BlockKind) (first : Option Nat) :
    (h.setHead kind first).region = h.region := by
  cases kind <;> rfl

theorem follow_ok (kind : BlockKind) (carries : h.region.Carries blocks) {off next : Option Nat}
    (known : ∀ n, off = some n → n ∈ blocks.map (·.offset))
    (knownNext : ∀ n, next = some n → n ∈ blocks.map (·.offset)) :
    ∃ h', h.follow kind off next = .ok h' ∧
      (∀ k, h'.head k = if off = none ∧ k = kind then next else h.head k) ∧
      Relinked h.region h'.region blocks fun j =>
        if some j = off then (h.region.links j).map ({ · with next }) else h.region.links j := by
  cases off with
  | none =>
    refine ⟨h.setHead kind next, rfl, fun k => ?_, ?_⟩
    · rw [head_setHead]
      simp only [true_and]
    · rw [region_setHead]
      exact ⟨carries, rfl, fun j _ => by rw [if_neg nofun], Keeps.refl _ _⟩
  | some off =>
    obtain ⟨r', done, changed⟩ := carries.setNext (known off rfl) knownNext
    refine ⟨{ h with region := r' }, ?_, fun k => ?_, changed.carries, changed.size, ?_,
      changed.keeps⟩
    · rw [follow, done]
      rfl
    · rw [if_neg (by simp)]
      cases k <;> rfl
    · intro j hj
      rw [changed.links j hj]
      simp only [Option.some.injEq]

theorem precede_ok (carries : h.region.Carries blocks) {off prev : Option Nat}
    (known : ∀ n, off = some n → n ∈ blocks.map (·.offset))
    (knownPrev : ∀ n, prev = some n → n ∈ blocks.map (·.offset)) :
    ∃ h', h.precede off prev = .ok h' ∧ (∀ k, h'.head k = h.head k) ∧
      Relinked h.region h'.region blocks fun j =>
        if some j = off then (h.region.links j).map ({ · with prev }) else h.region.links j := by
  cases off with
  | none =>
    exact ⟨h, rfl, fun k => rfl, carries, rfl, fun j _ => by rw [if_neg nofun], Keeps.refl _ _⟩
  | some off =>
    obtain ⟨r', done, changed⟩ := carries.setPrev (known off rfl) knownPrev
    refine ⟨{ h with region := r' }, ?_, fun k => ?_, changed.carries, changed.size, ?_,
      changed.keeps⟩
    · rw [precede, done]
      rfl
    · cases k <;> rfl
    · intro j hj
      rw [changed.links j hj]
      simp only [Option.some.injEq]

namespace Linked

variable {lists : BlockKind → List Nat} {below above : List Nat} {off : Nat}

/-- Taking a block out of its list succeeds, and leaves the payload of every block alone. -/
theorem unlink (hl : h.Linked blocks lists) (split : lists kind = below ++ off :: above) :
    ∃ h', h.unlink kind off = .ok h' ∧
      h'.Linked blocks (Function.update lists kind (below ++ above)) ∧
      h'.capacity = h.capacity ∧ h.region.Keeps h'.region blocks := by
  have threaded := hl.threaded kind
  have nodup := hl.nodup kind
  have knownPrev := hl.known_last (show below ⊆ lists kind by rw [split]; simp)
  have knownNext := hl.known_first (show above ⊆ lists kind by rw [split]; simp)
  have knownOff : off ∈ blocks.map (·.offset) := hl.known kind (by rw [split]; simp)
  rw [split] at threaded nodup
  obtain ⟨outside, nodup'⟩ := List.nodup_cons.mp (List.nodup_middle.mp nodup)
  obtain ⟨nextEq, prevEq⟩ : Link.decode (h.region.header off).next = above.head? ∧
      Link.decode (h.region.header off).prev = below.getLast? := by
    have eq := threaded.links_eq
    rw [Option.or_none, Option.or_none] at eq
    exact Links.mk.inj (Option.some.inj eq)
  obtain ⟨h₁, done₁, head₁, changed₁⟩ := follow_ok kind hl.carries knownPrev knownNext
  obtain ⟨h₂, done₂, head₂, changed₂⟩ := precede_ok changed₁.carries knownNext knownPrev
  obtain ⟨r₃, done₃, changed₃⟩ := changed₂.carries.setLinks knownOff
    (fun n => (nofun : none = some n → _)) (fun n => (nofun : none = some n → _))
  -- away from the block itself, the three writes only join its neighbours
  have links : ∀ j ∈ blocks.map (·.offset), j ≠ off →
      r₃.links j = joined h.region.links below.getLast? above.head? j := by
    intro j hj ne
    rw [changed₃.links j hj, if_neg ne, changed₂.links j hj, changed₁.links j hj]
    exact joined_eq (neighbours_apart nodup')
  refine ⟨{ h₂ with region := r₃ }, ?_, ⟨hl.remove split, changed₃.carries, ?_, ?_⟩, ?_, ?_⟩
  · rw [Heap.unlink, hl.carries.header? knownOff]
    simp only [bind, Except.bind, nextEq, prevEq, done₁, done₂, done₃]
    rfl
  · intro k
    have : Heap.head { h₂ with region := r₃ } k = h₂.head k := by cases k <;> rfl
    rw [this, head₂, head₁]
    by_cases eq : k = kind
    · subst eq
      rw [Function.update_self, hl.head, split]
      cases below <;> simp
    · rw [Function.update_of_ne eq, if_neg (fun both => eq both.2), hl.head]
  · intro k
    by_cases eq : k = kind
    · subst eq
      rw [Function.update_self]
      refine threaded.unlink nodup fun j hj => links j (hl.known k ?_) ?_
      · rw [split]
        exact ((List.sublist_cons_self off above).append_left below).subset hj
      · rintro rfl
        exact outside hj
    · rw [Function.update_of_ne eq]
      refine (hl.threaded k).congr fun j hj => ?_
      have apart := hl.disjoint k kind eq j hj
      rw [split, List.mem_append, List.mem_cons, or_left_comm, not_or, ← List.mem_append] at apart
      rw [links j (hl.known k hj) apart.1, joined_of_notMem apart.2]
  · exact changed₃.size.trans (changed₂.size.trans changed₁.size)
  · exact changed₁.keeps.trans (changed₂.keeps.trans changed₃.keeps)

/-- The blocks of a list, each with its header. -/
theorem chain_eq {r : Region} (carries : r.Carries blocks) {l : List Nat} {prev : Option Nat}
    (threaded : Threaded r.links prev l none) (known : l ⊆ blocks.map (·.offset)) {most : Nat}
    (le : l.length ≤ most) : r.chain most l.head? = .ok (l.map fun off => ⟨off, r.header off⟩) := by
  induction l generalizing prev most with
  | nil => cases most <;> rfl
  | cons off l ih =>
    obtain ⟨most, rfl⟩ : ∃ m, most = m + 1 := Nat.exists_eq_succ_of_ne_zero (by
      rintro rfl
      exact absurd le (Nat.not_succ_le_zero _))
    have next := (decode_threaded threaded).1
    have ih := ih threaded.2 (fun j hj => known (List.mem_cons_of_mem off hj))
      (Nat.le_of_succ_le_succ le)
    rw [List.head?_cons, Region.chain, carries.header? (known List.mem_cons_self)]
    simp only [bind, Except.bind, next, ih]
    rfl

theorem length_le (hl : h.Linked blocks lists) (kind : BlockKind) :
    (lists kind).length ≤ h.capacity / overhead := by
  have few : (lists kind).length ≤ blocks.length := by
    have sub := (List.subperm_of_subset (hl.nodup kind) (hl.known kind)).length_le
    rwa [List.length_map] at sub
  have room := hl.carries.ascending.length_le
    (fun b hb => ⟨Nat.zero_le _, hl.carries.inside b hb⟩) (Nat.zero_le _)
  refine Nat.le_trans few ((Nat.le_div_iff_mul_le (by decide)).mpr ?_)
  rw [Nat.mul_comm]
  exact room

theorem listed_eq (hl : h.Linked blocks lists) (kind : BlockKind) :
    h.listed kind = .ok ((lists kind).map fun off => ⟨off, h.region.header off⟩) := by
  rw [listed, hl.head]
  exact chain_eq hl.carries (hl.threaded kind) (hl.known kind) (hl.length_le kind)

/-- Where `link` cuts a list in two. -/
theorem split_at_offset (low : ∀ j ∈ below, j < off) (high : ∀ j ∈ above, off < j) :
    (below ++ above).takeWhile (fun j => decide (j ≤ off)) = below ∧
      (below ++ above).dropWhile (fun j => decide (j ≤ off)) = above := by
  have lowAll : ∀ j ∈ below, decide (j ≤ off) = true := fun j hj =>
    decide_eq_true (Nat.le_of_lt (low j hj))
  rw [List.takeWhile_append_of_pos lowAll, List.dropWhile_append_of_pos lowAll]
  cases above with
  | nil => simp
  | cons i above =>
    have notLow : decide (i ≤ off) = false :=
      decide_eq_false (Nat.not_le_of_lt (high i List.mem_cons_self))
    simp [notLow]

/-- Threading a block into a list succeeds, and leaves the payload of every block alone. -/
theorem link (hl : h.Linked blocks lists) (split : lists kind = below ++ above)
    (known : off ∈ blocks.map (·.offset)) (fresh : ∀ k, off ∉ lists k)
    (low : ∀ j ∈ below, j < off) (high : ∀ j ∈ above, off < j) :
    ∃ h', h.link kind off = .ok h' ∧
      h'.Linked blocks (Function.update lists kind (below ++ off :: above)) ∧
      h'.capacity = h.capacity ∧ h.region.Keeps h'.region blocks := by
  have listing := hl.insert split known fresh low high
  have threaded := hl.threaded kind
  have nodup := listing.nodup kind
  have knownPrev := hl.known_last (show below ⊆ lists kind by rw [split]; simp)
  have knownNext := hl.known_first (show above ⊆ lists kind by rw [split]; simp)
  rw [split] at threaded
  rw [Function.update_self] at nodup
  obtain ⟨outside, nodup'⟩ := List.nodup_cons.mp (List.nodup_middle.mp nodup)
  have knownOff : ∀ n, some off = some n → n ∈ blocks.map (·.offset) := fun n eq =>
    Option.some.inj eq ▸ known
  have taken := split_at_offset low high
  obtain ⟨r₁, done₁, changed₁⟩ := hl.carries.setLinks known knownNext knownPrev
  obtain ⟨h₂, done₂, head₂, changed₂⟩ :=
    follow_ok (h := { h with region := r₁ }) kind changed₁.carries knownPrev knownOff
  obtain ⟨h₃, done₃, head₃, changed₃⟩ := precede_ok changed₂.carries knownNext knownOff
  have links : ∀ j ∈ blocks.map (·.offset),
      h₃.region.links j = inserted h.region.links off below.getLast? above.head? j := by
    intro j hj
    rw [changed₃.links j hj, changed₂.links j hj]
    refine inserted_eq (neighbours_apart nodup') ?_ (changed₁.links j hj)
    rintro rfl
    refine ⟨fun last => outside ?_, fun first => outside ?_⟩
    · exact List.mem_append_left above (List.mem_of_getLast? last.symm)
    · exact List.mem_append_right below (List.mem_of_head? first.symm)
  refine ⟨h₃, ?_, ⟨listing, changed₃.carries, fun k => ?_, fun k => ?_⟩, ?_, ?_⟩
  · rw [Heap.link, hl.listed_eq kind, split]
    simp only [bind, Except.bind, List.takeWhile_map, List.dropWhile_map, Function.comp_def, taken,
      List.getLast?_map, List.head?_map, Option.map_map, Option.map_id', done₁, done₂, done₃]
  · have : Heap.head { h with region := r₁ } k = h.head k := by cases k <;> rfl
    rw [head₃, head₂, this]
    by_cases eq : k = kind
    · subst eq
      rw [Function.update_self, hl.head, split]
      cases below <;> simp
    · rw [Function.update_of_ne eq, if_neg (fun both => eq both.2), hl.head]
  · by_cases eq : k = kind
    · subst eq
      rw [Function.update_self]
      refine threaded.link nodup rfl fun j hj => links j ?_
      have member := listing.known k
      rw [Function.update_self] at member
      exact member hj
    · rw [Function.update_of_ne eq]
      refine (hl.threaded k).congr fun j hj => ?_
      have apart := hl.disjoint k kind eq j hj
      rw [split] at apart
      rw [links j (hl.known k hj), inserted_of_notMem _ apart]
      rintro rfl
      exact fresh k hj
  · exact changed₃.size.trans (changed₂.size.trans changed₁.size)
  · exact changed₁.keeps.trans (changed₂.keeps.trans changed₃.keeps)

/-! ### Blocks come and go -/

/-- A block that is in no list can be given up. -/
theorem forget {below above : List Block} {b : Block}
    (hl : h.Linked (below ++ b :: above) lists) (fresh : ∀ k, b.offset ∉ lists k) :
    h.Linked (below ++ above) lists := by
  refine ⟨⟨hl.ascending, fun k off hoff => ?_, hl.disjoint⟩, ?_, hl.head, hl.threaded⟩
  · have member := hl.known k hoff
    rw [List.map_append, List.map_cons, List.mem_append, List.mem_cons] at member
    rw [List.map_append, List.mem_append]
    refine member.imp_right fun rest => rest.resolve_left ?_
    rintro rfl
    exact fresh k hoff
  · exact hl.carries.sublist ((List.sublist_cons_self b above).append_left below)

/-- Both tags of a block can be written where no other block is. The lists stay as they are. -/
theorem putBlock {below above : List Block} {b : Block} (hl : h.Linked (below ++ above) lists)
    (low : ∀ c ∈ below, c.endAt ≤ b.offset) (high : ∀ c ∈ above, b.endAt ≤ c.offset)
    (inside : b.endAt ≤ h.capacity) :
    ∃ h', h.putBlock b.offset b.kind b.size = .ok h' ∧ h'.Linked (below ++ b :: above) lists ∧
      h'.capacity = h.capacity ∧ h.region.Keeps h'.region (below ++ above) := by
  have small : b.offset < Link.nil.toNat ∧ b.size < Link.nil.toNat := by
    have bound := hl.carries.addressable
    have nil : Link.nil.toNat = 4294967295 := rfl
    simp only [Block.endAt, overhead, headerSize, capacity, UInt32.size] at inside bound
    omega
  let header : Header := ⟨b.kind.word, .ofNat b.offset, .ofNat b.size, Link.nil, Link.nil⟩
  obtain ⟨r₁, r', doneHeader, doneTrailer, carries, size, keeps, -, links⟩ :=
    hl.carries.putTags header low high inside rfl (Link.toNat_ofNat small.1)
      (Link.toNat_ofNat small.2)
  refine ⟨{ h with region := r' }, ?_, ⟨⟨hl.ascending, fun k off hoff => ?_, hl.disjoint⟩, carries,
    fun k => ?_, fun k => (hl.threaded k).congr fun off hoff => links off (hl.known k hoff)⟩, size,
    keeps⟩
  · rw [Heap.putBlock, Region.putBlock, Link.word_eq small.1, Link.word_eq small.2]
    simp only [bind, Except.bind, header] at doneHeader doneTrailer ⊢
    rw [doneHeader]
    simp only [doneTrailer]
    rfl
  · have member := hl.known k hoff
    rw [List.map_append, List.mem_append] at member
    rw [List.map_append, List.map_cons, List.mem_append, List.mem_cons]
    exact member.imp_right Or.inr
  · rw [← hl.head]
    cases k <;> rfl

end Linked

end Heap

end TrapKernel
