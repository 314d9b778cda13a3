import TrapKernel.Proofs.Memory.Linked

/-!
# Blocks and their lists

`Heap.Indexed` says that each list of a heap threads exactly the blocks of its kind. Taking a block
out, putting one in and joining two keep it so; `allocate` and `free` are made of these three. The
blocks in use are the ones whose payloads matter: every step leaves those alone that it does not
name.
-/

namespace TrapKernel

/-- The blocks that were handed out. -/
def inUse (blocks : List Block) : List Block := blocks.filter (·.kind = .allocated)

@[simp] theorem inUse_append (as bs : List Block) : inUse (as ++ bs) = inUse as ++ inUse bs := by
  simp [inUse]

@[simp] theorem inUse_cons (b : Block) (bs : List Block) :
    inUse (b :: bs) = if b.kind = .allocated then b :: inUse bs else inUse bs := by
  by_cases h : b.kind = .allocated <;> simp [inUse, h]

@[simp] theorem inUse_nil : inUse [] = [] := rfl

theorem inUse_subset (blocks : List Block) : inUse blocks ⊆ blocks := List.filter_subset_self ..

theorem mem_inUse {blocks : List Block} {b : Block} :
    b ∈ inUse blocks ↔ b ∈ blocks ∧ b.kind = .allocated := by
  simp [inUse]

@[simp] theorem BlockKind.ofWord?_word (kind : BlockKind) : ofWord? kind.word = some kind := by
  cases kind <;> rfl

/-- A block at either end of a list of offsets is of another kind, or is the block itself. -/
theorem update_offsetsOf {below above : List Block} {b : Block} {lists : BlockKind → List Nat}
    {l : List Nat} (own : l = offsetsOf b.kind (below ++ b :: above))
    (other : ∀ kind, kind ≠ b.kind → lists kind = offsetsOf kind (below ++ above)) :
    Function.update lists b.kind l = fun kind => offsetsOf kind (below ++ b :: above) := by
  funext kind
  by_cases eq : kind = b.kind
  · rw [eq, Function.update_self, own]
  · rw [Function.update_of_ne eq, other kind eq, offsetsOf_append, offsetsOf_append, offsetsOf_cons,
      if_neg (Ne.symm eq)]

namespace Heap

open Region

variable {h : Heap} {below above : List Block} {b c : Block}

/-- The tags of the blocks are written in the region, and each list threads exactly the blocks of
its kind, by address. -/
def Indexed (h : Heap) (blocks : List Block) : Prop :=
  h.Linked blocks fun kind => offsetsOf kind blocks

namespace Indexed

theorem header? {blocks : List Block} (hi : h.Indexed blocks) (hb : b ∈ blocks) :
    h.region.header? b.offset = .ok (h.region.header b.offset) :=
  hi.carries.header? (List.mem_map_of_mem hb)

theorem payload {blocks : List Block} (hi : h.Indexed blocks) (hb : b ∈ blocks) :
    (h.region.header b.offset).payload = b.size := (hi.carries.tagged b hb).size

theorem listed {blocks : List Block} (hi : h.Indexed blocks) (kind : BlockKind) :
    h.listed kind = .ok ((blocks.filter (·.kind = kind)).map fun b =>
      ⟨b.offset, h.region.header b.offset⟩) := by
  rw [Linked.listed_eq hi kind, offsetsOf, List.map_map]
  rfl

/-- The list of a kind shows the blocks of that kind. -/
theorem blocks_eq {blocks : List Block} (hi : h.Indexed blocks) (kind : BlockKind) :
    h.blocks kind = (blocks.filter (·.kind = kind)).map Block.info := by
  rw [Heap.blocks, hi.listed kind]
  simp only [List.map_map]
  apply List.map_congr_left
  intro b hb
  obtain ⟨member, ofKind⟩ := List.mem_filter.mp hb
  have same : b.kind = kind := of_decide_eq_true ofKind
  simp only [Function.comp_apply, Block.info, Block.address, hi.payload member, same]

/-! ### Taking a block out -/

theorem withdraw (hi : h.Indexed (below ++ b :: above)) :
    ∃ h', h.unlink b.kind b.offset = .ok h' ∧ h'.Indexed (below ++ above) ∧
      h'.region.Carries (below ++ b :: above) ∧ h'.capacity = h.capacity ∧
      h.region.Keeps h'.region (below ++ b :: above) := by
  have split : offsetsOf b.kind (below ++ b :: above) =
      offsetsOf b.kind below ++ b.offset :: offsetsOf b.kind above := by
    rw [offsetsOf_append, offsetsOf_cons, if_pos rfl]
  obtain ⟨h', done, linked, capacity, keeps⟩ := Linked.unlink hi split
  have lists : Function.update (fun kind => offsetsOf kind (below ++ b :: above)) b.kind
      (offsetsOf b.kind below ++ offsetsOf b.kind above) =
        fun kind => offsetsOf kind (below ++ above) := by
    funext kind
    by_cases eq : kind = b.kind
    · rw [eq, Function.update_self, offsetsOf_append]
    · rw [Function.update_of_ne eq, offsetsOf_append, offsetsOf_append, offsetsOf_cons,
        if_neg (Ne.symm eq)]
  rw [lists] at linked
  have fresh : ∀ kind, b.offset ∉ offsetsOf kind (below ++ above) := by
    intro kind member
    have nodup := (hi.carries.ascending.offsets).imp Nat.ne_of_lt
    rw [List.map_append, List.map_cons] at nodup
    have outside := (List.nodup_cons.mp (List.nodup_middle.mp nodup)).1
    rw [← List.map_append] at outside
    exact outside ((offsetsOf_sublist kind _).subset member)
  exact ⟨h', done, linked.forget fresh, linked.carries, capacity, keeps⟩

/-! ### Putting a block in -/

/-- The tags are written first, while the lists do not thread the block yet. -/
theorem place (hi : h.Indexed (below ++ above)) (low : ∀ c ∈ below, c.endAt ≤ b.offset)
    (high : ∀ c ∈ above, b.endAt ≤ c.offset) (inside : b.endAt ≤ h.capacity) :
    ∃ h₁ h', h.putBlock b.offset b.kind b.size = .ok h₁ ∧
      h₁.Linked (below ++ b :: above) (fun kind => offsetsOf kind (below ++ above)) ∧
      h₁.link b.kind b.offset = .ok h' ∧ h'.Indexed (below ++ b :: above) ∧
      h'.capacity = h.capacity ∧ h.region.Keeps h'.region (below ++ above) := by
  obtain ⟨h₁, put, linked₁, capacity₁, keeps₁⟩ := Linked.putBlock hi low high inside
  have lowOff : ∀ kind, ∀ j ∈ offsetsOf kind below, j < b.offset := by
    intro kind j hj
    obtain ⟨c, hc, -, rfl⟩ := mem_offsetsOf.mp hj
    exact Ascending.offset_lt (low c hc)
  have highOff : ∀ kind, ∀ j ∈ offsetsOf kind above, b.offset < j := by
    intro kind j hj
    obtain ⟨c, hc, -, rfl⟩ := mem_offsetsOf.mp hj
    exact Ascending.offset_lt (high c hc)
  have fresh : ∀ kind, b.offset ∉ offsetsOf kind (below ++ above) := by
    intro kind member
    rw [offsetsOf_append, List.mem_append] at member
    rcases member with member | member
    · exact Nat.lt_irrefl _ (lowOff kind _ member)
    · exact Nat.lt_irrefl _ (highOff kind _ member)
  obtain ⟨h', linked', done, capacity', keeps'⟩ := linked₁.link
    (offsetsOf_append b.kind below above) (by simp) fresh (lowOff b.kind) (highOff b.kind)
  rw [update_offsetsOf _ fun kind _ => rfl] at done
  · have sub : below ++ above ⊆ below ++ b :: above :=
      ((List.sublist_cons_self b above).append_left below).subset
    exact ⟨h₁, h', put, linked₁, linked', done, capacity'.trans capacity₁,
      keeps₁.trans (keeps'.mono sub)⟩
  · rw [offsetsOf_append, offsetsOf_cons, if_pos rfl]

/-! ### Joining two free blocks -/

/-- A block can take the room up to the next one. It stays where it is in its list. -/
theorem widen {size : Nat} (hi : h.Indexed (below ++ b :: above)) (small : size < Link.nil.toNat)
    (high : ∀ d ∈ above, Block.endAt { b with size } ≤ d.offset)
    (inside : Block.endAt { b with size } ≤ h.capacity) :
    let header : Header := { h.region.header b.offset with size := .ofNat size }
    ∃ r₁ r', h.region.putHeader b.offset header = .ok r₁ ∧
      r₁.putTrailer (header.trailerAt b.offset) ⟨b.kind.word, .ofNat size⟩ = .ok r' ∧
      Indexed { h with region := r' } (below ++ { b with size } :: above) ∧
      r'.size = h.capacity ∧ h.region.Keeps r' (below ++ above) := by
  intro header
  let wide : Block := { b with size }
  have tag := hi.carries.tagged b (by simp)
  have rest := hi.carries.sublist ((List.sublist_cons_self b above).append_left below)
  have low : ∀ d ∈ below, d.endAt ≤ wide.offset := by
    intro d hd
    exact (List.pairwise_append.mp hi.carries.ascending).2.2 d hd b List.mem_cons_self
  obtain ⟨r₁, r', putHeader, putTrailer, carries, sameSize, keeps, own, links⟩ :=
    Carries.putTags (b := wide) rest header low high inside tag.kind tag.start
      (Link.toNat_ofNat small)
  have own : r'.header b.offset = header := own
  have offsets : (below ++ wide :: above).map (·.offset) =
      (below ++ b :: above).map (·.offset) := by
    rw [List.map_append, List.map_append, List.map_cons, List.map_cons]
  have lists : ∀ kind, offsetsOf kind (below ++ wide :: above) =
      offsetsOf kind (below ++ b :: above) := by
    intro kind
    rw [offsetsOf_append, offsetsOf_append, offsetsOf_cons, offsetsOf_cons]
  -- the header is written again with the links that it had
  have sameLinks : ∀ off ∈ (below ++ b :: above).map (·.offset),
      r'.links off = h.region.links off := by
    intro off known
    by_cases atB : off = b.offset
    · rw [atB, Region.links, own, Region.links]
    · apply links
      rw [List.map_append, List.map_cons, List.mem_append, List.mem_cons] at known
      rw [List.map_append, List.mem_append]
      exact known.imp_right fun other => other.resolve_left atB
  refine ⟨r₁, r', putHeader, putTrailer, ⟨⟨?_, ?_, ?_⟩, carries, ?_, ?_⟩, sameSize, keeps⟩
  · intro kind
    rw [lists]
    exact hi.ascending kind
  · intro kind
    rw [lists, offsets]
    exact hi.known kind
  · intro kind kind' ne
    rw [lists, lists]
    exact hi.disjoint kind kind' ne
  · intro kind
    rw [lists]
    have head := hi.head kind
    cases kind <;> exact head
  · intro kind
    rw [lists]
    exact (hi.threaded kind).congr fun off hoff => sameLinks off (hi.known kind hoff)

theorem merge (hi : h.Indexed (below ++ b :: c :: above)) (touch : b.endAt = c.offset)
    (freeB : b.kind = .free) (freeC : c.kind = .free) :
    ∃ h', h.merge b.offset c.offset = .ok h' ∧ h'.Indexed (below ++ b.fuse c :: above) ∧
      h'.capacity = h.capacity ∧ h.region.Keeps h'.region (below ++ above) := by
  have memC : c ∈ below ++ b :: c :: above := by simp
  have sizeC := hi.payload memC
  have headerC := hi.header? memC
  have withdrawn : h.Indexed ((below ++ [b]) ++ c :: above) := by
    rw [List.append_assoc]
    exact hi
  obtain ⟨h₁, unlinked, indexed₁, -, capacity₁, keeps₁⟩ := withdrawn.withdraw
  rw [List.append_assoc] at indexed₁ keeps₁
  rw [freeC] at unlinked
  have memB : b ∈ below ++ b :: above := by simp
  have insideC : c.endAt ≤ h.region.size := hi.carries.inside c memC
  have sameEnd : (b.fuse c).endAt = c.endAt := by
    simp only [Block.fuse, Block.endAt] at touch ⊢
    omega
  have small : b.size + overhead + c.size < Link.nil.toNat := by
    have bound := hi.carries.addressable
    have nil : Link.nil.toNat = 4294967295 := rfl
    simp only [Block.endAt, overhead, headerSize, UInt32.size] at touch insideC bound ⊢
    omega
  have high : ∀ d ∈ above, (b.fuse c).endAt ≤ d.offset := by
    intro d hd
    rw [sameEnd]
    have ascending := (List.pairwise_append.mp hi.carries.ascending).2.1
    exact (List.pairwise_cons.mp (List.pairwise_cons.mp ascending).2).1 d hd
  have inside : (b.fuse c).endAt ≤ h₁.capacity := by
    rw [sameEnd, capacity₁]
    exact insideC
  obtain ⟨r₂, r₃, putHeader, putTrailer, indexed, size, keeps⟩ := indexed₁.widen small high inside
  rw [freeB] at putTrailer
  refine ⟨_, ?_, indexed, size.trans capacity₁, (keeps₁.mono ?_).trans keeps⟩
  · simp only [Heap.merge, headerC, sizeC, bind, Except.bind, unlinked, indexed₁.header? memB,
      indexed₁.payload memB, Link.word_eq small]
    simp only [putHeader, putTrailer]
    rfl
  · apply List.Sublist.subset
    exact (List.sublist_cons_of_sublist b (List.sublist_cons_self c above)).append_left below

end Indexed

end Heap

end TrapKernel
