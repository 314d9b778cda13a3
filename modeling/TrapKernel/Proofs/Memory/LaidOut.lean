import TrapKernel.Proofs.Memory.Indexed

/-!
# What the operations of a heap do

`Heap.LaidOut` is the invariant of a heap: blocks tile its region, no two free ones touch, their
tags are written in the region, and each list threads the blocks of its kind. Each operation is
described by what it makes of the blocks, so that nothing above has to look at the bytes again.
-/

namespace TrapKernel

namespace Block

/-- The block is free, and large enough for `bytes` bytes and the tags of the rest. -/
def Fits (bytes : Nat) (b : Block) : Prop := b.kind = .free ∧ bytes + overhead ≤ b.size

instance (bytes : Nat) (b : Block) : Decidable (b.Fits bytes) :=
  inferInstanceAs (Decidable (_ ∧ _))

theorem endAt_fuse {b c : Block} (touch : b.endAt = c.offset) : (b.fuse c).endAt = c.endAt := by
  simp only [fuse, endAt] at touch ⊢
  omega

theorem settle_of_free {b c : Block} (freeB : b.kind = .free) (freeC : c.kind = .free)
    (blocks : List Block) : b.settle (c :: blocks) = b.fuse c :: blocks := if_pos ⟨freeB, freeC⟩

/-- Three neighbours become the same block in either order. -/
theorem settle_settle {b c : Block} (freeB : b.kind = .free) (freeC : c.kind = .free)
    (blocks : List Block) : b.settle (c.settle blocks) = (b.fuse c).settle blocks := by
  cases blocks with
  | nil => exact settle_of_free freeB freeC []
  | cons d blocks =>
    by_cases freeD : d.kind = .free
    · rw [settle_of_free freeC freeD, settle_of_free freeB (by exact freeC),
        settle_of_free (by exact freeB) freeD, fuse_fuse]
    · rw [settle, if_neg fun both => freeD both.2, settle_of_free freeB freeC, settle,
        if_neg fun both => freeD both.2]

theorem inUse_settle (b : Block) (blocks : List Block) :
    inUse (b.settle blocks) = inUse (b :: blocks) := by
  cases blocks with
  | nil => rfl
  | cons c blocks =>
    by_cases free : b.kind = .free ∧ c.kind = .free
    · rw [settle_of_free free.1 free.2, inUse_cons, inUse_cons, inUse_cons, fuse, if_neg, if_neg,
        if_neg]
      · simp [free.2]
      · simp [free.1]
      · simp [free.1]
    · rw [settle, if_neg free]

/-- The lowest part of a block that is split is handed out, and nothing else of it. -/
theorem split_cons (b : Block) (bytes : Nat) : ∃ size rest, bytes ≤ size ∧ inUse rest = [] ∧
    b.split bytes = ⟨b.offset, .allocated, size⟩ :: rest := by
  unfold split
  by_cases exact : b.size = bytes + overhead
  · rw [if_pos exact]
    exact ⟨b.size, [], by omega, rfl, rfl⟩
  · rw [if_neg exact]
    exact ⟨bytes, _, Nat.le_refl _, rfl, rfl⟩

/-- Handing out a part of a free block adds one block to those in use. -/
theorem inUse_split (b : Block) (bytes : Nat) : ∃ size, bytes ≤ size ∧
    inUse (b.split bytes) = [⟨b.offset, .allocated, size⟩] := by
  obtain ⟨size, rest, enough, unused, split⟩ := b.split_cons bytes
  refine ⟨size, enough, ?_⟩
  rw [split, inUse_cons, if_pos rfl, unused]

end Block

theorem inUse_released (below : List Block) (b : Block) (above : List Block) :
    inUse (released below b above) = inUse (below ++ above) := by
  unfold released
  induction below with
  | nil =>
    rw [List.foldr_nil, Block.inUse_settle, inUse_cons, if_neg (by simp), List.nil_append]
  | cons c below ih =>
    rw [List.foldr_cons, Block.inUse_settle, inUse_cons, ih, List.cons_append, inUse_cons]

section

variable {below above : List Block} {b c : Block}

/-- A block that becomes free does not join a block in use below it. -/
theorem released_of_allocated (parted : Parted (below ++ c :: b :: above))
    (inUse : c.kind = .allocated) : released (below ++ [c]) b above =
      below ++ c :: Block.settle { b with kind := .free } above := by
  rw [released, List.foldr_append, List.foldr_cons, List.foldr_nil,
    Block.settle_of_allocated inUse, parted.foldr_settle rfl]

/-- A block that becomes free joins the free block below it. -/
theorem released_of_free (parted : Parted (below ++ c :: b :: above)) (free : c.kind = .free) :
    released (below ++ [c]) b above =
      below ++ (c.fuse { b with kind := .free }).settle above := by
  rw [released, List.foldr_append, List.foldr_cons, List.foldr_nil,
    Block.settle_settle free rfl, parted.foldr_settle]
  exact Block.kind_head_settle _ _

end

namespace Heap

open Region

/-- The blocks are what the heap consists of. -/
structure LaidOut (h : Heap) (blocks : List Block) : Prop where
  tiled : Tiles 0 h.capacity blocks
  parted : Parted blocks
  indexed : h.Indexed blocks

variable {h : Heap} {blocks below above : List Block} {b c : Block}

/-! ### Merging with the neighbours -/

namespace Indexed

theorem mergeBelow_bottom (bottom : b.offset = 0) :
    h.mergeBelow b.offset = .ok (b.offset, h) := by
  rw [bottom, mergeBelow, if_pos (by decide)]

theorem trailer_below (hi : h.Indexed (below ++ c :: b :: above)) (touch : c.endAt = b.offset) :
    h.region.trailer? (b.offset - trailerSize) =
      .ok ⟨c.kind.word, (h.region.header c.offset).size⟩ := by
  have memC : c ∈ below ++ c :: b :: above := by simp
  have inside := hi.carries.inside c memC
  have at_c : b.offset - trailerSize = c.trailerAt := by
    rw [← touch, Block.endAt_eq]
    exact Nat.add_sub_cancel ..
  rw [at_c, ← (hi.carries.tagged c memC).trailer]
  apply trailer?_eq
  rw [← Block.endAt_eq]
  exact inside

theorem mergeBelow_allocated (hi : h.Indexed (below ++ c :: b :: above))
    (touch : c.endAt = b.offset) (inUse : c.kind = .allocated) :
    h.mergeBelow b.offset = .ok (b.offset, h) := by
  have notBottom : ¬ b.offset < trailerSize := by
    simp only [← touch, Block.endAt, overhead]
    omega
  rw [mergeBelow, if_neg notBottom, hi.trailer_below touch, inUse]
  rfl

theorem mergeBelow_free (hi : h.Indexed (below ++ c :: b :: above)) (touch : c.endAt = b.offset)
    (freeC : c.kind = .free) (freeB : b.kind = .free) :
    ∃ h', h.mergeBelow b.offset = .ok (c.offset, h') ∧ h'.Indexed (below ++ c.fuse b :: above) ∧
      h'.capacity = h.capacity ∧ h.region.Keeps h'.region (below ++ above) := by
  obtain ⟨h', merged, indexed, capacity, keeps⟩ := hi.merge touch freeC freeB
  have notBottom : ¬ b.offset < trailerSize := by
    simp only [← touch, Block.endAt, overhead]
    omega
  have sizeC : (h.region.header c.offset).size.toNat = c.size := hi.payload (by simp)
  have enough : ¬ b.offset < overhead + c.size := by
    simp only [← touch, Block.endAt]
    omega
  have lower : b.offset - overhead - c.size = c.offset := by
    simp only [← touch, Block.endAt]
    omega
  refine ⟨h', ?_, indexed, capacity, keeps⟩
  rw [mergeBelow, if_neg notBottom, hi.trailer_below touch, freeC]
  simp only [bind, Except.bind, BlockKind.ofWord?_word, if_true, sizeC, if_neg enough, lower,
    merged]
  rfl

theorem mergeAbove (hi : h.Indexed (below ++ b :: above)) (freeB : b.kind = .free)
    (tiled : Tiles b.offset h.capacity (b :: above)) :
    ∃ h', h.mergeAbove b.offset = .ok h' ∧ h'.Indexed (below ++ b.settle above) ∧
      h'.capacity = h.capacity ∧ h.region.Keeps h'.region (inUse (below ++ above)) := by
  have upper : (h.region.header b.offset).endAt b.offset = b.endAt := by
    rw [Header.endAt, Header.trailerAt, hi.payload (by simp), Block.endAt_eq, Block.trailerAt]
  rw [Heap.mergeAbove, hi.header? (by simp)]
  simp only [bind, Except.bind, upper]
  cases above with
  | nil =>
    have top : b.endAt = h.capacity := tiled.2
    rw [if_neg (by omega)]
    exact ⟨h, rfl, hi, rfl, Keeps.refl _ _⟩
  | cons c above =>
    obtain ⟨-, touch, rest⟩ := tiled
    have memC : c ∈ below ++ b :: c :: above := by simp
    have insideC : b.endAt < h.capacity := by
      have inside := rest.bounds.1
      rw [← touch]
      simp only [Block.endAt, overhead, headerSize] at inside ⊢
      omega
    rw [if_pos insideC, ← touch, hi.header? memC]
    simp only [(hi.carries.tagged c memC).kind, BlockKind.ofWord?_word, Option.some.injEq]
    cases kind : c.kind with
    | free =>
      obtain ⟨h', merged, indexed, capacity, keeps⟩ := hi.merge touch.symm freeB kind
      refine ⟨h', merged, ?_, capacity, keeps.mono ?_⟩
      · rw [Block.settle_of_free freeB kind]
        exact indexed
      · rw [inUse_append, inUse_cons, if_neg (by simp [kind]), ← inUse_append]
        exact inUse_subset _
    | allocated =>
      have stays : b.settle (c :: above) = b :: c :: above := by
        rw [Block.settle, if_neg]
        simp [kind]
      rw [stays]
      exact ⟨h, rfl, hi, rfl, Keeps.refl _ _⟩

end Indexed

namespace LaidOut

theorem inside (hl : h.LaidOut blocks) (hb : b ∈ blocks) : b.endAt ≤ h.capacity :=
  (hl.tiled.bounds.2 b hb).2

/-- A block gives way to others that cover the same bytes. -/
theorem bounds (hl : h.LaidOut (below ++ b :: above)) :
    (∀ c ∈ below, c.endAt ≤ b.offset) ∧ (∀ c ∈ above, b.endAt ≤ c.offset) ∧
      b.endAt ≤ h.capacity := by
  obtain ⟨-, ascending, between⟩ := List.pairwise_append.mp hl.tiled.ascending
  refine ⟨fun c hc => ?_, ?_, hl.inside (by simp)⟩
  · exact between c hc b List.mem_cons_self
  · exact (List.pairwise_cons.mp ascending).1

/-! ### Taking back -/

/-- What `free` does before it merges: the block changes its kind. -/
theorem recast (hl : h.LaidOut (below ++ b :: above)) (kind : BlockKind) {size : Nat}
    (le : size ≤ b.size) :
    ∃ h₁ h₂ h₃, h.unlink b.kind b.offset = .ok h₁ ∧
      h₁.region.header? b.offset = .ok (h₁.region.header b.offset) ∧
      (h₁.region.header b.offset).payload = b.size ∧
      h₁.putBlock b.offset kind size = .ok h₂ ∧
      h₂.Linked (below ++ ⟨b.offset, kind, size⟩ :: above)
        (fun kind => offsetsOf kind (below ++ above)) ∧
      h₂.link kind b.offset = .ok h₃ ∧
      h₃.Indexed (below ++ ⟨b.offset, kind, size⟩ :: above) ∧ h₃.capacity = h.capacity ∧
      h.region.Keeps h₃.region (below ++ above) := by
  obtain ⟨low, high, inside⟩ := hl.bounds
  obtain ⟨h₁, unlinked, indexed₁, carries₁, capacity₁, keeps₁⟩ := hl.indexed.withdraw
  have shorter : Block.endAt ⟨b.offset, kind, size⟩ ≤ b.endAt := by
    simp only [Block.endAt]
    omega
  have memB : b ∈ below ++ b :: above := by simp
  obtain ⟨h₂, h₃, put, between, linked, indexed₃, capacity₃, keeps₃⟩ :=
    indexed₁.place (b := ⟨b.offset, kind, size⟩) low
      (fun c hc => Nat.le_trans shorter (high c hc))
      (by rw [capacity₁]; exact Nat.le_trans shorter inside)
  refine ⟨h₁, h₂, h₃, unlinked, ?_, (carries₁.tagged b memB).size, put, between, linked,
    indexed₃, capacity₃.trans capacity₁, (keeps₁.mono ?_).trans keeps₃⟩
  · exact carries₁.header? (List.mem_map_of_mem memB)
  · exact ((List.sublist_cons_self b above).append_left below).subset

/-- Merging in both directions joins a block that became free with its free neighbours. -/
theorem merged {h' : Heap} (hl : h.LaidOut (below ++ b :: above))
    (hi : h'.Indexed (below ++ { b with kind := .free } :: above))
    (same : h'.capacity = h.capacity) :
    ∃ off h₁ h₂, h'.mergeBelow b.offset = .ok (off, h₁) ∧ h₁.mergeAbove off = .ok h₂ ∧
      h₂.Indexed (released below b above) ∧ h₂.capacity = h.capacity ∧
      h'.region.Keeps h₂.region (inUse (below ++ above)) := by
  let freed : Block := { b with kind := .free }
  obtain ⟨mid, front, start, back⟩ := Tiles.append.mp hl.tiled
  rw [← same] at back
  -- the neighbour below is the last block of `below`, if there is one
  rcases below.eq_nil_or_concat with rfl | ⟨below, c, rfl⟩
  · have bottom : freed.offset = 0 := start.trans front.symm
    obtain ⟨h₂, done, indexed, capacity, keeps⟩ := hi.mergeAbove rfl ⟨rfl, back⟩
    exact ⟨b.offset, h', h₂, Indexed.mergeBelow_bottom (b := freed) bottom, done, indexed,
      capacity.trans same, keeps⟩
  · rw [List.concat_eq_append] at *
    obtain ⟨mid', -, -, touch⟩ := Tiles.append.mp front
    have touch : c.endAt = freed.offset := touch.trans start.symm
    rw [List.append_assoc] at hi
    have parted := hl.parted
    rw [List.append_assoc] at parted
    cases kind : c.kind with
    | allocated =>
      have hi' : h'.Indexed ((below ++ [c]) ++ freed :: above) := by
        rw [List.append_assoc]
        exact hi
      obtain ⟨h₂, done, indexed, capacity, keeps⟩ := hi'.mergeAbove rfl ⟨rfl, back⟩
      refine ⟨b.offset, h', h₂, hi.mergeBelow_allocated touch kind, done, ?_, capacity.trans same,
        keeps⟩
      rw [released_of_allocated parted kind, List.append_cons]
      exact indexed
    | free =>
      obtain ⟨h₁, below₁, indexed₁, capacity₁, keeps₁⟩ := hi.mergeBelow_free touch kind rfl
      have fusedEnd := Block.endAt_fuse touch
      have tiled₁ : Tiles c.offset h₁.capacity (c.fuse freed :: above) := by
        refine ⟨rfl, ?_⟩
        rw [fusedEnd, capacity₁]
        exact back
      obtain ⟨h₂, done, indexed, capacity, keeps⟩ := indexed₁.mergeAbove kind tiled₁
      have live : inUse (below ++ [c] ++ above) = inUse (below ++ above) := by
        rw [inUse_append, inUse_append, inUse_cons, if_neg (by simp [kind]), inUse_append,
          inUse_nil, List.append_nil]
      refine ⟨c.offset, h₁, h₂, below₁, done, ?_, capacity.trans (capacity₁.trans same), ?_⟩
      · rw [released_of_free parted kind]
        exact indexed
      · rw [live]
        exact (keeps₁.mono (inUse_subset _)).trans keeps

theorem mem_listed_allocated (hl : h.LaidOut blocks) (off : Nat) :
    ∃ listed, h.listed .allocated = .ok listed ∧
      (listed.any (·.offset = off) = true ↔ ∃ b ∈ inUse blocks, b.offset = off) := by
  refine ⟨_, hl.indexed.listed .allocated, ?_⟩
  rw [List.any_map, List.any_eq_true]
  simp [inUse]

/-- An address at which no block in use starts is not met on a walk. -/
theorem not_listed (hl : h.LaidOut blocks) {address : Nat}
    (unknown : ∀ b ∈ inUse blocks, b.address ≠ address) (low : ¬ address < headerSize) :
    ∃ listed, h.listed .allocated = .ok listed ∧
      ¬ listed.any (·.offset = address - headerSize) = true := by
  obtain ⟨listed, found, mem⟩ := hl.mem_listed_allocated (address - headerSize)
  refine ⟨listed, found, fun present => ?_⟩
  obtain ⟨b, hb, offset⟩ := mem.mp present
  apply unknown b hb
  rw [Block.address, offset]
  exact Nat.sub_add_cancel (Nat.le_of_not_lt low)

/-- Only the address of a block in use can be taken back. -/
theorem free_unknown (hl : h.LaidOut blocks) {address : Nat}
    (unknown : ∀ b ∈ inUse blocks, b.address ≠ address) :
    h.free address = .error (.invalidAddress address) := by
  unfold Heap.free
  by_cases low : address < headerSize
  · rw [if_pos low]
  · obtain ⟨listed, found, absent⟩ := hl.not_listed unknown low
    rw [if_neg low, found]
    simp only [bind, Except.bind, if_neg absent]

/-- A block in use becomes free, joined with its free neighbours. -/
theorem free (hl : h.LaidOut (below ++ b :: above)) (inUseB : b.kind = .allocated) :
    ∃ h', h.free b.address = .ok h' ∧ h'.LaidOut (released below b above) ∧
      h'.capacity = h.capacity ∧ h.region.Keeps h'.region (inUse (below ++ above)) := by
  obtain ⟨h₁, h₂, h₃, unlinked, header, payload, put, -, linked, indexed₃, capacity₃, keeps₃⟩ :=
    hl.recast .free (Nat.le_refl b.size)
  obtain ⟨off, h₄, h₅, below₄, above₅, indexed₅, capacity₅, keeps₅⟩ := hl.merged indexed₃ capacity₃
  obtain ⟨listed, found, mem⟩ := hl.mem_listed_allocated b.offset
  have present : listed.any (·.offset = b.offset) = true :=
    mem.mpr ⟨b, mem_inUse.mpr ⟨by simp, inUseB⟩, rfl⟩
  have notLow : ¬ b.address < headerSize := by
    rw [Block.address]
    omega
  have offset : b.address - headerSize = b.offset := Nat.add_sub_cancel ..
  refine ⟨h₅, ?_, ⟨?_, hl.parted.released, indexed₅⟩, capacity₅, ?_⟩
  · rw [inUseB] at unlinked
    rw [Heap.free, if_neg notLow, offset, found]
    simp only [bind, Except.bind, if_pos present, unlinked, header, payload, put, linked, below₄,
      above₅]
  · rw [capacity₅]
    exact hl.tiled.released
  · exact (keeps₃.mono (inUse_subset _)).trans keeps₅

/-! ### Handing out -/

theorem find_none {bytes : Nat} {r : Region}
    (sizes : ∀ b ∈ blocks, (r.header b.offset).payload = b.size)
    (none : ∀ b ∈ blocks, ¬ b.Fits bytes) :
    ((blocks.filter (·.kind = .free)).map fun b => Listed.mk b.offset (r.header b.offset)).find?
      (fun b => bytes + overhead ≤ b.header.payload) = Option.none := by
  rw [List.find?_eq_none]
  intro listed member enough
  obtain ⟨b, hb, rfl⟩ := List.mem_map.mp member
  obtain ⟨hb, free⟩ := List.mem_filter.mp hb
  have enough := of_decide_eq_true enough
  rw [sizes b hb] at enough
  exact none b hb ⟨of_decide_eq_true free, enough⟩

theorem find_first {bytes : Nat} {r : Region}
    (sizes : ∀ c ∈ below ++ b :: above, (r.header c.offset).payload = c.size) (fits : b.Fits bytes)
    (first : ∀ c ∈ below, ¬ c.Fits bytes) :
    (((below ++ b :: above).filter (·.kind = .free)).map fun c =>
      Listed.mk c.offset (r.header c.offset)).find?
        (fun c => bytes + overhead ≤ c.header.payload) = some ⟨b.offset, r.header b.offset⟩ := by
  have noneBelow := find_none (fun c hc => sizes c (List.mem_append_left (b :: above) hc)) first
  rw [List.filter_append, List.map_append, List.find?_append, noneBelow, Option.none_or,
    List.filter_cons_of_pos, List.map_cons, List.find?_cons_of_pos]
  · apply decide_eq_true
    rw [sizes b (by simp)]
    exact fits.2
  · exact decide_eq_true fits.1

/-- What `allocate` does with the rest of a block that it has split. -/
theorem putRest {h' : Heap} {bytes : Nat} (hl : h.LaidOut (below ++ b :: above))
    (enough : bytes + overhead ≤ b.size)
    (hi : h'.Indexed (below ++ ⟨b.offset, .allocated, bytes⟩ :: above))
    (same : h'.capacity = h.capacity) :
    ∃ h₁ h₂,
      h'.putBlock (b.offset + overhead + bytes) .free (b.size - (bytes + overhead)) = .ok h₁ ∧
      h₁.Linked (below ++ ⟨b.offset, .allocated, bytes⟩ ::
        ⟨b.offset + overhead + bytes, .free, b.size - (bytes + overhead)⟩ :: above)
        (fun kind => offsetsOf kind (below ++ ⟨b.offset, .allocated, bytes⟩ :: above)) ∧
      h₁.link .free (b.offset + overhead + bytes) = .ok h₂ ∧
      h₂.Indexed (below ++ ⟨b.offset, .allocated, bytes⟩ ::
        ⟨b.offset + overhead + bytes, .free, b.size - (bytes + overhead)⟩ :: above) ∧
      h₂.capacity = h.capacity ∧ h'.region.Keeps h₂.region (below ++ above) := by
  obtain ⟨low, high, inside⟩ := hl.bounds
  let lower : Block := ⟨b.offset, .allocated, bytes⟩
  let upper : Block := ⟨b.offset + overhead + bytes, .free, b.size - (bytes + overhead)⟩
  have sameEnd : upper.endAt = b.endAt := by
    simp only [upper, Block.endAt]
    omega
  have lowUpper : ∀ c ∈ below ++ [lower], c.endAt ≤ upper.offset := by
    intro c hc
    rcases List.mem_append.mp hc with hc | hc
    · have under := low c hc
      simp only [upper]
      omega
    · rw [List.mem_singleton.mp hc]
      exact Nat.le_refl _
  have highUpper : ∀ c ∈ above, upper.endAt ≤ c.offset := by
    rw [sameEnd]
    exact high
  have insideUpper : upper.endAt ≤ h'.capacity := by
    rw [sameEnd, same]
    exact inside
  have hi : h'.Indexed ((below ++ [lower]) ++ above) := by
    rw [List.append_assoc]
    exact hi
  obtain ⟨h₁, h₂, put, between, linked, indexed, capacity, keeps⟩ :=
    hi.place lowUpper highUpper insideUpper
  simp only [List.append_assoc, List.singleton_append] at between indexed
  refine ⟨h₁, h₂, put, between, linked, indexed, capacity.trans same, keeps.mono ?_⟩
  rw [List.append_assoc]
  exact ((List.sublist_cons_self lower above).append_left below).subset

theorem allocate_refused {bytes : Nat} (hl : h.LaidOut blocks) (pos : bytes ≠ 0)
    (none : ∀ b ∈ blocks, ¬ b.Fits bytes) :
    h.allocate bytes = .error (.outOfMemory bytes h.largestFree) := by
  have absent := find_none (fun b hb => hl.indexed.payload hb) none
  rw [Heap.allocate, if_neg pos, hl.indexed.listed .free]
  simp only [bind, Except.bind, absent]

/-- The lowest free block that is large enough is split. -/
theorem allocate {bytes : Nat} (hl : h.LaidOut (below ++ b :: above)) (pos : bytes ≠ 0)
    (fits : b.Fits bytes) (first : ∀ c ∈ below, ¬ c.Fits bytes) :
    ∃ h', h.allocate bytes = .ok (b.address, h') ∧
      h'.LaidOut (below ++ (b.split bytes ++ above)) ∧ h'.capacity = h.capacity ∧
      h.region.Keeps h'.region (below ++ above) := by
  have payload := hl.indexed.payload (show b ∈ below ++ b :: above by simp)
  have found := find_first (fun c hc => hl.indexed.payload hc) fits first
  obtain ⟨free, enough⟩ := fits
  have tiled := hl.tiled.replace (Tiles.split enough)
  have parted := hl.parted.split bytes free
  rw [Heap.allocate, if_neg pos, hl.indexed.listed .free]
  simp only [bind, Except.bind, found, payload]
  by_cases whole : b.size = bytes + overhead
  · obtain ⟨h₁, h₂, h₃, unlinked, -, -, put, -, linked, indexed, capacity, keeps⟩ :=
      hl.recast .allocated (Nat.le_of_eq whole.symm)
    have split : b.split bytes = [⟨b.offset, .allocated, bytes + overhead⟩] := by
      rw [Block.split, if_pos whole, whole]
    rw [free] at unlinked
    rw [split] at tiled parted ⊢
    refine ⟨h₃, ?_, ⟨?_, parted, indexed⟩, capacity, keeps⟩
    · simp only [unlinked, if_pos whole, put, linked]
      rfl
    · rw [capacity]
      exact tiled
  · obtain ⟨h₁, h₂, h₃, unlinked, -, -, put, -, linked, indexed₃, capacity₃, keeps₃⟩ :=
      hl.recast .allocated (show bytes ≤ b.size by omega)
    obtain ⟨h₄, h₅, putUpper, -, linkUpper, indexed, capacity, keeps⟩ :=
      hl.putRest enough indexed₃ capacity₃
    have split : b.split bytes = [⟨b.offset, .allocated, bytes⟩,
        ⟨b.offset + overhead + bytes, .free, b.size - (bytes + overhead)⟩] := by
      rw [Block.split, if_neg whole]
    rw [free] at unlinked
    rw [split] at tiled parted ⊢
    refine ⟨h₅, ?_, ⟨?_, parted, indexed⟩, capacity, keeps₃.trans keeps⟩
    · simp only [unlinked, if_neg whole, put, linked, putUpper, linkUpper]
      rfl
    · rw [capacity]
      exact tiled

/-! ### What a call can do -/

theorem allocate_cases (hl : h.LaidOut blocks) (bytes : Nat) :
    (bytes = 0 ∧ h.allocate bytes = .error .zeroSized) ∨
    (bytes ≠ 0 ∧ (∀ b ∈ blocks, ¬ b.Fits bytes) ∧
      h.allocate bytes = .error (.outOfMemory bytes h.largestFree)) ∨
    ∃ below b above h', blocks = below ++ b :: above ∧ bytes ≠ 0 ∧ b.Fits bytes ∧
      (∀ c ∈ below, ¬ c.Fits bytes) ∧ h.allocate bytes = .ok (b.address, h') ∧
      h'.LaidOut (below ++ (b.split bytes ++ above)) ∧ h'.capacity = h.capacity ∧
      h.region.Keeps h'.region (below ++ above) := by
  by_cases zero : bytes = 0
  · left
    refine ⟨zero, ?_⟩
    rw [Heap.allocate, if_pos zero]
  · right
    cases found : blocks.find? (Block.Fits bytes) with
    | none =>
      left
      have none : ∀ b ∈ blocks, ¬ b.Fits bytes := by
        simpa using found
      exact ⟨zero, none, hl.allocate_refused zero none⟩
    | some b =>
      right
      obtain ⟨fits, below, above, rfl, first⟩ := List.find?_eq_some_iff_append.mp found
      have fits : b.Fits bytes := of_decide_eq_true fits
      have first : ∀ c ∈ below, ¬ c.Fits bytes := by
        simpa using first
      obtain ⟨h', done, laidOut, capacity, keeps⟩ := hl.allocate zero fits first
      exact ⟨below, b, above, h', rfl, zero, fits, first, done, laidOut, capacity, keeps⟩

theorem free_cases (hl : h.LaidOut blocks) (address : Nat) :
    ((∀ b ∈ inUse blocks, b.address ≠ address) ∧
      h.free address = .error (.invalidAddress address)) ∨
    ∃ below b above h', blocks = below ++ b :: above ∧ b.kind = .allocated ∧ b.address = address ∧
      h.free address = .ok h' ∧ h'.LaidOut (released below b above) ∧
      h'.capacity = h.capacity ∧ h.region.Keeps h'.region (inUse (below ++ above)) := by
  by_cases known : ∃ b ∈ inUse blocks, b.address = address
  · right
    obtain ⟨b, hb, rfl⟩ := known
    obtain ⟨member, allocated⟩ := mem_inUse.mp hb
    obtain ⟨below, above, rfl⟩ := List.append_of_mem member
    obtain ⟨h', done, laidOut, capacity, keeps⟩ := hl.free allocated
    exact ⟨below, b, above, h', rfl, allocated, rfl, done, laidOut, capacity, keeps⟩
  · left
    have unknown : ∀ b ∈ inUse blocks, b.address ≠ address := by
      intro b hb eq
      exact known ⟨b, hb, eq⟩
    exact ⟨unknown, hl.free_unknown unknown⟩

end LaidOut

/-! ### A new heap -/

/-- A new heap is one free block. -/
theorem create_ok {size : Nat} (low : overhead < size) (high : size < UInt32.size) :
    ∃ h, create size = .ok h ∧ h.LaidOut [⟨0, .free, size - overhead⟩] ∧ h.capacity = size := by
  let block : Block := ⟨0, .free, size - overhead⟩
  let header : Header :=
    ⟨BlockKind.free.word, .ofNat 0, .ofNat (size - overhead), Link.nil, Link.nil⟩
  have top : block.endAt = size := by
    simp only [block, Block.endAt]
    omega
  have small : size - overhead < Link.nil.toNat := by
    have nil : Link.nil.toNat = 4294967295 := rfl
    simp only [overhead, headerSize, UInt32.size] at high ⊢
    omega
  have blank : (Region.zeroed size).Carries ([] ++ []) :=
    ⟨high, List.Pairwise.nil, fun b hb => absurd hb List.not_mem_nil,
      fun b hb => absurd hb List.not_mem_nil⟩
  obtain ⟨r₁, r, putHeader, putTrailer, carries, sameSize, -, own, -⟩ :=
    Carries.putTags (b := block) blank header (fun c hc => absurd hc List.not_mem_nil)
      (fun c hc => absurd hc List.not_mem_nil) (Nat.le_of_eq top) rfl rfl (Link.toNat_ofNat small)
  have links : r.links 0 = some ⟨none, none⟩ := by
    rw [Region.links, show r.header 0 = header from own]
    rfl
  refine ⟨⟨r, none, some 0⟩, ?_, ⟨⟨rfl, ?_⟩, List.isChain_singleton block, ?_⟩, sameSize⟩
  · rw [create, if_neg (Nat.not_le_of_lt low), if_neg (by omega), Region.putBlock,
      Link.word_eq (by decide), Link.word_eq small]
    simp only [bind, Except.bind, header, block] at putHeader putTrailer ⊢
    rw [putHeader]
    simp only [putTrailer]
    rfl
  · exact top.trans sameSize.symm
  · refine ⟨⟨?_, ?_, ?_⟩, carries, ?_, ?_⟩
    · intro kind
      exact (carries.ascending).offsetsOf kind
    · intro kind
      exact (offsetsOf_sublist kind [block]).subset
    · intro kind kind' ne off hoff hoff'
      obtain ⟨b, hb, rfl, -⟩ := mem_offsetsOf.mp hoff
      obtain ⟨b', hb', rfl, -⟩ := mem_offsetsOf.mp hoff'
      rw [List.mem_singleton.mp hb, List.mem_singleton.mp hb'] at ne
      exact ne rfl
    · intro kind
      cases kind <;> rfl
    · intro kind
      cases kind with
      | free => exact ⟨links, trivial⟩
      | allocated => trivial

theorem create_eq_ok {size : Nat} (created : create size = .ok h) :
    overhead < size ∧ size < UInt32.size ∧ h.LaidOut [⟨0, .free, size - overhead⟩] ∧
      h.capacity = size := by
  have low : overhead < size := by
    by_contra le
    rw [create, if_pos (Nat.le_of_not_lt le)] at created
    cases created
  have high : size < UInt32.size := by
    by_contra ge
    rw [create, if_neg (Nat.not_le_of_lt low), if_pos] at created
    · cases created
    · simp only [UInt32.size] at ge ⊢
      omega
  obtain ⟨h', created', laidOut, capacity⟩ := create_ok low high
  cases created.symm.trans created'
  exact ⟨low, high, laidOut, capacity⟩

end Heap

end TrapKernel
