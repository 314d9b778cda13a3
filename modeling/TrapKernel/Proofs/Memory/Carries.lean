import TrapKernel.Proofs.Memory.Layout
import TrapKernel.Proofs.Memory.Tags
import TrapKernel.Proofs.Thread

/-!
# The bytes of a heap

How the bytes of a region spell out blocks. `Region.Carries` says that the tags of some blocks are
written in the region; the blocks need not tile it. Writing links or tags is proved to succeed, and
`Region.Keeps` says that the payloads of some blocks were not written to.
-/

namespace TrapKernel

namespace Region

/-- The links in the header at `off`. -/
def links (r : Region) (off : Nat) : Option Links :=
  some ⟨Link.decode (r.header off).next, Link.decode (r.header off).prev⟩

/-- The tags of a block are written in the region: the header names its own offset, and the trailer
repeats kind and size. -/
structure Tagged (r : Region) (b : Block) : Prop where
  kind : (r.header b.offset).kind = b.kind.word
  start : (r.header b.offset).start.toNat = b.offset
  size : (r.header b.offset).payload = b.size
  trailer : r.trailer b.trailerAt = ⟨b.kind.word, (r.header b.offset).size⟩

/-- The tags of the blocks are written in the region, and 32 bits are enough for every offset. -/
structure Carries (r : Region) (blocks : List Block) : Prop where
  addressable : r.size < UInt32.size
  ascending : Ascending blocks
  inside : ∀ b ∈ blocks, b.endAt ≤ r.size
  tagged : ∀ b ∈ blocks, r.Tagged b

/-- The tags and the payload of the block are the same in both regions. -/
def Spares (r r' : Region) (b : Block) : Prop :=
  ∀ i, b.offset ≤ i → i < b.endAt → r'.byte i = r.byte i

/-- The payloads of the blocks are the same in both regions. -/
def Keeps (r r' : Region) (blocks : List Block) : Prop :=
  ∀ b ∈ blocks, ∀ i, b.address ≤ i → i < b.trailerAt → r'.byte i = r.byte i

/-- The blocks are still there and have other links; nothing else has changed. -/
structure Relinked (r r' : Region) (blocks : List Block) (links : Nat → Option Links) : Prop where
  carries : r'.Carries blocks
  size : r'.size = r.size
  links : ∀ off ∈ blocks.map (·.offset), r'.links off = links off
  keeps : r.Keeps r' blocks

variable {r r' r'' : Region} {blocks : List Block} {b : Block}

theorem Keeps.refl (r : Region) (blocks : List Block) : r.Keeps r blocks := fun _ _ _ _ _ => rfl

theorem Keeps.trans (h : r.Keeps r' blocks) (h' : r'.Keeps r'' blocks) : r.Keeps r'' blocks :=
  fun b hb i low high => (h' b hb i low high).trans (h b hb i low high)

theorem Keeps.mono {others : List Block} (h : r.Keeps r' blocks) (sub : others ⊆ blocks) :
    r.Keeps r' others := fun b hb => h b (sub hb)

theorem Tagged.congr (h : r.Tagged b) (header : r'.header b.offset = r.header b.offset)
    (trailer : r'.trailer b.trailerAt = r.trailer b.trailerAt) : r'.Tagged b where
  kind := header ▸ h.kind
  start := header ▸ h.start
  size := header ▸ h.size
  trailer := by rw [trailer, header, h.trailer]

/-! ### Writing beside a block -/

namespace Spares

theorem trans (h : r.Spares r' b) (h' : r'.Spares r'' b) : r.Spares r'' b :=
  fun i low high => (h' i low high).trans (h i low high)

theorem header (h : r.Spares r' b) : r'.header b.offset = r.header b.offset := by
  refine header_congr fun i low high => h i low ?_
  simp only [Block.endAt, overhead]
  omega

theorem trailer (h : r.Spares r' b) : r'.trailer b.trailerAt = r.trailer b.trailerAt := by
  refine trailer_congr fun i low high => h i ?_ ?_
  · simp only [Block.trailerAt] at low
    omega
  · rw [Block.endAt_eq]
    exact high

theorem tagged (h : r.Spares r' b) (tagged : r.Tagged b) : r'.Tagged b :=
  tagged.congr h.header h.trailer

theorem links (h : r.Spares r' b) : r'.links b.offset = r.links b.offset := by
  rw [Region.links, h.header, Region.links]

theorem payload (h : r.Spares r' b) {i : Nat} (low : b.address ≤ i) (high : i < b.trailerAt) :
    r'.byte i = r.byte i := by
  refine h i ?_ ?_
  · simp only [Block.address] at low
    omega
  · rw [Block.endAt_eq]
    omega

end Spares

theorem spares_putWords {off : Nat} {words : List UInt32}
    (apart : b.endAt ≤ off ∨ off + 4 * words.length ≤ b.offset) :
    r.Spares (r.putWords off words) b := by
  intro i low high
  refine byte_putWords_of_outside r words ?_
  omega

theorem keeps_of_spares (spares : ∀ b ∈ blocks, r.Spares r' b) : r.Keeps r' blocks :=
  fun b hb _ low high => (spares b hb).payload low high

/-! ### Links -/

namespace Carries

theorem offset_lt (h : r.Carries blocks) (hb : b ∈ blocks) : b.offset < Link.nil.toNat := by
  have top := h.inside b hb
  have bound := h.addressable
  have nil : Link.nil.toNat = 4294967295 := rfl
  simp only [Block.endAt, overhead, headerSize, UInt32.size] at top bound
  omega

theorem holds_header (h : r.Carries blocks) (hb : b ∈ blocks) : b.offset + headerSize ≤ r.size := by
  have top := h.inside b hb
  simp only [Block.endAt, overhead] at top
  omega

theorem header? (h : r.Carries blocks) {off : Nat} (known : off ∈ blocks.map (·.offset)) :
    r.header? off = .ok (r.header off) := by
  obtain ⟨b, hb, rfl⟩ := List.mem_map.mp known
  exact header?_eq (h.holds_header hb)

/-- The links of a block can be changed, and no other word depends on them. -/
theorem relink (h : r.Carries blocks) (hb : b ∈ blocks) (next prev : UInt32) :
    Relinked r (r.putWords b.offset { r.header b.offset with next, prev }.words) blocks fun off =>
      if off = b.offset then some ⟨Link.decode next, Link.decode prev⟩ else r.links off := by
  let header : Header := { r.header b.offset with next, prev }
  have own : (r.putWords b.offset header.words).header b.offset = header := header_putWords ..
  have spares : ∀ c ∈ blocks, b ≠ c → r.Spares (r.putWords b.offset header.words) c := by
    intro c hc ne
    apply spares_putWords
    rcases h.ascending.apart hb hc with eq | above | below
    · exact absurd eq ne
    · refine Or.inr (Nat.le_trans ?_ above)
      simp only [Block.endAt, overhead, headerSize, Header.words, List.length_cons, List.length_nil]
      omega
    · exact Or.inl below
  have ownTrailer : (r.putWords b.offset header.words).trailer b.trailerAt =
      r.trailer b.trailerAt := by
    refine trailer_congr fun i low _ => byte_putWords_of_outside r _ (Or.inr ?_)
    simp only [Block.trailerAt, headerSize, Header.words, List.length_cons,
      List.length_nil] at low ⊢
    omega
  have tagged : ∀ c ∈ blocks, (r.putWords b.offset header.words).Tagged c := by
    intro c hc
    by_cases eq : b = c
    · subst eq
      have tag := h.tagged b hb
      exact ⟨by rw [own]; exact tag.kind, by rw [own]; exact tag.start,
        by rw [own]; exact tag.size, by rw [own, ownTrailer]; exact tag.trailer⟩
    · exact (spares c hc eq).tagged (h.tagged c hc)
  refine ⟨⟨?_, h.ascending, ?_, tagged⟩, size_putWords .., ?_, ?_⟩
  · rw [size_putWords]
    exact h.addressable
  · rw [size_putWords]
    exact h.inside
  · intro off known
    obtain ⟨c, hc, rfl⟩ := List.mem_map.mp known
    by_cases eq : b = c
    · subst eq
      rw [if_pos rfl, links, own]
    · rw [if_neg fun same => eq (h.ascending.eq_of_offset hb hc same.symm)]
      exact (spares c hc eq).links
  · intro c hc i low high
    by_cases eq : b = c
    · subst eq
      refine byte_putWords_of_outside r _ (Or.inr ?_)
      simp only [Block.address, headerSize, Header.words, List.length_cons,
        List.length_nil] at low ⊢
      omega
    · exact (spares c hc eq).payload low high

/-- A link to a block can be written. -/
theorem encode (h : r.Carries blocks) {link : Option Nat}
    (known : ∀ n, link = some n → n ∈ blocks.map (·.offset)) :
    ∃ w, Link.encode link = .ok w ∧ Link.decode w = link := by
  refine Link.decode_encode fun n eq => ?_
  obtain ⟨b, hb, rfl⟩ := List.mem_map.mp (known n eq)
  exact h.offset_lt hb

theorem setNext (h : r.Carries blocks) {off : Nat} {next : Option Nat}
    (known : off ∈ blocks.map (·.offset))
    (knownNext : ∀ n, next = some n → n ∈ blocks.map (·.offset)) :
    ∃ r', r.setNext off next = .ok r' ∧ Relinked r r' blocks fun j =>
      if j = off then (r.links j).map ({ · with next }) else r.links j := by
  obtain ⟨b, hb, rfl⟩ := List.mem_map.mp known
  obtain ⟨w, encoded, decoded⟩ := h.encode knownNext
  have done := h.relink hb w (r.header b.offset).prev
  refine ⟨_, ?_, done.carries, done.size, fun j hj => ?_, done.keeps⟩
  · rw [Region.setNext, h.header? known, encoded]
    exact putHeader_eq _ (h.holds_header hb)
  · rw [done.links j hj, decoded]
    split
    · rename_i eq
      rw [eq]
      rfl
    · rfl

theorem setPrev (h : r.Carries blocks) {off : Nat} {prev : Option Nat}
    (known : off ∈ blocks.map (·.offset))
    (knownPrev : ∀ n, prev = some n → n ∈ blocks.map (·.offset)) :
    ∃ r', r.setPrev off prev = .ok r' ∧ Relinked r r' blocks fun j =>
      if j = off then (r.links j).map ({ · with prev }) else r.links j := by
  obtain ⟨b, hb, rfl⟩ := List.mem_map.mp known
  obtain ⟨w, encoded, decoded⟩ := h.encode knownPrev
  have done := h.relink hb (r.header b.offset).next w
  refine ⟨_, ?_, done.carries, done.size, fun j hj => ?_, done.keeps⟩
  · rw [Region.setPrev, h.header? known, encoded]
    exact putHeader_eq _ (h.holds_header hb)
  · rw [done.links j hj, decoded]
    split
    · rename_i eq
      rw [eq]
      rfl
    · rfl

theorem setLinks (h : r.Carries blocks) {off : Nat} {next prev : Option Nat}
    (known : off ∈ blocks.map (·.offset))
    (knownNext : ∀ n, next = some n → n ∈ blocks.map (·.offset))
    (knownPrev : ∀ n, prev = some n → n ∈ blocks.map (·.offset)) :
    ∃ r', r.setLinks off next prev = .ok r' ∧ Relinked r r' blocks fun j =>
      if j = off then (r.links j).map fun _ => ⟨next, prev⟩ else r.links j := by
  obtain ⟨r₁, done₁, changed₁⟩ := h.setNext known knownNext
  obtain ⟨r₂, done₂, changed₂⟩ := changed₁.carries.setPrev known knownPrev
  refine ⟨r₂, ?_, changed₂.carries, changed₂.size.trans changed₁.size, fun j hj => ?_,
    changed₁.keeps.trans changed₂.keeps⟩
  · rw [Region.setLinks, done₁]
    exact done₂
  · rw [changed₂.links j hj, changed₁.links j hj]
    by_cases eq : j = off
    · simp only [if_pos eq, Option.map_map, Function.comp_def]
    · simp only [if_neg eq]

/-! ### Blocks -/

theorem sublist {others : List Block} (h : r.Carries blocks) (sub : others.Sublist blocks) :
    r.Carries others where
  addressable := h.addressable
  ascending := h.ascending.sublist sub
  inside := fun b hb => h.inside b (sub.subset hb)
  tagged := fun b hb => h.tagged b (sub.subset hb)

/-- A block can be added where the region was left to it. -/
theorem insert {below above : List Block} (h : r.Carries (below ++ above))
    (spares : ∀ c ∈ below ++ above, r.Spares r' c) (size : r'.size = r.size) (tagged : r'.Tagged b)
    (low : ∀ c ∈ below, c.endAt ≤ b.offset) (high : ∀ c ∈ above, b.endAt ≤ c.offset)
    (inside : b.endAt ≤ r.size) : r'.Carries (below ++ b :: above) := by
  have mem : ∀ c ∈ below ++ b :: above, c = b ∨ c ∈ below ++ above := by
    intro c hc
    rw [List.mem_append, List.mem_cons, or_left_comm] at hc
    rwa [List.mem_append]
  refine ⟨?_, ?_, fun c hc => ?_, fun c hc => ?_⟩
  · rw [size]
    exact h.addressable
  · obtain ⟨ascBelow, ascAbove, between⟩ := List.pairwise_append.mp h.ascending
    refine List.pairwise_append.mpr ⟨ascBelow, List.pairwise_cons.mpr ⟨high, ascAbove⟩, ?_⟩
    intro c hc d hd
    rcases List.mem_cons.mp hd with rfl | hd
    · exact low c hc
    · exact between c hc d hd
  · rw [size]
    rcases mem c hc with rfl | hc
    · exact inside
    · exact h.inside c hc
  · rcases mem c hc with rfl | hc
    · exact tagged
    · exact (spares c hc).tagged (h.tagged c hc)

/-- Both tags of a block can be written where no other block is. -/
theorem putTags {below above : List Block} (h : r.Carries (below ++ above)) (header : Header)
    (low : ∀ c ∈ below, c.endAt ≤ b.offset) (high : ∀ c ∈ above, b.endAt ≤ c.offset)
    (inside : b.endAt ≤ r.size) (kind : header.kind = b.kind.word)
    (start : header.start.toNat = b.offset) (size : header.payload = b.size) :
    ∃ r₁ r', r.putHeader b.offset header = .ok r₁ ∧
      r₁.putTrailer (header.trailerAt b.offset) ⟨b.kind.word, header.size⟩ = .ok r' ∧
      r'.Carries (below ++ b :: above) ∧ r'.size = r.size ∧ r.Keeps r' (below ++ above) ∧
      r'.header b.offset = header ∧
      ∀ off ∈ (below ++ above).map (·.offset), r'.links off = r.links off := by
  let trailer : Trailer := ⟨b.kind.word, header.size⟩
  let r₁ := r.putWords b.offset header.words
  let r' := r₁.putWords b.trailerAt trailer.words
  have trailerAt : header.trailerAt b.offset = b.trailerAt := by
    rw [Header.trailerAt, size, Block.trailerAt]
  have spares : ∀ c ∈ below ++ above, r.Spares r' c := by
    intro c hc
    have apart : c.endAt ≤ b.offset ∨ b.endAt ≤ c.offset :=
      (List.mem_append.mp hc).imp (low c) (high c)
    refine .trans (spares_putWords ?_) (spares_putWords ?_)
    · refine apart.imp_right (Nat.le_trans ?_)
      simp only [Block.endAt, overhead, headerSize, Header.words, List.length_cons, List.length_nil]
      omega
    · refine apart.imp (fun le => Nat.le_trans le ?_) (Nat.le_trans ?_)
      · simp only [Block.trailerAt]
        omega
      · simp only [Block.endAt, Block.trailerAt, overhead, trailerSize, Trailer.words,
          List.length_cons, List.length_nil]
        omega
  have ownHeader : r'.header b.offset = header := by
    rw [← header_putWords r b.offset header]
    refine header_congr fun i _ high => byte_putWords_of_outside _ _ (Or.inl ?_)
    simp only [Block.trailerAt]
    omega
  have ownTrailer : r'.trailer b.trailerAt = trailer := trailer_putWords ..
  have tagged : r'.Tagged b :=
    ⟨ownHeader ▸ kind, ownHeader ▸ start, ownHeader ▸ size, by rw [ownTrailer, ownHeader]⟩
  have size' : r'.size = r.size := (size_putWords ..).trans (size_putWords ..)
  refine ⟨r₁, r', ?_, ?_, h.insert spares size' tagged low high inside, size',
    keeps_of_spares spares, ownHeader, ?_⟩
  · refine putHeader_eq header ?_
    simp only [Block.endAt, overhead] at inside
    omega
  · rw [trailerAt]
    refine putTrailer_eq trailer ?_
    rw [size_putWords]
    simp only [Block.endAt, Block.trailerAt, overhead] at inside ⊢
    omega
  · intro off known
    obtain ⟨c, hc, rfl⟩ := List.mem_map.mp known
    exact (spares c hc).links

end Carries

end Region

end TrapKernel
