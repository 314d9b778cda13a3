import TrapKernel.Proofs.Memory.Traced
import TrapKernel.Proofs.Memory.Verify
import TrapKernel.Proofs.Steps

/-!
# No call goes astray

Whatever was asked of a heap before, a call reads and writes only inside the region, puts no number
into a tag that would be cut or taken for a missing link, finds the lower neighbour where it looks
for it, and walks lists that lead upwards and end. What a call checks for itself is fine unless it
answers that the tags contradict each other, and that never happens; the walks and the neighbour are
fine because the heap is laid out before every single step.
-/

namespace TrapKernel

/-- The forward links lead from `first` over the headers at `offsets` to the end of the list. -/
def Region.Leads (r : Region) : (first : Option Nat) → (offsets : List Nat) → Prop
  | first, [] => first = none
  | first, off :: offsets => first = some off ∧ r.Leads (Link.decode (r.header off).next) offsets

/-- Where the blocks of a heap start. -/
def Heap.starts (h : Heap) : List Nat := ((tiles h.region 0 false).toOption.getD []).map (·.1)

/-- A block of the heap starts at `lower`, and its header says that it ends at `off`. -/
structure Heap.Neighbours (h : Heap) (r : Region) (lower off : Nat) : Prop where
  starts : lower ∈ h.starts
  named : (r.header lower).start.toNat = lower
  ends : (r.header lower).endAt lower = off

/-- What a call of the heap may do on its way. -/
def Touch.Fine (h : Heap) : Touch → Prop
  | .tag r off count => r.Holds off count
  | .number n => n < Link.nil.toNat
  | .below r off size => overhead + size ≤ off ∧ h.Neighbours r (off - overhead - size) off
  | .walk r first => ∃ offsets, r.Leads first offsets ∧ offsets.Pairwise (· < ·) ∧
      offsets.length ≤ h.starts.length

namespace Traced

/-- Everything that is done on the way is fine, unless the tags are found in contradiction. -/
structure Careful {α : Type} (h : Heap) (m : Traced α) : Prop where
  fine : (∀ off reason, m.result ≠ .error (.corrupt off reason)) → ∀ t ∈ m.touches, t.Fine h

variable {α β : Type} {h g : Heap} {r : Region} {kind : BlockKind} {off : Nat}

namespace Careful

theorem pure (a : α) : (Pure.pure a : Traced α).Careful h := by
  refine ⟨fun _ t member => ?_⟩
  cases member

theorem fail (e : MemoryError) : (Traced.fail e : Traced α).Careful h := by
  refine ⟨fun _ t member => ?_⟩
  cases member

theorem touch {t : Touch} (fine : t.Fine h) : (Traced.touch t).Careful h := by
  refine ⟨fun _ s member => ?_⟩
  rwa [List.mem_singleton.mp member]

/-- A step that is refused if it is not fine. -/
theorem checked {result : Except MemoryError α} {t : Touch}
    (refused : ¬ t.Fine h → ∃ off reason, result = .error (.corrupt off reason)) :
    Careful h ⟨result, [t]⟩ := by
  refine ⟨fun clean s member => ?_⟩
  rw [List.mem_singleton.mp member]
  by_contra astray
  obtain ⟨off, reason, eq⟩ := refused astray
  exact clean off reason eq

theorem bind {m : Traced α} {f : α → Traced β} (hm : m.Careful h)
    (hf : ∀ a, m.result = .ok a → (f a).Careful h) : (m >>= f).Careful h := by
  obtain ⟨result, touches⟩ := m
  cases result with
  | error e =>
    refine ⟨fun clean => hm.fine fun off reason eq => clean off reason ?_⟩
    rw [result_bind, eq]
    rfl
  | ok a =>
    refine ⟨fun clean t member => ?_⟩
    rcases List.mem_append.mp member with first | rest
    · refine hm.fine (fun off reason eq => ?_) t first
      cases eq
    · exact (hf a rfl).fine clean t rest

/-- After a step whose answer is known. -/
theorem next {m : Traced α} {f : α → Traced β} {a : α} (hm : m.Careful h) (done : m.result = .ok a)
    (hf : (f a).Careful h) : (m >>= f).Careful h := by
  refine hm.bind fun b eq => ?_
  cases done.symm.trans eq
  exact hf

theorem branch {c : Prop} [Decidable c] {m m' : Traced α} (hm : c → m.Careful h)
    (hm' : ¬ c → m'.Careful h) : (if c then m else m').Careful h := by
  split
  · exact hm ‹_›
  · exact hm' ‹_›

/-- A step that answers in any case. -/
theorem getD {m : Traced α} (hm : m.Careful h)
    (clean : ∀ off reason, m.result ≠ .error (.corrupt off reason)) (a : α) :
    (m.getD a).Careful h := ⟨fun _ => hm.fine clean⟩

/-! ### What is checked -/

theorem header (r : Region) (off : Nat) : (Traced.header r off).Careful h :=
  checked fun outside => ⟨off, _, if_neg outside⟩

theorem trailer (r : Region) (off : Nat) : (Traced.trailer r off).Careful h :=
  checked fun outside => ⟨off, _, if_neg outside⟩

theorem putHeader (r : Region) (off : Nat) (header : Header) :
    (Traced.putHeader r off header).Careful h := checked fun outside => ⟨off, _, if_neg outside⟩

theorem putTrailer (r : Region) (off : Nat) (trailer : Trailer) :
    (Traced.putTrailer r off trailer).Careful h := checked fun outside => ⟨off, _, if_neg outside⟩

theorem word (n : Nat) : (Traced.word n).Careful h := checked fun large => ⟨n, _, if_neg large⟩

theorem encode (l : Option Nat) : (Traced.encode l).Careful h := by
  cases l with
  | none => exact pure _
  | some off => exact word off

theorem putBlock (g : Heap) (off : Nat) (kind : BlockKind) (size : Nat) :
    (Traced.putBlock g off kind size).Careful h := by
  refine bind ?_ fun _ _ => pure _
  refine (word off).bind fun _ _ => (word size).bind fun _ _ => ?_
  exact (putHeader ..).bind fun _ _ => putTrailer ..

theorem setNext (r : Region) (off : Nat) (next : Option Nat) :
    (Traced.setNext r off next).Careful h :=
  (header r off).bind fun _ _ => (encode next).bind fun _ _ => putHeader ..

theorem setPrev (r : Region) (off : Nat) (prev : Option Nat) :
    (Traced.setPrev r off prev).Careful h :=
  (header r off).bind fun _ _ => (encode prev).bind fun _ _ => putHeader ..

theorem setLinks (r : Region) (off : Nat) (next prev : Option Nat) :
    (Traced.setLinks r off next prev).Careful h :=
  (setNext r off next).bind fun _ _ => setPrev ..

theorem chain (r : Region) (most : Nat) (start : Option Nat) :
    (Traced.chain r most start).Careful h := by
  induction most generalizing start with
  | zero =>
    cases start with
    | none => exact pure _
    | some off => exact fail _
  | succ most ih =>
    cases start with
    | none => exact pure _
    | some off => exact (header r off).bind fun _ _ => (ih _).bind fun _ _ => pure _

theorem follow (g : Heap) (kind : BlockKind) (off next : Option Nat) :
    (Traced.follow g kind off next).Careful h := by
  cases off with
  | none => exact pure _
  | some off => exact (setNext ..).bind fun _ _ => pure _

theorem precede (g : Heap) (off prev : Option Nat) : (Traced.precede g off prev).Careful h := by
  cases off with
  | none => exact pure _
  | some off => exact (setPrev ..).bind fun _ _ => pure _

theorem unlink (g : Heap) (kind : BlockKind) (off : Nat) :
    (Traced.unlink g kind off).Careful h := by
  refine (header ..).bind fun _ _ => (follow ..).bind fun _ _ => (precede ..).bind fun _ _ => ?_
  exact (setLinks ..).bind fun _ _ => pure _

theorem merge (g : Heap) (lower upper : Nat) : (Traced.merge g lower upper).Careful h := by
  refine (header ..).bind fun _ _ => (unlink ..).bind fun _ _ => (header ..).bind fun _ _ => ?_
  refine (word _).bind fun _ _ => (putHeader ..).bind fun _ _ => ?_
  exact (putTrailer ..).bind fun _ _ => pure _

theorem mergeAbove (g : Heap) (off : Nat) : (Traced.mergeAbove g off).Careful h := by
  refine (header ..).bind fun _ _ => branch (fun _ => ?_) fun _ => pure _
  exact (header ..).bind fun _ _ => branch (fun _ => merge ..) fun _ => pure _

theorem tiles (r : Region) (off : Nat) (afterFree : Bool) :
    (Traced.tiles r off afterFree).Careful h := by
  rw [Traced.tiles]
  refine branch (fun below => branch (fun _ => fail _) fun holds => ?_)
    fun _ => branch (fun _ => pure _) fun _ => fail _
  have holds : off + overhead ≤ r.size := not_not.mp holds
  refine (touch (Nat.le_trans (by simp only [overhead]; omega) holds)).bind fun _ _ => ?_
  refine branch (fun _ => fail _) fun _ => ?_
  cases BlockKind.ofWord? (r.header off).kind with
  | none => exact fail _
  | some kind =>
    refine branch (fun _ => fail _) fun inside => ?_
    have trailer : Touch.Fine h (.tag r ((r.header off).trailerAt off) trailerSize) :=
      Nat.le_of_not_lt inside
    refine (touch trailer).bind fun _ _ => ?_
    refine branch (fun _ => fail _) fun _ => branch (fun _ => fail _) fun _ => ?_
    exact (tiles r ((r.header off).endAt off) _).bind fun _ _ => pure _
termination_by r.size - off
decreasing_by
  simp only [Header.endAt, Header.trailerAt, headerSize, trailerSize]
  omega

theorem backLinked (r : Region) (most : Nat) (prev cursor : Option Nat) :
    (Traced.backLinked r most prev cursor).Careful h := by
  induction most generalizing prev cursor with
  | zero =>
    cases cursor with
    | none => exact pure _
    | some off => exact fail _
  | succ most ih =>
    cases cursor with
    | none => exact pure _
    | some off =>
      refine (header r off).bind fun _ _ => branch (fun _ => fail _) fun _ => ?_
      exact (ih _ _).bind fun _ _ => pure _

/-! ### What is known -/

theorem listed (walk : Touch.Fine h (.walk g.region (g.head kind))) :
    (Traced.listed g kind).Careful h := (touch walk).bind fun _ _ => chain ..

theorem link (walk : Touch.Fine h (.walk g.region (g.head kind))) (off : Nat) :
    (Traced.link g kind off).Careful h := by
  refine (listed walk).bind fun _ _ => (setLinks ..).bind fun _ _ => ?_
  exact (follow ..).bind fun _ _ => precede ..

theorem mergeBelow (below : ∀ t, ¬ off < trailerSize →
    g.region.trailer? (off - trailerSize) = .ok t → BlockKind.ofWord? t.kind = some .free →
      Touch.Fine h (.below g.region off t.size.toNat)) : (Traced.mergeBelow g off).Careful h := by
  refine branch (fun _ => pure _) fun notBottom => (trailer ..).bind fun t read => ?_
  refine branch (fun free => ?_) fun _ => pure _
  refine (touch (below t notBottom read free)).bind fun _ _ => branch (fun _ => fail _) fun _ => ?_
  exact (merge ..).bind fun _ _ => pure _

theorem verifyList (walk : Touch.Fine h (.walk g.region (g.head kind))) (expected : List Nat) :
    (Traced.verifyList g kind expected).Careful h := by
  refine (touch walk).bind fun _ _ => (backLinked ..).bind fun _ _ => ?_
  exact branch (fun _ => pure _) fun _ => fail _

end Careful

end Traced

/-! ### Walks and neighbours -/

namespace Heap

open Region Traced

variable {h g : Heap} {blocks others below above : List Block} {b : Block}
  {lists : BlockKind → List Nat} {kind : BlockKind}

theorem leads_of_threaded {r : Region} {l : List Nat} {prev : Option Nat}
    (threaded : Threaded r.links prev l none) : r.Leads l.head? l := by
  induction l generalizing prev with
  | nil => rfl
  | cons off l ih =>
    refine ⟨rfl, ?_⟩
    rw [(decode_threaded threaded).1]
    exact ih threaded.2

theorem length_offsetsOf_le (kind : BlockKind) (blocks : List Block) :
    (offsetsOf kind blocks).length ≤ blocks.length := by
  have le := (offsetsOf_sublist kind blocks).length_le
  rwa [List.length_map] at le

theorem LaidOut.starts_eq (hl : h.LaidOut blocks) : h.starts = blocks.map (·.offset) := by
  have tiled := tiles_eq hl.tiled hl.indexed.carries.tagged hl.parted
    (fun b _ _ => (rfl : false = false))
  rw [starts, tiled, Except.toOption, Option.getD_some, List.map_map]
  rfl

/-- A walk is fine as long as the lists thread no more blocks than the heap had. -/
theorem LaidOut.fine_walk (hl : h.LaidOut blocks)
    (linked : g.Linked others fun kind => offsetsOf kind below)
    (few : below.length ≤ blocks.length) (kind : BlockKind) :
    Touch.Fine h (.walk g.region (g.head kind)) := by
  refine ⟨offsetsOf kind below, ?_, linked.ascending kind, ?_⟩
  · rw [linked.head kind]
    exact leads_of_threaded (linked.threaded kind)
  · rw [hl.starts_eq, List.length_map]
    exact Nat.le_trans (length_offsetsOf_le kind below) few

/-- Every list of the heap itself can be walked. -/
theorem LaidOut.walk (hl : h.LaidOut blocks) (kind : BlockKind) :
    Touch.Fine h (.walk h.region (h.head kind)) :=
  hl.fine_walk hl.indexed (Nat.le_refl _) kind

/-- While a block is in neither list, the others can be walked. -/
theorem LaidOut.walk_without (hl : h.LaidOut (below ++ b :: above))
    (linked : g.Linked others fun kind => offsetsOf kind (below ++ above)) (kind : BlockKind) :
    Touch.Fine h (.walk g.region (g.head kind)) :=
  hl.fine_walk linked ((List.sublist_cons_self b above).append_left below).length_le kind

/-! ### Calls -/

theorem LaidOut.careful_blocks (hl : h.LaidOut blocks) (kind : BlockKind) :
    (Traced.blocks h kind).Careful h := by
  refine Careful.getD ((Careful.listed (hl.walk kind)).bind fun _ _ => .pure _) ?_ []
  intro off reason eq
  rw [result_bind, result_listed, hl.indexed.listed kind] at eq
  cases eq

theorem LaidOut.careful_verify (hl : h.LaidOut blocks) : (Traced.verify h).Careful h := by
  refine (Careful.tiles ..).bind fun _ _ => ?_
  exact (Careful.verifyList (hl.walk .free) _).bind fun _ _ =>
    Careful.verifyList (hl.walk .allocated) _

theorem LaidOut.careful_allocate (hl : h.LaidOut blocks) (bytes : Nat) :
    (Traced.allocate h bytes).Careful h := by
  refine .branch (fun _ => .fail _) fun pos => ?_
  have listed := hl.indexed.listed .free
  refine (Careful.listed (hl.walk .free)).next (result_listed.trans listed) ?_
  cases found : blocks.find? (Block.Fits bytes) with
  | none =>
    have none : ∀ b ∈ blocks, ¬ b.Fits bytes := by
      simpa using found
    simp only [find_none (fun b hb => hl.indexed.payload hb) none]
    refine Careful.bind ?_ fun _ _ => .fail _
    exact (hl.careful_blocks .free).bind fun _ _ => .pure _
  | some b =>
    obtain ⟨fits, below, above, rfl, first⟩ := List.find?_eq_some_iff_append.mp found
    have fits : b.Fits bytes := of_decide_eq_true fits
    have first : ∀ c ∈ below, ¬ c.Fits bytes := by
      simpa using first
    have payload := hl.indexed.payload (show b ∈ below ++ b :: above by simp)
    simp only [find_first (fun c hc => hl.indexed.payload hc) fits first, payload]
    obtain ⟨free, enough⟩ := fits
    by_cases whole : b.size = bytes + overhead
    · obtain ⟨h₁, h₂, h₃, unlinked, -, -, put, between, linked, -⟩ :=
        hl.recast .allocated (Nat.le_of_eq whole.symm)
      rw [free] at unlinked
      refine (Careful.unlink ..).next (result_unlink.trans unlinked) ?_
      rw [if_pos whole]
      refine (Careful.putBlock ..).next ((result_putBlock _).trans put) ?_
      exact (Careful.link (hl.walk_without between .allocated) _).bind fun _ _ => .pure _
    · obtain ⟨h₁, h₂, h₃, unlinked, -, -, put, between, linked, indexed, capacity, -⟩ :=
        hl.recast .allocated (show bytes ≤ b.size by omega)
      obtain ⟨h₄, h₅, putUpper, betweenUpper, -⟩ := hl.putRest enough indexed capacity
      rw [free] at unlinked
      refine (Careful.unlink ..).next (result_unlink.trans unlinked) ?_
      rw [if_neg whole]
      refine (Careful.putBlock ..).next ((result_putBlock _).trans put) ?_
      refine (Careful.link (hl.walk_without between .allocated) _).next
        (result_link.trans linked) ?_
      refine (Careful.putBlock ..).next ((result_putBlock _).trans putUpper) ?_
      refine (Careful.link (hl.fine_walk betweenUpper ?_ .free) _).bind fun _ _ => .pure _
      simp only [List.length_append, List.length_cons, Nat.le_refl]

/-- A block that became free finds the free block below it. -/
theorem LaidOut.fine_below (hl : h.LaidOut (below ++ b :: above))
    (hi : g.Indexed (below ++ { b with kind := .free } :: above)) {t : Trailer}
    (notBottom : ¬ b.offset < trailerSize)
    (read : g.region.trailer? (b.offset - trailerSize) = .ok t)
    (free : BlockKind.ofWord? t.kind = some .free) :
    Touch.Fine h (.below g.region b.offset t.size.toNat) := by
  obtain ⟨mid, front, start, -⟩ := Tiles.append.mp hl.tiled
  rcases below.eq_nil_or_concat with rfl | ⟨below, c, rfl⟩
  · have bottom : b.offset = 0 := start.trans front.symm
    rw [bottom] at notBottom
    exact absurd (by decide) notBottom
  · rw [List.concat_eq_append] at *
    obtain ⟨mid', -, -, touch⟩ := Tiles.append.mp front
    have touch : c.endAt = b.offset := touch.trans start.symm
    rw [List.append_assoc] at hi
    have tag := hi.carries.tagged c (by simp)
    cases read.symm.trans (hi.trailer_below touch)
    have size : (g.region.header c.offset).size.toNat = c.size := tag.size
    have offset : b.offset = overhead + c.size + c.offset := by
      rw [← touch, Block.endAt]
      omega
    have lower : b.offset - overhead - c.size = c.offset := by omega
    simp only [Touch.Fine, size, lower]
    refine ⟨by omega, ?_, tag.start, ?_⟩
    · rw [hl.starts_eq]
      simp
    · rw [Header.endAt, Header.trailerAt, tag.size, ← touch, Block.endAt_eq, Block.trailerAt]

theorem LaidOut.careful_free (hl : h.LaidOut blocks) (address : Nat) :
    (Traced.free h address).Careful h := by
  refine .branch (fun _ => .fail _) fun low => ?_
  obtain ⟨listed, found, mem⟩ := hl.mem_listed_allocated (address - headerSize)
  refine (Careful.listed (hl.walk .allocated)).next (result_listed.trans found) ?_
  refine .branch (fun present => ?_) fun _ => .fail _
  obtain ⟨b, hb, offset⟩ := mem.mp present
  obtain ⟨member, allocated⟩ := mem_inUse.mp hb
  obtain ⟨below, above, rfl⟩ := List.append_of_mem member
  obtain ⟨h₁, h₂, h₃, unlinked, header, payload, put, between, linked, indexed, -⟩ :=
    hl.recast .free (Nat.le_refl b.size)
  rw [allocated] at unlinked
  rw [← offset]
  refine (Careful.unlink ..).next (result_unlink.trans unlinked) ?_
  refine (Careful.header ..).next header ?_
  rw [payload]
  refine (Careful.putBlock ..).next ((result_putBlock _).trans put) ?_
  refine (Careful.link (hl.walk_without between .free) _).next (result_link.trans linked) ?_
  refine (Careful.mergeBelow fun t notBottom read free => ?_).bind fun _ _ => .mergeAbove ..
  exact hl.fine_below indexed notBottom read free

/-- Every call of a heap that is laid out is careful. -/
theorem LaidOut.careful {α : Type} (hl : h.LaidOut blocks) (c : HeapCall α) :
    (h.trace c).Careful h := by
  cases c with
  | allocate bytes => exact hl.careful_allocate bytes
  | free address => exact hl.careful_free address
  | showAllocated => exact hl.careful_blocks .allocated
  | showFree => exact hl.careful_blocks .free
  | freeBytes => exact (hl.careful_blocks .free).bind fun _ _ => .pure _
  | largestFree => exact (hl.careful_blocks .free).bind fun _ _ => .pure _
  | verify => exact hl.careful_verify

/-- No call finds the tags in contradiction. -/
theorem LaidOut.perform_ne_corrupt {α : Type} (hl : h.LaidOut blocks) (c : HeapCall α)
    (off : Nat) (reason : String) : h.perform c ≠ .error (.corrupt off reason) := by
  intro corrupt
  cases c with
  | allocate bytes =>
    have corrupt : h.allocate bytes = .error (.corrupt off reason) := corrupt
    rcases hl.allocate_cases bytes with ⟨-, refused⟩ | ⟨-, -, refused⟩ |
      ⟨below, b, above, h', -, -, -, -, done, -⟩
    · cases refused.symm.trans corrupt
    · cases refused.symm.trans corrupt
    · cases done.symm.trans corrupt
  | free address =>
    have corrupt : h.free address = .error (.corrupt off reason) := corrupt
    rcases hl.free_cases address with ⟨-, refused⟩ | ⟨below, b, above, h', -, -, -, done, -⟩
    · cases refused.symm.trans corrupt
    · cases done.symm.trans corrupt
  | verify => cases hl.verify.symm.trans corrupt
  | showAllocated | showFree | freeBytes | largestFree => cases corrupt

/-- Whatever was asked of a heap before, the next call answers without ever finding its tags in
contradiction, and everything that it does to the bytes on the way is fine. -/
theorem careful_calls {size : Nat} (created : create size = .ok h) (calls : List MemoryCall)
    {α : Type} (c : HeapCall α) :
    let h' := calls.foldl Heap.call h
    (h'.trace c).result = h'.perform c ∧
      (∀ off reason, h'.perform c ≠ .error (.corrupt off reason)) ∧
      ∀ t ∈ (h'.trace c).touches, t.Fine h' := by
  intro h'
  obtain ⟨-, -, laidOut, -⟩ := create_eq_ok created
  obtain ⟨blocks, laidOut', -⟩ := laidOut.calls calls
  have clean := laidOut'.perform_ne_corrupt c
  have same := h'.result_trace c
  refine ⟨same, clean, (laidOut'.careful c).fine fun off reason eq => ?_⟩
  exact clean off reason (same.symm.trans eq)

/-- The block that is taken back joins the free block below it; the one above it is in use. -/
theorem careful_calls_joining : ∃ h, create 200 = .ok h ∧
    let h' := [MemoryCall.allocate 8, .allocate 8, .allocate 8, .free 20].foldl Heap.call h
    (h'.trace (.free 56)).touches.length = 50 ∧
      (h'.trace (.free 56)).result = h'.perform (.free 56) ∧
      (∀ off reason, h'.perform (.free 56) ≠ .error (.corrupt off reason)) ∧
      ∀ t ∈ (h'.trace (.free 56)).touches, t.Fine h' := by
  have ends : ((create 200).toOption.map fun h =>
      (([MemoryCall.allocate 8, .allocate 8, .allocate 8, .free 20].foldl Heap.call h).trace
        (.free 56)).touches.length) = some 50 := by
    decide +kernel
  obtain ⟨h, created, length⟩ := ok_of_seen ends
  exact ⟨h, created, length, careful_calls created _ (.free 56)⟩

end Heap

end TrapKernel
