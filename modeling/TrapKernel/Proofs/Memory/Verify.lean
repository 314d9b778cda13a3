import TrapKernel.Proofs.Memory.LaidOut

/-!
# Every heap verifies

`verify` accepts a heap that is laid out, and every call leaves a heap laid out. So whatever was
asked of a new heap, in whatever order, `verify` accepts it, and no call ever finds its tags in
contradiction.
-/

namespace TrapKernel

/-- What can be asked of a memory. -/
inductive MemoryCall where
  | allocate (bytes : Nat)
  | free (address : Nat)
  deriving DecidableEq, Repr

namespace Heap

open Region

variable {h : Heap} {blocks : List Block}

/-- What a heap answers to a call: the heap after it, or why the call is refused. -/
def answer (h : Heap) : MemoryCall → Except MemoryError Heap
  | .allocate bytes => (·.2) <$> h.allocate bytes
  | .free address => h.free address

/-- The heap after a call. A refused call leaves it as it is. -/
def call (h : Heap) (call : MemoryCall) : Heap :=
  match h.answer call with
  | .ok h => h
  | .error _ => h

/-! ### Verification -/

/-- Reading the tags from `off` on finds the blocks that tile the region there. -/
theorem tiles_eq {r : Region} {off : Nat} {afterFree : Bool} (tiled : Tiles off r.size blocks)
    (tagged : ∀ b ∈ blocks, r.Tagged b) (parted : Parted blocks)
    (first : ∀ b, blocks.head? = some b → b.kind = .free → afterFree = false) :
    tiles r off afterFree = .ok (blocks.map fun b => (b.offset, b.kind)) := by
  induction blocks generalizing off afterFree with
  | nil =>
    have top : off = r.size := tiled
    rw [tiles, if_neg (by omega), if_pos top]
    rfl
  | cons b blocks ih =>
    obtain ⟨rfl, rest⟩ := tiled
    have tag := tagged b List.mem_cons_self
    have inside : b.endAt ≤ r.size := rest.bounds.1
    have notTop : b.offset < r.size := by
      simp only [Block.endAt, overhead, headerSize] at inside
      omega
    have holds : r.Holds b.offset overhead := by
      simp only [Block.endAt] at inside
      exact Nat.le_trans (Nat.le_add_right ..) inside
    have trailerAt : (r.header b.offset).trailerAt b.offset = b.trailerAt := by
      rw [Header.trailerAt, tag.size, Block.trailerAt]
    have endAt : (r.header b.offset).endAt b.offset = b.endAt := by
      rw [Header.endAt, trailerAt, Block.endAt_eq]
    have next : ∀ c, blocks.head? = some c → c.kind = .free → decide (b.kind = .free) = false := by
      intro c head free
      cases blocks with
      | nil => cases head
      | cons d blocks =>
        obtain rfl := Option.some.inj head
        have apart := (List.isChain_cons_cons.mp parted).1
        exact decide_eq_false fun freeB => apart ⟨freeB, free⟩
    have ih := ih rest (fun c hc => tagged c (List.mem_cons_of_mem b hc)) parted.of_cons next
    have mayFollow : ¬ (b.kind = .free ∧ afterFree = true) := by
      rintro ⟨free, after⟩
      rw [first b rfl free] at after
      cases after
    rw [tiles, if_pos notTop]
    simp only [holds, not_true_eq_false, if_false, tag.start, ne_eq, tag.kind,
      BlockKind.ofWord?_word, endAt, trailerAt, tag.trailer, or_self, gt_iff_lt,
      Nat.not_lt.mpr inside, mayFollow, ih]
    rfl

/-- Following the back links finds the threaded blocks. -/
theorem backLinked_eq {r : Region} (carries : r.Carries blocks) {l : List Nat} {prev : Option Nat}
    (threaded : Threaded r.links prev l none) (known : l ⊆ blocks.map (·.offset)) {most : Nat}
    (le : l.length ≤ most) : backLinked r most prev l.head? = .ok l := by
  induction l generalizing prev most with
  | nil => cases most <;> rfl
  | cons off l ih =>
    obtain ⟨nextEq, prevEq⟩ := decode_threaded threaded
    have header := carries.header? (known List.mem_cons_self)
    cases most with
    | zero => cases le
    | succ most =>
      have ih := ih threaded.2 (fun j hj => known (List.mem_cons_of_mem off hj))
        (Nat.le_of_succ_le_succ le)
      rw [List.head?_cons, backLinked, header]
      simp only [bind, Except.bind, prevEq, ne_eq, not_true_eq_false, if_false, nextEq, ih]
      rfl

theorem LaidOut.verify (hl : h.LaidOut blocks) : h.verify = .ok () := by
  have tiled := tiles_eq hl.tiled hl.indexed.carries.tagged hl.parted
    (fun b _ _ => (rfl : false = false))
  have offsets : ∀ kind, ((blocks.map fun b => (b.offset, b.kind)).filter (·.2 = kind)).map (·.1) =
      offsetsOf kind blocks := by
    intro kind
    rw [List.filter_map, List.map_map]
    rfl
  have verified : ∀ kind, h.verifyList kind (offsetsOf kind blocks) = .ok () := by
    intro kind
    have seen := backLinked_eq hl.indexed.carries (hl.indexed.threaded kind)
      (hl.indexed.known kind) (Nat.le_succ _)
    rw [verifyList, hl.indexed.head kind, seen]
    simp only [bind, Except.bind, if_true]
    rfl
  rw [Heap.verify, tiled]
  simp only [bind, Except.bind, offsets, verified]

/-! ### Calls -/

/-- No call contradicts the tags, and the heap is laid out after it. -/
theorem LaidOut.answer (hl : h.LaidOut blocks) (call : MemoryCall) :
    (∃ e, h.answer call = .error e ∧ ∀ off reason, e ≠ .corrupt off reason) ∨
      ∃ h' blocks', h.answer call = .ok h' ∧ h'.LaidOut blocks' ∧ h'.capacity = h.capacity := by
  cases call with
  | allocate bytes =>
    rcases hl.allocate_cases bytes with ⟨rfl, refused⟩ | ⟨-, -, refused⟩ |
      ⟨below, b, above, h', -, -, -, -, done, laidOut, capacity, -⟩
    · exact Or.inl ⟨.zeroSized, by rw [Heap.answer, refused]; rfl, nofun⟩
    · exact Or.inl ⟨.outOfMemory bytes h.largestFree, by rw [Heap.answer, refused]; rfl, nofun⟩
    · exact Or.inr ⟨h', _, by rw [Heap.answer, done]; rfl, laidOut, capacity⟩
  | free address =>
    rcases hl.free_cases address with ⟨-, refused⟩ |
      ⟨below, b, above, h', -, -, -, done, laidOut, capacity, -⟩
    · exact Or.inl ⟨.invalidAddress address, refused, nofun⟩
    · exact Or.inr ⟨h', _, done, laidOut, capacity⟩

theorem LaidOut.call (hl : h.LaidOut blocks) (call : MemoryCall) :
    ∃ blocks', (h.call call).LaidOut blocks' ∧ (h.call call).capacity = h.capacity := by
  rw [Heap.call]
  rcases hl.answer call with ⟨e, refused, -⟩ | ⟨h', blocks', done, laidOut, capacity⟩
  · rw [refused]
    exact ⟨blocks, hl, rfl⟩
  · rw [done]
    exact ⟨blocks', laidOut, capacity⟩

theorem LaidOut.calls (hl : h.LaidOut blocks) (calls : List MemoryCall) :
    ∃ blocks', (calls.foldl Heap.call h).LaidOut blocks' ∧
      (calls.foldl Heap.call h).capacity = h.capacity := by
  induction calls generalizing h blocks with
  | nil => exact ⟨blocks, hl, rfl⟩
  | cons call calls ih =>
    obtain ⟨blocks₁, laidOut₁, capacity₁⟩ := hl.call call
    obtain ⟨blocks', laidOut, capacity⟩ := ih laidOut₁
    exact ⟨blocks', laidOut, capacity.trans capacity₁⟩

/-- Whatever was asked of a new heap, its blocks tile the region, no two free ones touch, their tags
agree, each list threads the blocks of its kind by address, and `verify` finds nothing wrong. No
call finds the tags in contradiction either. -/
theorem verify_calls {size : Nat} (created : create size = .ok h) (calls : List MemoryCall) :
    (calls.foldl Heap.call h).verify = .ok () ∧ (calls.foldl Heap.call h).capacity = size ∧
      (∃ blocks, (calls.foldl Heap.call h).LaidOut blocks) ∧
      ∀ call off reason, (calls.foldl Heap.call h).answer call ≠ .error (.corrupt off reason) := by
  obtain ⟨-, -, laidOut, capacity⟩ := create_eq_ok created
  obtain ⟨blocks, laidOut', capacity'⟩ := laidOut.calls calls
  refine ⟨laidOut'.verify, capacity'.trans capacity, ⟨blocks, laidOut'⟩, ?_⟩
  intro call off reason eq
  rcases laidOut'.answer call with ⟨e, refused, notCorrupt⟩ | ⟨h', blocks', done, -, -⟩
  · rw [refused] at eq
    exact notCorrupt off reason (Except.error.inj eq)
  · rw [done] at eq
    cases eq

theorem verify_calls_hundred : ∃ h, create 100 = .ok h ∧
    ([.allocate 8, .allocate 300, .free 20, .free 20].foldl Heap.call h).verify = .ok () := by
  have low : overhead < 100 := by decide
  have high : 100 < UInt32.size := by decide
  obtain ⟨h, created, -, -⟩ := create_ok low high
  exact ⟨h, created, (verify_calls created _).1⟩

end Heap

end TrapKernel
