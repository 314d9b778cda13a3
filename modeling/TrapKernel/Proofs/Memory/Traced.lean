import TrapKernel.Memory.Heap

/-!
# Heap calls that are followed

Here the calls of a heap are written once more, and note on the way what they do to the bytes of the
region: which tags they read and write, which numbers they put into tags, where they look for a
lower neighbour, and which lists they walk. They answer what the calls of the heap answer, whatever
the bytes are.
-/

namespace TrapKernel

/-- What a call of a heap does on the way. -/
inductive Touch where
  /-- The `count` bytes of a tag at `off` are read or written. -/
  | tag (r : Region) (off count : Nat)
  /-- A size or an offset is put into a word of a tag. -/
  | number (n : Nat)
  /-- The block below the one at `off` is looked for. Its trailer says that its payload has `size`
  bytes. -/
  | below (r : Region) (off size : Nat)
  /-- A list is walked along its forward links. -/
  | walk (r : Region) (first : Option Nat)

/-- What is answered, and what is done on the way. -/
structure Traced (α : Type) where
  result : Except MemoryError α
  touches : List Touch

namespace Traced

instance : Monad Traced where
  pure a := ⟨.ok a, []⟩
  bind m f :=
    match m.result with
    | .ok a => ⟨(f a).result, m.touches ++ (f a).touches⟩
    | .error e => ⟨.error e, m.touches⟩

variable {α β : Type}

/-! ### Steps -/

/-- Fail, and do nothing. -/
def fail (e : MemoryError) : Traced α := ⟨.error e, []⟩

/-- Note something that cannot fail. -/
def touch (t : Touch) : Traced Unit := ⟨.ok (), [t]⟩

/-- What is answered, or else `a`. -/
def getD (m : Traced α) (a : α) : Traced α := ⟨.ok (m.result.toOption.getD a), m.touches⟩

@[simp] theorem result_pure (a : α) : (pure a : Traced α).result = .ok a := rfl

@[simp] theorem result_bind (m : Traced α) (f : α → Traced β) :
    (m >>= f).result = m.result >>= fun a => (f a).result := by
  obtain ⟨result, touches⟩ := m
  cases result <;> rfl

@[simp] theorem result_fail (e : MemoryError) : (fail e : Traced α).result = .error e := rfl

@[simp] theorem result_touch (t : Touch) : (touch t).result = .ok () := rfl

@[simp] theorem result_getD (m : Traced α) (a : α) :
    (m.getD a).result = .ok (m.result.toOption.getD a) := rfl

@[simp] theorem result_ite {c : Prop} [Decidable c] (m m' : Traced α) :
    (if c then m else m').result = if c then m.result else m'.result := apply_ite result c m m'

@[simp] theorem ok_bind (a : α) (f : α → Except MemoryError β) :
    (Except.ok a >>= f : Except MemoryError β) = f a := rfl

/-! ### Tags -/

/-- Read a header. -/
def header (r : Region) (off : Nat) : Traced Header :=
  ⟨r.header? off, [.tag r off headerSize]⟩

/-- Read a trailer. -/
def trailer (r : Region) (off : Nat) : Traced Trailer :=
  ⟨r.trailer? off, [.tag r off trailerSize]⟩

/-- Write a header. -/
def putHeader (r : Region) (off : Nat) (header : Header) : Traced Region :=
  ⟨r.putHeader off header, [.tag r off headerSize]⟩

/-- Write a trailer. -/
def putTrailer (r : Region) (off : Nat) (trailer : Trailer) : Traced Region :=
  ⟨r.putTrailer off trailer, [.tag r off trailerSize]⟩

/-- Make a word of a number. -/
def word (n : Nat) : Traced UInt32 := ⟨Link.word n, [.number n]⟩

/-- Make a word of a link. -/
def encode : Option Nat → Traced UInt32
  | none => pure Link.nil
  | some off => word off

/-- Write both tags of a block, leaving its links unset. -/
def putTags (r : Region) (off : Nat) (kind : BlockKind) (size : Nat) : Traced Region := do
  let start ← word off
  let sizeWord ← word size
  let header : Header := ⟨kind.word, start, sizeWord, Link.nil, Link.nil⟩
  let r ← putHeader r off header
  putTrailer r (header.trailerAt off) ⟨kind.word, sizeWord⟩

/-- Change the forward link of a header. -/
def setNext (r : Region) (off : Nat) (next : Option Nat) : Traced Region := do
  let header ← header r off
  let word ← encode next
  putHeader r off { header with next := word }

/-- Change the backward link of a header. -/
def setPrev (r : Region) (off : Nat) (prev : Option Nat) : Traced Region := do
  let header ← header r off
  let word ← encode prev
  putHeader r off { header with prev := word }

/-- Change both links of a header. -/
def setLinks (r : Region) (off : Nat) (next prev : Option Nat) : Traced Region := do
  let r ← setNext r off next
  setPrev r off prev

/-- Read the headers along the forward links. -/
def chain (r : Region) : (most : Nat) → (start : Option Nat) → Traced (List Listed)
  | _, none => pure []
  | 0, some off => fail (.corrupt off "list is longer than the region can hold")
  | most + 1, some off => do
    let header ← header r off
    let rest ← chain r most (Link.decode header.next)
    return ⟨off, header⟩ :: rest

/-! ### Lists -/

/-- Write both tags of a block of a heap. -/
def putBlock (h : Heap) (off : Nat) (kind : BlockKind) (size : Nat) : Traced Heap := do
  return { h with region := ← putTags h.region off kind size }

/-- Walk a list to its end. Who stops earlier sees a first part of it. -/
def listed (h : Heap) (kind : BlockKind) : Traced (List Listed) := do
  touch (.walk h.region (h.head kind))
  chain h.region (h.capacity / overhead) (h.head kind)

/-- Make `next` follow `off`, or come first. -/
def follow (h : Heap) (kind : BlockKind) (off next : Option Nat) : Traced Heap :=
  match off with
  | none => pure (h.setHead kind next)
  | some off => do return { h with region := ← setNext h.region off next }

/-- Make `prev` precede `off`, if there is an `off`. -/
def precede (h : Heap) (off prev : Option Nat) : Traced Heap :=
  match off with
  | none => pure h
  | some off => do return { h with region := ← setPrev h.region off prev }

/-- Thread a block into a list. -/
def link (h : Heap) (kind : BlockKind) (off : Nat) : Traced Heap := do
  let listed ← listed h kind
  let prev := (listed.takeWhile (·.offset ≤ off)).getLast?.map (·.offset)
  let next := (listed.dropWhile (·.offset ≤ off)).head?.map (·.offset)
  let h := { h with region := ← setLinks h.region off next prev }
  let h ← follow h kind prev (some off)
  precede h next (some off)

/-- Take a block out of a list. -/
def unlink (h : Heap) (kind : BlockKind) (off : Nat) : Traced Heap := do
  let header ← header h.region off
  let next := Link.decode header.next
  let prev := Link.decode header.prev
  let h ← follow h kind prev next
  let h ← precede h next prev
  return { h with region := ← setLinks h.region off none none }

/-- The blocks of a list, as they are shown. -/
def blocks (h : Heap) (kind : BlockKind) : Traced (List BlockInfo) :=
  getD (do
    let listed ← listed h kind
    return listed.map fun b => ⟨b.offset + headerSize, b.header.payload, kind⟩) []

/-- The blocks in use. -/
def showAllocated (h : Heap) : Traced (List BlockInfo) := blocks h .allocated

/-- The free blocks. -/
def showFree (h : Heap) : Traced (List BlockInfo) := blocks h .free

/-- Free payload bytes in all. -/
def freeBytes (h : Heap) : Traced Nat := do
  return ((← showFree h).map (·.size)).foldl (· + ·) 0

/-- The largest request that would be granted now. -/
def largestFree (h : Heap) : Traced Nat := do
  return ((← showFree h).map (·.size - overhead)).foldl max 0

/-! ### Handing out and taking back -/

/-- Hand out `bytes` bytes. -/
def allocate (h : Heap) (bytes : Nat) : Traced (Nat × Heap) :=
  if bytes = 0 then fail .zeroSized
  else do
    let needed := bytes + overhead
    match (← listed h .free).find? fun b => needed ≤ b.header.payload with
    | none => fail (.outOfMemory bytes (← largestFree h))
    | some ⟨off, header⟩ =>
      let h ← unlink h .free off
      if header.payload = needed then
        let h ← putBlock h off .allocated needed
        let h ← link h .allocated off
        return (off + headerSize, h)
      else
        let h ← putBlock h off .allocated bytes
        let h ← link h .allocated off
        let rest := off + overhead + bytes
        let h ← putBlock h rest .free (header.payload - needed)
        let h ← link h .free rest
        return (off + headerSize, h)

/-- Join two free blocks. -/
def merge (h : Heap) (lower upper : Nat) : Traced Heap := do
  let upperSize := (← header h.region upper).payload
  let h ← unlink h .free upper
  let header ← header h.region lower
  let size ← word (header.payload + overhead + upperSize)
  let header := { header with size }
  let region ← putHeader h.region lower header
  let region ← putTrailer region (header.trailerAt lower) ⟨BlockKind.free.word, size⟩
  return { h with region }

/-- Join a free block to the one below it, if that is free. -/
def mergeBelow (h : Heap) (off : Nat) : Traced (Nat × Heap) :=
  if off < trailerSize then pure (off, h)
  else do
    let below ← trailer h.region (off - trailerSize)
    if BlockKind.ofWord? below.kind = some .free then
      touch (.below h.region off below.size.toNat)
      if off < overhead + below.size.toNat then
        fail (.corrupt off "lower neighbour starts before the region")
      else
        let lower := off - overhead - below.size.toNat
        return (lower, ← merge h lower off)
    else return (off, h)

/-- Join the one above a free block to it, if that is free. -/
def mergeAbove (h : Heap) (off : Nat) : Traced Heap := do
  let upper := (← header h.region off).endAt off
  if upper < h.capacity then
    if BlockKind.ofWord? (← header h.region upper).kind = some .free then merge h off upper
    else return h
  else return h

/-- Take back the block whose payload starts at `address`. -/
def free (h : Heap) (address : Nat) : Traced Heap :=
  if address < headerSize then fail (.invalidAddress address)
  else do
    let off := address - headerSize
    if (← listed h .allocated).any (·.offset = off) then
      let h ← unlink h .allocated off
      let h ← putBlock h off .free (← header h.region off).payload
      let h ← link h .free off
      let (off, h) ← mergeBelow h off
      mergeAbove h off
    else fail (.invalidAddress address)

/-! ### Verification -/

/-- The blocks that tile the region. -/
def tiles (r : Region) (off : Nat) (afterFree : Bool) : Traced (List (Nat × BlockKind)) :=
  if off < r.size then
    if ¬ r.Holds off overhead then fail (.corrupt off "block tags run past the region")
    else do
      touch (.tag r off headerSize)
      let header := r.header off
      if header.start.toNat ≠ off then
        fail (.corrupt off "header start does not match its offset")
      else
        match BlockKind.ofWord? header.kind with
        | none => fail (.corrupt off "unknown header type")
        | some kind =>
          if header.endAt off > r.size then fail (.corrupt off "block runs past the region")
          else
            touch (.tag r (header.trailerAt off) trailerSize)
            let trailer := r.trailer (header.trailerAt off)
            if BlockKind.ofWord? trailer.kind ≠ some kind ∨ trailer.size ≠ header.size then
              fail (.corrupt off "trailer disagrees with header")
            else if kind = .free ∧ afterFree then fail (.corrupt off "adjacent free blocks")
            else
              let rest ← tiles r (header.endAt off) (kind = .free)
              return (off, kind) :: rest
  else if off = r.size then pure []
  else fail (.corrupt off "blocks do not tile the region")
termination_by r.size - off
decreasing_by
  simp only [Header.endAt, Header.trailerAt, headerSize, trailerSize]
  omega

/-- The offsets met along a list, if every back link names the block before. -/
def backLinked (r : Region) : (most : Nat) → (prev cursor : Option Nat) → Traced (List Nat)
  | _, _, none => pure []
  | 0, _, some off => fail (.corrupt off "list is longer than the blocks it indexes")
  | most + 1, prev, some off => do
    let header ← header r off
    if Link.decode header.prev ≠ prev then fail (.corrupt off "back link does not match")
    else
      let rest ← backLinked r most (some off) (Link.decode header.next)
      return off :: rest

/-- The list of a kind holds exactly the blocks at `expected`. -/
def verifyList (h : Heap) (kind : BlockKind) (expected : List Nat) : Traced Unit := do
  touch (.walk h.region (h.head kind))
  let seen ← backLinked h.region (expected.length + 1) none (h.head kind)
  if seen = expected then return
  else fail (.corrupt (seen.headD 0) "list does not match the blocks of its type")

/-- Check every structural invariant of the region. -/
def verify (h : Heap) : Traced Unit := do
  let tiled ← tiles h.region 0 false
  let offsets (kind : BlockKind) := (tiled.filter (·.2 = kind)).map (·.1)
  verifyList h .free (offsets .free)
  verifyList h .allocated (offsets .allocated)

/-! ### They answer the same -/

section Results

variable {r : Region} {h : Heap} {kind : BlockKind} {off : Nat}

@[simp] theorem result_header : (header r off).result = r.header? off := rfl

@[simp] theorem result_trailer : (trailer r off).result = r.trailer? off := rfl

@[simp] theorem result_putHeader (header : Header) :
    (putHeader r off header).result = r.putHeader off header := rfl

@[simp] theorem result_putTrailer (trailer : Trailer) :
    (putTrailer r off trailer).result = r.putTrailer off trailer := rfl

@[simp] theorem result_word (n : Nat) : (word n).result = Link.word n := rfl

@[simp] theorem result_encode (l : Option Nat) : (encode l).result = Link.encode l := by
  cases l <;> rfl

@[simp] theorem result_putTags (size : Nat) :
    (putTags r off kind size).result = r.putBlock off kind size := by
  simp only [putTags, result_bind, result_word, result_putHeader, result_putTrailer]
  rfl

@[simp] theorem result_putBlock (size : Nat) :
    (putBlock h off kind size).result = h.putBlock off kind size := by
  simp only [putBlock, result_bind, result_putTags, result_pure]
  rfl

@[simp] theorem result_setNext (next : Option Nat) :
    (setNext r off next).result = r.setNext off next := by
  simp only [setNext, result_bind, result_header, result_encode, result_putHeader]
  rfl

@[simp] theorem result_setPrev (prev : Option Nat) :
    (setPrev r off prev).result = r.setPrev off prev := by
  simp only [setPrev, result_bind, result_header, result_encode, result_putHeader]
  rfl

@[simp] theorem result_setLinks (next prev : Option Nat) :
    (setLinks r off next prev).result = r.setLinks off next prev := by
  simp only [setLinks, result_bind, result_setNext, result_setPrev]
  rfl

@[simp] theorem result_chain (most : Nat) (start : Option Nat) :
    (chain r most start).result = r.chain most start := by
  induction most generalizing start with
  | zero => cases start <;> rfl
  | succ most ih =>
    cases start with
    | none => rfl
    | some off =>
      simp only [chain, result_bind, result_header, ih, result_pure]
      rfl

@[simp] theorem result_listed : (listed h kind).result = h.listed kind := by
  simp only [listed, result_bind, result_touch, ok_bind, result_chain]
  rfl

@[simp] theorem result_follow (off next : Option Nat) :
    (follow h kind off next).result = h.follow kind off next := by
  cases off with
  | none => rfl
  | some off =>
    simp only [follow, result_bind, result_setNext, result_pure]
    rfl

@[simp] theorem result_precede (off prev : Option Nat) :
    (precede h off prev).result = h.precede off prev := by
  cases off with
  | none => rfl
  | some off =>
    simp only [precede, result_bind, result_setPrev, result_pure]
    rfl

@[simp] theorem result_link : (link h kind off).result = h.link kind off := by
  simp only [link, result_bind, result_listed, result_setLinks, result_follow, result_precede]
  rfl

@[simp] theorem result_unlink : (unlink h kind off).result = h.unlink kind off := by
  simp only [unlink, result_bind, result_header, result_follow, result_precede, result_setLinks,
    result_pure]
  rfl

@[simp] theorem result_blocks : (blocks h kind).result = .ok (h.blocks kind) := by
  simp only [blocks, result_getD, result_bind, result_listed, result_pure, Heap.blocks]
  cases h.listed kind <;> rfl

@[simp] theorem result_freeBytes : (freeBytes h).result = .ok h.freeBytes := by
  simp only [freeBytes, showFree, result_bind, result_blocks, ok_bind, result_pure]
  rfl

@[simp] theorem result_largestFree : (largestFree h).result = .ok h.largestFree := by
  simp only [largestFree, showFree, result_bind, result_blocks, ok_bind, result_pure]
  rfl

@[simp] theorem result_allocate (bytes : Nat) :
    (allocate h bytes).result = h.allocate bytes := by
  simp only [allocate, Heap.allocate, result_ite, result_fail, result_bind, result_listed]
  split
  · rfl
  · cases h.listed .free with
    | error e => rfl
    | ok l =>
      simp only [ok_bind]
      cases l.find? fun b => bytes + overhead ≤ b.header.payload with
      | none => simp only [result_bind, result_largestFree, ok_bind, result_fail]
      | some b =>
        simp only [result_bind, result_unlink, result_ite, result_putBlock, result_link,
          result_pure]
        rfl

@[simp] theorem result_merge (upper : Nat) :
    (merge h off upper).result = h.merge off upper := by
  simp only [merge, result_bind, result_header, result_unlink, result_word, result_putHeader,
    result_putTrailer, result_pure]
  rfl

@[simp] theorem result_mergeBelow : (mergeBelow h off).result = h.mergeBelow off := by
  simp only [mergeBelow, result_ite, result_pure, result_bind, result_trailer, result_touch,
    ok_bind, result_fail, result_merge]
  rfl

@[simp] theorem result_mergeAbove : (mergeAbove h off).result = h.mergeAbove off := by
  simp only [mergeAbove, result_bind, result_header, result_ite, result_merge, result_pure]
  rfl

@[simp] theorem result_free (address : Nat) : (free h address).result = h.free address := by
  simp only [free, result_ite, result_fail, result_bind, result_listed, result_unlink,
    result_header, result_putBlock, result_link, result_mergeBelow, result_mergeAbove]
  rfl

theorem result_tiles (r : Region) (off : Nat) (afterFree : Bool) :
    (tiles r off afterFree).result = Heap.tiles r off afterFree := by
  rw [tiles, Heap.tiles]
  by_cases inside : off < r.size
  · have ih := result_tiles r ((r.header off).endAt off)
    simp only [if_pos inside, result_ite, result_fail, result_bind, result_touch, ok_bind]
    cases BlockKind.ofWord? (r.header off).kind with
    | none => rfl
    | some kind =>
      simp only [result_ite, result_fail, result_bind, result_touch, ok_bind, ih, result_pure]
      rfl
  · simp only [if_neg inside, result_ite, result_fail, result_pure]
termination_by r.size - off
decreasing_by
  simp only [Header.endAt, Header.trailerAt, headerSize, trailerSize]
  omega

@[simp] theorem result_backLinked (most : Nat) (prev cursor : Option Nat) :
    (backLinked r most prev cursor).result = Heap.backLinked r most prev cursor := by
  induction most generalizing prev cursor with
  | zero =>
    cases cursor with
    | none => rfl
    | some off => rfl
  | succ most ih =>
    cases cursor with
    | none => rfl
    | some off =>
      simp only [backLinked, Heap.backLinked, result_bind, result_header, result_ite, result_fail,
        ih, result_pure]
      rfl

@[simp] theorem result_verifyList (expected : List Nat) :
    (verifyList h kind expected).result = h.verifyList kind expected := by
  simp only [verifyList, result_bind, result_touch, ok_bind, result_backLinked, result_ite,
    result_pure, result_fail]
  rfl

@[simp] theorem result_verify : (verify h).result = h.verify := by
  simp only [verify, result_bind, result_tiles, result_verifyList]
  rfl

end Results

end Traced

/-! ### Calls -/

/-- What can be asked of a heap, and the kind of its answer. -/
inductive HeapCall : Type → Type where
  | allocate (bytes : Nat) : HeapCall (Nat × Heap)
  | free (address : Nat) : HeapCall Heap
  | showAllocated : HeapCall (List BlockInfo)
  | showFree : HeapCall (List BlockInfo)
  | freeBytes : HeapCall Nat
  | largestFree : HeapCall Nat
  | verify : HeapCall Unit

namespace Heap

variable {α : Type}

/-- What a heap answers to a call. -/
def perform (h : Heap) : HeapCall α → Except MemoryError α
  | .allocate bytes => h.allocate bytes
  | .free address => h.free address
  | .showAllocated => .ok h.showAllocated
  | .showFree => .ok h.showFree
  | .freeBytes => .ok h.freeBytes
  | .largestFree => .ok h.largestFree
  | .verify => h.verify

/-- The call, followed. -/
def trace (h : Heap) : HeapCall α → Traced α
  | .allocate bytes => .allocate h bytes
  | .free address => .free h address
  | .showAllocated => .showAllocated h
  | .showFree => .showFree h
  | .freeBytes => .freeBytes h
  | .largestFree => .largestFree h
  | .verify => .verify h

/-- A call that is followed answers the same, whatever the bytes of the heap are. -/
theorem result_trace (h : Heap) (c : HeapCall α) : (h.trace c).result = h.perform c := by
  cases c with
  | allocate bytes => exact Traced.result_allocate bytes
  | free address => exact Traced.result_free address
  | showAllocated => exact Traced.result_blocks
  | showFree => exact Traced.result_blocks
  | freeBytes => exact Traced.result_freeBytes
  | largestFree => exact Traced.result_largestFree
  | verify => exact Traced.result_verify

end Heap

end TrapKernel
