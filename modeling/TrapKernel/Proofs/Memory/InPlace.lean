import TrapKernel.Memory
import TrapKernel.Proofs.Memory.LaidOut
import TrapKernel.Proofs.Steps

/-!
# A memory step by step

Here the calls of a memory are written as they run: tag by tag, on the region that there is. What
was written before a step that fails stays written. While its blocks are laid out a heap fails only
before the first tag is written, so the steps do what the operations do that answer a new memory,
and after a refusal every byte is what it was.
-/

namespace TrapKernel

/-- Steps on a heap. -/
abbrev HeapSteps := Steps Heap MemoryError

namespace HeapSteps

open Steps

variable {h h' : Heap} {blocks : List Block} {off address : Nat} {kind : BlockKind}

/-- Write one tag. -/
def tag (f : Region → Except MemoryError Region) : HeapSteps Unit :=
  attempt fun h => do return { h with region := ← f h.region }

/-- Write both tags of a block, the one at its low end first. -/
def putBlock (off : Nat) (kind : BlockKind) (size : Nat) : HeapSteps Unit := do
  let start ← demand fun _ => Link.word off
  let sizeWord ← demand fun _ => Link.word size
  let header : Header := ⟨kind.word, start, sizeWord, Link.nil, Link.nil⟩
  tag (·.putHeader off header)
  tag (·.putTrailer (header.trailerAt off) ⟨kind.word, sizeWord⟩)

/-- Change both links of a block. -/
def setLinks (off : Nat) (next prev : Option Nat) : HeapSteps Unit := do
  tag (·.setNext off next)
  tag (·.setPrev off prev)

/-- Make `next` follow `off`, or come first in the list if there is no `off`. -/
def follow (kind : BlockKind) (off next : Option Nat) : HeapSteps Unit :=
  match off with
  | none => modify (·.setHead kind next)
  | some off => tag (·.setNext off next)

/-- Make `prev` precede `off`, if there is an `off`. -/
def precede (off prev : Option Nat) : HeapSteps Unit :=
  match off with
  | none => return
  | some off => tag (·.setPrev off prev)

/-- Thread a block into a list. -/
def link (kind : BlockKind) (off : Nat) : HeapSteps Unit := do
  let listed ← demand (·.listed kind)
  let prev := (listed.takeWhile (·.offset ≤ off)).getLast?.map (·.offset)
  let next := (listed.dropWhile (·.offset ≤ off)).head?.map (·.offset)
  setLinks off next prev
  follow kind prev (some off)
  precede next (some off)

/-- Take a block out of a list. -/
def unlink (kind : BlockKind) (off : Nat) : HeapSteps Unit := do
  let header ← demand (·.region.header? off)
  let next := Link.decode header.next
  let prev := Link.decode header.prev
  follow kind prev next
  precede next prev
  setLinks off none none

/-- Hand out `bytes` bytes. -/
def allocate (bytes : Nat) : HeapSteps Nat := do
  if bytes = 0 then
    throw .zeroSized
  let needed := bytes + overhead
  match (← demand (·.listed .free)).find? fun b => needed ≤ b.header.payload with
  | none => throw (.outOfMemory bytes (← look (·.largestFree)))
  | some ⟨off, header⟩ =>
    unlink .free off
    if header.payload = needed then
      putBlock off .allocated needed
      link .allocated off
    else
      putBlock off .allocated bytes
      link .allocated off
      let rest := off + overhead + bytes
      putBlock rest .free (header.payload - needed)
      link .free rest
    return off + headerSize

/-- Join the free block at `upper` to the free block at `lower`. -/
def merge (lower upper : Nat) : HeapSteps Unit := do
  let upperSize := (← demand (·.region.header? upper)).payload
  unlink .free upper
  let header ← demand (·.region.header? lower)
  let size ← demand fun _ => Link.word (header.payload + overhead + upperSize)
  let header := { header with size }
  tag (·.putHeader lower header)
  tag (·.putTrailer (header.trailerAt lower) ⟨BlockKind.free.word, size⟩)

/-- Join a free block to the one below it, if that is free. -/
def mergeBelow (off : Nat) : HeapSteps Nat := do
  if off < trailerSize then
    return off
  let below ← demand (·.region.trailer? (off - trailerSize))
  if BlockKind.ofWord? below.kind = some .free then
    if off < overhead + below.size.toNat then
      throw (.corrupt off "lower neighbour starts before the region")
    let lower := off - overhead - below.size.toNat
    merge lower off
    return lower
  else
    return off

/-- Join the block above a free block to it, if that is free. -/
def mergeAbove (off : Nat) : HeapSteps Unit := do
  let upper := (← demand (·.region.header? off)).endAt off
  if upper < (← look (·.capacity)) then
    if BlockKind.ofWord? (← demand (·.region.header? upper)).kind = some .free then
      merge off upper

/-- Take back the block whose payload starts at `address`. -/
def free (address : Nat) : HeapSteps Unit := do
  if address < headerSize then
    throw (.invalidAddress address)
  let off := address - headerSize
  if (← demand (·.listed .allocated)).any (·.offset = off) then
    unlink .allocated off
    putBlock off .free (← demand (·.region.header? off)).payload
    link .free off
    mergeAbove (← mergeBelow off)
  else
    throw (.invalidAddress address)

/-! ### What the steps do -/

theorem after_tag (f : Region → Except MemoryError Region) : (tag f).after h =
    match f h.region with
    | .ok r => (.ok (), { h with region := r })
    | .error e => (.error e, h) := by
  rw [tag, after_attempt]
  cases f h.region <;> rfl

theorem after_putBlock {size : Nat} (done : h.putBlock off kind size = .ok h') :
    (putBlock off kind size).after h = (.ok (), h') := by
  obtain ⟨r, put, same⟩ := ok_of_bind done
  obtain rfl := Except.ok.inj same
  obtain ⟨start, first, rest⟩ := ok_of_bind put
  obtain ⟨sizeWord, second, rest⟩ := ok_of_bind rest
  obtain ⟨r', header, trailer⟩ := ok_of_bind rest
  simp only [putBlock, after_bind, after_demand, first, second, after_tag, header, trailer]

theorem after_setLinks {next prev : Option Nat} {r : Region}
    (done : h.region.setLinks off next prev = .ok r) :
    (setLinks off next prev).after h = (.ok (), { h with region := r }) := by
  obtain ⟨r', first, second⟩ := ok_of_bind done
  simp only [setLinks, after_bind, after_tag, first, second]

theorem after_follow {before next : Option Nat} (done : h.follow kind before next = .ok h') :
    (follow kind before next).after h = (.ok (), h') := by
  cases before with
  | none =>
    obtain rfl := Except.ok.inj done
    rfl
  | some off =>
    obtain ⟨r, linked, same⟩ := ok_of_bind done
    obtain rfl := Except.ok.inj same
    simp only [follow, after_tag, linked]

theorem after_precede {next prev : Option Nat} (done : h.precede next prev = .ok h') :
    (precede next prev).after h = (.ok (), h') := by
  cases next with
  | none =>
    obtain rfl := Except.ok.inj done
    rfl
  | some off =>
    obtain ⟨r, linked, same⟩ := ok_of_bind done
    obtain rfl := Except.ok.inj same
    simp only [precede, after_tag, linked]

theorem after_link (done : h.link kind off = .ok h') : (link kind off).after h = (.ok (), h') := by
  obtain ⟨listed, walked, done⟩ := ok_of_bind done
  obtain ⟨r, linked, done⟩ := ok_of_bind done
  obtain ⟨h₁, followed, done⟩ := ok_of_bind done
  simp only [link, after_bind, after_demand, walked, after_setLinks linked, after_follow followed]
  exact after_precede done

theorem after_unlink (done : h.unlink kind off = .ok h') :
    (unlink kind off).after h = (.ok (), h') := by
  obtain ⟨header, read, done⟩ := ok_of_bind done
  obtain ⟨h₁, followed, done⟩ := ok_of_bind done
  obtain ⟨h₂, preceded, done⟩ := ok_of_bind done
  obtain ⟨r, unlinked, same⟩ := ok_of_bind done
  obtain rfl := Except.ok.inj same
  simp only [unlink, after_bind, after_demand, read, after_follow followed, after_precede preceded]
  exact after_setLinks unlinked

theorem after_merge {lower upper : Nat} (done : h.merge lower upper = .ok h') :
    (merge lower upper).after h = (.ok (), h') := by
  obtain ⟨above, read, done⟩ := ok_of_bind done
  obtain ⟨h₁, unlinked, done⟩ := ok_of_bind done
  obtain ⟨header, below, done⟩ := ok_of_bind done
  obtain ⟨size, word, done⟩ := ok_of_bind done
  obtain ⟨r, first, done⟩ := ok_of_bind done
  obtain ⟨r', second, same⟩ := ok_of_bind done
  obtain rfl := Except.ok.inj same
  simp only [merge, after_bind, after_demand, read, after_unlink unlinked, below, word, after_tag,
    first, second]

theorem after_mergeBelow {lower : Nat} (done : h.mergeBelow off = .ok (lower, h')) :
    (mergeBelow off).after h = (.ok lower, h') := by
  unfold Heap.mergeBelow at done
  unfold mergeBelow
  by_cases low : off < trailerSize
  · rw [if_pos low] at done ⊢
    cases done
    rfl
  rw [if_neg low] at done ⊢
  obtain ⟨below, read, done⟩ := ok_of_bind done
  simp only [after_bind, after_demand, read]
  by_cases free : BlockKind.ofWord? below.kind = some .free
  · rw [if_pos free] at done ⊢
    by_cases outside : off < overhead + below.size.toNat
    · rw [if_pos outside] at done
      cases done
    · rw [if_neg outside] at done ⊢
      obtain ⟨h₁, merged, same⟩ := ok_of_bind done
      cases same
      simp only [after_bind, after_merge merged]
      rfl
  · rw [if_neg free] at done ⊢
    cases done
    rfl

theorem after_mergeAbove (done : h.mergeAbove off = .ok h') :
    (mergeAbove off).after h = (.ok (), h') := by
  obtain ⟨header, read, done⟩ := ok_of_bind done
  simp only [mergeAbove, after_bind, after_demand, read, after_look]
  by_cases inside : header.endAt off < h.capacity
  · rw [if_pos inside] at done ⊢
    obtain ⟨upper, readUpper, done⟩ := ok_of_bind done
    simp only [after_bind, after_demand, readUpper]
    by_cases free : BlockKind.ofWord? upper.kind = some .free
    · rw [if_pos free] at done ⊢
      exact after_merge done
    · rw [if_neg free] at done ⊢
      cases done
      rfl
  · rw [if_neg inside] at done ⊢
    cases done
    rfl

theorem after_granted {bytes : Nat} (done : h.allocate bytes = .ok (address, h')) :
    (allocate bytes).after h = (.ok address, h') := by
  unfold Heap.allocate at done
  unfold allocate
  by_cases zero : bytes = 0
  · rw [if_pos zero] at done
    cases done
  rw [if_neg zero] at done ⊢
  obtain ⟨listed, walked, done⟩ := ok_of_bind done
  simp only [after_bind, after_demand, walked]
  cases found : listed.find? fun b => bytes + overhead ≤ b.header.payload with
  | none =>
    simp only [found] at done
    cases done
  | some b =>
    simp only [found] at done
    obtain ⟨h₁, unlinked, done⟩ := ok_of_bind done
    simp only [after_bind, after_unlink unlinked]
    by_cases whole : b.header.payload = bytes + overhead
    · rw [if_pos whole] at done ⊢
      obtain ⟨h₂, put, done⟩ := ok_of_bind done
      obtain ⟨h₃, linked, same⟩ := ok_of_bind done
      cases same
      simp only [after_bind, after_putBlock put, after_link linked]
      rfl
    · rw [if_neg whole] at done ⊢
      obtain ⟨h₂, put, done⟩ := ok_of_bind done
      obtain ⟨h₃, linked, done⟩ := ok_of_bind done
      obtain ⟨h₄, putRest, done⟩ := ok_of_bind done
      obtain ⟨h₅, linkedRest, same⟩ := ok_of_bind done
      cases same
      simp only [after_bind, after_putBlock put, after_link linked, after_putBlock putRest,
        after_link linkedRest]
      rfl

theorem after_taken (done : h.free address = .ok h') : (free address).after h = (.ok (), h') := by
  unfold Heap.free at done
  unfold free
  by_cases low : address < headerSize
  · rw [if_pos low] at done
    cases done
  rw [if_neg low] at done ⊢
  obtain ⟨listed, walked, done⟩ := ok_of_bind done
  simp only [after_bind, after_demand, walked]
  by_cases known : listed.any (·.offset = address - headerSize)
  · rw [if_pos known] at done ⊢
    obtain ⟨h₁, unlinked, done⟩ := ok_of_bind done
    obtain ⟨header, read, done⟩ := ok_of_bind done
    obtain ⟨h₂, put, done⟩ := ok_of_bind done
    obtain ⟨h₃, linked, done⟩ := ok_of_bind done
    obtain ⟨⟨off, h₄⟩, below, done⟩ := ok_of_bind done
    simp only [after_bind, after_unlink unlinked, after_demand, read, after_putBlock put,
      after_link linked, after_mergeBelow below]
    exact after_mergeAbove done
  · rw [if_neg known] at done
    cases done

/-! ### They are the operations -/

/-- A request is refused before the first tag is written. -/
theorem after_allocate (hl : h.LaidOut blocks) (bytes : Nat) :
    (allocate bytes).after h = settled h (h.allocate bytes) := by
  rcases hl.allocate_cases bytes with ⟨rfl, refused⟩ | ⟨pos, none, refused⟩ |
    ⟨below, b, above, h', -, -, -, -, done, -⟩
  · rw [refused]
    rfl
  · have absent := Heap.LaidOut.find_none (fun b hb => hl.indexed.payload hb) none
    rw [refused, allocate, if_neg pos]
    simp only [after_bind, after_demand, hl.indexed.listed .free, absent, after_look]
    rfl
  · rw [done]
    exact after_granted done

/-- So is what is not to be taken back. -/
theorem after_free (hl : h.LaidOut blocks) (address : Nat) :
    (free address).after h = settled h ((h.free address).map ((), ·)) := by
  rcases hl.free_cases address with ⟨unknown, refused⟩ | ⟨below, b, above, h', -, -, -, done, -⟩
  · rw [refused, free]
    by_cases low : address < headerSize
    · rw [if_pos low]
      rfl
    · obtain ⟨listed, found, absent⟩ := hl.not_listed unknown low
      rw [if_neg low]
      simp only [after_bind, after_demand, found, if_neg absent]
      rfl
  · rw [done]
    exact after_taken done

end HeapSteps

/-- Steps on a bump region. -/
abbrev BumpSteps := Steps Bump MemoryError

namespace BumpSteps

open Steps

/-- Hand out the next `bytes` bytes. -/
def allocate (bytes : Nat) : BumpSteps Nat := do
  if bytes = 0 then
    throw .zeroSized
  let m ← get
  if m.used + bytes ≤ m.capacity then
    let address := m.used
    modify ({ · with used := m.used + bytes })
    modify fun m => { m with allocations := m.allocations + 1 }
    return address
  else
    throw (.outOfMemory bytes (m.capacity - m.used))

/-- Nothing is taken back. -/
def free (_address : Nat) : BumpSteps Unit := throw .freeUnsupported

theorem after_allocate (m : Bump) (bytes : Nat) :
    (allocate bytes).after m = settled m (m.allocate bytes) := by
  unfold allocate Bump.allocate
  by_cases zero : bytes = 0
  · rw [if_pos zero, if_pos zero]
    rfl
  rw [if_neg zero, if_neg zero]
  simp only [after_bind, after_get]
  by_cases room : m.used + bytes ≤ m.capacity
  · rw [if_pos room, if_pos room]
    rfl
  · rw [if_neg room, if_neg room]
    rfl

theorem after_free (m : Bump) (address : Nat) :
    (free address).after m = settled m ((m.free address).map ((), ·)) := rfl

end BumpSteps

namespace Memory

/-- Hand out `bytes` bytes in place: the answer, and the memory in which it ends. -/
def allocating : Memory → Nat → Except MemoryError Nat × Memory
  | heap h, bytes => ((HeapSteps.allocate bytes).after h).map id heap
  | bump m, bytes => ((BumpSteps.allocate bytes).after m).map id bump

/-- Take back in place what was handed out at `address`. -/
def freeing : Memory → Nat → Except MemoryError Unit × Memory
  | heap h, address => ((HeapSteps.free address).after h).map id heap
  | bump m, address => ((BumpSteps.free address).after m).map id bump

/-- In place the memory becomes what the operations answer, and a refusal leaves it as it was. -/
structure Settles (m : Memory) : Prop where
  allocating : ∀ bytes, m.allocating bytes = settled m (m.allocate bytes)
  freeing : ∀ address, m.freeing address = settled m ((m.free address).map ((), ·))

theorem settles_heap {h : Heap} {blocks : List Block} (hl : h.LaidOut blocks) :
    (heap h).Settles where
  allocating bytes := by
    rw [Memory.allocating, HeapSteps.after_allocate hl, allocate]
    cases h.allocate bytes <;> rfl
  freeing address := by
    rw [Memory.freeing, HeapSteps.after_free hl, free]
    cases h.free address <;> rfl

theorem settles_bump (m : Bump) : (bump m).Settles where
  allocating bytes := by
    rw [Memory.allocating, BumpSteps.after_allocate, allocate]
    cases m.allocate bytes <;> rfl
  freeing address := rfl

namespace Settles

variable {m : Memory} {e : MemoryError}

theorem allocating_refused (hm : m.Settles) {bytes : Nat} (refused : m.allocate bytes = .error e) :
    m.allocating bytes = (.error e, m) := by
  rw [hm.allocating, refused]
  rfl

theorem freeing_refused (hm : m.Settles) {address : Nat} (refused : m.free address = .error e) :
    m.freeing address = (.error e, m) := by
  rw [hm.freeing, refused]
  rfl

end Settles

end Memory

end TrapKernel
