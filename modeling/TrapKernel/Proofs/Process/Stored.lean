import TrapKernel.Proofs.Process.Contexts

/-!
# Contexts in bytes of any length

A context is stored over bytes that may be too few for it, or more than it needs. Each register has
its place, four bytes wide. The registers for which there is room are written, the least significant
byte first, and no other byte is touched. They are read back as they were, and the others as zero. A
context that was read from some bytes is what those bytes hold: to store it there again changes
nothing.
-/

namespace TrapKernel

namespace Word

/-! ### Runs of words -/

theorem getElem?_bytes (w : UInt32) {j : Nat} (hj : j < 4) :
    (bytes w)[j]? = some (.ofNat (w.toNat / 256 ^ j)) := by
  match j, hj with
  | 0, _ => simp [bytes]
  | 1, _ => rfl
  | 2, _ => rfl
  | 3, _ => rfl

/-- A word that finds room is written at its place. -/
theorem getElem?_overwrite {ws : List UInt32} {bs : List UInt8} {w : UInt32} {k j : Nat}
    (found : ws[k]? = some w) (room : 4 * k + 4 ≤ bs.length) (hj : j < 4) :
    (overwrite ws bs)[4 * k + j]? = some (.ofNat (w.toNat / 256 ^ j)) := by
  rw [← getElem?_bytes w hj]
  induction ws generalizing bs k with
  | nil => cases found
  | cons w' ws ih =>
    match bs, room with
    | b₀ :: b₁ :: b₂ :: b₃ :: rest, room =>
      rw [overwrite]
      cases k with
      | zero =>
        obtain rfl := Option.some.inj found
        rw [Nat.mul_zero, Nat.zero_add]
        exact List.getElem?_append_left hj
      | succ k =>
        simp only [List.length_cons] at room
        rw [List.getElem?_append_right (by rw [length_bytes]; omega), length_bytes,
          show 4 * (k + 1) + j - 4 = 4 * k + j by omega]
        exact ih found (by omega)

/-- Bytes that no word covers are left alone. -/
theorem getElem?_overwrite_of_le {ws : List UInt32} {bs : List UInt8} {i : Nat}
    (beyond : 4 * min ws.length (bs.length / 4) ≤ i) : (overwrite ws bs)[i]? = bs[i]? := by
  fun_induction overwrite ws bs generalizing i with
  | case1 w ws b₀ b₁ b₂ b₃ rest ih =>
    simp only [List.length_cons] at beyond
    obtain ⟨i, rfl⟩ : ∃ i', i = i' + 4 := Nat.exists_eq_add_of_le' (by omega)
    rw [List.getElem?_append_right (Nat.le_add_left 4 i), length_bytes, Nat.add_sub_cancel,
      ih (by omega)]
    rfl
  | case2 => rfl

/-- Bytes that do not begin with a word. -/
theorem length_lt_of_short {bs : List UInt8}
    (short : ∀ b₀ b₁ b₂ b₃ rest, bs ≠ b₀ :: b₁ :: b₂ :: b₃ :: rest) : bs.length < 4 := by
  match bs, short with
  | [], _ | [_], _ | [_, _], _ | [_, _, _], _ => simp
  | b₀ :: b₁ :: b₂ :: b₃ :: rest, short => exact absurd rfl (short b₀ b₁ b₂ b₃ rest)

theorem length_readAll (bs : List UInt8) : (readAll bs).length = bs.length / 4 := by
  fun_induction readAll bs with
  | case1 b₀ b₁ b₂ b₃ rest ih =>
    simp only [List.length_cons, ih]
    omega
  | case2 bs short => exact (Nat.div_eq_of_lt (length_lt_of_short short)).symm

/-- What was written is read back, as far as there was room; behind it the old words are read. -/
theorem readAll_overwrite_append_drop (ws : List UInt32) (bs : List UInt8) :
    readAll (overwrite ws bs) = ws.take (bs.length / 4) ++ (readAll bs).drop ws.length := by
  fun_induction overwrite ws bs with
  | case1 w ws b₀ b₁ b₂ b₃ rest ih =>
    have room : (b₀ :: b₁ :: b₂ :: b₃ :: rest).length / 4 = rest.length / 4 + 1 := by
      simp only [List.length_cons]
      omega
    rw [room, List.take_succ_cons, List.cons_append, readAll, List.length_cons,
      List.drop_succ_cons, ← ih]
    exact congrArg (· :: readAll (overwrite ws rest)) (ofBytes_bytes w)
  | case2 ws bs short =>
    cases ws with
    | nil => simp
    | cons w ws =>
      have none : bs.length / 4 = 0 :=
        Nat.div_eq_of_lt <| length_lt_of_short fun b₀ b₁ b₂ b₃ rest =>
          short w ws b₀ b₁ b₂ b₃ rest rfl
      have empty : readAll bs = [] := List.eq_nil_of_length_eq_zero ((length_readAll bs).trans none)
      rw [none, empty]
      rfl

/-- To write the words that are there already changes nothing. -/
theorem overwrite_eq_self {ws : List UInt32} {bs : List UInt8}
    (same : ∀ (k : Nat) w w', ws[k]? = some w → (readAll bs)[k]? = some w' → w = w') :
    overwrite ws bs = bs := by
  fun_induction overwrite ws bs with
  | case1 w ws b₀ b₁ b₂ b₃ rest ih =>
    rw [same 0 w (ofBytes b₀ b₁ b₂ b₃) rfl rfl, bytes_ofBytes,
      ih fun k w w' new old => same (k + 1) w w' new old]
    rfl
  | case2 => rfl

end Word

namespace Context

/-! ### Registers and their places -/

/-- The registers that a context has. -/
inductive Field where
  | gs | fs | es | ds
  | edi | esi | ebp | esp | ebx | edx | ecx | eax
  | eip | cs | eflags
  deriving DecidableEq, Repr

/-- The value of a register. -/
def value (c : Context) : Field → UInt32
  | .gs => c.gs
  | .fs => c.fs
  | .es => c.es
  | .ds => c.ds
  | .edi => c.edi
  | .esi => c.esi
  | .ebp => c.ebp
  | .esp => c.esp
  | .ebx => c.ebx
  | .edx => c.edx
  | .ecx => c.ecx
  | .eax => c.eax
  | .eip => c.eip
  | .cs => c.cs
  | .eflags => c.eflags

/-- The registers in the order in which they are pushed: the segment registers, the general ones,
and the frame to which the trap returns. -/
def Field.order : List Field :=
  [gs, fs, es, ds, edi, esi, ebp, esp, ebx, edx, ecx, eax, eip, cs, eflags]

/-- How many registers are stored below this one. -/
def Field.place (f : Field) : Nat := Field.order.idxOf f

theorem words_eq_map (c : Context) : c.words = Field.order.map c.value := rfl

theorem Field.place_lt (f : Field) : f.place < 15 := by
  cases f <;> decide

theorem getElem?_words (c : Context) (f : Field) : c.words[f.place]? = some (c.value f) := by
  cases f <;> rfl

theorem value_ofWords (ws : List UInt32) (f : Field) :
    (ofWords ws).value f = ws.getD f.place 0 := by
  cases f <;> rfl

theorem words_ofWords (ws : List UInt32) :
    (ofWords ws).words = (List.range 15).map (ws.getD · 0) := rfl

/-! ### Writing and reading -/

/-- How many of the fifteen registers find room in so many bytes. -/
def fitting (room : Nat) : Nat := min 15 (room / 4)

/-- What some bytes become when a context is stored over them. -/
structure StoredOver (c : Context) (before after : List UInt8) : Prop where
  length : after.length = before.length
  /-- The registers for which there is room, each as four bytes, the least significant first. -/
  written : ∀ f : Field, f.place < fitting before.length → ∀ j < 4,
    after[4 * f.place + j]? = some (.ofNat ((c.value f).toNat / 256 ^ j))
  untouched : ∀ i, 4 * fitting before.length ≤ i → after[i]? = before[i]?

theorem storedOver_writeTo (c : Context) (bytes : List UInt8) :
    c.StoredOver bytes (c.writeTo bytes) := by
  refine ⟨c.length_writeTo bytes, fun f fits j hj => ?_, fun i beyond => ?_⟩
  · refine Word.getElem?_overwrite (c.getElem?_words f) ?_ hj
    simp only [fitting] at fits
    omega
  · exact Word.getElem?_overwrite_of_le beyond

/-- The registers that were written are read back. -/
theorem value_readFrom_writeTo (c : Context) (bytes : List UInt8) (f : Field) :
    (readFrom (c.writeTo bytes)).value f =
      if f.place < fitting bytes.length then c.value f else 0 := by
  have below := f.place_lt
  have old := Word.length_readAll bytes
  rw [readFrom, value_ofWords, writeTo, Word.readAll_overwrite_append_drop,
    List.getD_eq_getElem?_getD]
  by_cases fits : f.place < fitting bytes.length
  · rw [if_pos fits]
    simp only [fitting] at fits
    rw [List.getElem?_append_left, List.getElem?_take_of_lt (by omega),
      getElem?_words]
    · rfl
    · rw [List.length_take, words_eq_map, List.length_map, Nat.min_comm]
      exact fits
  · -- neither the words that were written nor the old ones behind them reach this place
    rw [if_neg fits]
    simp only [fitting] at fits
    rw [List.getElem?_eq_none]
    · rfl
    · rw [List.length_append, List.length_take, List.length_drop, old, words_eq_map,
        List.length_map, show Field.order.length = 15 from rfl]
      omega

/-- A context is stored where it was read. -/
theorem writeTo_readFrom (bytes : List UInt8) : (readFrom bytes).writeTo bytes = bytes := by
  refine Word.overwrite_eq_self fun k w w' new old => ?_
  rw [readFrom, words_ofWords, List.getElem?_map] at new
  obtain ⟨k', found, rfl⟩ := Option.map_eq_some_iff.mp new
  obtain ⟨-, rfl⟩ := List.getElem?_eq_some_iff.mp found
  rw [List.getElem_range, List.getD_eq_getElem?_getD, old]
  rfl

/-- Whatever the context, and whatever the bytes and their number: the registers for which there is
room are stored, they and no others are read back, and bytes hold the context that is read from
them. -/
theorem codec_bytes (c : Context) (bytes : List UInt8) :
    c.StoredOver bytes (c.writeTo bytes) ∧
      (∀ f, (readFrom (c.writeTo bytes)).value f =
        if f.place < fitting bytes.length then c.value f else 0) ∧
      (size ≤ bytes.length → readFrom (c.writeTo bytes) = c) ∧
      (readFrom bytes).writeTo bytes = bytes :=
  ⟨c.storedOver_writeTo bytes, c.value_readFrom_writeTo bytes, c.readFrom_writeTo,
    writeTo_readFrom bytes⟩

/-- The context from which a process starts, stored over two bytes more than it needs. -/
theorem codec_bytes_start :
    let c := initial 0xDEADBEEF 0x8000 0x83C4
    let bytes := List.replicate 62 0x55
    size ≤ bytes.length ∧ readFrom (c.writeTo bytes) = c ∧ (c.writeTo bytes)[61]? = some 0x55 := by
  intro c bytes
  have long : size ≤ bytes.length := by decide
  obtain ⟨stored, -, exact, -⟩ := codec_bytes c bytes
  exact ⟨long, exact long, stored.untouched 61 (by decide)⟩

end Context

end TrapKernel
