/-!
# Words

A 32-bit word is stored as four bytes, the least significant first. `ofBytes` reads back what
`bytes` wrote, and every four bytes are the bytes of the word they spell. Runs of words are read
with `readAll` and written with `overwrite`.
-/

namespace TrapKernel.Word

/-- The four bytes of a word, the least significant first. -/
def bytes (w : UInt32) : List UInt8 :=
  [.ofNat w.toNat, .ofNat (w.toNat / 0x100), .ofNat (w.toNat / 0x10000),
    .ofNat (w.toNat / 0x1000000)]

/-- The word that four bytes spell, the least significant first. -/
def ofBytes (b₀ b₁ b₂ b₃ : UInt8) : UInt32 :=
  .ofNat (b₀.toNat + 0x100 * b₁.toNat + 0x10000 * b₂.toNat + 0x1000000 * b₃.toNat)

/-- The words that bytes spell, four bytes each. Up to three bytes may be left over. -/
def readAll : List UInt8 → List UInt32
  | b₀ :: b₁ :: b₂ :: b₃ :: rest => ofBytes b₀ b₁ b₂ b₃ :: readAll rest
  | _ => []

/-- Write words over the bytes of a list, as long as four bytes are left for the next word. -/
def overwrite : List UInt32 → List UInt8 → List UInt8
  | w :: ws, _ :: _ :: _ :: _ :: rest => bytes w ++ overwrite ws rest
  | _, rest => rest

@[simp] theorem length_bytes (w : UInt32) : (bytes w).length = 4 := rfl

theorem ofBytes_bytes (w : UInt32) :
    ofBytes (.ofNat w.toNat) (.ofNat (w.toNat / 0x100)) (.ofNat (w.toNat / 0x10000))
      (.ofNat (w.toNat / 0x1000000)) = w := by
  have h := w.toNat_lt
  apply UInt32.toNat.inj
  simp only [ofBytes, UInt8.toNat_ofNat', UInt32.toNat_ofNat']
  omega

theorem bytes_ofBytes (b₀ b₁ b₂ b₃ : UInt8) : bytes (ofBytes b₀ b₁ b₂ b₃) = [b₀, b₁, b₂, b₃] := by
  have h₀ := b₀.toNat_lt
  have h₁ := b₁.toNat_lt
  have h₂ := b₂.toNat_lt
  have h₃ := b₃.toNat_lt
  simp only [bytes, ofBytes, List.cons.injEq, ← UInt8.toNat_inj, UInt8.toNat_ofNat',
    UInt32.toNat_ofNat', and_true]
  omega

@[simp] theorem length_overwrite (ws : List UInt32) (bs : List UInt8) :
    (overwrite ws bs).length = bs.length := by
  fun_induction overwrite ws bs with
  | case1 w ws b₀ b₁ b₂ b₃ rest ih => simp [ih]; omega
  | case2 => rfl

end TrapKernel.Word
