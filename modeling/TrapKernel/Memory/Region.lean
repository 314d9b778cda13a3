import TrapKernel.Cells
import TrapKernel.Word

/-!
# Regions

A region is a run of bytes, numbered from zero. Its tags are 32-bit words that may start at any
offset. Reads and writes here are total; `Region.Holds` says which of them stay inside, and the
operations of the heap ask it before each access.
-/

namespace TrapKernel

/-- A run of `size` bytes, all zero at first. -/
structure Region where
  size : Nat
  bytes : Cells UInt8

namespace Region

/-- A region of `size` zero bytes. -/
def zeroed (size : Nat) : Region := ⟨size, .blank⟩

/-- The byte at `off`. -/
def byte (r : Region) (off : Nat) : UInt8 := r.bytes.get off

/-- The `count` bytes from `off` on lie inside the region. -/
def Holds (r : Region) (off count : Nat) : Prop := off + count ≤ r.size

instance (r : Region) (off count : Nat) : Decidable (r.Holds off count) :=
  inferInstanceAs (Decidable (_ ≤ _))

/-- The word at `off`. -/
def word (r : Region) (off : Nat) : UInt32 :=
  Word.ofBytes (r.byte off) (r.byte (off + 1)) (r.byte (off + 2)) (r.byte (off + 3))

/-- Write `bs` from `off` on. -/
def putBytes (r : Region) (off : Nat) : List UInt8 → Region
  | [] => r
  | b :: bs => putBytes { r with bytes := r.bytes.set off b } (off + 1) bs

/-- Write words one after the other from `off` on. -/
def putWords (r : Region) (off : Nat) (words : List UInt32) : Region :=
  r.putBytes off (words.flatMap Word.bytes)

@[simp] theorem size_putBytes (r : Region) (off : Nat) (bs : List UInt8) :
    (r.putBytes off bs).size = r.size := by
  induction bs generalizing r off with
  | nil => rfl
  | cons b bs ih => rw [putBytes, ih]

@[simp] theorem size_putWords (r : Region) (off : Nat) (words : List UInt32) :
    (r.putWords off words).size = r.size := size_putBytes ..

/-- A write changes the bytes it covers and no others. -/
theorem byte_putBytes (r : Region) (off : Nat) (bs : List UInt8) (i : Nat) :
    (r.putBytes off bs).byte i =
      if off ≤ i ∧ i < off + bs.length then bs.getD (i - off) 0 else r.byte i := by
  induction bs generalizing r off with
  | nil =>
    rw [if_neg (by rw [List.length_nil]; omega)]
    rfl
  | cons b bs ih =>
    rw [putBytes, ih, List.length_cons]
    by_cases h : i = off
    · subst h
      rw [if_neg (by omega), if_pos (by omega), Nat.sub_self, List.getD_cons_zero]
      exact Cells.get_set_self ..
    · by_cases hi : off + 1 ≤ i ∧ i < off + 1 + bs.length
      · have next : i - off = (i - (off + 1)) + 1 := by omega
        rw [if_pos hi, if_pos (by omega), next, List.getD_cons_succ]
      · rw [if_neg hi, if_neg (by omega)]
        exact Cells.get_set_of_ne _ _ (Ne.symm h)

end Region

end TrapKernel
