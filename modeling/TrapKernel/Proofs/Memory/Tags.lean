import TrapKernel.Memory.Block

/-!
# Reading back what was written

A tag is read back from where it was written, and a write changes nothing that lies outside of it.
Tags are compared through the bytes that they cover: two regions that agree on those bytes hold the
same tag there.
-/

namespace TrapKernel

theorem Word.length_flatMap_bytes (words : List UInt32) :
    (words.flatMap Word.bytes).length = 4 * words.length := by
  induction words with
  | nil => rfl
  | cons w ws ih =>
    rw [List.flatMap_cons, List.length_append, ih, Word.length_bytes, List.length_cons]
    omega

namespace Region

/-! ### Words -/

theorem word_congr {r r' : Region} {off : Nat}
    (same : ∀ i, off ≤ i → i < off + 4 → r'.byte i = r.byte i) : r'.word off = r.word off := by
  rw [word, word, same off (by omega) (by omega), same (off + 1) (by omega) (by omega),
    same (off + 2) (by omega) (by omega), same (off + 3) (by omega) (by omega)]

theorem byte_putWords_of_outside (r : Region) (words : List UInt32) {off i : Nat}
    (outside : i < off ∨ off + 4 * words.length ≤ i) :
    (r.putWords off words).byte i = r.byte i := by
  rw [putWords, byte_putBytes, Word.length_flatMap_bytes, if_neg (by omega)]

theorem putBytes_append (r : Region) (off : Nat) (as bs : List UInt8) :
    r.putBytes off (as ++ bs) = (r.putBytes off as).putBytes (off + as.length) bs := by
  induction as generalizing r off with
  | nil => rfl
  | cons a as ih =>
    have shift : off + (as.length + 1) = off + 1 + as.length := by omega
    rw [List.cons_append, putBytes, ih, putBytes, List.length_cons, shift]

theorem putWords_cons (r : Region) (off : Nat) (w : UInt32) (words : List UInt32) :
    r.putWords off (w :: words) = (r.putBytes off (Word.bytes w)).putWords (off + 4) words := by
  rw [putWords, List.flatMap_cons, putBytes_append, Word.length_bytes]
  rfl

theorem word_putBytes_bytes (r : Region) (off : Nat) (w : UInt32) :
    (r.putBytes off (Word.bytes w)).word off = w := by
  have byte : ∀ k, k < 4 → (r.putBytes off (Word.bytes w)).byte (off + k) =
      (Word.bytes w).getD k 0 := by
    intro k hk
    rw [byte_putBytes, Word.length_bytes, if_pos (by omega), Nat.add_sub_cancel_left]
  have byte₀ := byte 0 (by omega)
  rw [Nat.add_zero] at byte₀
  rw [word, byte₀, byte 1 (by omega), byte 2 (by omega), byte 3 (by omega)]
  exact Word.ofBytes_bytes w

/-- Words are read back where they were written. -/
theorem word_putWords (r : Region) (off : Nat) (words : List UInt32) {j : Nat}
    (hj : j < words.length) : (r.putWords off words).word (off + 4 * j) = words[j] := by
  induction words generalizing r off j with
  | nil => cases hj
  | cons w words ih =>
    rw [putWords_cons]
    cases j with
    | zero =>
      refine (word_congr fun i _ hi => ?_).trans (word_putBytes_bytes r off w)
      exact byte_putWords_of_outside _ _ (Or.inl (by omega))
    | succ j =>
      have shift : off + 4 * (j + 1) = off + 4 + 4 * j := by omega
      rw [shift, List.getElem_cons_succ]
      exact ih _ _ (Nat.lt_of_succ_lt_succ hj)

/-! ### Headers and trailers -/

theorem header_congr {r r' : Region} {off : Nat}
    (same : ∀ i, off ≤ i → i < off + headerSize → r'.byte i = r.byte i) :
    r'.header off = r.header off := by
  have word : ∀ k, k ≤ 16 → r'.word (off + k) = r.word (off + k) := fun k hk =>
    word_congr fun i _ _ => same i (by omega) (by rw [headerSize]; omega)
  have word₀ := word 0 (by omega)
  rw [Nat.add_zero] at word₀
  rw [header, header, word₀, word 4 (by omega), word 8 (by omega), word 12 (by omega),
    word 16 (by omega)]

theorem trailer_congr {r r' : Region} {off : Nat}
    (same : ∀ i, off ≤ i → i < off + trailerSize → r'.byte i = r.byte i) :
    r'.trailer off = r.trailer off := by
  have word : ∀ k, k ≤ 4 → r'.word (off + k) = r.word (off + k) := fun k hk =>
    word_congr fun i _ _ => same i (by omega) (by rw [trailerSize]; omega)
  have word₀ := word 0 (by omega)
  rw [Nat.add_zero] at word₀
  rw [trailer, trailer, word₀, word 4 (by omega)]

theorem header_putWords (r : Region) (off : Nat) (h : Header) :
    (r.putWords off h.words).header off = h := by
  have word : ∀ j (hj : j < h.words.length),
      (r.putWords off h.words).word (off + 4 * j) = h.words[j] :=
    fun _ hj => word_putWords r off h.words hj
  have word₀ := word 0 (show 0 < 5 by decide)
  rw [Nat.mul_zero, Nat.add_zero] at word₀
  rw [header, word₀, word 1 (show 1 < 5 by decide), word 2 (show 2 < 5 by decide),
    word 3 (show 3 < 5 by decide), word 4 (show 4 < 5 by decide)]
  rfl

theorem trailer_putWords (r : Region) (off : Nat) (t : Trailer) :
    (r.putWords off t.words).trailer off = t := by
  have word : ∀ j (hj : j < t.words.length),
      (r.putWords off t.words).word (off + 4 * j) = t.words[j] :=
    fun _ hj => word_putWords r off t.words hj
  have word₀ := word 0 (show 0 < 2 by decide)
  rw [Nat.mul_zero, Nat.add_zero] at word₀
  rw [trailer, word₀, word 1 (show 1 < 2 by decide)]
  rfl

theorem header?_eq {r : Region} {off : Nat} (holds : off + headerSize ≤ r.size) :
    r.header? off = .ok (r.header off) := if_pos holds

theorem trailer?_eq {r : Region} {off : Nat} (holds : off + trailerSize ≤ r.size) :
    r.trailer? off = .ok (r.trailer off) := if_pos holds

theorem putHeader_eq {r : Region} {off : Nat} (h : Header) (holds : off + headerSize ≤ r.size) :
    r.putHeader off h = .ok (r.putWords off h.words) := if_pos holds

theorem putTrailer_eq {r : Region} {off : Nat} (t : Trailer)
    (holds : off + trailerSize ≤ r.size) :
    r.putTrailer off t = .ok (r.putWords off t.words) := if_pos holds

end Region

/-! ### Link words -/

namespace Link

theorem word_eq {n : Nat} (h : n < nil.toNat) : word n = .ok (.ofNat n) := if_pos h

theorem toNat_ofNat {n : Nat} (h : n < nil.toNat) : (UInt32.ofNat n).toNat = n := by
  rw [UInt32.toNat_ofNat']
  exact Nat.mod_eq_of_lt (Nat.lt_trans h (by decide))

/-- A link that can be written is read back. -/
theorem decode_encode {link : Option Nat} (h : ∀ n, link = some n → n < nil.toNat) :
    ∃ w, encode link = .ok w ∧ decode w = link := by
  cases link with
  | none => exact ⟨nil, rfl, if_pos rfl⟩
  | some n =>
    have small := h n rfl
    refine ⟨.ofNat n, word_eq small, ?_⟩
    rw [decode, if_neg, toNat_ofNat small]
    intro eq
    have value := congrArg UInt32.toNat eq
    rw [toNat_ofNat small] at value
    omega

end Link

end TrapKernel
