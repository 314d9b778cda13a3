/-!
# Decoding UTF-8

Bytes are read as UTF-8. Where they are not well formed, each longest beginning of a character that
is never finished, and each byte that begins none, is read as the replacement character.
-/

namespace TrapKernel.Text

/-- The character that stands for bytes that spell none. -/
def replacement : Char := '\uFFFD'

/-- A character of which the first bytes were read. -/
structure Started where
  /-- The bits read so far. -/
  bits : Nat
  /-- How many bytes are missing. -/
  owed : Nat
  /-- The least and the greatest value that the next byte may have. -/
  low : UInt8
  high : UInt8
  deriving DecidableEq, Repr

/-- Read a byte as the first of a character. The answer is the character, if the byte is one, and
what it starts. The bounds of the second byte rule out spellings that are longer than need be,
surrogates, and numbers beyond those of Unicode. -/
def firstByte (b : UInt8) : List Char × Option Started :=
  let n := b.toNat
  if n < 0x80 then ([Char.ofNat n], none)
  else if n < 0xC2 then ([replacement], none)
  else if n < 0xE0 then ([], some ⟨n - 0xC0, 1, 0x80, 0xBF⟩)
  else if n < 0xF0 then
    ([], some ⟨n - 0xE0, 2, if n = 0xE0 then 0xA0 else 0x80, if n = 0xED then 0x9F else 0xBF⟩)
  else if n < 0xF5 then
    ([], some ⟨n - 0xF0, 3, if n = 0xF0 then 0x90 else 0x80, if n = 0xF4 then 0x8F else 0xBF⟩)
  else ([replacement], none)

/-- Read a byte after the first ones of a character. A byte that does not continue it is read as
the first of another. -/
def nextByte (s : Started) (b : UInt8) : List Char × Option Started :=
  if s.low ≤ b ∧ b ≤ s.high then
    let bits := 64 * s.bits + (b.toNat - 0x80)
    if s.owed = 1 then ([Char.ofNat bits], none)
    else ([], some ⟨bits, s.owed - 1, 0x80, 0xBF⟩)
  else
    let (read, started) := firstByte b
    (replacement :: read, started)

/-- Read bytes, the first of which may have to continue a character. -/
def decodeFrom (started : Option Started) : List UInt8 → List Char
  | [] => if started.isSome then [replacement] else []
  | b :: bs =>
    let (read, started) :=
      match started with
      | none => firstByte b
      | some s => nextByte s b
    read ++ decodeFrom started bs

/-- The text that bytes spell. -/
def decodeUtf8 (bytes : List UInt8) : String := .ofList (decodeFrom none bytes)

end TrapKernel.Text
