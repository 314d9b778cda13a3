import TrapKernel.Text.Digits
import TrapKernel.Toml.Reader
import TrapKernel.Toml.Value

/-!
# TOML numbers

Integers have 64 bits and are written in base ten, or after a mark in base sixteen, eight or two.
A float has a fraction, an exponent or both. Single underscores may stand between digits.
-/

namespace TrapKernel.Toml

open Reader Text

/-- Read one digit. -/
def digit (base : Nat) : Reader Nat := do
  let c ← char fun c => (digitOf? base c).isSome
  return (digitOf? base c).getD 0

/-- Read digits, with single underscores between them. -/
def digits (base : Nat) : Reader (List Nat) := do
  let first ← digit base
  let rest ← many (digit base <|> (exactly "_" *> digit base))
  return first :: rest

/-- Read exactly `width` decimal digits. -/
def fixedDigits (width : Nat) : Reader Nat := do
  return ofDigits 10 (← (List.replicate width (digit 10)).mapM id)

/-- Read a sign. The answer tells whether it is a minus. -/
def sign : Reader Bool := do
  match ← maybe (char fun c => c = '+' || c = '-') with
  | some c => return c = '-'
  | none => return false

/-- Read the digits before the point. They begin with a zero only if that is all. -/
def wholeDigits : Reader (List Nat) := (do exactly "0"; return [0]) <|> digits 10

/-- The value of an integer, if 64 bits hold it. -/
def integerOf (negative : Bool) (n : Nat) : Reader Value :=
  if negative then
    if n ≤ UInt64.size / 2 then pure (.integer (-n)) else failure
  else
    if n < UInt64.size / 2 then pure (.integer n) else failure

/-- Read an integer in the base that a mark names. -/
def marked (mark : String) (base : Nat) : Reader Value := do
  exactly mark
  integerOf false (ofDigits base (← digits base))

/-- Read an integer. -/
def integer : Reader Value :=
  marked "0x" 16 <|> marked "0o" 8 <|> marked "0b" 2 <|> do
    let negative ← sign
    integerOf negative (ofDigits 10 (← wholeDigits))

/-- The least number that is rounded up to infinity in the format of 64 bits: half a step above
the greatest number of the format. -/
def floatLimit : Nat := 1 <<< 1024 - 1 <<< 970

/-- The decimal number with these digits, times ten to the power `scale`, is too large for a float.
Outside of a window around the limit the number of digits decides. -/
def overflows (digits : List Nat) (scale : Int) : Bool :=
  let magnitude := (digits.dropWhile (· = 0)).length + scale
  let n := ofDigits 10 digits
  if n = 0 ∨ magnitude < 300 then false
  else if 400 < magnitude then true
  else if 0 ≤ scale then floatLimit ≤ n * Nat.pow 10 scale.toNat
  else floatLimit * Nat.pow 10 (-scale).toNat ≤ n

/-- Read an exponent. -/
def exponent : Reader Int := do
  let _ ← char fun c => c = 'e' || c = 'E'
  let negative ← sign
  let n := ofDigits 10 (← digits 10)
  return if negative then -n else n

/-- Read a float that is not negative, or the rest of a negative one. A number that is too large is
refused, unless it is negative. -/
def decimal (negative : Bool) : Reader Value := do
  let whole ← wholeDigits
  let fraction ← maybe (exactly "." *> digits 10)
  let scale ← maybe exponent
  if fraction.isNone && scale.isNone then failure
  let shift := scale.getD 0 - (fraction.getD []).length
  if !negative && overflows (whole ++ fraction.getD []) shift then failure
  return .float

/-- Read a float. -/
def float : Reader Value := do
  let negative ← sign
  (do exactly "inf"; return .float) <|> (do exactly "nan"; return .float) <|> decimal negative

end TrapKernel.Toml
