import TrapKernel.Text.Digits

/-!
# Decimal numerals

A natural number is read from decimal digits, which a plus sign may precede.
-/

namespace TrapKernel.Text

/-- A text without the plus sign at its start, if there is one. -/
def withoutPlus : List Char → List Char
  | '+' :: cs => cs
  | cs => cs

/-- The number that a text spells, if it spells one. -/
def decimal? (cs : List Char) : Option Nat :=
  match withoutPlus cs with
  | [] => none
  | digits => (digits.mapM (digitOf? 10)).map (ofDigits 10)

/-- The number that a text spells, if it spells one below `bound`. -/
def decimalBelow? (bound : Nat) (cs : List Char) : Option Nat :=
  (decimal? cs).filter (· < bound)

end TrapKernel.Text
