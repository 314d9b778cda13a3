/-!
# Hexadecimal numerals

Addresses and offsets are written in base sixteen, in lower case, after the mark `0x`.
-/

namespace TrapKernel.Text

/-- The hexadecimal numeral of `n`, such as `0x3f8`. -/
def hex (n : Nat) : String := "0x" ++ String.ofList (Nat.toDigits 16 n)

end TrapKernel.Text
