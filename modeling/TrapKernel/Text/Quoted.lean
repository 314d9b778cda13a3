import TrapKernel.Text.Shown

/-!
# Quoted text

Text between double quotes, in which every character that would not show, and every quote and
backslash, is spelled out after a backslash.
-/

namespace TrapKernel.Text

/-- The spelling of one character within quotes. -/
def quotedChar (c : Char) : String :=
  match c with
  | '\x00' => "\\0"
  | '\t' => "\\t"
  | '\r' => "\\r"
  | '\n' => "\\n"
  | '"' => "\\\""
  | '\\' => "\\\\"
  | c =>
    if isShown c then c.toString
    else "\\u\x7b" ++ String.ofList (Nat.toDigits 16 c.toNat) ++ "\x7d"

/-- A text between quotes. -/
def quoted (s : String) : String := "\"" ++ String.join (s.toList.map quotedChar) ++ "\""

end TrapKernel.Text
