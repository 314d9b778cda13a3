/-!
# Writing TOML

A string is written in the form that needs the fewest escapes: between double quotes if nothing in
it is special; between single quotes if that is enough; else over several lines, if it has none of
what would have to be escaped there; and with escapes if nothing else will do.
-/

namespace TrapKernel.Toml

/-- The forms of a string. -/
inductive StringForm where
  | basic
  | literal
  | multiBasic
  | multiLiteral
  deriving DecidableEq, Repr

namespace StringForm

/-- What stands before and after a string. -/
def delimiter : StringForm → String
  | basic => "\""
  | literal => "'"
  | multiBasic => "\"\"\""
  | multiLiteral => "'''"

/-- The form runs over several lines, so that line feeds stand for themselves. -/
def isMulti : StringForm → Bool
  | multiBasic | multiLiteral => true
  | basic | literal => false

end StringForm

/-- The length of the longest run of a character. `run` is the length of the run that has just been
met. -/
def longestRun (q : Char) (run : Nat) : List Char → Nat
  | [] => run
  | c :: cs => if c = q then longestRun q (run + 1) cs else max run (longestRun q 0 cs)

/-- A control character that has to be escaped wherever it stands. -/
def isControl (c : Char) : Bool := (c < ' ' && c ≠ '\t' && c ≠ '\n') || c = '\x7f'

/-- The form in which a text is written. -/
def formOf (cs : List Char) : StringForm :=
  let newline := cs.contains '\n'
  let backslash := cs.contains '\\'
  let doubles := longestRun '"' 0 cs
  let singles := longestRun '\'' 0 cs
  if cs.any isControl then if newline then .multiBasic else .basic
  else if !backslash && doubles = 0 && !newline then .basic
  else if singles = 0 && !newline then .literal
  else if !backslash && doubles ≤ 2 then .multiBasic
  else if singles ≤ 2 then .multiLiteral
  else if newline then .multiBasic
  else .basic

/-- The four hexadecimal digits of a number below 2 ^ 16. -/
def fourDigits (n : Nat) : String :=
  let digits := (Nat.toDigits 16 n).map Char.toUpper
  String.ofList (List.replicate (4 - digits.length) '0' ++ digits)

/-- The spelling of a character other than a double quote where escapes are read. -/
def escapedChar (multi : Bool) (c : Char) : String :=
  match c with
  | '\x08' => "\\b"
  | '\t' => "\\t"
  | '\n' => if multi then "\n" else "\\n"
  | '\x0c' => "\\f"
  | '\r' => "\\r"
  | '\\' => "\\\\"
  | c => if c < ' ' || c = '\x7f' then "\\u" ++ fourDigits c.toNat else c.toString

/-- The spelling of a text where escapes are read. Over several lines, two double quotes in a row
stand for themselves and the third is escaped; `quotes` counts those that stand for themselves. -/
def escapedText (multi : Bool) (quotes : Nat) : List Char → String
  | [] => ""
  | '"' :: cs =>
    if multi && quotes < 2 then "\"" ++ escapedText multi (quotes + 1) cs
    else "\\\"" ++ escapedText multi 0 cs
  | c :: cs => escapedChar multi c ++ escapedText multi 0 cs

/-- A text as a TOML string. -/
def written (text : String) : String :=
  let cs := text.toList
  let form := formOf cs
  let body :=
    match form with
    | .basic => escapedText false 0 cs
    | .multiBasic => escapedText true 0 cs
    | .literal | .multiLiteral => text
  let start := if form.isMulti && cs.contains '\n' then "\n" else ""
  form.delimiter ++ start ++ body ++ form.delimiter

/-- The line that defines a member. -/
def writtenPair (key value : String) : String := key ++ " = " ++ value ++ "\n"

end TrapKernel.Toml
