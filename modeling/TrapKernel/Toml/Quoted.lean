import TrapKernel.Toml.Number

/-!
# TOML strings

A string stands between quotes. Between double quotes a backslash begins an escape; between single
quotes every character stands for itself. Three quotes enclose a string that may run over several
lines, whose line ends are all read as line feeds.
-/

namespace TrapKernel.Toml

open Reader

/-- A space or a tab. -/
def isBlank (c : Char) : Bool := c = ' ' || c = '\t'

/-- A character that stands for itself in comments and strings: all but the control characters, of
which the tab is allowed. -/
def isPlain (c : Char) : Bool := c = '\t' || (' ' ≤ c && c ≤ '~') || 0x80 ≤ c.toNat

/-- Read the end of a line. -/
def newline : Reader Unit := exactly "\n" <|> exactly "\r\n"

/-- What an escape of one letter stands for. -/
def escaped? : Char → Option Char
  | 'b' => some '\x08'
  | 't' => some '\t'
  | 'n' => some '\n'
  | 'f' => some '\x0c'
  | 'r' => some '\r'
  | '"' => some '"'
  | '\\' => some '\\'
  | _ => none

/-- The character whose number hexadecimal digits spell. -/
def codePoint? (digits : List Char) : Option Char := do
  let n := Text.ofDigits 16 (← digits.mapM Text.digitValue?)
  if n.isValidChar then some (Char.ofNat n) else none

/-- Put a character before the text that was read after it. -/
def cons? (c : Option Char) (read : Option (List Char × List Char)) :
    Option (List Char × List Char) := do
  let (text, rest) ← read
  return ((← c) :: text, rest)

/-- Read a string of one line, after its opening double quote. -/
def basic : Reader (List Char)
  | '"' :: cs => some ([], cs)
  | '\\' :: 'u' :: a :: b :: c :: d :: cs => cons? (codePoint? [a, b, c, d]) (basic cs)
  | '\\' :: 'U' :: a :: b :: c :: d :: e :: f :: g :: h :: cs =>
    cons? (codePoint? [a, b, c, d, e, f, g, h]) (basic cs)
  | '\\' :: e :: cs => cons? (escaped? e) (basic cs)
  | c :: cs => if isPlain c then cons? (some c) (basic cs) else none
  | [] => none

/-- The line ends here, but for blanks. -/
def endsLine (cs : List Char) : Bool :=
  match cs.dropWhile isBlank with
  | '\n' :: _ | '\r' :: '\n' :: _ => true
  | _ => false

/-- Read a string of several lines, after its three double quotes and the end of line that may
follow them. A backslash at the end of a line takes away everything up to the next character that
is neither blank nor the end of a line; `skip` says that this is being done. Up to two quotes may
precede the three that end the string. -/
def multiBasic (skip : Bool) : Reader (List Char)
  | '"' :: '"' :: '"' :: '"' :: '"' :: cs => some (['"', '"'], cs)
  | '"' :: '"' :: '"' :: '"' :: cs => some (['"'], cs)
  | '"' :: '"' :: '"' :: cs => some ([], cs)
  | '\\' :: 'u' :: a :: b :: c :: d :: cs => cons? (codePoint? [a, b, c, d]) (multiBasic false cs)
  | '\\' :: 'U' :: a :: b :: c :: d :: e :: f :: g :: h :: cs =>
    cons? (codePoint? [a, b, c, d, e, f, g, h]) (multiBasic false cs)
  | '\\' :: e :: cs =>
    if endsLine (e :: cs) then multiBasic true cs
    else cons? (escaped? e) (multiBasic false cs)
  | '\r' :: '\n' :: cs =>
    if skip then multiBasic true cs else cons? (some '\n') (multiBasic false cs)
  | c :: cs =>
    if skip && (isBlank c || c = '\n') then multiBasic true cs
    else if isPlain c || c = '\n' then cons? (some c) (multiBasic false cs)
    else none
  | [] => none

/-- Read a string of one line, after its opening single quote. -/
def literal : Reader (List Char)
  | '\'' :: cs => some ([], cs)
  | c :: cs => if isPlain c then cons? (some c) (literal cs) else none
  | [] => none

/-- Read a string of several lines, after its three single quotes and the end of line that may
follow them. -/
def multiLiteral : Reader (List Char)
  | '\'' :: '\'' :: '\'' :: '\'' :: '\'' :: cs => some (['\'', '\''], cs)
  | '\'' :: '\'' :: '\'' :: '\'' :: cs => some (['\''], cs)
  | '\'' :: '\'' :: '\'' :: cs => some ([], cs)
  | '\r' :: '\n' :: cs => cons? (some '\n') (multiLiteral cs)
  | c :: cs => if isPlain c || c = '\n' then cons? (some c) (multiLiteral cs) else none
  | [] => none

/-- Read a string of one line. -/
def lineString : Reader String :=
  .ofList <$> ((exactly "\"" *> basic) <|> (exactly "'" *> literal))

/-- Read a string. -/
def string : Reader String :=
  .ofList <$> ((exactly "\"\"\"" *> maybe newline *> multiBasic false) <|>
    (exactly "'''" *> maybe newline *> multiLiteral)) <|> lineString

end TrapKernel.Toml
