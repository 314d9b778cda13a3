import TrapKernel.Toml.DateTime
import TrapKernel.Toml.Quoted

/-!
# The lines of a TOML document

A document is a list of lines: a header opens a table, a pair defines a member of the table that
was opened last. A value may run over several lines of text.
-/

namespace TrapKernel.Toml

open Reader

/-- A line that says something. -/
inductive Line where
  | pair (key : Key) (value : Value)
  /-- The header of a table. -/
  | header (key : Key)
  /-- The header of a table in an array of tables. -/
  | arrayHeader (key : Key)

/-- How deep arrays and inline tables may lie within each other. -/
def maxDepth : Nat := 79

/-- How many parts a key may have. -/
def maxKeyParts : Nat := 79

/-- Read blanks. -/
def blanks : Reader Unit := do let _ ← chars isBlank

/-- Read a comment, up to the end of its line. -/
def comment : Reader Unit := do
  exactly "#"
  let _ ← chars isPlain

/-- Read the end of a line of text; the last one may lack it. -/
def lineEnd : Reader Unit := newline <|> atEnd

/-- Read the rest of a line that has said what it says. -/
def lineRest : Reader Unit := do
  blanks
  let _ ← maybe comment
  lineEnd

/-- Read blanks, ends of lines and comments. -/
def gap : Reader Unit := do
  let _ ← many ((do let _ ← char isBlank) <|> newline <|> comment)

/-- A character of a key without quotes. -/
def isBare (c : Char) : Bool := c.isAlphanum || c = '-' || c = '_'

/-- Read a key without quotes. -/
def bareKey : Reader String := do
  let first ← char isBare
  return .ofList (first :: (← chars isBare))

/-- Read a key. -/
def key : Reader Key := do
  let parts ← separated (blanks *> (lineString <|> bareKey) <* blanks) (exactly ".")
  if maxKeyParts < parts.length then failure
  match Key.ofParts? parts with
  | none => failure
  | some key => return key

/-- Read a truth value. -/
def boolean : Reader Value :=
  (do exactly "true"; return .boolean true) <|> (do exactly "false"; return .boolean false)

/-- Read a value that holds no others. -/
def scalar : Reader Value := .string <$> string <|> boolean <|> dateTime <|> float <|> integer

/-- Read an array. A comma may follow the last item. -/
def array (item : Reader Value) : Reader Value := do
  exactly "["
  let items ← (separated (gap *> item <* gap) (exactly ",") <* maybe (exactly ",")) <|> pure []
  gap
  exactly "]"
  return .array items

/-- Read a key with its value. -/
def pair (item : Reader Value) : Reader (Key × Value) := do
  let key ← key
  exactly "="
  blanks
  return (key, ← item)

/-- Read an inline table. It is written on one line. -/
def inlineTable (item : Reader Value) : Reader Value := do
  exactly "\x7b"
  let pairs ← separated (pair item <* blanks) (exactly ",") <|> pure []
  blanks
  exactly "\x7d"
  StateT.lift (pairs.foldlM (fun t (key, v) => t.assign key v) (.table .inline []))

/-- Read a value in which others may lie `depth` deep. -/
def value : (depth : Nat) → Reader Value
  | 0 => scalar
  | depth + 1 => scalar <|> array (value depth) <|> inlineTable (value depth)

/-- Read a line that says something. -/
def statement : Reader Line :=
  (do exactly "[["; let key ← key; exactly "]]"; return .arrayHeader key) <|>
  (do exactly "["; let key ← key; exactly "]"; return .header key) <|> do
    let (key, v) ← pair (value maxDepth)
    return .pair key v

/-- Read a line of text. Lines that are empty, or hold only a comment, say nothing. -/
def line : Reader (Option Line) := do
  blanks
  (do newline; return none) <|> (do comment; lineEnd; return none) <|>
    (do let l ← statement; lineRest; return some l)

/-- Read a document. A byte order mark at its start is skipped. -/
def lines : Reader (List Line) := do
  let _ ← maybe (exactly "\uFEFF")
  let all ← many line
  blanks
  atEnd
  return all.filterMap id

end TrapKernel.Toml
