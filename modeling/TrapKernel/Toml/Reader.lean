/-!
# Reading text

A reader takes something from the front of a text. It answers what it read and what is left, or
that the text does not begin with what it reads. `p <|> q` reads with `q` where `p` cannot.
-/

namespace TrapKernel.Toml

/-- A way to read a value from the front of a text. -/
abbrev Reader := StateT (List Char) Option

namespace Reader

variable {α β : Type}

/-- Read one character of a class. -/
def char (ok : Char → Bool) : Reader Char := fun
  | [] => none
  | c :: cs => if ok c then some (c, cs) else none

/-- Read the characters of a class for as long as they come. -/
def chars (ok : Char → Bool) : Reader (List Char) := fun cs => some (cs.span ok)

/-- Read a given text. -/
def exactly (s : String) : Reader Unit := fun cs =>
  if s.toList.isPrefixOf cs then some ((), cs.drop s.length) else none

/-- Nothing is left. -/
def atEnd : Reader Unit := fun
  | [] => some ((), [])
  | _ :: _ => none

/-- Read what `p` reads, if it can. -/
def maybe (p : Reader α) : Reader (Option α) := some <$> p <|> pure none

/-- Read with `p` as often as it can, at most `most` times. -/
def manyUpTo (p : Reader α) : (most : Nat) → Reader (List α)
  | 0 => pure []
  | most + 1 => (do
      let a ← p
      let rest ← manyUpTo p most
      return a :: rest) <|> pure []

/-- Read with `p` as often as it can. Since `p` reads at least one character each time, the length
of the text bounds how often that is. -/
def many (p : Reader α) : Reader (List α) := fun cs => manyUpTo p cs.length cs

/-- Read one or more with `p`, with what `separator` reads between them. -/
def separated (p : Reader α) (separator : Reader β) : Reader (List α) := do
  let a ← p
  let rest ← many (separator *> p)
  return a :: rest

end Reader

end TrapKernel.Toml
