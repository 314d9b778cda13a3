import TrapKernel.Toml.Value

/-!
# Reading values by type

What a program takes from TOML values: numbers in a range, texts, choices among words, lists, and
records. The fields of a record are the members of a table, of which those it does not know are
ignored; or, in their order, the items of an array. A date stands for a record without fields.
-/

namespace TrapKernel.Toml.Value

variable {α : Type}

/-- A natural number below a bound. -/
def natBelow? (bound : Nat) : Value → Option Nat
  | .integer n => if 0 ≤ n ∧ n < bound then some n.toNat else none
  | _ => none

/-- A text. -/
def text? : Value → Option String
  | .string text => some text
  | _ => none

/-- A truth value. -/
def bool? : Value → Option Bool
  | .boolean b => some b
  | _ => none

/-- A list of what `item` reads. -/
def list? (item : Value → Option α) : Value → Option (List α)
  | .array items | .tables items => items.mapM item
  | _ => none

/-- A value that holds others, but none. -/
def isHollow : Value → Bool
  | .array [] | .tables [] | .table _ [] => true
  | _ => false

/-- One of some alternatives, each of which has a word: the word, or a table whose only member has
the word as its key and holds nothing. -/
def choice? (ofWord? : String → Option α) : Value → Option α
  | .string word => ofWord? word
  | .table _ [(word, v)] => if v.isHollow then ofWord? word else none
  | _ => none

/-- The fields of a record whose fields have these names. -/
def fields? (names : List String) : Value → Option (List (String × Value))
  | .table _ members => some members
  | .array items | .tables items => some (names.zip items)
  | .dateTime => some []
  | .string _ | .integer _ | .float | .boolean _ => none

/-- A field that has to be there. -/
def required (fields : List (String × Value)) (name : String) (read : Value → Option α) : Option α :=
  (fields.lookup name).bind read

/-- A field that has a default. -/
def defaulted (fields : List (String × Value)) (name : String) (default : α)
    (read : Value → Option α) : Option α :=
  match fields.lookup name with
  | none => some default
  | some v => read v

end TrapKernel.Toml.Value
