/-!
# TOML values

The values of a TOML document. A table and an array know how they were written, because that says
what later lines of the document may still add to them.

`within` is the way into a document: it follows the keys of a path and changes the table at its
end. The rules of the format for what may be defined twice are the cases of `within`, `assign`,
`openTable` and `appendTable`.
-/

namespace TrapKernel.Toml

/-- How a table came about. -/
inductive Origin where
  /-- It was written between braces, and nothing may be added. -/
  | inline
  /-- A header named it, so no other header may. -/
  | header
  /-- A header named a table inside of it. -/
  | implied
  /-- A key with dots named a member of it. -/
  | dotted
  deriving DecidableEq, Repr

/-- A TOML value. -/
inductive Value where
  | string (text : String)
  | integer (n : Int)
  /-- A floating-point number; nothing here reads its value. -/
  | float
  | boolean (b : Bool)
  /-- A date, a time or both; nothing here reads its value. -/
  | dateTime
  | array (items : List Value)
  /-- An array of tables, each written under a header of its own. -/
  | tables (items : List Value)
  | table (origin : Origin) (members : List (String × Value))
  deriving Inhabited

/-- A key: the tables on the way, and the member of the last of them. -/
structure Key where
  path : List String
  last : String
  deriving DecidableEq, Repr

namespace Key

/-- The key with all its parts on the way. -/
def parts (k : Key) : List String := k.path ++ [k.last]

/-- The key with these parts. There has to be one. -/
def ofParts? (parts : List String) : Option Key :=
  parts.getLast?.map fun last => ⟨parts.dropLast, last⟩

end Key

namespace Value

/-- Set a member that is there already, or add it at the end. -/
def put (key : String) (v : Value) : List (String × Value) → List (String × Value)
  | [] => [(key, v)]
  | (name, old) :: rest => if name = key then (key, v) :: rest else (name, old) :: put key v rest

/-- Change the table at the end of a path. Tables on the way that are not there are made with the
given origin. In an array of tables the way leads into its last table. A value that is no table,
or a table that was closed, ends the way. -/
def within (made : Origin) (change : Value → Option Value) : List String → Value → Option Value
  | [], t => change t
  | key :: path, .table origin members => do
    let child ←
      match members.lookup key with
      | none => within made change path (.table made [])
      | some (.table .inline _) => none
      | some (.table .header ms) =>
        if made = .dotted then none else within made change path (.table .header ms)
      | some (.table o ms) => within made change path (.table o ms)
      | some (.tables items) => do
        let last ← within made change path (← items.getLast?)
        some (.tables (items.dropLast ++ [last]))
      | some _ => none
    some (.table origin (put key child members))
  | _ :: _, _ => none

/-- Add a member to a table. The member must be new; and below a key with dots the table must have
come about by such a key. -/
def addMember (key : Key) (v : Value) : Value → Option Value
  | .table origin members =>
    if (members.lookup key.last).isSome ∨ (key.path ≠ [] ∧ origin ≠ .dotted) then none
    else some (.table origin (put key.last v members))
  | _ => none

/-- Define what a key stands for within a table. -/
def assign (t : Value) (key : Key) (v : Value) : Option Value :=
  t.within .dotted (addMember key v) key.path

/-- Open the member `name` of a table as a table of its own. -/
def openMember (name : String) : Value → Option Value
  | .table origin members =>
    match members.lookup name with
    | none => some (.table origin (put name (.table .header []) members))
    | some (.table .implied ms) => some (.table origin (put name (.table .header ms) members))
    | some _ => none
  | _ => none

/-- Add an empty table to the member `name` of a table, an array of tables. -/
def appendMember (name : String) : Value → Option Value
  | .table origin members =>
    match members.lookup name with
    | none => some (.table origin (put name (.tables [.table .header []]) members))
    | some (.tables items) =>
      some (.table origin (put name (.tables (items ++ [.table .header []])) members))
    | some _ => none
  | _ => none

/-- Act on the header of a table. -/
def openTable (root : Value) (key : Key) : Option Value :=
  root.within .implied (openMember key.last) key.path

/-- Act on the header of a table in an array of tables. -/
def appendTable (root : Value) (key : Key) : Option Value :=
  root.within .implied (appendMember key.last) key.path

theorem lookup_put (key name : String) (v : Value) (members : List (String × Value)) :
    (put key v members).lookup name = if name = key then some v else members.lookup name := by
  fun_induction put key v members with
  | case1 =>
    by_cases h : name = key
    · simp [h]
    · have h' : (name == key) = false := by simpa using h
      simp [List.lookup_cons, h, h']
  | case2 old rest =>
    by_cases h : name = key
    · simp [h]
    · have h' : (name == key) = false := by simpa using h
      simp [List.lookup_cons, h, h']
  | case3 other old rest hne ih =>
    by_cases h : name = other
    · subst h
      simp [hne]
    · have h' : (name == other) = false := by simpa using h
      simp only [List.lookup_cons, h', ih]

end Value

end TrapKernel.Toml
