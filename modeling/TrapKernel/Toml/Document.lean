import TrapKernel.Toml.Line

/-!
# TOML documents

The root table of a document, built from its lines one by one. A document is refused if it is not
well formed, or if a line defines what was defined before.
-/

namespace TrapKernel.Toml

/-- A document that was read up to some line. -/
structure Draft where
  root : Value
  /-- The way to the table that was opened last. -/
  current : List String

namespace Draft

/-- Nothing was read. The root is the table to which the first pairs belong. -/
def blank : Draft := ⟨.table .header [], []⟩

/-- Act on the next line. -/
def add? (d : Draft) : Line → Option Draft
  | .pair key v => do
    return { d with root := ← d.root.within .implied (·.assign key v) d.current }
  | .header key => do return ⟨← d.root.openTable key, key.parts⟩
  | .arrayHeader key => do return ⟨← d.root.appendTable key, key.parts⟩

end Draft

/-- The root table of a document with these lines. -/
def ofLines? (lines : List Line) : Option Value := (lines.foldlM Draft.add? .blank).map (·.root)

/-- The root table of a document. -/
def parse? (text : String) : Option Value := do
  let (lines, _) ← lines text.toList
  ofLines? lines

end TrapKernel.Toml
