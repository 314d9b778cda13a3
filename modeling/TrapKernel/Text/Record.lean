/-!
# Record text

The text that shows the inside of a value: the name of the type and its fields between braces,
each field as its name, a colon and its value.
-/

namespace TrapKernel.Text

/-- Show a record by name, as in `Name { field: value, other: value }`. -/
def record (name : String) (fields : List (String × String)) : String :=
  name ++ " \x7b " ++ String.intercalate ", " (fields.map fun (label, value) => label ++ ": " ++ value)
    ++ " \x7d"

/-- Show a value that may be missing. -/
def option (value : Option String) : String :=
  match value with
  | none => "None"
  | some text => "Some(" ++ text ++ ")"

end TrapKernel.Text
