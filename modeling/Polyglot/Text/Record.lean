import Polyglot.Text.Quoted

/-!
# Records in debugging output

Debugging output shows a record by its name and, in braces, its fields with their values.
-/

set_option autoImplicit false

namespace Polyglot.Text

/-- The fields in a row, each as its name, a colon and its value. -/
def fieldList (fields : List (String × String)) : String :=
  ", ".intercalate (fields.map fun f => f.1 ++ ": " ++ f.2)

/-- A record with all its fields. -/
def record (name : String) (fields : List (String × String)) : String :=
  name ++ " \x7b " ++ fieldList fields ++ " \x7d"

/-- A record of which more is left out than shown. -/
def partialRecord (name : String) (fields : List (String × String)) : String :=
  name ++ " \x7b " ++ fieldList fields ++ ", .. \x7d"

/-- A list of values in brackets. -/
def bracketed (values : List String) : String :=
  "[" ++ ", ".intercalate values ++ "]"

/-- An optional value: `Some` of it, or `None`. -/
def optional : Option String → String
  | some value => "Some(" ++ value ++ ")"
  | none => "None"

/-- A truth value. -/
def truth : Bool → String
  | true => "true"
  | false => "false"

end Polyglot.Text
