import BlockPool.Text.Quoted

/-! Record notation: `Name { field: value, other: value }`, fields in their order. A record without fields
is its bare name. -/

set_option autoImplicit false

namespace BlockPool.Text

abbrev Field := String × String

def Field.text (field : Field) : String := field.1 ++ ": " ++ field.2

-- In code a brace of the text is written by its number.
def record (name : String) (fields : List Field) : String :=
  match fields with
  | [] => name
  | _ => name ++ " \x7b " ++ ", ".intercalate (fields.map Field.text) ++ " \x7d"

def wrapped (name : String) (value : String) : String := name ++ "(" ++ value ++ ")"

def optional {α : Type} (text : α → String) : Option α → String
  | none => "None"
  | some value => wrapped "Some" (text value)

def truth (value : Bool) : String := if value then "true" else "false"

def listing (values : List String) : String := "[" ++ ", ".intercalate values ++ "]"

end BlockPool.Text
