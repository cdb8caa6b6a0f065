import CssSelector.Text.Quoted

set_option autoImplicit false

namespace CssSelector

inductive FieldValue where
  | absent
  | text (value : String)
  | texts (values : List String)
deriving DecidableEq

/-- A field's value written out; a single text in a list keeps a comma behind it. -/
def FieldValue.describe : FieldValue → String
  | .absent => "None"
  | .text value => Text.quote value
  | .texts [value] => "(" ++ Text.quote value ++ ",)"
  | .texts values => "(" ++ String.intercalate ", " (values.map Text.quote) ++ ")"

def FieldValue.ofOption : Option String → FieldValue
  | none => .absent
  | some value => .text value

def describeRecord (name : String) (fields : List (String × FieldValue)) : String :=
  name ++ "(" ++
    String.intercalate ", " (fields.map fun (field, value) => field ++ "=" ++ value.describe) ++ ")"

inductive FieldChange where
  | assign (field : String)
  | delete (field : String)
deriving DecidableEq

/-- The refusal of a change, in the same words whether or not the record has the field. -/
def FieldChange.refusal : FieldChange → String
  | .assign field => "cannot assign to field " ++ Text.quote field
  | .delete field => "cannot delete field " ++ Text.quote field

end CssSelector
