import DataMapper.Text.Quoted
/-!
# Inspection text

The layout in which values show their structure: records, variants with a payload, lists and
optional values.
-/

namespace DataMapper.Text

def commaSeparated (items : List String) : String :=
  ", ".intercalate items

def inspectList (items : List String) : String :=
  "[" ++ commaSeparated items ++ "]"

/-- A constructor with its arguments between parentheses. -/
def inspectVariant (name : String) (payload : List String) : String :=
  name ++ "(" ++ commaSeparated payload ++ ")"

def inspectOption : Option String → String
  | none => "None"
  | some item => inspectVariant "Some" [item]

def inspectBool (b : Bool) : String :=
  if b then "true" else "false"

def inspectField (field : String × String) : String :=
  field.1 ++ ": " ++ field.2

/-- A record with all of its fields. -/
def inspectRecord (name : String) (fields : List (String × String)) : String :=
  name ++ " \x7b " ++ commaSeparated (fields.map inspectField) ++ " \x7d"

/-- A record that keeps some of its fields to itself. -/
def inspectOpenRecord (name : String) (fields : List (String × String)) : String :=
  name ++ " \x7b " ++ commaSeparated (fields.map inspectField ++ [".."]) ++ " \x7d"

end DataMapper.Text
