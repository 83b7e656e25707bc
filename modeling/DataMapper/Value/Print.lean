import DataMapper.Decimal.Notation
import DataMapper.Text.Inspect
import DataMapper.Value.Basic
/-!
# Values as text

The plain text of a value, which keys and reports show, and the inspection text, which names the
kind of every part.
-/

namespace DataMapper.Value

open Text Decimal

def plainFloat (bits : UInt64) : String :=
  Layout.plain.render (Double.ofBits bits)

def inspectFloat (bits : UInt64) : String :=
  Layout.inspection.render (Double.ofBits bits)

mutual

/-- The plain text. Bytes show their number only. -/
def plain : Value → String
  | null => "null"
  | bool b => inspectBool b
  | int n => toString n.toInt
  | float bits => plainFloat bits
  | text s => s
  | bytes b => "<" ++ toString b.length ++ " bytes>"
  | list items => "[" ++ commaSeparated (plainItems items) ++ "]"
  | map entries => "\x7b" ++ commaSeparated (plainEntries entries) ++ "\x7d"

def plainItems : List Value → List String
  | [] => []
  | v :: rest => plain v :: plainItems rest

def plainEntries : List (String × Value) → List String
  | [] => []
  | e :: rest => (e.1 ++ "=" ++ plain e.2) :: plainEntries rest

end

mutual

def inspect : Value → String
  | null => "Null"
  | bool b => inspectVariant "Bool" [inspectBool b]
  | int n => inspectVariant "Int" [toString n.toInt]
  | float bits => inspectVariant "Float" [inspectFloat bits]
  | text s => inspectVariant "Text" [quoted s]
  | bytes b => inspectVariant "Bytes" [inspectList (b.map fun x => toString x.toNat)]
  | list items => inspectVariant "List" [inspectList (inspectItems items)]
  | map entries =>
    inspectVariant "Map" ["\x7b" ++ commaSeparated (inspectEntries entries) ++ "\x7d"]

def inspectItems : List Value → List String
  | [] => []
  | v :: rest => inspect v :: inspectItems rest

def inspectEntries : List (String × Value) → List String
  | [] => []
  | e :: rest => (quoted e.1 ++ ": " ++ inspect e.2) :: inspectEntries rest

end

end DataMapper.Value
