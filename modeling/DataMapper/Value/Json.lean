import DataMapper.Json.Tree
import DataMapper.Value.Basic
/-!
# Values as JSON

The tagged form, which keeps every value apart from every other one and writes floats by their
bits, and the reading of plain JSON.
-/

namespace DataMapper

namespace Value

mutual

/-- The tagged form. -/
def toJson : Value → Json
  | null => .text "Null"
  | bool b => .object [("Bool", .bool b)]
  | int n => .object [("Int", .number (.ofInt n.toInt))]
  | float bits => .object [("Float", .number (.ofNat bits.toNat))]
  | text s => .object [("Text", .text s)]
  | bytes b => .object [("Bytes", .list (b.map fun x => .number (.ofNat x.toNat)))]
  | list items => .object [("List", .list (itemsToJson items))]
  | map entries => .object [("Map", .object (entriesToJson entries))]

def itemsToJson : List Value → List Json
  | [] => []
  | v :: rest => toJson v :: itemsToJson rest

def entriesToJson : List (String × Value) → List (String × Json)
  | [] => []
  | e :: rest => (e.1, toJson e.2) :: entriesToJson rest

end

def byteOfJson? : Json → Option UInt8
  | .number n => n.toUInt8?
  | _ => none

def bytesOfJson? : List Json → Option (List UInt8)
  | [] => some []
  | j :: rest => (byteOfJson? j).bind fun b => (bytesOfJson? rest).map (b :: ·)

mutual

/-- Reads the tagged form. A null may also be written as a member. Of several members of a map
with one name the last counts. -/
def ofJson? : Json → Option Value
  | .text s => if s = "Null" then some null else none
  | .object [member] => ofTagged? member.1 member.2
  | _ => none

def ofTagged? (tag : String) : Json → Option Value
  | .null => if tag = "Null" then some null else none
  | .bool b => if tag = "Bool" then some (bool b) else none
  | .number n =>
    if tag = "Int" then n.toInt64?.map int
    else if tag = "Float" then n.toUInt64?.map float
    else none
  | .text s => if tag = "Text" then some (text s) else none
  | .list items =>
    if tag = "Bytes" then (bytesOfJson? items).map bytes
    else if tag = "List" then (itemsOfJson? items).map list
    else none
  | .object members =>
    if tag = "Map" then (entriesOfJson? members).map ofPairs else none

def itemsOfJson? : List Json → Option (List Value)
  | [] => some []
  | j :: rest => (ofJson? j).bind fun v => (itemsOfJson? rest).map (v :: ·)

def entriesOfJson? : List (String × Json) → Option (List (String × Value))
  | [] => some []
  | m :: rest => (ofJson? m.2).bind fun v => (entriesOfJson? rest).map ((m.1, v) :: ·)

end

mutual

/-- Reads plain JSON. Integers in range stay integers, and every other number becomes a float. -/
def ofPlainJson? : Json → Option Value
  | .null => some null
  | .bool b => some (bool b)
  | .number n =>
    match n.toInt64? with
    | some i => some (int i)
    | none => n.toDouble?.map float
  | .text s => some (text s)
  | .list items => (plainItems? items).map list
  | .object members => (plainEntries? members).map ofPairs

def plainItems? : List Json → Option (List Value)
  | [] => some []
  | j :: rest => (ofPlainJson? j).bind fun v => (plainItems? rest).map (v :: ·)

def plainEntries? : List (String × Json) → Option (List (String × Value))
  | [] => some []
  | m :: rest => (ofPlainJson? m.2).bind fun v => (plainEntries? rest).map ((m.1, v) :: ·)

end

/-- The compact text of the tagged form. -/
def jsonText (v : Value) : String :=
  v.toJson.render

def parse? (text : String) : Option Value :=
  (Json.parse? text).bind ofJson?

def parsePlain? (text : String) : Option Value :=
  (Json.parse? text).bind ofPlainJson?

end Value

namespace Rows

/-- Rows as the text of one JSON list. -/
def jsonText (rows : Rows) : String :=
  (Json.list (Value.itemsToJson rows)).render

def parse? (text : String) : Option Rows :=
  match Json.parse? text with
  | some (.list items) => Value.itemsOfJson? items
  | _ => none

end Rows

end DataMapper
