import DataMapper.Named
/-!
# Values

The dynamic values that parameters and result rows are made of. Equality is structural: floats are
equal when their bits are, and an integer never equals a float.
-/

namespace DataMapper

/-- A parameter or a part of a result row. Maps list their entries in ascending order of names. -/
inductive Value where
  | null
  | bool (b : Bool)
  | int (n : Int64)
  | float (bits : UInt64)
  | text (s : String)
  | bytes (b : List UInt8)
  | list (items : List Value)
  | map (entries : List (String × Value))
  deriving Inhabited

/-- The rows that a select returns. -/
abbrev Rows := List Value

namespace Value

mutual

/-- Decides equality of values. -/
def decEq : (a b : Value) → Decidable (a = b)
  | null, null => isTrue rfl
  | bool a, bool b => decidable_of_iff (a = b) (by simp)
  | int a, int b => decidable_of_iff (a = b) (by simp)
  | float a, float b => decidable_of_iff (a = b) (by simp)
  | text a, text b => decidable_of_iff (a = b) (by simp)
  | bytes a, bytes b => decidable_of_iff (a = b) (by simp)
  | list a, list b =>
    match decEqItems a b with
    | isTrue h => isTrue (h ▸ rfl)
    | isFalse h => isFalse fun e => h (list.inj e)
  | map a, map b =>
    match decEqEntries a b with
    | isTrue h => isTrue (h ▸ rfl)
    | isFalse h => isFalse fun e => h (map.inj e)
  | null, bool _ | null, int _ | null, float _ | null, text _ | null, bytes _ | null, list _
  | null, map _ => isFalse nofun
  | bool _, null | bool _, int _ | bool _, float _ | bool _, text _ | bool _, bytes _
  | bool _, list _ | bool _, map _ => isFalse nofun
  | int _, null | int _, bool _ | int _, float _ | int _, text _ | int _, bytes _ | int _, list _
  | int _, map _ => isFalse nofun
  | float _, null | float _, bool _ | float _, int _ | float _, text _ | float _, bytes _
  | float _, list _ | float _, map _ => isFalse nofun
  | text _, null | text _, bool _ | text _, int _ | text _, float _ | text _, bytes _
  | text _, list _ | text _, map _ => isFalse nofun
  | bytes _, null | bytes _, bool _ | bytes _, int _ | bytes _, float _ | bytes _, text _
  | bytes _, list _ | bytes _, map _ => isFalse nofun
  | list _, null | list _, bool _ | list _, int _ | list _, float _ | list _, text _
  | list _, bytes _ | list _, map _ => isFalse nofun
  | map _, null | map _, bool _ | map _, int _ | map _, float _ | map _, text _ | map _, bytes _
  | map _, list _ => isFalse nofun

def decEqItems : (a b : List Value) → Decidable (a = b)
  | [], [] => isTrue rfl
  | a :: as, b :: bs =>
    match decEq a b, decEqItems as bs with
    | isTrue h, isTrue t => isTrue (h ▸ t ▸ rfl)
    | isFalse h, _ => isFalse fun e => h (List.cons.inj e).1
    | _, isFalse t => isFalse fun e => t (List.cons.inj e).2
  | [], _ :: _ | _ :: _, [] => isFalse nofun

def decEqEntries : (a b : List (String × Value)) → Decidable (a = b)
  | [], [] => isTrue rfl
  | (k, a) :: as, (l, b) :: bs =>
    if h : k = l then
      match decEq a b, decEqEntries as bs with
      | isTrue hv, isTrue t => isTrue (h ▸ hv ▸ t ▸ rfl)
      | isFalse hv, _ => isFalse fun e => hv (Prod.mk.inj (List.cons.inj e).1).2
      | _, isFalse t => isFalse fun e => t (List.cons.inj e).2
    else isFalse fun e => h (Prod.mk.inj (List.cons.inj e).1).1
  | [], _ :: _ | _ :: _, [] => isFalse nofun

end

instance : DecidableEq Value := decEq

mutual

/-- Every map inside the value has its names in ascending order. -/
def Ordered : Value → Prop
  | list items => OrderedItems items
  | map entries => Named.Ascending entries ∧ OrderedEntries entries
  | _ => True

def OrderedItems : List Value → Prop
  | [] => True
  | v :: rest => Ordered v ∧ OrderedItems rest

def OrderedEntries : List (String × Value) → Prop
  | [] => True
  | e :: rest => Ordered e.2 ∧ OrderedEntries rest

end

/-- A map value from pairs; of several pairs with one name the last counts. -/
def ofPairs (pairs : List (String × Value)) : Value :=
  map (Named.ofList pairs)

def isNull : Value → Bool
  | null => true
  | _ => false

def asInt? : Value → Option Int64
  | int n => some n
  | _ => none

def asText? : Value → Option String
  | text s => some s
  | _ => none

def asMap? : Value → Option (List (String × Value))
  | map entries => some entries
  | _ => none

/-- A property of a map value. -/
def get? (v : Value) (property : String) : Option Value :=
  v.asMap?.bind fun entries => entries.lookup property

end Value

end DataMapper
