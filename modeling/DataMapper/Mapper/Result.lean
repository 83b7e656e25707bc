import DataMapper.Session
/-!
# Mapper results

The shaped answers of mapper calls, and their conversion to the content of one shape.
-/

namespace DataMapper

inductive MapperResult where
  | void
  | affectedRows (n : Nat)
  | flag (b : Bool)
  | one (row : Option Value)
  | many (rows : Rows)
  | map (rows : KeyedRows)
  | cursor (cursor : Cursor)

namespace MapperResult

/-- The name of a shape. -/
def shape : MapperResult → String
  | void => "void"
  | affectedRows _ => "affected rows"
  | flag _ => "flag"
  | one _ => "single row"
  | many _ => "row list"
  | map _ => "keyed map"
  | cursor _ => "cursor"

def unexpected (r : MapperResult) (expected : String) : Error :=
  .result (.unexpectedShape expected r.shape)

def isVoid : MapperResult → Bool
  | void => true
  | _ => false

def toAffectedRows : MapperResult → Except Error Nat
  | affectedRows n => .ok n
  | other => .error (other.unexpected "affected rows")

def toFlag : MapperResult → Except Error Bool
  | flag b => .ok b
  | other => .error (other.unexpected "flag")

def toOne : MapperResult → Except Error (Option Value)
  | one row => .ok row
  | other => .error (other.unexpected "single row")

def toMany : MapperResult → Except Error Rows
  | many rows => .ok rows
  | other => .error (other.unexpected "row list")

def toMap : MapperResult → Except Error KeyedRows
  | map rows => .ok rows
  | other => .error (other.unexpected "keyed map")

def toCursor : MapperResult → Except Error Cursor
  | cursor c => .ok c
  | other => .error (other.unexpected "cursor")

/-- A row, or else a given value. -/
def rowOr (fallback : Value) (r : MapperResult) : Except Error MapperResult :=
  r.toOne.map fun row => .one (some (row.getD fallback))

/-- The answer of a session as it is. -/
def ofReply : SessionReply → MapperResult
  | .done => void
  | .row r => one r
  | .rows rows => many rows
  | .keyed rows => map rows
  | .cursor c => cursor c
  | .count n => affectedRows n

end MapperResult

end DataMapper
