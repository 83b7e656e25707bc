import DataMapper.Region.Basic
import DataMapper.Value.Json
/-!
# Volumes

The persistent storage of a cache region: a map from encoded keys to the text of the rows. A volume
refuses to write under a long key, and a text that does not read as rows is an error.
-/

namespace DataMapper

/-- Failures of persistent storage. -/
inductive VolumeError where
  | openEnvironment (detail : String)
  | openDatabase (detail : String)
  | transaction (detail : String)
  | serialization (detail : String)
  | deserialization (detail : String)
  | io (detail : String)
  deriving DecidableEq, Repr

namespace VolumeError

def message : VolumeError → String
  | openEnvironment detail => "Failed to open LMDB environment: " ++ detail
  | openDatabase detail => "Failed to open database: " ++ detail
  | transaction detail => "Transaction error: " ++ detail
  | serialization detail => "Serialization error: " ++ detail
  | deserialization detail => "Deserialization error: " ++ detail
  | io detail => "I/O error: " ++ detail

/-- The refusal to write under a key that is too long. -/
def badKeySize : VolumeError :=
  transaction
    "MDB_BAD_VALSIZE: Unsupported size of key/DB name/data, or wrong DUPFIXED size"

def unreadableRows : VolumeError :=
  deserialization "the stored text does not read as rows"

end VolumeError

/-- The contents of a volume. -/
abbrev Volume := Table (List UInt8) String

namespace Volume

def maxKeySize : Nat := 511

def read? (v : Volume) (key : CacheKey) : Except VolumeError (Option Rows) :=
  match v.get? key.encode with
  | none => .ok none
  | some text =>
    match Rows.parse? text with
    | some rows => .ok (some rows)
    | none => .error .unreadableRows

def write? (v : Volume) (key : CacheKey) (rows : Rows) : Except VolumeError Volume :=
  let encoded := key.encode
  if encoded.length ≤ maxKeySize then .ok (v.insert encoded (Rows.jsonText rows))
  else .error .badKeySize

/-- Puts any text under a key that is not too long. -/
def writeText (v : Volume) (key : CacheKey) (text : String) : Volume :=
  if key.encode.length ≤ maxKeySize then v.insert key.encode text else v

/-- Writes entries in order, all of them or none. -/
def writeAll? : Volume → List (CacheKey × Rows) → Except VolumeError Volume
  | v, [] => .ok v
  | v, e :: rest =>
    match v.write? e.1 e.2 with
    | .ok v => writeAll? v rest
    | .error e => .error e

end Volume

end DataMapper
