import DataMapper.Digest
import DataMapper.Text.Bytes
import DataMapper.Value.Binary
/-!
# Hashes of values

What of a value enters its digest: the tag and the payload, texts closed by a byte that no text
contains, and sequences behind their length.
-/

namespace DataMapper.Value

open Text

def digestText (s : String) : List UInt8 :=
  utf8 s ++ [0xff]

mutual

def digestInput : Value → List UInt8
  | null => [0]
  | bool b => [1, boolByte b]
  | int n => 2 :: littleEndian 8 n.toUInt64.toNat
  | float bits => 3 :: littleEndian 8 bits.toNat
  | text s => 4 :: digestText s
  | bytes b => 5 :: littleEndian 8 b.length ++ b
  | list items => 6 :: littleEndian 8 items.length ++ digestItems items
  | map entries => 7 :: littleEndian 8 entries.length ++ digestEntries entries

def digestItems : List Value → List UInt8
  | [] => []
  | v :: rest => digestInput v ++ digestItems rest

def digestEntries : List (String × Value) → List UInt8
  | [] => []
  | e :: rest => digestText e.1 ++ (digestInput e.2 ++ digestEntries rest)

end

def hash (v : Value) : UInt64 :=
  Digest.ofBytes v.digestInput

end DataMapper.Value
