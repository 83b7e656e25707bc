import DataMapper.Text.Bytes
import DataMapper.Value.Basic
/-!
# Binary form

Values as self-delimiting bytes: a tag, then the payload. Lengths stand before what they count, in
four little-endian bytes.
-/

namespace DataMapper.Value

open Text

def boolByte (b : Bool) : UInt8 :=
  if b then 1 else 0

/-- Bytes behind their count. -/
def encodeBytes (b : List UInt8) : List UInt8 :=
  littleEndian 4 b.length ++ b

mutual

def encode : Value → List UInt8
  | null => [0]
  | bool b => [1, boolByte b]
  | int n => 2 :: littleEndian 8 n.toUInt64.toNat
  | float bits => 3 :: littleEndian 8 bits.toNat
  | text s => 4 :: encodeBytes (utf8 s)
  | bytes b => 5 :: encodeBytes b
  | list items => 6 :: littleEndian 4 items.length ++ encodeItems items
  | map entries => 7 :: littleEndian 4 entries.length ++ encodeEntries entries

def encodeItems : List Value → List UInt8
  | [] => []
  | v :: rest => encode v ++ encodeItems rest

def encodeEntries : List (String × Value) → List UInt8
  | [] => []
  | e :: rest => encodeBytes (utf8 e.1) ++ (encode e.2 ++ encodeEntries rest)

end

/-- A number of the given width at the front of a byte sequence. -/
def readNat? (width : Nat) (input : List UInt8) : Option (Nat × List UInt8) :=
  (splitAt? width input).map fun p => (ofLittleEndian p.1, p.2)

def readBytes? (input : List UInt8) : Option (List UInt8 × List UInt8) :=
  (readNat? 4 input).bind fun p => splitAt? p.1 p.2

def readText? (input : List UInt8) : Option (String × List UInt8) :=
  (readBytes? input).bind fun p => (ofUtf8? p.1).map fun s => (s, p.2)

mutual

/-- Reads one value from the front of a byte sequence. The first argument bounds the depth of the
recursion. -/
def decodeWithin : Nat → List UInt8 → Option (Value × List UInt8)
  | 0, _ => none
  | _ + 1, [] => none
  | n + 1, t :: input =>
    if t = 0 then some (null, input)
    else if t = 1 then
      match input with
      | b :: rest => if b = 0 then some (bool false, rest)
        else if b = 1 then some (bool true, rest) else none
      | [] => none
    else if t = 2 then
      (readNat? 8 input).map fun p => (int (UInt64.ofNat p.1).toInt64, p.2)
    else if t = 3 then (readNat? 8 input).map fun p => (float (UInt64.ofNat p.1), p.2)
    else if t = 4 then (readText? input).map fun p => (text p.1, p.2)
    else if t = 5 then (readBytes? input).map fun p => (bytes p.1, p.2)
    else if t = 6 then
      (readNat? 4 input).bind fun p =>
        (decodeItems n p.1 p.2).map fun q => (list q.1, q.2)
    else if t = 7 then
      (readNat? 4 input).bind fun p =>
        (decodeEntries n p.1 p.2).map fun q => (map q.1, q.2)
    else none

def decodeItems : Nat → Nat → List UInt8 → Option (List Value × List UInt8)
  | _, 0, input => some ([], input)
  | 0, _ + 1, _ => none
  | n + 1, count + 1, input =>
    (decodeWithin n input).bind fun p =>
      (decodeItems n count p.2).map fun q => (p.1 :: q.1, q.2)

def decodeEntries : Nat → Nat → List UInt8 → Option (List (String × Value) × List UInt8)
  | _, 0, input => some ([], input)
  | 0, _ + 1, _ => none
  | n + 1, count + 1, input =>
    (readText? input).bind fun k =>
      (decodeWithin n k.2).bind fun p =>
        (decodeEntries n count p.2).map fun q => ((k.1, p.1) :: q.1, q.2)

end

/-- Reads one value and leaves the bytes that follow it. Each level of nesting and each element
takes a byte of its own, so that the length of the input bounds the recursion. -/
def decode? (input : List UInt8) : Option (Value × List UInt8) :=
  decodeWithin (input.length + 1) input

end DataMapper.Value
