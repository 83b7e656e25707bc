/-!
# Keyed digest

A 64-bit digest of a byte sequence by add, rotate and xor rounds: one round for each word of eight
bytes, three rounds to finish, and a key of zeros.
-/

namespace DataMapper.Digest

/-- The four lanes of the digest. -/
structure State where
  v0 : UInt64
  v1 : UInt64
  v2 : UInt64
  v3 : UInt64
  deriving DecidableEq, Repr

def rotate (x : UInt64) (n : UInt64) : UInt64 :=
  (x <<< n) ||| (x >>> (64 - n))

def round (s : State) : State :=
  let a0 := s.v0 + s.v1
  let a1 := rotate s.v1 13 ^^^ a0
  let a2 := s.v2 + s.v3
  let a3 := rotate s.v3 16 ^^^ a2
  let b0 := rotate a0 32 + a3
  let b3 := rotate a3 21 ^^^ b0
  let b2 := a2 + a1
  let b1 := rotate a1 17 ^^^ b2
  ⟨b0, b1, rotate b2 32, b3⟩

/-- The lanes of the empty digest under a key of zeros. -/
def start : State :=
  ⟨0x736f6d6570736575, 0x646f72616e646f6d, 0x6c7967656e657261, 0x7465646279746573⟩

def absorb (s : State) (word : UInt64) : State :=
  let mixed := round { s with v3 := s.v3 ^^^ word }
  { mixed with v0 := mixed.v0 ^^^ word }

/-- A word from at most eight bytes, the first of them least significant. -/
def littleEndian (bytes : List UInt8) : UInt64 :=
  bytes.foldr (fun b acc => acc <<< 8 ||| b.toUInt64) 0

/-- Absorbs all whole words, then the rest together with the total length. -/
def absorbAll (length : Nat) : State → List UInt8 → State
  | s, b0 :: b1 :: b2 :: b3 :: b4 :: b5 :: b6 :: b7 :: rest =>
    absorbAll length (absorb s (littleEndian [b0, b1, b2, b3, b4, b5, b6, b7])) rest
  | s, rest => absorb s (littleEndian rest ||| (UInt64.ofNat length <<< 56))

def finish (s : State) : UInt64 :=
  let mixed := round (round (round { s with v2 := s.v2 ^^^ 0xff }))
  mixed.v0 ^^^ mixed.v1 ^^^ mixed.v2 ^^^ mixed.v3

def ofBytes (bytes : List UInt8) : UInt64 :=
  finish (absorbAll bytes.length start bytes)

end DataMapper.Digest
