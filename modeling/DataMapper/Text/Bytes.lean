/-!
# Bytes of texts and numbers

Numbers as little-endian byte sequences of a fixed width, and texts as their encoded bytes.
-/

namespace DataMapper.Text

/-- The lowest `width` bytes of a number, the lowest first. -/
def littleEndian : (width n : Nat) → List UInt8
  | 0, _ => []
  | width + 1, n => UInt8.ofNat (n % 256) :: littleEndian width (n / 256)

def ofLittleEndian : List UInt8 → Nat
  | [] => 0
  | b :: rest => b.toNat + 256 * ofLittleEndian rest

@[simp] theorem length_littleEndian (width n : Nat) : (littleEndian width n).length = width := by
  induction width generalizing n with
  | zero => rfl
  | succ width ih => simp [littleEndian, ih]

def utf8 (s : String) : List UInt8 :=
  s.toUTF8.data.toList

def ofUtf8? (bytes : List UInt8) : Option String :=
  String.fromUTF8? ⟨bytes.toArray⟩

/-- Cuts a sequence after `n` elements, if it has as many. -/
def splitAt? {α : Type} (n : Nat) (xs : List α) : Option (List α × List α) :=
  if n ≤ xs.length then some (xs.take n, xs.drop n) else none

theorem splitAt?_append {α : Type} (xs rest : List α) :
    splitAt? xs.length (xs ++ rest) = some (xs, rest) := by
  simp [splitAt?]

end DataMapper.Text
