/-!
# JSON numerals

Number literals as they are written, the integers among them, and the double that a literal reads
as.
-/

namespace DataMapper.Json

/-- A number literal. The exponent holds its sign and its digits. -/
structure Numeral where
  negative : Bool
  whole : List Char
  fraction : Option (List Char)
  exponent : Option (Bool × List Char)
  deriving DecidableEq, Repr, Inhabited

namespace Numeral

def digitsValue (digits : List Char) : Nat :=
  Nat.ofDigitChars 10 digits 0

def ofNat (n : Nat) : Numeral :=
  ⟨false, Nat.toDigits 10 n, none, none⟩

def ofInt (n : Int) : Numeral :=
  ⟨decide (n < 0), Nat.toDigits 10 n.natAbs, none, none⟩

def render (n : Numeral) : List Char :=
  let sign := if n.negative then ['-'] else []
  let fraction := match n.fraction with
    | some digits => '.' :: digits
    | none => []
  let exponent := match n.exponent with
    | some (true, digits) => 'e' :: '-' :: digits
    | some (false, digits) => 'e' :: digits
    | none => []
  sign ++ (n.whole ++ (fraction ++ exponent))

/-- Splits the sign off an exponent; a plus sign may stand there too. -/
def exponentSign : List Char → Bool × List Char
  | '-' :: rest => (true, rest)
  | '+' :: rest => (false, rest)
  | rest => (false, rest)

def exponentPart? : List Char → Option (Option (Bool × List Char))
  | [] => some none
  | c :: rest =>
    if c = 'e' ∨ c = 'E' then
      let (negative, digits) := exponentSign rest
      if digits ≠ [] ∧ digits.all Char.isDigit then some (some (negative, digits)) else none
    else none

def fractionPart? : List Char → Option (Option (List Char) × List Char)
  | '.' :: rest =>
    let digits := rest.takeWhile Char.isDigit
    if digits = [] then none else some (some digits, rest.dropWhile Char.isDigit)
  | rest => some (none, rest)

def signPart : List Char → Bool × List Char
  | '-' :: rest => (true, rest)
  | rest => (false, rest)

/-- Reads a whole literal. A leading zero is followed by no further digit, and a point stands
between digits. -/
def ofChars? (cs : List Char) : Option Numeral :=
  let (negative, cs) := signPart cs
  let whole := cs.takeWhile Char.isDigit
  if whole = [] ∨ (whole.head? = some '0' ∧ whole ≠ ['0']) then none
  else
    (fractionPart? (cs.dropWhile Char.isDigit)).bind fun (fraction, rest) =>
      (exponentPart? rest).map fun exponent => ⟨negative, whole, fraction, exponent⟩

/-- The value of a literal without fraction and exponent. A negative zero is no integer. -/
def toInt? (n : Numeral) : Option Int :=
  if n.fraction.isNone && n.exponent.isNone then
    let value := digitsValue n.whole
    if n.negative then (if value = 0 then none else some (-value)) else some value
  else none

def toInt64? (n : Numeral) : Option Int64 :=
  n.toInt?.bind fun i =>
    if Int64.minValue.toInt ≤ i ∧ i ≤ Int64.maxValue.toInt then some (Int64.ofInt i) else none

def toUInt64? (n : Numeral) : Option UInt64 :=
  n.toInt?.bind fun i => if 0 ≤ i ∧ i < UInt64.size then some (UInt64.ofNat i.toNat) else none

def toUInt8? (n : Numeral) : Option UInt8 :=
  n.toInt?.bind fun i => if 0 ≤ i ∧ i < UInt8.size then some (UInt8.ofNat i.toNat) else none

/-- Digits gathered into a 64-bit significand, and the power of ten still to apply. -/
structure Gathered where
  significand : Nat
  exponent : Int

/-- Whether one more digit fits into 64 bits. -/
def fits (significand : Nat) (digit : Char) : Bool :=
  significand * 10 + digitsValue [digit] < UInt64.size

/-- Whole digits that no longer fit count as powers of ten, and so do all that follow. -/
def gatherWhole : List Char → Nat → Gathered
  | [], significand => ⟨significand, 0⟩
  | c :: rest, significand =>
    if fits significand c then gatherWhole rest (significand * 10 + digitsValue [c])
    else ⟨significand, rest.length + 1⟩

/-- Fraction digits that no longer fit are dropped, and so are all that follow. -/
def gatherFraction : List Char → Gathered → Gathered
  | [], g => g
  | c :: rest, g =>
    if fits g.significand c then
      gatherFraction rest ⟨g.significand * 10 + digitsValue [c], g.exponent - 1⟩
    else g

/-- `10 ^ n` as a double, for the powers that a double can hold. -/
def power10 (n : Nat) : Float :=
  Float.ofScientific 1 false n

/-- Applies a power of ten in steps that a double can hold. Four steps suffice, as a significand of
64 bits vanishes within three. -/
def applyExponent : Nat → Float → Int → Option Float
  | 0, f, _ => some f
  | n + 1, f, exponent =>
    if exponent.natAbs ≤ 308 then
      if 0 ≤ exponent then
        let scaled := f * power10 exponent.natAbs
        if scaled.isInf then none else some scaled
      else some (f / power10 exponent.natAbs)
    else if f == 0.0 then some f
    else if 0 ≤ exponent then none
    else applyExponent n (f / power10 308) (exponent + 308)

/-- The magnitude of a literal as a double, unless it lies beyond the greatest one. -/
def magnitude? (n : Numeral) : Option Float :=
  let g := gatherFraction (n.fraction.getD []) (gatherWhole n.whole 0)
  let f := (UInt64.ofNat g.significand).toFloat
  match n.exponent with
  | none => applyExponent 4 f g.exponent
  | some (negative, digits) =>
    let e := digitsValue digits
    if e ≤ Int32.maxValue.toNatClampNeg then
      applyExponent 4 f (if negative then g.exponent - e else g.exponent + e)
    else if g.significand ≠ 0 ∧ !negative then none
    else some 0.0

/-- The bits of the double that a literal reads as. -/
def toDouble? (n : Numeral) : Option UInt64 :=
  n.magnitude?.map fun f => (if n.negative then -f else f).toBits

end Numeral

end DataMapper.Json
