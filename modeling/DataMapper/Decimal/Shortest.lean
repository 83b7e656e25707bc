/-!
# Shortest decimals

Positive binary fractions `m * 2 ^ q` as the decimal with the fewest digits that lies in the
interval of reals closer to it than to its neighbours.
-/

namespace DataMapper.Decimal

/-- A positive decimal `digits * 10 ^ exponent`. -/
structure Scientific where
  digits : Nat
  exponent : Int
  deriving DecidableEq, Repr

/-- A positive binary fraction with the width of the gap below it.

`narrow` says that the gap below is half of the gap above, as it is at a power of two. -/
structure Binary where
  mantissa : Nat
  exponent : Int
  narrow : Bool
  deriving DecidableEq, Repr

/-- `x * 2 ^ e` as a fraction whose terms are natural numbers, the lower one of them positive. -/
def scale (x : Nat) (base : Nat) (e : Int) : Nat × Nat :=
  match e with
  | .ofNat k => (x * Nat.pow base k, 1)
  | .negSucc k => (x, Nat.pow base (k + 1))

namespace Binary

/-- Compares `d * 10 ^ p` with `x * 2 ^ (b.exponent - 2)`. -/
def compareGrid (b : Binary) (d : Nat) (p : Int) (x : Nat) : Ordering :=
  let lhs := scale d 10 p
  let rhs := scale x 2 (b.exponent - 2)
  compare (lhs.1 * rhs.2) (rhs.1 * lhs.2)

/-- The lower end of the interval, in quarters of the unit: there both ends are whole. -/
def lower (b : Binary) : Nat :=
  if b.narrow then 4 * b.mantissa - 1 else 4 * b.mantissa - 2

def upper (b : Binary) : Nat :=
  4 * b.mantissa + 2

/-- Whether a decimal reads back as the binary fraction. The ends of the interval belong to it
when the mantissa is even. -/
def accepts (b : Binary) (d : Nat) (p : Int) : Bool :=
  let above := b.compareGrid d p b.lower
  let below := b.compareGrid d p b.upper
  if b.mantissa % 2 = 0 then above != .lt && below != .gt
  else above == .gt && below == .lt

/-- The greatest multiple of `10 ^ p` that does not exceed the fraction, over `10 ^ p`. -/
def floorGrid (b : Binary) (p : Int) : Nat :=
  let value := scale b.mantissa 2 b.exponent
  let step := scale 1 10 p
  value.1 * step.2 / (value.2 * step.1)

/-- Whether the fraction lies at or above the middle of the grid cell that starts at `d`. -/
def nearerAbove (b : Binary) (d : Nat) (p : Int) : Bool :=
  let value := scale b.mantissa 2 b.exponent
  let step := scale 1 10 p
  (2 * d + 1) * (value.2 * step.1) ≤ 2 * (value.1 * step.2)

/-- The accepted decimal on the grid of step `10 ^ p`: of two neighbours the nearer one, and the
greater one at equal distance. -/
def onGrid? (b : Binary) (p : Int) : Option Nat :=
  let d := b.floorGrid p
  match b.accepts d p, b.accepts (d + 1) p with
  | true, true => some (if b.nearerAbove d p then d + 1 else d)
  | true, false => some d
  | false, true => some (d + 1)
  | false, false => none

/-- Refines the grid until it holds an accepted decimal. -/
def search (b : Binary) : Nat → Int → Scientific
  | 0, p => ⟨b.floorGrid p, p⟩
  | n + 1, p =>
    match b.onGrid? p with
    | some d => ⟨d, p⟩
    | none => search b n (p - 1)

end Binary

def stripZeros : Nat → Nat → Int → Scientific
  | 0, d, p => ⟨d, p⟩
  | n + 1, d, p => if d % 10 = 0 ∧ d ≠ 0 then stripZeros n (d / 10) (p + 1) else ⟨d, p⟩

/-- The exponent of a grid that is coarser than the fraction: as `2 ^ e` bounds the fraction and the
gap above it, and three tenths are less and thirty-one hundredths more than the decimal logarithm of
two, `10 ^ b.coarse` bounds them too. -/
def Binary.coarse (b : Binary) : Int :=
  let e := (Nat.log2 b.mantissa : Int) + 1 + b.exponent
  (if e < 0 then e * 3 / 10 else e * 31 / 100) + 1

/-- The shortest decimal of a positive finite fraction, without trailing zeros.

A coarser grid than that of `b.coarse` holds no decimal near the fraction. Seventeen digits always
suffice for a double, and the first of them is at most ten grids below, so that the search ends. -/
def shortest (b : Binary) : Scientific :=
  let found := b.search 40 b.coarse
  stripZeros 20 found.digits found.exponent

/-- The digits of a decimal, most significant first. -/
def Scientific.digitText (s : Scientific) : String :=
  toString s.digits

/-- The number of places between the decimal point and the first digit, counted to the left. -/
def Scientific.pointPosition (s : Scientific) : Int :=
  s.digitText.length + s.exponent

end DataMapper.Decimal
