import DataMapper.Decimal.Shortest
/-!
# Doubles

What the 64 bits of a binary floating-point number stand for.
-/

namespace DataMapper.Decimal

inductive Double where
  | nan
  | infinite (negative : Bool)
  | zero (negative : Bool)
  | finite (negative : Bool) (magnitude : Binary)
  deriving DecidableEq, Repr

/-- Reads sign, exponent and fraction of a double. Subnormal numbers have no implicit bit. -/
def Double.ofBits (bits : UInt64) : Double :=
  let negative := decide (bits >>> 63 = 1)
  let exponent := (bits >>> 52 &&& 0x7ff).toNat
  let fraction := (bits &&& 0xfffffffffffff).toNat
  if exponent = 2047 then
    if fraction = 0 then .infinite negative else .nan
  else if exponent = 0 then
    if fraction = 0 then .zero negative else .finite negative ⟨fraction, -1074, false⟩
  else
    .finite negative
      ⟨0x10000000000000 + fraction, (exponent : Int) - 1075, decide (fraction = 0 ∧ 1 < exponent)⟩

end DataMapper.Decimal
