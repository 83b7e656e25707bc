import DataMapper.Decimal.Double
/-!
# Decimal notation

The text of a double from its shortest decimal. The plain layout never uses an exponent; the
inspection layout does so far from one, and marks whole numbers by a fraction.
-/

namespace DataMapper.Decimal

/-- The choices that a layout makes for finite numbers. -/
structure Layout where
  /-- What follows a whole number in positional notation. -/
  wholeSuffix : String
  /-- Whether a number is written positionally, given how many places its first digit stands to
  the left of the point. -/
  positional : Int → Bool

def Layout.plain : Layout :=
  ⟨"", fun _ => true⟩

/-- Numbers from `10 ^ 16` on and below `10 ^ -4` have an exponent. -/
def Layout.inspection : Layout :=
  ⟨".0", fun place => -4 < place && place ≤ 16⟩

def zeros (n : Int) : String :=
  String.ofList (List.replicate n.toNat '0')

def Scientific.positional (s : Scientific) (wholeSuffix : String) : String :=
  let digits := s.digitText
  let place := s.pointPosition
  if place ≤ 0 then "0." ++ zeros (-place) ++ digits
  else if (digits.length : Int) ≤ place then digits ++ zeros s.exponent ++ wholeSuffix
  else
    String.ofList (digits.toList.take place.toNat) ++ "." ++
      String.ofList (digits.toList.drop place.toNat)

def Scientific.withExponent (s : Scientific) : String :=
  let exponent := "e" ++ toString (s.pointPosition - 1)
  match s.digitText.toList with
  | [] => exponent
  | [d] => String.ofList [d] ++ exponent
  | d :: rest => String.ofList (d :: '.' :: rest) ++ exponent

def Layout.finite (layout : Layout) (b : Binary) : String :=
  let s := shortest b
  if layout.positional s.pointPosition then s.positional layout.wholeSuffix else s.withExponent

def Layout.render (layout : Layout) (x : Double) : String :=
  let signed (negative : Bool) (text : String) := if negative then "-" ++ text else text
  match x with
  | .nan => "NaN"
  | .infinite negative => signed negative "inf"
  | .zero negative => signed negative ("0" ++ layout.wholeSuffix)
  | .finite negative b => signed negative (layout.finite b)

end DataMapper.Decimal
