import Orthography.Binary

/-! Numbers with a decimal point or an exponent, kept exactly as they are written. They are
told apart by the binary floating point nearest to them. -/
namespace Orthography

/-- The number `digits * 10 ^ exponent`, or its opposite. -/
structure Decimal where
  negative : Bool
  digits : Nat
  exponent : Int
  deriving DecidableEq

namespace Decimal

def places (n : Nat) : Nat := (Nat.toDigits 10 n).length

/-- The nearest number of binary floating point, without its sign. The number of digits
decides about those far outside its range, so that no power is taken of a large exponent. -/
def nearest (d : Decimal) : Nat :=
  let magnitude := (places d.digits : Int) + d.exponent
  if d.digits == 0 || magnitude < -330 then 0
  else if 320 < magnitude then Binary.infinity
  else Binary.ofQuotient (d.digits * Nat.pow 10 d.exponent.toNat) (Nat.pow 10 (-d.exponent).toNat)

/-- Beyond the finite numbers of binary floating point. -/
def overflows (d : Decimal) : Bool := Binary.infinity ≤ d.nearest

/-- Equality in binary floating point, where zero has two signs. -/
def same (a b : Decimal) : Bool :=
  a.nearest == b.nearest && (a.negative == b.negative || a.nearest == 0)

end Decimal
end Orthography
