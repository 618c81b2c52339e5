import Orthography.Decimal.Spelling

/-! The range of numbers that are read as binary floating point. Of the digits those are
kept that fit in 64 bits, and their number is rounded before it is multiplied by a power of
ten, so a little more than the finite numbers is out of range, and a little less. -/
namespace Orthography.Json.Range

/-- The kept digits as a number, and the power of ten that it is to be multiplied by. -/
structure Kept where
  digits : Nat
  exponent : Int

def extended? (digits : Nat) (c : Char) : Option Nat :=
  (Numeral.readAfter 10 digits [c]).filter (· < Numeral.bound 64)

/-- Keeps the digits of a whole part up to the first that does not fit. It and those behind
it count as powers of ten. -/
def keepWhole (digits : Nat) : List Char → Kept
  | [] => ⟨digits,0⟩
  | c :: rest =>
    match extended? digits c with
    | some more => keepWhole more rest
    | none => ⟨digits,rest.length + 1⟩

/-- Keeps the digits of a fraction up to the first that does not fit. -/
def keepFraction (kept : Kept) : List Char → Kept
  | [] => kept
  | c :: rest =>
    match extended? kept.digits c with
    | some more => keepFraction ⟨more,kept.exponent - 1⟩ rest
    | none => kept

def kept (s : Decimal.Spelling) : Kept :=
  let kept := keepFraction (keepWhole 0 s.whole) (s.fraction.getD [])
  { kept with exponent := kept.exponent + s.exponent.getD 0 }

/-- Whether a number is too large to be read. No finite power of ten is beyond 308. -/
def isExceeded (s : Decimal.Spelling) : Bool :=
  let kept := kept s
  if kept.digits == 0 || kept.exponent < 0 then false
  else if 308 < kept.exponent then true
  else Binary.infinity ≤
    Binary.mul (Binary.ofNat kept.digits) (Binary.ofNat (Nat.pow 10 kept.exponent.toNat))

end Orthography.Json.Range
