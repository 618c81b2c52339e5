import Orthography.Decimal
import Orthography.Numeral

/-! The parts of a spelled number: sign, whole part, fraction and exponent. Formats differ
only in which parts they demand. -/
namespace Orthography.Decimal

open Numeral (isDecimalDigit)

structure Spelling where
  sign : Option Char
  whole : List Char
  /-- The digits behind the point, if there is a point. -/
  fraction : Option (List Char)
  exponent : Option Int

namespace Spelling

def takeSign : List Char → Option Char × List Char
  | '+' :: rest => (some '+',rest)
  | '-' :: rest => (some '-',rest)
  | cs => (none,cs)

def takeFraction : List Char → Option (List Char) × List Char
  | '.' :: rest => (some (rest.takeWhile isDecimalDigit),rest.dropWhile isDecimalDigit)
  | cs => (none,cs)

def exponent? : List Char → Option (Option Int)
  | [] => some none
  | e :: rest =>
    if e = 'e' || e = 'E' then
      let (sign,digits) := takeSign rest
      (Numeral.read? 10 digits).map fun n =>
        some (if sign == some '-' then -(n : Int) else (n : Int))
    else none

/-- The parts of a text that is nothing but a number. -/
def ofChars? (cs : List Char) : Option Spelling := do
  let (sign,unsigned) := takeSign cs
  let (fraction,rest) := takeFraction (unsigned.dropWhile isDecimalDigit)
  some ⟨sign,unsigned.takeWhile isDecimalDigit,fraction,← exponent? rest⟩

def isNegative (s : Spelling) : Bool := s.sign == some '-'

def isWhole (s : Spelling) : Bool := s.fraction.isNone && s.exponent.isNone

/-- The spelled number without its sign, of a spelling without fraction and exponent. -/
def magnitude (s : Spelling) : Nat := Nat.ofDigitChars 10 s.whole 0

def value (s : Spelling) : Decimal :=
  let fraction := s.fraction.getD []
  ⟨s.isNegative,Nat.ofDigitChars 10 (s.whole ++ fraction) 0,
    s.exponent.getD 0 - fraction.length⟩

end Spelling
end Orthography.Decimal
