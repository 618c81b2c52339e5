/-! Natural numbers written in digits, to a base up to sixteen. -/
namespace Orthography.Numeral

/-- What a digit counts; letters of either case stand for ten and more. -/
def digitValue (c : Char) : Option Nat :=
  if '0' ≤ c && c ≤ '9' then some (c.toNat - '0'.toNat)
  else if 'a' ≤ c && c ≤ 'f' then some (c.toNat - 'a'.toNat + 10)
  else if 'A' ≤ c && c ≤ 'F' then some (c.toNat - 'A'.toNat + 10)
  else none

/-- The numbers below this are those of so many bits. -/
def bound (bits : Nat) : Nat := Nat.pow 2 bits

def digitOf? (base : Nat) (c : Char) : Option Nat :=
  (digitValue c).filter (· < base)

/-- The number that the digits write after those that wrote `value`. -/
def readAfter (base value : Nat) : List Char → Option Nat
  | [] => some value
  | c :: rest => do readAfter base (base * value + (← digitOf? base c)) rest

/-- The number written by digits alone, at least one. -/
def read? (base : Nat) (cs : List Char) : Option Nat :=
  if cs.isEmpty then none else readAfter base 0 cs

def decimal (n : Nat) : List Char := Nat.toDigits 10 n

def isDecimalDigit (c : Char) : Bool := '0' ≤ c && c ≤ '9'

end Orthography.Numeral
