/-! Binary floating point of 64 bits, without signs. Its numbers are multiples of one unit,
the least number above zero, and have at most 53 binary digits; they are given here as
counts of the unit. -/
namespace Orthography.Binary

/-- There are `2 ^ unitBits` units in one. -/
def unitBits : Nat := 1074

def precision : Nat := 53

/-- Infinity: what would be the first number beyond the finite ones. -/
def infinity : Nat := 1 <<< (1024 + unitBits)

/-- The quotient rounded to the nearest number, a tie to the even one. -/
def roundedQuotient (num den : Nat) : Nat :=
  let whole := num / den
  let twice := 2 * (num % den)
  if twice < den then whole
  else if den < twice then whole + 1
  else if whole % 2 == 0 then whole else whole + 1

/-- The count of units nearest to `num / den` units. Large counts lose their last digits. -/
def nearest (num den : Nat) : Nat :=
  let extra := Nat.log2 (num / den) + 1 - precision
  roundedQuotient num (den <<< extra) <<< extra

def ofQuotient (num den : Nat) : Nat := nearest (num <<< unitBits) den

def ofNat (n : Nat) : Nat := ofQuotient n 1

def add (a b : Nat) : Nat := nearest (a + b) 1

def mul (a b : Nat) : Nat := nearest (a * b) (1 <<< unitBits)

/-- A rounded quotient is off by at most half. -/
theorem roundedQuotient_near (num : Nat) {den : Nat} (positive : 0 < den) :
    2 * (roundedQuotient num den * den) ≤ 2 * num + den ∧
      2 * num ≤ 2 * (roundedQuotient num den * den) + den := by
  have split := Nat.div_add_mod num den
  have small := Nat.mod_lt num positive
  have comm : num / den * den = den * (num / den) := Nat.mul_comm ..
  have more : (num / den + 1) * den = den * (num / den) + den := by
    rw [Nat.add_mul, Nat.one_mul, comm]
  simp only [roundedQuotient]
  split
  next => omega
  next =>
    split
    next => omega
    next => split <;> omega

end Orthography.Binary
