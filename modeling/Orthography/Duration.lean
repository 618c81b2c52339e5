import Orthography.Binary
import Orthography.Numeral

/-! How long a run took, and its text in seconds. -/
namespace Orthography

structure Duration where
  seconds : Nat
  nanos : Nat
  deriving DecidableEq

namespace Duration

def zero : Duration := ⟨0,0⟩

/-- Nanoseconds beyond a second count as seconds. -/
def ofParts (seconds nanos : Nat) : Duration := ⟨seconds + nanos / 1000000000,nanos % 1000000000⟩

def millis (d : Duration) : Nat := d.seconds * 1000 + d.nanos / 1000000

/-- The seconds with their fraction, in binary floating point. -/
def inSeconds (d : Duration) : Nat :=
  Binary.add (Binary.ofNat d.seconds) (Binary.ofQuotient d.nanos 1000000000)

/-- The seconds with two decimals. -/
def text (d : Duration) : String :=
  let hundredths := Binary.roundedQuotient (100 * d.inSeconds) (Binary.ofNat 1)
  let part := hundredths % 100
  String.ofList (Numeral.decimal (hundredths / 100) ++
    ['.',Nat.digitChar (part / 10),Nat.digitChar (part % 10)])

end Duration
end Orthography
