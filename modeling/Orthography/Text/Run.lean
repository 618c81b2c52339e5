/-! Sets of characters given as runs of code points. A property of characters that no
rule describes is a table of such runs. -/
namespace Orthography.Text

/-- The code points `first`, `first + step`, and so on up to `last`. -/
structure Run where
  first : Nat
  last : Nat
  step : Nat
  deriving DecidableEq

def Run.has (run : Run) (code : Nat) : Bool :=
  run.first ≤ code && code ≤ run.last && (code - run.first) % run.step == 0

def among (table : List Run) (code : Nat) : Bool :=
  table.any (·.has code)

theorem among_iff {table : List Run} {code : Nat} :
    among table code = true ↔ ∃ run ∈ table, run.has code = true := by
  simp [among]

end Orthography.Text
