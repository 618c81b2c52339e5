import Orthography.Duration
import Orthography.Violation

/-! The result of checking files: the violations with counters. -/
namespace Orthography

structure Report where
  violations : List Violation
  filesProcessed : Nat
  declarationsChecked : Nat
  filesWithErrors : Nat
  filesWithWarnings : Nat
  errorCount : Nat
  warningCount : Nat
  infoCount : Nat
  duration : Duration
  deriving DecidableEq

namespace Report

def empty : Report := ⟨[],0,0,0,0,0,0,0,.zero⟩

def hasErrors (report : Report) : Bool := decide (0 < report.errorCount)

def hasWarnings (report : Report) : Bool := decide (0 < report.warningCount)

/-- Neither errors nor warnings; remarks do not count. -/
def isClean (report : Report) : Bool := !report.hasErrors && !report.hasWarnings

/-- Two for errors, else one for warnings, else zero. -/
def exitCode (report : Report) : Nat :=
  if report.hasErrors then 2 else if report.hasWarnings then 1 else 0

def push (report : Report) (violation : Violation) : Report :=
  let report := { report with violations := report.violations ++ [violation] }
  match violation.severity with
  | .error => { report with errorCount := report.errorCount + 1 }
  | .warning => { report with warningCount := report.warningCount + 1 }
  | .info => { report with infoCount := report.infoCount + 1 }

/-- The violations and counters of both; the duration is that of the first. -/
def merge (report other : Report) : Report where
  violations := report.violations ++ other.violations
  filesProcessed := report.filesProcessed + other.filesProcessed
  declarationsChecked := report.declarationsChecked + other.declarationsChecked
  filesWithErrors := report.filesWithErrors + other.filesWithErrors
  filesWithWarnings := report.filesWithWarnings + other.filesWithWarnings
  errorCount := report.errorCount + other.errorCount
  warningCount := report.warningCount + other.warningCount
  infoCount := report.infoCount + other.infoCount
  duration := report.duration

@[simp] theorem violations_push (report : Report) (violation : Violation) :
    (report.push violation).violations = report.violations ++ [violation] := by
  cases h : violation.severity <;> simp [push, h]

@[simp] theorem violations_merge (report other : Report) :
    (report.merge other).violations = report.violations ++ other.violations := rfl

end Report
end Orthography
