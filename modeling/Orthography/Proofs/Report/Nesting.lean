import Orthography.Proofs.Report.Tally

/-! Reports that are built by adding violations and by joining what was built. However deep that
nests, the report is the one to which the same violations are added one after the other. -/
namespace Orthography.Report

inductive Nesting where
  | empty
  | push (inner : Nesting) (violation : Violation)
  | merge (first second : Nesting)

namespace Nesting

def report : Nesting → Report
  | empty => Report.empty
  | push inner violation => inner.report.push violation
  | merge first second => first.report.merge second.report

/-- All violations that are added, those of the first before those of the second. -/
def pushed : Nesting → List Violation
  | empty => []
  | push inner violation => inner.pushed ++ [violation]
  | merge first second => first.pushed ++ second.pushed

end Nesting

theorem empty_merge (report : Report) :
    empty.merge report = { report with duration := .zero } := by
  simp [merge,empty]

theorem merge_push (report other : Report) (violation : Violation) :
    report.merge (other.push violation) = (report.merge other).push violation := by
  cases stated : violation.severity <;> simp [merge,push,stated,Nat.add_assoc]

theorem merge_foldl_push (report other : Report) (found : List Violation) :
    report.merge (found.foldl push other) = found.foldl push (report.merge other) := by
  induction found generalizing other with
  | nil => rfl
  | cons violation rest ih => rw [List.foldl_cons,List.foldl_cons,ih,merge_push]

/-- Joining adds the violations of the second report behind those of the first. -/
theorem Nesting.report_eq_foldl_push (nesting : Nesting) :
    nesting.report = nesting.pushed.foldl Report.push Report.empty := by
  induction nesting with
  | empty => rfl
  | push inner violation ih =>
    rw [report,pushed,List.foldl_append,← ih]
    rfl
  | merge first second ihFirst ihSecond =>
    rw [report,pushed,List.foldl_append,← ihFirst,ihSecond,merge_foldl_push,merge_empty]

theorem hasErrors_merge (report other : Report) :
    (report.merge other).hasErrors = (report.hasErrors || other.hasErrors) := by
  simp only [hasErrors,merge,Nat.add_pos_iff_pos_or_pos,Bool.decide_or]

theorem hasWarnings_merge (report other : Report) :
    (report.merge other).hasWarnings = (report.hasWarnings || other.hasWarnings) := by
  simp only [hasWarnings,merge,Nat.add_pos_iff_pos_or_pos,Bool.decide_or]

theorem exitCode_merge (report other : Report) :
    (report.merge other).exitCode = max report.exitCode other.exitCode := by
  simp only [exitCode,hasErrors_merge,hasWarnings_merge]
  cases report.hasErrors <;> cases report.hasWarnings <;> cases other.hasErrors <;>
    cases other.hasWarnings <;> rfl

theorem isClean_iff_exitCode (report : Report) :
    report.isClean = true ↔ report.exitCode = 0 := by
  unfold isClean exitCode
  cases report.hasErrors <;> cases report.hasWarnings <;> decide

structure Tells (report : Report) (pushed : List Violation) : Prop where
  violations : report.violations = pushed
  tallied : report.Tallied
  exitCode_two : report.exitCode = 2 ↔ ∃ v ∈ report.violations, v.severity = .error
  exitCode_one : report.exitCode = 1 ↔
    (¬∃ v ∈ report.violations, v.severity = .error) ∧ ∃ v ∈ report.violations, v.severity = .warning

theorem tells_foldl_push (found : List Violation) : (found.foldl push empty).Tells found := by
  have tallied := tallied_empty.foldl_push found
  constructor
  case violations => exact violations_foldl_push empty found
  case tallied => exact tallied
  case exitCode_two => rw [exitCode_eq_two_iff,tallied.count_pos]
  case exitCode_one => rw [exitCode_eq_one_iff,tallied.count_pos,tallied.count_pos]

/-- Reports that are built tell of the violations that were added, and joining keeps what each of
two reports tells, built or not. -/
theorem nesting_algebra :
    (∀ nesting : Nesting, nesting.report.Tells nesting.pushed) ∧
      (∀ first second third : Report,
        (first.merge second).merge third = first.merge (second.merge third)) ∧
      (∀ report : Report, report.merge empty = report ∧
        empty.merge report = { report with duration := .zero }) ∧
      (∀ (report other : Report) (violation : Violation),
        report.merge (other.push violation) = (report.merge other).push violation) ∧
      (∀ report other : Report,
        (report.merge other).exitCode = max report.exitCode other.exitCode) ∧
      ∀ report : Report, report.isClean = true ↔ report.exitCode = 0 := by
  refine ⟨fun nesting => ?_,merge_assoc,fun report => ⟨merge_empty report,empty_merge report⟩,
    merge_push,exitCode_merge,isClean_iff_exitCode⟩
  rw [nesting.report_eq_foldl_push]
  exact tells_foldl_push nesting.pushed

end Orthography.Report
