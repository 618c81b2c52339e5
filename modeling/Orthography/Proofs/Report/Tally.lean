import Mathlib.Algebra.Ring.Nat
import Orthography.Report

/-! What the counters of a report count. Each severity has one, and a violation that is added
or a report that is joined changes the counters as it changes the list. -/
namespace Orthography.Report

def count (report : Report) : Severity → Nat
  | .error => report.errorCount
  | .warning => report.warningCount
  | .info => report.infoCount

def Tallied (report : Report) : Prop :=
  ∀ severity, report.count severity =
    report.violations.countP (·.severity = severity)

theorem tallied_empty : empty.Tallied := by
  intro severity
  cases severity <;> rfl

@[simp] theorem filesProcessed_push (report : Report) (violation : Violation) :
    (report.push violation).filesProcessed = report.filesProcessed := by
  cases stated : violation.severity <;> simp [push,stated]

@[simp] theorem declarationsChecked_push (report : Report) (violation : Violation) :
    (report.push violation).declarationsChecked = report.declarationsChecked := by
  cases stated : violation.severity <;> simp [push,stated]

theorem count_push (report : Report) (violation : Violation) (severity : Severity) :
    (report.push violation).count severity =
      report.count severity + if violation.severity = severity then 1 else 0 := by
  cases stated : violation.severity <;> cases severity <;> simp [push,count,stated]

theorem Tallied.push {report : Report} (tallied : report.Tallied) (violation : Violation) :
    (report.push violation).Tallied := by
  intro severity
  rw [count_push,tallied severity]
  simp [List.countP_append,List.countP_singleton]

theorem count_merge (report other : Report) (severity : Severity) :
    (report.merge other).count severity = report.count severity + other.count severity := by
  cases severity <;> rfl

theorem Tallied.merge {report other : Report} (tallied : report.Tallied)
    (otherTallied : other.Tallied) : (report.merge other).Tallied := by
  intro severity
  rw [count_merge,tallied severity,otherTallied severity,violations_merge,List.countP_append]

theorem Tallied.count_pos {report : Report} (tallied : report.Tallied) (severity : Severity) :
    0 < report.count severity ↔ ∃ violation ∈ report.violations, violation.severity = severity := by
  rw [tallied severity,List.countP_pos_iff]
  simp

theorem exitCode_eq_two_iff (report : Report) : report.exitCode = 2 ↔ 0 < report.count .error := by
  simp only [exitCode,hasErrors,hasWarnings,count,decide_eq_true_eq]
  split
  next errors => simp [errors]
  next none => split <;> simp [none]

theorem exitCode_eq_one_iff (report : Report) :
    report.exitCode = 1 ↔ ¬0 < report.count .error ∧ 0 < report.count .warning := by
  simp only [exitCode,hasErrors,hasWarnings,count,decide_eq_true_eq]
  split
  next errors => simp [errors]
  next none =>
    split
    next warnings => simp [none,warnings]
    next clean => simp [clean]

theorem exitCode_le_two (report : Report) : report.exitCode ≤ 2 := by
  unfold exitCode
  split
  · exact le_rfl
  · split <;> omega

@[simp] theorem violations_foldl_push (report : Report) (found : List Violation) :
    (found.foldl push report).violations = report.violations ++ found := by
  induction found generalizing report with
  | nil => simp
  | cons violation rest ih => simp [ih]

/-- What no single violation changes many do not change. -/
theorem foldl_push_eq {α : Type} (measure : Report → α)
    (same : ∀ report violation, measure (report.push violation) = measure report)
    (report : Report) (found : List Violation) :
    measure (found.foldl push report) = measure report := by
  induction found generalizing report with
  | nil => rfl
  | cons violation rest ih => rw [List.foldl_cons,ih,same]

theorem Tallied.foldl_push {report : Report} (tallied : report.Tallied)
    (found : List Violation) : (found.foldl Report.push report).Tallied := by
  induction found generalizing report with
  | nil => exact tallied
  | cons violation rest ih => exact ih (tallied.push violation)

/-- A number that is added when reports are joined is the sum over all of them. -/
theorem foldl_merge_sum (measure : Report → Nat)
    (additive : ∀ report other, measure (report.merge other) = measure report + measure other)
    (report : Report) (reports : List Report) :
    measure (reports.foldl merge report) = measure report + (reports.map measure).sum := by
  induction reports generalizing report with
  | nil => rfl
  | cons first rest ih =>
    rw [List.foldl_cons,ih,additive,List.map_cons,List.sum_cons,Nat.add_assoc]

/-- A number that is one in some reports and zero in the others counts them. -/
theorem foldl_merge_countP (measure : Report → Nat)
    (additive : ∀ report other, measure (report.merge other) = measure report + measure other)
    (counted : Report → Bool) {reports : List Report}
    (flag : ∀ other ∈ reports, measure other = if counted other then 1 else 0)
    (report : Report) :
    measure (reports.foldl merge report) = measure report + reports.countP counted := by
  induction reports generalizing report with
  | nil => rfl
  | cons first rest ih =>
    have later := ih (fun other member => flag other (List.mem_cons_of_mem first member))
    rw [List.foldl_cons,later,additive,flag first List.mem_cons_self,List.countP_cons]
    omega

theorem violations_foldl_merge (report : Report) (reports : List Report) :
    (reports.foldl merge report).violations =
      report.violations ++ reports.flatMap violations := by
  induction reports generalizing report with
  | nil => simp
  | cons first rest ih =>
    rw [List.foldl_cons,ih,violations_merge,List.flatMap_cons,List.append_assoc]

theorem tallied_foldl_merge {report : Report} (tallied : report.Tallied) {reports : List Report}
    (each : ∀ other ∈ reports, other.Tallied) : (reports.foldl merge report).Tallied := by
  induction reports generalizing report with
  | nil => exact tallied
  | cons first rest ih =>
    apply ih (tallied.merge (each first List.mem_cons_self))
    exact fun other member => each other (List.mem_cons_of_mem first member)

theorem merge_assoc (first second third : Report) :
    (first.merge second).merge third = first.merge (second.merge third) := by
  simp [merge,Nat.add_assoc]

theorem merge_empty (report : Report) : report.merge empty = report := by
  simp [merge,empty]

theorem merge_empty_merge (report other : Report) :
    report.merge (empty.merge other) = report.merge other := by
  simp [merge,empty]

theorem foldl_merge_eq_merge (report : Report) (reports : List Report) :
    reports.foldl merge report = report.merge (reports.foldl merge empty) := by
  induction reports generalizing report with
  | nil => exact (merge_empty report).symm
  | cons first rest ih =>
    rw [List.foldl_cons,List.foldl_cons,ih (report.merge first),ih (empty.merge first),merge_assoc,
      merge_assoc,merge_empty_merge]

theorem foldl_merge_append (reports others : List Report) :
    (reports ++ others).foldl merge empty =
      (reports.foldl merge empty).merge (others.foldl merge empty) := by
  rw [List.foldl_append,foldl_merge_eq_merge]

theorem duration_foldl_merge (report : Report) (reports : List Report) :
    (reports.foldl merge report).duration = report.duration := by
  induction reports generalizing report with
  | nil => rfl
  | cons first rest ih => exact ih (report.merge first)

/-- The order of reports that are joined tells in the violations only. -/
theorem foldl_merge_perm {reports others : List Report} (perm : reports.Perm others)
    (report : Report) :
    reports.foldl merge report =
      { others.foldl merge report with
        violations := (reports.foldl merge report).violations } := by
  have same (measure : Report → Nat)
      (additive : ∀ a b : Report, measure (a.merge b) = measure a + measure b) :
      measure (reports.foldl merge report) = measure (others.foldl merge report) := by
    rw [foldl_merge_sum measure additive,foldl_merge_sum measure additive,
      (perm.map measure).sum_nat]
  have timeless : (reports.foldl merge report).duration = (others.foldl merge report).duration := by
    rw [duration_foldl_merge,duration_foldl_merge]
  dsimp only
  rw [← same filesProcessed fun _ _ => rfl,← same declarationsChecked fun _ _ => rfl,
    ← same filesWithErrors fun _ _ => rfl,← same filesWithWarnings fun _ _ => rfl,
    ← same errorCount fun _ _ => rfl,← same warningCount fun _ _ => rfl,
    ← same infoCount fun _ _ => rfl,← timeless]

end Orthography.Report
