import Orthography.Report

/-! Reports for scripts: a line for each violation. -/
namespace Orthography.Output.Compact

def violationText (violation : Violation) : String :=
  violation.location.file ++ ":" ++ toString violation.location.offset ++ ": " ++
    violation.severity.name ++ ": " ++ violation.ruleId ++ ": " ++ violation.message

def format (report : Report) : String :=
  "".intercalate (report.violations.map fun violation => violationText violation ++ "\n")

end Orthography.Output.Compact
