import Orthography.Json.Writing
import Orthography.Report

/-! Reports for programs, as JSON. -/
namespace Orthography.Output.Json

open Orthography.Json (Layout Value)

/-- A field that is left out where there is nothing to tell. -/
def optionalField (name : String) : Option String → List (String × Value)
  | some text => [(name,.text text)]
  | none => []

def misspelledField (words : List String) : List (String × Value) :=
  if words.isEmpty then [] else [("misspelled",.ofTexts words)]

def violationValue (violation : Violation) : Value :=
  .record ([("rule_id",.text violation.ruleId),("severity",.text violation.severity.name),
    ("message",.text violation.message),("file",.text violation.location.file),
    ("offset",.natural violation.location.offset),
    ("length",.natural violation.location.length)] ++
    optionalField "name" violation.name ++ misspelledField violation.misspelled ++
    optionalField "help" violation.help)

def summaryValue (report : Report) : Value :=
  .record [("files_processed",.natural report.filesProcessed),
    ("declarations_checked",.natural report.declarationsChecked),
    ("files_with_errors",.natural report.filesWithErrors),
    ("files_with_warnings",.natural report.filesWithWarnings),
    ("error_count",.natural report.errorCount),
    ("warning_count",.natural report.warningCount),
    ("info_count",.natural report.infoCount),
    ("duration_ms",.natural report.duration.millis)]

def reportValue (report : Report) : Value :=
  .record [("violations",.list (report.violations.map violationValue)),
    ("summary",summaryValue report)]

def format (layout : Layout) (report : Report) : String := (reportValue report).render layout

def violationText (layout : Layout) (violation : Violation) : String :=
  (violationValue violation).render layout

end Orthography.Output.Json
