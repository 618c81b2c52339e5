import Orthography.Text.Lowercase

/-! How grave a report is, from a remark to an error. -/
namespace Orthography

inductive Severity
  | info
  | warning
  | error
  deriving DecidableEq

namespace Severity

def name : Severity → String
  | info => "info"
  | warning => "warning"
  | error => "error"

/-- The severity a word names in any case, by its own name or a short one. -/
def ofWord? (word : String) : Option Severity :=
  match Text.lower word with
  | "info" | "hint" | "note" => some info
  | "warning" | "warn" => some warning
  | "error" | "err" => some error
  | _ => none

def ofName? : String → Option Severity
  | "info" => some info
  | "warning" => some warning
  | "error" => some error
  | _ => none

@[simp] theorem ofName?_name (severity : Severity) : ofName? severity.name = some severity := by
  cases severity <;> rfl

end Severity
end Orthography
