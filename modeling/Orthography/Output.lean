import Orthography.Output.Compact
import Orthography.Output.Json
import Orthography.Output.Text
import Orthography.Settings

/-! The forms that a report is printed in. -/
namespace Orthography

inductive Output
  | text (style : Output.TextStyle)
  | json (pretty : Bool)
  | compact
  deriving DecidableEq

namespace Output

def jsonLayout (pretty : Bool) : Orthography.Json.Layout :=
  if pretty then .pretty else .compact

/-- The form that settings ask for; verbose output shows help. -/
def ofSettings (settings : Settings.Output) (colored : Bool) : Output :=
  match settings.format with
  | .text => .text ⟨colored,settings.verbose,settings.statistics⟩
  | .json => .json true
  | .compact => .compact

def format : Output → Report → String
  | text style => style.format
  | json pretty => Json.format (jsonLayout pretty)
  | compact => Compact.format

def violationText : Output → Violation → String
  | text style => style.violationText
  | json pretty => Json.violationText (jsonLayout pretty)
  | compact => Compact.violationText

end Output
end Orthography
