import Orthography.Json.Reading
import Orthography.Json.Source
import Orthography.Yaml.Source

/-! The two formats of documents, and reading typed values from a text of either. -/
namespace Orthography

inductive Format
  | yaml
  | json
  deriving DecidableEq

namespace Format

def ofExtension? : String → Option Format
  | "yaml" | "yml" => some yaml
  | "json" => some json
  | _ => none

inductive Fault
  | notYaml (fault : Yaml.Fault)
  | notJson (fault : Json.Fault)
  | mismatch (format : Format) (cause : Schema.Mismatch)
  deriving DecidableEq

namespace Fault

def format : Fault → Format
  | notYaml _ => .yaml
  | notJson _ => .json
  | mismatch format _ => format

def detail : Fault → String
  | notYaml fault => fault.message
  | notJson fault => fault.message
  | mismatch _ cause => cause.message

def message (fault : Fault) : String :=
  match fault.format with
  | .yaml => "YAML parse error: " ++ fault.detail
  | .json => "JSON parse error: " ++ fault.detail

end Fault

/-- What can be read from a node of any format. -/
abbrev Reader (α : Type) :=
  {m : Type → Type} → {ν : Type} → [Monad m] → [MonadExcept Schema.Mismatch m] → [Source m ν] →
    ν → m α

def decode {α : Type} (read : Reader α) (format : Format) (text : String) : Except Fault α :=
  match format with
  | yaml =>
    match Yaml.Cursor.ofText text with
    | .error fault => .error (.notYaml fault)
    | .ok cursor => ((read cursor).run' 0).mapError (.mismatch yaml)
  | json =>
    match Json.Value.ofText text with
    | .error fault => .error (.notJson fault)
    | .ok value => (read (Json.Cursor.ofValue value)).mapError (.mismatch json)

end Format
end Orthography
