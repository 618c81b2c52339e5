import Orthography.Json.Value
import Orthography.Numeral
import Orthography.Schema
import Orthography.Severity

/-! Reports of misspelled names and of files that cannot be read. -/
namespace Orthography

/-- A part of a file, in bytes. -/
structure Location where
  file : String
  offset : Nat
  length : Nat
  deriving DecidableEq

structure Violation where
  ruleId : String
  severity : Severity
  message : String
  location : Location
  name : Option String
  misspelled : List String
  help : Option String
  deriving DecidableEq

open Schema

variable {m : Type → Type} {ν : Type} [Monad m] [MonadExcept Mismatch m] [Source m ν]

namespace Location

def read (node : ν) : m Location := do
  let field ← Source.record ["file","offset","length"] node
  pure ⟨← required "file" Source.text (field "file"),
    ← required "offset" Source.natural (field "offset"),
    ← required "length" Source.natural (field "length")⟩

def toJson (location : Location) : Json.Value :=
  .record [("file",.text location.file),("offset",.natural location.offset),
    ("length",.natural location.length)]

/-- The place so many bytes behind another. Places are machine words, and past the last one they
begin anew. -/
def behind (place bytes : Nat) : Nat := (place + bytes) % Numeral.bound 64

end Location

namespace Violation

def inFile (violation : Violation) (file : String) : Violation :=
  { violation with location := { violation.location with file } }

def withHelp (violation : Violation) (help : String) : Violation :=
  { violation with help := some help }

def read (node : ν) : m Violation := do
  let field ← Source.record
    ["rule_id","severity","message","location","name","misspelled","help"] node
  pure ⟨← required "rule_id" Source.text (field "rule_id"),
    ← required "severity" (oneOf "a severity" Severity.ofName?) (field "severity"),
    ← required "message" Source.text (field "message"),
    ← required "location" Location.read (field "location"),
    ← optionally Source.text (field "name"),
    ← defaulting [] texts (field "misspelled"),
    ← optionally Source.text (field "help")⟩

def toJson (violation : Violation) : Json.Value :=
  .record [("rule_id",.text violation.ruleId),("severity",.text violation.severity.name),
    ("message",.text violation.message),("location",violation.location.toJson),
    ("name",.ofOption .text violation.name),("misspelled",.ofTexts violation.misspelled),
    ("help",.ofOption .text violation.help)]

end Violation
end Orthography
