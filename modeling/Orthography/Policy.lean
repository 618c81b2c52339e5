import Orthography.Json.Value
import Orthography.Numeral
import Orthography.Severity
import Orthography.Text.Blank
import Orthography.Text.WordSet
import Orthography.Untyped

/-! What is checked and how it is reported: the language, the shortest word that is looked
up, the words that never are, the severity, and whether types count. -/
namespace Orthography

structure Policy where
  language : String
  minLength : Nat
  /-- In lower case, sorted. -/
  excluded : List String
  severity : Severity
  checkTypes : Bool
  deriving DecidableEq

namespace Policy

def default : Policy := ⟨"en",4,[],.warning,true⟩

def isExcluded (policy : Policy) (word : String) : Bool :=
  policy.excluded.contains (Text.lower word)

/-- Shorter than what is looked up, in characters. -/
def isTooShort (policy : Policy) (word : String) : Bool :=
  decide (word.length < policy.minLength)

def withLanguage (policy : Policy) (language : String) : Policy := { policy with language }

def withMinLength (policy : Policy) (minLength : Nat) : Policy := { policy with minLength }

/-- Excludes words besides those that are excluded already. -/
def withExcluded (policy : Policy) (words : List String) : Policy :=
  { policy with excluded := Text.insertWords (words.map Text.lower) policy.excluded }

def withSeverity (policy : Policy) (severity : Severity) : Policy := { policy with severity }

def withCheckTypes (policy : Policy) (checkTypes : Bool) : Policy :=
  { policy with checkTypes }

def describe (policy : Policy) : String :=
  s!"severity: {policy.severity.name}, language: {policy.language}, " ++
    s!"min_length: {policy.minLength}, " ++
    "excluded: [" ++ ", ".intercalate policy.excluded ++ "], " ++
    s!"check_types: {policy.checkTypes}"

inductive Setting
  | language
  | minLength
  | excluded
  | severity
  | checkTypes
  deriving DecidableEq

namespace Setting

def name : Setting → String
  | language => "language"
  | minLength => "min_length"
  | excluded => "excluded"
  | severity => "severity"
  | checkTypes => "check_types"

def ofName? : String → Option Setting
  | "language" => some language
  | "min_length" => some minLength
  | "excluded" => some excluded
  | "severity" => some severity
  | "check_types" => some checkTypes
  | _ => none

@[simp] theorem ofName?_name (setting : Setting) : ofName? setting.name = some setting := by
  cases setting <;> rfl

def demand : Setting → String
  | language => "a non-empty string"
  | minLength => "a non-negative integer"
  | excluded => "a string or a list of strings"
  | severity => "warning or error"
  | checkTypes => "a boolean"

end Setting

inductive Fault
  | noMapping
  | nameNoText
  | wrongValue (setting : Setting)
  | unknownOption (name : String)
  deriving DecidableEq

def Fault.message : Fault → String
  | noMapping => "identifier_spelling must be a mapping"
  | nameNoText => "option names must be strings"
  | wrongValue setting => s!"identifier_spelling.{setting.name} must be {setting.demand}"
  | unknownOption name => s!"Unknown identifier_spelling option: {name}"

def toJson (policy : Policy) : Json.Value :=
  .record [(Setting.language.name,.text policy.language),
    (Setting.minLength.name,.natural policy.minLength),
    (Setting.excluded.name,.ofTexts policy.excluded),
    (Setting.severity.name,.text policy.severity.name),
    (Setting.checkTypes.name,.bool policy.checkTypes)]

def language? (value : Untyped) : Option String :=
  value.text?.filter fun text => !Text.allBlank text.toList

def length? (value : Untyped) : Option Nat :=
  value.natural?.filter (· < Numeral.bound 64)

/-- One word, or a list of words. -/
def words? : Untyped → Option (List String)
  | .text word => some [word]
  | .list items => items.mapM Untyped.text?
  | _ => none

/-- A severity word; remarks are no severity of a misspelling. -/
def severity? (value : Untyped) : Option Severity :=
  (value.text?.bind Severity.ofWord?).filter (· ≠ .info)

/-- The policy with a part set in place of what it was, if the value can be taken. -/
def set? (policy : Policy) (value : Untyped) : Setting → Option Policy
  | .language => (language? value).map policy.withLanguage
  | .minLength => (length? value).map policy.withMinLength
  | .excluded => (words? value).map { policy with excluded := [] }.withExcluded
  | .severity => (severity? value).map policy.withSeverity
  | .checkTypes => value.bool?.map policy.withCheckTypes

def setEntry (policy : Policy) (entry : Untyped × Untyped) : Except Fault Policy :=
  match entry.1.text? with
  | none => .error .nameNoText
  | some name =>
    match Setting.ofName? name with
    | none => .error (.unknownOption name)
    | some setting =>
      match policy.set? entry.2 setting with
      | some policy => .ok policy
      | none => .error (.wrongValue setting)

/-- The policy of a mapping of options, which are set in their order; a null has none. -/
def ofOptions : Untyped → Except Fault Policy
  | .null => .ok default
  | .mapping entries => entries.foldlM setEntry default
  | _ => .error .noMapping

end Policy
end Orthography
