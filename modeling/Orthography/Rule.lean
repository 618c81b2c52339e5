import Orthography.Json.Value
import Orthography.Schema
import Orthography.Severity

/-! The description of a rule, and of the one rule there is. -/
namespace Orthography

open Schema

inductive Category
  | correctness
  | style
  | pedantic
  deriving DecidableEq

namespace Category

def name : Category → String
  | correctness => "correctness"
  | style => "style"
  | pedantic => "pedantic"

def ofName? : String → Option Category
  | "correctness" => some correctness
  | "style" => some style
  | "pedantic" => some pedantic
  | _ => none

@[simp] theorem ofName?_name (category : Category) : ofName? category.name = some category := by
  cases category <;> rfl

end Category

structure Rule where
  id : String
  name : String
  description : String
  severity : Severity
  category : Category
  optIn : Bool
  rationale : Option String
  /-- Declarations that are reported; an arrow marks the place. -/
  triggering : List String
  nonTriggering : List String
  tags : List String
  deriving DecidableEq

namespace Rule

def identifierSpelling : Rule where
  id := "identifier_spelling"
  name := "Identifier Spelling"
  description := "Identifier names should be correctly spelled in the configured language."
  severity := .warning
  category := .style
  optIn := true
  rationale := some ("Misspelled words in names make code harder to search and read. " ++
    "Words shorter than the configured minimum length are treated as abbreviations and skipped.")
  triggering :=
    ["let my↓IncorectLet = 0",
     "var my↓IncorectVariable = 0",
     "private let _my↓SeperateVariable = 0",
     "func is↓Oparator(name: String) -> Bool",
     "func isEven(↓nuber: Int) -> Bool"]
  nonTriggering :=
    ["let myLet = 0",
     "var myVariable = 0",
     "private let _myLet = 0",
     "let myURLVariable = 0",
     "let URL: NSURL? = nil",
     "let XMLString: String? = nil",
     "override var i = 0",
     "enum Foo \x7b case myEnum \x7d",
     "func isOperator(name: String) -> Bool"]
  tags := ["naming","spelling"]

variable {m : Type → Type} {ν : Type} [Monad m] [MonadExcept Mismatch m] [Source m ν]

def read (node : ν) : m Rule := do
  let field ← Source.record
    ["id","name","description","severity","category","opt_in","rationale",
     "triggering_examples","non_triggering_examples","tags"] node
  pure ⟨← required "id" Source.text (field "id"),
    ← required "name" Source.text (field "name"),
    ← required "description" Source.text (field "description"),
    ← defaulting .warning (oneOf "a severity" Severity.ofName?) (field "severity"),
    ← defaulting .style (oneOf "a category" Category.ofName?) (field "category"),
    ← defaulting false Source.truth (field "opt_in"),
    ← optionally Source.text (field "rationale"),
    ← defaulting [] texts (field "triggering_examples"),
    ← defaulting [] texts (field "non_triggering_examples"),
    ← defaulting [] texts (field "tags")⟩

def toJson (rule : Rule) : Json.Value :=
  .record [("id",.text rule.id),("name",.text rule.name),
    ("description",.text rule.description),("severity",.text rule.severity.name),
    ("category",.text rule.category.name),("opt_in",.bool rule.optIn),
    ("rationale",.ofOption .text rule.rationale),
    ("triggering_examples",.ofTexts rule.triggering),
    ("non_triggering_examples",.ofTexts rule.nonTriggering),("tags",.ofTexts rule.tags)]

end Rule
end Orthography
