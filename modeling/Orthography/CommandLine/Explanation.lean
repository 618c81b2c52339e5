import Orthography.Output.Ansi
import Orthography.Policy
import Orthography.Rule

/-! A rule explained, with the policy in force. -/
namespace Orthography.CommandLine

open Output (Ink)

structure Explanation where
  rule : Rule
  policy : Policy
  colored : Bool

namespace Explanation

def paint (e : Explanation) (inks : List Ink) (text : String) : String :=
  Ink.paint e.colored inks text

def severityInk : Severity → Ink
  | .error => .red
  | .warning => .yellow
  | .info => .blue

def property (e : Explanation) (name value : String) : String :=
  "  " ++ e.paint [.bold] name ++ ": " ++ value

def heading (e : Explanation) (name : String) : String := "  " ++ e.paint [.bold] name

def examples (e : Explanation) (ink : Ink) (note : String) (texts : List String) :
    List String :=
  ["",e.heading "Examples" ++ " " ++ e.paint [ink] note] ++ texts.map ("    " ++ ·)

def lines (e : Explanation) : List String :=
  [e.paint [.bold] "Rule Details","",
    e.property "ID" (e.paint [.cyan] e.rule.id),
    e.property "Name" e.rule.name,
    e.property "Severity" (e.paint [severityInk e.policy.severity] e.policy.severity.name),
    e.property "Category" e.rule.category.name,
    e.property "Opt-in" (toString e.rule.optIn),
    e.property "Configuration" e.policy.describe,
    "",e.heading "Description","  " ++ e.rule.description] ++
  (match e.rule.rationale with
    | some rationale => ["",e.heading "Rationale","  " ++ rationale]
    | none => []) ++
  e.examples .red "(incorrect)" e.rule.triggering ++
  e.examples .green "(correct)" e.rule.nonTriggering ++
  if e.rule.tags.isEmpty then [] else ["",e.property "Tags" (", ".intercalate e.rule.tags)]

def text (e : Explanation) : String := "".intercalate (e.lines.map (· ++ "\n"))

end Explanation
end Orthography.CommandLine
