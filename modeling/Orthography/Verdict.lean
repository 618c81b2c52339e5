import Orthography.Declaration
import Orthography.Identifier
import Orthography.Lexicon
import Orthography.Policy
import Orthography.Rule
import Orthography.Text.Bytes
import Orthography.Violation

/-! The verdict on a name: at most one violation, which lists the unknown words of the name
and stands at the first of them. -/
namespace Orthography

open Declaration (Kind)

/-- Whether the policy has declarations of a kind checked. -/
def Policy.checks (policy : Policy) (kind : Kind) : Bool :=
  kind.isVariable || kind.isParameter || kind.isFunction || (policy.checkTypes && kind.isType)

namespace Verdict

/-- The part of a name that is made of words: a function's parameters do not belong to it. -/
def spelled (kind : Kind) (name : String) : String :=
  if kind.isFunction then String.ofList (name.toList.takeWhile (· != '(')) else name

/-- The words of a name that are looked up. -/
def checkedWords (policy : Policy) (kind : Kind) (name : String) : List String :=
  (Identifier.words (spelled kind name)).filter fun word =>
    !policy.isExcluded word && !policy.isTooShort word

def message (kind : Kind) (name : String) (misspelled : List String) : String :=
  let words := ", ".intercalate (misspelled.map fun word => "'" ++ word ++ "'")
  s!"{kind.label} '{name}' contains incorrectly spelled word(s): {words}"

/-- The report on a name at a byte position, of which some words are misspelled. -/
def violation (policy : Policy) (kind : Kind) (name : String) (position : Nat)
    (first : String) (others : List String) : Violation where
  ruleId := Rule.identifierSpelling.id
  severity := policy.severity
  message := message kind name (first :: others)
  location :=
    ⟨"",Location.behind position ((Text.occurrence? first.toList name.toList).getD 0),
      Text.byteLength first.toList⟩
  name := some name
  misspelled := first :: others
  help := none

variable {m : Type → Type} [Monad m]

/-- Asks about all words in one phrase, and about each of them only if the phrase is not in
order. -/
def evaluate (ask : Inquiry m) (policy : Policy) (kind : Kind) (name : String)
    (position : Nat) : m (Option Violation) := do
  if !policy.checks kind then return none
  let words := checkedWords policy kind name
  if words.isEmpty then return none
  if !(← ask.phrase policy.language (" ".intercalate words)) then return none
  match ← ask.allUnknown policy.language words with
  | [] => return none
  | first :: others => return some (violation policy kind name position first others)

/-- The verdict on a declaration. One that overrides another, or has no name or no place,
is not judged. -/
def ofDeclaration (ask : Inquiry m) (policy : Policy) (declaration : Declaration) :
    m (Option Violation) := do
  if declaration.isOverride then return none
  match declaration.anchor?, declaration.checkable? with
  | some anchor, some (name,dropped) =>
    let found ← evaluate ask policy declaration.kind name (Location.behind anchor dropped)
    return found.map (·.withHelp Rule.identifierSpelling.description)
  | _, _ => return none

end Verdict
end Orthography
