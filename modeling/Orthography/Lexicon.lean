import Std.Data.HashMap
import Std.Data.HashSet
import Orthography.Files.Fault
import Orthography.Text.Blank
import Orthography.Text.Letter
import Orthography.Text.Lowercase

/-! Word lists by language. A word is kept trimmed and in lower case, and looked up in lower
case; what has no letter is never unknown. -/
namespace Orthography

structure Lexicon where
  languages : Std.HashMap String (Std.HashSet String)

namespace Lexicon

inductive Fault
  | unknownLanguage (language : String)
  | unreadable (language : String) (cause : Files.Fault)
  deriving DecidableEq

def Fault.message : Fault → String
  | unknownLanguage language => s!"No dictionary available for language '{language}'"
  | unreadable language cause => s!"Failed to load dictionary for '{language}': {cause.message}"

def empty : Lexicon := ⟨∅⟩

def entry (word : String) : String := Text.lower (Text.trim word)

/-- The words of a language; none for one that is not known. -/
def wordsOf (lexicon : Lexicon) (language : String) : Std.HashSet String :=
  lexicon.languages.getD language ∅

/-- Adds words to a language, which is known from then on. -/
def addWords (lexicon : Lexicon) (language : String) (words : List String) : Lexicon :=
  ⟨lexicon.languages.insert language
    ((lexicon.wordsOf language).insertMany (words.map entry))⟩

def knows (lexicon : Lexicon) (language : String) : Bool :=
  lexicon.languages.contains language

def wordCount (lexicon : Lexicon) (language : String) : Nat :=
  (lexicon.wordsOf language).size

def isUnknown (lexicon : Lexicon) (language word : String) : Except Fault Bool :=
  match lexicon.languages[language]? with
  | none => .error (.unknownLanguage language)
  | some words => .ok (word.toList.any Text.isLetter && !words.contains (Text.lower word))

/-- The words of a word list: a line each, without what follows a slash; blank lines and
lines that start with a hash hold none. -/
def listedWords (text : String) : List String :=
  let lines := (Text.splitAt '\n' text.toList).map Text.trimChars
  let kept := lines.filter fun line => !line.isEmpty && line.head? != some '#'
  kept.map fun line => String.ofList (line.takeWhile (· != '/'))

/-- Adds the words of a word list, with their number; a list that cannot be read adds
nothing. -/
def addList (lexicon : Lexicon) (language : String) (text : Except Files.Fault String) :
    Except Fault (Nat × Lexicon) :=
  match text with
  | .error cause => .error (.unreadable language cause)
  | .ok text =>
    let words := listedWords text
    .ok (words.length,lexicon.addWords language words)

theorem wordsOf_addWords (lexicon : Lexicon) (language other : String) (words : List String) :
    (lexicon.addWords language words).wordsOf other =
      if language = other then (lexicon.wordsOf language).insertMany (words.map entry)
      else lexicon.wordsOf other := by
  by_cases h : language = other <;>
    simp [addWords, wordsOf, Std.HashMap.getD_insert, h]

@[simp] theorem knows_addWords (lexicon : Lexicon) (language other : String)
    (words : List String) :
    (lexicon.addWords language words).knows other = (language == other || lexicon.knows other) := by
  simp [addWords, knows, Std.HashMap.contains_insert]

end Lexicon

/-- A question about a word of a language: whether it is unknown. -/
abbrev Inquiry (m : Type → Type) := (language word : String) → m Bool

namespace Inquiry

variable {m : Type → Type} [Monad m]

def anyUnknown (ask : Inquiry m) (language : String) : List String → m Bool
  | [] => pure false
  | word :: rest => do
    if ← ask language word then pure true else ask.anyUnknown language rest

/-- Whether a phrase has an unknown piece. -/
def phrase (ask : Inquiry m) (language text : String) : m Bool :=
  ask.anyUnknown language (Text.pieces text)

/-- Asks every word and keeps the unknown ones. -/
def allUnknown (ask : Inquiry m) (language : String) : List String → m (List String)
  | [] => pure []
  | word :: rest => do
    let unknown ← ask language word
    let others ← ask.allUnknown language rest
    pure (if unknown then word :: others else others)

end Inquiry
end Orthography
