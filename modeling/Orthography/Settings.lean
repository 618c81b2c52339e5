import Orthography.Exclusion
import Orthography.FilePath
import Orthography.Files
import Orthography.Format
import Orthography.Json.Untyped
import Orthography.Policy

/-! Settings of a run: how it works, how it prints, which files it leaves out, where the
word lists are, and the options of the policy, which stay untyped until they are asked
for. -/
namespace Orthography

open Schema

namespace Settings

inductive OutputFormat
  | text
  | json
  | compact
  deriving DecidableEq

namespace OutputFormat

def name : OutputFormat → String
  | text => "text"
  | json => "json"
  | compact => "compact"

def ofName? : String → Option OutputFormat
  | "text" => some text
  | "json" => some json
  | "compact" => some compact
  | _ => none

def ofWord? (word : String) : Option OutputFormat := ofName? (Text.lower word)

def unknown (word : String) : String := "Unknown output format: " ++ word

@[simp] theorem ofName?_name (format : OutputFormat) : ofName? format.name = some format := by
  cases format <;> rfl

end OutputFormat

/-- When output is colored; automatically means on a terminal. -/
inductive ColorMode
  | auto
  | always
  | never
  deriving DecidableEq

namespace ColorMode

def name : ColorMode → String
  | auto => "auto"
  | always => "always"
  | never => "never"

def ofName? : String → Option ColorMode
  | "auto" => some auto
  | "always" => some always
  | "never" => some never
  | _ => none

@[simp] theorem ofName?_name (mode : ColorMode) : ofName? mode.name = some mode := by
  cases mode <;> rfl

end ColorMode

structure Engine where
  parallel : Bool
  /-- The number of workers; zero for as many as there are processors. -/
  jobs : Nat
  deriving DecidableEq

structure Output where
  format : OutputFormat
  color : ColorMode
  verbose : Bool
  statistics : Bool
  deriving DecidableEq

variable {m : Type → Type} {ν : Type} [Monad m] [MonadExcept Mismatch m] [Source m ν]

namespace Engine

def default : Engine := ⟨true,0⟩

def read (node : ν) : m Engine := do
  let field ← Source.record ["parallel","jobs"] node
  pure ⟨← defaulting default.parallel Source.truth (field "parallel"),
    ← defaulting default.jobs Source.natural (field "jobs")⟩

def toJson (engine : Engine) : Json.Value :=
  .record [("parallel",.bool engine.parallel),("jobs",.natural engine.jobs)]

end Engine

namespace Output

def default : Output := ⟨.text,.auto,false,true⟩

def read (node : ν) : m Output := do
  let field ← Source.record ["format","color","verbose","statistics"] node
  pure ⟨← defaulting default.format (oneOf "an output format" OutputFormat.ofName?)
      (field "format"),
    ← defaulting default.color (oneOf "a color mode" ColorMode.ofName?) (field "color"),
    ← defaulting default.verbose Source.truth (field "verbose"),
    ← defaulting default.statistics Source.truth (field "statistics")⟩

def toJson (output : Output) : Json.Value :=
  .record [("format",.text output.format.name),("color",.text output.color.name),
    ("verbose",.bool output.verbose),("statistics",.bool output.statistics)]

end Output

/-- The paths of word lists by language, in the order of the languages. -/
abbrev Dictionaries := List (String × String)

def setDictionary (language path : String) : Dictionaries → Dictionaries
  | [] => [(language,path)]
  | (first,firstPath) :: rest =>
    if language < first then (language,path) :: (first,firstPath) :: rest
    else if language = first then (language,path) :: rest
    else (first,firstPath) :: setDictionary language path rest

/-- Sets word lists one after the other. -/
def setDictionaries (added : List (String × String)) (dictionaries : Dictionaries) :
    Dictionaries :=
  added.foldl (fun dictionaries (language,path) => setDictionary language path dictionaries)
    dictionaries

end Settings

structure Settings where
  engine : Settings.Engine
  output : Settings.Output
  /-- The patterns of files that are left out. -/
  exclude : List String
  dictionaries : Settings.Dictionaries
  identifierSpelling : Untyped

namespace Settings

def default : Settings := ⟨.default,.default,[],[],.null⟩

inductive Fault
  | unreadable (cause : Files.Fault)
  | malformed (cause : Format.Fault)
  | unknownFormat (extension : String)
  | policy (cause : Policy.Fault)
  deriving DecidableEq

def Fault.message : Fault → String
  | unreadable cause => "IO error: " ++ cause.message
  | malformed cause => cause.message
  | unknownFormat name => "Invalid configuration: Unknown config file format: " ++ name
  | policy cause => "Invalid configuration: " ++ cause.message

section

variable {m : Type → Type} {ν : Type} [Monad m] [MonadExcept Mismatch m] [Source m ν]

def readExclude (node : ν) : m (List String) := do
  let field ← Source.record ["exclude"] node
  defaulting [] texts (field "exclude")

def readDictionaries (node : ν) : m Dictionaries := do
  let entries ← Source.entries node
  let added ← entries.mapM fun (language,node) => do pure (language,← Source.text node)
  pure (setDictionaries added [])

def read (node : ν) : m Settings := do
  let field ← Source.record
    ["engine","output","files","dictionaries","identifier_spelling"] node
  pure ⟨← defaulting .default Engine.read (field "engine"),
    ← defaulting .default Output.read (field "output"),
    ← defaulting [] readExclude (field "files"),
    ← defaulting [] readDictionaries (field "dictionaries"),
    ← defaulting .null Source.untyped (field "identifier_spelling")⟩

end

/-- The fields that settings are written as, with the given options of the policy. -/
def fieldsWith (settings : Settings) (options : Json.Value) : List (String × Json.Value) :=
  [("engine",settings.engine.toJson),("output",settings.output.toJson),
   ("files",.record [("exclude",.ofTexts settings.exclude)]),
   ("dictionaries",.record (settings.dictionaries.map fun (language,path) => (language,.text path))),
   ("identifier_spelling",options)]

/-- Settings as JSON, unless their options have none. -/
def toJson? (settings : Settings) : Option Json.Value :=
  settings.identifierSpelling.toJson?.map fun options => .record (settings.fieldsWith options)

def policy (settings : Settings) : Except Policy.Fault Policy :=
  Policy.ofOptions settings.identifierSpelling

/-- Word lists are found from the directory of the settings. -/
def settle (settings : Settings) (path : String) : Settings :=
  let directory := (FilePath.parent? path).getD "."
  { settings with
    dictionaries := settings.dictionaries.map fun (language,list) =>
      (language,FilePath.join directory list) }

/-- Settings from the text at a path, whose options must make a policy. -/
def ofText (path text : String) : Except Fault Settings :=
  match Format.ofExtension? (FilePath.extension path) with
  | none => .error (.unknownFormat (FilePath.extension path))
  | some format => do
    let settings ← (format.decode read text).mapError Fault.malformed
    let _ ← settings.policy.mapError Fault.policy
    .ok (settings.settle path)

variable {m : Type → Type} [Monad m]

def load (files : Files m) (path : String) : m (Except Fault Settings) := do
  match ← files.read path with
  | .error cause => pure (.error (.unreadable cause))
  | .ok text => pure (ofText path text)

/-- The names that settings may have, the first one first. -/
def names : List String :=
  [".identspellrc.yaml",".identspellrc.yml",".identspellrc.json",
   "identspell.yaml","identspell.yml","identspell.json"]

/-- The places where settings are looked for. -/
def candidates (home : Option String) : List String :=
  names ++ home.toList.flatMap fun home => names.map (FilePath.join home)

def firstHeld? (files : Files m) : List String → m (Option String)
  | [] => pure none
  | path :: rest => do if ← files.holds path then pure (some path) else firstHeld? files rest

def loadFound (files : Files m) : m (Except Fault Settings) := do
  match ← firstHeld? files (candidates files.home) with
  | some path => load files path
  | none => pure (.ok default)

structure Override where
  format : Option OutputFormat
  verbose : Option Bool
  jobs : Option Nat
  dictionaries : List (String × String)

def merge (settings : Settings) (override : Override) : Settings :=
  { settings with
    engine := ⟨settings.engine.parallel,override.jobs.getD settings.engine.jobs⟩
    output := { settings.output with
      format := override.format.getD settings.output.format
      verbose := override.verbose.getD settings.output.verbose }
    dictionaries := setDictionaries override.dictionaries settings.dictionaries }

/-- Whether a file is left out. -/
def excludes (settings : Settings) (path : String) : Bool :=
  settings.exclude.any fun pattern => Exclusion.excludes pattern path

end Settings
end Orthography
