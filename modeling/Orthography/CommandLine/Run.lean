import Orthography.CommandLine.Arguments
import Orthography.CommandLine.Explanation
import Orthography.CommandLine.Outcome
import Orthography.Expansion
import Orthography.Lint
import Orthography.Output
import Orthography.Yaml.Writing

/-! A run of the program on a file system. It only tells what is to be printed and
written. -/
namespace Orthography.CommandLine

open Output (Ink)

structure Host (m : Type → Type) where
  files : Files m
  /-- Whether output goes to a terminal. -/
  terminal : Bool
  /-- The time since the run began. -/
  elapsed : m Duration

namespace Arguments

def override (arguments : Arguments) : Settings.Override :=
  ⟨arguments.format,if arguments.verbose then some true else none,arguments.jobs,
    arguments.dictionaries⟩

/-- The policy with the parts that the arguments replace. Excluded words come on top. -/
def adjust (arguments : Arguments) (policy : Policy) : Policy :=
  let policy := (arguments.language.map policy.withLanguage).getD policy
  let policy := (arguments.minLength.map policy.withMinLength).getD policy
  let policy := (arguments.exclude.map fun words =>
    policy.withExcluded (words.map Text.trim)).getD policy
  (arguments.severity.map policy.withSeverity).getD policy

theorem adjust_eq (arguments : Arguments) (policy : Policy) :
    arguments.adjust policy =
      ⟨arguments.language.getD policy.language,arguments.minLength.getD policy.minLength,
        Text.insertWords (((arguments.exclude.getD []).map Text.trim).map Text.lower)
          policy.excluded,
        arguments.severity.getD policy.severity,policy.checkTypes⟩ := by
  unfold adjust
  cases arguments.language <;> cases arguments.minLength <;> cases arguments.exclude <;>
    cases arguments.severity <;> rfl

def coloredIn (arguments : Arguments) (terminal : Bool) (mode : Settings.ColorMode) : Bool :=
  !arguments.noColor &&
    match mode with
    | .always => true
    | .never => false
    | .auto => terminal

def colored (arguments : Arguments) (terminal : Bool) : Bool :=
  arguments.coloredIn terminal .auto

end Arguments

def splitText (colored : Bool) (identifiers : List String) : String :=
  "".intercalate (identifiers.map fun identifier =>
    Ink.paint colored [.cyan] identifier ++ ": " ++
      " ".intercalate (Identifier.words identifier) ++ "\n")

/-- What a new file of settings is written with: all defaults, spelled out. -/
def initialFields : List (String × Json.Value) :=
  Settings.default.fieldsWith Policy.default.toJson

def initialText : Format → String
  | .json => (Json.Value.record initialFields).render .pretty
  | .yaml =>
    "# identspell configuration\n# Generated with: identspell init\n\n" ++
      Yaml.render initialFields

def initialFile : Format → String
  | .json => ".identspellrc.json"
  | .yaml => ".identspellrc.yaml"

def initializedText (colored : Bool) (file : String) : String :=
  Ink.paint colored [.bold,.green] "success" ++ " Created " ++ file ++ "\n\nNext steps:\n" ++
    "  1. Point \x60dictionaries\x60 at a word list for your language\n" ++
    "  2. Run " ++ Ink.paint colored [.cyan] "identspell decls/*.yaml" ++ " to lint your files\n"

variable {m : Type → Type} [Monad m]

/-- Writes a new file of settings, where there is none. -/
def writeInitial (host : Host m) (colored : Bool) (name : String) : m Outcome := do
  match Format.ofExtension? name with
  | none => pure (.failure (.unknownInitFormat name))
  | some format =>
    let file := initialFile format
    if ← host.files.holds file then pure (.failure (.initialized file))
    else pure ⟨0,initializedText colored file,none,[⟨file,initialText format⟩]⟩

/-- The settings that the arguments name, else those that are found. -/
def loadSettings (files : Files m) (arguments : Arguments) : m (Except Fault Settings) := do
  let loaded ← match arguments.config with
    | some path => Settings.load files path
    | none => Settings.loadFound files
  pure (loaded.mapError (.settings arguments.config))

def configure (files : Files m) (arguments : Arguments) :
    m (Except Fault (Settings × Policy)) := do
  match ← loadSettings files arguments with
  | .error fault => pure (.error fault)
  | .ok settings =>
    let settings := settings.merge arguments.override
    pure ((settings.policy.mapError Fault.policy).map fun policy =>
      (settings,arguments.adjust policy))

/-- The lexicon of the settings, which must know the language of the policy. -/
def loadLexicon (files : Files m) (settings : Settings) (policy : Policy) :
    m (Except Fault Lexicon) := do
  match ← Lint.addDictionaries files .empty settings.dictionaries with
  | .error fault => pure (.error (.lexicon fault))
  | .ok lexicon =>
    if lexicon.knows policy.language then pure (.ok lexicon)
    else pure (.error (.lexicon (.unknownLanguage policy.language)))

/-- The files that patterns name, pattern by pattern. -/
def expandAll (files : Files m) : List String → m (Except Fault (List String))
  | [] => pure (.ok [])
  | text :: rest => do
    match Expansion.Pattern.ofText text with
    | .error cause => pure (.error (.pattern text cause))
    | .ok pattern =>
      let found ← Expansion.expand files pattern
      let others ← expandAll files rest
      pure (others.map (found ++ ·))

/-- Starts workers, so many as are asked for; zero asks for as many as there are processors. -/
abbrev Workers (m : Type → Type) := Nat → m (Except WorkerFault Unit)

/-- Workers are needed only where files are checked at once. -/
def startWorkers (workers : Workers m) (engine : Settings.Engine) : m (Except Fault Unit) := do
  if engine.parallel then pure ((← workers engine.jobs).mapError .workers) else pure (.ok ())

def lint (host : Host m) (workers : Workers m) (arguments : Arguments) (settings : Settings)
    (policy : Policy) : m Outcome := do
  match ← loadLexicon host.files settings policy with
  | .error fault => pure (.failure fault)
  | .ok lexicon =>
    match ← expandAll host.files arguments.files with
    | .error fault => pure (.failure fault)
    | .ok [] => pure (.failure .noFiles)
    | .ok paths =>
      match ← startWorkers workers settings.engine with
      | .error fault => pure (.failure fault)
      | .ok () =>
        let inputs ← Lint.inputs host.files paths
        match Lint.run lexicon settings policy inputs with
        | .error fault => pure (.failure (.lexicon fault))
        | .ok report =>
          let report := { report with duration := ← host.elapsed }
          let colored := arguments.coloredIn host.terminal settings.output.color
          let output := (Output.ofSettings settings.output colored).format report
          pure ⟨if arguments.exitZero then 0 else report.exitCode,output,none,[]⟩

def perform (host : Host m) (workers : Workers m) (arguments : Arguments) : m Outcome := do
  let colored := arguments.colored host.terminal
  match arguments.command with
  | some (.tokenize identifiers) => pure (.success (splitText colored identifiers))
  | some (.init format) => writeInitial host colored format
  | command =>
    match ← configure host.files arguments with
    | .error fault => pure (.failure fault)
    | .ok (settings,policy) =>
      if command = some .explain then
        pure (.success (Explanation.text ⟨.identifierSpelling,policy,colored⟩))
      else lint host workers arguments settings policy

def versionText : String := "identspell 0.1.0\n"

def helpText : String :=
  "Identifier spelling linter\n\n" ++
    "Usage: identspell [OPTIONS] [FILES]... [COMMAND]\n\n" ++
    "Commands: explain, tokenize <IDENTIFIERS>..., init [--output-format <FORMAT>]\n"

def refuse : Refusal → Outcome
  | .help => .success helpText
  | .version => .success versionText
  | .usage => .misuse none
  | .value reason => .misuse (some reason)

/-- Runs the program with arguments. A host that needs no workers has them at any time. -/
def run (host : Host m) (arguments : List String)
    (workers : Workers m := fun _ => pure (.ok ())) : m Outcome :=
  match Arguments.read arguments with
  | .ok arguments => perform host workers arguments
  | .error refusal => pure (refuse refusal)

end Orthography.CommandLine
