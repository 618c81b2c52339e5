import Orthography.Declaration.Document
import Orthography.Lexicon.Memo
import Orthography.Report
import Orthography.Settings
import Orthography.Verdict

/-! Checking files of declarations. A file that cannot be loaded is reported like a
misspelling, as an error; the reports of all files become one. -/
namespace Orthography.Lint

open Declaration (Document)

structure Input where
  path : String
  text : Except Files.Fault String

def failureRule : Document.Fault → String
  | .unreadable _ => "file-read-error"
  | _ => "parse-error"

def failure (path : String) (fault : Document.Fault) : Violation where
  ruleId := failureRule fault
  severity := .error
  message := "Failed to load declarations: " ++ fault.message
  location := ⟨path,0,0⟩
  name := none
  misspelled := []
  help := none

def Input.document (input : Input) : Except Document.Fault Document :=
  match input.text with
  | .error cause => .error (.unreadable cause)
  | .ok text => Document.ofText text (FilePath.extension input.path)

variable {m : Type → Type} [Monad m]

/-- The violations of declarations of one source file, in order. -/
def violations (ask : Inquiry m) (policy : Policy) (source : String) :
    List Declaration → m (List Violation)
  | [] => pure []
  | declaration :: rest => do
    let found ← Verdict.ofDeclaration ask policy declaration
    let others ← violations ask policy source rest
    pure ((found.map (·.inFile source)).toList ++ others)

/-- A report on one file, which counts it among those with errors or warnings. -/
def fileReport (declarations : Nat) (found : List Violation) : Report :=
  let report := found.foldl Report.push
    { Report.empty with filesProcessed := 1, declarationsChecked := declarations }
  { report with
    filesWithErrors := if report.hasErrors then 1 else 0
    filesWithWarnings := if report.hasWarnings then 1 else 0 }

/-- Checks one file. Its violations stand in the source file that it names, else in
itself. -/
def checkFile (ask : Inquiry m) (policy : Policy) (input : Input) : m Report :=
  match input.document with
  | .error fault => pure (fileReport 0 [failure input.path fault])
  | .ok document => do
    let declarations := document.walk
    let found ← violations ask policy (document.file.getD input.path) declarations
    pure (fileReport declarations.length found)

def checkFiles (ask : Inquiry m) (policy : Policy) : List Input → m (List Report)
  | [] => pure []
  | input :: rest => do
    let report ← checkFile ask policy input
    let others ← checkFiles ask policy rest
    pure (report :: others)

/-- Checks the files that are not left out. -/
def checkAll (ask : Inquiry m) (settings : Settings) (policy : Policy) (inputs : List Input) :
    m Report := do
  let reports ← checkFiles ask policy (inputs.filter fun input => !settings.excludes input.path)
  pure (reports.foldl Report.merge Report.empty)

/-- Checks files with the words of a lexicon, which must know the language; verdicts are
remembered from file to file. Workers that the settings ask for have been started before. -/
def run (lexicon : Lexicon) (settings : Settings) (policy : Policy) (inputs : List Input) :
    Except Lexicon.Fault Report :=
  if lexicon.knows policy.language then
    ((checkAll (Lexicon.Memo.ask lexicon.isUnknown) settings policy inputs).run
      Lexicon.Memo.empty).1
  else .error (.unknownLanguage policy.language)

/-- Adds the word lists of the settings to a lexicon, in the order of their languages. -/
def addDictionaries (files : Files m) (lexicon : Lexicon) :
    Settings.Dictionaries → m (Except Lexicon.Fault Lexicon)
  | [] => pure (.ok lexicon)
  | (language,path) :: rest => do
    match lexicon.addList language (← files.read path) with
    | .error fault => pure (.error fault)
    | .ok (_,lexicon) => addDictionaries files lexicon rest

def inputs (files : Files m) (paths : List String) : m (List Input) :=
  paths.mapM fun path => do pure ⟨path,← files.read path⟩

end Orthography.Lint
