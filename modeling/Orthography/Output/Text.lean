import Orthography.FilePath
import Orthography.Output.Ansi
import Orthography.Report

/-! Reports for readers: violations under a headline for each file, then the counters. -/
namespace Orthography.Output

structure TextStyle where
  colored : Bool
  showHelp : Bool
  showStatistics : Bool
  deriving DecidableEq

namespace TextStyle

def severityInks : Severity → List Ink
  | .error => [.bold,.red]
  | .warning => [.bold,.yellow]
  | .info => [.blue]

def paint (style : TextStyle) (inks : List Ink) (text : String) : String :=
  Ink.paint style.colored inks text

def helpLine (style : TextStyle) (help : String) : String :=
  "   " ++ style.paint [.blue] "=" ++ " help: " ++ help ++ "\n"

/-- The line of a violation, and one for its help. -/
def violationText (style : TextStyle) (violation : Violation) : String :=
  violation.location.file ++ ":" ++ toString violation.location.offset ++ ": " ++
    style.paint (severityInks violation.severity) violation.severity.name ++ "[" ++
    style.paint [.cyan] violation.ruleId ++ "]: " ++ violation.message ++ "\n" ++
    match violation.help with
    | some help => if style.showHelp then style.helpLine help else ""
    | none => ""

/-- The violations of files with equal paths, under the first spelling of the path. -/
structure Group where
  parts : List FilePath.Part
  file : String
  violations : List Violation

/-- Adds a violation behind those of its file; the groups are in the order of their
paths. -/
def addTo (violation : Violation) : List Group → List Group
  | [] => [⟨FilePath.parts violation.location.file,violation.location.file,[violation]⟩]
  | group :: rest =>
    let parts := FilePath.parts violation.location.file
    if FilePath.precedes parts group.parts then
      ⟨parts,violation.location.file,[violation]⟩ :: group :: rest
    else if parts = group.parts then
      { group with violations := group.violations ++ [violation] } :: rest
    else group :: addTo violation rest

def groups (violations : List Violation) : List Group :=
  violations.foldl (fun groups violation => addTo violation groups) []

def groupText (style : TextStyle) (group : Group) : String :=
  style.paint [.underline] group.file ++ "\n" ++
    "".intercalate (group.violations.map style.violationText) ++ "\n"

def countNoun (n : Nat) (singular plural : String) : String :=
  toString n ++ " " ++ if n = 1 then singular else plural

/-- A counter, unless it is zero. -/
def counter? (style : TextStyle) (ink : Ink) (n : Nat) (singular plural : String) :
    Option String :=
  if n = 0 then none else some (style.paint [ink] (countNoun n singular plural))

def statistics (style : TextStyle) (report : Report) : String :=
  let counters :=
    [style.counter? .red report.errorCount "error" "errors",
     style.counter? .yellow report.warningCount "warning" "warnings",
     style.counter? .blue report.infoCount "info" "infos"].filterMap id
  countNoun report.filesProcessed "file" "files" ++ " processed, " ++
    countNoun report.declarationsChecked "declaration" "declarations" ++ " checked" ++
    (if counters.isEmpty then "" else ": " ++ ", ".intercalate counters) ++ "\n" ++
    "Finished in " ++ report.duration.text ++ "s\n"

def format (style : TextStyle) (report : Report) : String :=
  "".intercalate ((groups report.violations).map style.groupText) ++
    if style.showStatistics then style.statistics report else ""

end TextStyle
end Orthography.Output
