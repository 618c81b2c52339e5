import Orthography.Expansion.Component
import Orthography.Lexicon
import Orthography.Settings

/-! What a run of the program leaves behind. -/
namespace Orthography.CommandLine

/-- Why no workers can be started, and what led to that. -/
structure WorkerFault where
  cause : String
  reasons : List String
  deriving DecidableEq

inductive Fault
  /-- Settings from a path that was given, or from a place that was found. -/
  | settings (path : Option String) (cause : Settings.Fault)
  | policy (cause : Policy.Fault)
  | lexicon (cause : Lexicon.Fault)
  | pattern (text : String) (cause : Expansion.Fault)
  | noFiles
  | workers (cause : WorkerFault)
  | unknownInitFormat (name : String)
  | initialized (file : String)
  /-- The machine refuses to write a file, for a cause that it tells. -/
  | unwritable (file : String) (cause : String)
  deriving DecidableEq

namespace Fault

/-- A cause that is a file's is told twice: as part of the failure and as what led to it. -/
def settingsChain : Settings.Fault → String
  | .unreadable cause => (Settings.Fault.unreadable cause).message ++ ": " ++ cause.message
  | .malformed cause => cause.message ++ ": " ++ cause.detail
  | cause => cause.message

def lexiconChain : Lexicon.Fault → String
  | .unreadable language cause =>
    (Lexicon.Fault.unreadable language cause).message ++ ": " ++ cause.message
  | cause => cause.message

def workersChain (fault : WorkerFault) : String :=
  ": ".intercalate (("Failed to build thread pool: " ++ fault.cause) :: fault.cause :: fault.reasons)

def message : Fault → String
  | settings (some path) cause => s!"Failed to load config {path}: {settingsChain cause}"
  | settings none cause => s!"Failed to load config: {settingsChain cause}"
  | policy cause => (Settings.Fault.policy cause).message
  | lexicon cause => lexiconChain cause
  | pattern text cause => s!"Invalid pattern '{text}': {cause.message}"
  | noFiles => "No files found to lint"
  | workers cause => workersChain cause
  | unknownInitFormat name => s!"Unknown init format '{name}'. Available: yaml, json"
  | initialized file => s!"{file} already exists. Remove it first to reinitialize."
  | unwritable file cause => s!"Failed to write {file}: {cause}"

end Fault

/-- A file to write. -/
structure Write where
  path : String
  text : String
  deriving DecidableEq

/-- What went wrong: the arguments make no sense, or they cannot be carried out. -/
inductive Complaint
  /-- With the reason why a value cannot be taken. -/
  | usage (reason : Option String)
  | failure (fault : Fault)
  deriving DecidableEq

def Complaint.message : Complaint → String
  | usage none => "invalid arguments"
  | usage (some reason) => "invalid value: " ++ reason
  | failure fault => fault.message

/-- How a run ends: its exit code, what it prints, and what it writes. -/
structure Outcome where
  exitCode : Nat
  output : String
  complaint : Option Complaint
  writes : List Write
  deriving DecidableEq

namespace Outcome

def success (output : String) : Outcome := ⟨0,output,none,[]⟩

def failure (fault : Fault) : Outcome := ⟨3,"",some (.failure fault),[]⟩

def misuse (reason : Option String) : Outcome := ⟨2,"",some (.usage reason),[]⟩

end Outcome

variable {m : Type → Type} [Monad m]

/-- Writes files one after the other, up to the first that the machine refuses to write. -/
def writeAll (write : Write → m (Except String Unit)) : List Write → m (Except Fault Unit)
  | [] => pure (.ok ())
  | file :: rest => do
    match ← write file with
    | .error cause => pure (.error (.unwritable file.path cause))
    | .ok () => writeAll write rest

/-- Writes what a run wants written. If that cannot be done the run fails, and nothing of what
it would have printed is printed. -/
def Outcome.carryOut (write : Write → m (Except String Unit)) (outcome : Outcome) : m Outcome := do
  match ← writeAll write outcome.writes with
  | .error fault => pure (.failure fault)
  | .ok () => pure outcome

end Orthography.CommandLine
