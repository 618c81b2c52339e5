import Mathlib.Data.List.Forall2
import Orthography.Lint
import Orthography.Proofs.Declaration.Listing
import Orthography.Proofs.Report.Tally

/-! The report on files from the verdicts on single declarations. Each file has a block of
violations, and the counters of the report are those of its blocks. -/
namespace Orthography.Lint

open Declaration (Document Listing nodesAll)

def Input.nodes (input : Input) : Nat :=
  match input.document with
  | .error _ => 0
  | .ok document => nodesAll document.declarations

/-- The violations of one file, in order. A file that cannot be loaded has a single one. -/
inductive Block (verdict : Declaration → Option Violation) (input : Input) :
    List Violation → Prop where
  | unreadable : input.text = .error cause → Block verdict input
      [⟨"file-read-error",.error,"Failed to load declarations: IO error: " ++ cause.message,
        ⟨input.path,0,0⟩,none,[],none⟩]
  | malformed : input.text = .ok text →
      Document.ofText text (FilePath.extension input.path) = .error fault → Block verdict input
      [⟨"parse-error",.error,"Failed to load declarations: " ++ fault.message,
        ⟨input.path,0,0⟩,none,[],none⟩]
  | loaded : input.text = .ok text →
      Document.ofText text (FilePath.extension input.path) = .ok document →
      Listing document.declarations order → Block verdict input
      (order.filterMap fun declaration =>
        (verdict declaration).map (·.inFile (document.file.getD input.path)))

/-- What a report says if it accounts for every file once: its violations are the blocks of
the files one after the other, and it counts files, declarations and violations. -/
structure Accounts (verdict : Declaration → Option Violation) (inputs : List Input)
    (blocks : List (List Violation)) (report : Report) : Prop where
  byFile : List.Forall₂ (Block verdict) inputs blocks
  violations : report.violations = blocks.flatten
  filesProcessed : report.filesProcessed = inputs.length
  declarationsChecked : report.declarationsChecked = (inputs.map Input.nodes).sum
  errorCount : report.errorCount = report.violations.countP (·.severity = .error)
  warningCount : report.warningCount = report.violations.countP (·.severity = .warning)
  infoCount : report.infoCount = report.violations.countP (·.severity = .info)
  filesWithErrors : report.filesWithErrors = blocks.countP (·.any (·.severity = .error))
  filesWithWarnings : report.filesWithWarnings = blocks.countP (·.any (·.severity = .warning))

def found (verdict : Declaration → Option Violation) (input : Input) : List Violation :=
  match input.document with
  | .error fault => [failure input.path fault]
  | .ok document => document.walk.filterMap fun declaration =>
      (verdict declaration).map (·.inFile (document.file.getD input.path))

theorem mem_found {verdict : Declaration → Option Violation} {input : Input} {v : Violation} :
    v ∈ found verdict input ↔
      (∃ fault, input.document = .error fault ∧ v = failure input.path fault) ∨
        ∃ document, input.document = .ok document ∧ ∃ declaration ∈ document.walk, ∃ own,
          verdict declaration = some own ∧ v = own.inFile (document.file.getD input.path) := by
  unfold found
  cases input.document with
  | error fault => simp
  | ok document =>
    simp only [List.mem_filterMap,Option.map_eq_some_iff]
    simp [eq_comm]

theorem ofText_ne_unreadable (text extension : String) (cause : Files.Fault) :
    Document.ofText text extension ≠ .error (.unreadable cause) := by
  unfold Document.ofText
  split
  next format _ => cases format.decode Document.read text <;> simp [Except.mapError]
  next => simp

theorem failureRule_of_ofText {text extension : String} {fault : Document.Fault}
    (parsed : Document.ofText text extension = .error fault) :
    failureRule fault = "parse-error" := by
  cases fault with
  | unreadable cause => exact absurd parsed (ofText_ne_unreadable text extension cause)
  | malformed | unknownFormat => rfl

theorem block_found (verdict : Declaration → Option Violation) (input : Input) :
    Block verdict input (found verdict input) := by
  unfold found Input.document
  cases read : input.text with
  | error cause => exact .unreadable read
  | ok text =>
    cases parsed : Document.ofText text (FilePath.extension input.path) with
    | error fault =>
      simp only [parsed,failure,failureRule_of_ofText parsed]
      exact .malformed read parsed
    | ok document =>
      simp only [parsed]
      exact .loaded read parsed (Declaration.listing_walkAll document.declarations)

/-- A file has one block only. -/
theorem Block.eq_found {verdict : Declaration → Option Violation} {input : Input}
    {block : List Violation} (matched : Block verdict input block) :
    block = found verdict input := by
  unfold found Input.document
  cases matched with
  | unreadable read =>
    rw [read]
    rfl
  | malformed read parsed => simp [read,parsed,failure,failureRule_of_ofText parsed]
  | loaded read parsed listing => simp [read,parsed,Document.walk,listing.eq_walkAll]

theorem Accounts.blocks_eq {verdict : Declaration → Option Violation} {inputs : List Input}
    {blocks : List (List Violation)} {report : Report}
    (accounts : Accounts verdict inputs blocks report) : blocks = inputs.map (found verdict) := by
  rw [← List.forall₂_eq_eq_eq,List.forall₂_map_right_iff]
  exact accounts.byFile.flip.imp fun _ _ matched => matched.eq_found

section FileReport

variable (declarations : Nat) (found : List Violation)

@[simp] theorem violations_fileReport : (fileReport declarations found).violations = found := by
  simp [fileReport,Report.empty]

@[simp] theorem filesProcessed_fileReport :
    (fileReport declarations found).filesProcessed = 1 :=
  Report.foldl_push_eq Report.filesProcessed Report.filesProcessed_push _ found

@[simp] theorem declarationsChecked_fileReport :
    (fileReport declarations found).declarationsChecked = declarations :=
  Report.foldl_push_eq Report.declarationsChecked Report.declarationsChecked_push _ found

theorem tallied_fileReport : (fileReport declarations found).Tallied := by
  have start : Report.Tallied
      { Report.empty with filesProcessed := 1, declarationsChecked := declarations } :=
    fun severity => by cases severity <;> rfl
  intro severity
  rw [violations_fileReport]
  have tallied := start.foldl_push found severity
  cases severity <;> simpa [fileReport,Report.empty,Report.count] using tallied

/-- A counter is above zero exactly with a violation of its severity. -/
theorem pos_count_fileReport (severity : Severity) :
    decide (0 < (fileReport declarations found).count severity) =
      found.any (·.severity = severity) := by
  rw [tallied_fileReport declarations found severity,violations_fileReport,Bool.eq_iff_iff]
  simp

theorem filesWithErrors_fileReport : (fileReport declarations found).filesWithErrors =
    if found.any (·.severity = .error) then 1 else 0 := by
  rw [← pos_count_fileReport declarations]
  rfl

theorem filesWithWarnings_fileReport : (fileReport declarations found).filesWithWarnings =
    if found.any (·.severity = .warning) then 1 else 0 := by
  rw [← pos_count_fileReport declarations]
  rfl

end FileReport

def report (verdict : Declaration → Option Violation) (input : Input) : Report :=
  fileReport input.nodes (found verdict input)

theorem tallied_merge (verdict : Declaration → Option Violation) (inputs : List Input) :
    Report.Tallied ((inputs.map (report verdict)).foldl Report.merge Report.empty) := by
  apply Report.tallied_foldl_merge Report.tallied_empty
  intro other member
  obtain ⟨input,_,rfl⟩ := List.mem_map.mp member
  exact tallied_fileReport input.nodes (found verdict input)

/-- The reports on files, joined, account for them. -/
theorem accounts_merge (verdict : Declaration → Option Violation) (inputs : List Input) :
    Accounts verdict inputs (inputs.map (found verdict))
      ((inputs.map (report verdict)).foldl Report.merge Report.empty) := by
  have tallied := tallied_merge verdict inputs
  constructor
  case byFile =>
    rw [List.forall₂_map_right_iff,List.forall₂_same]
    exact fun input _ => block_found verdict input
  case violations =>
    rw [Report.violations_foldl_merge]
    simp [report,Report.empty,List.flatMap,Function.comp_def]
  case filesProcessed =>
    rw [Report.foldl_merge_sum Report.filesProcessed (fun _ _ => rfl)]
    simp [report,Report.empty,Function.comp_def]
  case declarationsChecked =>
    rw [Report.foldl_merge_sum Report.declarationsChecked (fun _ _ => rfl)]
    simp [report,Report.empty,Function.comp_def]
  case errorCount => exact tallied .error
  case warningCount => exact tallied .warning
  case infoCount => exact tallied .info
  case filesWithErrors =>
    rw [Report.foldl_merge_countP Report.filesWithErrors (fun _ _ => rfl)
      fun other => other.violations.any (·.severity = .error)]
    · simp [report,Report.empty,List.countP_map,Function.comp_def]
    · intro other member
      obtain ⟨input,_,rfl⟩ := List.mem_map.mp member
      rw [report,filesWithErrors_fileReport,violations_fileReport]
  case filesWithWarnings =>
    rw [Report.foldl_merge_countP Report.filesWithWarnings (fun _ _ => rfl)
      fun other => other.violations.any (·.severity = .warning)]
    · simp [report,Report.empty,List.countP_map,Function.comp_def]
    · intro other member
      obtain ⟨input,_,rfl⟩ := List.mem_map.mp member
      rw [report,filesWithWarnings_fileReport,violations_fileReport]

end Orthography.Lint
