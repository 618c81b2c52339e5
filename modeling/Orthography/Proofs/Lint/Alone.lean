import Orthography.Proofs.Lexicon.Recall
import Orthography.Proofs.Lint.Blocks
import Orthography.Proofs.Verdict.Misspelled

/-! The report on files from the reports on each of them alone. It is what a run gives that knows
the language, and says nothing of the files that are left out. -/
namespace Orthography.Lint

open Declaration (Document)
open Lexicon (Memo)

theorem Input.document_of_json {path text : String} {value : Json.Value} {document : Document}
    (json : FilePath.extension path = "json") (valued : Json.Value.ofText text = .ok value)
    (read : (Document.read (Json.Cursor.ofValue value) : Except Schema.Mismatch Document) =
      .ok document) :
    Input.document ⟨path,.ok text⟩ = .ok document := by
  have known : Format.ofExtension? "json" = some .json := rfl
  simp only [Input.document,json,Document.ofText,known,Format.decode,valued,read]
  rfl

section Answers

variable (ask : Inquiry Id) (policy : Policy)

theorem violations_run (source : String) (declarations : List Declaration) :
    (violations ask policy source declarations).run = declarations.filterMap fun declaration =>
      (Verdict.ofDeclaration ask policy declaration).run.map (·.inFile source) := by
  induction declarations with
  | nil => rfl
  | cons declaration rest ih =>
    change ((Verdict.ofDeclaration ask policy declaration).run.map (·.inFile source)).toList ++
      (violations ask policy source rest).run = _
    rw [ih,List.filterMap_cons]
    cases (Verdict.ofDeclaration ask policy declaration).run <;> rfl

theorem checkFile_run (input : Input) : (checkFile ask policy input).run =
    report (fun declaration => (Verdict.ofDeclaration ask policy declaration).run) input := by
  unfold checkFile report found Input.nodes
  cases input.document with
  | error fault => rfl
  | ok document =>
    change fileReport document.walk.length
      (violations ask policy (document.file.getD input.path) document.walk).run = _
    rw [violations_run,Document.walk,(Declaration.listing_walkAll document.declarations).length]
    rfl

theorem checkFiles_run (inputs : List Input) : (checkFiles ask policy inputs).run =
    inputs.map (report fun declaration => (Verdict.ofDeclaration ask policy declaration).run) := by
  induction inputs with
  | nil => rfl
  | cons input rest ih =>
    rw [List.map_cons,← ih,← checkFile_run]
    rfl

end Answers

def kept (exclude : List String) (inputs : List Input) : List Input :=
  inputs.filter fun input => !exclude.any fun pattern => Exclusion.excludes pattern input.path

section Kept

variable (exclude : List String)

theorem kept_append (inputs others : List Input) :
    kept exclude (inputs ++ others) = kept exclude inputs ++ kept exclude others :=
  List.filter_append inputs others

theorem kept_of_excluded {exclude : List String} {input : Input}
    (excluded : ∃ pattern ∈ exclude, Exclusion.excludes pattern input.path = true)
    (before after : List Input) :
    kept exclude (before ++ input :: after) = kept exclude (before ++ after) := by
  have leftOut : (exclude.any fun pattern => Exclusion.excludes pattern input.path) = true :=
    List.any_eq_true.mpr excluded
  simp [kept,List.filter_append,leftOut]

theorem kept_perm {inputs others : List Input} (perm : inputs.Perm others) :
    (kept exclude inputs).Perm (kept exclude others) :=
  perm.filter _

end Kept

def reportAlone (lexicon : Lexicon) (policy : Policy) : Input → Report :=
  report fun declaration => (Verdict.ofDeclaration lexicon.answer policy declaration).run

def reportAll (lexicon : Lexicon) (policy : Policy) (exclude : List String)
    (inputs : List Input) : Report :=
  ((kept exclude inputs).map (reportAlone lexicon policy)).foldl Report.merge Report.empty

section ReportAll

variable (lexicon : Lexicon) (policy : Policy) (exclude : List String)

theorem reportAll_append (inputs others : List Input) :
    reportAll lexicon policy exclude (inputs ++ others) =
      (reportAll lexicon policy exclude inputs).merge (reportAll lexicon policy exclude others) := by
  rw [reportAll,kept_append,List.map_append,Report.foldl_merge_append]
  rfl

theorem violations_reportAll (inputs : List Input) :
    (reportAll lexicon policy exclude inputs).violations =
      (kept exclude inputs).flatMap fun input => (reportAlone lexicon policy input).violations := by
  rw [reportAll,Report.violations_foldl_merge,List.flatMap_map]
  rfl

theorem reportAll_perm {inputs others : List Input} (perm : inputs.Perm others) :
    reportAll lexicon policy exclude inputs =
      { reportAll lexicon policy exclude others with
        violations := (reportAll lexicon policy exclude inputs).violations } :=
  Report.foldl_merge_perm ((kept_perm exclude perm).map _) Report.empty

theorem tallied_reportAll (inputs : List Input) :
    (reportAll lexicon policy exclude inputs).Tallied :=
  tallied_merge _ _

end ReportAll

section Known

variable {lexicon : Lexicon} {policy : Policy}

variable (known : lexicon.knows policy.language = true)

include known

theorem checkFile_alone (input : Input) :
    checkFile lexicon.isUnknown policy input = .ok (reportAlone lexicon policy input) := by
  rw [reportAlone,← checkFile_run]
  exact Simulation.answering.checkFile (Lexicon.answering_isUnknown known) input

theorem checkFile_recalled {memo : Memo} (sound : memo.Sound lexicon.isUnknown) (input : Input) :
    (checkFile (Memo.ask lexicon.isUnknown) policy input memo).1 =
      .ok (reportAlone lexicon policy input) := by
  have recalled := (Lexicon.recalling lexicon.isUnknown).checkFile
    (Lexicon.recalling_ask lexicon.isUnknown policy.language) input memo sound
  rw [recalled.1,checkFile_alone known]

theorem checkFiles_alone (inputs : List Input) :
    checkFiles lexicon.isUnknown policy inputs = .ok (inputs.map (reportAlone lexicon policy)) := by
  rw [reportAlone,← checkFiles_run]
  exact Simulation.answering.checkFiles (Lexicon.answering_isUnknown known) inputs

theorem checkAll_alone (settings : Settings) (inputs : List Input) :
    checkAll lexicon.isUnknown settings policy inputs =
      .ok (reportAll lexicon policy settings.exclude inputs) := by
  rw [checkAll,checkFiles_alone known]
  rfl

theorem checkAll_recalled {memo : Memo} (sound : memo.Sound lexicon.isUnknown) (settings : Settings)
    (inputs : List Input) :
    (checkAll (Memo.ask lexicon.isUnknown) settings policy inputs memo).1 =
      .ok (reportAll lexicon policy settings.exclude inputs) := by
  have recalled := (Lexicon.recalling lexicon.isUnknown).checkAll
    (Lexicon.recalling_ask lexicon.isUnknown policy.language) settings inputs memo sound
  rw [recalled.1,checkAll_alone known]

theorem run_alone (settings : Settings) (inputs : List Input) :
    run lexicon settings policy inputs = .ok (reportAll lexicon policy settings.exclude inputs) := by
  rw [run,if_pos known]
  exact checkAll_recalled known (Memo.sound_empty lexicon.isUnknown) settings inputs

theorem ofDeclaration_isUnknown (declaration : Declaration) :
    Verdict.ofDeclaration lexicon.isUnknown policy declaration =
      .ok (Verdict.ofDeclaration lexicon.answer policy declaration).run :=
  Simulation.answering.ofDeclaration (Lexicon.answering_isUnknown known) declaration

/-- A violation tells of a file that cannot be loaded, or of a declaration. -/
theorem mem_violations_reportAll {exclude : List String} {inputs : List Input} {v : Violation} :
    v ∈ (reportAll lexicon policy exclude inputs).violations ↔ ∃ input ∈ kept exclude inputs,
      (∃ fault, input.document = .error fault ∧ v = failure input.path fault) ∨
        ∃ document, input.document = .ok document ∧ ∃ declaration ∈ document.walk, ∃ own,
          Verdict.ofDeclaration lexicon.isUnknown policy declaration = .ok (some own) ∧
            v = own.inFile (document.file.getD input.path) := by
  simp only [violations_reportAll,List.mem_flatMap,reportAlone,report,violations_fileReport,mem_found,
    ofDeclaration_isUnknown known,Except.ok.injEq]

end Known
end Orthography.Lint
