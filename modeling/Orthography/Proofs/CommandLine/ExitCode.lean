import Orthography.CommandLine.Run
import Orthography.Proofs.CommandLine.Arguments
import Orthography.Proofs.Lint.Severity
import Orthography.Proofs.Policy.Options

/-! The exit code of a run that checks files. It is decided by the files that cannot be loaded and
by the severity that is in force, which is that of the arguments, else that of the settings, else a
warning. -/
namespace Orthography.CommandLine

def severityInForce (arguments : Arguments) (settings : Settings) : Severity :=
  arguments.severity.getD ((Policy.severityOption? settings.identifierSpelling).getD .warning)

theorem severityInForce_ne_info {arguments : Arguments} {settings : Settings}
    (asked : arguments.severity ≠ some .info) : severityInForce arguments settings ≠ .info := by
  have named := Policy.severityOption?_ne_info settings.identifierSpelling
  unfold severityInForce
  cases own : arguments.severity with
  | some severity =>
    rw [own] at asked
    exact fun remark => asked (congrArg some remark)
  | none =>
    cases option : Policy.severityOption? settings.identifierSpelling with
    | some severity =>
      rw [option] at named
      exact fun remark => named (congrArg some remark)
    | none => simp

def inputsAt (files : Files Id) (paths : List String) : List Lint.Input :=
  paths.map fun path => ⟨path,(files.read path).run⟩

theorem inputs_run (files : Files Id) (paths : List String) :
    (Lint.inputs files paths).run = inputsAt files paths := by
  rw [Lint.inputs,List.idRun_mapM]
  rfl

theorem severity_adjust (arguments : Arguments) (policy : Policy) :
    (arguments.adjust policy).severity = arguments.severity.getD policy.severity := by
  rw [Arguments.adjust_eq]

/-- The policy of a run is that of its settings, adjusted. -/
theorem exists_of_configure {files : Files Id} {arguments : Arguments} {settings : Settings}
    {policy : Policy} (configured : (configure files arguments).run = .ok (settings,policy)) :
    ∃ base, settings.policy = .ok base ∧ policy = arguments.adjust base := by
  rw [configure,Id.run_bind] at configured
  split at configured
  next => cases configured
  next own _ =>
    cases made : (own.merge arguments.override).policy with
    | error fault =>
      simp only [made] at configured
      cases configured
    | ok base =>
      simp only [made] at configured
      cases configured
      exact ⟨base,made,rfl⟩

theorem knows_of_loadLexicon {files : Files Id} {settings : Settings} {policy : Policy}
    {lexicon : Lexicon} (loaded : (loadLexicon files settings policy).run = .ok lexicon) :
    lexicon.knows policy.language = true := by
  rw [loadLexicon,Id.run_bind] at loaded
  split at loaded
  next => cases loaded
  next own _ =>
    split at loaded
    next known =>
      obtain rfl := Except.ok.inj loaded
      exact known
    next => cases loaded

/-- A run gets as far as the files that it is to check, of which there is one at least. -/
structure Prepared (host : Host Id) (arguments : Arguments) (settings : Settings) (policy : Policy)
    (lexicon : Lexicon) (paths : List String) : Prop where
  plain : arguments.command = none
  configured : (configure host.files arguments).run = .ok (settings,policy)
  loaded : (loadLexicon host.files settings policy).run = .ok lexicon
  expanded : (expandAll host.files arguments.files).run = .ok paths
  named : paths ≠ []

def ending (host : Host Id) (arguments : Arguments) (settings : Settings) (report : Report) :
    Outcome where
  exitCode := if arguments.exitZero then 0 else report.exitCode
  output := (Output.ofSettings settings.output
    (arguments.coloredIn host.terminal settings.output.color)).format
      { report with duration := host.elapsed.run }
  complaint := none
  writes := []

section Workers

variable {workers : Workers Id} {engine : Settings.Engine}

theorem startWorkers_of_error {cause : WorkerFault} (parallel : engine.parallel = true)
    (refused : (workers engine.jobs).run = .error cause) :
    (startWorkers workers engine).run = .error (.workers cause) := by
  simp [startWorkers,parallel,refused,Except.mapError]

theorem startWorkers_of_ready (ready : engine.parallel = true → (workers engine.jobs).run = .ok ()) :
    (startWorkers workers engine).run = .ok () := by
  cases parallel : engine.parallel with
  | true => simp [startWorkers,parallel,ready parallel,Except.mapError]
  | false => simp [startWorkers,parallel]

end Workers

section Run

variable (host : Host Id) (workers : Workers Id) {arguments : Arguments}

theorem perform_lint (plain : arguments.command = none) :
    (perform host workers arguments).run =
      match (configure host.files arguments).run with
      | .error fault => .failure fault
      | .ok (settings,policy) => (lint host workers arguments settings policy).run := by
  simp only [perform,plain,Id.run_bind]
  cases (configure host.files arguments).run <;> rfl

/-- A run that checks files fails at its word lists, at the files that are named or for want of
workers, or else it has a report. -/
theorem lint_run (settings : Settings) (policy : Policy) :
    (lint host workers arguments settings policy).run =
      match (loadLexicon host.files settings policy).run with
      | .error fault => .failure fault
      | .ok lexicon =>
        match (expandAll host.files arguments.files).run with
        | .error fault => .failure fault
        | .ok [] => .failure .noFiles
        | .ok paths =>
          match (startWorkers workers settings.engine).run with
          | .error fault => .failure fault
          | .ok () => ending host arguments settings
              (Lint.reportAll lexicon policy settings.exclude (inputsAt host.files paths)) := by
  simp only [lint,Id.run_bind]
  cases loaded : (loadLexicon host.files settings policy).run with
  | error fault => rfl
  | ok lexicon =>
    simp only [Id.run_bind]
    cases (expandAll host.files arguments.files).run with
    | error fault => rfl
    | ok paths =>
      cases paths with
      | nil => rfl
      | cons first rest =>
        simp only [Id.run_bind]
        cases (startWorkers workers settings.engine).run with
        | error fault => rfl
        | ok started =>
          have known := knows_of_loadLexicon loaded
          have result := Lint.run_alone known settings (inputsAt host.files (first :: rest))
          simp only [Id.run_bind,inputs_run,result]
          rfl

end Run

namespace Prepared

variable {host : Host Id} {arguments : Arguments} {settings : Settings} {policy : Policy}
  {lexicon : Lexicon} {paths : List String}
  (prepared : Prepared host arguments settings policy lexicon paths)

include prepared

theorem severity_eq : policy.severity = severityInForce arguments settings := by
  obtain ⟨base,made,rfl⟩ := exists_of_configure prepared.configured
  rw [severity_adjust,Policy.severity_ofOptions made,severityInForce]

theorem knows : lexicon.knows policy.language = true :=
  knows_of_loadLexicon prepared.loaded

theorem perform_eq (workers : Workers Id) : (perform host workers arguments).run =
    match (startWorkers workers settings.engine).run with
    | .error fault => .failure fault
    | .ok () => ending host arguments settings
        (Lint.reportAll lexicon policy settings.exclude (inputsAt host.files paths)) := by
  have named := prepared.named
  simp only [perform_lint host workers prepared.plain,prepared.configured,lint_run,prepared.loaded,
    prepared.expanded]

end Prepared

/-- A run that gets as far as its files fails only if it is to have workers and none can be started.
Else it ends without complaint: with two exactly if a file cannot be loaded or a declaration is
reported as an error, with one exactly if all files can be loaded and a declaration is reported as
a warning, else with zero. No remark is reported, and every misspelling with the severity in
force. -/
theorem exitCode_of_prepared {host : Host Id} {given : List String} {arguments : Arguments}
    {settings : Settings} {policy : Policy} {lexicon : Lexicon} {paths : List String}
    (read : Arguments.read given = .ok arguments) (counted : arguments.exitZero = false)
    (prepared : Prepared host arguments settings policy lexicon paths) (workers : Workers Id) :
    let severity := severityInForce arguments settings
    let inputs := inputsAt host.files paths
    let unloadable := Lint.Unloadable settings.exclude inputs
    let reported := Lint.Reported lexicon policy settings.exclude inputs
    let outcome := (run host given workers).run
    (settings.engine.parallel = true → ∀ cause, (workers settings.engine.jobs).run = .error cause →
      outcome = .failure (.workers cause)) ∧
    ((settings.engine.parallel = true → (workers settings.engine.jobs).run = .ok ()) →
      outcome.complaint = none ∧
      (outcome.exitCode = 2 ↔ unloadable ∨ severity = .error ∧ reported) ∧
      (outcome.exitCode = 1 ↔ ¬unloadable ∧ severity = .warning ∧ reported) ∧
      (outcome.exitCode = 0 ∨ outcome.exitCode = 1 ∨ outcome.exitCode = 2) ∧
      ∃ report, Lint.run lexicon settings policy inputs = .ok report ∧
        outcome.exitCode = report.exitCode ∧
        outcome.output = (Output.ofSettings settings.output
          (arguments.coloredIn host.terminal settings.output.color)).format
            { report with duration := host.elapsed.run } ∧
        report.infoCount = 0 ∧
        ∀ v ∈ report.violations, v.ruleId = Rule.identifierSpelling.id →
          v.severity = severity) := by
  intro severity inputs unloadable reported outcome
  have known := prepared.knows
  have graded : policy.severity = severity := prepared.severity_eq
  have counts : policy.severity ≠ .info := by
    rw [graded]
    exact severityInForce_ne_info (kept_severity.read read)
  have performed : outcome = (perform host workers arguments).run := by
    simp only [outcome,run,read]
  rw [prepared.perform_eq workers] at performed
  refine ⟨fun parallel cause refused => ?_,fun ready => ?_⟩
  · rw [performed,startWorkers_of_error parallel refused]
  rw [startWorkers_of_ready ready] at performed
  simp only [ending,counted,Bool.false_eq_true,if_false] at performed
  rw [performed,← graded]
  refine ⟨rfl,Lint.exitCode_reportAll_eq_two_iff known settings.exclude inputs,
    Lint.exitCode_reportAll_eq_one_iff known settings.exclude inputs,?_,_,
    Lint.run_alone known settings inputs,rfl,rfl,
    Lint.infoCount_reportAll known settings.exclude inputs counts,
    fun v member => Lint.severity_of_ruleId known settings.exclude inputs member⟩
  have small := Report.exitCode_le_two
    (Lint.reportAll lexicon policy settings.exclude (inputsAt host.files paths))
  dsimp only
  omega

/-- The severity of the arguments makes the one wrong word an error. -/
theorem exitCode_severity_argument :
    let text :=
      "\x7b\"declarations\":[\x7b\"kind\":\"class\",\"name\":\"MyVerson\",\"offset\":7\x7d]\x7d"
    let files : Files Id :=
      { read := fun path =>
          if path = "a.json" then .ok text else if path = "en.txt" then .ok "my"
          else .error .notFound
        holds := fun path => decide (path ∈ ["a.json","en.txt"])
        isFile := fun path => decide (path ∈ ["a.json","en.txt"])
        isDirectory := fun path => decide (path = ".")
        names := fun _ => ["a.json","en.txt"]
        home := none }
    let given := ["a.json","-d","en=en.txt","--severity","err"]
    let arguments : Arguments :=
      { Arguments.blank with
        files := ["a.json"], dictionaries := [("en","en.txt")], severity := some .error }
    let settings := Settings.default.merge arguments.override
    let policy := Policy.default.withSeverity .error
    let lexicon := Lexicon.empty.addWords "en" ["my"]
    Arguments.read given = .ok arguments ∧ arguments.exitZero = false ∧
      Prepared ⟨files,false,Duration.zero⟩ arguments settings policy lexicon ["a.json"] ∧
      (run ⟨files,false,Duration.zero⟩ given).run.exitCode = 2 := by
  intro text files given arguments settings policy lexicon
  have read : Arguments.read given = .ok arguments := by decide +kernel
  have configured : (configure files arguments).run = .ok (settings,policy) := by
    have nowhere : (Settings.firstHeld? files (Settings.candidates files.home)).run = none := by
      decide +kernel
    have found : (Settings.loadFound files).run = .ok Settings.default := by
      rw [Settings.loadFound,Id.run_bind,nowhere]
      rfl
    have loaded : (loadSettings files arguments).run = .ok Settings.default := by
      simp only [loadSettings,arguments,Arguments.blank,Id.run_bind,found]
      rfl
    rw [configure,Id.run_bind,loaded]
    rfl
  have known : lexicon.knows policy.language = true := by
    simp [lexicon,policy,Policy.default,Policy.withSeverity]
  have learnt : (loadLexicon files settings policy).run = .ok lexicon := by
    have words : Lexicon.listedWords "my" = ["my"] := by decide +kernel
    have added : (Lint.addDictionaries files .empty settings.dictionaries).run = .ok lexicon := by
      simp only [lexicon]
      rw [← words]
      rfl
    rw [loadLexicon,Id.run_bind,added]
    exact if_pos known
  have expanded : (expandAll files arguments.files).run = .ok ["a.json"] := by decide +kernel
  have prepared : Prepared ⟨files,false,Duration.zero⟩ arguments settings policy lexicon
      ["a.json"] := ⟨rfl,configured,learnt,expanded,by simp⟩
  let wrong : Declaration := ⟨.classType,some "MyVerson",none,none,some 7,none,[],.internal,[]⟩
  have document : Lint.Input.document ⟨"a.json",.ok text⟩ = .ok ⟨none,[wrong]⟩ := by
    have json : FilePath.extension "a.json" = "json" := by decide +kernel
    simp only [Lint.Input.document,json,text]
    with_unfolding_all rfl
  have lacks : lexicon.lacks policy.language = _ := Lexicon.lacks_empty_addWords "en" ["my"]
  have bad : Verdict.phraseLacks lexicon policy .classType "MyVerson" = true ∧
      Verdict.misspelled lexicon policy .classType "MyVerson" = ["Verson"] := by
    simp only [Verdict.misspelled,Verdict.phraseLacks,lacks]
    decide +kernel
  have checkable : wrong.checkable? = some ("MyVerson",0) := by decide +kernel
  have judged := Lint.ofDeclaration_isUnknown known wrong
  rw [Verdict.ofDeclaration_of_misspelled rfl rfl checkable rfl bad.1 bad.2] at judged
  have reported : Lint.Reported lexicon policy settings.exclude (inputsAt files ["a.json"]) :=
    ⟨⟨"a.json",.ok text⟩,List.mem_singleton_self _,_,document,wrong,List.mem_singleton_self _,_,
      judged⟩
  obtain ⟨_,two,_⟩ := (exitCode_of_prepared read rfl prepared fun _ => .ok ()).2 fun _ => rfl
  exact ⟨read,rfl,prepared,two.mpr (.inr ⟨rfl,reported⟩)⟩

end Orthography.CommandLine
