import Orthography.Proofs.CommandLine.ExitCode

/-! Runs that fail, and what they leave behind. All that can go wrong is noticed before anything
is printed, and a file is the last thing but printing that is written. -/
namespace Orthography.CommandLine

def Outcome.excused (outcome : Outcome) : Outcome :=
  if outcome.complaint.isNone then { outcome with exitCode := 0 } else outcome

theorem Outcome.writes_excused (outcome : Outcome) : outcome.excused.writes = outcome.writes := by
  unfold excused
  split <;> rfl

/-- A machine whose files can be read and written. A file that the machine refuses to write is
left as it is. -/
structure Machine (σ : Type) where
  host : σ → Host Id
  workers : σ → Workers Id
  write : Write → σ → Except String σ

namespace Machine

variable {σ : Type} (machine : Machine σ)

def attempt (file : Write) : StateM σ (Except String Unit) := fun state =>
  match machine.write file state with
  | .error cause => (.error cause,state)
  | .ok later => (.ok (),later)

def run (given : List String) (state : σ) : Outcome × σ :=
  let ends := (CommandLine.run (machine.host state) given (machine.workers state)).run
  (ends.carryOut machine.attempt).run state

def perform (arguments : Arguments) (state : σ) : Outcome × σ :=
  let ends := (CommandLine.perform (machine.host state) (machine.workers state) arguments).run
  (ends.carryOut machine.attempt).run state

theorem carryOut_nothing {outcome : Outcome} (nothing : outcome.writes = []) (state : σ) :
    (outcome.carryOut machine.attempt).run state = (outcome,state) := by
  rw [Outcome.carryOut,nothing]
  rfl

theorem carryOut_refused {outcome : Outcome} {file : Write} {state : σ} {cause : String}
    (single : outcome.writes = [file]) (refused : machine.write file state = .error cause) :
    (outcome.carryOut machine.attempt).run state =
      (.failure (.unwritable file.path cause),state) := by
  have tried : (machine.attempt file).run state = (.error cause,state) := by
    simp only [attempt,StateT.run,refused]
  rw [Outcome.carryOut,single,writeAll]
  simp only [StateT.run_bind,tried]
  rfl

theorem carryOut_written {outcome : Outcome} {file : Write} {state later : σ}
    (single : outcome.writes = [file]) (written : machine.write file state = .ok later) :
    (outcome.carryOut machine.attempt).run state = (outcome,later) := by
  have tried : (machine.attempt file).run state = (.ok (),later) := by
    simp only [attempt,StateT.run,written]
  rw [Outcome.carryOut,single,writeAll]
  simp only [StateT.run_bind,tried]
  rfl

/-- Whether a run is excused does not matter to what is written. -/
theorem carryOut_excused (outcome : Outcome) (state : σ) :
    (outcome.excused.carryOut machine.attempt).run state =
      Prod.map Outcome.excused id ((outcome.carryOut machine.attempt).run state) := by
  rw [Outcome.carryOut,Outcome.carryOut,outcome.writes_excused]
  simp only [StateT.run_bind]
  obtain ⟨result,later⟩ := (writeAll machine.attempt outcome.writes).run state
  cases result <;> rfl

end Machine

/-- Why arguments cannot be carried out. What is noticed first is what the run fails with. -/
inductive Fails (files : Files Id) (workers : Workers Id) (arguments : Arguments) :
    Fault → Prop
  | settings {fault : Fault} (asked : arguments.command = none ∨ arguments.command = some .explain)
      (failed : (configure files arguments).run = .error fault) :
      Fails files workers arguments fault
  | lexicon {settings : Settings} {policy : Policy} {fault : Fault}
      (plain : arguments.command = none)
      (configured : (configure files arguments).run = .ok (settings,policy))
      (failed : (loadLexicon files settings policy).run = .error fault) :
      Fails files workers arguments fault
  | pattern {settings : Settings} {policy : Policy} {lexicon : Lexicon} {fault : Fault}
      (plain : arguments.command = none)
      (configured : (configure files arguments).run = .ok (settings,policy))
      (loaded : (loadLexicon files settings policy).run = .ok lexicon)
      (failed : (expandAll files arguments.files).run = .error fault) :
      Fails files workers arguments fault
  | noFiles {settings : Settings} {policy : Policy} {lexicon : Lexicon}
      (plain : arguments.command = none)
      (configured : (configure files arguments).run = .ok (settings,policy))
      (loaded : (loadLexicon files settings policy).run = .ok lexicon)
      (expanded : (expandAll files arguments.files).run = .ok []) :
      Fails files workers arguments .noFiles
  | noWorkers {settings : Settings} {policy : Policy} {lexicon : Lexicon} {paths : List String}
      {fault : Fault} (plain : arguments.command = none)
      (configured : (configure files arguments).run = .ok (settings,policy))
      (loaded : (loadLexicon files settings policy).run = .ok lexicon)
      (expanded : (expandAll files arguments.files).run = .ok paths) (named : paths ≠ [])
      (failed : (startWorkers workers settings.engine).run = .error fault) :
      Fails files workers arguments fault
  | unknownFormat {name : String} (asked : arguments.command = some (.init name))
      (unknown : Format.ofExtension? name = none) :
      Fails files workers arguments (.unknownInitFormat name)
  | initialized {name : String} {format : Format} (asked : arguments.command = some (.init name))
      (known : Format.ofExtension? name = some format)
      (held : (files.holds (initialFile format)).run = true) :
      Fails files workers arguments (.initialized (initialFile format))

section Perform

variable (host : Host Id) (workers : Workers Id) {arguments : Arguments}

theorem perform_init {name : String} (asked : arguments.command = some (.init name)) :
    (perform host workers arguments).run =
      (writeInitial host (arguments.colored host.terminal) name).run := by
  simp only [perform,asked]

theorem perform_explain (asked : arguments.command = some .explain) :
    (perform host workers arguments).run =
      match (configure host.files arguments).run with
      | .error fault => .failure fault
      | .ok (_,policy) => .success
          (Explanation.text ⟨.identifierSpelling,policy,arguments.colored host.terminal⟩) := by
  simp only [perform,asked,Id.run_bind]
  cases (configure host.files arguments).run <;> rfl

theorem writeInitial_run (colored : Bool) (name : String) :
    (writeInitial host colored name).run =
      match Format.ofExtension? name with
      | none => .failure (.unknownInitFormat name)
      | some format =>
        if (host.files.holds (initialFile format)).run then
          .failure (.initialized (initialFile format))
        else ⟨0,initializedText colored (initialFile format),none,
          [⟨initialFile format,initialText format⟩]⟩ := by
  unfold writeInitial
  cases Format.ofExtension? name with
  | none => rfl
  | some format =>
    simp only [Id.run_bind]
    cases (host.files.holds (initialFile format)).run <;> rfl

theorem Fails.perform_eq {fault : Fault} (fails : Fails host.files workers arguments fault) :
    (perform host workers arguments).run = .failure fault := by
  cases fails with
  | settings asked failed =>
    rcases asked with asked | asked
    · rw [perform_lint host workers asked,failed]
    · rw [perform_explain host workers asked,failed]
  | lexicon plain configured failed =>
    rw [perform_lint host workers plain,configured]
    simp only [lint_run,failed]
  | pattern plain configured loaded failed =>
    rw [perform_lint host workers plain,configured]
    simp only [lint_run,loaded,failed]
  | noFiles plain configured loaded expanded =>
    rw [perform_lint host workers plain,configured]
    simp only [lint_run,loaded,expanded]
  | noWorkers plain configured loaded expanded named failed =>
    rw [perform_lint host workers plain,configured]
    simp only [lint_run,loaded,expanded,failed]
  | unknownFormat asked unknown =>
    rw [perform_init host workers asked,writeInitial_run,unknown]
  | initialized asked known held =>
    rw [perform_init host workers asked,writeInitial_run,known]
    simp only [held,if_true]

/-- A run that does not fail has no complaint and an exit code of its report. It writes nothing
unless it is to write new settings. -/
structure Succeeds (host : Host Id) (arguments : Arguments) (outcome : Outcome) : Prop where
  silent : outcome.complaint = none
  code : outcome.exitCode ≤ 2
  writes : outcome.writes = [] ∨ ∃ name format, arguments.command = some (.init name) ∧
    Format.ofExtension? name = some format ∧
    (host.files.holds (initialFile format)).run = false ∧
    outcome.writes = [⟨initialFile format,initialText format⟩]

theorem exitCode_ending_le (settings : Settings) (report : Report) :
    (ending host arguments settings report).exitCode ≤ 2 := by
  have small := Report.exitCode_le_two report
  simp only [ending]
  split <;> omega

/-- All that a run can come to. -/
theorem perform_cases (arguments : Arguments) :
    (∃ fault, Fails host.files workers arguments fault ∧ (perform host workers arguments).run = .failure fault) ∨
      Succeeds host arguments (perform host workers arguments).run := by
  -- each stage is only reached if nothing was against the ones before it
  cases asked : arguments.command with
  | none =>
    rw [perform_lint host workers asked]
    cases configured : (configure host.files arguments).run with
    | error fault => exact .inl ⟨fault,.settings (.inl asked) configured,rfl⟩
    | ok both =>
      obtain ⟨settings,policy⟩ := both
      simp only [lint_run]
      cases loaded : (loadLexicon host.files settings policy).run with
      | error fault => exact .inl ⟨fault,.lexicon asked configured loaded,rfl⟩
      | ok lexicon =>
        cases expanded : (expandAll host.files arguments.files).run with
        | error fault => exact .inl ⟨fault,.pattern asked configured loaded expanded,rfl⟩
        | ok paths =>
          cases paths with
          | nil => exact .inl ⟨.noFiles,.noFiles asked configured loaded expanded,rfl⟩
          | cons first rest =>
            dsimp only
            cases started : (startWorkers workers settings.engine).run with
            | error fault =>
              have named : first :: rest ≠ [] := List.cons_ne_nil first rest
              exact .inl ⟨fault,.noWorkers asked configured loaded expanded named started,rfl⟩
            | ok ready => exact .inr ⟨rfl,exitCode_ending_le host _ _,.inl rfl⟩
  | some command =>
    cases command with
    | explain =>
      rw [perform_explain host workers asked]
      cases configured : (configure host.files arguments).run with
      | error fault => exact .inl ⟨fault,.settings (.inr asked) configured,rfl⟩
      | ok both => exact .inr ⟨rfl,Nat.zero_le 2,.inl rfl⟩
    | tokenize identifiers =>
      have split : (perform host workers arguments).run =
          .success (splitText (arguments.colored host.terminal) identifiers) := by
        simp only [perform,asked]
        rfl
      rw [split]
      exact .inr ⟨rfl,Nat.zero_le 2,.inl rfl⟩
    | init name =>
      rw [perform_init host workers asked,writeInitial_run]
      cases known : Format.ofExtension? name with
      | none => exact .inl ⟨_,.unknownFormat asked known,rfl⟩
      | some format =>
        dsimp only
        cases held : (host.files.holds (initialFile format)).run with
        | true => exact .inl ⟨_,.initialized asked known held,rfl⟩
        | false => exact .inr ⟨rfl,Nat.zero_le 2,.inr ⟨name,format,asked,known,held,rfl⟩⟩

/-- To be excused changes nothing but the exit code, and that only of a run that does not fail. -/
theorem perform_excused (arguments : Arguments) :
    (perform host workers { arguments with exitZero := true }).run =
      ((perform host workers { arguments with exitZero := false }).run).excused := by
  -- only the end of a check looks at the flag
  have configured (flag : Bool) : configure host.files { arguments with exitZero := flag } =
      configure host.files arguments := rfl
  obtain ⟨command,asked⟩ : ∃ command, arguments.command = command := ⟨_,rfl⟩
  cases command with
  | none =>
    have checks (flag : Bool) := @perform_lint host workers { arguments with exitZero := flag } asked
    rw [checks true,checks false,configured true,configured false]
    cases (configure host.files arguments).run with
    | error fault => rfl
    | ok both =>
      obtain ⟨settings,policy⟩ := both
      simp only [lint_run]
      cases (loadLexicon host.files settings policy).run with
      | error fault => rfl
      | ok lexicon =>
        cases (expandAll host.files arguments.files).run with
        | error fault => rfl
        | ok paths =>
          cases paths with
          | nil => rfl
          | cons first rest => cases (startWorkers workers settings.engine).run <;> rfl
  | some command =>
    cases command with
    | explain =>
      have explains (flag : Bool) := @perform_explain host workers { arguments with exitZero := flag } asked
      rw [explains true,explains false,configured true,configured false]
      cases (configure host.files arguments).run <;> rfl
    | tokenize identifiers =>
      simp only [perform,asked]
      rfl
    | init name =>
      have writes (flag : Bool) := @perform_init host workers { arguments with exitZero := flag } name asked
      rw [writes true,writes false,writeInitial_run,writeInitial_run]
      cases Format.ofExtension? name with
      | none => rfl
      | some format =>
        dsimp only
        cases (host.files.holds (initialFile format)).run <;> rfl

end Perform

inductive Refused {σ : Type} (machine : Machine σ) (state : σ) (arguments : Arguments) : Fault → Prop
  | mk {name : String} {format : Format} {cause : String}
      (asked : arguments.command = some (.init name))
      (known : Format.ofExtension? name = some format)
      (free : ((machine.host state).files.holds (initialFile format)).run = false)
      (refused : machine.write ⟨initialFile format,initialText format⟩ state = .error cause) :
      Refused machine state arguments (.unwritable (initialFile format) cause)

section Run

variable {σ : Type} (machine : Machine σ) (state : σ) {arguments : Arguments}

theorem Machine.run_eq {given : List String} (read : Arguments.read given = .ok arguments) :
    machine.run given state = machine.perform arguments state := by
  simp only [Machine.run,Machine.perform,CommandLine.run,read]

theorem Fails.machine_eq {fault : Fault}
    (fails : Fails (machine.host state).files (machine.workers state) arguments fault) :
    machine.perform arguments state = (.failure fault,state) := by
  rw [Machine.perform,fails.perform_eq,machine.carryOut_nothing rfl]

theorem Refused.machine_eq {fault : Fault} (refusal : Refused machine state arguments fault) :
    machine.perform arguments state = (.failure fault,state) := by
  obtain ⟨asked,known,free,refused⟩ := refusal
  have planned := perform_init (machine.host state) (machine.workers state) asked
  simp only [writeInitial_run,known,free,Bool.false_eq_true,if_false] at planned
  rw [Machine.perform,planned,machine.carryOut_refused rfl refused]

/-- A run fails for one of the reasons there are and leaves its machine as it is, or it ends as
planned. -/
theorem Machine.perform_cases :
    (∃ fault, (Fails (machine.host state).files (machine.workers state) arguments fault ∨
      Refused machine state arguments fault) ∧
      machine.perform arguments state = (.failure fault,state)) ∨
    Succeeds (machine.host state) arguments (machine.perform arguments state).1 := by
  rcases CommandLine.perform_cases (machine.host state) (machine.workers state) arguments with
    ⟨fault,fails,_⟩ | succeeds
  · exact .inl ⟨fault,.inl fails,fails.machine_eq⟩
  rcases succeeds.writes with nothing | ⟨name,format,asked,known,free,single⟩
  · right
    rwa [Machine.perform,machine.carryOut_nothing nothing]
  cases written : machine.write ⟨initialFile format,initialText format⟩ state with
  | error cause =>
    have refusal := Refused.mk asked known free written
    exact .inl ⟨_,.inr refusal,refusal.machine_eq⟩
  | ok later =>
    right
    rwa [Machine.perform,machine.carryOut_written single written]

theorem Machine.perform_excused (arguments : Arguments) :
    machine.perform { arguments with exitZero := true } state =
      Prod.map Outcome.excused id (machine.perform { arguments with exitZero := false } state) := by
  rw [Machine.perform,CommandLine.perform_excused,machine.carryOut_excused]
  rfl

theorem Outcome.excused_of_silent {outcome : Outcome} (silent : outcome.complaint = none) :
    outcome.excused = { outcome with exitCode := 0 } := by
  rw [excused,silent,Option.isNone_none,if_pos rfl]

theorem Machine.complaint_iff (fault : Fault) :
    (machine.perform arguments state).1.complaint = some (.failure fault) ↔
      Fails (machine.host state).files (machine.workers state) arguments fault ∨
        Refused machine state arguments fault := by
  constructor
  · intro complained
    rcases machine.perform_cases state with ⟨other,reason,fails⟩ | succeeds
    · rw [fails] at complained
      cases complained
      exact reason
    · rw [succeeds.silent] at complained
      contradiction
  · rintro (fails | refusal)
    · rw [fails.machine_eq]
      rfl
    · rw [refusal.machine_eq]
      rfl

theorem Machine.exitCode_eq_three_iff :
    (machine.perform arguments state).1.exitCode = 3 ↔
      ∃ fault, machine.perform arguments state = (.failure fault,state) := by
  constructor
  · intro three
    rcases machine.perform_cases state with ⟨fault,_,fails⟩ | succeeds
    · exact ⟨fault,fails⟩
    · have code := succeeds.code
      omega
  · rintro ⟨fault,fails⟩
    rw [fails]
    rfl

/-- Whatever a run is asked for, it fails exactly for the reasons there are. Then its exit code
is three, it prints nothing but the reason, and its machine is as it was. Where all exit codes but
that are to be zero, all else is the same. -/
theorem failure_leaves_nothing (machine : Machine σ) (state : σ) (arguments : Arguments) :
    let ends := machine.perform arguments state
    let counted := machine.perform { arguments with exitZero := false } state
    let excused := machine.perform { arguments with exitZero := true } state
    (∀ given, Arguments.read given = .ok arguments → machine.run given state = ends) ∧
    (∀ fault, ends.1.complaint = some (.failure fault) ↔
      Fails (machine.host state).files (machine.workers state) arguments fault ∨ Refused machine state arguments fault) ∧
    (ends.1.exitCode = 3 ↔ ∃ fault, ends.1.complaint = some (.failure fault)) ∧
    (ends.1.exitCode = 3 → ends.1.output = "" ∧ ends.1.writes = [] ∧ ends.2 = state) ∧
    excused.1.output = counted.1.output ∧ excused.1.complaint = counted.1.complaint ∧
    excused.1.writes = counted.1.writes ∧ excused.2 = counted.2 ∧
    (excused.1.exitCode = 3 ↔ counted.1.exitCode = 3) ∧
    (counted.1.complaint = none → excused.1.exitCode = 0 ∧
      (counted.1.exitCode = 0 ∨ counted.1.exitCode = 1 ∨ counted.1.exitCode = 2)) := by
  intro ends counted excused
  have three : ends.1.exitCode = 3 ↔ ∃ fault, ends = (.failure fault,state) :=
    machine.exitCode_eq_three_iff state
  have same : excused = Prod.map Outcome.excused id counted :=
    machine.perform_excused state arguments
  refine ⟨fun given read => machine.run_eq state read,machine.complaint_iff state,?_,?_,?_⟩
  · rw [three]
    constructor
    · rintro ⟨fault,fails⟩
      exact ⟨fault,congrArg (·.1.complaint) fails⟩
    · rintro ⟨fault,complained⟩
      rcases (machine.complaint_iff state fault).mp complained with fails | refusal
      · exact ⟨fault,fails.machine_eq⟩
      · exact ⟨fault,refusal.machine_eq⟩
  · intro failed
    obtain ⟨fault,fails⟩ := three.mp failed
    rw [fails]
    exact ⟨rfl,rfl,rfl⟩
  -- a run that fails is excused from nothing, any other one from its exit code alone
  rcases machine.perform_cases state with ⟨fault,_,fails⟩ | succeeds
  · change counted = _ at fails
    rw [same,fails]
    exact ⟨rfl,rfl,rfl,rfl,Iff.rfl,nofun⟩
  · have code : counted.1.exitCode ≤ 2 := succeeds.code
    have zero : excused = ({ counted.1 with exitCode := 0 },counted.2) := by
      rw [same,Prod.map,Outcome.excused_of_silent succeeds.silent]
      rfl
    have unfailed : counted.1.exitCode ≠ 3 := by omega
    rw [zero]
    refine ⟨rfl,rfl,rfl,rfl,⟨nofun,fun failed => absurd failed unfailed⟩,fun _ => ⟨rfl,?_⟩⟩
    omega

end Run

end Orthography.CommandLine
