import Orthography.Proofs.Lint.Schedule

/-! Files do not depend on one another. What is reported of a file is the same whatever else is
checked, in any order and by any number of workers that were started for it, and whatever earlier
runs remembered. -/
namespace Orthography.Lint

open Lexicon (Memo Steps)

/-- That files are independent, where `alone` is the report on a file and `whole` the one on those
of several files that no pattern leaves out. -/
structure Independent (lexicon : Lexicon) (policy : Policy) (alone : Input → Report)
    (whole : List String → List Input → Report) : Prop where
  single : ∀ input, checkFile lexicon.isUnknown policy input = .ok (alone input)
  uncached : ∀ settings inputs, checkAll lexicon.isUnknown settings policy inputs =
    .ok (whole settings.exclude inputs)
  run : ∀ settings inputs, Lint.run lexicon settings policy inputs =
    .ok (whole settings.exclude inputs)
  /-- With one file after the other, each has the report that it has alone. -/
  inTurn : ∀ {memo}, Remembered lexicon.isUnknown policy memo → ∀ inputs,
    (checkFiles (Memo.ask lexicon.isUnknown) policy inputs memo).1 = .ok (inputs.map alone)
  /-- A file at once is one whose steps no other worker interrupts. -/
  atOnce : ∀ input memo, (checkFile Steps.ask policy input).run lexicon.isUnknown memo =
    checkFile (Memo.ask lexicon.isUnknown) policy input memo
  /-- What workers return for a file is its report alone, however their steps are mixed. -/
  returned : ∀ {memo}, Remembered lexicon.isUnknown policy memo →
    ∀ {files} {plan : Plan files.length} {i result},
      plan.Returned lexicon.isUnknown policy memo files i result →
        result = .ok (alone (files.get i))
  returns : ∀ {memo}, Remembered lexicon.isUnknown policy memo →
    ∀ files jobs (share : Fin jobs → List (Fin files.length)), ∃ enough : Fin jobs → Nat,
      ∀ turns, (∀ worker, enough worker ≤ turns.count worker) → ∀ worker, ∀ i ∈ share worker,
        ∃ result, (Plan.mk jobs share turns).Returned lexicon.isUnknown policy memo files i result
  ends : ∀ {memo}, Remembered lexicon.isUnknown policy memo → ∀ settings inputs,
    ∃ result later, Lints lexicon.isUnknown settings policy memo inputs result later
  same : ∀ {memo}, Remembered lexicon.isUnknown policy memo → ∀ {settings inputs result later},
    Lints lexicon.isUnknown settings policy memo inputs result later →
      result = .ok (whole settings.exclude inputs)
  append : ∀ exclude inputs others,
    whole exclude (inputs ++ others) = (whole exclude inputs).merge (whole exclude others)
  leftOut : ∀ {exclude pattern} {input : Input}, pattern ∈ exclude →
    Exclusion.excludes pattern input.path = true → ∀ before after,
      whole exclude (before ++ input :: after) = whole exclude (before ++ after)
  blocks : ∀ exclude inputs, (whole exclude inputs).violations =
    ((kept exclude inputs).map fun input => (alone input).violations).flatten
  /-- Another order of the files moves their blocks and changes nothing else. -/
  moved : ∀ exclude {inputs others}, inputs.Perm others →
    ((kept exclude inputs).map fun input => (alone input).violations).Perm
      ((kept exclude others).map fun input => (alone input).violations) ∧
    whole exclude inputs =
      { whole exclude others with violations := (whole exclude inputs).violations } ∧
    (whole exclude inputs).exitCode = (whole exclude others).exitCode

theorem exists_independent {lexicon : Lexicon} {policy : Policy}
    (known : lexicon.knows policy.language = true) :
    ∃ alone whole, Independent lexicon policy alone whole := by
  refine ⟨reportAlone lexicon policy,reportAll lexicon policy,?_⟩
  constructor
  case single => exact checkFile_alone known
  case uncached => exact checkAll_alone known
  case run => exact run_alone known
  case inTurn =>
    intro memo remembered inputs
    have recalled := (Lexicon.recalling lexicon.isUnknown).checkFiles
      (Lexicon.recalling_ask lexicon.isUnknown policy.language) inputs memo remembered.sound
    rw [recalled.1,checkFiles_alone known]
  case atOnce =>
    exact fun input memo => (Steps.running lexicon.isUnknown).checkFile
      (Steps.running_ask lexicon.isUnknown policy.language) input memo
  case returned =>
    intro memo remembered files plan i result returned
    rw [returned.eq_checkFile remembered.sound,checkFile_alone known]
  case returns =>
    exact fun remembered files => Plan.exists_enough policy files remembered.sound
  case ends => exact fun remembered settings => exists_lints settings policy remembered.sound
  case same => exact fun remembered => Lints.result_eq known remembered.sound
  case append => exact reportAll_append lexicon policy
  case leftOut =>
    intro exclude pattern input member excluded before after
    rw [reportAll,kept_of_excluded ⟨pattern,member,excluded⟩]
    rfl
  case blocks => exact violations_reportAll lexicon policy
  case moved =>
    -- the counters are sums, which no order changes, and the exit code reads nothing else
    intro exclude inputs others perm
    have moved := reportAll_perm lexicon policy exclude perm
    refine ⟨(kept_perm exclude perm).map _,moved,?_⟩
    rw [moved]
    rfl

/-- The file that is left out cannot be read; the others have the same word wrong, which may or
may not be remembered. -/
theorem independent_excluded_file :
    let lexicon := Lexicon.empty.addWords "en" ["my"]
    let settings := { Settings.default with exclude := ["c*"] }
    let text :=
      "\x7b\"declarations\":[\x7b\"kind\":\"class\",\"name\":\"MyVerson\",\"offset\":7\x7d]\x7d"
    let inputs : List Input :=
      [⟨"b.json",.ok text⟩,⟨"c.json",.error .notFound⟩,⟨"a.json",.ok text⟩]
    lexicon.knows Policy.default.language = true ∧
      ∀ memo, Remembered lexicon.isUnknown .default memo → ∀ result later,
        Lints lexicon.isUnknown settings .default memo inputs result later →
          ∃ report, result = .ok report ∧
            report.violations.map (fun v => (v.location.file,v.misspelled)) =
              [("b.json",["Verson"]),("a.json",["Verson"])] := by
  intro lexicon settings text inputs
  have known : lexicon.knows Policy.default.language = true := by
    simp [lexicon,Policy.default]
  refine ⟨known,fun memo remembered result later lints => ?_⟩
  obtain ⟨alone,whole,independent⟩ := exists_independent known
  refine ⟨_,independent.same remembered lints,?_⟩
  have leftOut : Exclusion.excludes "c*" "c.json" = true := by decide +kernel
  have keptB : Exclusion.excludes "c*" "b.json" = false := by decide +kernel
  have keptA : Exclusion.excludes "c*" "a.json" = false := by decide +kernel
  let wrong : Declaration := ⟨.classType,some "MyVerson",none,none,some 7,none,[],.internal,[]⟩
  have lacks : lexicon.lacks Policy.default.language = _ := Lexicon.lacks_empty_addWords "en" ["my"]
  have bad : Verdict.phraseLacks lexicon .default .classType "MyVerson" = true ∧
      Verdict.misspelled lexicon .default .classType "MyVerson" = ["Verson"] := by
    simp only [Verdict.misspelled,Verdict.phraseLacks,lacks]
    decide +kernel
  have checkable : wrong.checkable? = some ("MyVerson",0) := by decide +kernel
  have anchored : wrong.anchor? = some 7 := rfl
  have judged := Verdict.ofDeclaration_of_misspelled rfl anchored checkable rfl bad.1 bad.2
  have block (path : String) (json : FilePath.extension path = "json") :
      ((alone ⟨path,.ok text⟩).violations.map fun v => (v.location.file,v.misspelled)) =
        [(path,["Verson"])] := by
    have document : Input.document ⟨path,.ok text⟩ = .ok ⟨none,[wrong]⟩ := by
      simp only [Input.document,json,text]
      with_unfolding_all rfl
    have single := independent.single ⟨path,.ok text⟩
    rw [checkFile_alone known] at single
    have listed : Declaration.Document.walk ⟨none,[wrong]⟩ = [wrong] := rfl
    rw [← Except.ok.inj single,reportAlone,report,violations_fileReport,found,document]
    simp only [listed,List.filterMap_cons,judged]
    rfl
  have blockB := block "b.json" (by decide +kernel)
  have blockA := block "a.json" (by decide +kernel)
  simp [independent.blocks,kept,settings,inputs,leftOut,keptA,keptB,blockA,blockB]

end Orthography.Lint
