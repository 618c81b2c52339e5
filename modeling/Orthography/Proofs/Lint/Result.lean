import Orthography.Proofs.Lint.Schedule

/-! The result of checking files with a lexicon that knows the language. It is the same
without a memo, with one, and with workers that share one. -/
namespace Orthography.Lint

open Declaration (Document)
open Lexicon (Memo)

/-- With a language that is known a run gives a report, which accounts for the files that are
not left out, in their order: the same one without a memo, with any sound memo, and joined
from what workers return that share a memo. Workers among which every file is taken once return
a result for each, if they have enough turns. -/
theorem checkAll_accounts {lexicon : Lexicon} {policy : Policy}
    (known : lexicon.knows policy.language = true) (settings : Settings) (inputs : List Input) :
    let ask := lexicon.isUnknown
    let files := inputs.filter fun input => !settings.excludes input.path
    ∃ verdict blocks report,
      (∀ declaration,
        Verdict.ofDeclaration ask policy declaration = .ok (verdict declaration)) ∧
      Accounts verdict files blocks report ∧
      checkAll ask settings policy inputs = .ok report ∧
      (∀ memo : Memo, memo.Sound ask →
        let outcome := (checkAll (Memo.ask ask) settings policy inputs).run memo
        outcome.1 = .ok report ∧ outcome.2.Sound ask) ∧
      run lexicon settings policy inputs = .ok report ∧
      ∀ memo : Memo, memo.Sound ask →
        (∀ (plan : Plan files.length) results,
          List.Forall₂ (plan.Returned ask policy memo files) (List.finRange _) results →
            join results = .ok report) ∧
        ∀ jobs (share : Fin jobs → List (Fin files.length)),
          ((List.finRange jobs).flatMap share).Perm (List.finRange _) →
            ∃ enough : Fin jobs → Nat, ∀ turns : List (Fin jobs),
              (∀ worker, enough worker ≤ turns.count worker) → ∃ results,
                List.Forall₂ ((Plan.mk jobs share turns).Returned ask policy memo files)
                  (List.finRange _) results := by
  intro ask files
  have judges := Simulation.answering.ofDeclaration (Lexicon.answering_isUnknown known)
  refine ⟨_,_,reportAll lexicon policy settings.exclude inputs,judges,accounts_merge _ files,
    checkAll_alone known settings inputs,?_,run_alone known settings inputs,
    fun memo sound => ⟨fun plan results => Plan.join_returned known sound,
      fun jobs share => Plan.exists_returned policy files sound⟩⟩
  intro memo sound
  have recalled := (Lexicon.recalling ask).checkAll (Lexicon.recalling_ask ask policy.language)
    settings inputs memo sound
  exact ⟨recalled.1.trans (checkAll_alone known settings inputs),recalled.2⟩

set_option maxRecDepth 2000 in
/-- A path that is given twice is reported twice, one that is left out not at all. Of the file that
can be loaded the class is reported before what it contains. -/
theorem run_repeated_path :
    let lexicon := Lexicon.empty.addWords "en" ["my"]
    let settings := { Settings.default with exclude := ["x*"] }
    let text := "\x7b\"file\":\"My.swift\",\"declarations\":[\x7b\"kind\":\"class\"," ++
      "\"name\":\"MyVerson\",\"offset\":7,\"substructure\":[" ++
      "\x7b\"kind\":\"var_instance\",\"name\":\"mySeperate\",\"offset\":20\x7d]\x7d]\x7d"
    let inputs : List Input :=
      [⟨"a.json",.error .notFound⟩,⟨"c.json",.ok text⟩,⟨"x.json",.ok text⟩,⟨"b.txt",.ok ""⟩,
        ⟨"a.json",.error .notFound⟩]
    lexicon.knows Policy.default.language = true ∧
      ∃ report, run lexicon settings .default inputs = .ok report ∧
        report.violations.map (fun v => (v.ruleId,v.location.file,v.misspelled)) =
          [("file-read-error","a.json",[]),("identifier_spelling","My.swift",["Verson"]),
            ("identifier_spelling","My.swift",["Seperate"]),("parse-error","b.txt",[]),
            ("file-read-error","a.json",[])] ∧
        report.filesProcessed = 4 ∧ report.declarationsChecked = 2 ∧
        report.filesWithErrors = 3 ∧ report.filesWithWarnings = 1 := by
  intro lexicon settings text inputs
  have known : lexicon.knows Policy.default.language = true := by
    simp [lexicon,Policy.default]
  let inner : Declaration := ⟨.varInstance,some "mySeperate",none,none,some 20,none,[],.internal,[]⟩
  let outer : Declaration := ⟨.classType,some "MyVerson",none,none,some 7,none,[],.internal,[inner]⟩
  have missing : Input.document ⟨"a.json",.error .notFound⟩ = .error (.unreadable .notFound) :=
    rfl
  have malformed : Input.document ⟨"b.txt",.ok ""⟩ = .error (.unknownFormat "txt") := by
    have extension : FilePath.extension "b.txt" = "txt" := by decide +kernel
    simp only [Input.document,extension]
    rfl
  let value : Json.Value := .record [("file",.text "My.swift"),("declarations",.list
    [.record [("kind",.text "class"),("name",.text "MyVerson"),("offset",.natural 7),
      ("substructure",.list [.record [("kind",.text "var_instance"),("name",.text "mySeperate"),
        ("offset",.natural 20)]])]])]
  have valued : Json.Value.ofText text = .ok value := by
    unfold Json.Value.ofText
    -- one long text is slow to read, so its pieces are not joined
    dsimp only [text,-String.reduceAppend]
    repeat rw [String.toList_append]
    with_unfolding_all rfl
  have read : (Document.read (Json.Cursor.ofValue value) : Except Schema.Mismatch Document) =
      .ok ⟨some "My.swift",[outer]⟩ := by with_unfolding_all rfl
  have loaded : Input.document ⟨"c.json",.ok text⟩ = .ok ⟨some "My.swift",[outer]⟩ :=
    Input.document_of_json (by decide +kernel) valued read
  have lacks : lexicon.lacks Policy.default.language = _ := Lexicon.lacks_empty_addWords "en" ["my"]
  have bad : (Verdict.phraseLacks lexicon .default .classType "MyVerson" = true ∧
        Verdict.misspelled lexicon .default .classType "MyVerson" = ["Verson"]) ∧
      Verdict.phraseLacks lexicon .default .varInstance "mySeperate" = true ∧
        Verdict.misspelled lexicon .default .varInstance "mySeperate" = ["Seperate"] := by
    simp only [Verdict.misspelled,Verdict.phraseLacks,lacks]
    decide +kernel
  have checkable : outer.checkable? = some ("MyVerson",0) ∧
      inner.checkable? = some ("mySeperate",0) := by decide +kernel
  have anchored : outer.anchor? = some 7 ∧ inner.anchor? = some 20 := ⟨rfl,rfl⟩
  have kept : inputs.filter (fun input => !settings.excludes input.path) =
      [⟨"a.json",.error .notFound⟩,⟨"c.json",.ok text⟩,⟨"b.txt",.ok ""⟩,
        ⟨"a.json",.error .notFound⟩] := by
    have excluded : settings.excludes "a.json" = false ∧ settings.excludes "c.json" = false ∧
        settings.excludes "x.json" = true ∧ settings.excludes "b.txt" = false := by decide +kernel
    simp [inputs,excluded]
  obtain ⟨verdict,blocks,report,judges,accounts,_,_,result,_⟩ :=
    checkAll_accounts known settings inputs
  have first := Except.ok.inj ((judges outer).symm.trans (ofDeclaration_isUnknown known outer))
  have second := Except.ok.inj ((judges inner).symm.trans (ofDeclaration_isUnknown known inner))
  rw [Verdict.ofDeclaration_of_misspelled rfl anchored.1 checkable.1 rfl bad.1.1 bad.1.2] at first
  rw [Verdict.ofDeclaration_of_misspelled rfl anchored.2 checkable.2 rfl bad.2.1 bad.2.2] at second
  have walk : Document.walk ⟨some "My.swift",[outer]⟩ = [outer,inner] := rfl
  have nodes : Declaration.nodesAll [outer] = 2 := rfl
  refine ⟨known,report,result,?_⟩
  rw [accounts.filesWithErrors,accounts.filesWithWarnings,accounts.filesProcessed,
    accounts.declarationsChecked,accounts.violations,accounts.blocks_eq,kept]
  simp [found,Input.nodes,missing,malformed,loaded,walk,nodes,first,second,failure,failureRule,
    Verdict.violation,Violation.inFile,Violation.withHelp,Policy.default,Rule.identifierSpelling]

end Orthography.Lint
