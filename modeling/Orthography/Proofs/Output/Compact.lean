import Orthography.Output
import Orthography.Proofs.Lint.Alone
import Orthography.Proofs.Text.Parts

/-! Reports for scripts, cut at the ends of their lines. Paths and names are printed as they are,
so that a violation is one line only if no line ends within them. -/
namespace Orthography

def Text.lineEnd : Char := '\n'

open Text (lineEnd splitAt)

namespace Verdict

theorem lineEnd_not_mem_label (kind : Declaration.Kind) : lineEnd ∉ kind.label.toList := by
  cases kind <;> decide +kernel

/-- A message breaks where the name does, for the words that it lists are parts of the name. -/
theorem lineEnd_mem_message_iff (kind : Declaration.Kind) {name : String} {words : List String}
    (parts : ∀ word ∈ words, ∀ c ∈ word.toList, c ∈ name.toList) :
    lineEnd ∈ (message kind name words).toList ↔ lineEnd ∈ name.toList := by
  let quoted := words.map fun word => "'" ++ word ++ "'"
  have shape : message kind name words = kind.label ++ " '" ++ name ++
      "' contains incorrectly spelled word(s): " ++ ", ".intercalate quoted := rfl
  have opened : lineEnd ∉ " '".toList := by decide +kernel
  have closed : lineEnd ∉ "' contains incorrectly spelled word(s): ".toList := by decide +kernel
  have listed : lineEnd ∈ (", ".intercalate quoted).toList → lineEnd ∈ name.toList := by
    intro member
    rcases Text.mem_or_of_mem_intercalate member with between | ⟨_,among,inside⟩
    · exact absurd between (by decide +kernel)
    obtain ⟨word,listed,rfl⟩ := List.mem_map.mp among
    have mark : lineEnd ∉ "'".toList := by decide +kernel
    simp only [String.toList_append,List.mem_append,mark,false_or,or_false] at inside
    exact parts word listed lineEnd inside
  simp only [shape,String.toList_append,List.mem_append,lineEnd_not_mem_label,opened,closed,
    false_or,or_false]
  exact ⟨fun either => either.elim id listed,.inl⟩

/-- A report on a declaration tells of its name, and breaks where the name does. -/
theorem lineEnd_mem_message_of_ofDeclaration {lexicon : Lexicon} {policy : Policy}
    (known : lexicon.knows policy.language = true) {declaration : Declaration} {v : Violation}
    (judged : ofDeclaration lexicon.isUnknown policy declaration = .ok (some v)) :
    v.ruleId = Rule.identifierSpelling.id ∧ ∃ name, v.name = some name ∧
      (lineEnd ∈ v.message.toList ↔ lineEnd ∈ name.toList) := by
  rw [Lint.ofDeclaration_isUnknown known,Except.ok.injEq,ofDeclaration_answer] at judged
  split at judged
  next => cases judged
  split at judged
  next anchor name dropped _ _ =>
    obtain ⟨own,reported,rfl⟩ := Option.map_eq_some_iff.mp judged
    obtain ⟨-,-,first,others,listed,rfl⟩ := found_eq_some_iff.mp reported
    refine ⟨rfl,name,rfl,lineEnd_mem_message_iff _ fun word member c inside => ?_⟩
    rw [← listed] at member
    exact mem_of_mem_checkedWords (List.mem_filter.mp member).1 inside
  next => cases judged

end Verdict

namespace Output.Compact

/-- A violation whose path and name end no line. One without a name tells of a file that cannot be
loaded, by its message. -/
structure Unbroken (violation : Violation) : Prop where
  file : lineEnd ∉ violation.location.file.toList
  shown : lineEnd ∉ (violation.name.getD violation.message).toList

theorem toList_format (report : Report) :
    (format report).toList =
      (report.violations.map fun v => (violationText v).toList).flatMap (· ++ [lineEnd]) := by
  unfold format
  induction report.violations with
  | nil => simp
  | cons v rest ih => cases rest <;> simp_all [String.intercalate_cons_cons,lineEnd]

/-- The lines of the violations, behind each other, are what a report is cut into, and the nothing
behind the last of them. -/
theorem splitAt_format (report : Report) :
    splitAt lineEnd (format report).toList =
      (report.violations.flatMap fun v => splitAt lineEnd (violationText v).toList) ++ [[]] := by
  rw [toList_format,Text.splitAt_flatMap_lines,List.flatMap_map]

theorem lineEnd_not_mem_violationText_iff {v : Violation} (rule : lineEnd ∉ v.ruleId.toList) :
    lineEnd ∉ (violationText v).toList ↔
      lineEnd ∉ v.location.file.toList ∧ lineEnd ∉ v.message.toList := by
  have severity : lineEnd ∉ v.severity.name.toList := by cases v.severity <;> decide +kernel
  have offset : lineEnd ∉ (toString v.location.offset).toList := Text.not_mem_toString rfl _
  have colon : lineEnd ∉ ":".toList := by decide +kernel
  have space : lineEnd ∉ ": ".toList := by decide +kernel
  simp only [violationText,String.toList_append,List.mem_append,rule,severity,offset,colon,space,
    or_false,not_or]

section Run

variable {lexicon : Lexicon} {policy : Policy}

theorem lineEnd_not_mem_failureRule (fault : Declaration.Document.Fault) :
    lineEnd ∉ (Lint.failureRule fault).toList := by
  have unreadable : lineEnd ∉ "file-read-error".toList := by decide +kernel
  have unparsable : lineEnd ∉ "parse-error".toList := by decide +kernel
  cases fault <;> assumption

theorem lineEnd_mem_message_reported (known : lexicon.knows policy.language = true)
    {exclude : List String} {inputs : List Lint.Input} {v : Violation}
    (reported : v ∈ (Lint.reportAll lexicon policy exclude inputs).violations) :
    lineEnd ∉ v.ruleId.toList ∧
      (lineEnd ∈ v.message.toList ↔ lineEnd ∈ (v.name.getD v.message).toList) := by
  obtain ⟨input,-,⟨fault,-,rfl⟩ | ⟨document,-,declaration,-,own,judged,rfl⟩⟩ :=
    (Lint.mem_violations_reportAll known).mp reported
  · exact ⟨lineEnd_not_mem_failureRule fault,Iff.rfl⟩
  · obtain ⟨spelling,name,named,breaks⟩ :=
      Verdict.lineEnd_mem_message_of_ofDeclaration known judged
    simp only [Violation.inFile,spelling,named,Option.getD_some]
    exact ⟨by decide +kernel,breaks⟩

/-- What a run reports is one line if its path and name are. -/
theorem lineEnd_not_mem_reported (known : lexicon.knows policy.language = true)
    {exclude : List String} {inputs : List Lint.Input} {v : Violation}
    (reported : v ∈ (Lint.reportAll lexicon policy exclude inputs).violations) :
    lineEnd ∉ (violationText v).toList ↔ Unbroken v := by
  obtain ⟨rule,message⟩ := lineEnd_mem_message_reported known reported
  rw [lineEnd_not_mem_violationText_iff rule,message]
  exact ⟨fun ⟨file,shown⟩ => ⟨file,shown⟩,fun ⟨file,shown⟩ => ⟨file,shown⟩⟩

/-- A report of a run is cut into what its violations are cut into. It has a line for each
violation, which is that violation, exactly if all paths and names end no line; otherwise it has
more lines than violations. -/
theorem splitAt_format_run {settings : Settings} {inputs : List Lint.Input} {report : Report}
    (ran : Lint.run lexicon settings policy inputs = .ok report) :
    let lines := splitAt lineEnd (Output.compact.format report).toList
    let shown := report.violations.map fun v => (Output.compact.violationText v).toList
    lines = shown.flatMap (splitAt lineEnd) ++ [[]] ∧
      (lines = shown ++ [[]] ↔ ∀ v ∈ report.violations, Unbroken v) ∧
      (lines.length ≤ report.violations.length + 1 ↔ ∀ v ∈ report.violations, Unbroken v) := by
  intro lines shown
  have known : lexicon.knows policy.language = true := by
    by_contra unknown
    rw [Lint.run,if_neg unknown] at ran
    cases ran
  rw [Lint.run_alone known,Except.ok.injEq] at ran
  have cut : lines = shown.flatMap (splitAt lineEnd) ++ [[]] := by
    rw [List.flatMap_map]
    exact splitAt_format report
  have each : (∀ line ∈ shown, lineEnd ∉ line) ↔ ∀ v ∈ report.violations, Unbroken v := by
    rw [List.forall_mem_map]
    refine forall₂_congr fun v member => ?_
    rw [← ran] at member
    exact lineEnd_not_mem_reported known member
  have few : lines.length ≤ report.violations.length + 1 ↔ ∀ line ∈ shown, lineEnd ∉ line := by
    have many : shown.length = report.violations.length := List.length_map _
    rw [← Text.length_flatMap_splitAt_le_iff,cut,List.length_append,List.length_singleton,many,
      Nat.add_le_add_iff_right]
  refine ⟨cut,?_,few.trans each⟩
  rw [← each]
  refine ⟨fun same => few.mp ?_,fun whole => ?_⟩
  · simp [same,shown]
  · rw [cut,Text.flatMap_splitAt whole]

end Run

section BrokenName

def myOnly : Lexicon := Lexicon.empty.addWords "en" ["my"]

/-- A file of one variable, in whose name a line ends between two words. -/
def brokenFile : Lint.Input where
  path := "decl.json"
  text := .ok <| "\x7b\"declarations\":[\x7b\"kind\":\"var_global\"," ++
    "\"name\":\"my\\nSeperate\",\"offset\":10\x7d]\x7d"

def brokenViolation : Violation where
  ruleId := "identifier_spelling"
  severity := .warning
  message := "Variable 'my\nSeperate' contains incorrectly spelled word(s): 'Seperate'"
  location := ⟨"decl.json",13,8⟩
  name := some "my\nSeperate"
  misspelled := ["Seperate"]
  help := some Rule.identifierSpelling.description

theorem run_brokenFile :
    ∃ report, Lint.run myOnly .default .default [brokenFile] = .ok report ∧
      report.violations = [brokenViolation] := by
  let name := "my\nSeperate"
  let declared : Declaration := ⟨.varGlobal,some name,none,none,some 10,none,[],.internal,[]⟩
  have document : brokenFile.document = .ok ⟨none,[declared]⟩ := by
    have json : FilePath.extension brokenFile.path = "json" := by decide +kernel
    simp only [Lint.Input.document,json]
    with_unfolding_all rfl
  have known : myOnly.knows Policy.default.language = true := by simp [myOnly,Policy.default]
  have lacks : myOnly.lacks Policy.default.language = _ := Lexicon.lacks_empty_addWords "en" ["my"]
  have bad : Verdict.phraseLacks myOnly .default .varGlobal name = true ∧
      Verdict.misspelled myOnly .default .varGlobal name = ["Seperate"] := by
    simp only [Verdict.misspelled,Verdict.phraseLacks,lacks]
    decide +kernel
  have checkable : declared.checkable? = some (name,0) := by decide +kernel
  have anchored : declared.anchor? = some 10 := rfl
  have judged := Verdict.ofDeclaration_of_misspelled rfl anchored checkable rfl bad.1 bad.2
  let place := Location.behind 10 0
  have shown : ((Verdict.violation .default .varGlobal name place "Seperate" []).withHelp
      Rule.identifierSpelling.description).inFile "decl.json" = brokenViolation := by
    decide +kernel
  refine ⟨_,Lint.run_alone known _ _,?_⟩
  have keep : Lint.kept Settings.default.exclude [brokenFile] = [brokenFile] := rfl
  have walked : Declaration.Document.walk ⟨none,[declared]⟩ = [declared] := rfl
  rw [Lint.violations_reportAll,keep,List.flatMap_singleton,Lint.reportAlone,Lint.report,
    Lint.violations_fileReport,Lint.found,document]
  simp only [walked,List.filterMap_cons,judged,List.filterMap_nil]
  exact congrArg (fun v => [v]) shown

theorem splitAt_format_run_brokenFile :
    ∃ report, Lint.run myOnly .default .default [brokenFile] = .ok report ∧
      report.violations.length + 1 <
        (splitAt lineEnd (Output.compact.format report).toList).length := by
  obtain ⟨report,ran,one⟩ := run_brokenFile
  refine ⟨report,ran,Nat.lt_of_not_le fun few => ?_⟩
  have whole := (splitAt_format_run ran).2.2.mp few
  have unbroken := whole brokenViolation (one ▸ List.mem_singleton_self _)
  exact unbroken.shown (by decide +kernel)

/-- A name with a line end in it makes two lines of one violation. -/
theorem splitAt_format_brokenFile :
    ∃ report, Lint.run myOnly .default .default [brokenFile] = .ok report ∧
      report.violations.length = 1 ∧
      (splitAt lineEnd (Output.compact.format report).toList).map String.ofList =
        ["decl.json:13: warning: identifier_spelling: Variable 'my",
          "Seperate' contains incorrectly spelled word(s): 'Seperate'",""] := by
  obtain ⟨report,ran,one⟩ := run_brokenFile
  refine ⟨report,ran,congrArg List.length one,?_⟩
  change (splitAt lineEnd (format report).toList).map String.ofList = _
  rw [splitAt_format,one]
  decide +kernel

end BrokenName

end Output.Compact
end Orthography
