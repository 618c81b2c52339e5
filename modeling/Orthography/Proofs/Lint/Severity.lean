import Orthography.Proofs.Lint.Alone
import Orthography.Proofs.Verdict.Region

/-! How grave a report is. A file that cannot be loaded is an error, and a declaration has the
severity of the policy, which alone decide the exit code. -/
namespace Orthography.Lint

def Unloadable (exclude : List String) (inputs : List Input) : Prop :=
  ∃ input ∈ kept exclude inputs, ∃ fault, input.document = .error fault

def Reported (lexicon : Lexicon) (policy : Policy) (exclude : List String)
    (inputs : List Input) : Prop :=
  ∃ input ∈ kept exclude inputs, ∃ document, input.document = .ok document ∧
    ∃ declaration ∈ document.walk, ∃ v,
      Verdict.ofDeclaration lexicon.isUnknown policy declaration = .ok (some v)

variable {lexicon : Lexicon} {policy : Policy}

theorem severity_of_ofDeclaration {declaration : Declaration} {v : Violation}
    (reported : Verdict.ofDeclaration lexicon.isUnknown policy declaration = .ok (some v)) :
    v.severity = policy.severity := by
  let ask : Inquiry (Except Lexicon.Fault) := lexicon.isUnknown
  have returned : MonadAttach.CanReturn
      (Verdict.ofDeclarationBy ask.phrase ask policy declaration) (some v) := reported
  obtain ⟨_,_,_,_,_,_,_,_,rfl⟩ := Verdict.eq_violation_of_ofDeclarationBy returned
  rfl

theorem failureRule_ne_identifierSpelling (fault : Declaration.Document.Fault) :
    failureRule fault ≠ Rule.identifierSpelling.id := by
  cases fault <;> simp [failureRule,Rule.identifierSpelling]

section Known

variable (known : lexicon.knows policy.language = true) (exclude : List String)
  (inputs : List Input)

include known

theorem exists_severity_iff (severity : Severity) :
    (∃ v ∈ (reportAll lexicon policy exclude inputs).violations, v.severity = severity) ↔
      severity = .error ∧ Unloadable exclude inputs ∨
        severity = policy.severity ∧ Reported lexicon policy exclude inputs := by
  simp only [mem_violations_reportAll known]
  constructor
  · rintro ⟨v,⟨input,member,⟨fault,failed,rfl⟩ |
      ⟨document,loaded,declaration,inside,own,judged,rfl⟩⟩,rfl⟩
    · exact .inl ⟨rfl,input,member,fault,failed⟩
    · have graded : own.severity = policy.severity := severity_of_ofDeclaration judged
      exact .inr ⟨graded,input,member,document,loaded,declaration,inside,own,judged⟩
  · rintro (⟨rfl,input,member,fault,failed⟩ |
      ⟨rfl,input,member,document,loaded,declaration,inside,own,judged⟩)
    · exact ⟨_,⟨input,member,.inl ⟨fault,failed,rfl⟩⟩,rfl⟩
    · have graded : own.severity = policy.severity := severity_of_ofDeclaration judged
      exact ⟨_,⟨input,member,.inr ⟨document,loaded,declaration,inside,own,judged,rfl⟩⟩,graded⟩

theorem count_reportAll_pos (severity : Severity) :
    0 < (reportAll lexicon policy exclude inputs).count severity ↔
      severity = .error ∧ Unloadable exclude inputs ∨
        severity = policy.severity ∧ Reported lexicon policy exclude inputs :=
  ((tallied_reportAll lexicon policy exclude inputs).count_pos severity).trans
    (exists_severity_iff known exclude inputs severity)

theorem exitCode_reportAll_eq_two_iff :
    (reportAll lexicon policy exclude inputs).exitCode = 2 ↔
      Unloadable exclude inputs ∨
        policy.severity = .error ∧ Reported lexicon policy exclude inputs := by
  rw [Report.exitCode_eq_two_iff,count_reportAll_pos known]
  simp [eq_comm]

theorem exitCode_reportAll_eq_one_iff :
    (reportAll lexicon policy exclude inputs).exitCode = 1 ↔
      ¬Unloadable exclude inputs ∧ policy.severity = .warning ∧
        Reported lexicon policy exclude inputs := by
  rw [Report.exitCode_eq_one_iff,count_reportAll_pos known,count_reportAll_pos known]
  cases policy.severity <;> simp

theorem infoCount_reportAll (counts : policy.severity ≠ .info) :
    (reportAll lexicon policy exclude inputs).infoCount = 0 := by
  have none := count_reportAll_pos known exclude inputs .info
  simpa [Report.count,counts.symm] using none

theorem severity_of_ruleId {v : Violation}
    (member : v ∈ (reportAll lexicon policy exclude inputs).violations)
    (spelling : v.ruleId = Rule.identifierSpelling.id) : v.severity = policy.severity := by
  obtain ⟨input,_,⟨fault,_,rfl⟩ | ⟨document,_,declaration,_,own,judged,rfl⟩⟩ :=
    (mem_violations_reportAll known).mp member
  · exact absurd spelling (failureRule_ne_identifierSpelling fault)
  · have graded : own.severity = policy.severity := severity_of_ofDeclaration judged
    exact graded

end Known
end Orthography.Lint
