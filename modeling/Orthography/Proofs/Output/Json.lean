import Orthography.Output
import Orthography.Proofs.Json.Fields
import Orthography.Proofs.Json.RoundTrip

/-! What a program learns from a report that is printed for it. In either layout the text reads back
as one value, and that tells all violations and counters, so reports that differ in one of them
have different texts. -/
namespace Orthography.Output.Json

open Orthography.Json (Layout Value Writable)

/-- A record in which no key occurs twice, so that a key tells its field. -/
def Unambiguous (value : Value) : Prop :=
  ∃ fields, value = .record fields ∧ (fields.map Prod.fst).Nodup

/-- A value that tells all of a violation. It has no field where there is nothing to tell. -/
structure TellsViolation (violation : Violation) (value : Value) : Prop where
  unambiguous : Unambiguous value
  ruleId : value.field? "rule_id" = some (.text violation.ruleId)
  severity : value.field? "severity" = some (.text violation.severity.name)
  message : value.field? "message" = some (.text violation.message)
  file : value.field? "file" = some (.text violation.location.file)
  offset : value.field? "offset" = some (.natural violation.location.offset)
  length : value.field? "length" = some (.natural violation.location.length)
  name : value.field? "name" = violation.name.map .text
  misspelled : value.field? "misspelled" =
    if violation.misspelled = [] then none else some (.ofTexts violation.misspelled)
  help : value.field? "help" = violation.help.map .text

/-- A value that tells all counters of a report, and its duration but for what is less than a
millisecond. -/
structure TellsCounters (report : Report) (value : Value) : Prop where
  unambiguous : Unambiguous value
  filesProcessed : value.field? "files_processed" = some (.natural report.filesProcessed)
  declarationsChecked :
    value.field? "declarations_checked" = some (.natural report.declarationsChecked)
  filesWithErrors : value.field? "files_with_errors" = some (.natural report.filesWithErrors)
  filesWithWarnings : value.field? "files_with_warnings" = some (.natural report.filesWithWarnings)
  errorCount : value.field? "error_count" = some (.natural report.errorCount)
  warningCount : value.field? "warning_count" = some (.natural report.warningCount)
  infoCount : value.field? "info_count" = some (.natural report.infoCount)
  millis : value.field? "duration_ms" = some (.natural report.duration.millis)

structure Tells (report : Report) (elements : List Value) (value : Value) : Prop where
  unambiguous : Unambiguous value
  violations : value.field? "violations" = some (.list elements)
  each : List.Forall₂ TellsViolation report.violations elements
  summary : ∃ summary, value.field? "summary" = some summary ∧ TellsCounters report summary

section Written

theorem lookup_singleton (key name : String) (value : Value) :
    [(name,value)].lookup key = if key = name then some value else none := by
  by_cases same : key = name
  · simp [same]
  · simp [List.lookup_cons,beq_eq_false_iff_ne.mpr same,same]

theorem lookup_optionalField (key name : String) (text : Option String) :
    (optionalField name text).lookup key = if key = name then text.map .text else none := by
  cases text with
  | none => simp [optionalField]
  | some s => simp [optionalField,lookup_singleton]

theorem lookup_misspelledField (key : String) (words : List String) :
    (misspelledField words).lookup key =
      if key = "misspelled" then if words = [] then none else some (.ofTexts words) else none := by
  cases words with
  | nil => simp [misspelledField]
  | cons word words => simp [misspelledField,lookup_singleton]

theorem tellsViolation (violation : Violation) :
    TellsViolation violation (violationValue violation) := by
  constructor
  case unambiguous =>
    refine ⟨_,rfl,?_⟩
    cases violation.name <;> cases violation.misspelled <;> cases violation.help <;>
      simp [optionalField,misspelledField]
  all_goals
    simp [violationValue,Value.field?,List.lookup_append,List.lookup_cons,lookup_optionalField,
      lookup_misspelledField]

theorem tellsCounters (report : Report) : TellsCounters report (summaryValue report) := by
  constructor
  case unambiguous => exact ⟨_,rfl,by simp⟩
  all_goals rfl

theorem tells (report : Report) :
    Tells report (report.violations.map violationValue) (reportValue report) where
  unambiguous := ⟨_,rfl,by simp⟩
  violations := rfl
  each := by
    rw [List.forall₂_map_right_iff,List.forall₂_same]
    exact fun violation _ => tellsViolation violation
  summary := ⟨_,rfl,tellsCounters report⟩

end Written

section Unique

variable {field : Option Value}

theorem text_unique {s t : String} (told : field = some (.text s))
    (again : field = some (.text t)) : s = t :=
  Value.text.inj (Option.some.inj (told.symm.trans again))

theorem natural_unique {n m : Nat} (told : field = some (.natural n))
    (again : field = some (.natural m)) : n = m :=
  Value.natural.inj (Option.some.inj (told.symm.trans again))

theorem optional_unique {text other : Option String} (told : field = text.map .text)
    (again : field = other.map .text) : text = other :=
  Option.map_injective (fun _ _ => Value.text.inj) (told.symm.trans again)

theorem texts_unique {words others : List String}
    (told : field = if words = [] then none else some (.ofTexts words))
    (again : field = if others = [] then none else some (.ofTexts others)) : words = others := by
  have same := told.symm.trans again
  split at same <;> split at same
  · next none other => rw [none,other]
  · exact nomatch same
  · exact nomatch same
  · have texts := Value.list.inj (Option.some.inj same)
    exact List.map_injective_iff.mpr (fun _ _ => Value.text.inj) texts

theorem severity_unique {severity other : Severity} (told : field = some (.text severity.name))
    (again : field = some (.text other.name)) : severity = other := by
  have named := congrArg Severity.ofName? (text_unique told again)
  rw [Severity.ofName?_name,Severity.ofName?_name] at named
  exact Option.some.inj named

/-- A value tells of one violation only. -/
theorem TellsViolation.unique {violation other : Violation} {value : Value}
    (told : TellsViolation violation value) (again : TellsViolation other value) :
    violation = other := by
  obtain ⟨_,_,_,⟨_,_,_⟩,_,_,_⟩ := violation
  obtain ⟨_,_,_,⟨_,_,_⟩,_,_,_⟩ := other
  simp only [Violation.mk.injEq,Location.mk.injEq]
  exact ⟨text_unique told.ruleId again.ruleId,severity_unique told.severity again.severity,
    text_unique told.message again.message,
    ⟨text_unique told.file again.file,natural_unique told.offset again.offset,
      natural_unique told.length again.length⟩,
    optional_unique told.name again.name,texts_unique told.misspelled again.misspelled,
    optional_unique told.help again.help⟩

theorem violations_unique {violations others : List Violation} {elements : List Value}
    (told : List.Forall₂ TellsViolation violations elements)
    (again : List.Forall₂ TellsViolation others elements) : violations = others := by
  induction told generalizing others with
  | nil =>
    cases again
    rfl
  | cons first _ ih =>
    obtain _ | ⟨firstAgain,rest⟩ := again
    rw [first.unique firstAgain,ih rest]

/-- Reports that one value tells of differ in less than a millisecond, and in nothing else. -/
theorem Tells.unique {report other : Report} {elements others : List Value} {value : Value}
    (told : Tells report elements value) (again : Tells other others value) :
    report.duration.millis = other.duration.millis ∧
      report = { other with duration := report.duration } := by
  obtain ⟨_,listed,each,summary,found,counters⟩ := told
  obtain ⟨_,listedAgain,eachAgain,_,foundAgain,countersAgain⟩ := again
  cases listed.symm.trans listedAgain
  cases found.symm.trans foundAgain
  refine ⟨natural_unique counters.millis countersAgain.millis,?_⟩
  obtain ⟨_,_,_,_,_,_,_,_,_⟩ := report
  obtain ⟨_,_,_,_,_,_,_,_,_⟩ := other
  simp only [Report.mk.injEq,and_true]
  exact ⟨violations_unique each eachAgain,
    natural_unique counters.filesProcessed countersAgain.filesProcessed,
    natural_unique counters.declarationsChecked countersAgain.declarationsChecked,
    natural_unique counters.filesWithErrors countersAgain.filesWithErrors,
    natural_unique counters.filesWithWarnings countersAgain.filesWithWarnings,
    natural_unique counters.errorCount countersAgain.errorCount,
    natural_unique counters.warningCount countersAgain.warningCount,
    natural_unique counters.infoCount countersAgain.infoCount⟩

end Unique

structure FitsViolation (violation : Violation) : Prop where
  offset : violation.location.offset < Numeral.bound 64
  length : violation.location.length < Numeral.bound 64

structure Fits (report : Report) : Prop where
  violations : ∀ violation ∈ report.violations, FitsViolation violation
  filesProcessed : report.filesProcessed < Numeral.bound 64
  declarationsChecked : report.declarationsChecked < Numeral.bound 64
  filesWithErrors : report.filesWithErrors < Numeral.bound 64
  filesWithWarnings : report.filesWithWarnings < Numeral.bound 64
  errorCount : report.errorCount < Numeral.bound 64
  warningCount : report.warningCount < Numeral.bound 64
  infoCount : report.infoCount < Numeral.bound 64
  millis : report.duration.millis < Numeral.bound 64

section Reading

/-- What holds of the texts, lists of texts and numbers of a violation holds of all its fields. -/
theorem forall_mem_fields {P : Value → Prop} {violation : Violation} (text : ∀ s, P (.text s))
    (texts : ∀ words, P (.ofTexts words)) (offset : P (.natural violation.location.offset))
    (length : P (.natural violation.location.length)) :
    ∃ fields, violationValue violation = .record fields ∧ ∀ field ∈ fields, P field.2 := by
  have optional (name : String) (option : Option String) :
      ∀ field ∈ optionalField name option, P field.2 := by
    cases option with
    | none => exact List.forall_mem_nil _
    | some s => exact List.forall_mem_singleton.mpr (text s)
  have misspelled : ∀ field ∈ misspelledField violation.misspelled, P field.2 := by
    cases violation.misspelled with
    | nil => exact List.forall_mem_nil _
    | cons word words => exact List.forall_mem_singleton.mpr (texts (word :: words))
  refine ⟨_,rfl,?_⟩
  simp only [List.forall_mem_append,List.forall_mem_cons]
  exact ⟨⟨⟨⟨text _,text _,text _,text _,offset,length,List.forall_mem_nil _⟩,optional _ _⟩,
    misspelled⟩,optional _ _⟩

theorem writable_violationValue {violation : Violation} (fits : FitsViolation violation) :
    Writable (violationValue violation) := by
  obtain ⟨fields,same,each⟩ := forall_mem_fields Writable.text Writable.ofTexts
    (.natural fits.offset) (.natural fits.length)
  rw [same]
  exact .record each

theorem nesting_violationValue (violation : Violation) :
    (violationValue violation).nesting ≤ 2 := by
  have text (s : String) : (Value.text s).nesting ≤ 1 := Nat.zero_le 1
  have texts (words : List String) : (Value.ofTexts words).nesting ≤ 1 :=
    Nat.le_of_eq (Value.nesting_ofTexts words)
  have number (n : Nat) : (Value.natural n).nesting ≤ 1 := Nat.zero_le 1
  obtain ⟨fields,same,each⟩ := forall_mem_fields (P := fun value => value.nesting ≤ 1) text texts
    (number violation.location.offset) (number violation.location.length)
  rw [same,Value.nesting]
  exact Nat.succ_le_succ (Value.nestingOfFields_le each)

theorem writable_reportValue {report : Report} (fits : Fits report) :
    Writable (reportValue report) := by
  have violations : Writable (.list (report.violations.map violationValue)) :=
    .list (List.forall_mem_map.mpr fun violation member =>
      writable_violationValue (fits.violations violation member))
  have summary : Writable (summaryValue report) := by
    refine .record ?_
    simp only [List.forall_mem_cons]
    exact ⟨.natural fits.filesProcessed,.natural fits.declarationsChecked,
      .natural fits.filesWithErrors,.natural fits.filesWithWarnings,.natural fits.errorCount,
      .natural fits.warningCount,.natural fits.infoCount,.natural fits.millis,
      List.forall_mem_nil _⟩
  refine .record ?_
  simp only [List.forall_mem_cons]
  exact ⟨violations,summary,List.forall_mem_nil _⟩

theorem nesting_reportValue (report : Report) : (reportValue report).nesting ≤ 4 := by
  have elements : Value.nestingOfItems (report.violations.map violationValue) ≤ 2 :=
    Value.nestingOfItems_le (List.forall_mem_map.mpr fun violation _ =>
      nesting_violationValue violation)
  have summary : (summaryValue report).nesting = 1 := rfl
  simp only [reportValue,Value.nesting,Value.nestingOfFields,summary]
  omega

theorem blank_jsonLayout (pretty : Bool) : (jsonLayout pretty).Blank := by
  cases pretty with
  | false => exact Layout.blank_compact
  | true => exact Layout.blank_pretty

theorem ofText_format {report : Report} (fits : Fits report) (pretty : Bool) :
    Value.ofText ((Output.json pretty).format report) = .ok (reportValue report) :=
  Orthography.Json.ofText_render (blank_jsonLayout pretty) (writable_reportValue fits)

theorem ofText_violationText {violation : Violation} (fits : FitsViolation violation)
    (pretty : Bool) :
    Value.ofText ((Output.json pretty).violationText violation) = .ok (violationValue violation) :=
  Orthography.Json.ofText_render (blank_jsonLayout pretty) (writable_violationValue fits)

end Reading

/-- In either layout a report whose numbers fit is printed as one value that tells all of it, and
each of its violations alone is printed as its element there. Reports with the same text have the
same violations, counters and milliseconds, be it in different layouts. -/
theorem format_tells {report : Report} (fits : Fits report) :
    ∃ value elements, Tells report elements value ∧ value.nesting ≤ 4 ∧
      (∀ pretty, Value.ofText ((Output.json pretty).format report) = .ok value) ∧
      List.Forall₂ (fun violation element => ∀ pretty,
        Value.ofText ((Output.json pretty).violationText violation) = .ok element)
        report.violations elements ∧
      ∀ other, Fits other → ∀ pretty otherPretty,
        (Output.json pretty).format report = (Output.json otherPretty).format other →
          report.duration.millis = other.duration.millis ∧
            report = { other with duration := report.duration } := by
  refine ⟨reportValue report,report.violations.map violationValue,tells report,
    nesting_reportValue report,ofText_format fits,?_,?_⟩
  · rw [List.forall₂_map_right_iff,List.forall₂_same]
    exact fun violation member => ofText_violationText (fits.violations violation member)
  · intro other fitsOther pretty otherPretty same
    have read := ofText_format fits pretty
    rw [same,ofText_format fitsOther otherPretty] at read
    have told := tells other
    rw [Except.ok.inj read] at told
    exact (tells report).unique told

/-- Characters that are escaped, an empty help, which is told, and the greatest numbers. -/
theorem format_tells_escapes :
    let message := "\"\\\n\x01\u00e9\u2028"
    let greatest := 18446744073709551615
    let violation : Violation := ⟨"rule",.error,message,⟨"a\"b",greatest,0⟩,none,[],some ""⟩
    let report := { Report.empty with violations := [violation], infoCount := greatest }
    greatest + 1 = Numeral.bound 64 ∧ Fits report ∧ ∃ value element, Tells report [element] value ∧
      (∀ pretty, Value.ofText ((Output.json pretty).format report) = .ok value) ∧
      (∀ pretty, Value.ofText ((Output.json pretty).violationText violation) = .ok element) ∧
      element.field? "message" = some (.text message) ∧
      element.field? "offset" = some (.natural greatest) ∧
      element.field? "name" = none ∧ element.field? "misspelled" = none ∧
      element.field? "help" = some (.text "") := by
  intro message greatest violation report
  have fits : Fits report := by
    have own : FitsViolation violation := ⟨by decide,by decide⟩
    exact ⟨List.forall_mem_singleton.mpr own,by decide,by decide,by decide,by decide,by decide,
      by decide,by decide,by decide⟩
  obtain ⟨value,_,told,_,read,each,_⟩ := format_tells fits
  obtain _ | ⟨readElement,_ | _⟩ := each
  obtain _ | ⟨tells,_⟩ := told.each
  exact ⟨by decide,fits,value,_,told,read,readElement,tells.message,tells.offset,tells.name,
    tells.misspelled,tells.help⟩

end Orthography.Output.Json
