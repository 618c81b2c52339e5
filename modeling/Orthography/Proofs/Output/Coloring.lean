import Orthography.Proofs.Output.Ansi
import Orthography.Proofs.Output.Grouping
import Orthography.Proofs.Text.Parts

/-! Colored reports. Whatever a report shows, its colors are style sequences put into the text
that is printed without them. -/
namespace Orthography.Output

structure Unescaped (violation : Violation) : Prop where
  file : escape ∉ violation.location.file.toList
  ruleId : escape ∉ violation.ruleId.toList
  message : escape ∉ violation.message.toList
  help : ∀ help ∈ violation.help, escape ∉ help.toList

theorem escape_not_mem_empty : escape ∉ "".toList := by decide +kernel

theorem escape_not_mem_duration (duration : Duration) : escape ∉ duration.text.toList := by
  simp only [Duration.text,String.toList_ofList,List.mem_append,List.mem_cons,List.not_mem_nil,
    or_false,not_or]
  exact ⟨Text.not_mem_toDigits rfl _,by decide,(Nat.digitChar_ne escape rfl).symm,
    (Nat.digitChar_ne escape rfl).symm⟩

namespace TextStyle

def uncolored (style : TextStyle) : TextStyle := { style with colored := false }

variable (style : TextStyle)

theorem styles_paint (inks : List Ink) {text : String} (free : escape ∉ text.toList) :
    Styles (style.paint inks text) (style.uncolored.paint inks text) :=
  Ink.styles_paint style.colored inks free

theorem styles_helpLine {help : String} (free : escape ∉ help.toList) :
    Styles (style.helpLine help) (style.uncolored.helpLine help) := by
  have mark : Styles (style.paint [.blue] "=") (style.uncolored.paint [.blue] "=") :=
    style.styles_paint _ (by decide +kernel)
  have indent : Styles "   " "   " := .refl (by decide +kernel)
  have label : Styles " help: " " help: " := .refl (by decide +kernel)
  have lineEnd : Styles "\n" "\n" := .refl (by decide +kernel)
  exact (((indent.append mark).append label).append (.refl free)).append lineEnd

theorem styles_violationText {violation : Violation} (plain : Unescaped violation) :
    Styles (style.violationText violation) (style.uncolored.violationText violation) := by
  have severity : Styles (style.paint (severityInks violation.severity) violation.severity.name)
      (style.uncolored.paint (severityInks violation.severity) violation.severity.name) :=
    style.styles_paint _ (by cases violation.severity <;> decide +kernel)
  have ruleId := style.styles_paint [.cyan] plain.ruleId
  have file := Styles.refl plain.file
  have offset := Styles.refl (Text.not_mem_toString rfl violation.location.offset)
  have message := Styles.refl plain.message
  have colon : Styles ":" ":" := .refl (by decide +kernel)
  have space : Styles ": " ": " := .refl (by decide +kernel)
  have opened : Styles "[" "[" := .refl (by decide +kernel)
  have closed : Styles "]: " "]: " := .refl (by decide +kernel)
  have lineEnd : Styles "\n" "\n" := .refl (by decide +kernel)
  have line := ((((((((file.append colon).append offset).append space).append severity).append
    opened).append ruleId).append closed).append message).append lineEnd
  have nothing : Styles "" "" := .refl escape_not_mem_empty
  refine line.append ?_
  cases given : violation.help with
  | none => exact nothing
  | some help =>
    change Styles (if style.showHelp then _ else "") (if style.showHelp then _ else "")
    split
    · exact style.styles_helpLine (plain.help help given)
    · exact nothing

theorem styles_groupText {group : Group} (file : escape ∉ group.file.toList)
    (each : ∀ violation ∈ group.violations, Unescaped violation) :
    Styles (style.groupText group) (style.uncolored.groupText group) := by
  have header := style.styles_paint [.underline] file
  have violations := Styles.intercalate_map escape_not_mem_empty
    fun violation member => style.styles_violationText (each violation member)
  have lineEnd : Styles "\n" "\n" := .refl (by decide +kernel)
  exact ((header.append lineEnd).append violations).append lineEnd

theorem escape_not_mem_countNoun (n : Nat) {singular plural : String}
    (one : escape ∉ singular.toList) (many : escape ∉ plural.toList) :
    escape ∉ (countNoun n singular plural).toList := by
  have space : escape ∉ " ".toList := by decide +kernel
  simp only [countNoun,String.toList_append,List.mem_append,not_or]
  refine ⟨⟨Text.not_mem_toString rfl n,space⟩,?_⟩
  split
  · exact one
  · exact many

theorem styles_counter? (ink : Ink) (n : Nat) {singular plural : String}
    (one : escape ∉ singular.toList) (many : escape ∉ plural.toList) :
    Option.Rel Styles (style.counter? ink n singular plural)
      (style.uncolored.counter? ink n singular plural) := by
  unfold counter?
  split
  · exact .none
  · exact .some (style.styles_paint [ink] (escape_not_mem_countNoun n one many))

/-- The list of counters is left out with and without colors, or with neither. -/
theorem styles_counters {texts plainTexts : List String}
    (each : List.Forall₂ Styles texts plainTexts) :
    Styles (if texts.isEmpty then "" else ": " ++ ", ".intercalate texts)
      (if plainTexts.isEmpty then "" else ": " ++ ", ".intercalate plainTexts) := by
  have comma : escape ∉ ", ".toList := by decide +kernel
  have listed := Styles.intercalate comma each
  cases each with
  | nil => exact .refl (by decide +kernel)
  | cons _ _ =>
    have colon : Styles ": " ": " := .refl (by decide +kernel)
    exact colon.append listed

theorem styles_statistics (report : Report) :
    Styles (style.statistics report) (style.uncolored.statistics report) := by
  let counters (style : TextStyle) : List (Option String) :=
    [style.counter? .red report.errorCount "error" "errors",
     style.counter? .yellow report.warningCount "warning" "warnings",
     style.counter? .blue report.infoCount "info" "infos"]
  have errors := style.styles_counter? .red report.errorCount
    (show escape ∉ "error".toList by decide +kernel)
    (show escape ∉ "errors".toList by decide +kernel)
  have warnings := style.styles_counter? .yellow report.warningCount
    (show escape ∉ "warning".toList by decide +kernel)
    (show escape ∉ "warnings".toList by decide +kernel)
  have infos := style.styles_counter? .blue report.infoCount
    (show escape ∉ "info".toList by decide +kernel)
    (show escape ∉ "infos".toList by decide +kernel)
  have each : List.Forall₂ (Option.Rel Styles) (counters style) (counters style.uncolored) :=
    .cons errors (.cons warnings (.cons infos .nil))
  have listed := styles_counters (List.rel_filterMap (fun _ _ same => same) each)
  have files := Styles.refl (escape_not_mem_countNoun report.filesProcessed
    (show escape ∉ "file".toList by decide +kernel)
    (show escape ∉ "files".toList by decide +kernel))
  have declarations := Styles.refl (escape_not_mem_countNoun report.declarationsChecked
    (show escape ∉ "declaration".toList by decide +kernel)
    (show escape ∉ "declarations".toList by decide +kernel))
  have processed : Styles " processed, " " processed, " := .refl (by decide +kernel)
  have checked : Styles " checked" " checked" := .refl (by decide +kernel)
  have lineEnd : Styles "\n" "\n" := .refl (by decide +kernel)
  have finished : Styles "Finished in " "Finished in " := .refl (by decide +kernel)
  have seconds := Styles.refl (escape_not_mem_duration report.duration)
  have last : Styles "s\n" "s\n" := .refl (by decide +kernel)
  exact (((((((files.append processed).append declarations).append checked).append listed).append
    lineEnd).append finished).append seconds).append last

theorem styles_format {report : Report} (plain : ∀ v ∈ report.violations, Unescaped v) :
    Styles (style.format report) (style.uncolored.format report) := by
  have grouped := grouped_groups report.violations
  have groups : ∀ group ∈ groups report.violations,
      Styles (style.groupText group) (style.uncolored.groupText group) := by
    intro group member
    have inside : ∀ v ∈ group.violations, Unescaped v := by
      intro v among
      rw [grouped.all group member,mem_inPath] at among
      exact plain v among.1
    obtain ⟨first,found,file⟩ := Option.map_eq_some_iff.mp (grouped.first group member)
    exact style.styles_groupText (file ▸ (inside first (List.mem_of_mem_head? found)).file) inside
  have text := Styles.intercalate_map escape_not_mem_empty groups
  refine text.append ?_
  change Styles (if style.showStatistics then _ else "") (if style.showStatistics then _ else "")
  split
  · exact style.styles_statistics report
  · exact .refl escape_not_mem_empty

/-- A report that shows no escape characters is, once its colors are erased, what it is without
colors, and so is each of its violations. Without colors nothing has an escape character. -/
theorem unstyled_format {report : Report} (plain : ∀ v ∈ report.violations, Unescaped v)
    (showHelp showStatistics : Bool) :
    let colored := Output.text ⟨true,showHelp,showStatistics⟩
    let uncolored := Output.text ⟨false,showHelp,showStatistics⟩
    String.ofList (unstyled (colored.format report).toList) = uncolored.format report ∧
      escape ∉ (uncolored.format report).toList ∧
      ∀ v ∈ report.violations,
        String.ofList (unstyled (colored.violationText v).toList) = uncolored.violationText v ∧
          escape ∉ (uncolored.violationText v).toList := by
  intro colored uncolored
  have whole := styles_format ⟨true,showHelp,showStatistics⟩ plain
  refine ⟨whole.unstyled_eq,whole.free,fun v member => ?_⟩
  have one := styles_violationText ⟨true,showHelp,showStatistics⟩ (plain v member)
  exact ⟨one.unstyled_eq,one.free⟩

theorem unstyled_format_warning :
    let violation : Violation := ⟨"spelling",.warning,"odd word",⟨"a.yaml",4,3⟩,some "fooBarr",
      ["Barr"],some "fix it"⟩
    let report := Report.empty.push violation
    (∀ v ∈ report.violations, Unescaped v) ∧
      String.ofList (unstyled ((Output.text ⟨true,true,true⟩).format report).toList) =
        (Output.text ⟨false,true,true⟩).format report := by
  intro violation report
  have plain : ∀ v ∈ report.violations, Unescaped v := by
    intro v member
    obtain rfl := List.mem_singleton.mp member
    exact ⟨by decide +kernel,by decide +kernel,by decide +kernel,by
      rintro help ⟨⟩; decide +kernel⟩
  exact ⟨plain,(unstyled_format plain true true).1⟩

end TextStyle
end Orthography.Output
