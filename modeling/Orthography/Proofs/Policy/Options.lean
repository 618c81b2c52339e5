import Orthography.Policy

/-! The severity that options make. No option can make it a remark. -/
namespace Orthography.Policy

def entrySeverity? (entry : Untyped × Untyped) : Option Severity :=
  if entry.1.text? = some "severity" then severity? entry.2 else none

/-- The severity that options name; the last one, if they name several. -/
def severityOption? : Untyped → Option Severity
  | .mapping entries => (entries.filterMap entrySeverity?).getLast?
  | _ => none

theorem severity?_ne_info {value : Untyped} : severity? value ≠ some .info := by
  simp [severity?,Option.filter_eq_some_iff]

theorem severityOption?_ne_info (options : Untyped) : severityOption? options ≠ some .info := by
  unfold severityOption?
  split
  · intro last
    obtain ⟨entry,_,named⟩ := List.mem_filterMap.mp (List.mem_of_getLast? last)
    unfold entrySeverity? at named
    split at named
    · exact severity?_ne_info named
    · cases named
  · simp

theorem severity_set? {policy later : Policy} {value : Untyped} {setting : Setting}
    (taken : policy.set? value setting = some later) :
    later.severity =
      (if setting = .severity then severity? value else none).getD policy.severity := by
  cases setting <;> simp only [set?,Option.map_eq_some_iff] at taken <;>
    obtain ⟨part,named,rfl⟩ := taken <;>
    simp [named,withLanguage,withMinLength,withExcluded,withSeverity,withCheckTypes]

theorem Setting.eq_name_of_ofName? {name : String} {setting : Setting}
    (known : ofName? name = some setting) : name = setting.name := by
  unfold ofName? at known
  split at known <;> cases known <;> rfl

theorem Setting.name_eq_severity {setting : Setting} :
    setting.name = "severity" ↔ setting = .severity := by
  cases setting <;> decide

/-- An entry is taken if its key names a setting that takes its value. -/
theorem exists_set?_of_setEntry {policy later : Policy} {entry : Untyped × Untyped}
    (taken : policy.setEntry entry = .ok later) : ∃ setting : Setting,
      entry.1.text? = some setting.name ∧ policy.set? entry.2 setting = some later := by
  unfold setEntry at taken
  split at taken
  next => cases taken
  next name text =>
    split at taken
    next => cases taken
    next setting known =>
      split at taken
      next own set =>
        rw [Setting.eq_name_of_ofName? known] at text
        exact ⟨setting,text,Except.ok.inj taken ▸ set⟩
      next => cases taken

theorem severity_setEntry {policy later : Policy} {entry : Untyped × Untyped}
    (taken : policy.setEntry entry = .ok later) :
    later.severity = (entrySeverity? entry).getD policy.severity := by
  obtain ⟨setting,text,set⟩ := exists_set?_of_setEntry taken
  rw [severity_set? set,entrySeverity?,text]
  simp only [Option.some.injEq,Setting.name_eq_severity]

theorem foldlM_setEntry_cons {policy later : Policy} {entry : Untyped × Untyped}
    {entries : List (Untyped × Untyped)} : (entry :: entries).foldlM setEntry policy = .ok later ↔
      ∃ between, policy.setEntry entry = .ok between ∧ entries.foldlM setEntry between = .ok later := by
  rw [List.foldlM_cons]
  cases policy.setEntry entry <;> simp [bind,Except.bind]

theorem severity_foldlM_setEntry {policy later : Policy} {entries : List (Untyped × Untyped)}
    (taken : entries.foldlM setEntry policy = .ok later) :
    later.severity = (entries.filterMap entrySeverity?).getLast?.getD policy.severity := by
  induction entries generalizing policy with
  | nil =>
    obtain rfl := Except.ok.inj taken
    rfl
  | cons entry rest ih =>
    obtain ⟨between,first,others⟩ := foldlM_setEntry_cons.mp taken
    -- a severity that the entry names counts if none is named behind it
    rw [ih others,severity_setEntry first,List.filterMap_cons]
    cases entrySeverity? entry <;> simp [List.getLast?_cons]

/-- The severity is the one that the options name, else a warning. -/
theorem severity_ofOptions {options : Untyped} {policy : Policy}
    (made : ofOptions options = .ok policy) :
    policy.severity = (severityOption? options).getD .warning := by
  cases options with
  | null =>
    obtain rfl := Except.ok.inj made
    rfl
  | mapping entries => exact severity_foldlM_setEntry made
  | _ => cases made

theorem excluded_setEntry {policy later : Policy} {entry : Untyped × Untyped}
    (sorted : policy.excluded.Pairwise (· < ·)) (taken : policy.setEntry entry = .ok later) :
    later.excluded.Pairwise (· < ·) := by
  obtain ⟨setting,-,set⟩ := exists_set?_of_setEntry taken
  cases setting <;> simp only [set?,Option.map_eq_some_iff] at set <;>
    obtain ⟨part,-,rfl⟩ := set
  case excluded => exact Text.pairwise_insertWords .nil _
  all_goals exact sorted

theorem excluded_foldlM_setEntry {policy later : Policy} {entries : List (Untyped × Untyped)}
    (sorted : policy.excluded.Pairwise (· < ·))
    (taken : entries.foldlM setEntry policy = .ok later) : later.excluded.Pairwise (· < ·) := by
  induction entries generalizing policy with
  | nil => exact Except.ok.inj taken ▸ sorted
  | cons entry rest ih =>
    obtain ⟨between,first,others⟩ := foldlM_setEntry_cons.mp taken
    exact ih (excluded_setEntry sorted first) others

/-- The words that options exclude come in order, each of them once. -/
theorem excluded_ofOptions {options : Untyped} {policy : Policy}
    (made : ofOptions options = .ok policy) : policy.excluded.Pairwise (· < ·) := by
  have default : default.excluded.Pairwise (· < ·) := .nil
  cases options with
  | null => exact Except.ok.inj made ▸ default
  | mapping entries => exact excluded_foldlM_setEntry default made
  | _ => cases made

end Orthography.Policy
