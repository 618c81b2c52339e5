import Mathlib.Data.List.Sort
import Orthography.Proofs.Policy.Options
import Orthography.Proofs.Untyped

/-! Options as they are documented. Each documented entry makes one choice, choices for different
settings do not meet, and the first entry that is not documented decides the fault. -/
namespace Orthography

namespace Severity

theorem ofWord?_eq_warning {word : String} :
    ofWord? word = some .warning ↔ Text.lower word = "warning" ∨ Text.lower word = "warn" := by
  unfold ofWord?
  split <;> simp_all

theorem ofWord?_eq_error {word : String} :
    ofWord? word = some .error ↔ Text.lower word = "error" ∨ Text.lower word = "err" := by
  unfold ofWord?
  split <;> simp_all

end Severity

namespace Policy

inductive Choice
  | language (language : String)
  | minLength (minLength : Nat)
  | excluded (words : List String)
  | severity (severity : Severity)
  | checkTypes (checkTypes : Bool)

/-- The values that a setting is documented to take, with the choice that each makes. -/
inductive Takes : Setting → Untyped → Choice → Prop
  | language {text : String} (shows : Text.allBlank text.toList = false) :
    Takes .language (.text text) (.language text)
  | minLength {n : Nat} (fits : n < Numeral.bound 64) : Takes .minLength (.integer n) (.minLength n)
  | word {word : String} : Takes .excluded (.text word) (.excluded [word])
  | words {words : List String} : Takes .excluded (.list (words.map .text)) (.excluded words)
  | warning {text : String} (named : Text.lower text = "warning" ∨ Text.lower text = "warn") :
    Takes .severity (.text text) (.severity .warning)
  | error {text : String} (named : Text.lower text = "error" ∨ Text.lower text = "err") :
    Takes .severity (.text text) (.severity .error)
  | checkTypes {truth : Bool} : Takes .checkTypes (.bool truth) (.checkTypes truth)

def Documented (entry : Untyped × Untyped) (choice : Choice) : Prop :=
  ∃ setting : Setting, entry.1 = .text setting.name ∧ Takes setting entry.2 choice

/-- What is said of an option whose value is not taken, and of a name that is no option. -/
def complaintOn : String → String
  | "language" => "identifier_spelling.language must be a non-empty string"
  | "min_length" => "identifier_spelling.min_length must be a non-negative integer"
  | "excluded" => "identifier_spelling.excluded must be a string or a list of strings"
  | "severity" => "identifier_spelling.severity must be warning or error"
  | "check_types" => "identifier_spelling.check_types must be a boolean"
  | name => "Unknown identifier_spelling option: " ++ name

def complaint (entry : Untyped × Untyped) : String :=
  match entry.1 with
  | .text name => complaintOn name
  | _ => "option names must be strings"

def Has (policy : Policy) : Choice → Prop
  | .language text => policy.language = text
  | .minLength n => policy.minLength = n
  | .excluded words => ∀ word, word ∈ policy.excluded ↔ word ∈ words.map Text.lower
  | .severity grade => policy.severity = grade
  | .checkTypes truth => policy.checkTypes = truth

namespace Choice

def setting : Choice → Setting
  | language _ => .language
  | minLength _ => .minLength
  | excluded _ => .excluded
  | severity _ => .severity
  | checkTypes _ => .checkTypes

def apply (policy : Policy) : Choice → Policy
  | language text => policy.withLanguage text
  | minLength n => policy.withMinLength n
  | excluded words => { policy with excluded := [] }.withExcluded words
  | severity grade => policy.withSeverity grade
  | checkTypes truth => policy.withCheckTypes truth

end Choice

/-- What holds of a setting that no option names. -/
def Setting.standard : Setting → Choice
  | .language => .language "en"
  | .minLength => .minLength 4
  | .excluded => .excluded []
  | .severity => .severity .warning
  | .checkTypes => .checkTypes true

theorem language?_eq_some_iff {value : Untyped} {text : String} (plain : value.isUntagged = true) :
    language? value = some text ↔ Takes .language value (.language text) := by
  simp only [language?,Option.filter_eq_some_iff,Untyped.text?_eq_some plain]
  constructor
  · rintro ⟨rfl,shows⟩
    exact .language (by simpa using shows)
  · rintro ⟨shows⟩
    exact ⟨rfl,by simpa using shows⟩

theorem length?_eq_some_iff {value : Untyped} {n : Nat} (plain : value.isUntagged = true) :
    length? value = some n ↔ Takes .minLength value (.minLength n) := by
  simp only [length?,Option.filter_eq_some_iff,Untyped.natural?_eq_some plain,decide_eq_true_eq]
  constructor
  · rintro ⟨rfl,fits⟩
    exact .minLength fits
  · intro taken
    cases taken with
    | minLength fits => exact ⟨rfl,fits⟩

theorem words?_eq_some_iff {value : Untyped} {words : List String}
    (plain : value.isUntagged = true) :
    words? value = some words ↔ Takes .excluded value (.excluded words) := by
  constructor
  · intro read
    unfold words? at read
    split at read
    next word =>
      obtain rfl := Option.some.inj read
      exact .word
    next items =>
      rw [Untyped.mapM_text?_eq_some (Untyped.isUntagged_of_mem_items plain)] at read
      exact read ▸ .words
    next => cases read
  · intro taken
    cases taken with
    | word => rfl
    | words => exact (Untyped.mapM_text?_eq_some (Untyped.isUntagged_of_mem_items plain)).mpr rfl

theorem severity?_eq_some_iff {value : Untyped} {grade : Severity}
    (plain : value.isUntagged = true) :
    severity? value = some grade ↔ Takes .severity value (.severity grade) := by
  simp only [severity?,Option.filter_eq_some_iff,Option.bind_eq_some_iff,
    Untyped.text?_eq_some plain,decide_eq_true_eq]
  constructor
  · rintro ⟨⟨text,rfl,named⟩,grave⟩
    cases grade with
    | info => contradiction
    | warning => exact .warning (Severity.ofWord?_eq_warning.mp named)
    | error => exact .error (Severity.ofWord?_eq_error.mp named)
  · intro taken
    cases taken with
    | warning named => exact ⟨⟨_,rfl,Severity.ofWord?_eq_warning.mpr named⟩,by decide⟩
    | error named => exact ⟨⟨_,rfl,Severity.ofWord?_eq_error.mpr named⟩,by decide⟩

theorem bool?_eq_some_iff {value : Untyped} {truth : Bool} (plain : value.isUntagged = true) :
    value.bool? = some truth ↔ Takes .checkTypes value (.checkTypes truth) := by
  rw [Untyped.bool?_eq_some plain]
  constructor
  · rintro rfl
    exact .checkTypes
  · rintro ⟨⟩
    rfl

theorem Takes.setting_eq {setting : Setting} {value : Untyped} {choice : Choice}
    (taken : Takes setting value choice) : choice.setting = setting := by
  cases taken <;> rfl

theorem set?_eq_some_iff (policy : Policy) {later : Policy} {value : Untyped}
    (plain : value.isUntagged = true) (setting : Setting) :
    policy.set? value setting = some later ↔
      ∃ choice, Takes setting value choice ∧ choice.apply policy = later := by
  -- a setting takes only choices of its own, so what is read there is the choice
  constructor
  · intro set
    cases setting <;> obtain ⟨item,read,rfl⟩ := Option.map_eq_some_iff.mp set
    case language => exact ⟨.language item,(language?_eq_some_iff plain).mp read,rfl⟩
    case minLength => exact ⟨.minLength item,(length?_eq_some_iff plain).mp read,rfl⟩
    case excluded => exact ⟨.excluded item,(words?_eq_some_iff plain).mp read,rfl⟩
    case severity => exact ⟨.severity item,(severity?_eq_some_iff plain).mp read,rfl⟩
    case checkTypes => exact ⟨.checkTypes item,(bool?_eq_some_iff plain).mp read,rfl⟩
  · rintro ⟨choice,taken,rfl⟩
    obtain rfl := taken.setting_eq
    cases choice <;> apply Option.map_eq_some_iff.mpr
    case language text => exact ⟨text,(language?_eq_some_iff plain).mpr taken,rfl⟩
    case minLength n => exact ⟨n,(length?_eq_some_iff plain).mpr taken,rfl⟩
    case excluded words => exact ⟨words,(words?_eq_some_iff plain).mpr taken,rfl⟩
    case severity grade => exact ⟨grade,(severity?_eq_some_iff plain).mpr taken,rfl⟩
    case checkTypes truth => exact ⟨truth,(bool?_eq_some_iff plain).mpr taken,rfl⟩

theorem Setting.name_injective {setting other : Setting} (same : setting.name = other.name) :
    setting = other := by
  rw [← Option.some.injEq,← ofName?_name setting,same,ofName?_name]

theorem has_apply (policy : Policy) (choice : Choice) : (choice.apply policy).Has choice := by
  cases choice with
  | excluded words => simp [Has,Choice.apply,withExcluded]
  | _ => rfl

/-- A choice for one setting does not touch the others. -/
theorem Has.apply {policy : Policy} {choice other : Choice} (has : policy.Has other)
    (apart : choice.setting ≠ other.setting) : (choice.apply policy).Has other := by
  cases choice <;> cases other <;> first
    | exact has
    | exact absurd rfl apart

@[simp] theorem complaint_text (name : String) (value : Untyped) :
    complaint (.text name,value) = complaintOn name := rfl

theorem complaintOn_name (setting : Setting) :
    complaintOn setting.name = (Fault.wrongValue setting).message := by
  cases setting <;> rfl

theorem complaintOn_of_unknown {name : String} (unknown : Setting.ofName? name = none) :
    complaintOn name = (Fault.unknownOption name).message := by
  unfold complaintOn
  split
  case h_6 => rfl
  all_goals cases unknown

theorem complaint_of_not_text {key : Untyped} (noText : key.text? = none) (value : Untyped) :
    complaint (key,value) = Fault.nameNoText.message := by
  cases key with
  | text name => cases noText
  | _ => rfl

def Plain (entry : Untyped × Untyped) : Prop :=
  entry.1.isUntagged = true ∧ entry.2.isUntagged = true

section Entry

variable {entry : Untyped × Untyped} (plain : Plain entry) (policy : Policy)

include plain

theorem setEntry_of_documented {choice : Choice} (documented : Documented entry choice) :
    policy.setEntry entry = .ok (choice.apply policy) := by
  obtain ⟨setting,key,taken⟩ := documented
  have set := (set?_eq_some_iff policy plain.2 setting).mpr ⟨choice,taken,rfl⟩
  simp [setEntry,key,Untyped.text?,Untyped.untag,set]

theorem setEntry_of_undocumented (undocumented : ¬∃ choice, Documented entry choice) :
    (policy.setEntry entry).mapError Fault.message = .error (complaint entry) := by
  obtain ⟨key,value⟩ := entry
  unfold setEntry
  split
  next noText => rw [complaint_of_not_text noText]; rfl
  next name text =>
    obtain rfl : key = .text name := (Untyped.text?_eq_some plain.1).mp text
    split
    next unknown => rw [complaint_text,complaintOn_of_unknown unknown]; rfl
    next setting known =>
      obtain rfl := Setting.eq_name_of_ofName? known
      split
      next later set =>
        obtain ⟨choice,taken,-⟩ := (set?_eq_some_iff policy plain.2 setting).mp set
        exact absurd ⟨choice,setting,rfl,taken⟩ undocumented
      next => rw [complaint_text,complaintOn_name]; rfl

theorem exists_choice_of_setEntry {later : Policy} (taken : policy.setEntry entry = .ok later) :
    ∃ choice, Documented entry choice ∧ later = choice.apply policy := by
  obtain ⟨setting,text,set⟩ := exists_set?_of_setEntry taken
  obtain ⟨choice,own,applied⟩ := (set?_eq_some_iff policy plain.2 setting).mp set
  exact ⟨choice,⟨setting,(Untyped.text?_eq_some plain.1).mp text,own⟩,applied.symm⟩

end Entry

section Entries

variable {entries : List (Untyped × Untyped)} (plain : ∀ entry ∈ entries, Plain entry)

include plain

theorem exists_foldlM_setEntry (documented : ∀ entry ∈ entries, ∃ choice, Documented entry choice)
    (policy : Policy) : ∃ later, entries.foldlM setEntry policy = .ok later := by
  induction entries generalizing policy with
  | nil => exact ⟨policy,rfl⟩
  | cons entry rest ih =>
    rw [List.forall_mem_cons] at plain documented
    obtain ⟨choice,first⟩ := documented.1
    obtain ⟨later,others⟩ := ih plain.2 documented.2 (choice.apply policy)
    have own := setEntry_of_documented plain.1 policy first
    exact ⟨later,foldlM_setEntry_cons.mpr ⟨_,own,others⟩⟩

variable {policy later : Policy}

theorem documented_of_foldlM_setEntry (made : entries.foldlM setEntry policy = .ok later) :
    ∀ entry ∈ entries, ∃ choice, Documented entry choice := by
  induction entries generalizing policy with
  | nil => simp
  | cons entry rest ih =>
    rw [List.forall_mem_cons] at plain ⊢
    obtain ⟨between,first,others⟩ := foldlM_setEntry_cons.mp made
    obtain ⟨choice,own,-⟩ := exists_choice_of_setEntry plain.1 policy first
    exact ⟨⟨choice,own⟩,ih plain.2 others⟩

/-- What no option names stays as it was. -/
theorem has_of_not_named {choice : Choice} (has : policy.Has choice)
    (unnamed : ∀ value, (.text choice.setting.name,value) ∉ entries)
    (made : entries.foldlM setEntry policy = .ok later) : later.Has choice := by
  induction entries generalizing policy with
  | nil => exact Except.ok.inj made ▸ has
  | cons entry rest ih =>
    rw [List.forall_mem_cons] at plain
    obtain ⟨between,first,others⟩ := foldlM_setEntry_cons.mp made
    obtain ⟨own,⟨setting,key,taken⟩,rfl⟩ := exists_choice_of_setEntry plain.1 policy first
    have apart : own.setting ≠ choice.setting := by
      intro same
      rw [← taken.setting_eq,same] at key
      exact unnamed entry.2 (by rw [← key]; exact List.mem_cons_self)
    exact ih plain.2 (has.apply apart)
      (fun value member => unnamed value (List.mem_cons_of_mem _ member)) others

/-- Each option is what the policy has, as no other one has its name. -/
theorem has_of_documented (apart : Untyped.KeysApart entries)
    (made : entries.foldlM setEntry policy = .ok later) :
    ∀ entry ∈ entries, ∀ choice, Documented entry choice → later.Has choice := by
  induction entries generalizing policy with
  | nil => simp
  | cons entry rest ih =>
    obtain ⟨differs,others⟩ := List.pairwise_cons.mp apart
    rw [List.forall_mem_cons] at plain ⊢
    obtain ⟨between,first,behind⟩ := foldlM_setEntry_cons.mp made
    refine ⟨fun choice documented => ?_,ih plain.2 others behind⟩
    rw [setEntry_of_documented plain.1 policy documented] at first
    obtain rfl := Except.ok.inj first
    obtain ⟨setting,key,taken⟩ := documented
    apply has_of_not_named plain.2 (has_apply policy choice) _ behind
    intro value member
    have same := differs _ member
    rw [key,taken.setting_eq,Untyped.same] at same
    simp at same

end Entries

/-- A policy that has what options give, and the standard of what none gives. -/
structure Follows (entries : List (Untyped × Untyped)) (policy : Policy) : Prop where
  given : ∀ entry ∈ entries, ∀ choice, Documented entry choice → policy.Has choice
  standard : ∀ setting : Setting, (∀ value, (.text setting.name,value) ∉ entries) →
    policy.Has setting.standard

theorem default_has_standard (setting : Setting) : default.Has setting.standard := by
  cases setting with
  | excluded => simp [Has,Setting.standard,default]
  | _ => rfl

theorem Setting.setting_standard (setting : Setting) : setting.standard.setting = setting := by
  cases setting <;> rfl

section Follows

variable {entries other : List (Untyped × Untyped)} {policy later : Policy}

theorem follows_of_foldlM_setEntry (plain : ∀ entry ∈ entries, Plain entry)
    (apart : Untyped.KeysApart entries) (made : entries.foldlM setEntry default = .ok policy) :
    Follows entries policy := by
  refine ⟨has_of_documented plain apart made,fun setting unnamed => ?_⟩
  apply has_of_not_named plain (default_has_standard setting) _ made
  rw [setting.setting_standard]
  exact unnamed

theorem Follows.perm (follows : Follows entries policy) (same : entries.Perm other) :
    Follows other policy :=
  ⟨fun entry member => follows.given entry (same.mem_iff.mpr member),fun setting unnamed =>
    follows.standard setting fun value member => unnamed value (same.mem_iff.mp member)⟩

variable (documented : ∀ entry ∈ entries, ∃ choice, Documented entry choice)

include documented

/-- Options leave no setting open. -/
theorem exists_has (setting : Setting) :
    ∃ choice, choice.setting = setting ∧
      (choice = setting.standard ∨ ∃ value, Takes setting value choice) ∧
      ∀ policy, Follows entries policy → policy.Has choice := by
  by_cases named : ∃ value, (.text setting.name,value) ∈ entries
  · obtain ⟨value,member⟩ := named
    obtain ⟨choice,own,key,taken⟩ := documented _ member
    obtain rfl := Setting.name_injective (Untyped.text.inj key)
    exact ⟨choice,taken.setting_eq,.inr ⟨value,taken⟩,fun policy follows =>
      follows.given _ member choice ⟨setting,key,taken⟩⟩
  · rw [not_exists] at named
    exact ⟨_,setting.setting_standard,.inl rfl,fun policy follows => follows.standard setting named⟩

theorem Follows.severity_ne_info (follows : Follows entries policy) : policy.severity ≠ .info := by
  obtain ⟨choice,-,origin,has⟩ := exists_has documented .severity
  have own := has policy follows
  rcases origin with rfl | ⟨value,taken⟩
  · simp_all [Has,Setting.standard]
  · cases taken <;> simp_all [Has]

theorem Follows.language_shows (follows : Follows entries policy) :
    Text.allBlank policy.language.toList = false := by
  obtain ⟨choice,-,origin,has⟩ := exists_has documented .language
  have own := has policy follows
  rcases origin with rfl | ⟨value,taken⟩
  · rw [show policy.language = "en" from own]
    decide +kernel
  · cases taken with
    | language shows => rw [show policy.language = _ from own]; exact shows

theorem Follows.unique (follows : Follows entries policy) (also : Follows entries later)
    (sorted : policy.excluded.Pairwise (· < ·)) (laterSorted : later.excluded.Pairwise (· < ·)) :
    policy = later := by
  have both (setting : Setting) :
      ∃ choice, choice.setting = setting ∧ policy.Has choice ∧ later.Has choice := by
    obtain ⟨choice,kind,-,has⟩ := exists_has documented setting
    exact ⟨choice,kind,has policy follows,has later also⟩
  have language : policy.language = later.language := by
    obtain ⟨choice,kind,own,other⟩ := both .language
    cases choice <;> cases kind
    exact own.trans other.symm
  have minLength : policy.minLength = later.minLength := by
    obtain ⟨choice,kind,own,other⟩ := both .minLength
    cases choice <;> cases kind
    exact own.trans other.symm
  have excluded : policy.excluded = later.excluded := by
    obtain ⟨choice,kind,own,other⟩ := both .excluded
    cases choice <;> cases kind
    exact sorted.eq_of_mem_iff laterSorted fun word => (own word).trans (other word).symm
  have severity : policy.severity = later.severity := by
    obtain ⟨choice,kind,own,other⟩ := both .severity
    cases choice <;> cases kind
    exact own.trans other.symm
  have checkTypes : policy.checkTypes = later.checkTypes := by
    obtain ⟨choice,kind,own,other⟩ := both .checkTypes
    cases choice <;> cases kind
    exact own.trans other.symm
  cases policy
  cases later
  simp_all

theorem keysApart_iff :
    Untyped.KeysApart entries ↔ entries.Pairwise fun entry other => entry.1 ≠ other.1 := by
  apply List.Pairwise.iff_of_mem
  intro entry other member otherMember
  obtain ⟨_,setting,key,-⟩ := documented entry member
  obtain ⟨_,otherSetting,otherKey,-⟩ := documented other otherMember
  simp [key,otherKey,Untyped.same]

theorem keysApart_perm (apart : Untyped.KeysApart entries) (same : entries.Perm other) :
    Untyped.KeysApart other := by
  rw [keysApart_iff documented,same.pairwise_iff Ne.symm] at apart
  rwa [keysApart_iff fun entry member => documented entry (same.mem_iff.mpr member)]

end Follows

theorem plain_of_untagged {options : Untyped} (untagged : options.isUntagged = true) :
    ∀ entry ∈ options.entries, Plain entry := by
  cases options with
  | mapping entries => exact Untyped.isUntagged_of_mem_entries untagged
  | _ => simp [Untyped.entries]

theorem foldlM_of_ofOptions {options : Untyped} {policy : Policy}
    (made : ofOptions options = .ok policy) :
    (options = .null ∨ ∃ entries, options = .mapping entries) ∧
      options.entries.foldlM setEntry default = .ok policy := by
  cases options with
  | null => exact ⟨.inl rfl,made⟩
  | mapping entries => exact ⟨.inr ⟨entries,rfl⟩,made⟩
  | _ => cases made

/-- Of options without tags those are accepted that are documented, each entry by itself. What they
make is given by the entries and the standard, whatever their order; and the first entry that is
not documented decides what is said, whatever is behind it. -/
theorem ofOptions_documented {options : Untyped} (untagged : options.isUntagged = true) :
    ((∃ policy, ofOptions options = .ok policy) ↔ options = .null ∨
      ∃ entries, options = .mapping entries ∧
        ∀ entry ∈ entries, ∃ choice, Documented entry choice) ∧
    (∀ policy, Untyped.KeysApart options.entries → ofOptions options = .ok policy →
      Follows options.entries policy ∧ policy.excluded.Pairwise (· < ·) ∧
      policy.severity ≠ .info ∧ Text.allBlank policy.language.toList = false ∧
      ∀ entries, options.entries.Perm entries → ofOptions (.mapping entries) = .ok policy) ∧
    (∀ before bad after, options = .mapping (before ++ bad :: after) →
      (∀ entry ∈ before, ∃ choice, Documented entry choice) →
      (¬∃ choice, Documented bad choice) →
      (ofOptions options).mapError Fault.message = .error (complaint bad)) := by
  have plain := plain_of_untagged untagged
  refine ⟨?accepted,?made,?refused⟩
  case accepted =>
    constructor
    · rintro ⟨policy,made⟩
      obtain ⟨null | ⟨entries,rfl⟩,taken⟩ := foldlM_of_ofOptions made
      · exact .inl null
      · exact .inr ⟨entries,rfl,documented_of_foldlM_setEntry plain taken⟩
    · rintro (rfl | ⟨entries,rfl,documented⟩)
      · exact ⟨default,rfl⟩
      · exact exists_foldlM_setEntry plain documented default
  case made =>
    intro policy apart made
    obtain ⟨-,taken⟩ := foldlM_of_ofOptions made
    have documented := documented_of_foldlM_setEntry plain taken
    have follows := follows_of_foldlM_setEntry plain apart taken
    have sorted := excluded_ofOptions made
    refine ⟨follows,sorted,follows.severity_ne_info documented,follows.language_shows documented,?_⟩
    intro entries same
    have otherPlain : ∀ entry ∈ entries, Plain entry := fun entry member =>
      plain entry (same.mem_iff.mpr member)
    have otherDocumented : ∀ entry ∈ entries, ∃ choice, Documented entry choice :=
      fun entry member => documented entry (same.mem_iff.mpr member)
    -- the policy of another order has what these options give too, and no other one has
    obtain ⟨later,again⟩ := exists_foldlM_setEntry otherPlain otherDocumented default
    have alike := follows_of_foldlM_setEntry otherPlain (keysApart_perm documented apart same) again
    have remade : ofOptions (.mapping entries) = .ok later := again
    obtain rfl := (follows.perm same).unique otherDocumented alike sorted (excluded_ofOptions remade)
    exact remade
  case refused =>
    rintro before bad after rfl documented undocumented
    simp only [Untyped.entries,List.forall_mem_append,List.forall_mem_cons] at plain
    obtain ⟨between,first⟩ := exists_foldlM_setEntry plain.1 documented default
    have refused := setEntry_of_undocumented plain.2.1 between undocumented
    cases result : between.setEntry bad with
    | ok later => rw [result] at refused; cases refused
    | error fault =>
      rw [result] at refused
      rw [← refused]
      simp [ofOptions,List.foldlM_append,first,result,bind,Except.bind]

/-- Good options in two orders, and bad ones of which only the first is told. -/
theorem ofOptions_reversed :
    let good : List (Untyped × Untyped) := [(.text "severity",.text "WARN"),
      (.text "excluded",.list [.text "SDK",.text "Garp",.text "sdk"]),(.text "min_length",.integer 0)]
    let bad : List (Untyped × Untyped) := [(.text "check_types",.bool false),
      (.text "severity",.text "info"),(.integer 1,.null)]
    let policy : Policy := ⟨"en",0,["garp","sdk"],.warning,true⟩
    (Untyped.mapping good).isUntagged = true ∧ Untyped.KeysApart good ∧
      ofOptions (.mapping good) = .ok policy ∧ ofOptions (.mapping good.reverse) = .ok policy ∧
      (Untyped.mapping bad).isUntagged = true ∧
      (∀ choice, ¬Documented (.text "severity",.text "info") choice) ∧
      (ofOptions (.mapping bad)).mapError Fault.message =
        .error "identifier_spelling.severity must be warning or error" := by
  intro good bad policy
  have untagged : (Untyped.mapping good).isUntagged = true := by decide
  have badUntagged : (Untyped.mapping bad).isUntagged = true := by decide
  have apart : Untyped.KeysApart good := by simp [Untyped.KeysApart,good,Untyped.same]
  have made : ofOptions (.mapping good) = .ok policy := by rfl
  have noRemark : ∀ choice, ¬Documented (.text "severity",.text "info") choice := by
    rintro choice ⟨setting,key,taken⟩
    obtain rfl : setting = .severity := Setting.name_injective (Untyped.text.inj key).symm
    have lower : Text.lower "info" = "info" := by decide +kernel
    cases taken with
    | warning named => simp [lower] at named
    | error named => simp [lower] at named
  have first : ∃ choice, Documented (.text "check_types",.bool false) choice :=
    ⟨.checkTypes false,.checkTypes,rfl,.checkTypes⟩
  refine ⟨untagged,apart,made,?_,badUntagged,noRemark,?_⟩
  · obtain ⟨-,-,-,-,reordered⟩ := (ofOptions_documented untagged).2.1 policy apart made
    exact reordered _ (List.reverse_perm good).symm
  · exact (ofOptions_documented badUntagged).2.2 [(.text "check_types",.bool false)] _
      [(.integer 1,.null)] rfl (by simpa using first) (by simpa using noRemark)

end Policy
end Orthography
