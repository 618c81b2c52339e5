import Orthography.Proofs.Verdict.Tightening

/-! Acting on a report. Both ways of taking its words, as words to leave out and as words of the
language, compare them in the form in which they are looked up, so one round silences the name. -/
namespace Orthography

namespace Policy

theorem Tightens.refl (policy : Policy) : policy.Tightens policy :=
  ⟨rfl,fun _ member => member,Nat.le_refl _,id⟩

theorem withExcluded_tightens (policy : Policy) (words : List String) :
    (policy.withExcluded words).Tightens policy :=
  ⟨rfl,fun _ member => Text.mem_insertWords.mpr (.inr member),Nat.le_refl _,id⟩

theorem isExcluded_withExcluded (policy : Policy) {word : String} {words : List String}
    (member : word ∈ words) : (policy.withExcluded words).isExcluded word = true :=
  List.contains_iff_mem.mpr (Text.mem_insertWords.mpr (.inl (List.mem_map_of_mem member)))

end Policy

namespace Verdict

/-- Nothing is said of a name, wherever it stands, for none of its words is lacking. -/
structure Silent (lexicon : Lexicon) (policy : Policy) (kind : Declaration.Kind) (name : String) :
    Prop where
  verdict : ∀ position, evaluate lexicon.isUnknown policy kind name position = .ok none
  words : ∀ word ∈ checkedWords policy kind name, lexicon.lacks policy.language word = false

theorem silent_of_misspelled {lexicon : Lexicon} {policy : Policy}
    (known : lexicon.knows policy.language = true) {kind : Declaration.Kind} {name : String}
    (nothing : misspelled lexicon policy kind name = []) : Silent lexicon policy kind name := by
  constructor
  case verdict =>
    intro position
    rw [evaluate_eq_found known,found,nothing]
    split <;> rfl
  case words =>
    intro word member
    simpa using List.filter_eq_nil_iff.mp nothing word member

section Silence

variable (lexicon : Lexicon) (policy : Policy) (kind : Declaration.Kind) (name : String)

/-- Words that are left out are not looked up any more, and no other word becomes lacking. -/
theorem misspelled_withExcluded : misspelled lexicon
    (policy.withExcluded (misspelled lexicon policy kind name)) kind name = [] := by
  apply List.eq_nil_iff_forall_not_mem.mpr
  intro word member
  have listed : word ∈ misspelled lexicon policy kind name :=
    (misspelled_sublist (policy.withExcluded_tightens _) (.refl lexicon _) kind name).subset member
  have looked := (List.mem_filter.mp (List.mem_filter.mp member).1).2
  rw [policy.isExcluded_withExcluded listed] at looked
  cases looked

/-- Words that are added are found as they were looked up, as they have no blanks to trim. -/
theorem misspelled_addWords (plain : ∀ c ∈ name.toList, Text.isBlank c = false) :
    misspelled (lexicon.addWords policy.language (misspelled lexicon policy kind name)) policy kind
      name = [] := by
  apply List.eq_nil_iff_forall_not_mem.mpr
  intro word member
  have listed : word ∈ misspelled lexicon policy kind name :=
    (misspelled_sublist (.refl policy) (lexicon.covers_addWords _ _) kind name).subset member
  have whole : Text.trim word = word := Text.trim_of_noBlank fun c inside =>
    plain c (mem_of_mem_checkedWords (List.mem_filter.mp member).1 inside)
  have kept : Text.lower word ∈ (misspelled lexicon policy kind name).map Lexicon.entry :=
    List.mem_map.mpr ⟨word,listed,by rw [Lexicon.entry,whole]⟩
  have lacking := (List.mem_filter.mp member).2
  rw [Lexicon.lacks_addWords,List.contains_iff_mem.mpr kept,Bool.not_true,Bool.and_false] at lacking
  cases lacking

end Silence

/-- A name is silent once the words of a report on it are left out, and, if it has no blanks, once
they are added to the language. -/
theorem evaluate_silenced {lexicon : Lexicon} {policy : Policy}
    (known : lexicon.knows policy.language = true) {kind : Declaration.Kind} {name : String}
    {position : Nat} {v : Violation}
    (reported : evaluate lexicon.isUnknown policy kind name position = .ok (some v)) :
    Silent lexicon (policy.withExcluded v.misspelled) kind name ∧
    ((∀ c ∈ name.toList, Text.isBlank c = false) →
      Silent (lexicon.addWords policy.language v.misspelled) policy kind name) := by
  rw [misspelled_of_evaluate known reported]
  constructor
  · have stillKnown : lexicon.knows (policy.withExcluded
        (misspelled lexicon policy kind name)).language = true := known
    exact silent_of_misspelled stillKnown (misspelled_withExcluded lexicon policy kind name)
  · intro plain
    have stillKnown : (lexicon.addWords policy.language
        (misspelled lexicon policy kind name)).knows policy.language = true := by simp
    exact silent_of_misspelled stillKnown (misspelled_addWords lexicon policy kind name plain)

/-- The lower case of one word ends in a final sigma, and that of another one has a character
more. -/
theorem evaluate_silenced_sigma :
    let lexicon := Lexicon.empty.addWords "en" ["my"]
    let name := "myΟΔΟΣSeperateİSTANBUL"
    lexicon.knows Policy.default.language = true ∧ (∀ c ∈ name.toList, Text.isBlank c = false) ∧
      ∃ v, evaluate lexicon.isUnknown .default .varGlobal name 0 = .ok (some v) ∧
        v.misspelled = ["ΟΔΟΣ","Seperate","İSTANBUL"] ∧
        Silent lexicon (Policy.default.withExcluded v.misspelled) .varGlobal name ∧
        Silent (lexicon.addWords "en" v.misspelled) .default .varGlobal name := by
  intro lexicon name
  have known : lexicon.knows Policy.default.language = true := by simp [lexicon,Policy.default]
  have visible : name.toList.all (fun c => !Text.isBlank c) = true := by decide +kernel
  have plain : ∀ c ∈ name.toList, Text.isBlank c = false := by simpa using visible
  have lacks : lexicon.lacks Policy.default.language = _ :=
    Lexicon.lacks_empty_addWords "en" ["my"]
  have listed : misspelled lexicon .default .varGlobal name = ["ΟΔΟΣ","Seperate","İSTANBUL"] := by
    rw [misspelled,lacks]
    decide +kernel
  have phrase : phraseLacks lexicon .default .varGlobal name = true := by
    rw [phraseLacks,lacks]
    decide +kernel
  have reported : evaluate lexicon.isUnknown .default .varGlobal name 0 =
      .ok (some (violation .default .varGlobal name 0 "ΟΔΟΣ" ["Seperate","İSTANBUL"])) :=
    evaluate_eq_violation known rfl phrase listed 0
  obtain ⟨excluded,added⟩ := evaluate_silenced known reported
  exact ⟨known,plain,_,reported,rfl,excluded,added plain⟩

end Verdict
end Orthography
