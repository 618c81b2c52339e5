import Mathlib.Data.List.Basic
import Orthography.Proofs.Verdict.Misspelled

/-! Stricter policies and richer lexicons. Fewer words are looked up and fewer of them are
lacking, so both the phrase and the single words can only fall silent: what is still reported was
reported before. -/
namespace Orthography

/-- A policy that leaves out all that another one leaves out. How it reports may differ. -/
structure Policy.Tightens (strict lenient : Policy) : Prop where
  language : strict.language = lenient.language
  excluded : ∀ word ∈ lenient.excluded, word ∈ strict.excluded
  minLength : lenient.minLength ≤ strict.minLength
  checkTypes : strict.checkTypes = true → lenient.checkTypes = true

def Lexicon.Covers (rich poor : Lexicon) (language : String) : Prop :=
  ∀ word, word ∈ poor.wordsOf language → word ∈ rich.wordsOf language

theorem Lexicon.Covers.refl (lexicon : Lexicon) (language : String) :
    lexicon.Covers lexicon language :=
  fun _ member => member

theorem Lexicon.covers_addWords (lexicon : Lexicon) (language : String) (words : List String) :
    (lexicon.addWords language words).Covers lexicon language := by
  intro word member
  rw [wordsOf_addWords,if_pos rfl]
  exact Std.HashSet.mem_insertMany_list.mpr (.inl member)

theorem Lexicon.Covers.lacks {rich poor : Lexicon} {language word : String}
    (covers : rich.Covers poor language) (missing : rich.lacks language word = true) :
    poor.lacks language word = true := by
  simp only [Lexicon.lacks,Bool.and_eq_true,Bool.not_eq_true',Std.HashSet.contains_eq_false_iff_not_mem]
    at missing ⊢
  exact ⟨missing.1,mt (covers _) missing.2⟩

namespace Policy.Tightens

variable {strict lenient : Policy} (tightens : strict.Tightens lenient)

include tightens

theorem checks {kind : Declaration.Kind} (checked : strict.checks kind = true) :
    lenient.checks kind = true := by
  simp only [Policy.checks,Bool.or_eq_true,Bool.and_eq_true] at checked ⊢
  exact checked.imp_right fun ⟨types,isType⟩ => ⟨tightens.checkTypes types,isType⟩

theorem isExcluded {word : String} (excluded : lenient.isExcluded word = true) :
    strict.isExcluded word = true := by
  simp only [Policy.isExcluded,List.contains_iff_mem] at excluded ⊢
  exact tightens.excluded _ excluded

theorem isTooShort {word : String} (short : lenient.isTooShort word = true) :
    strict.isTooShort word = true := by
  simp only [Policy.isTooShort,decide_eq_true_eq] at short ⊢
  exact Nat.lt_of_lt_of_le short tightens.minLength

theorem checkedWords_sublist (kind : Declaration.Kind) (name : String) :
    (Verdict.checkedWords strict kind name).Sublist (Verdict.checkedWords lenient kind name) := by
  apply List.monotone_filter_right
  intro word looked
  simp only [Bool.and_eq_true,Bool.not_eq_true',← Bool.not_eq_true] at looked ⊢
  exact ⟨mt tightens.isExcluded looked.1,mt tightens.isTooShort looked.2⟩

end Policy.Tightens

namespace Verdict

section Tightening

variable {strict lenient : Policy} {rich poor : Lexicon} (tightens : strict.Tightens lenient)
  (covers : rich.Covers poor lenient.language)

include tightens covers

theorem misspelled_sublist (kind : Declaration.Kind) (name : String) :
    (misspelled rich strict kind name).Sublist (misspelled poor lenient kind name) := by
  have fewerWords := tightens.checkedWords_sublist kind name
  have fewerLacking : ((checkedWords lenient kind name).filter (rich.lacks lenient.language)).Sublist
      (misspelled poor lenient kind name) :=
    List.monotone_filter_right _ fun _ missing => covers.lacks missing
  rw [misspelled,tightens.language]
  exact (fewerWords.filter _).trans fewerLacking

theorem phraseLacks_of_tightens {kind : Declaration.Kind} {name : String}
    (lacking : phraseLacks rich strict kind name = true) :
    phraseLacks poor lenient kind name = true := by
  simp only [phraseLacks,tightens.language,List.any_eq_true,List.mem_flatMap] at lacking ⊢
  obtain ⟨piece,⟨word,member,cut⟩,missing⟩ := lacking
  have kept := (tightens.checkedWords_sublist kind name).subset member
  exact ⟨piece,⟨word,kept,cut⟩,covers.lacks missing⟩

/-- Neither gate opens: with fewer words to look up and more words known, what is found was found
before. -/
theorem exists_found_of_tightens {kind : Declaration.Kind} {name : String} {position : Nat}
    (reported : ∃ v, found rich strict kind name position = some v) :
    ∃ v, found poor lenient kind name position = some v := by
  rw [exists_found_iff] at reported ⊢
  obtain ⟨checked,⟨word,member,missing⟩,lacking⟩ := reported
  have kept := (tightens.checkedWords_sublist kind name).subset member
  rw [tightens.language] at missing
  exact ⟨tightens.checks checked,⟨word,kept,covers.lacks missing⟩,
    phraseLacks_of_tightens tightens covers lacking⟩

end Tightening

/-- What is reported with a stricter policy and a lexicon that has more words is also reported
without them, and the words that are listed are some of those that were listed, in their order. -/
theorem evaluate_tightened {strict lenient : Policy} {rich poor : Lexicon}
    (tightens : strict.Tightens lenient) (covers : rich.Covers poor lenient.language)
    (richKnows : rich.knows strict.language = true)
    (poorKnows : poor.knows lenient.language = true) {kind : Declaration.Kind} {name : String}
    {position : Nat} {fewer : Violation}
    (reported : evaluate rich.isUnknown strict kind name position = .ok (some fewer)) :
    ∃ v, evaluate poor.isUnknown lenient kind name position = .ok (some v) ∧
      fewer.misspelled.Sublist v.misspelled := by
  have found : ∃ v, found rich strict kind name position = some v :=
    ⟨fewer,by rw [evaluate_eq_found richKnows] at reported; exact Except.ok.inj reported⟩
  obtain ⟨v,before⟩ := exists_found_of_tightens tightens covers found
  have also : evaluate poor.isUnknown lenient kind name position = .ok (some v) := by
    rw [evaluate_eq_found poorKnows,before]
  refine ⟨v,also,?_⟩
  rw [misspelled_of_evaluate richKnows reported,misspelled_of_evaluate poorKnows also]
  exact misspelled_sublist tightens covers kind name

/-- One word is excluded, one is known by now and one is too short; the one that is left has a
blank. -/
theorem evaluate_tightened_blank :
    let poor := Lexicon.empty.addWords "en" ["my"]
    let rich := poor.addWords "en" ["verson"]
    let strict : Policy := ⟨"en",5,["seperate"],.error,false⟩
    let name := "teh versonSeperateVersonNmae"
    strict.Tightens .default ∧ rich.Covers poor Policy.default.language ∧
      rich.knows strict.language = true ∧ poor.knows Policy.default.language = true ∧
      ∃ fewer v, evaluate rich.isUnknown strict .varGlobal name 7 = .ok (some fewer) ∧
        evaluate poor.isUnknown .default .varGlobal name 7 = .ok (some v) ∧
        fewer.misspelled = ["teh verson"] ∧
        v.misspelled = ["teh verson","Seperate","Verson","Nmae"] ∧
        fewer.misspelled.Sublist v.misspelled := by
  intro poor rich strict name
  have tightens : strict.Tightens .default :=
    ⟨rfl,by simp [Policy.default],by decide,by decide⟩
  have covers : rich.Covers poor Policy.default.language := Lexicon.covers_addWords poor "en" ["verson"]
  have richKnows : rich.knows strict.language = true := by simp [rich,strict]
  have poorKnows : poor.knows Policy.default.language = true := by simp [poor,Policy.default]
  have poorLacks : poor.lacks Policy.default.language = _ :=
    Lexicon.lacks_empty_addWords "en" ["my"]
  have richLacks : rich.lacks strict.language = fun word =>
      poor.lacks Policy.default.language word && !(["verson"].contains (Text.lower word)) := by
    funext word
    rw [Lexicon.lacks_addWords]
    rfl
  have few : misspelled rich strict .varGlobal name = ["teh verson"] := by
    rw [misspelled,richLacks,poorLacks]
    decide +kernel
  have many : misspelled poor .default .varGlobal name =
      ["teh verson","Seperate","Verson","Nmae"] := by
    rw [misspelled,poorLacks]
    decide +kernel
  have phrase : phraseLacks rich strict .varGlobal name = true := by
    rw [phraseLacks,richLacks,poorLacks]
    decide +kernel
  have reported : evaluate rich.isUnknown strict .varGlobal name 7 =
      .ok (some (violation strict .varGlobal name 7 "teh verson" [])) :=
    evaluate_eq_violation richKnows rfl phrase few 7
  obtain ⟨v,before,sublist⟩ := evaluate_tightened tightens covers richKnows poorKnows reported
  exact ⟨tightens,covers,richKnows,poorKnows,_,v,reported,before,rfl,
    (misspelled_of_evaluate poorKnows before).trans many,sublist⟩

end Verdict
end Orthography
