import Orthography.Proofs.Lexicon.History
import Orthography.Proofs.Lint.Schedule

/-! When checking fails. There is one fault only, that of a language that is not known, and it
arises where a word of that language is asked about. So nothing fails once a run has begun. -/
namespace Orthography

open Declaration (Kind)
open Lexicon (Memo)

namespace Lexicon

variable {lexicon : Lexicon} {language : String} (foreign : lexicon.knows language = false)

include foreign

/-- The first question in a language that is not known ends all, if there is a question. -/
theorem anyUnknown_of_not_knows (words : List String) :
    Inquiry.anyUnknown lexicon.isUnknown language words =
      if words = [] then .ok false else .error (.unknownLanguage language) := by
  cases words with
  | nil => rfl
  | cons word rest =>
    rw [Inquiry.anyUnknown,isUnknown_of_not_knows foreign,if_neg (List.cons_ne_nil word rest)]
    rfl

end Lexicon

namespace Verdict

variable {policy : Policy} {kind : Kind} {name : String}

/-- Something of a name is asked about: its kind is checked, and one of the words that are looked
up has a character that shows. -/
def Inquires (policy : Policy) (kind : Kind) (name : String) : Prop :=
  policy.checks kind = true ∧
    ∃ word ∈ checkedWords policy kind name, ∃ c ∈ word.toList, Text.isBlank c = false

theorem pieces_phrase_eq_nil_iff :
    Text.pieces (" ".intercalate (checkedWords policy kind name)) = [] ↔
      ¬∃ word ∈ checkedWords policy kind name, ∃ c ∈ word.toList, Text.isBlank c = false := by
  rw [Text.pieces_intercalate,List.flatMap_eq_nil_iff]
  simp [Text.pieces_eq_nil_iff]

section Foreign

variable {lexicon : Lexicon} (foreign : lexicon.knows policy.language = false)

include foreign

theorem evaluate_of_inquires (inquires : Inquires policy kind name) (position : Nat) :
    evaluate lexicon.isUnknown policy kind name position =
      .error (.unknownLanguage policy.language) := by
  obtain ⟨checked,shown⟩ := inquires
  have asked := mt pieces_phrase_eq_nil_iff.mp (not_not.mpr shown)
  have words : (checkedWords policy kind name).isEmpty = false := by
    obtain ⟨word,member,_⟩ := shown
    exact List.isEmpty_eq_false_iff.mpr (List.ne_nil_of_mem member)
  simp only [evaluate,checked,words,Inquiry.phrase,Lexicon.anyUnknown_of_not_knows foreign,
    if_neg asked]
  rfl

theorem evaluate_of_not_inquires (silent : ¬Inquires policy kind name) (position : Nat) :
    evaluate lexicon.isUnknown policy kind name position = .ok none := by
  unfold evaluate
  by_cases checked : policy.checks kind = true
  · have unasked := pieces_phrase_eq_nil_iff.mpr (not_and.mp silent checked)
    by_cases words : (checkedWords policy kind name).isEmpty = true
    · simp only [checked,words]
      rfl
    · simp only [checked,words,Inquiry.phrase,Lexicon.anyUnknown_of_not_knows foreign,unasked]
      rfl
  · simp only [checked]
    rfl

end Foreign

/-- A verdict on a name in a language: with words it does not fail, and without any it fails if
something is asked, or finds nothing. -/
structure FailsWhenAsked (lexicon : Lexicon) (policy : Policy) (kind : Kind) (name : String)
    (verdict : Except Lexicon.Fault (Option Violation)) : Prop where
  foreign : lexicon.knows policy.language = false →
    (verdict = .error (.unknownLanguage policy.language) ↔ Inquires policy kind name) ∧
      (¬Inquires policy kind name → verdict = .ok none)
  known : lexicon.knows policy.language = true → ∃ found, verdict = .ok found

theorem evaluate_fails (lexicon : Lexicon) (policy : Policy) (kind : Kind) (name : String)
    (position : Nat) :
    FailsWhenAsked lexicon policy kind name
      (evaluate lexicon.isUnknown policy kind name position) := by
  constructor
  case foreign =>
    intro foreign
    refine ⟨⟨fun failed => ?_,fun inquires => evaluate_of_inquires foreign inquires position⟩,
      fun silent => evaluate_of_not_inquires foreign silent position⟩
    by_contra silent
    rw [evaluate_of_not_inquires foreign silent] at failed
    exact nomatch failed
  case known => exact fun known => ⟨_,evaluate_eq_found known kind name position⟩

end Verdict

namespace Lint

open Verdict (Inquires FailsWhenAsked)

structure Unfailing (lexicon : Lexicon) (policy : Policy) : Prop where
  ofDeclaration : ∀ declaration, ∃ found,
    Verdict.ofDeclaration lexicon.isUnknown policy declaration = .ok found ∧
      ∀ memo : Memo, memo.Sound lexicon.isUnknown →
        (Verdict.ofDeclaration (Memo.ask lexicon.isUnknown) policy declaration memo).1 = .ok found
  checkFile : ∀ input, ∃ report, checkFile lexicon.isUnknown policy input = .ok report ∧
    ∀ memo : Memo, memo.Sound lexicon.isUnknown →
      (Lint.checkFile (Memo.ask lexicon.isUnknown) policy input memo).1 = .ok report
  lints : ∀ settings inputs, ∃ report,
    checkAll lexicon.isUnknown settings policy inputs = .ok report ∧
      run lexicon settings policy inputs = .ok report ∧
      ∀ memo : Memo, memo.Sound lexicon.isUnknown →
        (∃ result later, Lints lexicon.isUnknown settings policy memo inputs result later) ∧
          ∀ result later, Lints lexicon.isUnknown settings policy memo inputs result later →
            result = .ok report

theorem unfailing {lexicon : Lexicon} {policy : Policy}
    (known : lexicon.knows policy.language = true) : Unfailing lexicon policy := by
  constructor
  case ofDeclaration =>
    intro declaration
    have found := ofDeclaration_isUnknown known declaration
    refine ⟨_,found,fun memo sound => ?_⟩
    have recalled := (Lexicon.recalling lexicon.isUnknown).ofDeclaration
      (Lexicon.recalling_ask lexicon.isUnknown policy.language) declaration memo sound
    rw [recalled.1,found]
  case checkFile =>
    exact fun input => ⟨_,checkFile_alone known input,
      fun memo sound => checkFile_recalled known sound input⟩
  case lints =>
    exact fun settings inputs => ⟨_,checkAll_alone known settings inputs,
      run_alone known settings inputs,fun memo sound =>
        ⟨exists_lints settings policy sound inputs,
          fun result later lints => lints.result_eq known sound⟩⟩

/-- A verdict fails exactly if the language is not known and something is asked. A run that does not
know the language fails at its start, so one that starts never fails. -/
theorem fault_iff_foreign (lexicon : Lexicon) (policy : Policy) :
    (∀ kind name position (memo : Memo), memo.Sound lexicon.isUnknown →
      let verdict := Verdict.evaluate lexicon.isUnknown policy kind name position
      let recalled :=
        Verdict.evaluate (Memo.ask lexicon.isUnknown) policy kind name position memo
      FailsWhenAsked lexicon policy kind name verdict ∧ recalled.1 = verdict ∧
        recalled.2.Sound lexicon.isUnknown) ∧
    (lexicon.knows policy.language = false → ∀ settings inputs,
      run lexicon settings policy inputs = .error (.unknownLanguage policy.language)) ∧
    (lexicon.knows policy.language = true → Unfailing lexicon policy) := by
  refine ⟨?_,?_,unfailing⟩
  · intro kind name position memo sound verdict recalled
    have same := (Lexicon.recalling lexicon.isUnknown).evaluate
      (Lexicon.recalling_ask lexicon.isUnknown policy.language) kind name position memo sound
    exact ⟨Verdict.evaluate_fails lexicon policy kind name position,same⟩
  · intro foreign settings inputs
    rw [run,foreign]
    rfl

/-- What is remembered of one language does not help with another, and a word of wide blanks is
not asked about. -/
theorem fault_iff_foreign_finnish :
    let lexicon := Lexicon.empty.addWords "en" ["my"]
    let finnish := Policy.default.withLanguage "fi"
    let memo := Memo.empty.remember "en" "my" false
    let recalled := fun name =>
      (Verdict.evaluate (Memo.ask lexicon.isUnknown) finnish .varLocal name 0 memo).1
    let wide := "\u3000\u3000\u3000\u3000"
    memo.Sound lexicon.isUnknown ∧ lexicon.knows finnish.language = false ∧
      recalled "myVariable" = .error (.unknownLanguage "fi") ∧
      Verdict.checkedWords finnish .varLocal wide = [wide] ∧ recalled wide = .ok none ∧
      run lexicon .default finnish [] = .error (.unknownLanguage "fi") ∧
      lexicon.knows Policy.default.language = true ∧ Unfailing lexicon .default := by
  intro lexicon finnish memo recalled wide
  obtain ⟨verdicts,starts,_⟩ := fault_iff_foreign lexicon finnish
  have foreign : lexicon.knows finnish.language = false := by
    rw [Lexicon.knows_addWords]
    simp [finnish,Policy.withLanguage,Lexicon.knows,Lexicon.empty]
  have known : lexicon.knows Policy.default.language = true := by
    rw [Lexicon.knows_addWords]
    rfl
  have sound : memo.Sound lexicon.isUnknown := by
    have listed : lexicon.lacks "en" "my" = false := by
      simp only [lexicon,Lexicon.lacks_empty_addWords]
      decide +kernel
    have answer : lexicon.isUnknown "en" "my" = .ok false := by
      rw [← listed]
      exact Lexicon.isUnknown_of_knows known "my"
    exact (Memo.sound_empty _).remember answer
  have words : Verdict.checkedWords finnish .varLocal wide = [wide] := by decide +kernel
  have asks : Inquires finnish .varLocal "myVariable" :=
    ⟨rfl,"Variable",by decide +kernel,'V',by decide +kernel,by decide +kernel⟩
  have silent : ¬Inquires finnish .varLocal wide := by
    have blank : ∀ c ∈ wide.toList, Text.isBlank c = true :=
      List.all_eq_true.mp (by decide +kernel)
    rintro ⟨_,word,member,c,shows,notBlank⟩
    rw [words,List.mem_singleton] at member
    simp [blank c (member ▸ shows)] at notBlank
  refine ⟨sound,foreign,?_,words,?_,starts foreign .default [],known,
    (fault_iff_foreign lexicon .default).2.2 known⟩
  · obtain ⟨fails,same,_⟩ := verdicts .varLocal "myVariable" 0 memo sound
    exact same.trans ((fails.foreign foreign).1.mpr asks)
  · obtain ⟨fails,same,_⟩ := verdicts .varLocal wide 0 memo sound
    exact same.trans ((fails.foreign foreign).2 silent)

end Lint
end Orthography
