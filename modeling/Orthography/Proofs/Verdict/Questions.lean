import Orthography.Proofs.Lexicon.Account

/-! What is asked for a verdict. The phrase is left at its first unknown word, but then every word
is asked about, so the words that are looked up are asked about either way, and no others. -/
namespace Orthography

open Lexicon (Memo Steps)

theorem Lexicon.Steps.asks_phrase {lexicon : Lexicon} {language : String}
    (known : lexicon.knows language = true) (memo : Memo) {words : List String}
    (whole : words.flatMap Text.pieces = words) :
    Asks lexicon memo (ask.phrase language (" ".intercalate words))
      (words.any (memo.tells lexicon language))
      ((reached (memo.tells lexicon language) words).map (language,·)) := by
  rw [Inquiry.phrase,Text.pieces_intercalate,whole]
  exact asks_anyUnknown known memo words

namespace Verdict

theorem exists_asks_evaluate {lexicon : Lexicon} {policy : Policy}
    (known : lexicon.knows policy.language = true) {kind : Declaration.Kind}
    (checked : policy.checks kind = true) {name : String}
    (plain : ∀ c ∈ name.toList, Text.isBlank c = false) (position : Nat) (memo : Memo) :
    ∃ value, Steps.Asks lexicon memo (evaluate Steps.ask policy kind name position) value
      ((checkedWords policy kind name).map (policy.language,·)) := by
  have whole : (checkedWords policy kind name).flatMap Text.pieces = checkedWords policy kind name :=
    pieces_checkedWords plain
  have phrase := Steps.asks_phrase known memo whole
  unfold evaluate
  rw [checked]
  simp only [Bool.not_true,Bool.false_eq_true,if_false]
  generalize checkedWords policy kind name = words at phrase ⊢
  cases words with
  | nil => exact ⟨none,.pure lexicon memo none⟩
  | cons word rest =>
    cases unknown : (word :: rest).any (memo.tells lexicon policy.language) with
    | false =>
      rw [unknown,Lexicon.reached_of_not_any unknown] at phrase
      refine ⟨none,?_⟩
      rw [← List.append_nil (List.map _ _)]
      exact phrase.bind fun later _ => .pure lexicon later none
    | true =>
      rw [unknown] at phrase
      have single : ∀ later : Memo, later.tells lexicon = memo.tells lexicon →
          Steps.Asks lexicon later (Steps.ask.allUnknown policy.language (word :: rest))
            ((word :: rest).filter (memo.tells lexicon policy.language))
            ((word :: rest).map (policy.language,·)) := by
        intro later same
        rw [← same]
        exact Steps.asks_allUnknown known later (word :: rest)
      -- the words that the phrase reached are asked about again, now without effect
      have again : ∀ key,
          key ∈ (Lexicon.reached (memo.tells lexicon policy.language) (word :: rest)).map
              (policy.language,·) ++ ((word :: rest).map (policy.language,·) ++ []) ↔
            key ∈ (word :: rest).map (policy.language,·) := by
        rw [List.append_nil]
        exact Lexicon.mem_reached_append _ _ _
      generalize (word :: rest).filter (memo.tells lexicon policy.language) = lacking at single
      cases lacking with
      | nil =>
        exact ⟨none,(phrase.bind fun later same => (single later same).bind fun final _ =>
          .pure lexicon final none).congr again⟩
      | cons first others =>
        let found := violation policy kind name position first others
        exact ⟨some found,(phrase.bind fun later same => (single later same).bind fun final _ =>
          .pure lexicon final (some found)).congr again⟩

/-- A verdict on a name without blanks enters the words that are looked up and leaves what was held
as it was. No step is about any other word, such as one that is left out or too short. -/
theorem evaluate_remembers {lexicon : Lexicon} {policy : Policy}
    (known : lexicon.knows policy.language = true) {name : String}
    (plain : ∀ c ∈ name.toList, Text.isBlank c = false) (kind : Declaration.Kind) (position : Nat)
    (memo : Memo) :
    let words := checkedWords policy kind name
    let steps := evaluate Steps.ask policy kind name position
    let asked := evaluate (Memo.ask lexicon.isUnknown) policy kind name position memo
    steps.run lexicon.isUnknown memo = asked ∧
    (policy.checks kind = true → ∀ language word,
      asked.2.verdict? language word = (memo.verdict? language word).or
        (if language = policy.language ∧ word ∈ words then some (lexicon.lacks language word)
          else none)) ∧
    (policy.checks kind = false → asked.2 = memo) ∧
    ∀ event ∈ steps.trace lexicon.isUnknown memo, ∃ word ∈ words,
      event.key = (policy.language,word) ∧ policy.isExcluded word = false ∧
        policy.isTooShort word = false := by
  intro words steps asked
  have ran : steps.run lexicon.isUnknown memo = asked :=
    (Steps.running lexicon.isUnknown).evaluate
      (fun word => Steps.running_ask lexicon.isUnknown policy.language word) kind name position memo
  cases checked : policy.checks kind with
  | false =>
    have nothing : steps = pure none := by simp [steps,evaluate,checked]
    refine ⟨ran,by simp,fun _ => by rw [← ran,nothing]; rfl,?_⟩
    simp [nothing,pure,Steps.trace]
  | true =>
    obtain ⟨value,asks⟩ := exists_asks_evaluate known checked plain position memo
    refine ⟨ran,fun _ language word => ?_,by simp,fun event member => ?_⟩
    · rw [← ran,asks.account.verdict?]
      simp [words,and_comm,eq_comm]
    · obtain ⟨word,looked,key⟩ := List.mem_map.mp (asks.about event member)
      have kept := (List.mem_filter.mp looked).2
      rw [Bool.and_eq_true,Bool.not_eq_true',Bool.not_eq_true'] at kept
      exact ⟨word,looked,key.symm,kept⟩

/-- The phrase is left at `Seperate`, and `Verson` is asked about all the same, but `Garp` is not. -/
theorem evaluate_remembers_excluded :
    let lexicon := Lexicon.empty.addWords "en" ["my"]
    let policy := Policy.default.withExcluded ["GARP"]
    let name := "mySeperateGarpVerson"
    let memo := Memo.empty.remember "en" "Garp" true
    let steps := evaluate Steps.ask policy .varLocal name 0
    let after := (evaluate (Memo.ask lexicon.isUnknown) policy .varLocal name 0 memo).2
    lexicon.knows policy.language = true ∧ (∀ c ∈ name.toList, Text.isBlank c = false) ∧
      after.verdict? "en" "Verson" = some true ∧ after.verdict? "en" "my" = none ∧
      after.verdict? "en" "Garp" = some true ∧
      ∀ event ∈ steps.trace lexicon.isUnknown memo, event.key ≠ ("en","Garp") := by
  intro lexicon policy name memo steps after
  have known : lexicon.knows policy.language = true := by
    simp [lexicon,policy,Policy.default,Policy.withExcluded]
  have visible : name.toList.all (fun c => !Text.isBlank c) = true := by decide +kernel
  have plain : ∀ c ∈ name.toList, Text.isBlank c = false := by simpa using visible
  have words : checkedWords policy .varLocal name = ["Seperate","Verson"] := by decide +kernel
  have lacking : lexicon.lacks "en" "Verson" = true := by
    rw [Lexicon.lacks_addWords,Lexicon.lacks_empty]
    decide +kernel
  obtain ⟨-,entered,-,about⟩ := evaluate_remembers known plain .varLocal 0 memo
  have verdict := entered rfl
  rw [words] at verdict about
  refine ⟨known,plain,?_,?_,?_,?_⟩
  · rw [verdict,lacking]
    simp [memo,Memo.verdict?_remember,policy,Policy.default,Policy.withExcluded]
  · rw [verdict]
    simp [memo,Memo.verdict?_remember]
  · rw [verdict]
    simp [memo,Memo.verdict?_remember]
  · intro event member same
    obtain ⟨word,looked,key,-⟩ := about event member
    rw [same] at key
    obtain ⟨-,rfl⟩ := Prod.mk.inj key
    simp at looked

end Verdict
end Orthography
