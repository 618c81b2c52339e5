import Mathlib.Data.Finset.Card
import Mathlib.Data.Finset.Dedup
import Orthography.Proofs.Verdict.Misspelled

/-! What a lexicon knows after any operations on it. Its answers about a language are those of a
set of words, which only what was given for the language decides. -/
namespace Orthography.Lexicon

/-- What is done to a lexicon. A list is what came of reading its file. -/
inductive Operation where
  | add (language : String) (words : List String)
  | load (language : String) (list : Except Files.Fault String)

namespace Operation

def language : Operation → String
  | add language _ => language
  | load language _ => language

def given? : Operation → Option (List String)
  | add _ words => some words
  | load _ (.ok text) => some (listedWords text)
  | load _ (.error _) => none

def perform (lexicon : Lexicon) : Operation → Except Fault Lexicon
  | add language words => .ok (lexicon.addWords language words)
  | load language list => do
    let (_,later) ← lexicon.addList language list
    pure later

/-- The lexicon afterwards, which is the one before if the operation fails. -/
def apply (lexicon : Lexicon) (operation : Operation) : Lexicon :=
  match operation.perform lexicon with
  | .ok later => later
  | .error _ => lexicon

theorem apply_eq (lexicon : Lexicon) (operation : Operation) :
    operation.apply lexicon = match operation.given? with
      | some words => lexicon.addWords operation.language words
      | none => lexicon := by
  rcases operation with ⟨language,words⟩ | ⟨language,cause | text⟩ <;> rfl

end Operation

def replay (history : List Operation) : Lexicon :=
  history.foldl (fun lexicon operation => operation.apply lexicon) empty

theorem replay_concat (history : List Operation) (operation : Operation) :
    replay (history ++ [operation]) = operation.apply (replay history) :=
  List.foldl_concat ..

theorem replay_append (before after : List Operation) :
    replay (before ++ after) =
      after.foldl (fun lexicon operation => operation.apply lexicon) (replay before) :=
  List.foldl_append

/-- Something was given for a language, be it no word at all. -/
def Given (language : String) (history : List Operation) : Prop :=
  ∃ operation ∈ history, operation.language = language ∧ ∃ words, operation.given? = some words

def wordsGiven (language : String) (history : List Operation) : List String :=
  (history.filter fun operation => operation.language = language).flatMap fun operation =>
    operation.given?.getD []

/-- They are compared without blanks around them and in lower case. -/
def vocabulary (language : String) (history : List Operation) : Finset String :=
  ((wordsGiven language history).map fun word => Text.lower (Text.trim word)).toFinset

section Vocabulary

variable {language : String} {history other : List Operation}

theorem given_append :
    Given language (history ++ other) ↔ Given language history ∨ Given language other := by
  simp only [Given,List.mem_append,or_and_right,exists_or]

theorem vocabulary_append :
    vocabulary language (history ++ other) =
      vocabulary language history ∪ vocabulary language other := by
  simp only [vocabulary,wordsGiven,List.filter_append,List.flatMap_append,List.map_append,
    List.toFinset_append]

theorem mem_vocabulary {word : String} : word ∈ vocabulary language history ↔
    ∃ operation ∈ history, operation.language = language ∧
      ∃ own ∈ operation.given?.getD [], Text.lower (Text.trim own) = word := by
  simp only [vocabulary,wordsGiven,List.mem_toFinset,List.mem_map,List.mem_flatMap,List.mem_filter,
    decide_eq_true_eq]
  grind

section Congruence

variable (same : ∀ operation, operation.language = language →
  (operation ∈ history ↔ operation ∈ other))

include same

theorem given_congr : Given language history ↔ Given language other := by
  simp only [Given]
  grind

theorem vocabulary_congr : vocabulary language history = vocabulary language other := by
  ext word
  simp only [mem_vocabulary]
  grind

end Congruence

end Vocabulary

-- Both inductions take the last operation off, as the lexicon that it meets is the one that the
-- operations before it made.

theorem knows_replay (language : String) (history : List Operation) :
    (replay history).knows language = true ↔ Given language history := by
  induction history using List.reverseRecOn with
  | nil => simp [replay,Given,knows,empty]
  | append_singleton history operation ih =>
    rw [replay_concat,Operation.apply_eq,given_append,← ih]
    cases given : operation.given? with
    | none => simp [Given,given]
    | some words => simp [Given,given,or_comm]

theorem mem_wordsOf_replay (language word : String) (history : List Operation) :
    word ∈ (replay history).wordsOf language ↔ word ∈ vocabulary language history := by
  induction history using List.reverseRecOn with
  | nil => simp [replay,vocabulary,wordsGiven,wordsOf,empty]
  | append_singleton history operation ih =>
    rw [replay_concat,Operation.apply_eq,vocabulary_append,Finset.mem_union,← ih,mem_vocabulary]
    cases given : operation.given? with
    | none => simp [given]
    | some words =>
      rw [wordsOf_addWords]
      split
      next same =>
        subst same
        simp [given,Std.HashSet.mem_insertMany_list,entry]
      next differs => simp [differs]

theorem length_eq_card {α : Type} [DecidableEq α] {items : List α} {set : Finset α}
    (distinct : items.Nodup) (same : ∀ item, item ∈ items ↔ item ∈ set) :
    items.length = set.card := by
  have listed : items.toFinset = set := by
    ext item
    rw [List.mem_toFinset,same]
  rw [← listed,List.toFinset_card_of_nodup distinct]

theorem size_eq_card {words : Std.HashSet String} {set : Finset String}
    (same : ∀ word, word ∈ words ↔ word ∈ set) : words.size = set.card := by
  have distinct : words.toList.Nodup := by
    simpa [List.Nodup] using words.distinct_toList
  rw [← Std.HashSet.length_toList]
  exact length_eq_card distinct fun word => by rw [Std.HashSet.mem_toList,same]

structure Answers (lexicon : Lexicon) (language : String) (known : Prop) (words : Finset String) :
    Prop where
  knows : lexicon.knows language = true ↔ known
  wordCount : lexicon.wordCount language = words.card
  unknownLanguage : ∀ word,
    lexicon.isUnknown language word = .error (.unknownLanguage language) ↔ ¬known
  isUnknown : known → ∀ word, ∃ unknown, lexicon.isUnknown language word = .ok unknown ∧
    (unknown = true ↔ (∃ c ∈ word.toList, Text.isLetter c = true) ∧ Text.lower word ∉ words)

structure Alike (language : String) (lexicon other : Lexicon) : Prop where
  knows : lexicon.knows language = other.knows language
  wordCount : lexicon.wordCount language = other.wordCount language
  isUnknown : ∀ word, lexicon.isUnknown language word = other.isUnknown language word
  phrase : ∀ text, Inquiry.phrase lexicon.isUnknown language text =
    Inquiry.phrase other.isUnknown language text

theorem isUnknown_of_not_knows {lexicon : Lexicon} {language : String}
    (foreign : lexicon.knows language = false) (word : String) :
    lexicon.isUnknown language word = .error (.unknownLanguage language) := by
  have missing : language ∉ lexicon.languages := by simpa [Lexicon.knows] using foreign
  simp [Lexicon.isUnknown,missing]

theorem answers_replay (history : List Operation) (language : String) :
    Answers (replay history) language (Given language history) (vocabulary language history) := by
  have known := knows_replay language history
  have words := mem_wordsOf_replay language
  constructor
  case knows => exact known
  case wordCount => exact size_eq_card fun word => words word history
  case unknownLanguage =>
    intro word
    rw [← known]
    cases held : (replay history).knows language with
    | false => simp [isUnknown_of_not_knows held]
    | true => simp [isUnknown_of_knows held]
  case isUnknown =>
    intro given word
    refine ⟨_,isUnknown_of_knows (known.mpr given) word,?_⟩
    simp [lacks,words]

theorem Answers.alike {lexicon other : Lexicon} {language : String} {known : Prop}
    {words : Finset String} (first : Answers lexicon language known words)
    (second : Answers other language known words) : Alike language lexicon other := by
  have asked (word : String) :
      lexicon.isUnknown language word = other.isUnknown language word := by
    by_cases given : known
    · obtain ⟨unknown,answer,iff⟩ := first.isUnknown given word
      obtain ⟨own,otherAnswer,otherIff⟩ := second.isUnknown given word
      rw [answer,otherAnswer,Bool.eq_iff_iff.mpr (iff.trans otherIff.symm)]
    · rw [(first.unknownLanguage word).mpr given,(second.unknownLanguage word).mpr given]
  constructor
  case knows => rw [Bool.eq_iff_iff,first.knows,second.knows]
  case wordCount => rw [first.wordCount,second.wordCount]
  case isUnknown => exact asked
  case phrase => exact Simulation.equal.phrase asked

/-- After any history the answers about a language are those of the words that were given for it.
They are the same with the same operations for the language, whatever their order and number and
those for others; and a list that cannot be read leaves the lexicon as it is. -/
theorem replay_answers :
    (∀ history language, Answers (replay history) language (Given language history)
      (vocabulary language history)) ∧
    (∀ history other language, (∀ operation, operation.language = language →
        (operation ∈ history ↔ operation ∈ other)) →
      Alike language (replay history) (replay other)) ∧
    (∀ before language cause after, let failing := Operation.load language (.error cause)
      failing.perform (replay before) = .error (.unreadable language cause) ∧
        failing.apply (replay before) = replay before ∧
        replay (before ++ failing :: after) = replay (before ++ after)) := by
  refine ⟨answers_replay,?_,?_⟩
  · intro history other language same
    have answers := answers_replay other language
    rw [← vocabulary_congr same,← given_congr same] at answers
    exact (answers_replay history language).alike answers
  · intro before language cause after failing
    refine ⟨rfl,rfl,?_⟩
    rw [replay_append,List.foldl_cons,replay_append]
    rfl

/-- Words that fall together count once, and no words make a language known. -/
theorem replay_unreadable_list :
    let hello := Operation.add "en" [" Hello ","HELLO"]
    let list := Operation.load "en" (.ok "# words\nWorld/MS\n\nhello")
    let missing := Operation.load "fi" (.error .isDirectory)
    let nothing := Operation.add "de" []
    let lexicon := replay [hello,missing,list,nothing]
    lexicon.knows "fi" = false ∧ lexicon.wordCount "en" = 2 ∧
      lexicon.isUnknown "de" "hello" = .ok true ∧ lexicon = replay [hello,list,nothing] ∧
      (∀ operation, operation.language = "en" →
        (operation ∈ [hello,missing,list,nothing] ↔ operation ∈ [list,hello,list])) ∧
      Alike "en" lexicon (replay [list,hello,list]) := by
  intro hello list missing nothing lexicon
  obtain ⟨answers,alike,unreadable⟩ := replay_answers
  have same : ∀ operation, operation.language = "en" →
      (operation ∈ [hello,missing,list,nothing] ↔ operation ∈ [list,hello,list]) := by
    intro operation english
    have notMissing : operation ≠ missing := by
      rintro rfl
      exact absurd english (by decide)
    have notNothing : operation ≠ nothing := by
      rintro rfl
      exact absurd english (by decide)
    simp only [List.mem_cons,notMissing,notNothing,List.not_mem_nil]
    grind
  have missed : ¬Given "fi" [hello,missing,list,nothing] := by
    simp [Given,hello,missing,list,nothing,Operation.language,Operation.given?]
  have german : Given "de" [hello,missing,list,nothing] := ⟨nothing,by simp,rfl,[],rfl⟩
  have words : vocabulary "en" [hello,missing,list,nothing] = {"hello","world"} := by
    decide +kernel
  have noWords : vocabulary "de" [hello,missing,list,nothing] = ∅ := by decide +kernel
  refine ⟨?_,?_,?_,(unreadable [hello] "fi" .isDirectory [list,nothing]).2.2,same,
    alike _ _ "en" same⟩
  · rw [Bool.eq_false_iff,Ne,(answers _ "fi").knows]
    exact missed
  · rw [(answers _ "en").wordCount,words]
    rfl
  · obtain ⟨unknown,answer,iff⟩ := (answers _ "de").isUnknown german "hello"
    have shown : ∃ c ∈ "hello".toList, Text.isLetter c = true :=
      ⟨'h',by decide +kernel,by decide +kernel⟩
    rw [answer,iff.mpr ⟨shown,by simp [noWords]⟩]

end Orthography.Lexicon
