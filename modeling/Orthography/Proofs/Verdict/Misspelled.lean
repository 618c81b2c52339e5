import Orthography.Proofs.Identifier.Cut
import Orthography.Proofs.Simulation
import Orthography.Proofs.Text.Pieces

/-! The verdict on a name with the words of a lexicon. The phrase is asked about first and
each word only then, but the outcome is told by the single words and their pieces. -/
namespace Orthography

/-- Whether a word of a known language is unknown: it has a letter, and its lower case is not
among the words that are kept. -/
def Lexicon.lacks (lexicon : Lexicon) (language word : String) : Bool :=
  word.toList.any Text.isLetter && !(lexicon.wordsOf language).contains (Text.lower word)

def Lexicon.answer (lexicon : Lexicon) : Inquiry Id :=
  fun language word => lexicon.lacks language word

namespace Lexicon

theorem isUnknown_of_knows {lexicon : Lexicon} {language : String}
    (known : lexicon.knows language = true) (word : String) :
    lexicon.isUnknown language word = .ok (lexicon.lacks language word) := by
  have held : language ∈ lexicon.languages := known
  simp [isUnknown,lacks,wordsOf,Std.HashMap.getElem?_eq_some_getElem held,
    Std.HashMap.getD_eq_getD_getElem?]

theorem lacks_addWords (lexicon : Lexicon) (language word : String) (words : List String) :
    (lexicon.addWords language words).lacks language word =
      (lexicon.lacks language word && !(words.map entry).contains (Text.lower word)) := by
  simp only [lacks,wordsOf_addWords,if_pos,Std.HashSet.contains_insertMany_list,Bool.not_or]
  rw [Bool.and_assoc]

theorem lacks_empty (language word : String) :
    empty.lacks language word = word.toList.any Text.isLetter := by
  simp [lacks,wordsOf,empty]

/-- What a language lacks that was given words once. -/
theorem lacks_empty_addWords (language : String) (words : List String) :
    (empty.addWords language words).lacks language = fun word =>
      word.toList.any Text.isLetter && !(words.map entry).contains (Text.lower word) := by
  funext word
  rw [lacks_addWords,lacks_empty]

/-- What is asked of a known language is answered. -/
theorem answering_isUnknown {lexicon : Lexicon} {language : String}
    (known : lexicon.knows language = true) (word : String) :
    (Simulation.answering (m := Except Fault)).Rel (lexicon.isUnknown language word)
      (lexicon.answer language word) :=
  isUnknown_of_knows known word

theorem anyUnknown_answer (lexicon : Lexicon) (language : String) (words : List String) :
    (lexicon.answer.anyUnknown language words).run = words.any (lexicon.lacks language) := by
  induction words with
  | nil => rfl
  | cons word rest ih =>
    rw [List.any_cons,← ih]
    change (if lexicon.lacks language word then pure true
      else lexicon.answer.anyUnknown language rest : Id Bool).run = _
    cases lexicon.lacks language word <;> rfl

theorem allUnknown_answer (lexicon : Lexicon) (language : String) (words : List String) :
    (lexicon.answer.allUnknown language words).run = words.filter (lexicon.lacks language) := by
  induction words with
  | nil => rfl
  | cons word rest ih =>
    rw [List.filter_cons,← ih]
    rfl

end Lexicon

namespace Verdict

def misspelled (lexicon : Lexicon) (policy : Policy) (kind : Declaration.Kind) (name : String) :
    List String :=
  (checkedWords policy kind name).filter (lexicon.lacks policy.language)

def phraseLacks (lexicon : Lexicon) (policy : Policy) (kind : Declaration.Kind) (name : String) :
    Bool :=
  ((checkedWords policy kind name).flatMap Text.pieces).any (lexicon.lacks policy.language)

/-- The verdict without questions. -/
def found (lexicon : Lexicon) (policy : Policy) (kind : Declaration.Kind) (name : String)
    (position : Nat) : Option Violation :=
  if policy.checks kind && phraseLacks lexicon policy kind name then
    match misspelled lexicon policy kind name with
    | [] => none
    | first :: others => some (violation policy kind name position first others)
  else none

theorem evaluate_answer (lexicon : Lexicon) (policy : Policy) (kind : Declaration.Kind)
    (name : String) (position : Nat) :
    (evaluate lexicon.answer policy kind name position).run =
      found lexicon policy kind name position := by
  have phrase : (lexicon.answer.phrase policy.language
      (" ".intercalate (checkedWords policy kind name))).run =
        phraseLacks lexicon policy kind name := by
    rw [Inquiry.phrase,Lexicon.anyUnknown_answer,Text.pieces_intercalate,phraseLacks]
  have single : (lexicon.answer.allUnknown policy.language (checkedWords policy kind name)).run =
      misspelled lexicon policy kind name := Lexicon.allUnknown_answer ..
  unfold evaluate
  cases checked : policy.checks kind with
  | false => simp [found,checked]
  | true =>
    cases nothing : (checkedWords policy kind name).isEmpty with
    | true => simp [found,phraseLacks,List.isEmpty_iff.mp nothing]
    | false =>
      simp only [Bool.not_true,Bool.false_eq_true,if_false,nothing,Id.run_bind,phrase,found,
        checked,Bool.true_and]
      cases phraseLacks lexicon policy kind name with
      | false => rfl
      | true =>
        simp only [Bool.not_true,Bool.false_eq_true,if_false,if_true,Id.run_bind,single]
        cases misspelled lexicon policy kind name <;> rfl

theorem evaluate_eq_found {lexicon : Lexicon} {policy : Policy}
    (known : lexicon.knows policy.language = true) (kind : Declaration.Kind) (name : String)
    (position : Nat) :
    evaluate lexicon.isUnknown policy kind name position =
      .ok (found lexicon policy kind name position) := by
  rw [← evaluate_answer]
  exact Simulation.answering.evaluate (Lexicon.answering_isUnknown known) kind name position

theorem ofDeclaration_answer (lexicon : Lexicon) (policy : Policy) (declaration : Declaration) :
    (ofDeclaration lexicon.answer policy declaration).run =
      if declaration.isOverride then none
      else match declaration.anchor?,declaration.checkable? with
        | some anchor,some (name,dropped) =>
          (found lexicon policy declaration.kind name (Location.behind anchor dropped)).map
            (·.withHelp Rule.identifierSpelling.description)
        | _,_ => none := by
  unfold ofDeclaration
  cases declaration.isOverride with
  | true => rfl
  | false =>
    cases declaration.anchor? with
    | none => rfl
    | some anchor =>
      cases declaration.checkable? with
      | none => rfl
      | some checkable =>
        dsimp only
        rw [← evaluate_answer]
        rfl

/-- The characters of a word that is looked up are those of the name. -/
theorem mem_of_mem_checkedWords {policy : Policy} {kind : Declaration.Kind} {name word : String}
    {c : Char} (member : word ∈ checkedWords policy kind name) (inside : c ∈ word.toList) :
    c ∈ name.toList := by
  have spelledOut := Identifier.mem_of_mem_words (List.mem_filter.mp member).1 inside
  rw [spelled] at spelledOut
  split at spelledOut
  · rw [String.toList_ofList] at spelledOut
    exact (List.takeWhile_subset _) spelledOut
  · exact spelledOut

/-- A name without blanks has its words for pieces. -/
theorem pieces_checkedWords {policy : Policy} {kind : Declaration.Kind} {name : String}
    (plain : ∀ c ∈ name.toList, Text.isBlank c = false) :
    (checkedWords policy kind name).flatMap Text.pieces = checkedWords policy kind name := by
  apply Text.flatMap_pieces
  intro word member
  apply Text.pieces_of_noBlank
  · intro c inside
    exact plain c (mem_of_mem_checkedWords member inside)
  · exact Identifier.ne_empty_of_mem_words (List.mem_filter.mp member).1

theorem found_eq_some_iff {lexicon : Lexicon} {policy : Policy} {kind : Declaration.Kind}
    {name : String} {position : Nat} {v : Violation} :
    found lexicon policy kind name position = some v ↔
      policy.checks kind = true ∧ phraseLacks lexicon policy kind name = true ∧
        ∃ first others, misspelled lexicon policy kind name = first :: others ∧
          violation policy kind name position first others = v := by
  cases words : misspelled lexicon policy kind name <;> simp [found,words,and_assoc]

theorem ofDeclaration_of_misspelled {lexicon : Lexicon} {policy : Policy} {declaration : Declaration}
    {anchor dropped : Nat} {name first : String} {others : List String}
    (own : declaration.isOverride = false) (anchored : declaration.anchor? = some anchor)
    (checkable : declaration.checkable? = some (name,dropped))
    (checked : policy.checks declaration.kind = true)
    (lacking : phraseLacks lexicon policy declaration.kind name = true)
    (listed : misspelled lexicon policy declaration.kind name = first :: others) :
    (ofDeclaration lexicon.answer policy declaration).run =
      some ((violation policy declaration.kind name (Location.behind anchor dropped) first
        others).withHelp Rule.identifierSpelling.description) := by
  have reported : found lexicon policy declaration.kind name (Location.behind anchor dropped) = _ :=
    found_eq_some_iff.mpr ⟨checked,lacking,first,others,listed,rfl⟩
  simp [ofDeclaration_answer,own,anchored,checkable,reported]

theorem evaluate_eq_violation {lexicon : Lexicon} {policy : Policy}
    (known : lexicon.knows policy.language = true) {kind : Declaration.Kind} {name : String}
    {first : String} {others : List String} (checked : policy.checks kind = true)
    (lacking : phraseLacks lexicon policy kind name = true)
    (listed : misspelled lexicon policy kind name = first :: others) (position : Nat) :
    evaluate lexicon.isUnknown policy kind name position =
      .ok (some (violation policy kind name position first others)) := by
  rw [evaluate_eq_found known,Except.ok.injEq]
  exact found_eq_some_iff.mpr ⟨checked,lacking,first,others,listed,rfl⟩

/-- A report lists all words that are looked up and lacking. -/
theorem misspelled_of_evaluate {lexicon : Lexicon} {policy : Policy}
    (known : lexicon.knows policy.language = true) {kind : Declaration.Kind} {name : String}
    {position : Nat} {v : Violation}
    (reported : evaluate lexicon.isUnknown policy kind name position = .ok (some v)) :
    v.misspelled = misspelled lexicon policy kind name := by
  rw [evaluate_eq_found known,Except.ok.injEq,found_eq_some_iff] at reported
  obtain ⟨_,_,first,others,listed,rfl⟩ := reported
  exact listed.symm

theorem exists_found_iff {lexicon : Lexicon} {policy : Policy} {kind : Declaration.Kind}
    {name : String} {position : Nat} :
    (∃ v, found lexicon policy kind name position = some v) ↔
      policy.checks kind = true ∧
        (∃ word ∈ checkedWords policy kind name, lexicon.lacks policy.language word = true) ∧
        phraseLacks lexicon policy kind name = true := by
  simp only [found_eq_some_iff]
  constructor
  · rintro ⟨_,checked,phrase,first,others,words,_⟩
    have member : first ∈ misspelled lexicon policy kind name := by simp [words]
    exact ⟨checked,⟨first,List.mem_filter.mp member⟩,phrase⟩
  · rintro ⟨checked,⟨word,member,bad⟩,phrase⟩
    have listed : word ∈ misspelled lexicon policy kind name := List.mem_filter.mpr ⟨member,bad⟩
    obtain ⟨first,others,words⟩ := List.exists_cons_of_ne_nil (List.ne_nil_of_mem listed)
    exact ⟨_,checked,phrase,first,others,words,rfl⟩

/-- With a language that is known, a name is reported exactly if its kind is checked and
lacking words stand among those looked up, both whole and as pieces of the phrase; the report
lists all of them. Without blanks the phrase adds nothing to the words. -/
theorem evaluate_iff_lacks {lexicon : Lexicon} {policy : Policy}
    (known : lexicon.knows policy.language = true) (kind : Declaration.Kind) (name : String)
    (position : Nat) :
    let words := checkedWords policy kind name
    let bad := lexicon.lacks policy.language
    let verdict := evaluate lexicon.isUnknown policy kind name position
    ((∃ v, verdict = .ok (some v)) ↔
      policy.checks kind = true ∧ (∃ word ∈ words, bad word = true) ∧
        ∃ word ∈ words, ∃ piece ∈ Text.pieces word, bad piece = true) ∧
    ((¬∃ v, verdict = .ok (some v)) → verdict = .ok none) ∧
    (∀ v, verdict = .ok (some v) →
      v.misspelled = words.filter bad ∧ v.name = some name ∧ v.severity = policy.severity ∧
      v.message = kind.label ++ " '" ++ name ++ "' contains incorrectly spelled word(s): " ++
        ", ".intercalate (v.misspelled.map fun word => "'" ++ word ++ "'")) ∧
    ((∀ c ∈ name.toList, Text.isBlank c = false) →
      ((∃ v, verdict = .ok (some v)) ↔
        policy.checks kind = true ∧ ∃ word ∈ words, bad word = true)) := by
  intro words bad verdict
  have closed : verdict = .ok (found lexicon policy kind name position) :=
    evaluate_eq_found known kind name position
  have listed : misspelled lexicon policy kind name = words.filter bad := rfl
  have reported : (∃ v, verdict = .ok (some v)) ↔
      ∃ v, found lexicon policy kind name position = some v := by simp [closed]
  refine ⟨?_,?_,?_,?_⟩
  · rw [reported,exists_found_iff]
    simp [phraseLacks,words,bad]
  · intro unreported
    rw [reported,not_exists] at unreported
    rw [closed,Option.eq_none_iff_forall_ne_some.mpr unreported]
  · intro v result
    rw [closed,Except.ok.injEq,found_eq_some_iff] at result
    obtain ⟨_,_,first,others,eq,rfl⟩ := result
    exact ⟨eq.symm.trans listed,rfl,rfl,rfl⟩
  · intro plain
    rw [reported,exists_found_iff,phraseLacks,pieces_checkedWords plain]
    simp [words,bad]

/-- Two words of a name are lacking and alike. -/
theorem evaluate_repeated_words :
    let lexicon := Lexicon.empty.addWords "en" ["my"]
    lexicon.knows Policy.default.language = true ∧
      ∃ v, evaluate lexicon.isUnknown .default .varGlobal "myVersonXMLVerson" 100 = .ok (some v) ∧
        v.misspelled = ["Verson","Verson"] := by
  intro lexicon
  have known : lexicon.knows Policy.default.language = true := by
    simp [lexicon,Policy.default]
  have words : checkedWords .default .varGlobal "myVersonXMLVerson" = ["Verson","Verson"] := by
    decide +kernel
  have plain : ∀ c ∈ "myVersonXMLVerson".toList, Text.isBlank c = false := by
    intro c member
    have all : "myVersonXMLVerson".toList.all (!Text.isBlank ·) = true := by decide +kernel
    simpa using List.all_eq_true.mp all c member
  have lacking : lexicon.lacks Policy.default.language "Verson" = true := by
    rw [Policy.default,Lexicon.lacks_addWords,Lexicon.lacks_empty]
    decide +kernel
  have verdict := evaluate_iff_lacks known .varGlobal "myVersonXMLVerson" 100
  obtain ⟨v,reported⟩ := (verdict.2.2.2 plain).mpr
    ⟨rfl,"Verson",by simp [words],lacking⟩
  refine ⟨known,v,reported,?_⟩
  rw [(verdict.2.2.1 v reported).1,words]
  simp [lacking]

end Verdict
end Orthography
