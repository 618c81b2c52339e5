import Mathlib.Order.Bounds.Basic
import Orthography.Proofs.Verdict.Region

/-! The place of a report within the name. It is where the letters of the first misspelled word
occur first, which is the word's own place unless the same letters stand earlier in the name. -/
namespace Orthography

def Text.OccursAt (word text : String) (place : Nat) : Prop :=
  ∃ front back, text = front ++ word ++ back ∧ front.utf8ByteSize = place

/-- The search for a word ends at the first place where the word occurs. -/
theorem Text.isLeast_of_occurrence? {word text : String} {inside : Nat}
    (found : occurrence? word.toList text.toList = some inside) :
    IsLeast {place | OccursAt word text place} inside := by
  obtain ⟨front,back,split,size⟩ := occurrence?_eq_some found
  constructor
  · refine ⟨String.ofList front,String.ofList back,?_,by rw [utf8ByteSize_ofList,size]⟩
    apply String.toList_injective
    simp [split]
  · rintro place ⟨front,back,rfl,rfl⟩
    obtain ⟨first,again,le⟩ := exists_occurrence?_le front.toList word.toList back.toList
    have same : first = inside := by
      simp only [String.toList_append] at found
      exact Option.some.inj (again.symm.trans found)
    rw [← same,← byteLength_toList]
    exact le

theorem Text.OccursAt.add_le {word text : String} {place : Nat} (occurs : OccursAt word text place) :
    place + word.utf8ByteSize ≤ text.utf8ByteSize := by
  obtain ⟨front,back,rfl,rfl⟩ := occurs
  simp

theorem Text.utf8ByteSize_join (words : List String) :
    (String.join words).utf8ByteSize = (words.map String.utf8ByteSize).sum := by
  induction words with
  | nil => rfl
  | cons word rest ih => simp [ih]

namespace Verdict

def isMisspelled (lexicon : Lexicon) (policy : Policy) (word : String) : Bool :=
  lexicon.lacks policy.language word && (!policy.isExcluded word && !policy.isTooShort word)

/-- The length in bytes of all words in front of the first misspelled one. -/
def ownPlace (lexicon : Lexicon) (policy : Policy) (kind : Declaration.Kind) (name : String) : Nat :=
  let correct := (Identifier.words (spelled kind name)).takeWhile (!isMisspelled lexicon policy ·)
  (correct.map String.utf8ByteSize).sum

theorem misspelled_eq_filter (lexicon : Lexicon) (policy : Policy) (kind : Declaration.Kind)
    (name : String) : misspelled lexicon policy kind name =
      (Identifier.words (spelled kind name)).filter (isMisspelled lexicon policy) := by
  rw [misspelled,checkedWords,List.filter_filter]
  rfl

variable {lexicon : Lexicon} {policy : Policy} {kind : Declaration.Kind} {name first : String}
  {others : List String}

theorem find?_of_misspelled (listed : misspelled lexicon policy kind name = first :: others) :
    (Identifier.words (spelled kind name)).find? (isMisspelled lexicon policy) = some first := by
  rw [← List.head?_filter,← misspelled_eq_filter,listed]
  rfl

/-- The first misspelled word occurs at its own place, for the words of a name are its parts. -/
theorem occursAt_ownPlace (listed : misspelled lexicon policy kind name = first :: others) :
    Text.OccursAt first name (ownPlace lexicon policy kind name) := by
  rw [misspelled_eq_filter] at listed
  obtain ⟨before,after,cut,correct,wrong,-⟩ := List.filter_eq_cons_iff.mp listed
  obtain ⟨behind,whole⟩ := exists_append_spelled kind name
  have joined := Identifier.join_words (spelled kind name)
  have front : (Identifier.words (spelled kind name)).takeWhile
      (!isMisspelled lexicon policy ·) = before := by
    rw [cut,List.takeWhile_append_of_pos fun word member => by simpa using correct word member]
    simp [wrong]
  refine ⟨String.join before,String.join after ++ behind,?_,?_⟩
  · rw [whole,← joined,cut]
    simp [String.append_assoc]
  · rw [ownPlace,front,Text.utf8ByteSize_join]

/-- A report stands where the letters of the first misspelled word occur first in the name. That
is not behind the word's own place, which is at the end of all words in front of it. Where no place
of the name passes a machine word, the report stands at the own place exactly if the letters do not
occur earlier. -/
theorem offset_of_evaluate (known : lexicon.knows policy.language = true) {position : Nat}
    {v : Violation} (reported : evaluate lexicon.isUnknown policy kind name position = .ok (some v)) :
    let own := ownPlace lexicon policy kind name
    ∃ first inside,
      (Identifier.words (spelled kind name)).find? (isMisspelled lexicon policy) = some first ∧
      v.misspelled.head? = some first ∧ v.location.length = first.utf8ByteSize ∧
      v.location.offset = (position + inside) % 2 ^ 64 ∧
      IsLeast {place | Text.OccursAt first name place} inside ∧
      Text.OccursAt first name own ∧ inside ≤ own ∧ own + first.utf8ByteSize ≤ name.utf8ByteSize ∧
      (position + name.utf8ByteSize ≤ 2 ^ 64 - 1 → v.location.offset = position + inside ∧
        (v.location.offset = position + own ↔ ∀ place < own, ¬Text.OccursAt first name place)) := by
  intro own
  rw [evaluate_eq_found known,Except.ok.injEq,found_eq_some_iff] at reported
  obtain ⟨_,_,first,others,listed,rfl⟩ := reported
  have occurs : Text.OccursAt first name own := occursAt_ownPlace listed
  have room : own + first.utf8ByteSize ≤ name.utf8ByteSize := occurs.add_le
  have looked : first ∈ checkedWords policy kind name := by
    have member : first ∈ misspelled lexicon policy kind name := by simp [listed]
    exact (List.mem_filter.mp member).1
  obtain ⟨inside,found,-⟩ := exists_occurrence?_of_mem_checkedWords looked
  -- the search stops at the first of all places, of which the own place is one
  have least := Text.isLeast_of_occurrence? found
  have le : inside ≤ own := least.2 occurs
  rw [location_violation found]
  refine ⟨first,inside,find?_of_misspelled listed,rfl,rfl,rfl,least,occurs,le,room,fun fits => ?_⟩
  have noWrap : Location.behind position inside = position + inside := Location.behind_eq (by omega)
  refine ⟨noWrap,?_⟩
  simp only [noWrap]
  constructor
  · intro same place before earlier
    have bound : inside ≤ place := least.2 earlier
    omega
  · intro nowhere
    have atLeast : ¬inside < own := fun before => nowhere inside before least.1
    omega

/-- The wrong word `HTML` occurs first within the acronym `XHTML`. -/
theorem offset_within_acronym :
    let lexicon := Lexicon.empty.addWords "en" ["xhtml"]
    lexicon.knows Policy.default.language = true ∧
      ∃ v, evaluate lexicon.isUnknown .default .varLocal "XHTMLToHTML" 100 = .ok (some v) ∧
        IsLeast {place | Text.OccursAt "HTML" "XHTMLToHTML" place} (v.location.offset - 100) ∧
        v.location.offset ≤ 100 + ownPlace lexicon .default .varLocal "XHTMLToHTML" := by
  intro lexicon
  have known : lexicon.knows Policy.default.language = true := by
    simp [lexicon,Policy.default]
  have looked : checkedWords .default .varLocal "XHTMLToHTML" = ["XHTML","HTML"] := by
    decide +kernel
  have pieces : ["XHTML","HTML"].flatMap Text.pieces = ["XHTML","HTML"] := by decide +kernel
  have lacking : lexicon.lacks Policy.default.language "XHTML" = false ∧
      lexicon.lacks Policy.default.language "HTML" = true := by
    rw [Policy.default,Lexicon.lacks_addWords,Lexicon.lacks_addWords]
    simp only [Lexicon.lacks_empty]
    decide +kernel
  have listed : misspelled lexicon .default .varLocal "XHTMLToHTML" = ["HTML"] := by
    simp [misspelled,looked,lacking]
  have phrase : phraseLacks lexicon .default .varLocal "XHTMLToHTML" = true := by
    simp [phraseLacks,looked,pieces,lacking]
  have reported := evaluate_eq_violation known rfl phrase listed 100
  obtain ⟨first,inside,_,head,_,_,least,_,le,_,fits⟩ := offset_of_evaluate known reported
  obtain rfl := Option.some.inj head
  obtain ⟨offset,-⟩ := fits (by decide +kernel)
  refine ⟨known,_,reported,?_,?_⟩
  · rw [offset,Nat.add_sub_cancel_left]
    exact least
  · rw [offset]
    exact Nat.add_le_add_left le 100

/-- The wrong word `Info` is told to stand where the right word `Information` begins. -/
theorem offset_before_ownPlace :
    let lexicon := Lexicon.empty.addWords "en" ["information"]
    lexicon.knows Policy.default.language = true ∧ Policy.default.checks .classType = true ∧
      ∃ v, evaluate lexicon.isUnknown .default .classType "InformationInfo" 100 = .ok (some v) ∧
        v.misspelled = ["Info"] ∧ v.location.offset = 100 ∧
        v.location.offset ≠ 100 + ownPlace lexicon .default .classType "InformationInfo" := by
  intro lexicon
  have known : lexicon.knows Policy.default.language = true := by
    simp [lexicon,Policy.default]
  have words : Identifier.words (spelled .classType "InformationInfo") =
      ["Information","Info"] := by decide +kernel
  have looked : checkedWords .default .classType "InformationInfo" = ["Information","Info"] := by
    decide +kernel
  have pieces : ["Information","Info"].flatMap Text.pieces = ["Information","Info"] := by
    decide +kernel
  have lacking : lexicon.lacks Policy.default.language "Information" = false ∧
      lexicon.lacks Policy.default.language "Info" = true := by
    rw [Policy.default,Lexicon.lacks_addWords,Lexicon.lacks_addWords]
    simp only [Lexicon.lacks_empty]
    decide +kernel
  have listed : misspelled lexicon .default .classType "InformationInfo" = ["Info"] := by
    simp [misspelled,looked,lacking]
  have phrase : phraseLacks lexicon .default .classType "InformationInfo" = true := by
    simp [phraseLacks,looked,pieces,lacking]
  have own : ownPlace lexicon .default .classType "InformationInfo" = 11 := by
    have size : "Information".utf8ByteSize = 11 := by decide +kernel
    have checked : Policy.default.isExcluded "Info" = false ∧
        Policy.default.isTooShort "Info" = false := by decide +kernel
    simp [ownPlace,words,isMisspelled,lacking,checked,size]
  have reported := evaluate_eq_violation known rfl phrase listed 100
  have first : Text.occurrence? "Info".toList "InformationInfo".toList = some 0 := by
    decide +kernel
  have begins : (violation .default .classType "InformationInfo" 100 "Info" []).location.offset =
      100 := by
    rw [location_violation first,Location.behind_eq (by decide)]
  refine ⟨known,rfl,_,reported,rfl,begins,?_⟩
  rw [begins,own]
  decide

end Verdict
end Orthography
