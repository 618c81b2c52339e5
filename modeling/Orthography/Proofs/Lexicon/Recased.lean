import Orthography.Policy
import Orthography.Proofs.Lexicon.History
import Orthography.Proofs.Lexicon.WordList
import Orthography.Proofs.Text.Lowercase

/-! The case of letters. Words are kept and looked up in lower case, so that neither the case in
which they are given nor that in which they are asked for makes a difference. -/
namespace Orthography

open Text (Recased)

namespace Lexicon

theorem entry_toLower (word : String) : entry word.toLower = entry word := by
  rw [entry,Text.trim_toLower,Text.lower_toLower,entry]

theorem wordOf_map_toLower (line : List Char) :
    wordOf (line.map Char.toLower) = (wordOf line).map String.toLower := by
  have hash (cs : List Char) :
      ((cs.map Char.toLower).head? == some '#') = (cs.head? == some '#') := by
    cases cs with
    | nil => rfl
    | cons c rest =>
      have same : c.toLower = '#' ↔ c = '#' := Text.toLower_eq_iff (by decide)
      rw [Bool.eq_iff_iff]
      simp [same]
  have slash : (· != '/') ∘ Char.toLower = (· != '/') := by
    funext c
    have same : c.toLower = '/' ↔ c = '/' := Text.toLower_eq_iff (by decide)
    rw [Bool.eq_iff_iff]
    simp [same]
  rw [wordOf,wordOf,Text.trimChars_map_toLower,List.isEmpty_map,hash,List.takeWhile_map,slash]
  split
  next => rfl
  next =>
    rw [List.map_singleton]
    congr 1
    apply String.toList_injective
    rw [String.toList_ofList,Text.toList_toLower,String.toList_ofList]

/-- A list is not laid out with letters. -/
theorem listedWords_toLower (text : String) :
    listedWords text.toLower = (listedWords text).map String.toLower := by
  rw [listedWords_eq,listedWords_eq,Text.toList_toLower,Text.splitAt_map_toLower (by decide),
    List.flatMap_map,List.map_flatMap]
  simp only [wordOf_map_toLower]

theorem addWords_toLower (lexicon : Lexicon) (language : String) (words : List String) :
    lexicon.addWords language (words.map String.toLower) = lexicon.addWords language words := by
  have entries : (words.map String.toLower).map entry = words.map entry := by
    rw [List.map_map]
    exact List.map_congr_left fun word _ => entry_toLower word
  rw [addWords,entries,addWords]

theorem addList_toLower (lexicon : Lexicon) (language text : String) :
    lexicon.addList language (.ok text.toLower) = lexicon.addList language (.ok text) := by
  rw [addList,addList,listedWords_toLower,List.length_map,addWords_toLower]

theorem isUnknown_toLower (lexicon : Lexicon) (language word : String) :
    lexicon.isUnknown language word.toLower = lexicon.isUnknown language word := by
  rw [isUnknown,Text.any_isLetter_toLower,Text.lower_toLower,isUnknown]

theorem isUnknown_lower (lexicon : Lexicon) (language word : String) :
    lexicon.isUnknown language (Text.lower word) = lexicon.isUnknown language word := by
  rw [isUnknown,Text.any_isLetter_lower,Text.lower_lower,isUnknown]

inductive Operation.Recased : Operation → Operation → Prop
  | add {language : String} {words others : List String}
      (alike : List.Forall₂ Text.Recased words others) :
      Recased (.add language words) (.add language others)
  | load {language text other : String} (alike : Text.Recased text other) :
      Recased (.load language (.ok text)) (.load language (.ok other))
  | unreadable {language : String} {cause : Files.Fault} :
      Recased (.load language (.error cause)) (.load language (.error cause))

theorem addWords_recased {words others : List String} (alike : List.Forall₂ Recased words others)
    (lexicon : Lexicon) (language : String) :
    lexicon.addWords language others = lexicon.addWords language words := by
  rw [← addWords_toLower,Recased.map_toLower_eq alike,addWords_toLower]

theorem addList_recased {text other : String} (alike : Recased text other) (lexicon : Lexicon)
    (language : String) :
    lexicon.addList language (.ok other) = lexicon.addList language (.ok text) := by
  rw [← addList_toLower,alike.toLower_eq,addList_toLower]

theorem Operation.Recased.perform_eq {operation other : Operation}
    (recased : Operation.Recased operation other) (lexicon : Lexicon) :
    other.perform lexicon = operation.perform lexicon := by
  cases recased with
  | add alike => rw [perform,addWords_recased alike,perform]
  | load alike => rw [perform,addList_recased alike,perform]
  | unreadable => rfl

theorem foldl_apply_recased {history other : List Operation}
    (recased : List.Forall₂ Operation.Recased history other) (lexicon : Lexicon) :
    other.foldl (fun lexicon operation => operation.apply lexicon) lexicon =
      history.foldl (fun lexicon operation => operation.apply lexicon) lexicon := by
  induction recased generalizing lexicon with
  | nil => rfl
  | cons first _ ih =>
    rw [List.foldl_cons,List.foldl_cons,ih,Operation.apply,first.perform_eq,Operation.apply]

end Lexicon

namespace Policy

theorem isExcluded_toLower (policy : Policy) (word : String) :
    policy.isExcluded word.toLower = policy.isExcluded word := by
  rw [isExcluded,Text.lower_toLower,isExcluded]

theorem isExcluded_lower (policy : Policy) (word : String) :
    policy.isExcluded (Text.lower word) = policy.isExcluded word := by
  rw [isExcluded,Text.lower_lower,isExcluded]

theorem withExcluded_toLower (policy : Policy) (words : List String) :
    policy.withExcluded (words.map String.toLower) = policy.withExcluded words := by
  have lowered : (words.map String.toLower).map Text.lower = words.map Text.lower := by
    rw [List.map_map]
    exact List.map_congr_left fun word _ => Text.lower_toLower word
  rw [withExcluded,lowered,withExcluded]

theorem withExcluded_recased {words others : List String}
    (alike : List.Forall₂ Recased words others) (policy : Policy) :
    policy.withExcluded others = policy.withExcluded words := by
  rw [← withExcluded_toLower,Recased.map_toLower_eq alike,withExcluded_toLower]

/-- A value whose text, maybe under tags, may have letters of another case. -/
inductive RecasedText : Untyped → Untyped → Prop
  | same {value : Untyped} : RecasedText value value
  | text {word other : String} (alike : Recased word other) : RecasedText (.text word) (.text other)
  | tagged {tag : String} {value other : Untyped} (alike : RecasedText value other) :
      RecasedText (.tagged tag value) (.tagged tag other)

inductive RecasedWords : Untyped → Untyped → Prop
  | word {value other : Untyped} (alike : RecasedText value other) : RecasedWords value other
  | words {items others : List Untyped} (alike : List.Forall₂ RecasedText items others) :
      RecasedWords (.list items) (.list others)

/-- An entry of the options; only words to exclude may be in another case. -/
inductive RecasedEntry : Untyped × Untyped → Untyped × Untyped → Prop
  | same {entry : Untyped × Untyped} : RecasedEntry entry entry
  | excluded {key value other : Untyped} (named : key.text? = some Setting.excluded.name)
      (alike : RecasedWords value other) : RecasedEntry (key,value) (key,other)

theorem RecasedText.text?_eq {value other : Untyped} (alike : RecasedText value other) :
    other.text?.map String.toLower = value.text?.map String.toLower := by
  induction alike with
  | same => rfl
  | text alike => exact congrArg some alike.toLower_eq
  | tagged _ ih => exact ih

theorem map_mapM_text? (items : List Untyped) :
    (items.mapM Untyped.text?).map (List.map String.toLower) =
      items.mapM fun item => item.text?.map String.toLower := by
  induction items with
  | nil => rfl
  | cons item items ih =>
    rw [List.mapM_cons,List.mapM_cons,← ih]
    cases item.text? <;> cases items.mapM Untyped.text? <;> rfl

theorem RecasedText.mapM_text?_eq {items others : List Untyped}
    (alike : List.Forall₂ RecasedText items others) :
    (others.mapM Untyped.text?).map (List.map String.toLower) =
      (items.mapM Untyped.text?).map (List.map String.toLower) := by
  rw [map_mapM_text?,map_mapM_text?]
  induction alike with
  | nil => rfl
  | cons first _ ih => rw [List.mapM_cons,List.mapM_cons,first.text?_eq,ih]

theorem RecasedWords.words?_eq {value other : Untyped} (alike : RecasedWords value other) :
    (words? other).map (List.map String.toLower) = (words? value).map (List.map String.toLower) := by
  cases alike with
  | word alike =>
    cases alike with
    | same => rfl
    | text alike => simp [words?,alike.toLower_eq]
    | tagged => rfl
  | words alike => exact RecasedText.mapM_text?_eq alike

theorem RecasedEntry.setEntry_eq {entry other : Untyped × Untyped}
    (recased : RecasedEntry entry other) (policy : Policy) :
    policy.setEntry other = policy.setEntry entry := by
  cases recased with
  | same => rfl
  | @excluded key value other named alike =>
    have taken (value : Untyped) : policy.set? value .excluded =
        ((words? value).map (List.map String.toLower)).map
          { policy with excluded := [] }.withExcluded := by
      rw [set?,Option.map_map]
      congr 1
      funext words
      exact (withExcluded_toLower _ words).symm
    simp only [setEntry,named,Setting.ofName?_name,taken,alike.words?_eq]

theorem ofOptions_recased {entries others : List (Untyped × Untyped)}
    (recased : List.Forall₂ RecasedEntry entries others) :
    ofOptions (.mapping others) = ofOptions (.mapping entries) := by
  have taken (policy : Policy) : others.foldlM setEntry policy = entries.foldlM setEntry policy := by
    induction recased generalizing policy with
    | nil => rfl
    | cons first _ ih => simp only [List.foldlM_cons,first.setEntry_eq,ih]
  exact taken default

end Policy

/-- A word is answered like its lower case and like the word with ASCII letters of the other case,
by any lexicon and any policy. Words given in another case, one by one, in lists or as options,
leave the same lexicon and the same policy, and so the same answers to all that is asked later. -/
theorem answers_recased :
    (∀ word other, Recased word other → ∀ form ∈ [other,Text.lower word],
      (∀ (lexicon : Lexicon) language,
        lexicon.isUnknown language form = lexicon.isUnknown language word) ∧
      ∀ policy : Policy, policy.isExcluded form = policy.isExcluded word) ∧
    (∀ history other, List.Forall₂ Lexicon.Operation.Recased history other →
      ∀ lexicon, other.foldl (fun lexicon operation => operation.apply lexicon) lexicon =
        history.foldl (fun lexicon operation => operation.apply lexicon) lexicon) ∧
    (∀ text other, Recased text other → ∀ (lexicon : Lexicon) language,
      lexicon.addList language (.ok other) = lexicon.addList language (.ok text)) ∧
    (∀ words others, List.Forall₂ Recased words others →
      ∀ policy : Policy, policy.withExcluded others = policy.withExcluded words) ∧
    ∀ entries others, List.Forall₂ Policy.RecasedEntry entries others →
      Policy.ofOptions (.mapping others) = Policy.ofOptions (.mapping entries) := by
  refine ⟨?asked,fun history other recased lexicon => Lexicon.foldl_apply_recased recased lexicon,
    fun text other recased lexicon language => Lexicon.addList_recased recased lexicon language,
    fun words others recased policy => Policy.withExcluded_recased recased policy,
    fun entries others recased => Policy.ofOptions_recased recased⟩
  intro word other recased form member
  rcases List.mem_pair.mp member with rfl | rfl
  · constructor
    · intro lexicon language
      rw [← Lexicon.isUnknown_toLower,recased.toLower_eq,Lexicon.isUnknown_toLower]
    · intro policy
      rw [← Policy.isExcluded_toLower,recased.toLower_eq,Policy.isExcluded_toLower]
  · exact ⟨fun lexicon language => lexicon.isUnknown_lower language word,
      fun policy => policy.isExcluded_lower word⟩

/-- A capital sigma is final behind a letter of either case, and not in front of one. -/
theorem answers_recased_sigma :
    let lexicon := Lexicon.empty.addWords "el" ["xΣ","Σx"]
    let options (word : String) : List (Untyped × Untyped) :=
      [(.text "min_length",.integer 1),(.text "excluded",.list [.text word,.text "SDK"])]
    Recased "xΣ" "XΣ" ∧ Text.lower "xΣ" = "xς" ∧ lexicon.isUnknown "el" "xΣ" = .ok false ∧
      lexicon.isUnknown "el" "XΣ" = .ok false ∧ lexicon.isUnknown "el" "xς" = .ok false ∧
      lexicon.isUnknown "el" "xσ" = .ok true ∧
      (Lexicon.Operation.load "el" (.ok "# Σ\nXΣ/aB\n ΣX")).apply .empty =
        (Lexicon.Operation.load "el" (.ok "# Σ\nxΣ/AB\n Σx")).apply .empty ∧
      Policy.default.withExcluded ["XΣ"] = Policy.default.withExcluded ["xΣ"] ∧
      Policy.ofOptions (.mapping (options "XΣ")) = .ok ⟨"en",1,["sdk","xς"],.warning,true⟩ := by
  intro lexicon options
  obtain ⟨asked,histories,-,policies,entries⟩ := answers_recased
  have recased : Recased "xΣ" "XΣ" := .cons (.inr (.inl rfl)) (.cons (.inl rfl) .nil)
  have lowered : Text.lower "xΣ" = "xς" := by decide +kernel
  have known : lexicon.knows "el" = true := by simp [lexicon]
  have lacks : lexicon.lacks "el" = _ := Lexicon.lacks_empty_addWords "el" ["xΣ","Σx"]
  have word : lexicon.isUnknown "el" "xΣ" = .ok false := by
    rw [Lexicon.isUnknown_of_knows known,lacks]
    decide +kernel
  have inner : lexicon.isUnknown "el" "xσ" = .ok true := by
    rw [Lexicon.isUnknown_of_knows known,lacks]
    decide +kernel
  have capital := (asked _ _ recased "XΣ" (by simp)).1 lexicon "el"
  have small := (asked _ _ recased "xς" (by simp [lowered])).1 lexicon "el"
  have text : Recased "# Σ\nxΣ/AB\n Σx" "# Σ\nXΣ/aB\n ΣX" := by
    simp [Recased]
  have option : List.Forall₂ Policy.RecasedEntry (options "xΣ") (options "XΣ") :=
    .cons .same (.cons (.excluded rfl (.words (.cons (.text recased) (.cons .same .nil)))) .nil)
  refine ⟨recased,lowered,word,capital.trans word,small.trans word,inner,?_,?_,?_⟩
  · exact histories [_] [_] (.cons (.load text) .nil) .empty
  · exact policies _ _ (.cons recased .nil) .default
  · rw [entries _ _ option]
    decide +kernel

end Orthography
