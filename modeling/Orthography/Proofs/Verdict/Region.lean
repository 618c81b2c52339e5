import Mathlib.Algebra.Ring.Nat
import Orthography.Proofs.Verdict.Misspelled

/-! The region of a report. It is put together from the place of the declaration, the underscore
that a private name drops, the first occurrence of the word in the name and the length of the
word; in the source it is the first misspelled word. -/
namespace Orthography

theorem Location.behind_eq {place bytes : Nat} (noWrap : place + bytes < 2 ^ 64) :
    behind place bytes = place + bytes :=
  Nat.mod_eq_of_lt noWrap

namespace Verdict

open MonadAttach (CanReturn)
open LawfulMonadAttach (eq_of_canReturn_pure canReturn_bind_imp')

section Value

variable {ε : Type}

/-- What a computation that may fail can return is its value. -/
instance attachExcept : MonadAttach (Except ε) where
  CanReturn x a := x = .ok a
  attach
    | .ok a => .ok ⟨a,rfl⟩
    | .error fault => .error fault

instance lawfulAttachExcept : LawfulMonadAttach (Except ε) where
  map_attach {_ x} := by cases x <;> rfl
  canReturn_map_imp {_ P x a} returned := by
    cases x with
    | error fault => exact nomatch returned
    | ok value => exact Except.ok.inj returned ▸ value.property

end Value

section Phrase

variable {m : Type → Type} [Monad m]

/-- The verdict on a name with a question of its own about the phrase, as a checker may have that
does not take phrases apart. -/
def evaluateBy (phrase ask : Inquiry m) (policy : Policy) (kind : Declaration.Kind)
    (name : String) (position : Nat) : m (Option Violation) := do
  if !policy.checks kind then return none
  let words := checkedWords policy kind name
  if words.isEmpty then return none
  if !(← phrase policy.language (" ".intercalate words)) then return none
  match ← ask.allUnknown policy.language words with
  | [] => return none
  | first :: others => return some (violation policy kind name position first others)

def ofDeclarationBy (phrase ask : Inquiry m) (policy : Policy) (declaration : Declaration) :
    m (Option Violation) := do
  if declaration.isOverride then return none
  match declaration.anchor?, declaration.checkable? with
  | some anchor, some (name,dropped) =>
    let found ← evaluateBy phrase ask policy declaration.kind name (Location.behind anchor dropped)
    return found.map (·.withHelp Rule.identifierSpelling.description)
  | _, _ => return none

theorem ofDeclaration_eq_by (ask : Inquiry m) (policy : Policy) (declaration : Declaration) :
    ofDeclaration ask policy declaration = ofDeclarationBy ask.phrase ask policy declaration :=
  rfl

end Phrase

section Answers

variable {m : Type → Type} [Monad m] [LawfulMonad m] [MonadAttach m] [LawfulMonadAttach m]

/-- Whatever is answered, the unknown words are some of those that were asked, in their order. -/
theorem sublist_of_allUnknown {ask : Inquiry m} {language : String} {words unknown : List String}
    (answered : CanReturn (ask.allUnknown language words) unknown) : unknown.Sublist words := by
  induction words generalizing unknown with
  | nil =>
    obtain rfl := eq_of_canReturn_pure answered
    exact List.Sublist.refl []
  | cons word rest ih =>
    obtain ⟨isUnknown,_,answered⟩ := canReturn_bind_imp' answered
    obtain ⟨others,later,answered⟩ := canReturn_bind_imp' answered
    obtain rfl := eq_of_canReturn_pure answered
    cases isUnknown with
    | true => exact (ih later).cons_cons word
    | false => exact (ih later).cons word

/-- A report is about words that are looked up, whatever the answers were. -/
theorem eq_violation_of_evaluateBy {phrase ask : Inquiry m} {policy : Policy}
    {kind : Declaration.Kind} {name : String} {position : Nat} {v : Violation}
    (reported : CanReturn (evaluateBy phrase ask policy kind name position) (some v)) :
    ∃ first others, first ∈ checkedWords policy kind name ∧
      v = violation policy kind name position first others := by
  unfold evaluateBy at reported
  split at reported
  next => exact nomatch eq_of_canReturn_pure reported
  extract_lets words at reported
  split at reported
  next => exact nomatch eq_of_canReturn_pure reported
  obtain ⟨unknown,_,reported⟩ := canReturn_bind_imp' reported
  split at reported
  next => exact nomatch eq_of_canReturn_pure reported
  obtain ⟨misspelled,answered,reported⟩ := canReturn_bind_imp' reported
  cases misspelled with
  | nil => exact nomatch eq_of_canReturn_pure reported
  | cons first others =>
    have member : first ∈ words := (sublist_of_allUnknown answered).subset List.mem_cons_self
    exact ⟨first,others,member,(Option.some.inj (eq_of_canReturn_pure reported)).symm⟩

theorem eq_violation_of_ofDeclarationBy {phrase ask : Inquiry m} {policy : Policy}
    {declaration : Declaration} {v : Violation}
    (reported : CanReturn (ofDeclarationBy phrase ask policy declaration) (some v)) :
    ∃ anchor name dropped first others, declaration.anchor? = some anchor ∧
      declaration.checkable? = some (name,dropped) ∧
      first ∈ checkedWords policy declaration.kind name ∧
      v = (violation policy declaration.kind name (Location.behind anchor dropped) first
        others).withHelp Rule.identifierSpelling.description := by
  unfold ofDeclarationBy at reported
  split at reported
  next => exact nomatch eq_of_canReturn_pure reported
  split at reported
  next anchor name dropped anchored named =>
    obtain ⟨found,evaluated,reported⟩ := canReturn_bind_imp' reported
    have given := eq_of_canReturn_pure reported
    obtain ⟨plain,rfl,rfl⟩ := Option.map_eq_some_iff.mp given
    obtain ⟨first,others,member,rfl⟩ := eq_violation_of_evaluateBy evaluated
    exact ⟨anchor,name,dropped,first,others,anchored,named,member,rfl⟩
  next => exact nomatch eq_of_canReturn_pure reported

end Answers

/-- A function's parameters begin at the first parenthesis, and all in front of it is spelled. -/
theorem exists_append_spelled (kind : Declaration.Kind) (name : String) :
    ∃ behind, name = spelled kind name ++ behind := by
  unfold spelled
  split
  · refine ⟨String.ofList (name.toList.dropWhile (· != '(')),?_⟩
    rw [← String.ofList_append,List.takeWhile_append_dropWhile,String.ofList_toList]
  · exact ⟨"",(String.append_empty).symm⟩

/-- A word that is looked up is found in the name, and its first occurrence lies in the part that
is spelled: it is not behind the occurrence that the word was cut from. -/
theorem exists_occurrence?_of_mem_checkedWords {policy : Policy} {kind : Declaration.Kind}
    {name word : String} (member : word ∈ checkedWords policy kind name) :
    ∃ inside, Text.occurrence? word.toList name.toList = some inside ∧
      inside + word.utf8ByteSize ≤ (spelled kind name).utf8ByteSize := by
  obtain ⟨front,back,cut⟩ := Identifier.exists_split_of_mem_words (List.mem_filter.mp member).1
  obtain ⟨behind,whole⟩ := exists_append_spelled kind name
  have shape : name.toList = front ++ word.toList ++ (back ++ behind.toList) := by
    rw [whole,String.toList_append,cut]
    simp
  obtain ⟨inside,found,le⟩ := Text.exists_occurrence?_le front word.toList (back ++ behind.toList)
  refine ⟨inside,by rw [shape,found],?_⟩
  have total : (spelled kind name).utf8ByteSize =
      Text.byteLength front + word.utf8ByteSize + Text.byteLength back := by
    simpa [Nat.add_assoc] using congrArg Text.byteLength cut
  omega

theorem passes_of_not_mem {text : String} (free : '(' ∉ text.toList) :
    ∀ c ∈ text.toList, (c != '(') = true :=
  fun _ member => bne_iff_ne.mpr fun same => free (same ▸ member)

/-- The part of a name that is spelled ends at the first parenthesis, also if the name follows
something without any. -/
theorem utf8ByteSize_spelled {kind : Declaration.Kind} {lead name before after : String}
    (function : kind.isFunction = true) (whole : lead ++ name = before ++ "(" ++ after)
    (leadFree : '(' ∉ lead.toList) (beforeFree : '(' ∉ before.toList) :
    lead.utf8ByteSize + (spelled kind name).utf8ByteSize = before.utf8ByteSize := by
  have cut : lead.toList ++ name.toList.takeWhile (· != '(') = before.toList := by
    have chars := congrArg (fun text : String => text.toList.takeWhile (· != '(')) whole
    simpa [List.takeWhile_append_of_pos (passes_of_not_mem leadFree),
      List.takeWhile_append_of_pos (passes_of_not_mem beforeFree)] using chars
  rw [spelled,if_pos function,Text.utf8ByteSize_ofList]
  simpa using congrArg Text.byteLength cut

/-- The raw name is what is dropped from it and the name that is spelled. -/
theorem exists_lead_of_checkable? {declaration : Declaration} {name : String} {dropped : Nat}
    (checkable : declaration.checkable? = some (name,dropped)) :
    ∃ lead, declaration.rawName? = some (lead ++ name) ∧ lead.utf8ByteSize = dropped ∧
      '(' ∉ lead.toList ∧
      (declaration.accessibility.isPrivate = true → (lead ++ name).toList.head? = some '_' →
        dropped = 1) := by
  obtain ⟨raw,named,eq⟩ := Option.map_eq_some_iff.mp checkable
  split at eq
  next rest underscored =>
    split at eq
    next =>
      obtain ⟨rfl,rfl⟩ := Prod.mk.inj eq
      have whole : "_" ++ String.ofList rest = raw :=
        String.toList_injective (by simp [underscored])
      exact ⟨"_",by rw [whole,named],rfl,by decide,fun _ _ => rfl⟩
    next «open» =>
      obtain ⟨rfl,rfl⟩ := Prod.mk.inj eq
      refine ⟨"",by rw [String.empty_append,named],rfl,by simp,fun isPrivate => ?_⟩
      exact absurd isPrivate «open»
  next plain =>
    obtain ⟨rfl,rfl⟩ := Prod.mk.inj eq
    refine ⟨"",by rw [String.empty_append,named],rfl,by simp,fun _ starts => ?_⟩
    obtain ⟨rest,underscored⟩ := List.head?_eq_some_iff.mp starts
    exact absurd underscored (by simpa using plain rest)

section Parts

variable (front part back : String)

theorem isValid_ends : (⟨front.utf8ByteSize⟩ : String.Pos.Raw).IsValid (front ++ part ++ back) ∧
    (⟨front.utf8ByteSize + part.utf8ByteSize⟩ : String.Pos.Raw).IsValid (front ++ part ++ back) := by
  constructor
  · rw [String.append_assoc]
    exact String.Pos.Raw.isValid_rawEndPos.append_right _
  · rw [← String.utf8ByteSize_append]
    exact String.Pos.Raw.isValid_rawEndPos.append_right _

variable {front part back} in
/-- The bytes of a part of a text, where the text stands in a source. -/
theorem extract_part {source : ByteArray} {start : Nat}
    (stands : source.extract start (start + (front ++ part ++ back).utf8ByteSize) =
      (front ++ part ++ back).toUTF8) :
    source.extract (start + front.utf8ByteSize) (start + front.utf8ByteSize + part.utf8ByteSize) =
      part.toUTF8 := by
  have room : start + front.utf8ByteSize + part.utf8ByteSize ≤
      start + (front ++ part ++ back).utf8ByteSize := by
    simp only [String.utf8ByteSize_append]
    omega
  have inText : (front ++ part ++ back).toUTF8.extract (front.utf8ByteSize + 0)
      (front.utf8ByteSize + part.utf8ByteSize) = part.toUTF8 := by
    simp only [String.toUTF8_eq_toByteArray,String.toByteArray_append,ByteArray.append_assoc,
      ← String.size_toByteArray,ByteArray.extract_append_size_add]
    exact ByteArray.extract_append_eq_left rfl
  calc
    _ = (source.extract start (start + (front ++ part ++ back).utf8ByteSize)).extract
        (front.utf8ByteSize + 0) (front.utf8ByteSize + part.utf8ByteSize) := by
      rw [ByteArray.extract_extract,← Nat.add_assoc,← Nat.add_assoc,Nat.min_eq_left room,
        Nat.add_zero]
    _ = part.toUTF8 := by rw [stands,inText]

end Parts

/-- What is true of the region of a report if the raw name of the declaration stands at its
anchor in a source. The end of the source is no further than a machine word can tell. -/
structure Region (source : ByteArray) (declaration : Declaration) (raw : String) (anchor : Nat)
    (first : String) (location : Location) : Prop where
  word : source.extract location.offset (location.offset + location.length) = first.toUTF8
  full : 0 < location.length
  starts : anchor ≤ location.offset
  ends : location.offset + location.length ≤ anchor + raw.utf8ByteSize
  underscore : declaration.accessibility = .private ∨ declaration.accessibility = .fileprivate →
    raw.toList.head? = some '_' → anchor + 1 ≤ location.offset
  parameters : declaration.kind.isFunction = true → ∀ before after, raw = before ++ "(" ++ after →
    '(' ∉ before.toList → location.offset + location.length ≤ anchor + before.utf8ByteSize
  /-- The word is found in the name, and each sum on the way fits a machine word. -/
  found : ∃ name dropped inside, declaration.checkable? = some (name,dropped) ∧
    Text.occurrence? first.toList name.toList = some inside ∧
    location.offset = anchor + dropped + inside ∧ anchor + dropped ≤ 2 ^ 64 - 1 ∧
    location.offset ≤ 2 ^ 64 - 1 ∧ location.offset + location.length ≤ 2 ^ 64 - 1
  /-- Both ends are between characters of the raw name. -/
  boundaries : (⟨location.offset - anchor⟩ : String.Pos.Raw).IsValid raw ∧
    (⟨location.offset + location.length - anchor⟩ : String.Pos.Raw).IsValid raw

theorem location_violation {policy : Policy} {kind : Declaration.Kind} {name first : String}
    {position inside : Nat} (found : Text.occurrence? first.toList name.toList = some inside)
    (others : List String) :
    (violation policy kind name position first others).location =
      ⟨"",Location.behind position inside,first.utf8ByteSize⟩ := by
  simp [violation,found]

/-- A word that is looked up marks a region of the source, for it is found in the name. -/
theorem region_of_mem_checkedWords {policy : Policy} {declaration : Declaration}
    {source : ByteArray} {name lead first : String} {anchor : Nat}
    (checkable : declaration.checkable? = some (name,lead.utf8ByteSize))
    (leadFree : '(' ∉ lead.toList)
    (dropsOne : declaration.accessibility.isPrivate = true →
      (lead ++ name).toList.head? = some '_' → lead.utf8ByteSize = 1)
    (member : first ∈ checkedWords policy declaration.kind name)
    (stands : source.extract anchor (anchor + (lead ++ name).utf8ByteSize) = (lead ++ name).toUTF8)
    (fits : anchor + (lead ++ name).utf8ByteSize ≤ 2 ^ 64 - 1) (others : List String) :
    Region source declaration (lead ++ name) anchor first
      (violation policy declaration.kind name (Location.behind anchor lead.utf8ByteSize) first
        others).location := by
  obtain ⟨inside,found,within⟩ := exists_occurrence?_of_mem_checkedWords member
  obtain ⟨front,back,split,size⟩ := Text.occurrence?_eq_some found
  have whole : lead ++ name = lead ++ String.ofList front ++ first ++ String.ofList back := by
    apply String.toList_injective
    simp [split]
  have reach : (lead ++ String.ofList front).utf8ByteSize = lead.utf8ByteSize + inside := by
    simp [size]
  have room : lead.utf8ByteSize + inside + first.utf8ByteSize ≤ (lead ++ name).utf8ByteSize := by
    rw [whole,String.utf8ByteSize_append,String.utf8ByteSize_append,reach]
    omega
  have full : 0 < first.utf8ByteSize := by
    have nonempty := Identifier.ne_empty_of_mem_words (List.mem_filter.mp member).1
    exact Nat.pos_of_ne_zero (mt String.utf8ByteSize_eq_zero_iff.mp nonempty)
  have noWrap : Location.behind anchor lead.utf8ByteSize = anchor + lead.utf8ByteSize :=
    Location.behind_eq (by omega)
  rw [location_violation found,noWrap,Location.behind_eq (by omega),Nat.add_assoc]
  rw [whole] at stands
  constructor
  case word => simpa [reach] using extract_part stands
  case full => exact full
  case starts => exact Nat.le_add_right ..
  case ends =>
    simp only
    omega
  case underscore =>
    intro seen underscored
    have one := dropsOne (by rcases seen with seen | seen <;> rw [seen] <;> rfl) underscored
    simp only
    omega
  case parameters =>
    intro function before after shape beforeFree
    have upTo := utf8ByteSize_spelled function shape leadFree beforeFree
    simp only
    omega
  case found =>
    refine ⟨name,lead.utf8ByteSize,inside,checkable,found,(Nat.add_assoc ..).symm,?_⟩
    simp only
    omega
  case boundaries =>
    have ends := isValid_ends (lead ++ String.ofList front) first (String.ofList back)
    rw [← whole,reach] at ends
    simpa [Nat.add_assoc,Nat.add_sub_cancel_left] using ends

/-- Whatever a checker answers, to phrases in a way of its own or word by word: a report on a
declaration marks the first misspelled word where it stands in the source. -/
theorem region_of_report {m : Type → Type} [Monad m] [LawfulMonad m] [MonadAttach m]
    [LawfulMonadAttach m] {phrase ask : Inquiry m} {policy : Policy} {declaration : Declaration}
    {v : Violation}
    (reported : CanReturn (ofDeclarationBy phrase ask policy declaration) (some v)) :
    ofDeclaration ask policy declaration = ofDeclarationBy ask.phrase ask policy declaration ∧
    ∃ raw anchor first, declaration.rawName? = some raw ∧ declaration.anchor? = some anchor ∧
      v.misspelled.head? = some first ∧
      ∀ source : ByteArray, source.extract anchor (anchor + raw.utf8ByteSize) = raw.toUTF8 →
        anchor + raw.utf8ByteSize ≤ 2 ^ 64 - 1 →
        Region source declaration raw anchor first v.location := by
  refine ⟨ofDeclaration_eq_by ask policy declaration,?_⟩
  obtain ⟨anchor,name,dropped,first,others,anchored,checkable,member,rfl⟩ :=
    eq_violation_of_ofDeclarationBy reported
  obtain ⟨lead,named,rfl,leadFree,dropsOne⟩ := exists_lead_of_checkable? checkable
  refine ⟨lead ++ name,anchor,first,named,anchored,rfl,fun source stands fits => ?_⟩
  exact region_of_mem_checkedWords checkable leadFree dropsOne member stands fits others

/-- The word stands behind a private underscore and letters of two bytes. -/
theorem region_private_function :
    let lexicon := Lexicon.empty.addWords "en" ["größe"]
    let ask : Inquiry (Except Lexicon.Fault) := lexicon.isUnknown
    let declaration : Declaration :=
      ⟨.functionFree,some "_größeSeperate()",none,none,none,some 13,[],.private,[]⟩
    let source := "private func _größeSeperate() \x7b\x7d".toUTF8
    ∃ v, CanReturn (ofDeclarationBy ask.phrase ask .default declaration) (some v) ∧
      source.extract 13 (13 + "_größeSeperate()".utf8ByteSize) = "_größeSeperate()".toUTF8 ∧
      13 + "_größeSeperate()".utf8ByteSize ≤ 2 ^ 64 - 1 ∧
      Region source declaration "_größeSeperate()" 13 "Seperate" v.location := by
  intro lexicon ask declaration source
  have known : lexicon.knows Policy.default.language = true := by
    simp [lexicon,Policy.default]
  have words : checkedWords .default .functionFree "größeSeperate()" = ["größe","Seperate"] := by
    decide +kernel
  have bad : lexicon.lacks Policy.default.language "Seperate" = true := by
    rw [Policy.default,Lexicon.lacks_addWords,Lexicon.lacks_empty]
    decide +kernel
  have good : lexicon.lacks Policy.default.language "größe" = false := by
    rw [Policy.default,Lexicon.lacks_addWords,Lexicon.lacks_empty]
    decide +kernel
  have pieces : ["größe","Seperate"].flatMap Text.pieces = ["größe","Seperate"] := by
    decide +kernel
  let plain := violation .default .functionFree "größeSeperate()" (13 + 1) "Seperate" []
  have evaluated : evaluate ask .default .functionFree "größeSeperate()" (13 + 1) =
      .ok (some plain) := by
    have checked : Policy.default.checks .functionFree = true := rfl
    rw [evaluate_eq_found known]
    simp [found,misspelled,phraseLacks,checked,words,pieces,bad,good,plain]
  have judged : ofDeclaration ask .default declaration =
      .ok (some (plain.withHelp Rule.identifierSpelling.description)) := by
    have checkable : declaration.checkable? = some ("größeSeperate()",1) := by decide +kernel
    rw [ofDeclaration,checkable]
    change evaluate ask .default .functionFree "größeSeperate()" (Location.behind 13 1) >>= _ = _
    rw [Location.behind_eq (by decide)]
    rw [evaluated]
    rfl
  have reported : CanReturn (ofDeclarationBy ask.phrase ask .default declaration)
      (some (plain.withHelp Rule.identifierSpelling.description)) := judged
  have stands : source.extract 13 (13 + "_größeSeperate()".utf8ByteSize) =
      "_größeSeperate()".toUTF8 := by decide +kernel
  have fits : 13 + "_größeSeperate()".utf8ByteSize ≤ 2 ^ 64 - 1 := by decide +kernel
  obtain ⟨_,raw,anchor,first,named,anchored,head,region⟩ := region_of_report reported
  obtain rfl := Option.some.inj named
  obtain rfl := Option.some.inj anchored
  obtain rfl := Option.some.inj head
  exact ⟨_,reported,stands,fits,region source stands fits⟩

end Verdict
end Orthography
