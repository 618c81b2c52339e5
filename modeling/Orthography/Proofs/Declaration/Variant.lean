import Orthography.Declaration.Document
import Orthography.Proofs.Json.Fields
import Orthography.Proofs.Json.RoundTrip

/-! Files of declarations in JSON. A declaration that is written is read back, also if fields that
hold what is read without them are left out, if the fields stand in another order and if there
are others, in all records that a file is made of. -/
namespace Orthography

open Schema Json

namespace Declaration

def Omissible (field : String × Value) : Prop :=
  field.2 = .null ∨ field.2 = .list [] ∨ field = ("accessibility",.text Accessibility.internal.name)

def fieldsWith (kind : String) (parts : List Value) (declaration : Declaration) :
    List (String × Value) :=
  [("kind",.text kind),("name",.ofOption .text declaration.name),
    ("local_name",.ofOption .text declaration.localName),
    ("local_name_offset",.ofOption .natural declaration.localNameOffset),
    ("offset",.ofOption .natural declaration.offset),
    ("name_offset",.ofOption .natural declaration.nameOffset),
    ("attributes",.ofTexts declaration.attributes),
    ("accessibility",.text declaration.accessibility.name),("substructure",.list parts)]

/-- JSON that stands for a declaration. -/
inductive Variant : Declaration → Value → Prop
  | mk {declaration : Declaration} {kind : String} {parts : List Value}
      {fields : List (String × Value)} (named : Kind.ofName kind = declaration.kind)
      (inside : List.Forall₂ Variant declaration.substructure parts)
      (rearranged : Rearranged Omissible (declaration.fieldsWith kind parts) fields) :
      Variant declaration (.record fields)

theorem distinct_fieldsWith (kind : String) (parts : List Value) (declaration : Declaration) :
    ((declaration.fieldsWith kind parts).map Prod.fst).Nodup := by
  have names : ["kind","name","local_name","local_name_offset","offset","name_offset",
      "attributes","accessibility","substructure"].Nodup := by decide
  exact names

theorem eq_of_omissible_text {key s : String} (free : Omissible (key,.text s)) :
    key = "accessibility" ∧ s = Accessibility.internal.name := by
  rcases free with null | empty | internal
  · cases null
  · cases empty
  · rw [Prod.mk.injEq,Value.text.injEq] at internal
    exact internal

theorem eq_nil_of_omissible_list {key : String} {items : List Value}
    (free : Omissible (key,.list items)) : items = [] := by
  rcases free with null | empty | internal
  · cases null
  · exact Value.list.inj empty
  · cases congrArg Prod.snd internal

theorem not_omissible_natural (key : String) (n : Nat) : ¬Omissible (key,.natural n) := by
  rintro (null | empty | internal)
  · cases null
  · cases empty
  · cases congrArg Prod.snd internal

section Readers

variable {room : Nat}

theorem takes_kind (kind : String) :
    Takes Omissible (required "kind" fun node => Kind.ofName <$> Source.choice node) room
      ("kind",.text kind) (Kind.ofName kind) := by
  refine ⟨rfl,fun free => ?_⟩
  exact absurd (eq_of_omissible_text free).1 (by decide)

theorem takes_text (key : String) (other : key ≠ "accessibility") (option : Option String) :
    Takes Omissible (optionally Source.text) room (key,.ofOption .text option) option := by
  refine ⟨optionally_ofOption (fun _ => rfl) nofun,fun free => ?_⟩
  cases option with
  | none => rfl
  | some s => exact absurd (eq_of_omissible_text free).1 other

theorem takes_natural (key : String) (option : Option Nat) :
    Takes Omissible (optionally Source.natural) room (key,.ofOption .natural option) option := by
  refine ⟨optionally_ofOption (fun _ => rfl) nofun,fun free => ?_⟩
  cases option with
  | none => rfl
  | some n => exact absurd free (not_omissible_natural key n)

theorem takes_list {α : Type} {read : Cursor → Except Mismatch α} {items : List Value}
    {as : List α} (key : String)
    (each : List.Forall₂ (fun a item => read ⟨item,room⟩ = .ok a) as items) :
    Takes Omissible (defaulting [] (listOf read)) (room + 1) (key,.list items) as := by
  refine ⟨listOf_of_forall₂ each,fun free => ?_⟩
  rw [eq_nil_of_omissible_list free,List.forall₂_nil_right_iff] at each
  rw [each]
  rfl

theorem takes_attributes (attributes : List String) :
    Takes Omissible (defaulting [] texts) (room + 1) ("attributes",.ofTexts attributes)
      attributes := by
  apply takes_list
  rw [List.forall₂_map_right_iff,List.forall₂_same]
  exact fun _ _ => rfl

theorem takes_accessibility (level : Accessibility) :
    Takes Omissible (defaulting .internal (oneOf "an accessibility" Accessibility.ofName?)) room
      ("accessibility",.text level.name) level := by
  refine ⟨?_,fun free => ?_⟩
  · cases level <;> rfl
  · have same := congrArg Accessibility.ofName? (eq_of_omissible_text free).2
    rw [Accessibility.ofName?_name,Accessibility.ofName?_name] at same
    rw [Option.some.inj same]
    rfl

end Readers

theorem toJson_eq (declaration : Declaration) : declaration.toJson =
    .record (declaration.fieldsWith declaration.kind.name (allToJson declaration.substructure)) := by
  cases declaration
  rw [toJson]
  rfl

theorem nesting_toJson (declaration : Declaration) : declaration.toJson.nesting =
    Value.nestingOfItems (allToJson declaration.substructure) + 2 := by
  have text : ∀ option, (Value.ofOption Value.text option).nesting = 0 :=
    Value.nesting_ofOption fun _ => rfl
  have natural : ∀ option, (Value.ofOption Value.natural option).nesting = 0 :=
    Value.nesting_ofOption fun _ => rfl
  rw [toJson_eq,fieldsWith]
  simp only [Value.nesting,Value.nestingOfFields,Value.nesting_ofTexts,text,natural]
  omega

theorem allToJson_eq (declarations : List Declaration) :
    allToJson declarations = declarations.map toJson := by
  induction declarations with
  | nil => rw [allToJson,List.map_nil]
  | cons declaration rest ih => rw [allToJson,ih,List.map_cons]

theorem nesting_toJson_le {part : Declaration} {declarations : List Declaration}
    (member : part ∈ declarations) :
    part.toJson.nesting ≤ Value.nestingOfItems (allToJson declarations) := by
  rw [allToJson_eq]
  exact Value.nesting_le_nestingOfItems (List.mem_map_of_mem member)

theorem readNested_of_rearranged {fuel inner : Nat} {declaration : Declaration} {kind : String}
    {parts : List Value} {fields : List (String × Value)}
    (named : Kind.ofName kind = declaration.kind)
    (each : List.Forall₂ (fun part item => readNested fuel (⟨item,inner⟩ : Cursor) = .ok part)
      declaration.substructure parts)
    (rearranged : Rearranged Omissible (declaration.fieldsWith kind parts) fields) :
    readNested (fuel + 1) (⟨.record fields,inner + 2⟩ : Cursor) = .ok declaration := by
  have distinct := declaration.distinct_fieldsWith kind parts
  have names : (declaration.fieldsWith kind parts).map Prod.fst = ["kind","name","local_name",
    "local_name_offset","offset","name_offset","attributes","accessibility","substructure"] := rfl
  have opened : Source.record _ (⟨.record fields,inner + 2⟩ : Cursor) = _ :=
    Cursor.record_eq (rearranged.apart distinct) (inner + 1)
  rw [names] at opened
  have field {α : Type} {key : String} {value : Value} {a : α}
      {read : Option Cursor → Except Mismatch α}
      (member : (key,value) ∈ declaration.fieldsWith kind parts)
      (takes : Takes Omissible read (inner + 1) (key,value) a) :=
    rearranged.read distinct takes member
  have first := field (by simp [fieldsWith]) (takes_kind kind)
  have name := field (by simp [fieldsWith]) (takes_text "name" (by decide) declaration.name)
  have localName := field (by simp [fieldsWith])
    (takes_text "local_name" (by decide) declaration.localName)
  have localNameOffset := field (by simp [fieldsWith])
    (takes_natural "local_name_offset" declaration.localNameOffset)
  have offset := field (by simp [fieldsWith]) (takes_natural "offset" declaration.offset)
  have nameOffset := field (by simp [fieldsWith])
    (takes_natural "name_offset" declaration.nameOffset)
  have attributes := field (by simp [fieldsWith]) (takes_attributes declaration.attributes)
  have accessibility := field (by simp [fieldsWith])
    (takes_accessibility declaration.accessibility)
  have substructure := field (by simp [fieldsWith]) (takes_list "substructure" each)
  simp only [readNested,opened,ok_bind,first,name,localName,localNameOffset,offset,nameOffset,
    attributes,accessibility,substructure,named]
  cases declaration
  rfl

/-- Each declaration opens a record and the list of its parts, so that half the room is enough
steps. -/
theorem readNested_of_variant {fuel room : Nat} {declaration : Declaration} {value : Value}
    (variant : Variant declaration value) (fits : declaration.toJson.nesting ≤ room)
    (enough : room ≤ 2 * fuel) :
    readNested fuel (⟨value,room⟩ : Cursor) = .ok declaration := by
  induction fuel generalizing room declaration value with
  | zero =>
    rw [nesting_toJson] at fits
    omega
  | succ fuel ih =>
    rw [nesting_toJson] at fits
    -- parts are read with the room that the record and the list around them leave
    obtain ⟨inner,rfl⟩ : ∃ inner, room = inner + 2 := ⟨room - 2,by omega⟩
    obtain ⟨named,inside,rearranged⟩ := variant
    apply readNested_of_rearranged named _ rearranged
    rw [List.forall₂_iff_get] at inside ⊢
    refine ⟨inside.1,fun i first second => ?_⟩
    have small := nesting_toJson_le (List.get_mem declaration.substructure ⟨i,first⟩)
    exact ih (inside.2 i first second) (by omega) (by omega)

theorem variant_of_parts {declaration : Declaration}
    (inside : List.Forall₂ Variant declaration.substructure (allToJson declaration.substructure)) :
    Variant declaration declaration.toJson := by
  rw [toJson_eq]
  exact .mk (Kind.ofName_name _) inside (.refl _ _)

/-- What is written of declarations stands for them. -/
theorem forall₂_variant_allToJson (declarations : List Declaration) :
    List.Forall₂ Variant declarations (allToJson declarations) := by
  induction declarations using allToJson.induct
    (fun declaration => List.Forall₂ Variant declaration.substructure
      (allToJson declaration.substructure)) with
  | case1 _ _ _ _ _ _ _ _ substructure inside => exact inside
  | case2 =>
    rw [allToJson]
    exact .nil
  | case3 declaration rest inside after =>
    rw [allToJson]
    exact .cons (variant_of_parts inside) after

def Bounded (declaration : Declaration) : Prop :=
  (∀ n ∈ declaration.localNameOffset, n < Numeral.bound 64) ∧
    (∀ n ∈ declaration.offset, n < Numeral.bound 64) ∧
    ∀ n ∈ declaration.nameOffset, n < Numeral.bound 64

theorem writable_ofOption {α : Type} {of : α → Value} {option : Option α}
    (each : ∀ a ∈ option, Writable (of a)) : Writable (.ofOption of option) := by
  cases option with
  | none => exact .null
  | some a => exact each a rfl

theorem writable_fieldsWith {declaration : Declaration} (bounded : declaration.Bounded)
    (kind : String) {parts : List Value} (each : ∀ part ∈ parts, Writable part) :
    Writable (.record (declaration.fieldsWith kind parts)) := by
  obtain ⟨localNameOffset,offset,nameOffset⟩ := bounded
  have text (option : Option String) : Writable (.ofOption .text option) :=
    writable_ofOption fun s _ => .text s
  refine .record fun field member => ?_
  simp only [fieldsWith,List.mem_cons,List.not_mem_nil,or_false] at member
  rcases member with rfl | rfl | rfl | rfl | rfl | rfl | rfl | rfl | rfl
  · exact .text kind
  · exact text _
  · exact text _
  · exact writable_ofOption fun n member => .natural (localNameOffset n member)
  · exact writable_ofOption fun n member => .natural (offset n member)
  · exact writable_ofOption fun n member => .natural (nameOffset n member)
  · exact .ofTexts _
  · exact .text _
  · exact .list each

theorem writable_allToJson (declarations : List Declaration) :
    (∀ declaration ∈ walkAll declarations, declaration.Bounded) →
      ∀ item ∈ allToJson declarations, Writable item := by
  induction declarations using allToJson.induct
    (fun declaration => (∀ part ∈ walkAll declaration.substructure, part.Bounded) →
      ∀ item ∈ allToJson declaration.substructure, Writable item) with
  | case1 _ _ _ _ _ _ _ _ substructure inside within item member =>
    exact inside within item member
  | case2 =>
    intro _
    rw [allToJson]
    exact List.forall_mem_nil _
  | case3 declaration rest inside after =>
    intro bounded
    rw [walkAll,walk_eq,List.cons_append,List.forall_mem_cons,List.forall_mem_append] at bounded
    obtain ⟨here,within,behind⟩ := bounded
    rw [allToJson,List.forall_mem_cons,toJson_eq]
    exact ⟨writable_fieldsWith here _ (inside within),after behind⟩

namespace Document

def fieldsWith (parts : List Value) (document : Document) : List (String × Value) :=
  [("file",.ofOption .text document.file),("declarations",.list parts)]

inductive Variant (document : Document) : Value → Prop
  | mk {parts : List Value} {fields : List (String × Value)}
      (inside : List.Forall₂ Declaration.Variant document.declarations parts)
      (rearranged : Rearranged Omissible (document.fieldsWith parts) fields) :
      Variant document (.record fields)

theorem variant_toJson (document : Document) : Variant document document.toJson :=
  .mk (forall₂_variant_allToJson document.declarations) (.refl _ _)

theorem writable_toJson {document : Document}
    (bounded : ∀ declaration ∈ document.walk, declaration.Bounded) :
    Writable document.toJson := by
  refine .record fun field member => ?_
  simp only [List.mem_cons,List.not_mem_nil,or_false] at member
  rcases member with rfl | rfl
  · exact writable_ofOption fun s _ => .text s
  · exact .list (writable_allToJson _ bounded)

theorem read_of_variant {document : Document} {value : Value} (variant : Variant document value)
    (shallow : document.toJson.nesting < 128) :
    read (Cursor.ofValue value) = .ok document := by
  obtain @⟨parts,fields,inside,rearranged⟩ := variant
  have distinct : ((document.fieldsWith parts).map Prod.fst).Nodup := by
    change ["file","declarations"].Nodup
    decide
  have opened : Source.record _ (⟨.record fields,127⟩ : Cursor) = _ :=
    Cursor.record_eq (rearranged.apart distinct) 126
  have each : List.Forall₂
      (fun part item => Declaration.read (⟨item,125⟩ : Cursor) = .ok part)
      document.declarations parts := by
    rw [List.forall₂_iff_get] at inside ⊢
    refine ⟨inside.1,fun i first second => ?_⟩
    have small := nesting_toJson_le (List.get_mem document.declarations ⟨i,first⟩)
    have whole : Value.nestingOfItems (allToJson document.declarations) + 2 ≤
        document.toJson.nesting := by
      simp only [toJson,Value.nesting,Value.nestingOfFields]
      omega
    exact readNested_of_variant (inside.2 i first second) (by omega) (by decide)
  have field {α : Type} {key : String} {value : Value} {a : α}
      {read : Option Cursor → Except Mismatch α}
      (member : (key,value) ∈ document.fieldsWith parts)
      (takes : Takes Omissible read 126 (key,value) a) :=
    rearranged.read distinct takes member
  have file := field (by simp [fieldsWith]) (takes_text "file" (by decide) document.file)
  have declarations := field (by simp [fieldsWith]) (takes_list "declarations" each)
  have names : (document.fieldsWith parts).map Prod.fst = ["file","declarations"] := rfl
  rw [names] at opened
  simp only [read,Cursor.ofValue,opened,ok_bind,file,declarations]
  rfl

/-- A text is read as the file that its JSON stands for. -/
theorem ofText_of_variant {document : Document} {value : Value} {text : String}
    (variant : Variant document value) (shallow : document.toJson.nesting < 128)
    (parsed : Value.ofText text = .ok value) : ofText text "json" = .ok document := by
  have named : Format.ofExtension? "json" = some .json := rfl
  simp only [ofText,named,Format.decode,parsed,read_of_variant variant shallow]
  rfl

/-- A file of declarations survives being written and read. It is also read from any text whose
JSON stands for it, with fields in any order at every depth, without those that hold a default,
with others, and with any unknown name for a kind that has none. -/
theorem ofText_toJson {document : Document} (shallow : document.toJson.nesting < 128)
    (bounded : ∀ declaration ∈ document.walk, declaration.Bounded) :
    ofText (document.toJson.render .compact) "json" = .ok document ∧
    ofText (document.toJson.render .pretty) "json" = .ok document ∧
    (∀ value text, Variant document value → Value.ofText text = .ok value →
      ofText text "json" = .ok document) ∧
    (∀ value layout, Variant document value → Writable value → layout.Blank →
      ofText (value.render layout) "json" = .ok document) ∧
    ∀ name, (∀ kind ∈ Kind.named, kind.name ≠ name) → Kind.ofName name = .other ∧
      ∀ room, required "kind" (fun node => Kind.ofName <$> Source.choice node)
        (some (⟨.text name,room⟩ : Cursor)) = .ok .other := by
  have writable := writable_toJson bounded
  have written {value : Value} {layout : Layout} (variant : Variant document value)
      (writable : Writable value) (blank : layout.Blank) :
      ofText (value.render layout) "json" = .ok document :=
    ofText_of_variant variant shallow (ofText_render blank writable)
  refine ⟨written document.variant_toJson writable Layout.blank_compact,
    written document.variant_toJson writable Layout.blank_pretty,
    fun _ _ variant parsed => ofText_of_variant variant shallow parsed,
    fun _ _ variant writable blank => written variant writable blank,fun name unknown => ?_⟩
  have other : Kind.ofName name = .other := by
    have missing : Kind.named.find? (·.name == name) = none := by
      rw [List.find?_eq_none]
      intro kind member
      rw [beq_iff_eq]
      exact unknown kind member
    rw [Kind.ofName,missing]
    rfl
  refine ⟨other,fun room => ?_⟩
  rw [← other]
  rfl

/-- All fields stand the other way round, a note is among them, and those with defaults are
missing. -/
theorem ofText_backwards :
    let part : Declaration :=
      ⟨.classType,none,none,none,none,none,["override"],.private,[]⟩
    let whole : Declaration := ⟨.other,some "x",none,none,some 7,none,[],.internal,[part]⟩
    let document : Document := ⟨some "a.swift",[whole]⟩
    let inner : Value := .record [("kind",.text "class"),("attributes",.list [.text "override"]),
      ("accessibility",.text "private")].reverse
    let outer : Value := .record [("kind",.text "macro"),("name",.text "x"),("offset",.natural 7),
      ("substructure",.list [inner]),("note",.list [])].reverse
    let value : Value := .record
      [("file",.text "a.swift"),("declarations",.list [outer])].reverse
    document.toJson.nesting < 128 ∧ (∀ declaration ∈ document.walk, declaration.Bounded) ∧
      ofText (value.render .pretty) "json" = .ok document := by
  intro part whole document inner outer value
  have shallow : document.toJson.nesting < 128 := by decide
  have bounded : ∀ declaration ∈ document.walk, declaration.Bounded := by
    have walked : document.walk = [whole,part] := rfl
    rw [walked]
    simp [whole,part,Bounded,Numeral.bound]
  have seven : Writable (.natural 7) := .natural (by decide)
  have overriding : Writable (.list [.text "override"]) := .list (by simp [Writable.text])
  have empty : Writable (.list []) := .list (List.forall_mem_nil _)
  have inside : Writable inner := .record (by simp [Writable.text,overriding])
  have outside : Writable outer := by
    have parts : Writable (.list [inner]) := .list (by simp [inside])
    exact .record (by simp [Writable.text,seven,parts,empty])
  have writable : Writable value := by
    have parts : Writable (.list [outer]) := .list (by simp [outside])
    exact .record (by simp [Writable.text,parts])
  have variantPart : Declaration.Variant part inner := by
    refine @Declaration.Variant.mk part "class" [] _ rfl .nil ?_
    refine @Rearranged.mk _ _
      ((part.fieldsWith "class" []).filter (·.1 ∈ ["kind","attributes","accessibility"])) [] _
      List.filter_sublist ?_ (List.forall_mem_nil _) (List.reverse_perm _)
    simp [Declaration.fieldsWith,part,Omissible,Value.ofOption,Value.ofTexts]
  have variantWhole : Declaration.Variant whole outer := by
    refine @Declaration.Variant.mk whole "macro" [inner] _ (by decide) (.cons variantPart .nil) ?_
    refine @Rearranged.mk _ _
      ((whole.fieldsWith "macro" [inner]).filter (·.1 ∈ ["kind","name","offset","substructure"]))
      [("note",.list [])] _ List.filter_sublist ?_ ?_ (List.reverse_perm _)
    · simp [Declaration.fieldsWith,whole,Omissible,Value.ofOption,Value.ofTexts,Accessibility.name]
    · simp [Declaration.fieldsWith]
  have variant : Variant document value := by
    refine @Variant.mk document [outer] _ (.cons variantWhole .nil) ?_
    refine @Rearranged.mk _ _ _ [] _ (.refl _) ?_ (List.forall_mem_nil _) (List.reverse_perm _)
    exact fun field member missing => absurd member missing
  obtain ⟨_,_,_,written,_⟩ := ofText_toJson shallow bounded
  exact ⟨shallow,bounded,written value .pretty variant writable Layout.blank_pretty⟩

end Document

end Declaration
end Orthography
