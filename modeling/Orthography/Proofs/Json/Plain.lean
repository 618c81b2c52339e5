import Orthography.Json.Untyped
import Orthography.Proofs.Json.Fields
import Orthography.Proofs.Json.Scanning
import Orthography.Proofs.Untyped

/-! Untyped values that JSON has a form of its own for. They are written as what they are and
read back. -/
namespace Orthography

namespace Untyped

def entriesOf (fields : List (String × Untyped)) : List (Untyped × Untyped) :=
  fields.map fun field => (.text field.1,field.2)

/-- A value of nulls, truth values, integers of at most 64 bits, texts, lists and mappings from
texts, each of them once. -/
inductive Plain : Untyped → Prop
  | null : Plain .null
  | bool (truth : Bool) : Plain (.bool truth)
  | natural {n : Nat} (small : n < Numeral.bound 64) : Plain (.integer n)
  | negative {n : Nat} (small : n < Numeral.bound 63) : Plain (.integer (.negSucc n))
  | text (s : String) : Plain (.text s)
  | list {items : List Untyped} (each : ∀ item ∈ items, Plain item) : Plain (.list items)
  | mapping {fields : List (String × Untyped)} (each : ∀ field ∈ fields, Plain field.2)
      (distinct : (fields.map Prod.fst).Nodup) : Plain (.mapping (entriesOf fields))

theorem areUntagged_of_forall {items : List Untyped}
    (each : ∀ item ∈ items, item.isUntagged = true) : areUntagged items = true := by
  induction items with
  | nil => rfl
  | cons item rest ih =>
    obtain ⟨here,later⟩ := List.forall_mem_cons.mp each
    rw [areUntagged,here,ih later,Bool.and_self]

theorem haveNoTag_entriesOf {fields : List (String × Untyped)}
    (each : ∀ field ∈ fields, field.2.isUntagged = true) : haveNoTag (entriesOf fields) = true := by
  induction fields with
  | nil => rfl
  | cons field rest ih =>
    obtain ⟨here,later⟩ := List.forall_mem_cons.mp each
    have key : (text field.1).isUntagged = true := rfl
    rw [entriesOf] at ih
    rw [entriesOf,List.map_cons,haveNoTag,key,here,ih later,Bool.and_self,Bool.and_self]

theorem Plain.isUntagged {value : Untyped} (plain : value.Plain) : value.isUntagged = true := by
  induction plain with
  | list _ ih =>
    rw [Untyped.isUntagged]
    exact areUntagged_of_forall ih
  | mapping _ _ ih =>
    rw [Untyped.isUntagged]
    exact haveNoTag_entriesOf ih
  | _ => rfl

end Untyped

namespace Json

open Untyped (entriesOf)
open Cursor (untypedIn untypedItems untypedFields)

structure Reads (value : Untyped) (json : Value) : Prop where
  written : value.toJson? = some json
  writable : Writable json
  read : ∀ room, json.nesting ≤ room → untypedIn room json = .ok value

theorem exists_forall₂ {α β : Type} {relates : α → β → Prop} {items : List α}
    (each : ∀ item ∈ items, ∃ other, relates item other) :
    ∃ others, List.Forall₂ relates items others := by
  induction items with
  | nil => exact ⟨[],.nil⟩
  | cons item rest ih =>
    obtain ⟨first,later⟩ := List.forall_mem_cons.mp each
    obtain ⟨other,here⟩ := first
    obtain ⟨others,there⟩ := ih later
    exact ⟨other :: others,.cons here there⟩

namespace Reads

section Items

variable {items : List Untyped} {jsons : List Value} (each : List.Forall₂ Reads items jsons)

include each

theorem allToJson?_eq : Untyped.allToJson? items = some jsons := by
  induction each with
  | nil => rfl
  | cons first _ ih => simp [Untyped.allToJson?,first.written,ih]

theorem writable_items : ∀ json ∈ jsons, Writable json := by
  induction each with
  | nil => exact List.forall_mem_nil _
  | cons first _ ih => exact List.forall_mem_cons.mpr ⟨first.writable,ih⟩

theorem untypedItems_eq {room : Nat} (fits : Value.nestingOfItems jsons ≤ room) :
    untypedItems room jsons = .ok items := by
  induction each with
  | nil => rfl
  | cons first _ ih =>
    obtain ⟨here,later⟩ := Nat.max_le.mp fits
    simp only [untypedItems,first.read room here,ih later]
    rfl

theorem list : Reads (.list items) (.list jsons) where
  written := by
    rw [Untyped.toJson?,allToJson?_eq each]
    rfl
  writable := .list (writable_items each)
  read room fits := by
    cases room with
    | zero => exact nomatch fits
    | succ room =>
      simp only [untypedIn,Cursor.inside,ok_bind,
        untypedItems_eq each (Nat.le_of_succ_le_succ fits)]

end Items

def Field (field : String × Untyped) (json : String × Value) : Prop :=
  json.1 = field.1 ∧ Reads field.2 json.2

theorem exists_fields {fields : List (String × Untyped)}
    (each : ∀ field ∈ fields, ∃ json, Reads field.2 json) :
    ∃ jsons, List.Forall₂ Field fields jsons := by
  apply exists_forall₂
  intro field member
  obtain ⟨json,reads⟩ := each field member
  exact ⟨(field.1,json),rfl,reads⟩

section Fields

variable {fields : List (String × Untyped)} {jsons : List (String × Value)}
  (each : List.Forall₂ Field fields jsons)

include each

theorem entriesToJson?_eq : Untyped.entriesToJson? (entriesOf fields) = some jsons := by
  induction each with
  | nil => rfl
  | cons first _ ih =>
    obtain ⟨same,reads⟩ := first
    rw [entriesOf] at ih
    simp [entriesOf,Untyped.entriesToJson?,Untyped.keyText?,reads.written,ih,← same]

theorem writable_fields : ∀ json ∈ jsons, Writable json.2 := by
  induction each with
  | nil => exact List.forall_mem_nil _
  | cons first _ ih => exact List.forall_mem_cons.mpr ⟨first.2.writable,ih⟩

theorem untypedFields_eq (distinct : (fields.map Prod.fst).Nodup) {room : Nat}
    (fits : Value.nestingOfFields jsons ≤ room) {seen : List String}
    (fresh : ∀ field ∈ fields, field.1 ∉ seen) :
    untypedFields room seen jsons = .ok (entriesOf fields) := by
  induction each generalizing seen with
  | nil => rfl
  | @cons field json fields jsons first _ ih =>
    obtain ⟨same,reads⟩ := first
    obtain ⟨here,later⟩ := Nat.max_le.mp fits
    obtain ⟨key,value⟩ := json
    obtain rfl : key = field.1 := same
    obtain ⟨unseen,others⟩ := List.forall_mem_cons.mp fresh
    obtain ⟨apart,distinct⟩ := List.nodup_cons.mp distinct
    have rest : ∀ other ∈ fields, other.1 ∉ field.1 :: seen := by
      intro other member
      rw [List.mem_cons,not_or]
      exact ⟨fun equal => apart (List.mem_map.mpr ⟨other,member,equal⟩),others other member⟩
    have new : seen.contains field.1 = false := by simpa using unseen
    simp only [untypedFields,new,reads.read room here,ih distinct later rest]
    rfl

theorem mapping (distinct : (fields.map Prod.fst).Nodup) :
    Reads (.mapping (entriesOf fields)) (.record jsons) where
  written := by
    rw [Untyped.toJson?,entriesToJson?_eq each]
    rfl
  writable := .record (writable_fields each)
  read room fits := by
    cases room with
    | zero => exact nomatch fits
    | succ room =>
      have inner : untypedFields room [] jsons = .ok (entriesOf fields) :=
        untypedFields_eq each distinct (Nat.le_of_succ_le_succ fits)
          fun _ _ => List.not_mem_nil
      simp only [untypedIn,Cursor.inside,ok_bind,inner]

end Fields

end Reads

/-- A plain value survives being written as JSON and read, if there is room for it. -/
theorem exists_reads {value : Untyped} (plain : value.Plain) : ∃ json, Reads value json := by
  induction plain with
  | null => exact ⟨.null,rfl,.null,fun _ _ => rfl⟩
  | bool truth => exact ⟨.bool truth,rfl,.bool truth,fun _ _ => rfl⟩
  | natural small => exact ⟨.natural _,rfl,.natural small,fun _ _ => rfl⟩
  | @negative n small =>
    exact ⟨.negative (n + 1),rfl,.negative (Nat.succ_ne_zero n) small,fun _ _ => rfl⟩
  | text s => exact ⟨.text s,rfl,.text s,fun _ _ => rfl⟩
  | list each ih =>
    obtain ⟨jsons,all⟩ := exists_forall₂ ih
    exact ⟨.list jsons,Reads.list all⟩
  | @mapping fields each distinct ih =>
    obtain ⟨jsons,all⟩ := Reads.exists_fields ih
    exact ⟨.record jsons,Reads.mapping all distinct⟩

end Json
end Orthography
