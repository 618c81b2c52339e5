import Mathlib.Data.List.Nodup
import Mathlib.Data.List.Perm.Basic
import Orthography.Json.Source

/-! Records whose fields are not all there, or stand in another order, or among others. -/
namespace Orthography.Json

open Schema

namespace Value

mutual

def nesting : Value → Nat
  | list items => nestingOfItems items + 1
  | record fields => nestingOfFields fields + 1
  | _ => 0

def nestingOfItems : List Value → Nat
  | [] => 0
  | item :: items => max (nesting item) (nestingOfItems items)

def nestingOfFields : List (String × Value) → Nat
  | [] => 0
  | (_,value) :: fields => max (nesting value) (nestingOfFields fields)

end

theorem nesting_le_nestingOfItems {item : Value} {items : List Value} (member : item ∈ items) :
    item.nesting ≤ nestingOfItems items := by
  induction items with
  | nil => cases member
  | cons first items ih =>
    rw [nestingOfItems]
    rcases List.mem_cons.mp member with rfl | member
    · exact Nat.le_max_left _ _
    · exact Nat.le_trans (ih member) (Nat.le_max_right _ _)

theorem nestingOfItems_le {items : List Value} {depth : Nat}
    (each : ∀ item ∈ items, item.nesting ≤ depth) : nestingOfItems items ≤ depth := by
  induction items with
  | nil => exact Nat.zero_le depth
  | cons item items ih =>
    obtain ⟨first,others⟩ := List.forall_mem_cons.mp each
    rw [nestingOfItems]
    exact Nat.max_le.mpr ⟨first,ih others⟩

theorem nestingOfFields_le {fields : List (String × Value)} {depth : Nat}
    (each : ∀ field ∈ fields, field.2.nesting ≤ depth) : nestingOfFields fields ≤ depth := by
  induction fields with
  | nil => exact Nat.zero_le depth
  | cons field fields ih =>
    obtain ⟨first,others⟩ := List.forall_mem_cons.mp each
    rw [nestingOfFields]
    exact Nat.max_le.mpr ⟨first,ih others⟩

@[simp] theorem nesting_ofTexts (texts : List String) : (ofTexts texts).nesting = 1 := by
  have flat : nestingOfItems (texts.map .text) ≤ 0 :=
    nestingOfItems_le (List.forall_mem_map.mpr fun s _ => Nat.le_refl 0)
  rw [ofTexts,nesting,Nat.le_zero.mp flat]

@[simp] theorem nesting_ofOption {α : Type} {of : α → Value} (flat : ∀ a, (of a).nesting = 0)
    (option : Option α) : (ofOption of option).nesting = 0 := by
  cases option with
  | none => rfl
  | some a => exact flat a

end Value

def Apart (wanted : List String) (first second : String × Value) : Prop :=
  first.1 ∈ wanted → first.1 ≠ second.1

theorem Apart.symm {wanted : List String} {first second : String × Value}
    (apart : Apart wanted first second) : Apart wanted second first :=
  fun member same => apart (same ▸ member) same.symm

section Lookup

variable {wanted : List String} {fields : List (String × Value)}

theorem repeated?_eq_none {seen : List String} (apart : fields.Pairwise (Apart wanted))
    (fresh : ∀ field ∈ fields, field.1 ∈ wanted → field.1 ∉ seen) :
    Cursor.repeated? wanted seen fields = none := by
  induction fields generalizing seen with
  | nil => rfl
  | cons field fields ih =>
    obtain ⟨key,value⟩ := field
    obtain ⟨first,others⟩ := List.pairwise_cons.mp apart
    have later (other : String × Value) (member : other ∈ fields) :=
      fresh other (List.mem_cons_of_mem _ member)
    rw [Cursor.repeated?]
    by_cases known : key ∈ wanted
    · have unseen : key ∉ seen := fresh (key,value) List.mem_cons_self known
      simp only [List.contains_iff_mem.mpr known,List.contains_eq_mem,unseen,Bool.not_true,
        decide_false,Bool.false_eq_true,if_false]
      apply ih others
      intro other member wants
      rw [List.mem_cons,not_or]
      exact ⟨fun same => first other member known same.symm,later other member wants⟩
    · simp only [List.contains_eq_mem,known,decide_false,Bool.not_false,if_true]
      exact ih others later

theorem lookup_of_apart (apart : fields.Pairwise (Apart wanted)) {key : String} {value : Value}
    (known : key ∈ wanted) (member : (key,value) ∈ fields) : fields.lookup key = some value := by
  induction fields with
  | nil => cases member
  | cons field fields ih =>
    obtain ⟨first,others⟩ := List.pairwise_cons.mp apart
    rcases List.mem_cons.mp member with rfl | member
    · exact List.lookup_cons_self
    · have differs : (key == field.1) = false := by
        rw [beq_eq_false_iff_ne]
        rintro rfl
        exact first (field.1,value) member known rfl
      rw [List.lookup_cons,differs]
      exact ih others member

theorem Cursor.record_eq (apart : fields.Pairwise (Apart wanted)) (room : Nat) :
    Cursor.record wanted ⟨.record fields,room + 1⟩ =
      .ok fun name => (fields.lookup name).map (⟨·,room⟩) := by
  have once : repeated? wanted [] fields = none :=
    repeated?_eq_none apart fun _ _ _ => List.not_mem_nil
  simp only [Cursor.record,inside,once]
  rfl

end Lookup

/-- The fields of a record in any order, without some of those that may be left out, and with any
that nobody asks for. -/
inductive Rearranged (omissible : String × Value → Prop) (full : List (String × Value)) :
    List (String × Value) → Prop
  | mk {kept added fields : List (String × Value)} (part : kept.Sublist full)
      (omitted : ∀ field ∈ full, field ∉ kept → omissible field)
      (unknown : ∀ field ∈ added, field.1 ∉ full.map Prod.fst)
      (reordered : fields.Perm (kept ++ added)) : Rearranged omissible full fields

theorem Rearranged.refl (omissible : String × Value → Prop) (full : List (String × Value)) :
    Rearranged omissible full full :=
  .mk (List.Sublist.refl full) (fun _ member missing => absurd member missing)
    (List.forall_mem_nil _) (by rw [List.append_nil])

/-- How one field is read: from what is written there, or from nothing if it may be left out. -/
structure Takes {α : Type} (omissible : String × Value → Prop)
    (read : Option Cursor → Except Mismatch α) (room : Nat) (field : String × Value) (a : α) :
    Prop where
  present : read (some ⟨field.2,room⟩) = .ok a
  absent : omissible field → read none = .ok a

namespace Rearranged

variable {omissible : String × Value → Prop} {full fields : List (String × Value)}
  (rearranged : Rearranged omissible full fields) (distinct : (full.map Prod.fst).Nodup)

include rearranged distinct

theorem apart : fields.Pairwise (Apart (full.map Prod.fst)) := by
  obtain @⟨kept,added,_,part,-,unknown,reordered⟩ := rearranged
  rw [reordered.pairwise_iff Apart.symm,List.pairwise_append]
  refine ⟨?_,?_,?_⟩
  · have keys : kept.Pairwise fun first second => first.1 ≠ second.1 :=
      (List.pairwise_map.mp distinct).sublist part
    refine keys.imp ?_
    intro first second differ _
    exact differ
  · rw [List.pairwise_iff_forall_sublist]
    intro first second pair known
    exact absurd known (unknown first (pair.subset List.mem_cons_self))
  · intro first inside second outside known same
    exact unknown second outside (same ▸ known)

theorem lookup_cases {key : String} {value : Value} (member : (key,value) ∈ full) :
    fields.lookup key = some value ∨ omissible (key,value) ∧ fields.lookup key = none := by
  have apart := rearranged.apart distinct
  have known : key ∈ full.map Prod.fst := List.mem_map_of_mem member
  obtain @⟨kept,added,_,part,omitted,unknown,reordered⟩ := rearranged
  by_cases held : (key,value) ∈ kept
  · exact .inl (lookup_of_apart apart known
      (reordered.mem_iff.mpr (List.mem_append_left added held)))
  -- a field that was left out has no other in its place, as all keys differ
  right
  refine ⟨omitted _ member held,List.lookup_eq_none_iff.mpr fun other among => ?_⟩
  rw [bne_iff_ne]
  rintro rfl
  rcases List.mem_append.mp (reordered.mem_iff.mp among) with inside | outside
  · have same := List.inj_on_of_nodup_map distinct (part.subset inside) member rfl
    exact held (same ▸ inside)
  · exact unknown other outside known

/-- However the fields are arranged, each is read as what it was. -/
theorem read {α : Type} {read : Option Cursor → Except Mismatch α} {room : Nat} {key : String}
    {value : Value} {a : α} (takes : Takes omissible read room (key,value) a)
    (member : (key,value) ∈ full) : read ((fields.lookup key).map (⟨·,room⟩)) = .ok a := by
  rcases rearranged.lookup_cases distinct member with found | ⟨free,missing⟩
  · rw [found]
    exact takes.present
  · rw [missing]
    exact takes.absent free

end Rearranged

section Readers

variable {α : Type}

theorem ok_bind {β : Type} (a : α) (next : α → Except Mismatch β) :
    (Except.ok a >>= next) = next a := rfl

theorem optionally_ofOption {read : Cursor → Except Mismatch α} {of : α → Value} {room : Nat}
    {option : Option α} (reads : ∀ a, read ⟨of a,room⟩ = .ok a) (solid : ∀ a, of a ≠ .null) :
    optionally read (some ⟨Value.ofOption of option,room⟩) = .ok option := by
  cases option with
  | none => rfl
  | some a =>
    have there : Cursor.optional ⟨of a,room⟩ = .ok (some ⟨of a,room⟩) := by
      unfold Cursor.optional
      split
      · next null => exact absurd null (solid a)
      · rfl
    simp only [optionally,Value.ofOption,Source.optional,there,ok_bind,reads]
    rfl

theorem listOf_of_forall₂ {read : Cursor → Except Mismatch α} {room : Nat} {as : List α}
    {items : List Value} (each : List.Forall₂ (fun a item => read ⟨item,room⟩ = .ok a) as items) :
    listOf read (⟨.list items,room + 1⟩ : Cursor) = .ok as := by
  have all : (items.map (⟨·,room⟩)).mapM read = .ok as := by
    induction each with
    | nil => rfl
    | cons first _ ih =>
      rw [List.map_cons,List.mapM_cons,first,ih]
      rfl
  exact all

end Readers

end Orthography.Json
