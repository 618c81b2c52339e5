import Orthography.Untyped

/-! Values without tags. They are what they show, so reading one as a text, a truth value or a
number tells the value. -/
namespace Orthography

namespace Untyped

mutual

def isUntagged : Untyped → Bool
  | tagged _ _ => false
  | list items => areUntagged items
  | mapping entries => haveNoTag entries
  | _ => true

def areUntagged : List Untyped → Bool
  | [] => true
  | item :: items => item.isUntagged && areUntagged items

def haveNoTag : List (Untyped × Untyped) → Bool
  | [] => true
  | (key,value) :: entries => key.isUntagged && value.isUntagged && haveNoTag entries

end

def entries : Untyped → List (Untyped × Untyped)
  | mapping entries => entries
  | _ => []

def KeysApart (entries : List (Untyped × Untyped)) : Prop :=
  entries.Pairwise fun entry other => entry.1.same other.1 = false

theorem isUntagged_of_mem_items {items : List Untyped} (plain : (list items).isUntagged = true) :
    ∀ item ∈ items, item.isUntagged = true := by
  rw [isUntagged] at plain
  induction items with
  | nil => simp
  | cons item items ih =>
    rw [areUntagged,Bool.and_eq_true] at plain
    simpa [plain.1] using ih plain.2

theorem isUntagged_of_mem_entries {entries : List (Untyped × Untyped)}
    (plain : (mapping entries).isUntagged = true) :
    ∀ entry ∈ entries, entry.1.isUntagged = true ∧ entry.2.isUntagged = true := by
  rw [isUntagged] at plain
  induction entries with
  | nil => simp
  | cons entry entries ih =>
    rw [haveNoTag,Bool.and_eq_true,Bool.and_eq_true] at plain
    simpa [plain.1] using ih plain.2

section Untagged

variable {value : Untyped} (plain : value.isUntagged = true)

include plain

theorem untag_of_isUntagged : value.untag = value := by
  cases value <;> simp_all [untag,isUntagged]

theorem text?_eq_some {text : String} : value.text? = some text ↔ value = .text text := by
  rw [text?,untag_of_isUntagged plain]
  cases value <;> simp

theorem bool?_eq_some {truth : Bool} : value.bool? = some truth ↔ value = .bool truth := by
  rw [bool?,untag_of_isUntagged plain]
  cases value <;> simp

theorem natural?_eq_some {n : Nat} : value.natural? = some n ↔ value = .integer n := by
  rw [natural?,untag_of_isUntagged plain]
  cases value with
  | integer i =>
    rw [← Int.ofNat_eq_natCast]
    cases i <;> simp only [Option.some.injEq,integer.injEq,Int.ofNat.injEq,reduceCtorEq]
  | _ => simp

end Untagged

theorem mapM_text?_eq_some {items : List Untyped} (plain : ∀ item ∈ items, item.isUntagged = true)
    {words : List String} : items.mapM text? = some words ↔ items = words.map .text := by
  induction items generalizing words with
  | nil => cases words <;> simp
  | cons item items ih =>
    have others := @ih fun other member => plain other (List.mem_cons_of_mem _ member)
    cases words <;>
      simp [List.mapM_cons,Option.bind_eq_some_iff,
        text?_eq_some (plain item List.mem_cons_self),others]

end Untyped

end Orthography
