import Orthography.Decimal

/-! JSON values. The fields of a record keep their order and may repeat. -/
namespace Orthography.Json

inductive Value
  | null
  | bool (truth : Bool)
  | natural (n : Nat)
  /-- The number `-n`, not zero. -/
  | negative (n : Nat)
  | decimal (d : Decimal)
  | text (s : String)
  | list (items : List Value)
  | record (fields : List (String × Value))
  /-- A value that may be skipped but not read: a text with half of a surrogate pair, a
  number too large, or a record with such a text as a key. -/
  | unreadable

namespace Value

def ofTexts (texts : List String) : Value := .list (texts.map .text)

def ofOption {α : Type} (of : α → Value) : Option α → Value
  | some a => of a
  | none => .null

/-- The first value under a key of a record. -/
def field? (key : String) : Value → Option Value
  | record fields => fields.lookup key
  | _ => none

end Value
end Orthography.Json
