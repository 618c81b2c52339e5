import Orthography.Decimal

/-! Values whose type the document decides, such as options before they are checked. The
entries of a mapping keep their order. A number that is no number is undefined. -/
namespace Orthography

inductive Untyped
  | null
  | bool (truth : Bool)
  | integer (n : Int)
  | real (d : Decimal)
  | infinity (negative : Bool)
  | undefined
  | text (s : String)
  | list (items : List Untyped)
  | mapping (entries : List (Untyped × Untyped))
  | tagged (tag : String) (value : Untyped)

namespace Untyped

/-- The value under a tag, if it has one. -/
def untag : Untyped → Untyped
  | tagged _ value => value.untag
  | value => value

def text? (value : Untyped) : Option String :=
  match value.untag with
  | text s => some s
  | _ => none

def bool? (value : Untyped) : Option Bool :=
  match value.untag with
  | bool truth => some truth
  | _ => none

def natural? (value : Untyped) : Option Nat :=
  match value.untag with
  | integer (.ofNat n) => some n
  | _ => none

mutual

/-- Equality of values, by which the keys of a mapping are told apart. The order of entries
does not count. -/
def same : Untyped → Untyped → Bool
  | null, null => true
  | bool a, bool b => a == b
  | integer a, integer b => a == b
  | real a, real b => a.same b
  | infinity a, infinity b => a == b
  | undefined, undefined => true
  | text a, text b => a == b
  | list a, list b => sameItems a b
  | mapping a, mapping b => a.length == b.length && holdsEntries b a
  | tagged tag a, tagged other b => tag == other && same a b
  | _, _ => false

def sameItems : List Untyped → List Untyped → Bool
  | [], [] => true
  | a :: as, b :: bs => same a b && sameItems as bs
  | _, _ => false

def holdsEntries (mapping : List (Untyped × Untyped)) : List (Untyped × Untyped) → Bool
  | [] => true
  | (key,value) :: rest =>
    mapping.any (fun (other,otherValue) => same key other && same value otherValue) &&
      holdsEntries mapping rest

end

end Untyped
end Orthography
