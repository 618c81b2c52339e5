/-! Tags of nodes. A tag is bytes, for percent signs may write bytes that are no text. One
that begins with an exclamation mark names a type of the document's own. -/
namespace Orthography.Yaml

structure Tag where
  bytes : List UInt8
  deriving DecidableEq

namespace Tag

/-- A zero ends a tag. -/
def ofBytes (bytes : List UInt8) : Tag := ⟨bytes.takeWhile (· != 0)⟩

def ofText (text : String) : Tag := ofBytes text.toUTF8.data.toList

def isEmpty (tag : Tag) : Bool := tag.bytes.isEmpty

def append (stem suffix : Tag) : Tag := ⟨stem.bytes ++ suffix.bytes⟩

def mark : UInt8 := 33

def bare : Tag := ⟨[mark]⟩

def isOwn (tag : Tag) : Bool := tag.bytes.head? == some mark

def standard (name : String) : Tag := ofText ("tag:yaml.org,2002:" ++ name)

/-- The name in a tag of the document's own: what follows the mark. Bytes that are no text
name nothing. -/
def ownName? (tag : Tag) : Option String :=
  match tag.bytes with
  | first :: rest =>
    if first = mark then
      String.fromUTF8? (if rest.isEmpty then [mark] else rest).toByteArray
    else none
  | [] => none

theorem isOwn_of_ownName? {tag : Tag} {name : String} (named : tag.ownName? = some name) :
    tag.isOwn = true := by
  unfold ownName? at named
  split at named
  next first rest eq =>
    split at named
    next own => simp [isOwn,eq,own]
    next => contradiction
  next => contradiction

end Tag
end Orthography.Yaml
