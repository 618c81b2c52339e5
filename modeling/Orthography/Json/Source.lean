import Orthography.Json.Value
import Orthography.Schema

/-! Typed values from JSON. A record may also be a list of its fields in order, a case is a
text or a record of that one key and null, and lists and records nest at most 127 deep. -/
namespace Orthography.Json

open Schema

/-- A value with the number of lists and records that may still be opened. -/
structure Cursor where
  value : Value
  room : Nat

namespace Cursor

def ofValue (value : Value) : Cursor := ⟨value,127⟩

def inside (room : Nat) : Except Mismatch Nat :=
  match room with
  | 0 => .error .tooDeep
  | inner + 1 => .ok inner

def repeated? (wanted seen : List String) : List (String × Value) → Option String
  | [] => none
  | (key,_) :: fields =>
    if !wanted.contains key then repeated? wanted seen fields
    else if seen.contains key then some key
    else repeated? wanted (key :: seen) fields

def record (names : List String) (cursor : Cursor) :
    Except Mismatch (String → Option Cursor) :=
  match cursor.value with
  | .record fields => do
    let room ← inside cursor.room
    match repeated? names [] fields with
    | some field => .error (.repeated field)
    | none => .ok fun name => (fields.lookup name).map (⟨·,room⟩)
  | .list items => do
    let room ← inside cursor.room
    if items.length > names.length then .error .tooLong
    else .ok fun name => ((names.zip items).lookup name).map (⟨·,room⟩)
  | _ => .error (.expected "a record")

def entries (cursor : Cursor) : Except Mismatch (List (String × Cursor)) :=
  match cursor.value with
  | .record fields => do
    let room ← inside cursor.room
    .ok (fields.map fun (key,value) => (key,⟨value,room⟩))
  | _ => .error (.expected "a mapping")

def items (cursor : Cursor) : Except Mismatch (List Cursor) :=
  match cursor.value with
  | .list items => do
    let room ← inside cursor.room
    .ok (items.map (⟨·,room⟩))
  | _ => .error (.expected "a list")

def text (cursor : Cursor) : Except Mismatch String :=
  match cursor.value with
  | .text s => .ok s
  | _ => .error (.expected "a text")

def natural (cursor : Cursor) : Except Mismatch Nat :=
  match cursor.value with
  | .natural n => .ok n
  | _ => .error (.expected "a natural number")

def truth (cursor : Cursor) : Except Mismatch Bool :=
  match cursor.value with
  | .bool truth => .ok truth
  | _ => .error (.expected "a truth value")

def choice (cursor : Cursor) : Except Mismatch String :=
  match cursor.value with
  | .text s => .ok s
  | .record [(key,.null)] => do
    let _ ← inside cursor.room
    .ok key
  | _ => .error (.expected "a case")

def optional (cursor : Cursor) : Except Mismatch (Option Cursor) :=
  match cursor.value with
  | .null => .ok none
  | _ => .ok (some cursor)

mutual

def untypedIn (room : Nat) : Value → Except Mismatch Untyped
  | .null => .ok .null
  | .bool truth => .ok (.bool truth)
  | .natural n => .ok (.integer n)
  | .negative n => .ok (.integer (-n))
  | .decimal d => .ok (.real d)
  | .text s => .ok (.text s)
  | .list items => do .ok (.list (← untypedItems (← inside room) items))
  | .record fields => do .ok (.mapping (← untypedFields (← inside room) [] fields))
  | .unreadable => .error (.expected "a value that can be read")

def untypedItems (room : Nat) : List Value → Except Mismatch (List Untyped)
  | [] => .ok []
  | item :: items => do .ok ((← untypedIn room item) :: (← untypedItems room items))

/-- The entries of a record, whose keys differ from each other and from those seen. -/
def untypedFields (room : Nat) (seen : List String) :
    List (String × Value) → Except Mismatch (List (Untyped × Untyped))
  | [] => .ok []
  | (key,value) :: fields => do
    if seen.contains key then .error (.repeated key)
    else .ok ((.text key,← untypedIn room value) :: (← untypedFields room (key :: seen) fields))

end

def untyped (cursor : Cursor) : Except Mismatch Untyped :=
  untypedIn cursor.room cursor.value

end Cursor

instance : Source (Except Mismatch) Cursor where
  record := Cursor.record
  entries := Cursor.entries
  items := Cursor.items
  text := Cursor.text
  natural := Cursor.natural
  truth := Cursor.truth
  choice := Cursor.choice
  optional := Cursor.optional
  untyped := Cursor.untyped

end Orthography.Json
