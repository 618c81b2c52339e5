import Orthography.Json.Token

/-! JSON values from tokens. The lists and records that are still open form a stack; a
finished value goes into the innermost of them. -/
namespace Orthography.Json

/-- A list or record that is not closed yet. What it holds is kept from the last value. -/
inductive Frame
  | list (items : List Value)
  | record (fields : List (Option String × Value)) (key : Option String)

inductive Due
  | value
  /-- A value, or the end of an empty list. -/
  | item
  | key
  /-- A key, or the end of an empty record. -/
  | field
  | colon
  /-- A comma, or the end of the innermost list or record. -/
  | next
  /-- Nothing: the value is complete. -/
  | nothing (result : Value)

structure Reading where
  due : Due
  frames : List Frame

namespace Reading

/-- Puts a finished value where it belongs. -/
def deliver (value : Value) : List Frame → Reading
  | [] => ⟨.nothing value,[]⟩
  | .list items :: outer => ⟨.next,.list (value :: items) :: outer⟩
  | .record fields key :: outer => ⟨.next,.record ((key,value) :: fields) none :: outer⟩

def closeList (items : List Value) (outer : List Frame) : Reading :=
  deliver (.list items.reverse) outer

/-- A record is readable only if all its keys are. -/
def closeRecord (fields : List (Option String × Value)) (outer : List Frame) : Reading :=
  match fields.reverse.mapM fun (key,value) => key.map fun key => (key,value) with
  | some fields => deliver (.record fields) outer
  | none => deliver .unreadable outer

/-- Takes the first token of a value. -/
def openValue (frames : List Frame) : Token → Except Fault Reading
  | .openList => .ok ⟨.item,.list [] :: frames⟩
  | .openRecord => .ok ⟨.field,.record [] none :: frames⟩
  | .text (some s) => .ok (deliver (.text s) frames)
  | .text none => .ok (deliver .unreadable frames)
  | .plain value => .ok (deliver value frames)
  | _ => .error .misplaced

def step : Reading → Token → Except Fault Reading
  | ⟨.value,frames⟩, token => openValue frames token
  | ⟨.item,.list [] :: outer⟩, .closeList => .ok (closeList [] outer)
  | ⟨.item,frames⟩, token => openValue frames token
  | ⟨.field,.record [] _ :: outer⟩, .closeRecord => .ok (closeRecord [] outer)
  | ⟨.field,.record fields _ :: outer⟩, .text key => .ok ⟨.colon,.record fields key :: outer⟩
  | ⟨.key,.record fields _ :: outer⟩, .text key => .ok ⟨.colon,.record fields key :: outer⟩
  | ⟨.colon,frames⟩, .colon => .ok ⟨.value,frames⟩
  | ⟨.next,.list items :: outer⟩, .comma => .ok ⟨.value,.list items :: outer⟩
  | ⟨.next,.list items :: outer⟩, .closeList => .ok (closeList items outer)
  | ⟨.next,.record fields key :: outer⟩, .comma => .ok ⟨.key,.record fields key :: outer⟩
  | ⟨.next,.record fields _ :: outer⟩, .closeRecord => .ok (closeRecord fields outer)
  | _, _ => .error .misplaced

def finish : Reading → Except Fault Value
  | ⟨.nothing result,_⟩ => .ok result
  | _ => .error .unfinished

end Reading

def Value.ofTokens (tokens : List Token) : Except Fault Value := do
  (← tokens.foldlM Reading.step ⟨.value,[]⟩).finish

def Value.ofText (text : String) : Except Fault Value := do
  Value.ofTokens (← Token.scan text.toList)

end Orthography.Json
