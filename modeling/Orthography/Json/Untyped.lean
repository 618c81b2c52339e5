import Orthography.Json.Value
import Orthography.Untyped

/-! Untyped values as JSON. A tag becomes the only key of a record. A mapping has no
JSON if one of its keys is not a text, a truth value or an integer. -/
namespace Orthography.Untyped

/-- The text that a key of a mapping is written as, if it can be one. -/
def keyText? : Untyped → Option String
  | text s => some s
  | bool truth => some (if truth then "true" else "false")
  | integer n => some (toString n)
  | _ => none

mutual

def toJson? : Untyped → Option Json.Value
  | null => some .null
  | bool truth => some (.bool truth)
  | integer (.ofNat n) => some (.natural n)
  | integer (.negSucc n) => some (.negative (n + 1))
  | real d => some (.decimal d)
  | infinity _ => some .null
  | undefined => some .null
  | text s => some (.text s)
  | list items => (allToJson? items).map .list
  | mapping entries => (entriesToJson? entries).map .record
  | tagged tag value => (toJson? value).map fun value => .record [("!" ++ tag,value)]

def allToJson? : List Untyped → Option (List Json.Value)
  | [] => some []
  | item :: items => do some ((← toJson? item) :: (← allToJson? items))

def entriesToJson? : List (Untyped × Untyped) → Option (List (String × Json.Value))
  | [] => some []
  | (key,value) :: entries => do
    some ((← key.keyText?,← toJson? value) :: (← entriesToJson? entries))

end

end Orthography.Untyped
