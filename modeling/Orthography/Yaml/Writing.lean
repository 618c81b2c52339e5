import Orthography.Json.Writing

/-! Values written as YAML: records as blocks, a line for each entry, and lists with a line
for each item. -/
namespace Orthography.Yaml

open Json (Value)

/-- A word that is read back as itself without quotes. -/
def isPlainWord (s : String) : Bool :=
  let cs := s.toList
  (cs.head?.map Char.isAlpha).getD false && cs.all (fun c => c.isAlphanum || c = '_' || c = '-') &&
    !(["null","Null","NULL","true","True","TRUE","false","False","FALSE"].contains s)

def writeText (s : String) : List Char :=
  if isPlainWord s then s.toList else Value.quote s

def writeInline : Value → List Char
  | .text s => writeText s
  | value => Value.chars .compact 0 value

mutual

def writeValue (indent : Nat) : Value → List Char
  | .record [] => " \x7b\x7d\n".toList
  | .list [] => " []\n".toList
  | .record (field :: fields) => '\n' :: writeFields (indent + 2) (field :: fields)
  | .list (item :: items) =>
    '\n' :: (item :: items).flatMap fun item =>
      List.replicate indent ' ' ++ '-' :: ' ' :: writeInline item ++ ['\n']
  | value => ' ' :: writeInline value ++ ['\n']

def writeFields (indent : Nat) : List (String × Value) → List Char
  | [] => []
  | (key,value) :: fields =>
    List.replicate indent ' ' ++ writeText key ++ ':' :: writeValue indent value ++
      writeFields indent fields

end

def render (fields : List (String × Value)) : String := String.ofList (writeFields 0 fields)

end Orthography.Yaml
