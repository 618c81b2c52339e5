import Orthography.Json.Value
import Orthography.Numeral

/-! JSON values as text, compact or laid out over lines. Only the layout differs. -/
namespace Orthography.Json

/-- The blanks of a written value: what breaks a line at a depth, and what follows a key. -/
structure Layout where
  lineBreak : Nat → List Char
  keyEnd : List Char

namespace Layout

def compact : Layout := ⟨fun _ => [],[':']⟩

def pretty : Layout := ⟨fun depth => '\n' :: List.replicate (2 * depth) ' ',[':',' ']⟩

end Layout

namespace Value

def hexDigit (n : Nat) : Char := Nat.digitChar (n % 16)

/-- A character between quotes. Quotes, backslashes and control characters are escaped,
those without a short form by their code. -/
def escapeChar (c : Char) : List Char :=
  if c = '"' then ['\\','"']
  else if c = '\\' then ['\\','\\']
  else if c = '\x08' then ['\\','b']
  else if c = '\x0c' then ['\\','f']
  else if c = '\n' then ['\\','n']
  else if c = '\r' then ['\\','r']
  else if c = '\t' then ['\\','t']
  else if c < ' ' then ['\\','u','0','0',hexDigit (c.toNat / 16),hexDigit c.toNat]
  else [c]

def quote (s : String) : List Char := '"' :: s.toList.flatMap escapeChar ++ ['"']

def signed (negative : Bool) (n : Nat) : List Char :=
  if negative then '-' :: Numeral.decimal n else Numeral.decimal n

def ofDecimal (d : Decimal) : List Char :=
  signed d.negative d.digits ++ 'e' :: signed (d.exponent < 0) d.exponent.natAbs

mutual

/-- The characters of a value at a depth. -/
def chars (layout : Layout) (depth : Nat) : Value → List Char
  | null => "null".toList
  | bool true => "true".toList
  | bool false => "false".toList
  | natural n => Numeral.decimal n
  | negative n => signed true n
  | decimal d => ofDecimal d
  | text s => quote s
  | list [] => ['[',']']
  | list (item :: items) =>
    '[' :: layout.lineBreak (depth + 1) ++ chars layout (depth + 1) item ++
      charsOfItems layout (depth + 1) items ++ layout.lineBreak depth ++ [']']
  | record [] => ['\x7b','\x7d']
  | record ((key,value) :: fields) =>
    '\x7b' :: layout.lineBreak (depth + 1) ++ quote key ++ layout.keyEnd ++
      chars layout (depth + 1) value ++ charsOfFields layout (depth + 1) fields ++
      layout.lineBreak depth ++ ['\x7d']
  | unreadable => "null".toList

def charsOfItems (layout : Layout) (depth : Nat) : List Value → List Char
  | [] => []
  | item :: items =>
    ',' :: layout.lineBreak depth ++ chars layout depth item ++ charsOfItems layout depth items

def charsOfFields (layout : Layout) (depth : Nat) : List (String × Value) → List Char
  | [] => []
  | (key,value) :: fields =>
    ',' :: layout.lineBreak depth ++ quote key ++ layout.keyEnd ++ chars layout depth value ++
      charsOfFields layout depth fields

end

def render (layout : Layout) (value : Value) : String :=
  String.ofList (chars layout 0 value)

end Value
end Orthography.Json
