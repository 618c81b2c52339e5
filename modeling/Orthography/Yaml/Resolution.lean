import Orthography.Decimal.Spelling
import Orthography.Schema
import Orthography.Yaml.Node

/-! What a scalar stands for when its text decides. Only plain scalars stand for anything
but a text, unless a tag of the standard asks for it. -/
namespace Orthography.Yaml.Resolution

open Schema

def isNull (text : String) : Bool :=
  text == "null" || text == "Null" || text == "NULL" || text == "~"

def truth? : String → Option Bool
  | "true" | "True" | "TRUE" => some true
  | "false" | "False" | "FALSE" => some false
  | _ => none

/-- Several digits of which the first is zero, behind at most one sign: a text, not a
number. -/
def isZeroPadded (cs : List Char) : Bool :=
  match (Decimal.Spelling.takeSign cs).2 with
  | '0' :: rest => !rest.isEmpty && rest.all Numeral.isDecimalDigit
  | _ => false

/-- A number without its sign: hexadecimal, octal or binary behind a mark, else decimal. -/
def magnitude? : List Char → Option Nat
  | '0' :: 'x' :: digits => Numeral.read? 16 digits
  | '0' :: 'o' :: digits => Numeral.read? 8 digits
  | '0' :: 'b' :: digits => Numeral.read? 2 digits
  | cs => if isZeroPadded cs then none else Numeral.read? 10 cs

def integer? (text : String) : Option Int :=
  match text.toList with
  | '-' :: cs => (magnitude? cs).map fun n => -(n : Int)
  | '+' :: cs => (magnitude? cs).map Int.ofNat
  | cs => (magnitude? cs).map Int.ofNat

def natural? (text : String) : Option Nat :=
  match text.toList with
  | '-' :: _ => none
  | '+' :: cs => (magnitude? cs).filter (· < Numeral.bound 64)
  | cs => (magnitude? cs).filter (· < Numeral.bound 64)

def signed? (text : String) : Option Decimal := do
  let spelling ← Decimal.Spelling.ofChars? text.toList
  let fraction := spelling.fraction.getD []
  if spelling.whole.isEmpty && fraction.isEmpty then none
  else some spelling.value

/-- A number with a point or an exponent, or one of the numbers that are written as words. -/
def real? (text : String) : Option Untyped :=
  match text with
  | ".inf" | ".Inf" | ".INF" | "+.inf" | "+.Inf" | "+.INF" => some (.infinity false)
  | "-.inf" | "-.Inf" | "-.INF" => some (.infinity true)
  | ".nan" | ".NaN" | ".NAN" => some .undefined
  | _ => ((signed? text).filter (!·.overflows)).map .real

/-- A number of so many bits, of which one is for the sign if the number is negative. -/
def hasBits (bits : Nat) : Int → Bool
  | .ofNat n => n < Numeral.bound bits
  | .negSucc n => n < Numeral.bound (bits - 1)

/-- An integer that fits in 64 bits. One that fits only in 128 bits is refused, and a larger
one is no integer. -/
def ofInteger? (n : Int) : Option (Except Mismatch Untyped) :=
  if hasBits 64 n then some (.ok (.integer n))
  else if hasBits 128 n then some (.error (.expected "an integer of 64 bits"))
  else none

def plain (text : String) : Except Mismatch Untyped :=
  if text.isEmpty || isNull text then .ok .null
  else match truth? text with
    | some truth => .ok (.bool truth)
    | none =>
      match (integer? text).bind ofInteger? with
      | some result => result
      | none =>
        if isZeroPadded text.toList then .ok (.text text)
        else .ok ((real? text).getD (.text text))

def ofStyle (style : Style) (text : String) : Except Mismatch Untyped :=
  if style == .plain then plain text else .ok (.text text)

def underTag (tag : Tag) (style : Style) (text : String) : Except Mismatch Untyped :=
  if tag == .standard "bool" then
    match truth? text with
    | some truth => .ok (.bool truth)
    | none => .error (.expected "a truth value")
  else if tag == .standard "int" then
    match (integer? text).bind ofInteger? with
    | some result => result
    | none => .error (.expected "an integer")
  else if tag == .standard "float" then
    match real? text with
    | some value => .ok value
    | none => .error (.expected "a number")
  else if tag == .standard "null" then
    if isNull text then .ok .null else .error (.expected "a null")
  else if tag.isOwn then ofStyle style text
  else .ok (.text text)

/-- A value under a name of the document's own. A second mark in front of the name does not
count, unless it is all there is. -/
def underName (name : String) (value : Untyped) : Untyped :=
  match name.toList with
  | '!' :: c :: rest => .tagged (String.ofList (c :: rest)) value
  | _ => .tagged name value

def scalar (tag : Option Tag) (style : Style) (text : String) : Except Mismatch Untyped :=
  match tag with
  | none => ofStyle style text
  | some tag =>
    match tag.ownName? with
    | some name => underName name <$> ofStyle style text
    | none => underTag tag style text

end Orthography.Yaml.Resolution
