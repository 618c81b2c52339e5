import Orthography.Numeral
import Orthography.Yaml.Token

/-! What may stand in front of a node: its anchor and its tag. An alias is written like an
anchor. -/
namespace Orthography.Yaml.Property

def endsName (next : Option Char) : Bool :=
  endsWord next || next.any (isOneOf "?:,]\x7d%@\x60")

def readName (input : Input) : Except Fault (String × Input) :=
  let (name,input) := (input.skip 1).takeWhile isNameChar
  if name.isEmpty || !endsName (input.peek 0) then .error (.expected "a name")
  else .ok (String.ofList name,input)

/-- Characters of a tag besides those of names; brackets and commas only where no flow
collection can be meant. -/
def isUriChar (bracketed : Bool) (c : Char) : Bool :=
  isNameChar c || isOneOf ";/?:@&=+$.%!~*'()" c || (bracketed && isOneOf ",[]" c)

def byteCount? (first : Nat) : Option Nat :=
  if first < 0x80 then some 1
  else if 0xC0 ≤ first && first < 0xE0 then some 2
  else if 0xE0 ≤ first && first < 0xF0 then some 3
  else if 0xF0 ≤ first && first < 0xF8 then some 4
  else none

def readByte (input : Input) : Except Fault (Nat × Input) :=
  match input.rest with
  | '%' :: high :: low :: _ =>
    match Numeral.read? 16 [high,low] with
    | some byte => .ok (byte,input.skip 3)
    | none => .error (.expected "two hexadecimal digits")
  | _ => .error (.expected "two hexadecimal digits")

/-- Reads a number of bytes that go on with a character, behind those that are done; bytes
are kept from the last one. -/
def readFurther : Nat → List UInt8 → Input → Except Fault (List UInt8 × Input)
  | 0, done, input => .ok (done,input)
  | count + 1, done, input => do
    let (byte,input) ← readByte input
    if 0x80 ≤ byte && byte < 0xC0 then readFurther count (UInt8.ofNat byte :: done) input
    else .error (.expected "a byte inside a character")

/-- Reads the bytes of a character. The first tells their number, and nothing else is asked
of what they write. -/
def readCoded (done : List UInt8) (input : Input) : Except Fault (List UInt8 × Input) := do
  let (first,input) ← readByte input
  match byteCount? first with
  | none => .error (.expected "the first byte of a character")
  | some count => readFurther (count - 1) (UInt8.ofNat first :: done) input

def readUriFrom (bracketed : Bool) :
    Nat → List UInt8 → Input → Except Fault (List UInt8 × Input)
  | 0, done, input => .ok (done,input)
  | fuel + 1, done, input =>
    match input.peek 0 with
    | none => .ok (done,input)
    | some c =>
      if !isUriChar bracketed c then .ok (done,input)
      else if c = '%' then do
        let (done,input) ← readCoded done input
        readUriFrom bracketed fuel done input
      else readUriFrom bracketed fuel (UInt8.ofNat c.toNat :: done) (input.skip 1)

def readUri (bracketed : Bool) (input : Input) : Except Fault (List UInt8 × Input) := do
  let (done,input) ← readUriFrom bracketed (input.size + 1) [] input
  .ok (done.reverse,input)

/-- Reads a tag handle: a mark, a name and a second mark, where all but the first may be
missing. -/
def readHandle (input : Input) : Except Fault (List Char × Input) :=
  if !input.starts '!' then .error (.expected "an exclamation mark")
  else
    let (name,input) := (input.skip 1).takeWhile isNameChar
    if input.starts '!' then .ok ('!' :: name ++ ['!'],input.skip 1)
    else .ok ('!' :: name,input)

/-- Reads a tag as the handle and the suffix that it abbreviates. A handle without a second
mark is the beginning of a suffix to the handle of a single mark; that mark alone is a
whole tag. -/
def readTag (inFlow : Bool) (input : Input) : Except Fault (Token × Input) := do
  let (token,input) ← (
    if input.peek 1 == some '<' then do
      let (uri,input) ← readUri true (input.skip 2)
      if uri.isEmpty then .error (.expected "a tag")
      else if input.starts '>' then .ok (Token.tag "" (.ofBytes uri),input.skip 1)
      else .error (.expected "a closing bracket")
    else do
      let (handle,input) ← readHandle input
      let (uri,input) ← readUri false input
      if 1 < handle.length && handle.getLast? == some '!' then
        if uri.isEmpty then .error (.expected "a tag")
        else .ok (Token.tag (String.ofList handle) (.ofBytes uri),input)
      else
        let suffix := (Tag.ofText (String.ofList (handle.drop 1))).append (.ofBytes uri)
        .ok (if suffix.isEmpty then Token.tag "" .bare else Token.tag "!" suffix,input))
  if endsWord (input.peek 0) || (inFlow && input.starts ',') then .ok (token,input)
  else .error (.expected "the end of a tag")

end Orthography.Yaml.Property
