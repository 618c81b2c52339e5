import Orthography.Text.Bytes

/-! YAML text with the place reached in it, and the classes of characters that its tokens
are told apart by. -/
namespace Orthography.Yaml

/-- What is left to read of a text of so many characters, with the number of bytes read and
the line and column. The size bounds the steps of everything that reads. -/
structure Input where
  rest : List Char
  size : Nat
  offset : Nat
  line : Nat
  column : Nat

inductive Fault
  | forbidden (c : Char)
  | misplaced (what : String)
  | expected (what : String)
  | unfinished
  | escape
  | version
  | repeatedDirective
  | unknownHandle (handle : String)
  | unknownAnchor (name : String)
  | manyDocuments
  deriving DecidableEq

def Fault.message : Fault → String
  | forbidden c => s!"the character with code {c.toNat} is not allowed"
  | misplaced what => s!"{what} is not allowed here"
  | expected what => s!"expected {what}"
  | unfinished => "the text ends inside quotes"
  | escape => "unknown escape in a quoted text"
  | version => "unknown version"
  | repeatedDirective => "a directive is repeated"
  | unknownHandle handle => s!"unknown tag handle {handle}"
  | unknownAnchor name => s!"unknown anchor {name}"
  | manyDocuments => "more than one document"

def isAllowed (c : Char) : Bool :=
  let n := c.toNat
  n == 0x9 || n == 0xA || n == 0xD || (0x20 ≤ n && n ≤ 0x7E) || n == 0x85 ||
    (0xA0 ≤ n && n ≤ 0xFFFD) || 0x10000 ≤ n

def isBlank (c : Char) : Bool := c = ' ' || c = '\t'

def isBreak (c : Char) : Bool :=
  c = '\n' || c = '\r' || c = '\x85' || c = '\u2028' || c = '\u2029'

def isOneOf (chars : String) (c : Char) : Bool := chars.toList.contains c

def endsWord : Option Char → Bool
  | none => true
  | some c => isBlank c || isBreak c

def endsLine : Option Char → Bool
  | none => true
  | some c => isBreak c

def isNameChar (c : Char) : Bool := c.isAlphanum || c = '-' || c = '_'

namespace Input

def ofChars (cs : List Char) : Input := ⟨cs,cs.length,0,0,0⟩

def peek (input : Input) (ahead : Nat) : Option Char := input.rest[ahead]?

def starts (input : Input) (c : Char) : Bool := input.peek 0 == some c

def skip (input : Input) (n : Nat) : Input :=
  { input with
    rest := input.rest.drop n
    offset := input.offset + Text.byteLength (input.rest.take n)
    column := input.column + n }

def takeWhile (input : Input) (test : Char → Bool) : List Char × Input :=
  let taken := input.rest.takeWhile test
  (taken,input.skip taken.length)

def skipWhile (input : Input) (test : Char → Bool) : Input := (input.takeWhile test).2

def nextLine (input : Input) (bytes : Nat) (rest : List Char) : Input :=
  { input with rest, offset := input.offset + bytes, line := input.line + 1, column := 0 }

/-- A line break and the line after it. All breaks but the two separators of Unicode are
read as a line feed, and so is a carriage return with its line feed. -/
def lineBreak? (input : Input) : Option (Char × Input) :=
  match input.rest with
  | '\r' :: '\n' :: rest => some ('\n',input.nextLine 2 rest)
  | c :: rest =>
    if isBreak c then
      some (if c = '\u2028' || c = '\u2029' then c else '\n',input.nextLine c.utf8Size rest)
    else none
  | [] => none

def skipLine (input : Input) : Input :=
  match input.lineBreak? with
  | some (_,next) => next
  | none => input

def atBlank (input : Input) : Bool :=
  match input.peek 0 with
  | some c => isBlank c
  | none => false

def skipComment (input : Input) : Except Fault Input :=
  let input := input.skipWhile isBlank
  let input := if input.starts '#' then input.skipWhile (!isBreak ·) else input
  if endsLine (input.peek 0) then .ok input.skipLine else .error (.expected "the end of the line")

/-- Three characters at the beginning of a line, alone in their word. -/
def hasMark (input : Input) (c : Char) : Bool :=
  input.column == 0 && input.peek 0 == some c && input.peek 1 == some c &&
    input.peek 2 == some c && endsWord (input.peek 3)

def atDocumentMark (input : Input) : Bool := input.hasMark '-' || input.hasMark '.'

end Input
end Orthography.Yaml
