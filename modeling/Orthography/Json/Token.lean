import Orthography.Json.Range
import Orthography.Json.Value

/-! JSON text as tokens, read a character at a time. What stands between quotes is kept in
pieces up to the closing quote, as half of a surrogate pair shows only there. -/
namespace Orthography.Json

inductive Token
  | openList
  | closeList
  | openRecord
  | closeRecord
  | comma
  | colon
  /-- A text; nothing for one with half of a surrogate pair. -/
  | text (s : Option String)
  /-- A null, a truth value or a number. -/
  | plain (value : Value)

inductive Fault
  | character (c : Char)
  | word (spelled : String)
  | misplaced
  | unfinished
  deriving DecidableEq

def Fault.message : Fault → String
  | character c => s!"unexpected character with code {c.toNat}"
  | word spelled => s!"unexpected word '{spelled}'"
  | misplaced => "a value, comma or bracket is out of place"
  | unfinished => "the text ends too early"

namespace Token

/-- A part of a quoted text: a character, or a UTF-16 unit written in hexadecimal. -/
inductive Piece
  | char (c : Char)
  | unit (n : Nat)

def isHighSurrogate (unit : Nat) : Bool := 0xD800 ≤ unit && unit < 0xDC00

def isLowSurrogate (unit : Nat) : Bool := 0xDC00 ≤ unit && unit < 0xE000

def paired (high low : Nat) : Char :=
  Char.ofNat (0x10000 + (high - 0xD800) * 0x400 + (low - 0xDC00))

/-- The text of its pieces, whose beginning is done (from its end). -/
def assemble (done : List Char) : List Piece → Option String
  | [] => some (String.ofList done.reverse)
  | .char c :: rest => assemble (c :: done) rest
  | .unit high :: .unit low :: rest =>
    if isHighSurrogate high then
      if isLowSurrogate low then assemble (paired high low :: done) rest else none
    else if isLowSurrogate high then none
    else assemble (Char.ofNat high :: done) (.unit low :: rest)
  | .unit n :: rest =>
    if isHighSurrogate n || isLowSurrogate n then none
    else assemble (Char.ofNat n :: done) rest

/-- Where reading stands: in a word, in a text, behind its backslash, or in a hexadecimal
unit. What has been read is kept from its end. -/
inductive Mode
  | between
  | word (chars : List Char)
  | text (pieces : List Piece)
  | escape (pieces : List Piece)
  | unit (pieces : List Piece) (missing value : Nat)

structure Lexing where
  mode : Mode
  /-- The tokens read, from the last one. -/
  tokens : List Token

def isSpace (c : Char) : Bool := c = ' ' || c = '\n' || c = '\t' || c = '\r'

def isWordChar (c : Char) : Bool := c.isAlphanum || c = '+' || c = '-' || c = '.'

def mark? : Char → Option Token
  | '[' => some openList
  | ']' => some closeList
  | '\x7b' => some openRecord
  | '\x7d' => some closeRecord
  | ',' => some comma
  | ':' => some colon
  | _ => none

/-- What a backslash and one character stand for. -/
def escaped? : Char → Option Char
  | '"' => some '"'
  | '\\' => some '\\'
  | '/' => some '/'
  | 'b' => some '\x08'
  | 'f' => some '\x0c'
  | 'n' => some '\n'
  | 'r' => some '\r'
  | 't' => some '\t'
  | _ => none

/-- A number without fraction and exponent is an integer if it fits in 64 bits; the zero
with a sign is not one. -/
def ofSpelling (s : Decimal.Spelling) : Value :=
  let n := s.magnitude
  if s.isWhole && !s.isNegative && n < Numeral.bound 64 then .natural n
  else if s.isWhole && s.isNegative && n != 0 && n ≤ Numeral.bound 63 then .negative n
  else if Range.isExceeded s then .unreadable
  else .decimal s.value

/-- A number has no plus sign, no zero in front and a digit on each side of a point. -/
def isNumber (s : Decimal.Spelling) : Bool :=
  s.sign != some '+' && s.fraction != some [] &&
    (s.whole == ['0'] || (!s.whole.isEmpty && s.whole.head? != some '0'))

def ofWord? (word : List Char) : Option Value :=
  if word = "null".toList then some .null
  else if word = "true".toList then some (.bool true)
  else if word = "false".toList then some (.bool false)
  else ((Decimal.Spelling.ofChars? word).filter isNumber).map ofSpelling

def begin (tokens : List Token) (c : Char) : Except Fault Lexing :=
  if isSpace c then .ok ⟨.between,tokens⟩
  else if c = '"' then .ok ⟨.text [],tokens⟩
  else if isWordChar c then .ok ⟨.word [c],tokens⟩
  else match mark? c with
    | some token => .ok ⟨.between,token :: tokens⟩
    | none => .error (.character c)

def endWord (chars : List Char) : Except Fault Token :=
  match ofWord? chars.reverse with
  | some value => .ok (.plain value)
  | none => .error (.word (String.ofList chars.reverse))

def step : Lexing → Char → Except Fault Lexing
  | ⟨.between,tokens⟩, c => begin tokens c
  | ⟨.word chars,tokens⟩, c =>
    if isWordChar c then .ok ⟨.word (c :: chars),tokens⟩
    else do begin ((← endWord chars) :: tokens) c
  | ⟨.text pieces,tokens⟩, c =>
    if c = '"' then .ok ⟨.between,.text (assemble [] pieces.reverse) :: tokens⟩
    else if c = '\\' then .ok ⟨.escape pieces,tokens⟩
    else if c < ' ' then .error (.character c)
    else .ok ⟨.text (.char c :: pieces),tokens⟩
  | ⟨.escape pieces,tokens⟩, c =>
    if c = 'u' then .ok ⟨.unit pieces 3 0,tokens⟩
    else match escaped? c with
      | some char => .ok ⟨.text (.char char :: pieces),tokens⟩
      | none => .error (.character c)
  | ⟨.unit pieces missing value,tokens⟩, c =>
    match Numeral.digitOf? 16 c with
    | none => .error (.character c)
    | some digit =>
      let value := 16 * value + digit
      match missing with
      | 0 => .ok ⟨.text (.unit value :: pieces),tokens⟩
      | missing + 1 => .ok ⟨.unit pieces missing value,tokens⟩

def finish : Lexing → Except Fault (List Token)
  | ⟨.between,tokens⟩ => .ok tokens.reverse
  | ⟨.word chars,tokens⟩ => do .ok ((← endWord chars) :: tokens).reverse
  | _ => .error .unfinished

def scan (cs : List Char) : Except Fault (List Token) := do
  finish (← cs.foldlM step ⟨.between,[]⟩)

end Token
end Orthography.Json
