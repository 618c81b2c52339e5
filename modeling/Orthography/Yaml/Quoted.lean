import Orthography.Numeral
import Orthography.Yaml.Gap

/-! Quoted scalars. Between single quotes only the quote itself is written in a special
way, twice; between double quotes a backslash escapes. -/
namespace Orthography.Yaml.Quoted

def escaped? : Char → Option Char
  | '0' => some '\x00'
  | 'a' => some '\x07'
  | 'b' => some '\x08'
  | 't' | '\t' => some '\t'
  | 'n' => some '\n'
  | 'v' => some '\x0b'
  | 'f' => some '\x0c'
  | 'r' => some '\r'
  | 'e' => some '\x1b'
  | ' ' => some ' '
  | '"' => some '"'
  | '/' => some '/'
  | '\\' => some '\\'
  | 'N' => some '\x85'
  | '_' => some '\xa0'
  | 'L' => some '\u2028'
  | 'P' => some '\u2029'
  | _ => none

def codeLength? : Char → Option Nat
  | 'x' => some 2
  | 'u' => some 4
  | 'U' => some 8
  | _ => none

/-- The character of a code, unless it is half of a surrogate pair or too large. -/
def ofCode? (code : Nat) : Option Char :=
  if code < 0xD800 || (0xE000 ≤ code && code < 0x110000) then some (Char.ofNat code) else none

def readEscape (input : Input) : Except Fault (Char × Input) :=
  match input.peek 0 with
  | none => .error .escape
  | some c =>
    match escaped? c with
    | some char => .ok (char,input.skip 1)
    | none =>
      match codeLength? c with
      | none => .error .escape
      | some n =>
        let digits := (input.rest.drop 1).take n
        match (if digits.length == n then Numeral.read? 16 digits else none).bind ofCode? with
        | some char => .ok (char,input.skip (n + 1))
        | none => .error .escape

def readFrom (quote : Char) : Nat → List Char → Input → Except Fault (List Char × Input)
  | 0, _, _ => .error .unfinished
  | fuel + 1, done, input =>
    if input.atDocumentMark then .error (.misplaced "a document mark")
    else match input.peek 0 with
    | none => .error .unfinished
    | some c =>
      if endsWord (some c) then do
        let (gap,input) ← Gap.empty.read 0 input
        readFrom quote fuel (gap.chars.reverse ++ done) input
      else if c = quote then
        if quote = '\'' && input.peek 1 == some '\'' then
          readFrom quote fuel ('\'' :: done) (input.skip 2)
        else .ok (done.reverse,input.skip 1)
      else if quote = '"' && c = '\\' then
        match (input.skip 1).lineBreak? with
        | some (_,next) => do
          let (gap,input) ← Gap.escaped.read 0 next
          readFrom quote fuel (gap.chars.reverse ++ done) input
        | none => do
          let (char,input) ← readEscape (input.skip 1)
          readFrom quote fuel (char :: done) input
      else readFrom quote fuel (c :: done) (input.skip 1)

def read (quote : Char) (input : Input) : Except Fault (List Char × Input) :=
  readFrom quote (input.size + 1) [] (input.skip 1)

end Orthography.Yaml.Quoted
