import Orthography.Yaml.Gap

/-! Plain scalars: text without quotes, which ends where it could be read as something
else. -/
namespace Orthography.Yaml.Plain

/-- The characters that separate the entries of flow collections and enclose them. -/
def isFlowMark (c : Char) : Bool :=
  isOneOf ",[]\x7b\x7d" c

def isIndicator (c : Char) : Bool :=
  isFlowMark c || isOneOf "-?:#&*!|>'\"%@\x60" c

/-- Whether a plain scalar starts here. Some indicators may start one if a character
follows that ends no word. -/
def starts (inFlow : Bool) (input : Input) : Bool :=
  match input.peek 0 with
  | none => false
  | some c =>
    if c = '-' then (match input.peek 1 with | some next => !isBlank next | none => true)
    else if c = '?' || c = ':' then !inFlow && !endsWord (input.peek 1)
    else !endsWord (some c) && !isIndicator c

/-- Whether the scalar ends before a character, as a key ends before its colon. -/
def stopsAt (inFlow : Bool) (c : Char) (next : Option Char) : Bool :=
  (c = ':' && endsWord next) || (inFlow && isFlowMark c)

def isStrayColon (inFlow : Bool) (c : Char) (next : Option Char) : Bool :=
  inFlow && c = ':' &&
    match next with
    | some next => isFlowMark next || next = '?'
    | none => false

structure Outcome where
  text : List Char
  broken : Bool
  input : Input

def readFrom (inFlow : Bool) (indent : Nat) :
    Nat → List Char → Gap → Input → Except Fault Outcome
  | 0, part, gap, input => .ok ⟨part.reverse,gap.broken,input⟩
  | fuel + 1, part, gap, input =>
    match input.peek 0 with
    | none => .ok ⟨part.reverse,gap.broken,input⟩
    | some c =>
      if endsWord (some c) then do
        let (gap,input) ← Gap.empty.read indent input
        if input.atDocumentMark || input.starts '#' || (!inFlow && input.column < indent) then
          .ok ⟨part.reverse,gap.broken,input⟩
        else readFrom inFlow indent fuel part gap input
      else if isStrayColon inFlow c (input.peek 1) then .error (.misplaced "a colon")
      else if stopsAt inFlow c (input.peek 1) then .ok ⟨part.reverse,gap.broken,input⟩
      else readFrom inFlow indent fuel (c :: (gap.chars.reverse ++ part)) .empty (input.skip 1)

def read (inFlow : Bool) (indent : Nat) (input : Input) : Except Fault Outcome :=
  readFrom inFlow indent (input.size + 1) [] .empty input

end Orthography.Yaml.Plain
