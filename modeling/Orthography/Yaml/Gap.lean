import Orthography.Yaml.Input

/-! Blanks and line breaks inside a scalar that goes on over lines. Blanks next to a break
vanish, a single break becomes a space, and of several the first vanishes. -/
namespace Orthography.Yaml

structure Gap where
  /-- Whether the gap reaches another line. -/
  broken : Bool
  /-- The blanks of a gap inside a line, from the last one. -/
  blanks : List Char
  firstBreak : Option Char
  /-- The breaks behind the first one, from the last one. -/
  laterBreaks : List Char

namespace Gap

def empty : Gap := ⟨false,[],none,[]⟩

def escaped : Gap := ⟨true,[],none,[]⟩

def addBreak (gap : Gap) (c : Char) : Gap :=
  if gap.broken then ⟨true,[],gap.firstBreak,c :: gap.laterBreaks⟩ else ⟨true,[],some c,[]⟩

/-- What the scalar holds for the gap. -/
def chars (gap : Gap) : List Char :=
  if !gap.broken then gap.blanks.reverse
  else match gap.firstBreak with
    | none => gap.laterBreaks.reverse
    | some first =>
      if first ≠ '\n' then first :: gap.laterBreaks.reverse
      else if gap.laterBreaks.isEmpty then [' ']
      else gap.laterBreaks.reverse

/-- Reads the rest of a gap. Behind a break no tab may stand before the given column. At
most `fuel` blanks and breaks are read. -/
def readFrom (indent : Nat) : Nat → Gap → Input → Except Fault (Gap × Input)
  | 0, gap, input => .ok (gap,input)
  | fuel + 1, gap, input =>
    match input.lineBreak? with
    | some (c,next) => readFrom indent fuel (gap.addBreak c) next
    | none =>
      match input.peek 0 with
      | some c =>
        if !isBlank c then .ok (gap,input)
        else if !gap.broken then readFrom indent fuel ⟨false,c :: gap.blanks,none,[]⟩ (input.skip 1)
        else if c = '\t' && input.column < indent then .error (.misplaced "a tab")
        else readFrom indent fuel gap (input.skip 1)
      | none => .ok (gap,input)

def read (indent : Nat) (gap : Gap) (input : Input) : Except Fault (Gap × Input) :=
  readFrom indent input.size gap input

end Gap
end Orthography.Yaml
