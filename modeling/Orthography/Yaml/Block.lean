import Orthography.Yaml.Input

/-! Block scalars: indented lines that are kept as they are, or folded into paragraphs. -/
namespace Orthography.Yaml.Block

inductive Chomping
  | strip
  | clip
  | keep
  deriving DecidableEq

def chomping? (input : Input) : Option Chomping :=
  match input.peek 0 with
  | some '+' => some .keep
  | some '-' => some .strip
  | _ => none

/-- A digit that tells the indentation; zero tells none. -/
def indentation? (input : Input) : Except Fault (Option Nat) :=
  match input.peek 0 with
  | some c =>
    if c = '0' then .error (.misplaced "an indentation of zero")
    else if '1' ≤ c && c ≤ '9' then .ok (some (c.toNat - '0'.toNat))
    else .ok none
  | none => .ok none

/-- The chomping and indentation in front of the lines, in either order. -/
def readHeader (input : Input) : Except Fault (Chomping × Option Nat × Input) := do
  match chomping? input with
  | some chomping =>
    match ← indentation? (input.skip 1) with
    | some n => .ok (chomping,some n,input.skip 2)
    | none => .ok (chomping,none,input.skip 1)
  | none =>
    match ← indentation? input with
    | some n =>
      match chomping? (input.skip 1) with
      | some chomping => .ok (chomping,some n,input.skip 2)
      | none => .ok (.clip,some n,input.skip 1)
    | none => .ok (.clip,none,input)

/-- Empty lines, as their breaks from the last one, the widest of their indentations, and
what follows them. -/
structure Emptiness where
  breaks : List Char
  widest : Nat
  input : Input

/-- Skips indentation up to a column, or all of it if the column is not known yet, and the
empty lines it leads to. -/
def skipEmpty (indent : Option Nat) :
    Nat → List Char → Nat → Input → Except Fault Emptiness
  | 0, breaks, widest, input => .ok ⟨breaks,widest,input⟩
  | fuel + 1, breaks, widest, input =>
    let inIndentation := match indent with
      | none => true
      | some n => input.column < n
    if inIndentation && input.starts ' ' then
      skipEmpty indent fuel breaks widest (input.skip 1)
    else
      let widest := max widest input.column
      if inIndentation && input.starts '\t' then .error (.misplaced "a tab")
      else match input.lineBreak? with
        | some (c,next) => skipEmpty indent fuel (c :: breaks) widest next
        | none => .ok ⟨breaks,widest,input⟩

structure Lines where
  done : List Char
  /-- The break of the last line, if it has one. -/
  lastBreak : Option Char
  /-- The breaks of the empty lines behind it, from the last one. -/
  emptyBreaks : List Char
  /-- Whether the last line began with a blank, which keeps its breaks from folding. -/
  blank : Bool
  input : Input

def between (folded nextBlank : Bool) (lines : Lines) : List Char :=
  if folded && lines.lastBreak == some '\n' && !lines.blank && !nextBlank then
    if lines.emptyBreaks.isEmpty then [' '] else lines.emptyBreaks
  else lines.emptyBreaks ++ lines.lastBreak.toList

/-- Reads on while lines stand at the indentation, at most `fuel` of them. -/
def readLines (folded : Bool) (indent : Nat) : Nat → Lines → Except Fault Lines
  | 0, lines => .ok lines
  | fuel + 1, lines =>
    if lines.input.column == indent && !lines.input.rest.isEmpty then do
      let blank := lines.input.atBlank
      let (line,afterLine) := lines.input.takeWhile (!isBreak ·)
      let done := line.reverse ++ (between folded blank lines ++ lines.done)
      let (lastBreak,next) := match afterLine.lineBreak? with
        | some (c,next) => (some c,next)
        | none => (none,afterLine)
      let empty ← skipEmpty (some indent) (next.size + 1) [] 0 next
      readLines folded indent fuel ⟨done,lastBreak,empty.breaks,blank,empty.input⟩
    else .ok lines

def chomp (chomping : Chomping) (lines : Lines) : List Char :=
  let ending := match chomping with
    | .strip => []
    | .clip => lines.lastBreak.toList
    | .keep => lines.emptyBreaks ++ lines.lastBreak.toList
  (ending ++ lines.done).reverse

/-- Reads a scalar that begins with its indicator, inside a collection at an indentation
(one less than zero for none). -/
def read (folded : Bool) (parent : Int) (input : Input) :
    Except Fault (List Char × Input) := do
  let (chomping,told,input) ← readHeader (input.skip 1)
  let input ← input.skipComment
  let indent := told.map fun n => if 0 ≤ parent then parent.toNat + n else n
  let empty ← skipEmpty indent (input.size + 1) [] 0 input
  let indent := indent.getD (max empty.widest (max (parent + 1).toNat 1))
  let lines ← readLines folded indent (input.size + 1)
    ⟨[],none,empty.breaks,false,empty.input⟩
  .ok (chomp chomping lines,lines.input)

end Orthography.Yaml.Block
