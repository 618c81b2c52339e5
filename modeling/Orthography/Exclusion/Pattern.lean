/-! Patterns of excluded files. A star is any text, also across separators; a double star
between separators is any number of directories; braces hold alternatives. -/
namespace Orthography.Exclusion

inductive Part
  | literal (c : Char)
  | anyByte
  | anyText
  /-- Directories at the beginning, possibly none. -/
  | directoriesFirst
  /-- Directories between two separators, possibly none. -/
  | directoriesBetween
  /-- A separator and all behind it. -/
  | allInside
  | oneOf (negated : Bool) (ranges : List (Char × Char))
  | alternatives (branches : List (List Part))

inductive Fault
  | openClass
  | reversedRange (first last : Char)
  | openBrace
  | closedBrace
  | danglingEscape
  deriving DecidableEq

namespace Pattern

/-- Characters of a class, from the last range. -/
structure ClassReading where
  ranges : List (Char × Char)
  first : Bool
  /-- Behind a hyphen that may join two characters to a range. -/
  joining : Bool

def joinTo (c : Char) : List (Char × Char) → Except Fault (List (Char × Char))
  | (low,_) :: rest => if c < low then .error (.reversedRange low c) else .ok ((low,c) :: rest)
  | [] => .ok [(c,c)]

/-- Reads a class up to its closing bracket, which is a character of the class if it comes
first. Gives the ranges and what follows. -/
def readClass : ClassReading → List Char → Except Fault (List (Char × Char) × List Char)
  | _, [] => .error .openClass
  | ⟨ranges,first,joining⟩, c :: rest =>
    if c = ']' && !first then
      .ok ((if joining then ('-','-') :: ranges else ranges).reverse,rest)
    else if c = '-' && !first && !joining then readClass ⟨ranges,false,true⟩ rest
    else if joining then do readClass ⟨← joinTo c ranges,false,false⟩ rest
    else readClass ⟨(c,c) :: ranges,false,false⟩ rest

/-- A group in braces that is not closed: its finished branches and the parts in front of
it, each from the last one. -/
structure OpenGroup where
  branches : List (List Part)
  before : List Part

/-- What has been read of a pattern. The parts are kept from the last one. -/
structure PatternReading where
  parts : List Part
  outer : List OpenGroup
  /-- The character in front of the next one. -/
  previous : Option Char

def PatternReading.add (reading : PatternReading) (part : Part) (previous : Char) : PatternReading :=
  { reading with parts := part :: reading.parts, previous := some previous }

/-- Two stars that mean no more than one. -/
def addStars (reading : PatternReading) : PatternReading :=
  (reading.add .anyText '*').add .anyText '*'

/-- Puts the double star behind a separator in that separator's place, unless it repeats one
before it. -/
def replaceSeparator (parts : List Part) (part : Part) : List Part :=
  match parts with
  | .directoriesFirst :: rest => .directoriesFirst :: rest
  | .allInside :: rest => .allInside :: rest
  | _ :: rest => part :: rest
  | [] => [part]

/-- Whether the double star may stand for directories: behind a separator, or behind what
begins a branch. -/
def afterBoundary (reading : PatternReading) : Bool :=
  reading.previous == some '/' ||
    (!reading.outer.isEmpty && (reading.previous == some ',' || reading.previous == some '\x7b'))

/-- Reads a double star. Gives the reading and what follows. -/
def readStars (reading : PatternReading) (rest : List Char) : PatternReading × List Char :=
  let inGroup := !reading.outer.isEmpty
  if reading.parts.isEmpty then
    match rest with
    | [] => (reading.add .directoriesFirst '*',[])
    | '/' :: rest => (reading.add .directoriesFirst '/',rest)
    | _ => (addStars reading,rest)
  else if !afterBoundary reading then (addStars reading,rest)
  else match rest with
    | [] =>
      ({ reading with parts := replaceSeparator reading.parts .allInside, previous := some '*' },[])
    | '/' :: rest =>
      ({ reading with
          parts := replaceSeparator reading.parts .directoriesBetween, previous := some '/' },rest)
    | c :: _ =>
      if inGroup && (c = ',' || c = '\x7d') then
        ({ reading with parts := replaceSeparator reading.parts .allInside, previous := some '*' },
          rest)
      else (addStars reading,rest)

/-- Ends a branch of the innermost group; outside of groups a comma is a character. -/
def endBranch (reading : PatternReading) : PatternReading :=
  match reading.outer with
  | [] => reading.add (.literal ',') ','
  | group :: outer =>
    ⟨[],⟨reading.parts.reverse :: group.branches,group.before⟩ :: outer,some ','⟩

def closeGroup (reading : PatternReading) : Except Fault PatternReading :=
  match reading.outer with
  | [] => .error .closedBrace
  | group :: outer =>
    let branches := (reading.parts.reverse :: group.branches).reverse
    .ok ⟨.alternatives branches :: group.before,outer,some '\x7d'⟩

def readFrom : Nat → PatternReading → List Char → Except Fault PatternReading
  | 0, reading, _ => .ok reading
  | _ + 1, reading, [] => .ok reading
  | fuel + 1, reading, c :: rest =>
    match c, rest with
    | '?', _ => readFrom fuel (reading.add .anyByte c) rest
    | '*', '*' :: rest =>
      let (reading,rest) := readStars reading rest
      readFrom fuel reading rest
    | '*', _ => readFrom fuel (reading.add .anyText c) rest
    | '[', _ => do
      let negated := rest.head? == some '!' || rest.head? == some '^'
      let (ranges,rest) ← readClass ⟨[],true,false⟩ (if negated then rest.drop 1 else rest)
      readFrom fuel (reading.add (.oneOf negated ranges) ']') rest
    | '\x7b', _ => readFrom fuel ⟨[],⟨[],reading.parts⟩ :: reading.outer,some c⟩ rest
    | '\x7d', _ => do readFrom fuel (← closeGroup reading) rest
    | ',', _ => readFrom fuel (endBranch reading) rest
    | '\\', escaped :: rest => readFrom fuel (reading.add (.literal escaped) escaped) rest
    | '\\', [] => .error .danglingEscape
    | _, _ => readFrom fuel (reading.add (.literal c) c) rest

def parse (pattern : String) : Except Fault (List Part) := do
  let cs := pattern.toList
  let reading ← readFrom (cs.length + 1) ⟨[],[],none⟩ cs
  if reading.outer.isEmpty then .ok reading.parts.reverse else .error .openBrace

end Pattern
end Orthography.Exclusion
