import Orthography.Text.Marks

/-! The components of expanded patterns. Each is matched against one file name; a double
star, which must be a component of its own, is any number of directories. -/
namespace Orthography.Expansion

inductive Part
  | char (c : Char)
  | anyChar
  | anyText
  | oneOf (negated : Bool) (ranges : List (Char × Char))
  | anyDepth

/-- Why a pattern is none, with the position of the character that shows it. -/
inductive Fault
  | stars (position : Nat)
  | doubleStar (position : Nat)
  | range (position : Nat)
  deriving DecidableEq

namespace Fault

def position : Fault → Nat
  | stars n => n
  | doubleStar n => n
  | range n => n

def reason : Fault → String
  | stars _ => "wildcards are either regular \x60*\x60 or recursive \x60**\x60"
  | doubleStar _ => "recursive wildcards must form a single path component"
  | range _ => "invalid range pattern"

def message (fault : Fault) : String :=
  s!"Pattern syntax error near position {fault.position}: {fault.reason}"

end Fault

/-- The ranges of a class; a hyphen between two characters joins them. -/
def rangesOf : List Char → List (Char × Char)
  | low :: '-' :: high :: rest => (low,high) :: rangesOf rest
  | c :: rest => (c,c) :: rangesOf rest
  | [] => []

/-- Reads a class behind its opening bracket: the part and what follows its closing bracket,
which is not the first character of the class. -/
def readClass (cs : List Char) : Option (Part × List Char) :=
  let negated := cs.head? == some '!'
  match (if negated then cs.drop 1 else cs) with
  | [] => none
  | first :: rest =>
    match rest.dropWhile (· != ']') with
    | [] => none
    | _ :: behind => some (.oneOf negated (rangesOf (first :: rest.takeWhile (· != ']'))),behind)

def readStars (position : Nat) (previous : Option Char) (cs : List Char) :
    Except Fault (Part × List Char) :=
  match cs.takeWhile (· == '*'), cs.dropWhile (· == '*') with
  | [], behind => .ok (.anyText,behind)
  | [_], behind =>
    if previous != none && previous != some '/' then .error (.doubleStar (position - 1))
    else match behind with
      | [] => .ok (.anyDepth,[])
      | '/' :: rest => .ok (.anyDepth,rest)
      | _ => .error (.doubleStar (position + 2))
  | _, _ => .error (.stars (position + 2))

def readParts : Nat → (position : Nat) → (previous : Option Char) → List Char →
    Except Fault (List Part)
  | 0, _, _, _ => .ok []
  | _ + 1, _, _, [] => .ok []
  | fuel + 1, position, previous, c :: rest =>
    let goOn (part : Part) (behind : List Char) : Except Fault (List Part) := do
      let length := rest.length + 1 - behind.length
      let last := (c :: rest)[length - 1]?
      .ok (part :: (← readParts fuel (position + length) last behind))
    match c with
    | '?' => goOn .anyChar rest
    | '*' => do
      let (part,behind) ← readStars position previous rest
      goOn part behind
    | '[' =>
      match readClass rest with
      | some (part,behind) => goOn part behind
      | none => .error (.range position)
    | _ => goOn (.char c) rest

def parse (pattern : String) : Except Fault (List Part) :=
  readParts (pattern.length + 1) 0 none pattern.toList

open Text (Marks)

def Part.move (name : List Char) (marks : Marks) : Part → Marks
  | .char c => Marks.step (· == c) name marks
  | .anyChar => Marks.step (fun _ => true) name marks
  | .anyText | .anyDepth => marks.spread
  | .oneOf negated ranges =>
    Marks.step (fun c => ranges.any (fun (low,high) => low ≤ c && c ≤ high) != negated)
      name marks

def matchesName (parts : List Part) (name : String) : Bool :=
  (parts.foldl (fun marks part => part.move name.toList marks) (Marks.start name.toList)).atEnd

def Part.char? : Part → Option Char
  | .char c => some c
  | _ => none

/-- The text of a component that matches only itself. -/
def literal? (parts : List Part) : Option String :=
  (parts.mapM Part.char?).map String.ofList

/-- A component of any number of directories. -/
def isAnyDepth : List Part → Bool
  | [.anyDepth] => true
  | _ => false

/-- Whether a component begins with a dot, as one must that matches the names of a directory
itself and of the one above. -/
def beginsWithDot : List Part → Bool
  | .char c :: _ => c = '.'
  | _ => false

end Orthography.Expansion
