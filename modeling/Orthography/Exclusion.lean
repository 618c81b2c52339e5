import Orthography.Exclusion.Pattern
import Orthography.Text.Marks

/-! Whether a path is excluded, which is decided by its bytes. -/
namespace Orthography.Exclusion

open Text (Marks)

def bytesOf (c : Char) : List UInt8 := String.utf8EncodeChar c

/-- Whether a range of characters has a byte. A class is a set of bytes: of characters
longer than one, each byte counts for itself, and a range lies between the last byte of its
first character and the first byte of its last one. -/
def rangeHas (range : Char × Char) (byte : UInt8) : Bool :=
  let first := bytesOf range.1
  if range.1 == range.2 then first.contains byte
  else
    let last := bytesOf range.2
    first.dropLast.contains byte || (last.drop 1).contains byte ||
      (first.getLastD 0 ≤ byte && byte ≤ last.headD 0)

def separator : UInt8 := 47

def stepSeparator (bytes : List UInt8) (marks : Marks) : Marks :=
  Marks.step (· == separator) bytes marks

/-- Whether a part says anything; alternatives that all are empty say nothing. -/
def isSilent : List Part → Bool
  | [] => true
  | .alternatives branches :: rest => silentAll branches && isSilent rest
  | _ :: _ => false
where
  silentAll : List (List Part) → Bool
    | [] => true
    | branch :: rest => isSilent branch && silentAll rest

mutual

/-- Where a part may end that begins at a marked place. Empty alternatives do not count. -/
def Part.move (bytes : List UInt8) (marks : Marks) : Part → Marks
  | .literal c => Marks.steps (bytesOf c) bytes marks
  | .anyByte => Marks.step (fun _ => true) bytes marks
  | .anyText => marks.spread
  | .directoriesFirst =>
    marks.either ((stepSeparator bytes marks).either (stepSeparator bytes marks.spread))
  | .directoriesBetween =>
    let inside := stepSeparator bytes marks
    inside.either (stepSeparator bytes inside.spread)
  | .allInside => (stepSeparator bytes marks).spread
  | .oneOf negated ranges =>
    Marks.step (fun byte => ranges.any (rangeHas · byte) != negated) bytes marks
  | .alternatives branches =>
    if isSilent.silentAll branches then marks
    else moveAny bytes marks branches

def moveAll (bytes : List UInt8) (marks : Marks) : List Part → Marks
  | [] => marks
  | part :: rest => moveAll bytes (part.move bytes marks) rest

def moveAny (bytes : List UInt8) (marks : Marks) : List (List Part) → Marks
  | [] => marks.cleared
  | branch :: rest =>
    if isSilent branch then moveAny bytes marks rest
    else (moveAll bytes marks branch).either (moveAny bytes marks rest)

end

/-- Whether the parts match all of a path. A double star alone matches every path. -/
def matchesAll (parts : List Part) (path : String) : Bool :=
  match parts with
  | [.directoriesFirst] => true
  | _ =>
    let bytes := path.toUTF8.toList
    (moveAll bytes (Marks.start bytes) parts).atEnd

/-- Whether a pattern excludes a path; a malformed pattern excludes none. -/
def excludes (pattern path : String) : Bool :=
  match Pattern.parse pattern with
  | .ok parts => matchesAll parts path
  | .error _ => false

end Orthography.Exclusion
