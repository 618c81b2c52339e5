import Orthography.Text.Blank

/-! Paths of files. Repeated separators and single dots change nothing, a leading dot
apart, so that two paths are compared by their parts. -/
namespace Orthography.FilePath

inductive Part
  | root
  /-- A dot that begins the path. -/
  | here
  | up
  | name (s : String)
  deriving DecidableEq

namespace Part

def rank : Part → Nat
  | root => 0
  | here => 1
  | up => 2
  | name _ => 3

/-- Names come last, in the order of their characters. -/
def precedes : Part → Part → Bool
  | name a, name b => decide (a < b)
  | a, b => decide (a.rank < b.rank)

end Part

/-- The texts between separators. -/
def segments (path : String) : List String :=
  (Text.splitAt '/' path.toList).map String.ofList

def isAbsolute (path : String) : Bool := path.toList.head? == some '/'

def isIdle (segment : String) : Bool := segment == "" || segment == "."

def partOf (segment : String) : Part := if segment == ".." then .up else .name segment

def parts (path : String) : List Part :=
  let segments := segments path
  let front : List Part :=
    if isAbsolute path then [.root] else if segments.head? == some "." then [.here] else []
  front ++ (segments.filter (!isIdle ·)).map partOf

def precedes : List Part → List Part → Bool
  | [], [] => false
  | [], _ :: _ => true
  | _ :: _, [] => false
  | a :: as, b :: bs => a.precedes b || (a == b && precedes as bs)

/-- The segments without idle ones at the end; the first one of a relative path counts. -/
def trimIdle (path : String) (segments : List String) : List String :=
  let trimmed := (segments.reverse.dropWhile isIdle).reverse
  if trimmed.isEmpty && !isAbsolute path && segments.head? == some "." then ["."] else trimmed

def parent? (path : String) : Option String :=
  match (trimIdle path (segments path)).reverse with
  | [] => none
  | _ :: front =>
    let rest := "/".intercalate (trimIdle path front.reverse)
    some (if isAbsolute path && rest.isEmpty then "/" else rest)

/-- The name of the file: the last part, if it is a name. -/
def fileName? (path : String) : Option String :=
  match (parts path).getLast? with
  | some (.name s) => some s
  | _ => none

/-- What stands behind the last dot of the file's name, unless the name begins with it. -/
def extension (path : String) : String :=
  match fileName? path with
  | none => ""
  | some name =>
    let cs := name.toList.reverse
    match cs.dropWhile (· != '.') with
    | _ :: _ :: _ => String.ofList (cs.takeWhile (· != '.')).reverse
    | _ => ""

def join (directory path : String) : String :=
  if isAbsolute path || directory.isEmpty then path
  else if directory.toList.getLast? == some '/' then directory ++ path
  else directory ++ "/" ++ path

end Orthography.FilePath
