import Orthography.FilePath
import Orthography.Files
import Orthography.Text.WordSet

/-! A tree of files as a value. -/
namespace Orthography.Files

/-- A file with its text, if its bytes are one, or a directory. -/
inductive Entry
  | file (text : Option String)
  | directory
  deriving DecidableEq

structure Tree where
  /-- Entries by the names that lead to them from the root; of two the first one counts. -/
  entries : List (List String × Entry)
  workingDirectory : List String
  home : List String

namespace Tree

def entry? (tree : Tree) (names : List String) : Option Entry :=
  if names.isEmpty then some .directory else tree.entries.lookup names

/-- Adds a directory with those that lead to it, each given by the names behind `front`. -/
def addDirectory (tree : Tree) (front : List String) : List String → Tree
  | [] => tree
  | name :: rest =>
    let place := front ++ [name]
    let tree :=
      if (tree.entry? place).isSome then tree
      else { tree with entries := (place,.directory) :: tree.entries }
    addDirectory tree place rest

def addFile (tree : Tree) (names : List String) (text : Option String) : Tree :=
  let tree := tree.addDirectory [] names.dropLast
  { tree with entries := (names,.file text) :: tree.entries }

/-- A tree with nothing but the directory that paths start from, and the home directory. -/
def bare (workingDirectory home : List String) : Tree :=
  ((Tree.mk [] workingDirectory home).addDirectory [] workingDirectory).addDirectory [] home

def longestName : Nat := 255

def longestPath : Nat := 4095

/-- Follows the segments of a path from a directory. Only directories have anything behind
a separator. -/
def follow (tree : Tree) (place : List String) :
    List String → Except Fault (List String × Entry)
  | [] => .ok (place,.directory)
  | segment :: rest =>
    if FilePath.isIdle segment then follow tree place rest
    else if segment == ".." then follow tree place.dropLast rest
    else if longestName < segment.utf8ByteSize then .error .nameTooLong
    else
      let place := place ++ [segment]
      match tree.entry? place with
      | none => .error .notFound
      | some .directory => follow tree place rest
      | some file => if rest.isEmpty then .ok (place,file) else .error .notDirectory

def find (tree : Tree) (path : String) : Except Fault (List String × Entry) :=
  if path.isEmpty then .error .notFound
  else if path.toList.contains '\x00' then .error .zeroInPath
  else if longestPath < path.utf8ByteSize then .error .nameTooLong
  else tree.follow (if FilePath.isAbsolute path then [] else tree.workingDirectory)
    (FilePath.segments path)

def read (tree : Tree) (path : String) : Except Fault String := do
  match (← tree.find path).2 with
  | .directory => .error .isDirectory
  | .file none => .error .notText
  | .file (some text) => .ok text

def holds (tree : Tree) (path : String) : Bool := (tree.find path).isOk

def isDirectory (tree : Tree) (path : String) : Bool :=
  match tree.find path with
  | .ok (_,.directory) => true
  | _ => false

def isFile (tree : Tree) (path : String) : Bool :=
  match tree.find path with
  | .ok (_,.file _) => true
  | _ => false

def nameIn? (place names : List String) : Option String :=
  if names.dropLast == place then names.getLast? else none

def names (tree : Tree) (path : String) : List String :=
  match tree.find path with
  | .ok (place,.directory) =>
    Text.insertWords (tree.entries.filterMap fun entry => nameIn? place entry.1) []
  | _ => []

def pathOf (names : List String) : String := "/" ++ "/".intercalate names

def files (tree : Tree) : Files Id where
  read := tree.read
  holds := tree.holds
  isFile := tree.isFile
  isDirectory := tree.isDirectory
  names := tree.names
  home := some (pathOf tree.home)

end Tree
end Orthography.Files
