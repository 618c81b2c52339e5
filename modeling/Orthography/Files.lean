import Orthography.Files.Fault

/-! What can be asked of a file system. The answers may depend on the world or on a tree of
files that is kept as a value. -/
namespace Orthography

structure Files (m : Type → Type) where
  /-- The text of a file. -/
  read : String → m (Except Files.Fault String)
  /-- Whether a path leads to anything. -/
  holds : String → m Bool
  isFile : String → m Bool
  isDirectory : String → m Bool
  /-- The names in a directory, sorted; none if it cannot be listed. -/
  names : String → m (List String)
  /-- The directory of the user's own settings. -/
  home : Option String

end Orthography
