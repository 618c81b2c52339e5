import Orthography.Expansion.Component
import Orthography.FilePath
import Orthography.Files

/-! The files that a pattern names, in the order of their names within each directory.
Components without wildcards are taken as they are, so that they need no listing. -/
namespace Orthography.Expansion

structure Pattern where
  /-- The directory that it starts from. -/
  scope : String
  components : List (List Part)
  /-- Only directories match, as a separator ends the pattern. -/
  directoriesOnly : Bool

/-- The texts between separators, where one at the end adds nothing. -/
def split (cs : List Char) : List String :=
  let parts := (Text.splitAt '/' cs).map String.ofList
  if parts.getLast? == some "" then parts.dropLast else parts

/-- Reads a pattern. Brackets must close within the pattern and within their component. -/
def Pattern.ofText (text : String) : Except Fault Pattern := do
  let _ ← parse text
  let cs := text.toList
  let absolute := FilePath.isAbsolute text
  let behindRoot := if absolute then cs.drop 1 else cs
  let components ← (split behindRoot).mapM parse
  .ok ⟨if absolute then "/" else ".",if behindRoot.isEmpty then [[]] else components,
    cs.getLast? == some '/'⟩

/-- A path below a directory; the current directory itself is not written. -/
def below (directory name : String) : String :=
  if FilePath.parts directory == [.here] then name else FilePath.join directory name

variable {m : Type → Type} [Monad m]

/-- A path together with the components that are left to match from it. -/
structure Place where
  path : String
  /-- The first component is matched against the path's own name. -/
  left : List (List Part)

/-- The places to look at inside a directory, for components that start there. -/
def inside (files : Files m) : String → List (List Part) → m (List Place)
  | path, [] => pure [⟨path,[]⟩]
  | path, component :: rest => do
    match literal? component with
    | some name =>
      let next := below path name
      let there ← if name == "." || name == ".." then files.isDirectory path else files.holds next
      if there then inside files next rest else pure []
    | none =>
      if ← files.isDirectory path then
        let names ← files.names path
        let special := [".",".."].filter fun name =>
          beginsWithDot component && matchesName component name
        let around ← special.reverse.mapM fun name =>
          inside files (FilePath.join path name) rest
        pure (around.flatten ++ names.map fun name => ⟨below path name,component :: rest⟩)
      else pure []

/-- The components behind those of any depth that come first. -/
def behindDepth (components : List (List Part)) : List (List Part) :=
  components.dropWhile isAnyDepth

def search (files : Files m) (directoriesOnly : Bool) : Nat → Place → m (List String)
  | 0, _ => pure []
  | fuel + 1, ⟨path,left⟩ => do
    let accept : m (List String) := do
      if directoriesOnly then
        if ← files.isDirectory path then pure [path] else pure []
      else pure [path]
    let continueWith (places : List Place) : m (List String) := do
      pure (← places.mapM (search files directoriesOnly fuel)).flatten
    let named (components : List (List Part)) : m (List String) := do
      match components, FilePath.fileName? path with
      | component :: rest, some name =>
        if !matchesName component name then pure []
        else if rest.isEmpty then accept
        else continueWith (← inside files path rest)
      | _, _ => pure []
    match left with
    | [] => accept
    | component :: _ =>
      if isAnyDepth component then
        let rest := behindDepth left
        if ← files.isDirectory path then
          let own ← if rest.isEmpty then pure [path] else named rest
          let deeper ← continueWith (← inside files path (component :: rest))
          pure (own ++ deeper)
        else named rest
      else named left

/-- No path is longer than this, so that no directory lies deeper. -/
def deepest : Nat := 4096

def expand (files : Files m) (pattern : Pattern) : m (List String) := do
  let places ← inside files pattern.scope pattern.components
  let found ← places.mapM (search files pattern.directoriesOnly deepest)
  found.flatten.filterM files.isFile

end Orthography.Expansion
