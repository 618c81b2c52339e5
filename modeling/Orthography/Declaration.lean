import Orthography.Declaration.Kind

/-! Declarations as a host extracts them from a source file, each with those it contains. -/
namespace Orthography

open Declaration in
/-- A declaration. Offsets count the bytes of the source file. -/
structure Declaration where
  kind : Kind
  /-- A function's name holds its parameter list. -/
  name : Option String
  /-- The name of a parameter inside its function. -/
  localName : Option String
  localNameOffset : Option Nat
  offset : Option Nat
  nameOffset : Option Nat
  attributes : List String
  accessibility : Accessibility
  substructure : List Declaration

namespace Declaration

def overrideAttributes : List String := ["override","source.decl.attribute.override"]

/-- Declared anew for a member of a supertype, whose name is not free. -/
def isOverride (declaration : Declaration) : Bool :=
  declaration.attributes.any overrideAttributes.contains

def localAnchor? (declaration : Declaration) : Option Nat :=
  if declaration.kind.isParameter && declaration.localName.isSome then
    declaration.localNameOffset
  else none

def anchor? (declaration : Declaration) : Option Nat :=
  (declaration.localAnchor?.or declaration.nameOffset).or declaration.offset

/-- The name that counts: the local one of a parameter that has one. -/
def rawName? (declaration : Declaration) : Option String :=
  if declaration.kind.isParameter then declaration.localName.or declaration.name
  else declaration.name

/-- The name that is spelled, and the number of bytes in front of it. A private name drops
one underscore. -/
def checkable? (declaration : Declaration) : Option (String × Nat) :=
  declaration.rawName?.map fun name =>
    match name.toList with
    | '_' :: rest =>
      if declaration.accessibility.isPrivate then (String.ofList rest,1) else (name,0)
    | _ => (name,0)

mutual

/-- A declaration and all inside it, each before what it contains. -/
def walk (declaration : Declaration) : List Declaration :=
  match declaration with
  | ⟨_,_,_,_,_,_,_,_,substructure⟩ => declaration :: walkAll substructure

def walkAll : List Declaration → List Declaration
  | [] => []
  | declaration :: rest => walk declaration ++ walkAll rest

end

theorem walk_eq (declaration : Declaration) :
    declaration.walk = declaration :: walkAll declaration.substructure := by
  cases declaration; simp [walk]

theorem walkAll_eq (declarations : List Declaration) :
    walkAll declarations = declarations.flatMap walk := by
  induction declarations with
  | nil => simp [walkAll]
  | cons declaration rest ih => simp [walkAll, ih]

end Declaration
end Orthography
