import Orthography.Declaration.Document
import Orthography.Proofs.Declaration.Listing

/-! Places in a file of declarations. Where a declaration is put in place of another one that has
the same parts, the walk meets it in the same slot, and all else as before: those around it
contain something else, but have the own fields that they had. -/
namespace Orthography.Declaration

def bare (declaration : Declaration) : Declaration := { declaration with substructure := [] }

/-- The declaration at a place: which of the parts it is in, which of the parts of that, and so
on. -/
def at? (declaration : Declaration) : List Nat → Option Declaration
  | [] => some declaration
  | i :: place => declaration.substructure[i]?.bind fun part => part.at? place

def put (replacement declaration : Declaration) : List Nat → Declaration
  | [] => replacement
  | i :: place =>
    { declaration with
      substructure := declaration.substructure.modify i fun part => replacement.put part place }

namespace Document

def at? (document : Document) : List Nat → Option Declaration
  | [] => none
  | i :: place => document.declarations[i]?.bind fun tree => tree.at? place

def put (replacement : Declaration) (document : Document) : List Nat → Document
  | [] => document
  | i :: place =>
    { document with
      declarations := document.declarations.modify i fun tree => replacement.put tree place }

theorem file_put (replacement : Declaration) (document : Document) (place : List Nat) :
    (document.put replacement place).file = document.file := by
  cases place <;> rfl

end Document

/-- A walk has a slot for a declaration. What is put there instead, with the same parts, comes
behind the same own fields and in front of the same declarations. -/
def Slot (node : Declaration) (walk : List Declaration)
    (replaced : Declaration → List Declaration) : Prop :=
  ∃ before after, walk = before ++ node :: after ∧
    ∀ replacement, replacement.substructure = node.substructure →
      ∃ earlier, replaced replacement = earlier ++ replacement :: after ∧
        earlier.map bare = before.map bare

theorem Slot.here (declaration : Declaration) : Slot declaration declaration.walk walk := by
  refine ⟨[],walkAll declaration.substructure,walk_eq declaration,fun replacement keeps => ?_⟩
  exact ⟨[],by rw [walk_eq,keeps]; rfl,rfl⟩

/-- What is walked in front may contain the slot, and so may change in what it contains. -/
theorem Slot.between {node : Declaration} {walk : List Declaration}
    {replaced : Declaration → List Declaration} (slot : Slot node walk replaced)
    {front : List Declaration} {fronts : Declaration → List Declaration}
    (same : ∀ replacement, (fronts replacement).map bare = front.map bare)
    (back : List Declaration) :
    Slot node (front ++ walk ++ back) fun replacement =>
      fronts replacement ++ replaced replacement ++ back := by
  obtain ⟨before,after,split,puts⟩ := slot
  refine ⟨front ++ before,after ++ back,by simp [split],fun replacement keeps => ?_⟩
  obtain ⟨earlier,whole,alike⟩ := puts replacement keeps
  exact ⟨fronts replacement ++ earlier,by simp [whole],by simp [same,alike]⟩

/-- The part that a place is in parts the others, which the walk meets before it and after it. -/
theorem exists_walkAll_modify {declarations : List Declaration} {i : Nat} {part : Declaration}
    (there : declarations[i]? = some part) :
    ∃ front back, walkAll declarations = walkAll front ++ part.walk ++ walkAll back ∧
      ∀ change : Declaration → Declaration, walkAll (declarations.modify i change) =
        walkAll front ++ (change part).walk ++ walkAll back := by
  obtain ⟨inside,rfl⟩ := List.getElem?_eq_some_iff.mp there
  have modified (change : Declaration → Declaration) : walkAll (declarations.modify i change) =
      walkAll (declarations.take i) ++ (change declarations[i]).walk ++
        walkAll (declarations.drop (i + 1)) := by
    rw [List.modify_eq_take_cons_drop inside]
    simp only [walkAll_eq,List.flatMap_append,List.flatMap_cons,List.append_assoc]
  have unmodified := modified id
  rw [List.modify_id] at unmodified
  exact ⟨_,_,unmodified,modified⟩

theorem slot_put {declaration node : Declaration} {place : List Nat}
    (there : declaration.at? place = some node) :
    Slot node declaration.walk fun replacement => (replacement.put declaration place).walk := by
  induction place generalizing declaration with
  | nil =>
    obtain rfl := Option.some.inj there
    exact Slot.here declaration
  | cons i place ih =>
    obtain ⟨part,inside,there⟩ := Option.bind_eq_some_iff.mp there
    obtain ⟨front,back,walked,modified⟩ := exists_walkAll_modify inside
    have whole : declaration.walk = declaration :: walkAll front ++ part.walk ++ walkAll back := by
      rw [walk_eq,walked]
      simp
    have changed (replacement : Declaration) : (replacement.put declaration (i :: place)).walk =
        replacement.put declaration (i :: place) :: walkAll front ++
          (replacement.put part place).walk ++ walkAll back := by
      rw [walk_eq,put,modified]
      simp
    -- the declaration itself comes first, and only what it contains is something else
    have alike (replacement : Declaration) :
        (replacement.put declaration (i :: place) :: walkAll front).map bare =
          (declaration :: walkAll front).map bare := rfl
    simp only [whole,changed]
    exact (ih there).between alike (walkAll back)

theorem Document.slot_put {document : Document} {node : Declaration} {place : List Nat}
    (there : document.at? place = some node) :
    Slot node document.walk fun replacement => (document.put replacement place).walk := by
  cases place with
  | nil => cases there
  | cons i place =>
    obtain ⟨tree,inside,there⟩ := Option.bind_eq_some_iff.mp there
    obtain ⟨front,back,walked,modified⟩ := exists_walkAll_modify inside
    simp only [Document.walk,Document.put,walked,modified]
    exact (Declaration.slot_put there).between (fun _ => rfl) (walkAll back)

end Orthography.Declaration
