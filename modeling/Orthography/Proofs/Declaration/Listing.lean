import Orthography.Declaration

/-! The order in which declarations are checked: each one before what it contains, and that
before what follows. -/
namespace Orthography.Declaration

/-- The order over a forest, read off its shape. -/
inductive Listing : List Declaration → List Declaration → Prop where
  | nil : Listing [] []
  | cons : Listing declaration.substructure inside → Listing rest after →
      Listing (declaration :: rest) (declaration :: (inside ++ after))

mutual

def nodes (declaration : Declaration) : Nat :=
  match declaration with
  | ⟨_,_,_,_,_,_,_,_,substructure⟩ => nodesAll substructure + 1

def nodesAll : List Declaration → Nat
  | [] => 0
  | declaration :: rest => nodes declaration + nodesAll rest

end

theorem nodes_eq (declaration : Declaration) :
    declaration.nodes = nodesAll declaration.substructure + 1 := by
  cases declaration
  rw [nodes]

theorem walkAll_cons (declaration : Declaration) (rest : List Declaration) :
    walkAll (declaration :: rest) =
      declaration :: (walkAll declaration.substructure ++ walkAll rest) := by
  rw [walkAll,walk_eq,List.cons_append]

/-- The walk over a forest is its listing. -/
theorem listing_walkAll (declarations : List Declaration) :
    Listing declarations (walkAll declarations) := by
  induction declarations using walkAll.induct
    (fun declaration => Listing declaration.substructure (walkAll declaration.substructure)) with
  | case1 _ _ _ _ _ _ _ _ substructure inside => exact inside
  | case2 =>
    rw [walkAll]
    exact .nil
  | case3 declaration rest inside after =>
    rw [walkAll_cons]
    exact .cons inside after

/-- There is one listing only. -/
theorem Listing.eq_walkAll {declarations order : List Declaration}
    (listing : Listing declarations order) : order = walkAll declarations := by
  induction listing with
  | nil => rw [walkAll]
  | cons _ _ inside after => rw [walkAll_cons,inside,after]

theorem Listing.length {declarations order : List Declaration}
    (listing : Listing declarations order) : order.length = nodesAll declarations := by
  induction listing with
  | nil => rw [nodesAll,List.length_nil]
  | cons _ _ inside after =>
    rw [nodesAll,nodes_eq,List.length_cons,List.length_append,inside,after]
    omega

end Orthography.Declaration
