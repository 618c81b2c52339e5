import Mathlib.Data.List.Forall2
import Mathlib.Data.List.Lex
import Orthography.Proofs.Declaration.Place

/-! The walk by places. It meets the declarations in the lexicographic order of their places, in
which a place comes before all places inside it, and these come in a row. -/
namespace Orthography.Declaration

abbrev Placed := List Nat × Declaration

def Placed.within (i : Nat) (placed : Placed) : Placed := (i :: placed.1,placed.2)

mutual

def placed (declaration : Declaration) : List Placed :=
  match declaration with
  | ⟨_,_,_,_,_,_,_,_,substructure⟩ => ([],declaration) :: placedFrom 0 substructure

def placedFrom (i : Nat) : List Declaration → List Placed
  | [] => []
  | declaration :: rest => (placed declaration).map (Placed.within i) ++ placedFrom (i + 1) rest

end

theorem placed_eq (declaration : Declaration) :
    declaration.placed = ([],declaration) :: placedFrom 0 declaration.substructure := by
  cases declaration
  rw [placed]

theorem map_snd_within (i : Nat) (entries : List Placed) :
    (entries.map (Placed.within i)).map Prod.snd = entries.map Prod.snd := by
  rw [List.map_map]
  rfl

/-- Without the places this is the walk. -/
theorem map_snd_placedFrom (i : Nat) (declarations : List Declaration) :
    (placedFrom i declarations).map Prod.snd = walkAll declarations := by
  induction declarations using walkAll.induct (fun declaration =>
    (placedFrom 0 declaration.substructure).map Prod.snd = walkAll declaration.substructure)
    generalizing i with
  | case1 _ _ _ _ _ _ _ _ substructure inside => exact inside 0
  | case2 => rw [placedFrom,walkAll,List.map_nil]
  | case3 declaration rest inside after =>
    rw [placedFrom,List.map_append,map_snd_within,placed_eq,List.map_cons,inside,after,walkAll_cons,
      List.cons_append]

theorem map_snd_placed (declaration : Declaration) :
    declaration.placed.map Prod.snd = declaration.walk := by
  rw [placed_eq,List.map_cons,map_snd_placedFrom,walk_eq]

theorem length_placed (declaration : Declaration) : declaration.placed.length = declaration.nodes := by
  rw [← List.length_map (f := Prod.snd),map_snd_placed,walk_eq,List.length_cons,
    (listing_walkAll _).length,nodes_eq]

/-- What is placed has the number of a part, and there its place in the part. -/
theorem mem_placedFrom {i : Nat} {declarations : List Declaration} {place : List Nat}
    {node : Declaration} : (place,node) ∈ placedFrom i declarations ↔
      ∃ j inner part, place = (i + j) :: inner ∧ declarations[j]? = some part ∧
        (inner,node) ∈ part.placed := by
  induction declarations generalizing i with
  | nil => simp [placedFrom]
  | cons declaration rest ih =>
    rw [placedFrom,List.mem_append,ih,List.mem_map]
    constructor
    · rintro (⟨entry,member,eq⟩ | ⟨j,inner,part,rfl,there,member⟩)
      · obtain ⟨rfl,rfl⟩ := Prod.mk.inj eq
        exact ⟨0,entry.1,declaration,rfl,rfl,member⟩
      · exact ⟨j + 1,inner,part,by rw [Nat.add_right_comm,Nat.add_assoc],there,member⟩
    · rintro ⟨j,inner,part,rfl,there,member⟩
      cases j with
      | zero =>
        obtain rfl := Option.some.inj there
        exact .inl ⟨(inner,node),member,rfl⟩
      | succ j => exact .inr ⟨j,inner,part,by rw [Nat.add_right_comm,Nat.add_assoc],there,member⟩

/-- A declaration is placed where it is. -/
theorem mem_placed {declaration node : Declaration} {place : List Nat} :
    (place,node) ∈ declaration.placed ↔ declaration.at? place = some node := by
  induction place generalizing declaration with
  | nil =>
    rw [placed_eq,List.mem_cons,mem_placedFrom]
    simp [at?,eq_comm]
  | cons i place ih =>
    rw [placed_eq,List.mem_cons,mem_placedFrom,at?,Option.bind_eq_some_iff]
    simp [ih]

/-- The places are in increasing order. -/
theorem pairwise_placedFrom (i : Nat) (declarations : List Declaration) :
    (placedFrom i declarations).Pairwise fun entry other => entry.1 < other.1 := by
  induction declarations using walkAll.induct (fun declaration =>
    (placedFrom 0 declaration.substructure).Pairwise fun entry other => entry.1 < other.1)
    generalizing i with
  | case1 _ _ _ _ _ _ _ _ substructure inside => exact inside 0
  | case2 =>
    rw [placedFrom]
    exact .nil
  | case3 declaration rest inside after =>
    -- all places in a tree begin with its number, and the trees behind it have greater ones
    rw [placedFrom,List.pairwise_append,List.pairwise_map]
    refine ⟨?own,after (i + 1),?across⟩
    case own =>
      have first : declaration.placed.Pairwise fun entry other => entry.1 < other.1 := by
        rw [placed_eq,List.pairwise_cons]
        refine ⟨fun entry member => ?_,inside⟩
        obtain ⟨j,inner,part,eq,-,-⟩ := mem_placedFrom.mp member
        rw [eq]
        exact List.nil_lt_cons _ _
      exact first.imp fun before => List.cons_lt_cons_self.mpr before
    case across =>
      intro entry member other later
      obtain ⟨own,-,rfl⟩ := List.mem_map.mp member
      obtain ⟨j,inner,part,eq,-,-⟩ := mem_placedFrom.mp later
      rw [eq]
      exact List.cons_lt_cons_iff.mpr (.inl (by omega))

/-- A declaration and all inside it are placed in a row, and nothing else is placed inside it. -/
structure InRow (place : List Nat) (node : Declaration) (before after entries : List Placed) :
    Prop where
  split : entries =
    before ++ node.placed.map (fun entry => (place ++ entry.1,entry.2)) ++ after
  apart : ∀ entry ∈ before ++ after, ¬place <+: entry.1

/-- What is inside a place are the entries from that of the place on, as many as there are
declarations in the tree at the place. -/
theorem InRow.isPrefix_iff {place : List Nat} {node : Declaration} {before after entries : List Placed}
    (row : InRow place node before after entries) {j : Nat} {entry : Placed}
    (found : entries[j]? = some entry) :
    place <+: entry.1 ↔ before.length ≤ j ∧ j < before.length + node.nodes := by
  have length : (node.placed.map fun entry => (place ++ entry.1,entry.2)).length = node.nodes := by
    rw [List.length_map,length_placed]
  rw [row.split,List.append_assoc] at found
  rcases Nat.lt_or_ge j before.length with early | late
  · rw [List.getElem?_append_left early] at found
    have outside := row.apart entry (List.mem_append_left after (List.mem_of_getElem? found))
    exact ⟨fun inside => absurd inside outside,fun bounds => by omega⟩
  rw [List.getElem?_append_right late] at found
  rcases Nat.lt_or_ge (j - before.length) node.nodes with inside | behind
  · rw [List.getElem?_append_left (by omega)] at found
    obtain ⟨inner,-,rfl⟩ := List.mem_map.mp (List.mem_of_getElem? found)
    exact ⟨fun _ => ⟨late,by omega⟩,fun _ => List.prefix_append place inner.1⟩
  · rw [List.getElem?_append_right (by omega)] at found
    have outside := row.apart entry (List.mem_append_right before (List.mem_of_getElem? found))
    exact ⟨fun inside => absurd inside outside,fun bounds => by omega⟩

theorem InRow.getElem?_length {place : List Nat} {node : Declaration}
    {before after entries : List Placed} (row : InRow place node before after entries) :
    entries[before.length]? = some (place,node) := by
  rw [row.split,placed_eq]
  simp

/-- What is in a row in a part is so in the whole, where other parts are in front and behind. -/
theorem InRow.within {place : List Nat} {node : Declaration} {before after entries : List Placed}
    (row : InRow place node before after entries) (i : Nat) {front back : List Placed}
    (others : ∀ entry ∈ front ++ back, entry.1.head? ≠ some i) :
    InRow (i :: place) node (front ++ before.map (Placed.within i))
      (after.map (Placed.within i) ++ back) (front ++ entries.map (Placed.within i) ++ back) := by
  constructor
  case split =>
    rw [row.split]
    simp only [List.map_append,List.map_map,List.append_assoc]
    rfl
  case apart =>
    intro entry member inside
    by_cases other : entry ∈ front ++ back
    · obtain ⟨inner,whole⟩ := inside
      exact others entry other (by rw [← whole]; rfl)
    · have own : entry ∈ (before ++ after).map (Placed.within i) := by
        simp only [List.mem_append,List.map_append] at member other ⊢
        tauto
      obtain ⟨part,found,rfl⟩ := List.mem_map.mp own
      exact row.apart part found (List.cons_prefix_cons.mp inside).2

/-- The entries of a part stand in a row; those of other parts have other numbers. -/
theorem exists_placedFrom {i j : Nat} {declarations : List Declaration} {part : Declaration}
    (there : declarations[j]? = some part) : ∃ front back,
      placedFrom i declarations = front ++ part.placed.map (Placed.within (i + j)) ++ back ∧
      ∀ entry ∈ front ++ back, entry.1.head? ≠ some (i + j) := by
  induction declarations generalizing i j with
  | nil => simp at there
  | cons declaration rest ih =>
    cases j with
    | zero =>
      obtain rfl := Option.some.inj there
      refine ⟨[],placedFrom (i + 1) rest,rfl,fun entry member same => ?_⟩
      obtain ⟨j,inner,part,eq,-,-⟩ := mem_placedFrom.mp member
      rw [eq,List.head?_cons,Option.some.injEq] at same
      omega
    | succ j =>
      obtain ⟨front,back,split,others⟩ := ih (i := i + 1) there
      have number : i + 1 + j = i + (j + 1) := by omega
      rw [number] at split others
      refine ⟨declaration.placed.map (Placed.within i) ++ front,back,?_,?_⟩
      · rw [placedFrom,split]
        simp only [List.append_assoc]
      · intro entry member
        rw [List.append_assoc,List.mem_append] at member
        rcases member with own | other
        · obtain ⟨inner,-,rfl⟩ := List.mem_map.mp own
          simp [Placed.within]
        · exact others entry other

theorem exists_inRow {declaration node : Declaration} {place : List Nat}
    (there : declaration.at? place = some node) :
    ∃ before after, InRow place node before after declaration.placed := by
  induction place generalizing declaration with
  | nil =>
    obtain rfl := Option.some.inj there
    exact ⟨[],[],by simp,by simp⟩
  | cons i place ih =>
    obtain ⟨part,inside,there⟩ := Option.bind_eq_some_iff.mp there
    obtain ⟨before,after,row⟩ := ih there
    obtain ⟨front,back,split,others⟩ := exists_placedFrom (i := 0) inside
    rw [Nat.zero_add] at split others
    have outside : ∀ entry ∈ (([],declaration) :: front) ++ back, entry.1.head? ≠ some i := by
      intro entry member
      rcases List.mem_cons.mp member with rfl | other
      · simp
      · exact others entry other
    rw [placed_eq,split]
    exact ⟨_,_,row.within i outside⟩

namespace Document

variable {document : Document}

def placed (document : Document) : List Placed := placedFrom 0 document.declarations

theorem map_snd_placed (document : Document) : document.placed.map Prod.snd = document.walk :=
  map_snd_placedFrom 0 document.declarations

theorem mem_placed {place : List Nat} {node : Declaration} :
    (place,node) ∈ document.placed ↔ document.at? place = some node := by
  rw [placed,mem_placedFrom]
  cases place with
  | nil => simp [at?]
  | cons i place => simp [at?,Option.bind_eq_some_iff,Declaration.mem_placed]

theorem exists_inRow {place : List Nat} {node : Declaration}
    (there : document.at? place = some node) :
    ∃ before after, InRow place node before after document.placed := by
  cases place with
  | nil => cases there
  | cons i place =>
    obtain ⟨tree,inside,there⟩ := Option.bind_eq_some_iff.mp there
    obtain ⟨before,after,row⟩ := Declaration.exists_inRow there
    obtain ⟨front,back,split,others⟩ := exists_placedFrom (i := 0) inside
    rw [Nat.zero_add] at split others
    rw [placed,split]
    exact ⟨_,_,row.within i others⟩

/-- The walk meets the declarations at all places, each place once and in increasing order. They are
as many as there are declarations in the document, and those inside a place come in a row, from the
declaration at the place on. -/
theorem walk_places (document : Document) : ∃ places : List (List Nat),
    places.Pairwise (· < ·) ∧
    (∀ place, place ∈ places ↔ ∃ node, document.at? place = some node) ∧
    List.Forall₂ (fun place node => document.at? place = some node) places document.walk ∧
    document.walk.length = nodesAll document.declarations ∧
    ∀ i place node, places[i]? = some place → document.at? place = some node →
      ∀ j other, places[j]? = some other →
        (place <+: other ↔ i ≤ j ∧ j < i + node.nodes) := by
  have sorted : (document.placed.map Prod.fst).Pairwise (· < ·) :=
    List.pairwise_map.mpr (pairwise_placedFrom 0 document.declarations)
  refine ⟨document.placed.map Prod.fst,sorted,?valid,?walked,
    (listing_walkAll document.declarations).length,?rows⟩
  case valid => simp [mem_placed]
  case walked =>
    rw [← map_snd_placed,List.forall₂_map_left_iff,List.forall₂_map_right_iff,List.forall₂_same]
    exact fun entry member => mem_placed.mp member
  case rows =>
    intro i place node here there j other found
    obtain ⟨before,after,row⟩ := exists_inRow there
    have first : (document.placed.map Prod.fst)[before.length]? = some place := by
      rw [List.getElem?_map,row.getElem?_length,Option.map_some]
    have distinct : (document.placed.map Prod.fst).Nodup := sorted.imp ne_of_lt
    have bound := (List.getElem?_eq_some_iff.mp here).1
    obtain rfl := (List.getElem?_inj bound distinct).mp (here.trans first.symm)
    rw [List.getElem?_map,Option.map_eq_some_iff] at found
    obtain ⟨entry,found,rfl⟩ := found
    exact row.isPrefix_iff found

end Document

end Orthography.Declaration
