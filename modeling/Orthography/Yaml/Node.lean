import Orthography.Yaml.Token

/-! The nodes of a document. An alias stands for the node that carries its anchor; anchors
are numbered. -/
namespace Orthography.Yaml

inductive Node
  | scalar (anchor : Option Nat) (tag : Option Tag) (style : Style) (text : String)
  | list (anchor : Option Nat) (tag : Option Tag) (items : List Node)
  | mapping (anchor : Option Nat) (tag : Option Tag) (entries : List (Node × Node))
  | aliasOf (anchor : Nat)

namespace Node

def empty : Node := scalar none none .plain ""

mutual

/-- The number of scalars, aliases, and beginnings and ends of collections. -/
def events : Node → Nat
  | scalar .. => 1
  | aliasOf _ => 1
  | list _ _ items => 2 + eventsOfItems items
  | mapping _ _ entries => 2 + eventsOfEntries entries

def eventsOfItems : List Node → Nat
  | [] => 0
  | item :: items => events item + eventsOfItems items

def eventsOfEntries : List (Node × Node) → Nat
  | [] => 0
  | (key,value) :: entries => events key + events value + eventsOfEntries entries

end

mutual

def anchored (node : Node) : List (Nat × Node) :=
  match node with
  | scalar anchor .. => anchor.toList.map fun id => (id,node)
  | aliasOf _ => []
  | list anchor _ items =>
    (anchor.toList.map fun id => (id,node)) ++ anchoredItems items
  | mapping anchor _ entries =>
    (anchor.toList.map fun id => (id,node)) ++ anchoredEntries entries

def anchoredItems : List Node → List (Nat × Node)
  | [] => []
  | item :: items => anchored item ++ anchoredItems items

def anchoredEntries : List (Node × Node) → List (Nat × Node)
  | [] => []
  | (key,value) :: entries => anchored key ++ anchored value ++ anchoredEntries entries

end

end Node
end Orthography.Yaml
