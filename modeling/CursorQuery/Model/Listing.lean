import CursorQuery.Model.Basic

/-!
This module contains models that are given by a list of their nodes. Nodes are known by their position,
and children have to come after the node that lists them.
-/

namespace CursorQuery

structure ListedNode where
  entity : Entity
  children : List Nat := []
  semanticParent : Option Nat := none
  lexicalParent : Option Nat := none

namespace ListedNode

def at? (nodes : Array ListedNode) (position : Nat) : Option (Fin nodes.size) :=
  if h : position < nodes.size then some ⟨position, h⟩ else none

def childrenOf (nodes : Array ListedNode) (v : Fin nodes.size) : List (Fin nodes.size) :=
  (nodes[v].children.filterMap (at? nodes)).filter fun child => v < child

theorem lt_of_mem_childrenOf {nodes : Array ListedNode} {v c : Fin nodes.size}
    (h : c ∈ childrenOf nodes v) : v < c := by
  simpa using (List.mem_filter.mp h).2

def model (nodes : Array ListedNode) : Model (Fin nodes.size) where
  entity v := nodes[v].entity
  children := childrenOf nodes
  children_wf := Model.wellFounded_of_lt fun _ _ => lt_of_mem_childrenOf
  semanticParent v := nodes[v].semanticParent.bind (at? nodes)
  lexicalParent v := nodes[v].lexicalParent.bind (at? nodes)
  above _ := List.finRange nodes.size
  semanticParent_mem _ w _ := ⟨List.mem_finRange w, List.Subset.refl _⟩
  lexicalParent_mem _ w _ := ⟨List.mem_finRange w, List.Subset.refl _⟩

end ListedNode
end CursorQuery
