import CursorQuery.Cursor.Entity
import CursorQuery.Tree

/-!
This module contains graphs and models: the views of a tree that queries and walks work on. A graph
knows the attributes, the children and the two parents of every node. A node may be listed by several
parents, and parents need not agree with children.
-/

namespace CursorQuery

/--
A collection of nodes that can be queried. Going up from a node stays among finitely many nodes, but it
may run in circles.
-/
structure Graph (ν : Type) where
  entity : ν → Entity
  children : ν → List ν
  semanticParent : ν → Option ν
  lexicalParent : ν → Option ν
  above : ν → List ν
  semanticParent_mem : ∀ v w, semanticParent v = some w → w ∈ above v ∧ above w ⊆ above v
  lexicalParent_mem : ∀ v w, lexicalParent v = some w → w ∈ above v ∧ above w ⊆ above v

/-- A collection of nodes that can be walked: going down always ends. -/
structure Model (ν : Type) extends Graph ν where
  children_wf : WellFounded fun c v => c ∈ children v

namespace Model

variable {ν : Type}

instance : Coe (Model ν) (Graph ν) :=
  ⟨Model.toGraph⟩

def tree (m : Model ν) (v : ν) : Tree ν :=
  .node v ((m.children v).attach.map fun ⟨c, _⟩ => m.tree c)
termination_by m.children_wf.wrap v
decreasing_by exact ‹_›

theorem tree_eq (m : Model ν) (v : ν) : m.tree v = .node v ((m.children v).map m.tree) := by
  rw [tree]
  simp

theorem wellFounded_of_lt {n : Nat} {children : Fin n → List (Fin n)}
    (h : ∀ v c, c ∈ children v → v < c) : WellFounded fun c v => c ∈ children v := by
  apply Subrelation.wf ?_ (measure fun v : Fin n => n - v).wf
  intro c v hc
  have := h v c hc
  simp only [WellFoundedRelation.rel, InvImage]
  omega

def dump (m : Model ν) (v : ν) : String :=
  ((m.tree v).map fun w => (m.entity w).label).render

end Model
end CursorQuery
