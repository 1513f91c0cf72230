import CursorQuery.Source.ParseTree

/-!
This module contains the measure by which recursion down a parse tree ends: a node is larger than its
children.
-/

namespace CursorQuery
namespace ParseTree

mutual

def size : ParseTree → Nat
  | node _ children => forestSize children + 1

def forestSize : List ParseTree → Nat
  | [] => 0
  | tree :: trees => size tree + forestSize trees

end

theorem size_le_forestSize {tree : ParseTree} {trees : List ParseTree} (h : tree ∈ trees) :
    tree.size ≤ forestSize trees := by
  induction trees with
  | nil => simp at h
  | cons first rest ih =>
    rw [forestSize]
    rcases List.mem_cons.mp h with rfl | h
    · omega
    · have := ih h
      omega

theorem size_lt_of_mem_children {tree child : ParseTree} (h : child ∈ tree.children) :
    child.size < tree.size := by
  cases tree with
  | node info children =>
    have := size_le_forestSize (show child ∈ children from h)
    rw [size]
    omega

theorem size_lt_of_mem_namedChildren {tree child : ParseTree} (h : child ∈ tree.namedChildren) :
    child.size < tree.size :=
  size_lt_of_mem_children (List.mem_filter.mp h).1

theorem size_lt_of_field? {tree child : ParseTree} {field : Field}
    (h : tree.field? field = some child) : child.size < tree.size :=
  size_lt_of_mem_children (List.mem_of_find?_eq_some h)

theorem size_lt_of_head?_namedChildren {tree child : ParseTree}
    (h : tree.namedChildren.head? = some child) : child.size < tree.size :=
  size_lt_of_mem_namedChildren (List.mem_of_head? h)

theorem size_lt_of_getLast?_namedChildren {tree child : ParseTree}
    (h : tree.namedChildren.getLast? = some child) : child.size < tree.size :=
  size_lt_of_mem_namedChildren (List.mem_of_getLast? h)

end ParseTree
end CursorQuery
