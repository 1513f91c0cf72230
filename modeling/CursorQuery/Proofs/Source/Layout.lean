import CursorQuery.Proofs.Lowering.Origin

/-!
This module contains where the nodes of a parse tree lie in the text: nodes lie in their parents, nodes
side by side do not overlap, and the parts of a declaration come in the order that the grammar has for
them.
-/

namespace CursorQuery

namespace Span

def Within (inner outer : Span) : Prop :=
  outer.start ≤ inner.start ∧ inner.stop ≤ outer.stop

def Precedes (first later : Span) : Prop :=
  first.stop ≤ later.start

variable {first second third : Span}

instance (inner outer : Span) : Decidable (inner.Within outer) :=
  inferInstanceAs (Decidable (_ ∧ _))

instance (first later : Span) : Decidable (first.Precedes later) :=
  inferInstanceAs (Decidable (_ ≤ _))

theorem Within.refl (span : Span) : span.Within span :=
  ⟨Nat.le_refl _, Nat.le_refl _⟩

theorem Within.trans (h₁ : first.Within second) (h₂ : second.Within third) : first.Within third :=
  ⟨Nat.le_trans h₂.1 h₁.1, Nat.le_trans h₁.2 h₂.2⟩

end Span

namespace NodeKind

def isRecord : NodeKind → Bool
  | record _ => true
  | _ => false

end NodeKind

namespace ParseTree

mutual

def preorder : ParseTree → List ParseTree
  | node info children => node info children :: forestPreorder children

def forestPreorder : List ParseTree → List ParseTree
  | [] => []
  | tree :: trees => preorder tree ++ forestPreorder trees

end

/-- The spans of a node and its children are as the grammar has them. -/
structure IsLaidOut (node : ParseTree) : Prop where
  start_le : node.span.start ≤ node.span.stop
  within : ∀ child ∈ node.children, child.span.Within node.span
  ordered : node.children.Pairwise fun first later => first.span.Precedes later.span
  type : ∀ type ∈ node.fields .type, ∀ declarator ∈ node.fields .declarator,
    type.span.Precedes declarator.span
  declarator : ∀ declarator ∈ node.fields .declarator, ∀ body ∈ node.fields .body,
    declarator.span.Precedes body.span
  bases : node.kind.isRecord → ∀ clause ∈ node.namedChildren, clause.kind = .baseClause →
    ∀ body ∈ node.fields .body, clause.span.Precedes body.span
  template : node.kind = .templateDeclaration → ∀ list ∈ node.fields .parameters,
    ∀ entity ∈ node.namedChildren, Declaration.isTemplatable entity.kind →
      list.span.Precedes entity.span

instance (node : ParseTree) : Decidable node.IsLaidOut :=
  decidable_of_iff
    (node.span.start ≤ node.span.stop
      ∧ (∀ child ∈ node.children, child.span.Within node.span)
      ∧ (node.children.Pairwise fun first later => first.span.Precedes later.span)
      ∧ (∀ type ∈ node.fields .type, ∀ declarator ∈ node.fields .declarator,
        type.span.Precedes declarator.span)
      ∧ (∀ declarator ∈ node.fields .declarator, ∀ body ∈ node.fields .body,
        declarator.span.Precedes body.span)
      ∧ (node.kind.isRecord → ∀ clause ∈ node.namedChildren, clause.kind = .baseClause →
        ∀ body ∈ node.fields .body, clause.span.Precedes body.span)
      ∧ (node.kind = .templateDeclaration → ∀ list ∈ node.fields .parameters,
        ∀ entity ∈ node.namedChildren, Declaration.isTemplatable entity.kind →
          list.span.Precedes entity.span))
    ⟨fun ⟨hle, hwithin, hordered, htype, hdeclarator, hbases, htemplate⟩ =>
        ⟨hle, hwithin, hordered, htype, hdeclarator, hbases, htemplate⟩,
      fun ⟨hle, hwithin, hordered, htype, hdeclarator, hbases, htemplate⟩ =>
        ⟨hle, hwithin, hordered, htype, hdeclarator, hbases, htemplate⟩⟩

def AllLaidOut (tree : ParseTree) : Prop :=
  ∀ node, tree.Contains node → node.IsLaidOut

variable {tree node child : ParseTree} {trees : List ParseTree} {field : Field}

theorem mem_forestPreorder :
    node ∈ forestPreorder trees ↔ ∃ tree ∈ trees, node ∈ tree.preorder := by
  induction trees with
  | nil => simp [forestPreorder]
  | cons tree trees ih => simp [forestPreorder, ih]

theorem mem_preorder_self (tree : ParseTree) : tree ∈ tree.preorder := by
  cases tree with
  | node info children =>
    rw [preorder]
    exact List.mem_cons_self

theorem mem_preorder_of_mem_children (hchild : child ∈ tree.children) (h : node ∈ child.preorder) :
    node ∈ tree.preorder := by
  cases tree with
  | node info children =>
    rw [preorder]
    exact List.mem_cons_of_mem _ (mem_forestPreorder.mpr ⟨child, hchild, h⟩)

theorem contains_of_mem_preorder {tree : ParseTree} (h : node ∈ tree.preorder) :
    tree.Contains node := by
  match tree with
  | .node info children =>
    rw [preorder] at h
    cases List.mem_cons.mp h with
    | inl h =>
      rw [h]
      exact .refl
    | inr h =>
      obtain ⟨child, hchild, hnode⟩ := mem_forestPreorder.mp h
      have hlt : child.size < (ParseTree.node info children).size := size_lt_of_mem_children hchild
      exact .head hchild (contains_of_mem_preorder hnode)
termination_by tree.size

theorem mem_preorder : node ∈ tree.preorder ↔ tree.Contains node := by
  constructor
  · exact contains_of_mem_preorder
  · intro h
    induction h using Relation.ReflTransGen.head_induction_on with
    | refl => exact mem_preorder_self node
    | head hchild _ ih => exact mem_preorder_of_mem_children hchild ih

instance (tree : ParseTree) : Decidable tree.AllLaidOut :=
  decidable_of_iff (∀ node ∈ tree.preorder, node.IsLaidOut)
    ⟨fun h node hnode => h node (mem_preorder.mpr hnode),
      fun h node hnode => h node (mem_preorder.mp hnode)⟩

theorem mem_fields_of_field? (h : tree.field? field = some child) : child ∈ tree.fields field :=
  List.mem_filter.mpr ⟨List.mem_of_find?_eq_some h, by simpa using List.find?_some h⟩

theorem Contains.of_mem_fields {root : ParseTree} (h : root.Contains tree)
    (hchild : child ∈ tree.fields field) : root.Contains child :=
  h.tail (List.mem_filter.mp hchild).1

theorem IsLaidOut.pairwise_namedChildren (h : node.IsLaidOut) :
    node.namedChildren.Pairwise fun first later => first.span.Precedes later.span :=
  h.ordered.sublist List.filter_sublist

theorem IsLaidOut.pairwise_fields (h : node.IsLaidOut) (field : Field) :
    (node.fields field).Pairwise fun first later => first.span.Precedes later.span :=
  h.ordered.sublist List.filter_sublist

namespace AllLaidOut

theorem of_contains (h : tree.AllLaidOut) (hnode : tree.Contains node) : node.AllLaidOut :=
  fun _ hinner => h _ (.trans hnode hinner)

theorem within (h : tree.AllLaidOut) (hnode : tree.Contains node) : node.span.Within tree.span := by
  induction hnode with
  | refl => exact .refl _
  | tail hparent hchild ih => exact ((h _ hparent).within _ hchild).trans ih

end AllLaidOut
end ParseTree
end CursorQuery
