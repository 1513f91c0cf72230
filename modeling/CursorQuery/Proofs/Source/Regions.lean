import CursorQuery.Source.Descent
import Mathlib.Data.List.Basic

/-!
This module contains how conditional and erroneous regions are taken out of a parse tree: in the
containers of members they are replaced by what stands in them.
-/

namespace CursorQuery
namespace ParseTree

/-- The node is the container for the members of the node around it. -/
def isContainer (around : NodeKind) (info : NodeInfo) : Bool :=
  info.field == some .body &&
    match around with
    | .namespaceDefinition | .linkage => info.label == "declaration_list"
    | .record _ => info.label == "field_declaration_list"
    | .functionDefinition => info.label == "compound_statement"
    | _ => false

mutual

/-- What stands for a tree in a node of the kind `around`, which is a container or is not. -/
def spliced (inContainer : Bool) (around : NodeKind) : ParseTree → List ParseTree
  | node info children =>
    let kind := NodeKind.ofLabel info.label
    if inContainer && info.isNamed && kind == .region then
      (splicedForest true around children).filter (·.info.isNamed)
    else [node info (splicedForest (isContainer around info) kind children)]

def splicedForest (inContainer : Bool) (around : NodeKind) : List ParseTree → List ParseTree
  | [] => []
  | tree :: trees => spliced inContainer around tree ++ splicedForest inContainer around trees

end

/-- The tree of a text with the contents of regions in their place, in all of its containers. -/
def withoutRegions (tree : ParseTree) : ParseTree :=
  node tree.info (splicedForest true tree.kind tree.children)

def rewritten (around : NodeKind) (tree : ParseTree) : ParseTree :=
  node tree.info (splicedForest (isContainer around tree.info) tree.kind tree.children)

variable {around : NodeKind} {tree : ParseTree} {field : Field}

theorem forestSize_children (tree : ParseTree) : forestSize tree.children + 1 = tree.size := by
  cases tree with
  | node info children => rfl

theorem size_pos (tree : ParseTree) : 0 < tree.size := by
  have := tree.forestSize_children
  omega

@[simp]
theorem kind_rewritten (around : NodeKind) (tree : ParseTree) :
    (tree.rewritten around).kind = tree.kind :=
  rfl

@[simp]
theorem textOf_rewritten (source : Source) (around : NodeKind) (tree : ParseTree) :
    source.textOf (tree.rewritten around) = source.textOf tree :=
  rfl

theorem spliced_of_region (around : NodeKind) (hnamed : tree.info.isNamed)
    (hkind : tree.kind = .region) :
    spliced true around tree =
      (splicedForest true around tree.children).filter (·.info.isNamed) := by
  cases tree with
  | node info children =>
    have hregion : NodeKind.ofLabel info.label = .region := hkind
    have hinfo : info.isNamed = true := hnamed
    rw [spliced]
    simp [hregion, hinfo, ParseTree.children]

theorem spliced_eq_rewritten {inContainer : Bool} (around : NodeKind)
    (h : (inContainer && tree.info.isNamed && tree.kind == .region) = false) :
    spliced inContainer around tree = [tree.rewritten around] := by
  cases tree with
  | node info children =>
    rw [spliced]
    exact if_neg (Bool.not_eq_true _ ▸ h)

theorem exists_of_mem_splicedForest {inContainer : Bool} {trees : List ParseTree}
    (h : tree ∈ splicedForest inContainer around trees) :
    (∃ original : ParseTree, tree = original.rewritten around)
      ∧ (inContainer → tree.info.isNamed → tree.kind ≠ .region) := by
  induction hsize : forestSize trees using Nat.strongRecOn generalizing trees with
  | ind size ih =>
    cases trees with
    | nil => contradiction
    | cons first later =>
      have hfirst := first.forestSize_children
      rw [forestSize] at hsize
      rw [splicedForest, List.mem_append] at h
      cases h with
      | inr h => exact ih (forestSize later) (by omega) h rfl
      | inl h =>
        cases hregion : inContainer && first.info.isNamed && first.kind == .region with
        | false =>
          rw [spliced_eq_rewritten around hregion, List.mem_singleton] at h
          subst h
          refine ⟨⟨first, rfl⟩, fun hcontainer hnamed => ?_⟩
          rw [hcontainer, show first.info.isNamed = true from hnamed] at hregion
          simpa using hregion
        | true =>
          simp only [Bool.and_eq_true, beq_iff_eq] at hregion
          obtain ⟨⟨rfl, hnamed⟩, hkind⟩ := hregion
          rw [spliced_of_region around hnamed hkind, List.mem_filter] at h
          exact ih (forestSize first.children) (by omega) h.1 rfl

theorem splicedForest_false (around : NodeKind) (trees : List ParseTree) :
    splicedForest false around trees = trees.map (rewritten around) := by
  induction trees with
  | nil => rfl
  | cons tree trees ih => rw [splicedForest, spliced_eq_rewritten around rfl, ih]; rfl

theorem children_rewritten (h : isContainer around tree.info = false) :
    (tree.rewritten around).children = tree.children.map (rewritten tree.kind) := by
  rw [rewritten, h, splicedForest_false]
  rfl

theorem namedChildren_rewritten (h : isContainer around tree.info = false) :
    (tree.rewritten around).namedChildren = tree.namedChildren.map (rewritten tree.kind) := by
  unfold namedChildren
  rw [children_rewritten h, List.filter_map]
  rfl

theorem fields_rewritten (h : isContainer around tree.info = false) (field : Field) :
    (tree.rewritten around).fields field = (tree.fields field).map (rewritten tree.kind) := by
  unfold fields
  rw [children_rewritten h, List.filter_map]
  rfl

theorem field?_rewritten (h : isContainer around tree.info = false) (field : Field) :
    (tree.rewritten around).field? field = (tree.field? field).map (rewritten tree.kind) := by
  unfold field?
  rw [children_rewritten h, List.find?_map]
  rfl

theorem isContainer_of_field {info : NodeInfo} (hinfo : info.field = some field)
    (hfield : field ≠ .body) : isContainer around info = false := by
  unfold isContainer
  simp [hinfo, hfield]

theorem isContainer_of_mem_field? {child : ParseTree} (hchild : child ∈ tree.field? field)
    (hfield : field ≠ .body) : isContainer around child.info = false :=
  isContainer_of_field (by simpa using List.find?_some hchild) hfield

def holdsMembers : NodeKind → Bool
  | .namespaceDefinition | .linkage | .record _ | .functionDefinition => true
  | _ => false

theorem isContainer_of_holdsMembers (h : holdsMembers around = false) (info : NodeInfo) :
    isContainer around info = false := by
  unfold isContainer
  cases around with
  | namespaceDefinition | linkage | record | functionDefinition => contradiction
  | _ => simp

theorem kind_of_isContainer (h : isContainer around tree.info) :
    tree.kind = .declarationList ∨ tree.kind = .compoundStatement ∨ tree.kind = .other := by
  -- No declaration is read from the node of a container itself.
  have hlabel : tree.info.label = "declaration_list" ∨ tree.info.label = "field_declaration_list"
      ∨ tree.info.label = "compound_statement" := by
    unfold isContainer at h
    cases around with
    | _ => simp at h <;> simp [h]
  unfold kind
  rcases hlabel with h | h | h
  all_goals
    rw [h]
    decide

structure ReadsInOrder {α : Type} (read : List ParseTree → α) (append : α → α → α) : Prop where
  append_eq : ∀ first later, read (first ++ later) = append (read first) (read later)
  named_eq : ∀ trees, read (trees.filter (·.info.isNamed)) = read trees
  region_eq : ∀ tree, tree.info.isNamed → tree.kind = .region → read [tree] = read tree.children

theorem ReadsInOrder.splicedForest {α : Type} {read : List ParseTree → α} {append : α → α → α}
    (h : ReadsInOrder read append) {trees : List ParseTree}
    (hnode : ∀ tree : ParseTree, tree.size ≤ forestSize trees →
      ∀ around, read [tree.rewritten around] = read [tree])
    (inContainer : Bool) (around : NodeKind) :
    read (splicedForest inContainer around trees) = read trees := by
  induction hsize : forestSize trees using Nat.strongRecOn
    generalizing trees inContainer around with
  | ind size ih =>
    cases trees with
    | nil => rfl
    | cons tree trees =>
      rw [forestSize] at hsize hnode
      have hlater : read (ParseTree.splicedForest inContainer around trees) = read trees := by
        have := tree.size_pos
        exact ih (forestSize trees) (by omega) (fun t ht => hnode t (by omega)) _ _ rfl
      have hfirst : read (spliced inContainer around tree) = read [tree] := by
        cases hregion : inContainer && tree.info.isNamed && tree.kind == .region with
        | false =>
          rw [spliced_eq_rewritten around hregion]
          exact hnode tree (by omega) around
        | true =>
          simp only [Bool.and_eq_true, beq_iff_eq] at hregion
          obtain ⟨⟨rfl, hnamed⟩, hkind⟩ := hregion
          have hlt := tree.forestSize_children
          rw [spliced_of_region around hnamed hkind, h.named_eq, h.region_eq tree hnamed hkind]
          exact ih (forestSize tree.children) (by omega) (fun t ht => hnode t (by omega)) _ _ rfl
      rw [ParseTree.splicedForest, h.append_eq, hfirst, hlater, ← h.append_eq, List.singleton_append]

def Unaffected {α : Type} (read : ParseTree → α) : Prop :=
  ∀ ⦃around tree⦄, isContainer around tree.info = false → read (tree.rewritten around) = read tree

namespace Unaffected

variable {α β : Type} {read : ParseTree → α}

theorem comp (hread : Unaffected read) (f : α → β) : Unaffected fun tree => f (read tree) :=
  fun _ _ h => congrArg f (hread h)

section Parts

variable (h : isContainer around tree.info = false)
include h

theorem map_field? (hread : Unaffected read) (field : Field) (hfield : field ≠ .body) :
    ((tree.rewritten around).field? field).map read = (tree.field? field).map read := by
  rw [field?_rewritten h, Option.map_map]
  exact Option.map_congr fun child hchild => hread (isContainer_of_mem_field? hchild hfield)

theorem getD_field? (hread : Unaffected read) (field : Field) (hfield : field ≠ .body) :
    read (((tree.rewritten around).field? field).getD (tree.rewritten around)) =
      read ((tree.field? field).getD tree) := by
  rw [field?_rewritten h]
  cases hchild : tree.field? field with
  | none => exact hread h
  | some child => exact hread (isContainer_of_mem_field? hchild hfield)

theorem map_fields (hread : Unaffected read) (field : Field) (hfield : field ≠ .body) :
    ((tree.rewritten around).fields field).map read = (tree.fields field).map read := by
  rw [fields_rewritten h, List.map_map]
  apply List.map_congr_left
  intro child hchild
  exact hread (isContainer_of_field (by simpa using (List.mem_filter.mp hchild).2) hfield)

theorem filterMap_namedChildren {read : ParseTree → Option α} (hread : Unaffected read)
    (hcontainer : ∀ tree, tree.kind = .declarationList ∨ tree.kind = .compoundStatement
      ∨ tree.kind = .other → read tree = none) :
    (tree.rewritten around).namedChildren.filterMap read = tree.namedChildren.filterMap read := by
  rw [namedChildren_rewritten h, List.filterMap_map]
  apply List.filterMap_congr
  intro child _
  rw [Function.comp_apply]
  cases hchild : isContainer tree.kind child.info with
  | false => exact hread hchild
  | true =>
    have hkind := kind_of_isContainer hchild
    rw [hcontainer child hkind, hcontainer (rewritten tree.kind child) hkind]

end Parts

end Unaffected
end ParseTree
end CursorQuery
