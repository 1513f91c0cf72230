import CursorQuery.Proofs.Lowering.QualifiedName
import CursorQuery.Proofs.Source.Layout
import CursorQuery.Proofs.Source.Position

/-!
This module contains which diagnostics a translation unit has. Their search leaves out what lies below
nodes without a mark, so it finds all faults of a tree exactly if every node with a fault below it is
marked.
-/

namespace CursorQuery

namespace ParseTree

/-- The node stands for text without sense, or for text that is not there. -/
def isFault (tree : ParseTree) : Bool :=
  tree.info.isError || tree.info.isMissing

def faults (tree : ParseTree) : List ParseTree :=
  tree.preorder.filter isFault

def forestFaults (trees : List ParseTree) : List ParseTree :=
  (forestPreorder trees).filter isFault

/-- Every node with a fault strictly below it is marked. -/
def MarksFaults (tree : ParseTree) : Prop :=
  ∀ node ∈ tree.preorder, forestFaults node.children ≠ [] → node.info.hasError

def faultReport (source : Source) (fault : ParseTree) : Diagnostic where
  location := source.locationOf fault
  span := fault.span
  message := if fault.info.isMissing then "missing " ++ fault.info.label else "syntax error"

variable {info : NodeInfo} {tree : ParseTree} {children trees : List ParseTree}

theorem faults_node (info : NodeInfo) (children : List ParseTree) :
    faults (node info children) =
      (if isFault (node info children) then [node info children] else []) ++ forestFaults children := by
  unfold faults
  rw [preorder, List.filter_cons]
  split
  · rfl
  · rfl

theorem forestFaults_cons (tree : ParseTree) (trees : List ParseTree) :
    forestFaults (tree :: trees) = tree.faults ++ forestFaults trees := by
  unfold forestFaults faults
  rw [forestPreorder, List.filter_append]

theorem toList_diagnostic? (source : Source) (info : NodeInfo) (children : List ParseTree) :
    (info.diagnostic? source).toList =
      (if isFault (node info children) then [node info children] else []).map (faultReport source) := by
  unfold NodeInfo.diagnostic?
  by_cases h : info.isError || info.isMissing
  · rw [if_pos h, isFault, ParseTree.info, if_pos h]
    rfl
  · rw [if_neg h, isFault, ParseTree.info, if_neg h]
    rfl

mutual

theorem sublist_diagnostics (source : Source) (tree : ParseTree) :
    (tree.diagnostics source).Sublist (tree.faults.map (faultReport source)) := by
  match tree with
  | node info children =>
    rw [diagnostics, faults_node, List.map_append, ← toList_diagnostic?]
    apply List.Sublist.append_left
    split
    · exact sublist_forestDiagnostics source children
    · exact List.nil_sublist _

theorem sublist_forestDiagnostics (source : Source) (trees : List ParseTree) :
    (forestDiagnostics source trees).Sublist ((forestFaults trees).map (faultReport source)) := by
  match trees with
  | [] => exact List.Sublist.refl _
  | tree :: trees =>
    rw [forestDiagnostics, forestFaults_cons, List.map_append]
    exact (sublist_diagnostics source tree).append (sublist_forestDiagnostics source trees)

end

theorem marksFaults_node :
    MarksFaults (node info children) ↔
      (forestFaults children ≠ [] → info.hasError) ∧ ∀ child ∈ children, child.MarksFaults := by
  have hbelow : (∀ node ∈ forestPreorder children, forestFaults node.children ≠ [] →
      node.info.hasError) ↔ ∀ child ∈ children, child.MarksFaults := by
    induction children with
    | nil => simp [forestPreorder]
    | cons child children ih =>
      rw [forestPreorder, List.forall_mem_append, List.forall_mem_cons, ih]
      rfl
  unfold MarksFaults
  rw [preorder, List.forall_mem_cons, hbelow]
  rfl

theorem length_diagnostics_le (source : Source) (tree : ParseTree) :
    (tree.diagnostics source).length ≤ tree.faults.length := by
  simpa using (sublist_diagnostics source tree).length_le

theorem length_forestDiagnostics_le (source : Source) (trees : List ParseTree) :
    (forestDiagnostics source trees).length ≤ (forestFaults trees).length := by
  simpa using (sublist_forestDiagnostics source trees).length_le

mutual

theorem length_diagnostics_eq_iff (source : Source) (tree : ParseTree) :
    (tree.diagnostics source).length = tree.faults.length ↔ tree.MarksFaults := by
  match tree with
  | node info children =>
    have hbelow := length_forestDiagnostics_eq_iff source children
    have hle := length_forestDiagnostics_le source children
    rw [marksFaults_node, ← hbelow, diagnostics, faults_node, toList_diagnostic? source info children,
      List.length_append, List.length_append, List.length_map, Nat.add_left_cancel_iff]
    by_cases hmarked : info.hasError
    · simp [hmarked]
    · -- Nothing below is reported, so nothing below may be a fault.
      have hnone : (forestFaults children ≠ [] → info.hasError) ↔ (forestFaults children).length = 0 := by
        rw [List.length_eq_zero_iff]
        simp [hmarked]
      rw [if_neg hmarked, List.length_nil, hnone]
      omega

theorem length_forestDiagnostics_eq_iff (source : Source) (trees : List ParseTree) :
    (forestDiagnostics source trees).length = (forestFaults trees).length ↔
      ∀ tree ∈ trees, tree.MarksFaults := by
  match trees with
  | [] => simp [forestDiagnostics, forestFaults, forestPreorder]
  | tree :: trees =>
    have hfirst := length_diagnostics_le source tree
    have hlater := length_forestDiagnostics_le source trees
    rw [List.forall_mem_cons, ← length_diagnostics_eq_iff source tree,
      ← length_forestDiagnostics_eq_iff source trees, forestDiagnostics, forestFaults_cons,
      List.length_append, List.length_append]
    omega

end

theorem diagnostics_eq_iff (source : Source) (tree : ParseTree) :
    tree.diagnostics source = tree.faults.map (faultReport source) ↔ tree.MarksFaults := by
  rw [← length_diagnostics_eq_iff source]
  constructor
  · intro h
    rw [h, List.length_map]
  · intro h
    apply (sublist_diagnostics source tree).eq_of_length
    rw [h, List.length_map]

end ParseTree

namespace TranslationUnit

/--
The diagnostics of a unit are the reports of all faults of its tree, in pre-order, exactly if the tree
marks every node with a fault below it. None is reported twice in any case, every report is about the
place at which its fault starts, and whatever the faults are, there is a unit.
-/
theorem ofParseTree_diagnostics (source : Source) (tree : ParseTree) (options : Options) :
    let unit := ofParseTree source tree options
    (unit.diagnostics = tree.faults.map (ParseTree.faultReport source) ↔ tree.MarksFaults)
      ∧ unit.diagnostics.Sublist (tree.faults.map (ParseTree.faultReport source))
      ∧ (∀ fault, (ParseTree.faultReport source fault).location.IsStartOf source fault)
      ∧ ∃ v, v.val = Cursor.root ∧ unit.cursor v = rootCursor source tree := by
  intro unit
  refine ⟨tree.diagnostics_eq_iff source, tree.sublist_diagnostics source,
    source.isStartOf_locationOf, ?_⟩
  have hpos : 0 < (build source tree options).nextId := (wellFormed_build source tree options).nextId_pos
  refine ⟨⟨Cursor.root, hpos⟩, rfl, ?_⟩
  rw [cursor_ofParseTree]
  exact cursor_root_build source tree options

end TranslationUnit
end CursorQuery
