import CursorQuery.Proofs.Lowering.Unnamed
import CursorQuery.Tree

/-!
This module contains what is read from the parameters of a function if they are written in the same way
in two places. But for where it is, a parameter depends on what the grammar makes of its text and on
nothing around it.
-/

namespace CursorQuery

structure WrittenNode where
  label : String
  isNamed : Bool
  field : Option Field
  text : String

namespace ParseTree

def nodeOf (source : Source) (tree : ParseTree) : WrittenNode where
  label := tree.info.label
  isNamed := tree.info.isNamed
  field := tree.info.field
  text := source.textOf tree

mutual

def written (source : Source) : ParseTree → Tree WrittenNode
  | node info children => .node (nodeOf source (node info [])) (writtenForest source children)

def writtenForest (source : Source) : List ParseTree → List (Tree WrittenNode)
  | [] => []
  | tree :: trees => written source tree :: writtenForest source trees

end

variable {α β : Type} {source : Source} {tree tree' : ParseTree}

theorem writtenForest_eq_map (source : Source) (trees : List ParseTree) :
    writtenForest source trees = trees.map (written source) := by
  induction trees with
  | nil => rfl
  | cons tree trees ih => rw [writtenForest, ih, List.map_cons]

theorem written_eq (source : Source) (tree : ParseTree) :
    tree.written source = .node (nodeOf source tree) (tree.children.map (written source)) := by
  cases tree with
  | node info children =>
    rw [written, writtenForest_eq_map]
    rfl

/-- What is read from a tree does not depend on its place. -/
def ReadsWritten (source : Source) (read : ParseTree → α) : Prop :=
  ∀ tree tree', tree.written source = tree'.written source → read tree = read tree'

namespace ReadsWritten

theorem comp {read : ParseTree → α} (h : ReadsWritten source read) (f : α → β) :
    ReadsWritten source fun tree => f (read tree) :=
  fun tree tree' hwritten => congrArg f (h tree tree' hwritten)

theorem of_node (source : Source) (read : WrittenNode → α) :
    ReadsWritten source fun tree => read (nodeOf source tree) := by
  intro tree tree' h
  rw [written_eq, written_eq] at h
  exact congrArg read (Tree.node.inj h).1

theorem text (source : Source) : ReadsWritten source source.textOf :=
  of_node source (·.text)

theorem kind (source : Source) : ReadsWritten source (·.kind) :=
  of_node source fun node => NodeKind.ofLabel node.label

theorem children (source : Source) :
    ReadsWritten source fun tree => tree.children.map (written source) := by
  intro tree tree' h
  rw [written_eq, written_eq] at h
  exact (Tree.node.inj h).2

theorem map_option {read : ParseTree → α} (h : ReadsWritten source read)
    {tree? tree'? : Option ParseTree}
    (hwritten : tree?.map (written source) = tree'?.map (written source)) :
    tree?.map read = tree'?.map read := by
  cases tree? with
  | none => cases tree'? <;> simp_all
  | some tree =>
    cases tree'? with
    | none => simp at hwritten
    | some tree' => exact congrArg some (h tree tree' (Option.some.inj hwritten))

theorem map_list {read : ParseTree → α} (h : ReadsWritten source read) {trees trees' : List ParseTree}
    (hwritten : trees.map (written source) = trees'.map (written source)) :
    trees.map read = trees'.map read := by
  induction trees generalizing trees' with
  | nil => cases trees' <;> simp_all
  | cons tree trees ih =>
    cases trees' with
    | nil => simp at hwritten
    | cons tree' trees' =>
      rw [List.map_cons, List.map_cons, List.cons.injEq] at hwritten
      rw [List.map_cons, List.map_cons, h tree tree' hwritten.1, ih hwritten.2]

theorem namedChildren (source : Source) :
    ReadsWritten source fun tree => tree.namedChildren.map (written source) := by
  have hnamed : (fun node => node.value.isNamed) ∘ written source = (·.info.isNamed) := by
    funext tree
    rw [Function.comp_apply, written_eq]
    rfl
  have h := (children source).comp (List.filter fun node => node.value.isNamed)
  simp only [List.filter_map, hnamed] at h
  exact h

theorem field? (source : Source) (field : Field) :
    ReadsWritten source fun tree => (tree.field? field).map (written source) := by
  have hfield : (fun node => node.value.field == some field) ∘ written source =
      (·.info.field == some field) := by
    funext tree
    rw [Function.comp_apply, written_eq]
    rfl
  have h := (children source).comp (List.find? fun node => node.value.field == some field)
  simp only [List.find?_map, hfield] at h
  exact h

theorem map_field? {read : ParseTree → α} (h : ReadsWritten source read) (field : Field) :
    ReadsWritten source fun tree => (tree.field? field).map read :=
  fun tree tree' hwritten => h.map_option (field? source field tree tree' hwritten)

theorem map_namedChildren {read : ParseTree → α} (h : ReadsWritten source read) :
    ReadsWritten source fun tree => tree.namedChildren.map read :=
  fun tree tree' hwritten => h.map_list (namedChildren source tree tree' hwritten)

end ReadsWritten
end ParseTree

def Parameter.content (parameter : Parameter) : String × Option TypeUse :=
  (parameter.name, parameter.type)

namespace Declaration

open ParseTree

variable {source : Source}

theorem readsWritten_writtenType (source : Source) : ReadsWritten source (writtenType source) := by
  intro tree tree' h
  have htext := ReadsWritten.text source
  have hkind : tree.kind = tree'.kind := ReadsWritten.kind source tree tree' h
  have hscoped : (tree.field? .name).map (fun name => Text.normalizeScoped (source.textOf name)) =
      (tree'.field? .name).map fun name => Text.normalizeScoped (source.textOf name) :=
    (htext.comp Text.normalizeScoped).map_field? .name tree tree' h
  have harguments : (tree.field? .arguments).map (fun list => Text.collapse (source.textOf list)) =
      (tree'.field? .arguments).map fun list => Text.collapse (source.textOf list) :=
    (htext.comp Text.collapse).map_field? .arguments tree tree' h
  unfold writtenType
  dsimp only
  rw [hkind, htext tree tree' h, harguments]
  cases hfield : tree.field? .name with
  | none =>
    cases hfield' : tree'.field? .name with
    | none => rfl
    | some name' => simp [hfield, hfield'] at hscoped
  | some name =>
    cases hfield' : tree'.field? .name with
    | none => simp [hfield, hfield'] at hscoped
    | some name' =>
      rw [hfield, hfield', Option.map_some, Option.map_some, Option.some.injEq] at hscoped
      simp only [Option.map_some, hscoped]

theorem readsWritten_hasConst (source : Source) : ReadsWritten source (hasConst source) := by
  have hchild : ReadsWritten source fun child =>
      child.kind == .typeQualifier && Text.trim (source.textOf child) == "const" :=
    .of_node source fun node =>
      NodeKind.ofLabel node.label == .typeQualifier && Text.trim node.text == "const"
  intro tree tree' h
  have hany := (hchild.map_namedChildren.comp (List.any · id)) tree tree' h
  unfold hasConst hasKeyword
  simpa only [List.any_map, Function.id_comp] using hany

theorem readsWritten_derivation? (source : Source) : ReadsWritten source (derivation? source) := by
  intro tree tree' h
  have htext := ReadsWritten.text source
  have hkind : tree.kind = tree'.kind := ReadsWritten.kind source tree tree' h
  have hsize : (tree.field? .size).map source.textOf = (tree'.field? .size).map source.textOf :=
    htext.map_field? .size tree tree' h
  unfold derivation?
  rw [hkind, htext tree tree' h, hsize]

theorem readsWritten_wrapped? (source : Source) :
    ReadsWritten source fun tree => (wrapped? tree).map (written source) := by
  intro tree tree' h
  have hkind : tree.kind = tree'.kind := ReadsWritten.kind source tree tree' h
  have hdeclarator : (tree.field? .declarator).map (written source) =
      (tree'.field? .declarator).map (written source) :=
    ReadsWritten.field? source .declarator tree tree' h
  have hnamed : tree.namedChildren.map (written source) = tree'.namedChildren.map (written source) :=
    ReadsWritten.namedChildren source tree tree' h
  unfold wrapped?
  dsimp only
  rw [hkind]
  split
  · exact hdeclarator
  · exact hdeclarator
  · exact hdeclarator
  · rw [← List.getLast?_map, ← List.getLast?_map, hnamed]
  · rw [← List.head?_map, ← List.head?_map, hnamed]
  · rfl

theorem written_core_and_derivations (source : Source) {tree tree' : ParseTree}
    (h : tree.written source = tree'.written source) :
    (core tree).written source = (core tree').written source
      ∧ derivations source tree = derivations source tree' := by
  induction hsize : tree.size using Nat.strongRecOn generalizing tree tree' with
  | ind size ih =>
    have hwrapped : (wrapped? tree).map (written source) = (wrapped? tree').map (written source) :=
      readsWritten_wrapped? source tree tree' h
    have hderivation : derivation? source tree = derivation? source tree' :=
      readsWritten_derivation? source tree tree' h
    rw [core_unwrap, core_unwrap, derivations_unwrap, derivations_unwrap, hderivation]
    cases hinner : wrapped? tree with
    | none =>
      cases hinner' : wrapped? tree' with
      | none => exact ⟨h, rfl⟩
      | some inner' => simp [hinner, hinner'] at hwrapped
    | some inner =>
      cases hinner' : wrapped? tree' with
      | none => simp [hinner, hinner'] at hwrapped
      | some inner' =>
        rw [hinner, hinner'] at hwrapped
        have hless : inner.size < size := hsize ▸ size_lt_of_wrapped? hinner
        obtain ⟨hcore, hderivations⟩ := ih inner.size hless (Option.some.inj hwrapped) rfl
        simp only [Option.map_some, Option.getD_some]
        exact ⟨hcore, by rw [hderivations]⟩

theorem readsWritten_core (source : Source) :
    ReadsWritten source fun tree => (core tree).written source :=
  fun _ _ h => (written_core_and_derivations source h).1

theorem readsWritten_derivations (source : Source) : ReadsWritten source (derivations source) :=
  fun _ _ h => (written_core_and_derivations source h).2

def parameterName (source : Source) (declarator : ParseTree) : String :=
  if (core declarator).kind.isIdentifier then source.textOf (core declarator) else ""

theorem readsWritten_parameterName (source : Source) : ReadsWritten source (parameterName source) := by
  have hname := ReadsWritten.of_node source fun node =>
    if (NodeKind.ofLabel node.label).isIdentifier then node.text else ""
  exact fun tree tree' h => hname _ _ (readsWritten_core source tree tree' h)

theorem content_functionParameter? (source : Source) (tree : ParseTree) :
    (functionParameter? source tree).map Parameter.content =
      if tree.kind = .parameter then
        ((tree.field? .type).map (writtenType source)).map fun base =>
          (((tree.field? .declarator).map (parameterName source)).getD "",
            some { base
                   isConst := hasConst source tree
                   derivations := ((tree.field? .declarator).map (derivations source)).getD [] })
      else none := by
  unfold functionParameter?
  by_cases hkind : tree.kind = .parameter
  · rw [if_pos hkind, hkind]
    cases tree.field? .type with
    | none => rfl
    | some type =>
      cases tree.field? .declarator with
      | none => rfl
      | some declarator => rfl
  · rw [if_neg hkind]
    split
    · contradiction
    · rfl

theorem readsWritten_functionParameter? (source : Source) :
    ReadsWritten source fun tree => (functionParameter? source tree).map Parameter.content := by
  intro tree tree' h
  have hkind : tree.kind = tree'.kind := ReadsWritten.kind source tree tree' h
  have htype : (tree.field? .type).map (writtenType source) =
      (tree'.field? .type).map (writtenType source) :=
    (readsWritten_writtenType source).map_field? .type tree tree' h
  have hname : (tree.field? .declarator).map (parameterName source) =
      (tree'.field? .declarator).map (parameterName source) :=
    (readsWritten_parameterName source).map_field? .declarator tree tree' h
  have hderivations : (tree.field? .declarator).map (derivations source) =
      (tree'.field? .declarator).map (derivations source) :=
    (readsWritten_derivations source).map_field? .declarator tree tree' h
  dsimp only
  rw [content_functionParameter?, content_functionParameter?, hkind, htype, hname, hderivations,
    readsWritten_hasConst source tree tree' h]

def WritesParametersAlike (source : Source) (tree tree' : ParseTree) : Prop :=
  (tree.field? .parameters).map (written source) = (tree'.field? .parameters).map (written source)

theorem WritesParametersAlike.read_eq {tree tree' : ParseTree}
    (h : WritesParametersAlike source tree tree') :
    (functionDeclarator source tree).parameters.map Parameter.content =
        (functionDeclarator source tree').parameters.map Parameter.content
      ∧ (functionDeclarator source tree).isVariadic = (functionDeclarator source tree').isVariadic := by
  have hparameters : ReadsWritten source fun list =>
      (list.namedChildren.filterMap (functionParameter? source)).map Parameter.content := by
    have hall := (readsWritten_functionParameter? source).map_namedChildren.comp (List.filterMap id)
    simpa only [List.filterMap_map, List.map_filterMap, Function.id_comp] using hall
  have hvariadic : ReadsWritten source fun list => list.children.any (·.kind == .ellipsis) := by
    intro list list' h
    have hkinds := (ReadsWritten.kind source).map_list (ReadsWritten.children source list list' h)
    have hany := congrArg (List.any · (· == .ellipsis)) hkinds
    simpa only [List.any_map, Function.comp_def] using hany
  have hlist := hparameters.map_option h
  have hellipsis := hvariadic.map_option h
  unfold functionDeclarator
  dsimp only
  cases hfield : tree.field? .parameters with
  | none => cases hfield' : tree'.field? .parameters <;> simp_all
  | some list => cases hfield' : tree'.field? .parameters <;> simp_all

end Declaration
end CursorQuery
