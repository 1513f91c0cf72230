import CursorQuery.Proofs.Declaration.Regions
import CursorQuery.Proofs.Lowering.Calls
import CursorQuery.Proofs.Lowering.Navigation
import CursorQuery.Proofs.Lowering.QualifiedName

/-!
This module contains which function definitions are lowered. The declarator of a definition has to be a
function declarator, with wrappers around it at most; whatever its name is, one cursor is added then.
A definition with any other declarator leaves no cursor.
-/

namespace CursorQuery

namespace Declaration

open ParseTree

variable {source : Source} {node declarator : ParseTree}

def definitionItem (source : Source) (node declarator : ParseTree) : Item :=
  let body? := (node.field? .body).filter (·.kind == .compoundStatement)
  .function (functionDeclarator source (core declarator))
    ((node.field? .type).map fun type => typeUse source node type (some declarator))
    node.span (body?.map (site source))
    (if body?.isSome then bodyMembers source node else [])

theorem items_functionDefinition (hkind : node.kind = .functionDefinition)
    (hdeclarator : node.field? .declarator = some declarator) :
    items source node =
      if (core declarator).kind = .functionDeclarator then [definitionItem source node declarator]
      else [] := by
  rw [items, hkind]
  dsimp only
  rw [hdeclarator]
  simp only [beq_iff_eq]
  rfl

end Declaration

namespace Lowering

open Builder

variable {options : Options} {call : Call} {rest members : List Item}
  {declarator : FunctionDeclarator} {result? : Option TypeUse} {span : Span} {body? : Option Site}

theorem Call.add_function_mem (options : Options)
    (hitems : call.items = .function declarator result? span body? members :: rest) :
    .add call.unit call.scope (.function call.level (call.functionForm declarator result? span)) ∈
      call.actions options := by
  have hopening : .add call.unit call.scope
        (.function call.level (call.functionForm declarator result? span)) ∈
      call.opening options (.function declarator result? span body? members) := by
    simp [Call.opening, Trace.addFunction, Trace.addNested]
  rw [Call.actions_of_items hitems]
  exact List.mem_append_left _ (List.mem_append_left _ (List.mem_append_left _ hopening))

theorem Call.Sound.growsIn_function (h : call.Sound) (options : Options)
    (hitems : call.items = .function declarator result? span body? members :: rest) :
    (call.unit.add call.scope (.function call.level (call.functionForm declarator result? span))).GrowsIn
      call.unit.nextId (call.after options (.function declarator result? span body? members)) := by
  let form := call.functionForm declarator result? span
  have hopened : (call.unit.add call.scope (.function call.level form)).GrowsIn call.unit.nextId
      (addFunction call.unit call.scope call.level form) :=
    (Nests.addAll_parameters _ (.inside call.unit.nextId) .noAccess
      (form.template ++ form.parameters)).growsIn
        (size_childLists_add_eq h.wellFormed.size_childLists) (by simp [Scope.inside])
  unfold Call.after lowerItem
  cases body? with
  | none => exact hopened
  | some site =>
    dsimp only
    split
    · exact hopened
    · next hskip =>
      have hinner : call.inside? options (.function declarator result? span (some site) members) =
          some (call.functionBody form site members) := by
        rw [Call.inside?, if_neg hskip]
        rfl
      let opened := addFunction call.unit call.scope call.level form
      have hbody : (opened.add (.inside call.unit.nextId) (.body site)).GrowsIn opened.nextId
          ((call.functionBody form site members).result options) :=
        (h.inside hitems hinner).growsIn_result options
      have hlt := hopened.nextId_le
      rw [nextId_add] at hlt
      exact hopened.trans (hbody.of_inner hopened.size_childLists hlt)

end Lowering

namespace TranslationUnit

open ParseTree Declaration Lowering

variable {source : Source} {tree node declarator : ParseTree} {options : Options} {call : Call}

/-- From the call to the unit `after` it, a definition is put into the scope as its last child, and it
has the span of the node in the finished unit. -/
structure Defines (source : Source) (tree : ParseTree) (options : Options) (node : ParseTree)
    (call : Call) (after : Builder) : Prop where
  childrenOf_scope : after.childrenOf call.scope.lexical =
    call.unit.childrenOf call.scope.lexical ++ [call.unit.nextId]
  childrenOf_eq : ∀ id, id < call.unit.nextId → id ≠ call.scope.lexical →
    after.childrenOf id = call.unit.childrenOf id
  cursor : ∃ parent v : Fin (ofParseTree source tree options).cursors.size,
    parent.val = call.scope.lexical ∧ v.val = call.unit.nextId
      ∧ v ∈ (ofParseTree source tree options).children parent
      ∧ ((ofParseTree source tree options).cursor v).kind.isFunctionLike
      ∧ ((ofParseTree source tree options).cursor v).isDefinition
      ∧ ((ofParseTree source tree options).cursor v).span = some node.span

theorem not_defines_self (source : Source) (tree : ParseTree) (options : Options) (node : ParseTree)
    (call : Call) : ¬Defines source tree options node call call.unit := by
  intro h
  have := h.childrenOf_scope
  simp at this

theorem exists_cursor_of_mem_trace {b : Builder} {scope : Scope} {addition : Addition}
    (hmem : .add b scope addition ∈ trace source tree options) :
    ∃ parent v : Fin (ofParseTree source tree options).cursors.size,
      parent.val = scope.lexical ∧ v.val = b.nextId
        ∧ v ∈ (ofParseTree source tree options).children parent
        ∧ (ofParseTree source tree options).cursor v = addition.placed b scope := by
  have hlt := nextId_lt_of_mem_trace hmem
  obtain ⟨-, -, hlexical⟩ := wellFormed_of_mem_trace hmem
  let v : Fin (ofParseTree source tree options).cursors.size := ⟨b.nextId, hlt⟩
  have hcursor : (ofParseTree source tree options).cursor v = addition.placed b scope :=
    cursor_of_mem_trace hmem rfl
  refine ⟨⟨scope.lexical, Nat.lt_trans hlexical hlt⟩, v, rfl, rfl, ?_, hcursor⟩
  rw [mem_children_ofParseTree, (wellFormed_build source tree options).mem_childrenOf,
    ← cursor_ofParseTree, hcursor]
  exact ⟨hlt, rfl⟩

theorem defines_of_functionDeclarator (hkind : node.kind = .functionDefinition)
    (hdeclarator : node.field? .declarator = some declarator)
    (hcore : (core declarator).kind = .functionDeclarator)
    (h : ComesTo source tree options call node) :
    Defines source tree options node call
      (lowerItems options call.unit call.scope call.level call.template (items source node)) := by
  obtain ⟨hleads, rest, hitems⟩ := h
  rw [items_functionDefinition hkind hdeclarator, if_pos hcore] at hitems ⊢
  have hsound := hleads.sound (sound_startCall source tree)
  have hgrows := hsound.growsIn_function options hitems
  have hsize := hsound.wellFormed.size_childLists
  have hlexical := hsound.lexical_lt
  obtain ⟨parent, v, hparent, hv, hchild, hcursor⟩ :=
    exists_cursor_of_mem_trace (hleads.actions_subset (Call.add_function_mem options hitems))
  constructor
  · exact (hgrows.childrenOf_inner hsize hlexical hlexical).trans (if_pos rfl)
  · exact fun id hid hne => (hgrows.childrenOf_inner hsize hlexical hid).trans (if_neg hne)
  · refine ⟨parent, v, hparent, hv, hchild, ?_⟩
    rw [hcursor]
    exact ⟨Addition.isFunctionLike_functionKind .., rfl, rfl⟩

/--
A definition that lowering comes to, in whatever scope, is lowered to one cursor exactly if there is a
function declarator in its declarator under nothing but wrappers. Otherwise the unit stays as it is.
-/
theorem ofParseTree_functionDefinition (source : Source) (tree : ParseTree) (options : Options)
    {call : Call} {node declarator : ParseTree} (hkind : node.kind = .functionDefinition)
    (hdeclarator : node.field? .declarator = some declarator)
    (h : ComesTo source tree options call node) :
    let after := lowerItems options call.unit call.scope call.level call.template (items source node)
    (Defines source tree options node call after ↔ (core declarator).kind = .functionDeclarator)
      ∧ ((core declarator).kind ≠ .functionDeclarator → after = call.unit) := by
  have hnone : (core declarator).kind ≠ .functionDeclarator →
      lowerItems options call.unit call.scope call.level call.template (items source node) =
        call.unit := by
    intro hcore
    rw [items_functionDefinition hkind hdeclarator, if_neg hcore, lowerItems]
  refine ⟨⟨?_, fun hcore => defines_of_functionDeclarator hkind hdeclarator hcore h⟩, hnone⟩
  intro hdefines
  by_contra hcore
  rw [hnone hcore] at hdefines
  exact not_defines_self source tree options node call hdefines

/-- A definition with a pointer around its function declarator. -/
def pointerSource : Source where
  path := "a.cpp"
  text := "int *f() \x7b\x7d"

def wrappedFunction : ParseTree :=
  .node { label := "pointer_declarator", field := some .declarator, span := ⟨4, 8⟩ } [
    .node { label := "function_declarator", field := some .declarator, span := ⟨5, 8⟩ } [
      .node { label := "identifier", field := some .declarator, span := ⟨5, 6⟩ } [],
      .node { label := "parameter_list", field := some .parameters, span := ⟨6, 8⟩ } []]]

def wrappedDefinition : ParseTree :=
  .node { label := "function_definition", span := ⟨0, 11⟩ } [
    .node { label := "primitive_type", field := some .type, span := ⟨0, 3⟩ } [],
    wrappedFunction,
    .node { label := "compound_statement", field := some .body, span := ⟨9, 11⟩ } []]

def wrappedTree : ParseTree :=
  .node { label := "translation_unit", span := ⟨0, 11⟩ } [wrappedDefinition]

theorem comesTo_wrappedDefinition (options : Options) :
    ComesTo pointerSource wrappedTree options (startCall pointerSource wrappedTree)
      wrappedDefinition := by
  refine ⟨.refl, [], ?_⟩
  have hmembers : members pointerSource wrappedTree = membersOf pointerSource [wrappedDefinition] :=
    members_eq_membersOf ..
  rw [startCall, hmembers, membersOf_singleton, List.append_nil]
  rfl

theorem ofParseTree_functionDefinition_wrapped :
    wrappedDefinition.kind = .functionDefinition
      ∧ wrappedDefinition.field? .declarator = some wrappedFunction
      ∧ Defines pointerSource wrappedTree {} wrappedDefinition (startCall pointerSource wrappedTree)
        (lowerItems {} (start pointerSource wrappedTree) (.inside Cursor.root) .noAccess []
          (items pointerSource wrappedDefinition)) := by
  have hkind : wrappedDefinition.kind = .functionDefinition := by decide
  have hcore : (core wrappedFunction).kind = .functionDeclarator := by decide +kernel
  have h := ofParseTree_functionDefinition pointerSource wrappedTree {} hkind rfl
    (comesTo_wrappedDefinition {})
  exact ⟨hkind, rfl, h.1.mpr hcore⟩

/-- A record with a conversion operator that is defined outside of it. -/
def conversionSource : Source where
  path := "a.cpp"
  text := "struct S \x7b operator int(); \x7d;\nS::operator int() \x7b return 1; \x7d"

def conversionDefinition : ParseTree :=
  .node { label := "function_definition", span := ⟨30, 61⟩ } [
    .node { label := "qualified_identifier", field := some .declarator, span := ⟨30, 47⟩ } [
      .node { label := "namespace_identifier", field := some .scope, span := ⟨30, 31⟩ } [],
      .node { label := "operator_cast", field := some .name, span := ⟨33, 47⟩ } [
        .node { label := "primitive_type", field := some .type, span := ⟨42, 45⟩ } [],
        .node { label := "abstract_function_declarator", field := some .declarator,
                span := ⟨45, 47⟩ } [
          .node { label := "parameter_list", field := some .parameters, span := ⟨45, 47⟩ } []]]],
    .node { label := "compound_statement", field := some .body, span := ⟨48, 61⟩ } []]

def conversionTree : ParseTree :=
  .node { label := "translation_unit", span := ⟨0, 61⟩ } [
    .node { label := "struct_specifier", span := ⟨0, 28⟩ } [
      .node { label := "type_identifier", field := some .name, span := ⟨7, 8⟩ } [],
      .node { label := "field_declaration_list", field := some .body, span := ⟨9, 28⟩ } [
        .node { label := "declaration", span := ⟨11, 26⟩ } [
          .node { label := "operator_cast", field := some .declarator, span := ⟨11, 25⟩ } [
            .node { label := "primitive_type", field := some .type, span := ⟨20, 23⟩ } [],
            .node { label := "abstract_function_declarator", field := some .declarator,
                    span := ⟨23, 25⟩ } [
              .node { label := "parameter_list", field := some .parameters, span := ⟨23, 25⟩ } []]]]]],
    conversionDefinition]

/-- No function has the span of the definition. -/
theorem conversion_not_defined :
    ¬∀ node ∈ conversionTree.namedChildren, node.kind = .functionDefinition →
      (node.field? .declarator).isSome →
      ∃ v : Fin (ofParseTree conversionSource conversionTree).cursors.size,
        ((ofParseTree conversionSource conversionTree).cursor v).kind.isFunctionLike
          ∧ ((ofParseTree conversionSource conversionTree).cursor v).isDefinition
          ∧ ((ofParseTree conversionSource conversionTree).cursor v).span = some node.span := by
  intro h
  have hnode : conversionTree.namedChildren[1]? = some conversionDefinition := rfl
  have hdefined := h conversionDefinition (List.mem_of_getElem? hnode) (by decide) rfl
  revert hdefined
  decide +kernel

end TranslationUnit
end CursorQuery
