import CursorQuery.Proofs.Lowering.Redeclaration

/-!
This module contains how a lowered function is described. Its display name and its type are made before
there is a cursor for it or for its parameters, and in the finished unit they still agree with the
cursors of its parameters.
-/

namespace CursorQuery

namespace ParseTree

def IsVariadic (declarator : ParseTree) : Prop :=
  ∃ list, declarator.field? .parameters = some list ∧ ∃ child ∈ list.children, child.kind = .ellipsis

def IsConst (source : Source) (declarator : ParseTree) : Prop :=
  ∃ child ∈ declarator.namedChildren, child.kind = .typeQualifier ∧ source.textOf child = "const"

end ParseTree

/-- What the texts that describe a function are made from, apart from its name. -/
structure Signature where
  parameters : List CType
  isVariadic : Bool
  isConst : Bool
  result : CType

namespace Signature

def parameterList (signature : Signature) : String :=
  String.intercalate ", "
    (signature.parameters.map (·.spelling) ++ if signature.isVariadic then ["..."] else [])

def displayName (signature : Signature) (name : String) : String :=
  name ++ "(" ++ signature.parameterList ++ ")"

def type (signature : Signature) : CType where
  kind := .function
  spelling := signature.result.spelling ++ " (" ++ signature.parameterList ++ ")" ++
    if signature.isConst then " const" else ""

end Signature

namespace Declaration

variable {source : Source} {node : ParseTree}

theorem isVariadic_functionDeclarator (source : Source) (node : ParseTree) :
    (functionDeclarator source node).isVariadic ↔ node.IsVariadic := by
  unfold functionDeclarator ParseTree.IsVariadic
  simp [Option.any_eq_true]

theorem isConst_functionDeclarator (source : Source) (node : ParseTree) :
    (functionDeclarator source node).isConst ↔ node.IsConst source := by
  unfold functionDeclarator ParseTree.IsConst
  simp

theorem isSome_type_functionParameter? {parameter : Parameter}
    (h : functionParameter? source node = some parameter) : parameter.type.isSome := by
  unfold functionParameter? at h
  split at h
  · obtain rfl := Option.some.inj h
    rfl
  · contradiction

theorem isSome_type_of_mem_functionDeclarator (source : Source) (node : ParseTree) :
    ∀ parameter ∈ (functionDeclarator source node).parameters, parameter.type.isSome := by
  intro parameter hmem
  simp only [functionDeclarator] at hmem
  split at hmem
  · obtain ⟨child, -, hparameter⟩ := List.mem_filterMap.mp hmem
    exact isSome_type_functionParameter? hparameter
  · contradiction

end Declaration

namespace FunctionForm

variable {form : FunctionForm} {types : List CType}

def signature (form : FunctionForm) (types : List CType) : Signature where
  parameters := types
  isVariadic := form.declarator.isVariadic
  isConst := form.declarator.isConst
  result := form.result?.getD .void

theorem written_eq (h : form.types = types.map some) :
    form.written = (form.signature types).parameterList := by
  unfold written Signature.parameterList
  rw [h, List.map_map]
  rfl

end FunctionForm

namespace Lowering

theorem exists_eq_map_some {types : List (Option CType)} (h : ∀ type ∈ types, type.isSome) :
    ∃ types' : List CType, types = types'.map some := by
  induction types with
  | nil => exact ⟨[], rfl⟩
  | cons type types ih =>
    rw [List.forall_mem_cons] at h
    obtain ⟨type', rfl⟩ := Option.isSome_iff_exists.mp h.1
    obtain ⟨types', rfl⟩ := ih h.2
    exact ⟨type' :: types', rfl⟩

theorem exists_types_eq_map (source : Source) (node : ParseTree) (b : Builder) (scope : Scope)
    (template : List ResolvedParameter) (result? : Option CType) (isDefinition : Bool) (span : Span) :
    ∃ types : List CType,
      (functionForm b scope template (Declaration.functionDeclarator source node) result? isDefinition
        span).types = types.map some := by
  have hsome : ∀ type ∈ (functionForm b scope template (Declaration.functionDeclarator source node)
      result? isDefinition span).types, type.isSome := by
    unfold FunctionForm.types
    rw [List.forall_mem_map]
    intro resolved hmem
    obtain ⟨parameter, hparameter, rfl⟩ := List.mem_map.mp ((sublist_dropVoid _).mem hmem)
    rw [Option.isSome_map]
    exact Declaration.isSome_type_of_mem_functionDeclarator source node parameter hparameter
  exact exists_eq_map_some hsome

end Lowering

namespace TranslationUnit

/-- A cursor is described by a signature, which lists the types of its parameters. -/
structure HasSignature (unit : TranslationUnit) (v : Fin unit.cursors.size) (signature : Signature) :
    Prop where
  parameters : unit.parameterTypes v = signature.parameters.map some
  result : (unit.cursor v).resultType = some signature.result
  displayName : (unit.cursor v).displayName = signature.displayName (unit.cursor v).spelling
  type : (unit.cursor v).type = some signature.type

variable {source : Source} {tree : ParseTree} {options : Options}

theorem hasSignature_of_mem_trace {before : Builder} {scope : Scope} {level : Access}
    {form : FunctionForm} {types : List CType}
    {v : Fin (ofParseTree source tree options).cursors.size}
    (hmem : .add before scope (.function level form) ∈ trace source tree options)
    (hv : before.nextId = v) (htypes : form.types = types.map some) :
    (ofParseTree source tree options).HasSignature v (form.signature types) := by
  have hplaced := cursor_of_mem_trace hmem hv
  obtain ⟨hdisplayName, htype⟩ := FunctionForm.writes_functionCursor before scope level form
  rw [FunctionForm.written_eq htypes] at hdisplayName htype
  constructor
  · rw [parameterTypes_ofParseTree hmem hv, htypes]
    rfl
  · rw [hplaced]
    rfl
  · rw [hplaced]
    exact hdisplayName
  · rw [hplaced]
    exact htype

/--
The three descriptions of a function agree: its display name, its type, and its result with the cursors
of its parameters.
-/
theorem ofParseTree_signature (source : Source) (tree : ParseTree) (options : Options) :
    let unit := ofParseTree source tree options
    ∀ v, (unit.cursor v).kind.isFunctionLike →
      (∃ node, LoweredFromFunction source tree options v node)
        ∧ ∀ node, LoweredFromFunction source tree options v node →
          ∃ signature, unit.HasSignature v signature
            ∧ (signature.isVariadic ↔ node.IsVariadic) ∧ (signature.isConst ↔ node.IsConst source) := by
  intro unit v hlike
  refine ⟨exists_loweredFromFunction hlike, ?_⟩
  rintro node ⟨-, -, before, scope, level, template, result?, isDefinition, span, hmem, hv⟩
  obtain ⟨types, htypes⟩ := Lowering.exists_types_eq_map source node before scope template result?
    isDefinition span
  exact ⟨_, hasSignature_of_mem_trace hmem hv htypes, Declaration.isVariadic_functionDeclarator source node,
    Declaration.isConst_functionDeclarator source node⟩

def variadicSource : Source where
  path := "a.cpp"
  text := "struct S \x7b int f(char *c, ...) const; \x7d;"

def variadicDeclarator : ParseTree :=
  .node { label := "function_declarator", field := some .declarator, span := ⟨15, 36⟩ } [
    .node { label := "field_identifier", field := some .declarator, span := ⟨15, 16⟩ } [],
    .node { label := "parameter_list", field := some .parameters, span := ⟨16, 30⟩ } [
      .node { label := "parameter_declaration", span := ⟨17, 24⟩ } [
        .node { label := "primitive_type", field := some .type, span := ⟨17, 21⟩ } [],
        .node { label := "pointer_declarator", field := some .declarator, span := ⟨22, 24⟩ } [
          .node { label := "identifier", field := some .declarator, span := ⟨23, 24⟩ } []]],
      .node { label := "...", isNamed := false, span := ⟨26, 29⟩ } []],
    .node { label := "type_qualifier", span := ⟨31, 36⟩ } []]

def variadicTree : ParseTree :=
  .node { label := "translation_unit", span := ⟨0, 40⟩ } [
    .node { label := "struct_specifier", span := ⟨0, 39⟩ } [
      .node { label := "type_identifier", field := some .name, span := ⟨7, 8⟩ } [],
      .node { label := "field_declaration_list", field := some .body, span := ⟨9, 39⟩ } [
        .node { label := "field_declaration", span := ⟨11, 37⟩ } [
          .node { label := "primitive_type", field := some .type, span := ⟨11, 14⟩ } [],
          variadicDeclarator]]]]

theorem contains_variadicDeclarator : variadicTree.Contains variadicDeclarator :=
  .head (.head _) (.head (.tail _ (.head _)) (.head (.head _) (.single (.tail _ (.head _)))))

theorem size_variadic : (ofParseTree variadicSource variadicTree).cursors.size = 4 := by
  decide +kernel

def variadicCursor (id : Fin 4) : Fin (ofParseTree variadicSource variadicTree).cursors.size :=
  ⟨id, by rw [size_variadic]; exact id.isLt⟩

/-- The signature of `int f(char *c, ...) const`. -/
theorem ofParseTree_signature_variadic :
    let unit := ofParseTree variadicSource variadicTree
    let v := variadicCursor 2
    LoweredFromFunction variadicSource variadicTree {} v variadicDeclarator
    ∧ (∃ signature, unit.HasSignature v signature ∧ signature.isVariadic ∧ signature.isConst)
    ∧ unit.parameterTypes v = [some { kind := .pointer, spelling := "char *" }]
    ∧ (unit.cursor v).displayName = "f(char *, ...)"
    ∧ (unit.cursor v).type = some { kind := .function, spelling := "int (char *, ...) const" } := by
  intro unit v
  have hnode : LoweredFromFunction variadicSource variadicTree {} v variadicDeclarator :=
    loweredFromFunction_of_any contains_variadicDeclarator rfl (by decide +kernel)
  have hlike : (unit.cursor v).kind.isFunctionLike := by decide +kernel
  obtain ⟨-, hsignature⟩ := ofParseTree_signature variadicSource variadicTree {} v hlike
  obtain ⟨signature, hhas, hvariadic, hconst⟩ := hsignature variadicDeclarator hnode
  refine ⟨hnode, ⟨signature, hhas, ?_, ?_⟩, by decide +kernel⟩
  · exact hvariadic.mpr ⟨_, rfl, _, .tail _ (.head _), rfl⟩
  · exact hconst.mpr ⟨_, .tail _ (.tail _ (.head _)), rfl, by decide +kernel⟩

end TranslationUnit
end CursorQuery
