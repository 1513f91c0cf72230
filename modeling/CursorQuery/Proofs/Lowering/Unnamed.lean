import CursorQuery.Unit.Basic

/-!
This module contains what a parameter loses together with its name. What is written around a name
derives the type of the parameter from the one that the specifiers write; without the name the same is
written by abstract declarators, and these derive nothing.
-/

namespace CursorQuery

namespace Declaration

open ParseTree

def startsRvalue (source : Source) (tree : ParseTree) : Bool :=
  "&&".toList.isPrefixOf ((source.textOf tree).toList.dropWhile Character.isBlank)

/-- What is left of a declarator, possibly in another text, when the identifier in it is left out. -/
inductive Unnames (source source' : Source) : ParseTree → Option ParseTree → Prop where
  | identifier {declarator : ParseTree} (hkind : declarator.kind.isIdentifier) :
      Unnames source source' declarator none
  | pointer {declarator inner abstract : ParseTree} (hkind : declarator.kind = .pointerDeclarator)
      (hinner : declarator.field? .declarator = some inner)
      (hlabel : abstract.info.label = "abstract_pointer_declarator")
      (hrest : Unnames source source' inner (abstract.field? .declarator)) :
      Unnames source source' declarator (some abstract)
  | reference {declarator inner abstract : ParseTree} (hkind : declarator.kind = .referenceDeclarator)
      (hinner : declarator.namedChildren.getLast? = some inner)
      (hlabel : abstract.info.label = "abstract_reference_declarator")
      (hmark : startsRvalue source' abstract = startsRvalue source declarator)
      (hrest : Unnames source source' inner abstract.namedChildren.getLast?) :
      Unnames source source' declarator (some abstract)
  | array {declarator inner abstract : ParseTree} (hkind : declarator.kind = .arrayDeclarator)
      (hinner : declarator.field? .declarator = some inner)
      (hlabel : abstract.info.label = "abstract_array_declarator")
      (hsize : (abstract.field? .size).map source'.textOf = (declarator.field? .size).map source.textOf)
      (hrest : Unnames source source' inner (abstract.field? .declarator)) :
      Unnames source source' declarator (some abstract)

variable {source source' : Source} {tree declarator abstract : ParseTree}

theorem core_unwrap (tree : ParseTree) : core tree = ((wrapped? tree).map core).getD tree := by
  rw [core]
  split
  · next inner hinner => rw [hinner, Option.map_some, Option.getD_some]
  · next hnone => rw [hnone, Option.map_none, Option.getD_none]

theorem derivations_unwrap (source : Source) (tree : ParseTree) :
    derivations source tree = (derivation? source tree).toList ++
      ((wrapped? tree).map (derivations source)).getD [] := by
  rw [derivations]
  split
  · next inner hinner => rw [hinner, Option.map_some, Option.getD_some]
  · next hnone => rw [hnone, Option.map_none, Option.getD_none, List.append_nil]

theorem kind_of_abstract
    (h : abstract.info.label = "abstract_pointer_declarator"
      ∨ abstract.info.label = "abstract_reference_declarator"
      ∨ abstract.info.label = "abstract_array_declarator") : abstract.kind = .other := by
  unfold kind
  rcases h with h | h | h
  all_goals
    rw [h]
    rfl

theorem wrapped?_of_isIdentifier (h : tree.kind.isIdentifier) : wrapped? tree = none := by
  unfold wrapped?
  cases hkind : tree.kind with
  | identifier | typeIdentifier => rfl
  | _ => simp [hkind, NodeKind.isIdentifier] at h

theorem derivation?_of_isIdentifier (h : tree.kind.isIdentifier) : derivation? source tree = none := by
  unfold derivation?
  cases hkind : tree.kind with
  | identifier | typeIdentifier => rfl
  | _ => simp [hkind, NodeKind.isIdentifier] at h

namespace Unnames

variable {abstract? : Option ParseTree}

theorem isIdentifier_core (h : Unnames source source' declarator abstract?) :
    (core declarator).kind.isIdentifier := by
  induction h with
  | identifier hkind =>
    rw [core_unwrap, wrapped?_of_isIdentifier hkind]
    exact hkind
  | @pointer declarator inner _ hkind hinner _ _ ih
  | @reference declarator inner _ hkind hinner _ _ _ ih
  | @array declarator inner _ hkind hinner _ _ _ ih =>
    have hwrapped : wrapped? declarator = some inner := by
      rw [wrapped?, hkind]
      exact hinner
    rw [core_unwrap, hwrapped]
    exact ih

theorem derivations_eq_nil_iff (h : Unnames source source' declarator abstract?) :
    derivations source declarator = [] ↔ declarator.kind.isIdentifier := by
  -- Only the bare identifier derives nothing.
  cases h with
  | identifier hkind =>
    rw [derivations_unwrap, wrapped?_of_isIdentifier hkind, derivation?_of_isIdentifier hkind]
    simp [hkind]
  | pointer hkind | reference hkind | array hkind =>
    rw [derivations_unwrap]
    simp [derivation?, hkind, NodeKind.isIdentifier]

theorem kind_of_mem (h : Unnames source source' declarator abstract?) :
    ∀ abstract ∈ abstract?, abstract.kind = .other := by
  cases h with
  | identifier => simp
  | pointer _ _ hlabel =>
    rintro _ ⟨⟩
    exact kind_of_abstract (.inl hlabel)
  | reference _ _ hlabel =>
    rintro _ ⟨⟩
    exact kind_of_abstract (.inr (.inl hlabel))
  | array _ _ hlabel =>
    rintro _ ⟨⟩
    exact kind_of_abstract (.inr (.inr hlabel))

end Unnames

/-- Two parameters, possibly of different texts, the second of which leaves out the name. -/
structure LosesName (source source' : Source) (named unnamed type declarator : ParseTree) : Prop where
  named_kind : named.kind = .parameter
  named_type : named.field? .type = some type
  named_declarator : named.field? .declarator = some declarator
  unnamed_kind : unnamed.kind = .parameter
  unnamed_type : ∃ type', unnamed.field? .type = some type'
    ∧ writtenType source' type' = writtenType source type
  hasConst_eq : hasConst source' unnamed = hasConst source named
  unnames : Unnames source source' declarator (unnamed.field? .declarator)

def namedParameter (source : Source) (named type declarator : ParseTree) : Parameter where
  kind := .function
  name := source.textOf (core declarator)
  type := some (typeUse source named type (some declarator))
  site := site source named

def unnamedParameter (source source' : Source) (named unnamed type : ParseTree) : Parameter where
  kind := .function
  name := ""
  type := some (typeUse source named type none)
  site := site source' unnamed

variable {named unnamed type : ParseTree}

theorem LosesName.functionParameter?_named
    (h : LosesName source source' named unnamed type declarator) :
    functionParameter? source named = some (namedParameter source named type declarator) := by
  unfold functionParameter?
  rw [h.named_kind, h.named_type, h.named_declarator]
  simp [namedParameter, h.unnames.isIdentifier_core]

theorem LosesName.functionParameter?_unnamed
    (h : LosesName source source' named unnamed type declarator) :
    functionParameter? source' unnamed = some (unnamedParameter source source' named unnamed type) := by
  obtain ⟨type', htype', hwritten⟩ := h.unnamed_type
  have hkind := h.unnames.kind_of_mem
  unfold functionParameter?
  rw [h.unnamed_kind, htype']
  cases habstract : unnamed.field? .declarator with
  | none => simp [unnamedParameter, typeUse, hwritten, h.hasConst_eq]
  | some abstract =>
    have hother := hkind abstract habstract
    have hwrapped : wrapped? abstract = none := by rw [wrapped?, hother]
    have hderivation : derivation? source' abstract = none := by rw [derivation?, hother]
    have hcore : core abstract = abstract := by
      rw [core_unwrap, hwrapped]
      rfl
    have hnothing : derivations source' abstract = [] := by
      rw [derivations_unwrap, hwrapped, hderivation]
      rfl
    simp [unnamedParameter, typeUse, hwritten, h.hasConst_eq, hcore, hother, NodeKind.isIdentifier,
      hnothing]

end Declaration

namespace CType

theorem derive_spec (type : CType) (derivation : Derivation) :
    type.spelling.length < (type.derive derivation).spelling.length
      ∧ (type.derive derivation).kind ≠ .void := by
  have hpointer : " *".length = 2 := rfl
  have hlvalue : " &".length = 2 := rfl
  have hrvalue : " &&".length = 3 := rfl
  have harray : " [".length = 2 := rfl
  cases derivation with
  | _ =>
    simp only [derive, String.length_append]
    refine ⟨?_, by simp⟩
    omega

theorem foldl_derive_spec (type : CType) {derivations : List Derivation} (h : derivations ≠ []) :
    type.spelling.length < (derivations.foldl derive type).spelling.length
      ∧ (derivations.foldl derive type).kind ≠ .void := by
  induction derivations generalizing type with
  | nil => contradiction
  | cons derivation derivations ih =>
    have hfirst := type.derive_spec derivation
    rw [List.foldl_cons]
    cases derivations with
    | nil => exact hfirst
    | cons next derivations =>
      obtain ⟨hlt, hkind⟩ := ih (type.derive derivation) (by simp)
      exact ⟨Nat.lt_trans hfirst.1 hlt, hkind⟩

end CType

theorem length_intercalate_lt (separator : String) {short long : String}
    (h : short.length < long.length) (before after : List String) :
    (separator.intercalate (before ++ short :: after)).length
      < (separator.intercalate (before ++ long :: after)).length := by
  induction before with
  | nil =>
    cases after with
    | nil => simpa using h
    | cons next after =>
      simp only [List.nil_append, String.intercalate_cons_cons, String.length_append]
      omega
  | cons first before ih =>
    rw [List.cons_append, List.cons_append, String.intercalate_cons_of_ne_nil (by simp),
      String.intercalate_cons_of_ne_nil (by simp)]
    simp only [String.length_append] at ih ⊢
    omega

namespace FunctionForm

def types (form : FunctionForm) : List (Option CType) :=
  form.parameters.map (·.type)

def written (form : FunctionForm) : String :=
  String.intercalate ", "
    (form.types.map (fun type => (type.map (·.spelling)).getD "") ++
      if form.declarator.isVariadic then ["..."] else [])

structure Resembles (form form' : FunctionForm) : Prop where
  name : form'.declarator.name = form.declarator.name
  isVariadic : form'.declarator.isVariadic = form.declarator.isVariadic
  isConst : form'.declarator.isConst = form.declarator.isConst
  result? : form'.result? = form.result?

variable {b : Builder} {scope : Scope} {level : Access} {form form' : FunctionForm}

theorem writes_functionCursor (b : Builder) (scope : Scope) (level : Access) (form : FunctionForm) :
    (Addition.functionCursor b scope level form).displayName =
        form.declarator.name.name ++ "(" ++ form.written ++ ")"
      ∧ (Addition.functionCursor b scope level form).type = some {
        kind := .function
        spelling := (form.result?.getD .void).spelling ++ " (" ++ form.written ++ ")" ++
          (if form.declarator.isConst then " const" else "") } := by
  unfold Addition.functionCursor written types
  dsimp only
  rw [List.map_map]
  split
  · exact ⟨rfl, rfl⟩
  · rw [List.append_nil]
    exact ⟨rfl, rfl⟩

theorem Resembles.displayName_eq_iff (h : form.Resembles form') :
    (Addition.functionCursor b scope level form').displayName =
        (Addition.functionCursor b scope level form).displayName ↔
      form'.written = form.written := by
  rw [(writes_functionCursor b scope level form).1, (writes_functionCursor b scope level form').1,
    h.name]
  simp

theorem Resembles.type_eq_iff (h : form.Resembles form') :
    (Addition.functionCursor b scope level form').type =
        (Addition.functionCursor b scope level form).type ↔
      form'.written = form.written := by
  rw [(writes_functionCursor b scope level form).2, (writes_functionCursor b scope level form').2,
    h.result?, h.isConst]
  simp

theorem Resembles.written_eq (h : form.Resembles form') (htypes : form'.types = form.types) :
    form'.written = form.written := by
  unfold written
  rw [htypes, h.isVariadic]

variable {before after : List (Option CType)} {long : CType}

theorem Resembles.length_written_lt (h : form.Resembles form') {short : CType}
    (hlt : short.spelling.length < long.spelling.length)
    (htypes : form.types = before ++ some long :: after)
    (htypes' : form'.types = before ++ some short :: after) :
    form'.written.length < form.written.length := by
  unfold written
  rw [htypes, htypes', h.isVariadic]
  simp only [List.map_append, List.map_cons, Option.map_some, Option.getD_some, List.append_assoc,
    List.cons_append]
  exact length_intercalate_lt ", " hlt _ _

theorem Resembles.length_written_lt_of_eq_nil (h : form.Resembles form')
    (hlong : 0 < long.spelling.length) (htypes : form.types = [some long])
    (htypes' : form'.types = []) : form'.written.length < form.written.length := by
  unfold written
  rw [htypes, htypes', h.isVariadic]
  split
  · simp only [List.map_cons, List.map_nil, List.nil_append, List.cons_append, Option.map_some,
      Option.getD_some, String.intercalate_cons_cons, String.intercalate_singleton,
      String.length_append]
    omega
  · simpa using hlong

end FunctionForm

/-- Function declarators that are read alike, apart from one parameter and from where they stand. -/
structure FunctionDeclarator.DiffersIn (function function' : FunctionDeclarator)
    (before : List Parameter) (parameter parameter' : Parameter) (after : List Parameter) : Prop where
  name : function'.name = function.name
  isVariadic : function'.isVariadic = function.isVariadic
  isConst : function'.isConst = function.isConst
  parameters : function.parameters = before ++ parameter :: after
  parameters' : ∃ before' after', function'.parameters = before' ++ parameter' :: after'
    ∧ before'.map (·.type) = before.map (·.type) ∧ after'.map (·.type) = after.map (·.type)

namespace Lowering

open Builder Declaration

theorem dropVoid_append_cons (before : List ResolvedParameter) (parameter : ResolvedParameter)
    (after : List ResolvedParameter) :
    dropVoid (before ++ parameter :: after) =
      if before = [] ∧ after = [] ∧ parameter.name.isEmpty ∧ parameter.type.any (·.kind == .void) then []
      else before ++ parameter :: after := by
  cases before with
  | nil =>
    cases after with
    | nil => simp [dropVoid]
    | cons next after => simp [dropVoid]
  | cons first before =>
    cases before with
    | nil => simp [dropVoid]
    | cons next before => simp [dropVoid]

def resolvedTypes (b : Builder) (scope : Scope) (parameters : List Parameter) : List (Option CType) :=
  parameters.map fun parameter => parameter.type.map fun use => b.typeOf use scope.semantic

theorem resolvedTypes_congr {parameters parameters' : List Parameter}
    (h : parameters'.map (·.type) = parameters.map (·.type)) (b : Builder) (scope : Scope) :
    resolvedTypes b scope parameters' = resolvedTypes b scope parameters := by
  have htypes := congrArg (List.map (Option.map fun use => b.typeOf use scope.semantic)) h
  rw [List.map_map, List.map_map] at htypes
  exact htypes

def IsLoneVoid (b : Builder) (scope : Scope) (before : List Parameter) (use : TypeUse)
    (after : List Parameter) : Prop :=
  before = [] ∧ after = [] ∧ (b.typeOf use scope.semantic).kind = .void

section

variable {function function' : FunctionDeclarator} {before after : List Parameter}
  {parameter parameter' : Parameter} {use use' : TypeUse}
variable (b : Builder) (scope : Scope) (template : List ResolvedParameter) (result? : Option CType)
  (isDefinition : Bool) (span span' : Span)

theorem types_of_isLoneVoid (h : function.parameters = before ++ parameter :: after)
    (huse : parameter.type = some use)
    (hvoid : IsLoneVoid b scope before use after) (hname : parameter.name = "") :
    (functionForm b scope template function result? isDefinition span).types = [] := by
  obtain ⟨hbefore, hafter, hkind⟩ := hvoid
  unfold FunctionForm.types functionForm resolveParameters
  dsimp only
  rw [h, hbefore, hafter]
  simp [dropVoid, huse, hname, hkind]

theorem types_of_not_isLoneVoid (h : function.parameters = before ++ parameter :: after)
    (huse : parameter.type = some use)
    (hvoid : IsLoneVoid b scope before use after → parameter.name ≠ "") :
    (functionForm b scope template function result? isDefinition span).types =
      resolvedTypes b scope before ++
        some (b.typeOf use scope.semantic) :: resolvedTypes b scope after := by
  unfold FunctionForm.types functionForm resolveParameters
  dsimp only
  rw [h, List.map_append, List.map_cons, dropVoid_append_cons, if_neg]
  · simp [resolvedTypes, huse, Function.comp_def]
  · simp only [List.map_eq_nil_iff, huse, Option.map_some, Option.any_some, beq_iff_eq,
      String.isEmpty_iff]
    rintro ⟨hbefore, hafter, hname, hkind⟩
    exact hvoid ⟨hbefore, hafter, hkind⟩ hname

theorem isLoneVoid_congr {before' after' : List Parameter}
    (hbefore : before'.map (·.type) = before.map (·.type))
    (hafter : after'.map (·.type) = after.map (·.type)) :
    IsLoneVoid b scope before' use after' ↔ IsLoneVoid b scope before use after := by
  have hnone : ∀ {first second : List Parameter},
      first.map (·.type) = second.map (·.type) → (first = [] ↔ second = []) := by
    intro first second h
    rw [← List.map_eq_nil_iff, h, List.map_eq_nil_iff]
  unfold IsLoneVoid
  rw [hnone hbefore, hnone hafter]

theorem types_unnamed (h : function.DiffersIn function' before parameter parameter' after)
    (huse : parameter'.type = some use) (hname : parameter'.name = "") :
    let form' := functionForm b scope template function' result? isDefinition span
    (IsLoneVoid b scope before use after → form'.types = [])
      ∧ (¬IsLoneVoid b scope before use after → form'.types =
        resolvedTypes b scope before ++
          some (b.typeOf use scope.semantic) :: resolvedTypes b scope after) := by
  obtain ⟨before', after', hparameters, hbefore, hafter⟩ := h.parameters'
  rw [← isLoneVoid_congr b scope hbefore hafter, ← resolvedTypes_congr hbefore,
    ← resolvedTypes_congr hafter]
  constructor
  · intro hvoid
    exact types_of_isLoneVoid b scope template result? isDefinition span hparameters huse hvoid hname
  · intro hvoid
    exact types_of_not_isLoneVoid b scope template result? isDefinition span hparameters huse
      fun h => absurd h hvoid

theorem resembles_functionForm (h : function.DiffersIn function' before parameter parameter' after) :
    (functionForm b scope template function result? isDefinition span).Resembles
      (functionForm b scope template function' result? isDefinition span') where
  name := h.name
  isVariadic := h.isVariadic
  isConst := h.isConst
  result? := rfl

theorem types_eq_of_type_eq (h : function.DiffersIn function' before parameter parameter' after)
    (huse : parameter.type = some use) (huse' : parameter'.type = some use)
    (hname' : parameter'.name = "")
    (hvoid : IsLoneVoid b scope before use after → parameter.name = "") :
    (functionForm b scope template function' result? isDefinition span').types =
      (functionForm b scope template function result? isDefinition span).types := by
  obtain ⟨hdropped, hkept⟩ := types_unnamed b scope template result? isDefinition span' h huse' hname'
  by_cases hnone : IsLoneVoid b scope before use after
  · rw [hdropped hnone, types_of_isLoneVoid b scope template result? isDefinition span h.parameters huse
      hnone (hvoid hnone)]
  · rw [hkept hnone, types_of_not_isLoneVoid b scope template result? isDefinition span h.parameters
      huse fun h => absurd h hnone]

theorem shrinks_of_length_lt (h : function.DiffersIn function' before parameter parameter' after)
    (huse : parameter.type = some use) (huse' : parameter'.type = some use')
    (hname' : parameter'.name = "")
    (hkind : (b.typeOf use scope.semantic).kind ≠ .void)
    (hlt : (b.typeOf use' scope.semantic).spelling.length
      < (b.typeOf use scope.semantic).spelling.length) :
    let form := functionForm b scope template function result? isDefinition span
    let form' := functionForm b scope template function' result? isDefinition span'
    form'.written.length < form.written.length
      ∧ (form'.types.length = form.types.length ↔ ¬IsLoneVoid b scope before use' after) := by
  intro form form'
  have hresembles : form.Resembles form' :=
    resembles_functionForm b scope template result? isDefinition span span' h
  have htypes : form.types = _ :=
    types_of_not_isLoneVoid b scope template result? isDefinition span h.parameters huse
      fun h => absurd h.2.2 hkind
  obtain ⟨hdropped, hkept⟩ := types_unnamed b scope template result? isDefinition span' h huse' hname'
  by_cases hnone : IsLoneVoid b scope before use' after
  · constructor
    · have hlone := hdropped hnone
      obtain ⟨rfl, rfl, -⟩ := hnone
      exact hresembles.length_written_lt_of_eq_nil (Nat.lt_of_le_of_lt (Nat.zero_le _) hlt) htypes hlone
    · simp [form', hdropped hnone, htypes, hnone]
  · constructor
    · exact hresembles.length_written_lt hlt htypes (hkept hnone)
    · simp [form', hkept hnone, htypes, hnone]

end

variable {source source' : Source} {named unnamed type declarator : ParseTree}
  {function function' : FunctionDeclarator} {before after : List Parameter}

/--
A parameter that loses its name loses what its declarator derives, too: its type is the one that the
specifiers write. So the function around it keeps its display name and its type only if there is nothing
but the name to lose. A single parameter is dropped if its specifiers write `void`, whatever is derived
from it.
-/
theorem functionForm_of_losesName (h : LosesName source source' named unnamed type declarator)
    (hfunction : function.DiffersIn function' before (namedParameter source named type declarator)
      (unnamedParameter source source' named unnamed type) after)
    (b : Builder) (scope : Scope) (level : Access) (template : List ResolvedParameter)
    (result? : Option CType) (isDefinition : Bool) (span span' : Span) :
    let written := typeUse source named type none
    let form := functionForm b scope template function result? isDefinition span
    let form' := functionForm b scope template function' result? isDefinition span'
    let cursor := Addition.functionCursor b scope level form
    let cursor' := Addition.functionCursor b scope level form'
    functionParameter? source named = some (namedParameter source named type declarator)
    ∧ functionParameter? source' unnamed = some (unnamedParameter source source' named unnamed type)
    ∧ (declarator.kind.isIdentifier →
      (IsLoneVoid b scope before written after → source.textOf (core declarator) = "") →
        form'.types = form.types ∧ cursor'.displayName = cursor.displayName ∧ cursor'.type = cursor.type)
    ∧ (declarator.kind.isIdentifier = false →
      b.typeOf (typeUse source named type (some declarator)) scope.semantic ≠
          b.typeOf written scope.semantic
        ∧ cursor'.displayName ≠ cursor.displayName ∧ cursor'.type ≠ cursor.type
        ∧ (form'.types.length = form.types.length ↔ ¬IsLoneVoid b scope before written after)) := by
  intro written form form' cursor cursor'
  have hresembles : form.Resembles form' :=
    resembles_functionForm b scope template result? isDefinition span span' hfunction
  refine ⟨h.functionParameter?_named, h.functionParameter?_unnamed, ?_, ?_⟩
  -- A bare identifier derives nothing, so leaving it out does not change the type.
  · intro hidentifier hname
    have huse : typeUse source named type (some declarator) = written := by
      simp [written, typeUse, h.unnames.derivations_eq_nil_iff.mpr hidentifier]
    have hsame : form'.types = form.types :=
      types_eq_of_type_eq b scope template result? isDefinition span span' hfunction
        (congrArg some huse) rfl rfl hname
    have hwritten := hresembles.written_eq hsame
    exact ⟨hsame, hresembles.displayName_eq_iff.mpr hwritten, hresembles.type_eq_iff.mpr hwritten⟩
  · intro hidentifier
    -- What another declarator derives makes the type longer, and with it the text of the
    -- parameters.
    have hderives : derivations source declarator ≠ [] := by
      rw [ne_eq, h.unnames.derivations_eq_nil_iff, hidentifier]
      simp
    obtain ⟨hlonger, hkind⟩ := (b.typeOf written scope.semantic).foldl_derive_spec hderives
    obtain ⟨hlt, hcount⟩ := shrinks_of_length_lt b scope template result? isDefinition span span'
      hfunction rfl rfl rfl hkind hlonger
    have hwritten : form'.written ≠ form.written := by
      intro heq
      exact Nat.ne_of_lt hlt (congrArg String.length heq)
    refine ⟨?_, ?_, ?_, hcount⟩
    · intro heq
      have hsame := congrArg (fun type => type.spelling.length) heq
      exact Nat.ne_of_gt hlonger hsame
    · rw [ne_eq, hresembles.displayName_eq_iff]
      exact hwritten
    · rw [ne_eq, hresembles.type_eq_iff]
      exact hwritten

def oneParameterDeclarator (stop : Nat) (parameter : ParseTree) : ParseTree :=
  .node { label := "function_declarator", field := some .declarator, span := ⟨5, stop + 1⟩ } [
    .node { label := "identifier", field := some .declarator, span := ⟨5, 6⟩ } [],
    .node { label := "parameter_list", field := some .parameters, span := ⟨6, stop + 1⟩ } [parameter]]

def oneParameterTree (stop : Nat) (parameter : ParseTree) : ParseTree :=
  .node { label := "translation_unit", span := ⟨0, stop + 2⟩ } [
    .node { label := "declaration", span := ⟨0, stop + 2⟩ } [
      .node { label := "primitive_type", field := some .type, span := ⟨0, 4⟩ } [],
      oneParameterDeclarator stop parameter]]

def namedPointerSource : Source where
  path := "a.cpp"
  text := "void f(void *p);"

def unnamedPointerSource : Source where
  path := "a.cpp"
  text := "void f(void *);"

def voidType : ParseTree :=
  .node { label := "primitive_type", field := some .type, span := ⟨7, 11⟩ } []

def pointerDeclarator : ParseTree :=
  .node { label := "pointer_declarator", field := some .declarator, span := ⟨12, 14⟩ } [
    .node { label := "identifier", field := some .declarator, span := ⟨13, 14⟩ } []]

def namedPointer : ParseTree :=
  .node { label := "parameter_declaration", span := ⟨7, 14⟩ } [voidType, pointerDeclarator]

def unnamedPointer : ParseTree :=
  .node { label := "parameter_declaration", span := ⟨7, 13⟩ } [
    voidType,
    .node { label := "abstract_pointer_declarator", field := some .declarator, span := ⟨12, 13⟩ } []]

theorem losesName_pointer : LosesName namedPointerSource unnamedPointerSource namedPointer
    unnamedPointer voidType pointerDeclarator where
  named_kind := rfl
  named_type := rfl
  named_declarator := rfl
  unnamed_kind := rfl
  unnamed_type := ⟨voidType, rfl, by decide +kernel⟩
  hasConst_eq := by decide +kernel
  unnames := .pointer rfl rfl rfl (.identifier rfl)

theorem differsIn_pointer :
    (functionDeclarator namedPointerSource (oneParameterDeclarator 14 namedPointer)).DiffersIn
      (functionDeclarator unnamedPointerSource (oneParameterDeclarator 13 unnamedPointer)) []
      (namedParameter namedPointerSource namedPointer voidType pointerDeclarator)
      (unnamedParameter namedPointerSource unnamedPointerSource namedPointer unnamedPointer voidType)
      [] where
  name := by decide +kernel
  isVariadic := by decide +kernel
  isConst := by decide +kernel
  parameters := by decide +kernel
  parameters' := ⟨[], [], by decide +kernel, rfl, rfl⟩

theorem functionForm_of_losesName_pointer :
    let function := functionDeclarator namedPointerSource (oneParameterDeclarator 14 namedPointer)
    let function' := functionDeclarator unnamedPointerSource (oneParameterDeclarator 13 unnamedPointer)
    let b := TranslationUnit.start namedPointerSource (oneParameterTree 14 namedPointer)
    let scope := Scope.inside Cursor.root
    let form := functionForm b scope [] function (some .void) false ⟨0, 16⟩
    let form' := functionForm b scope [] function' (some .void) false ⟨0, 15⟩
    pointerDeclarator.kind.isIdentifier = false
      ∧ (Addition.functionCursor b scope .noAccess form').displayName ≠
        (Addition.functionCursor b scope .noAccess form).displayName :=
  ⟨rfl, ((functionForm_of_losesName losesName_pointer differsIn_pointer _ _ _ _ _ _ _ _).2.2.2 rfl).2.1⟩

/-- A parameter `void *p` is dropped with its name, as if it were `void`. -/
theorem ofParseTree_pointer_ne_unnamed :
    let shown (unit : TranslationUnit) :=
      unit.cursors.map fun cursor => (cursor.kind, cursor.displayName, cursor.type.map (·.spelling))
    LosesName namedPointerSource unnamedPointerSource namedPointer unnamedPointer voidType
        pointerDeclarator
      ∧ shown (.ofParseTree namedPointerSource (oneParameterTree 14 namedPointer)) = #[
        (.translationUnit, "a.cpp", none), (.functionDecl, "f(void *)", some "void (void *)"),
        (.parmDecl, "p", some "void *")]
      ∧ shown (.ofParseTree unnamedPointerSource (oneParameterTree 13 unnamedPointer)) = #[
        (.translationUnit, "a.cpp", none), (.functionDecl, "f()", some "void ()")] := by
  refine ⟨losesName_pointer, ?_, ?_⟩
  · decide +kernel
  · decide +kernel

end Lowering
end CursorQuery
