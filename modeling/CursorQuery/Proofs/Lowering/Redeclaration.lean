import CursorQuery.Proofs.Lowering.Forms
import CursorQuery.Proofs.Lowering.OutOfLine
import CursorQuery.Proofs.Lowering.TypeReading

/-!
This module contains what the declaration of a function in a record and its definition after the record
have in common. The names in the parameters of both are looked up from where they stand. So what has to
be looked up in the record, or between the record and the definition, is found in the declaration only.
-/

namespace CursorQuery

theorem IsLatest.unique {candidate candidate' isDefinition isDefinition' : Nat → Prop}
    {answer? answer?' : Option Nat} (h : IsLatest candidate isDefinition answer?)
    (h' : IsLatest candidate' isDefinition' answer?') (hcandidate : ∀ id, candidate' id ↔ candidate id)
    (hdefinition : ∀ id, candidate id → (isDefinition' id ↔ isDefinition id)) : answer?' = answer? := by
  obtain rfl : candidate' = candidate := funext fun id => propext (hcandidate id)
  cases h with
  | @definition id hid hdefined latest =>
    cases h' with
    | @definition id' hid' hdefined' latest' =>
      have := latest id' hid' ((hdefinition id' hid').mp hdefined')
      have := latest' id hid ((hdefinition id hid).mpr hdefined)
      rw [Nat.le_antisymm ‹id' ≤ id› ‹id ≤ id'›]
    | declaration _ undefined => exact absurd ((hdefinition id hid).mpr hdefined) (undefined id hid)
    | none hnone => exact absurd hid (hnone id)
  | @declaration id hid undefined latest =>
    cases h' with
    | @definition id' hid' hdefined' _ =>
      exact absurd ((hdefinition id' hid').mp hdefined') (undefined id' hid')
    | @declaration id' hid' _ latest' =>
      rw [Nat.le_antisymm (latest id' hid') (latest' id hid)]
    | none hnone => exact absurd hid (hnone id)
  | none hnone =>
    cases h' with
    | definition hid' => exact absurd hid' (hnone _)
    | declaration hid' => exact absurd hid' (hnone _)
    | none => rfl

namespace TranslationUnit

section Occurs

variable {source : Source} {tree : ParseTree} {options : Options} {b b' : Builder} {use : TypeUse}
  {scope : Nat}

theorem lookup_eq_of_occurs {name : String} (hb : Occurs source tree options b)
    (hb' : Occurs source tree options b') (hle : b.nextId ≤ b'.nextId)
    (hbetween : ∀ id, b.nextId ≤ id → id < b'.nextId → (b'.cursor id).kind.isNameable →
      (b'.cursor id).qualifiedName ≠ name) : b'.names.lookup name = b.names.lookup name := by
  have hcursor : ∀ id, id < b.nextId → b'.cursor id = b.cursor id := by
    intro id hid
    rw [← (extends_of_occurs hb).cursor_eq id hid,
      ← (extends_of_occurs hb').cursor_eq id (Nat.lt_of_lt_of_le hid hle)]
  refine (namesLatest_of_occurs hb name).unique (namesLatest_of_occurs hb' name) ?_ ?_
  · intro id
    constructor
    · intro hid
      have hlt : id < b.nextId := by
        by_contra hnew
        exact hbetween id (Nat.le_of_not_lt hnew) hid.lt hid.kind hid.qualifiedName
      have := hcursor id hlt
      exact ⟨hlt, this ▸ hid.kind, this ▸ hid.spelled, hid.general, this ▸ hid.qualifiedName⟩
    · intro hid
      have := (hcursor id hid.lt).symm
      exact ⟨Nat.lt_of_lt_of_le hid.lt hle, this ▸ hid.kind, this ▸ hid.spelled, hid.general,
        this ▸ hid.qualifiedName⟩
  · intro id hid
    unfold Builder.IsDefinition
    rw [hcursor id hid.lt]

theorem typeOf_eq_readWith (hb : Occurs source tree options b) (hb' : Occurs source tree options b')
    (hle : b.nextId ≤ b'.nextId) (hscope : scope < b'.nextId)
    (hbetween : ∀ name ∈ use.base.name?, ∀ id, b.nextId ≤ id → id < b'.nextId →
      (b'.cursor id).kind.isNameable →
      (b'.cursor id).qualifiedName ∉
        Builder.searchKeys ((build source tree options).scopePrefix scope) name) :
    b'.typeOf use scope =
      b.readWith (b.search ((build source tree options).scopePrefix scope)) use := by
  have hprefix := (extends_of_occurs hb').scopePrefix_eq hscope
  rw [Builder.typeOf_eq_readUse, ← hprefix]
  have hsearch : ∀ name ∈ use.base.name?,
      b'.search ((build source tree options).scopePrefix scope) name =
        b.search ((build source tree options).scopePrefix scope) name := by
    intro name hname
    apply Builder.search_congr
    intro key hkey
    apply lookup_eq_of_occurs hb hb' hle
    rintro id hid hlt hkind rfl
    exact hbetween name hname id hid hlt hkind hkey
  have hread := Builder.readWith_congr hsearch (b := b')
  refine hread.trans (Builder.readUse_congr ?_ use)
  intro id hid
  obtain ⟨name, -, hfound⟩ := Option.bind_eq_some_iff.mp hid
  obtain ⟨key, -, hkey⟩ := List.exists_of_findSome?_eq_some hfound
  have hlt : id < b.nextId := (wellFormed_of_occurs hb).namesBounded _ (Builder.mem_names_of_lookup hkey)
  unfold Builder.introduced?
  rw [← (extends_of_occurs hb).cursor_eq id hlt,
    (extends_of_occurs hb').cursor_eq id (Nat.lt_of_lt_of_le hlt hle)]

theorem findsLonger_of_findIn {inner : List String} {outer around name : String}
    (hb : Occurs source tree options b) (hprefixes : innerPrefixes outer = inner ++ innerPrefixes around)
    (hfound : b.findIn inner name ≠ none)
    (hinside : ∀ id ∈ b.findIn inner name, b.introduced? id ≠ none) :
    b.FindsLonger name (b.search outer name) (b.search around name) := by
  obtain ⟨id, hid⟩ := Option.ne_none_iff_exists'.mp hfound
  obtain ⟨type, htype⟩ := Option.ne_none_iff_exists'.mp (hinside id hid)
  refine ⟨id, type, ?_, htype, length_typeFound_lt hb hprefixes hid htype⟩
  rw [Builder.search_eq_findIn_or hprefixes, hid, Option.some_or]

end Occurs

/-- The record has `v` as a member, and `w` has the same name and belongs to the record, but it is not
lowered inside of it. -/
structure Redeclares (unit : TranslationUnit) (owner v w : Fin unit.cursors.size) : Prop where
  mem_children : v ∈ unit.model.children owner
  isOutOfLine : unit.IsOutOfLine owner w
  spelling : (unit.cursor w).spelling = (unit.cursor v).spelling

section Redeclaration

variable {source : Source} {tree : ParseTree} {options : Options} {before : Builder} {scope : Scope}
  {v w owner around place : Fin (ofParseTree source tree options).cursors.size}

theorem semantic_eq_of_ownsChildrenOf {addition : Addition}
    (hmem : .add before scope addition ∈ trace source tree options) (hv : before.nextId = v)
    (haround : (ofParseTree source tree options).model.lexicalParent v = some around)
    (hplace : (ofParseTree source tree options).OwnsChildrenOf place around) :
    scope.semantic = place.val := by
  obtain ⟨hscope, -⟩ := (runs_build source tree options).of_mem_add hmem
  have hcursor : (ofParseTree source tree options).cursor around = before.cursor around := by
    apply cursor_ofParseTree_of_mem_trace hmem
    rw [hv]
    exact lexicalParent_lt haround
  rw [hscope.owner, ← (lexicalParent_of_mem_trace hmem hv haround).1]
  unfold Builder.ownerOf
  unfold OwnsChildrenOf at hplace
  rw [← hcursor]
  split at hplace
  · next hbody =>
    rw [if_pos hbody, lexicalParent_of_model hplace.1]
    rfl
  · next hbody =>
    rw [if_neg hbody, hplace]

theorem semantic_eq_of_mem_children {addition : Addition}
    (hmem : .add before scope addition ∈ trace source tree options) (hv : before.nextId = v)
    (hchild : v ∈ (ofParseTree source tree options).model.children owner)
    (hrecord : ((ofParseTree source tree options).cursor owner).kind.isRecord) :
    scope.semantic = owner.val := by
  apply semantic_eq_of_ownsChildrenOf hmem hv (mem_children_iff_lexicalParent.mp hchild)
  unfold OwnsChildrenOf
  rw [if_neg]
  intro hbody
  rw [hbody] at hrecord
  contradiction

theorem exists_form_of_loweredFromFunction {node : ParseTree}
    (h : LoweredFromFunction source tree options v node) :
    ∃ before scope level form, .add before scope (.function level form) ∈ trace source tree options
      ∧ before.nextId = v.val
      ∧ form.declarator = Declaration.functionDeclarator source node
      ∧ form.types = Lowering.typesOf (before.typeOf · scope.semantic)
        ((Declaration.functionDeclarator source node).parameters.map Parameter.content) := by
  obtain ⟨-, -, before, scope, level, template, result?, isDefinition, span, hmem, hv⟩ := h
  exact ⟨before, scope, level, _, hmem, hv, rfl, Lowering.types_functionForm ..⟩

theorem displayName_of_mem_trace {level : Access} {form : FunctionForm}
    (hmem : .add before scope (.function level form) ∈ trace source tree options)
    (hv : before.nextId = v) :
    ((ofParseTree source tree options).cursor v).displayName =
      ((ofParseTree source tree options).cursor v).spelling ++ "(" ++ form.written ++ ")" := by
  rw [cursor_of_mem_trace hmem hv]
  exact (FunctionForm.writes_functionCursor before scope level form).1

theorem not_isNameable_of_mem_trace {level : Access} {form : FunctionForm}
    (hmem : .add before scope (.function level form) ∈ trace source tree options)
    (hv : before.nextId = v) :
    ((ofParseTree source tree options).cursor v).kind.isNameable = false := by
  rw [cursor_of_mem_trace hmem hv]
  exact Addition.kind_placed_of_kinds CursorKind.isNameable rfl

theorem types_eq_of_between {b : Builder} {level level' : Access} {form form' : FunctionForm}
    {before' : Builder} {scope' : Scope} (hb : Occurs source tree options b) (hnext : b.nextId = v)
    (hmem : .add before scope (.function level form) ∈ trace source tree options)
    (hv : before.nextId = v)
    (hmem' : .add before' scope' (.function level' form') ∈ trace source tree options)
    (hw : before'.nextId = w) (hlt : v ≤ w) {function : FunctionDeclarator}
    (hbetween : ∀ id, v < id → id < w → ((ofParseTree source tree options).cursor id).kind.isNameable →
      ∀ name ∈ function.typeNames, ((ofParseTree source tree options).cursor id).qualifiedName ∉
        Builder.searchKeys ((build source tree options).scopePrefix scope'.semantic) name) :
    Lowering.typesOf (before'.typeOf · scope'.semantic) (function.parameters.map Parameter.content) =
      Lowering.typesOf
        (b.readWith (b.search ((build source tree options).scopePrefix scope'.semantic)))
        (function.parameters.map Parameter.content) := by
  apply Lowering.typesOf_congr
  intro content hcontent use huse
  have hoccurs : Occurs source tree options before' := .inr ⟨_, hmem', .inl rfl⟩
  have hsemantic := ((runs_build source tree options).of_mem_add hmem').1.semantic_lt
  refine typeOf_eq_readWith hb hoccurs (by rw [hnext, hw]; exact hlt) hsemantic ?_
  intro name hname id hle hid hkind
  have hid' : id < w := hw ▸ hid
  let x : Fin (ofParseTree source tree options).cursors.size := ⟨id, Nat.lt_trans hid' w.isLt⟩
  have hcursor : (ofParseTree source tree options).cursor x = before'.cursor id :=
    cursor_ofParseTree_of_mem_trace hmem' hid
  rw [hnext] at hle
  rw [← hcursor] at hkind ⊢
  cases Nat.eq_or_lt_of_le hle with
  | inl heq =>
    -- This is `v` itself, and functions are not looked up.
    obtain rfl : v = x := Fin.ext heq
    rw [not_isNameable_of_mem_trace hmem hv] at hkind
    contradiction
  | inr hless =>
    exact hbetween x hless hid' hkind name
      (FunctionDeclarator.mem_typeNames.mpr ⟨content, hcontent, use, huse, hname⟩)

/--
A function that is defined outside of its record has the same display name and the same types of its
parameters as in the record exactly if no name in these types is found in the record or in a scope
between the record and the definition. It is enough that whatever is declared in between is not found
from the definition, and that what is found further inside are types.
-/
theorem ofParseTree_redeclaration (source : Source) (tree : ParseTree) (options : Options) :
    let unit := ofParseTree source tree options
    let built := build source tree options
    ∀ owner v w, unit.Redeclares owner v w →
      ∀ node node', LoweredFromFunction source tree options v node →
        LoweredFromFunction source tree options w node' →
        Declaration.WritesParametersAlike source node node' →
      ∀ around place, unit.model.lexicalParent w = some around → unit.OwnsChildrenOf place around →
      let names := (Declaration.functionDeclarator source node).typeNames
      (∀ id, v < id → id < w → (unit.cursor id).kind.isNameable → ∀ name ∈ names,
        (unit.cursor id).qualifiedName ∉ Builder.searchKeys (built.scopePrefix place) name) →
      ∀ inner, innerPrefixes (built.scopePrefix owner) = inner ++ innerPrefixes (built.scopePrefix place) →
      ∀ b, Occurs source tree options b → b.nextId = v.val →
      (∀ name ∈ names, ∀ id ∈ b.findIn inner name, b.introduced? id ≠ none) →
      let isOutside := ∀ name ∈ names, b.findIn inner name = none
      ((unit.cursor w).displayName = (unit.cursor v).displayName ↔ isOutside)
        ∧ (unit.parameterTypes w = unit.parameterTypes v ↔ isOutside) := by
  intro unit built owner v w h node node' hnode hnode' halike around place haround hplace names hbetween
    inner hprefixes b hb hnext hinside isOutside
  obtain ⟨before, scope, level, form, hmem, hv, hdeclarator, htypes⟩ :=
    exists_form_of_loweredFromFunction hnode
  obtain ⟨before', scope', level', form', hmem', hw, hdeclarator', htypes'⟩ :=
    exists_form_of_loweredFromFunction hnode'
  obtain ⟨hcontent, hvariadic⟩ := halike.read_eq
  have hlt : v < w := children_lt_of_isOutOfLine h.isOutOfLine v h.mem_children
  rw [← hcontent] at htypes'
  -- The same texts are read twice: once from the record, and once from where the other function
  -- stands.
  have hread : form.types = Lowering.typesOf (b.readWith (b.search (built.scopePrefix owner)))
      ((Declaration.functionDeclarator source node).parameters.map Parameter.content) := by
    rw [htypes, types_eq_of_between hb hnext hmem hv hmem hv (le_refl v) (by omega),
      semantic_eq_of_mem_children hmem hv h.mem_children h.isOutOfLine.isRecord]
  have hread' : form'.types = Lowering.typesOf (b.readWith (b.search (built.scopePrefix place)))
      ((Declaration.functionDeclarator source node).parameters.map Parameter.content) := by
    have hsemantic := semantic_eq_of_ownsChildrenOf hmem' hw haround hplace
    rw [htypes', types_eq_of_between hb hnext hmem hv hmem' hw (le_of_lt hlt) (by rwa [hsemantic]),
      hsemantic]
  have hiff := FunctionForm.written_eq_iff Declaration.exists_base_of_mem_functionDeclarator
    (fun name => Builder.search_eq_findIn_or hprefixes name)
    (fun name hname hfound => findsLonger_of_findIn hb hprefixes hfound (hinside name hname))
    (by rw [hdeclarator, hdeclarator', hvariadic]) hread hread'
  have hdisplayName : (unit.cursor w).displayName = (unit.cursor v).displayName ↔
      form'.written = form.written := by
    rw [displayName_of_mem_trace hmem hv, displayName_of_mem_trace hmem' hw, h.spelling]
    simp [unit]
  rw [hdisplayName, parameterTypes_ofParseTree hmem hv, parameterTypes_ofParseTree hmem' hw]
  exact hiff

end Redeclaration

def addsDeclarator (function : FunctionDeclarator) (id : Nat) : Lowering.Action → Bool
  | .add b _ (.function _ form) => b.nextId == id && form.declarator == function
  | _ => false

theorem loweredFromFunction_of_any {source : Source} {tree node : ParseTree} {options : Options}
    {id : Nat} (hcontains : tree.Contains node) (hkind : node.kind = .functionDeclarator)
    (h : (trace source tree options).any
      (addsDeclarator (Declaration.functionDeclarator source node) id)) :
    LoweredFromFunction source tree options id node := by
  obtain ⟨action, hmem, haction⟩ := List.any_eq_true.mp h
  unfold addsDeclarator at haction
  split at haction
  · rw [Bool.and_eq_true, beq_iff_eq, beq_iff_eq] at haction
    obtain ⟨hid, hdeclarator⟩ := haction
    obtain ⟨⟨other, template, result?, isDefinition, span, -, -, rfl⟩, -⟩ :=
      formsIn_trace source tree options _ hmem
    have hother : Declaration.functionDeclarator source other =
        Declaration.functionDeclarator source node := hdeclarator
    rw [hother] at hmem
    exact ⟨hcontains, hkind, _, _, _, _, _, _, _, hmem, hid⟩
  · contradiction

/-- A structure with another one in it, and a function that takes the inner one. -/
def redeclaredSource : Source where
  path := "a.cpp"
  text := "struct R \x7b struct T \x7b\x7d; void f(T t); \x7d;\nvoid R::f(T t) \x7b\x7d"

def memberDeclarator : ParseTree :=
  .node { label := "function_declarator", field := some .declarator, span := ⟨29, 35⟩ } [
    .node { label := "field_identifier", field := some .declarator, span := ⟨29, 30⟩ } [],
    .node { label := "parameter_list", field := some .parameters, span := ⟨30, 35⟩ } [
      .node { label := "parameter_declaration", span := ⟨31, 34⟩ } [
        .node { label := "type_identifier", field := some .type, span := ⟨31, 32⟩ } [],
        .node { label := "identifier", field := some .declarator, span := ⟨33, 34⟩ } []]]]

def definitionDeclarator : ParseTree :=
  .node { label := "function_declarator", field := some .declarator, span := ⟨45, 54⟩ } [
    .node { label := "qualified_identifier", field := some .declarator, span := ⟨45, 49⟩ } [
      .node { label := "namespace_identifier", field := some .scope, span := ⟨45, 46⟩ } [],
      .node { label := "identifier", field := some .name, span := ⟨48, 49⟩ } []],
    .node { label := "parameter_list", field := some .parameters, span := ⟨49, 54⟩ } [
      .node { label := "parameter_declaration", span := ⟨50, 53⟩ } [
        .node { label := "type_identifier", field := some .type, span := ⟨50, 51⟩ } [],
        .node { label := "identifier", field := some .declarator, span := ⟨52, 53⟩ } []]]]

def redeclaredTree : ParseTree :=
  .node { label := "translation_unit", span := ⟨0, 57⟩ } [
    .node { label := "struct_specifier", span := ⟨0, 38⟩ } [
      .node { label := "type_identifier", field := some .name, span := ⟨7, 8⟩ } [],
      .node { label := "field_declaration_list", field := some .body, span := ⟨9, 38⟩ } [
        .node { label := "field_declaration", span := ⟨11, 23⟩ } [
          .node { label := "struct_specifier", field := some .type, span := ⟨11, 22⟩ } [
            .node { label := "type_identifier", field := some .name, span := ⟨18, 19⟩ } [],
            .node { label := "field_declaration_list", field := some .body, span := ⟨20, 22⟩ } []]],
        .node { label := "field_declaration", span := ⟨24, 36⟩ } [
          .node { label := "primitive_type", field := some .type, span := ⟨24, 28⟩ } [],
          memberDeclarator]]],
    .node { label := "function_definition", span := ⟨40, 57⟩ } [
      .node { label := "primitive_type", field := some .type, span := ⟨40, 44⟩ } [],
      definitionDeclarator,
      .node { label := "compound_statement", field := some .body, span := ⟨55, 57⟩ } []]]

theorem contains_memberDeclarator : redeclaredTree.Contains memberDeclarator :=
  .head (.head _) (.head (.tail _ (.head _)) (.head (.tail _ (.head _)) (.single (.tail _ (.head _)))))

theorem contains_definitionDeclarator : redeclaredTree.Contains definitionDeclarator :=
  .head (.tail _ (.head _)) (.single (.tail _ (.head _)))

theorem size_redeclared : (ofParseTree redeclaredSource redeclaredTree).cursors.size = 8 := by
  decide +kernel

def redeclaredCursor (id : Fin 8) : Fin (ofParseTree redeclaredSource redeclaredTree).cursors.size :=
  ⟨id, by rw [size_redeclared]; exact id.isLt⟩

theorem redeclared_cursors :
    let unit := ofParseTree redeclaredSource redeclaredTree
    let built := build redeclaredSource redeclaredTree {}
    let owner := redeclaredCursor 1
    let v := redeclaredCursor 3
    let w := redeclaredCursor 5
    (unit.model.semanticParent w = some owner ∧ (unit.cursor owner).kind.isRecord
      ∧ owner.val ∉ built.lexicalPath w)
    ∧ (v ∈ unit.model.children owner ∧ (unit.cursor w).spelling = (unit.cursor v).spelling)
    ∧ (∀ id, v < id → id < w → owner.val ∈ built.lexicalPath id
      ∧ (unit.cursor id).kind.isNameable = false)
    ∧ ((unit.cursor v).isDefinition = false ∧ (unit.cursor w).isDefinition = true)
    ∧ ((unit.cursor v).displayName = "f(R::T)" ∧ (unit.cursor w).displayName = "f(T)")
    ∧ (unit.parameterTypes v = [some { kind := .record, spelling := "R::T" }]
      ∧ unit.parameterTypes w = [some { kind := .unexposed, spelling := "T" }])
    ∧ (unit.model.lexicalParent w = some (redeclaredCursor 0)
      ∧ (unit.cursor (redeclaredCursor 0)).kind = .translationUnit)
    ∧ innerPrefixes (built.scopePrefix owner) =
      ["R"] ++ innerPrefixes (built.scopePrefix (redeclaredCursor 0)) := by
  decide +kernel

theorem redeclares_redeclared :
    (ofParseTree redeclaredSource redeclaredTree).Redeclares (redeclaredCursor 1) (redeclaredCursor 3)
      (redeclaredCursor 5) := by
  obtain ⟨⟨hparent, hrecord, hpath⟩, ⟨hmem, hspelling⟩, -⟩ := redeclared_cursors
  refine ⟨hmem, ⟨hparent, hrecord, ?_⟩, hspelling⟩
  rwa [mem_descendants_ofParseTree]

theorem loweredFromFunction_redeclared :
    LoweredFromFunction redeclaredSource redeclaredTree {} (redeclaredCursor 3) memberDeclarator
      ∧ LoweredFromFunction redeclaredSource redeclaredTree {} (redeclaredCursor 5)
        definitionDeclarator := by
  constructor
  · exact loweredFromFunction_of_any contains_memberDeclarator rfl (by decide +kernel)
  · exact loweredFromFunction_of_any contains_definitionDeclarator rfl (by decide +kernel)

theorem writesParametersAlike_redeclared :
    Declaration.WritesParametersAlike redeclaredSource memberDeclarator definitionDeclarator := by
  unfold Declaration.WritesParametersAlike memberDeclarator definitionDeclarator
  simp only [ParseTree.field?, ParseTree.info, ParseTree.children, Option.some_beq_some, beq_iff_eq,
    reduceCtorEq, not_false_eq_true, List.find?_cons_of_neg, BEq.rfl, List.find?_cons_of_pos,
    Option.map_some, ParseTree.written, ParseTree.nodeOf, Source.textOf, ParseTree.writtenForest,
    Option.some.injEq, Tree.node.injEq, WrittenNode.mk.injEq, true_and, List.cons.injEq, and_true]
  decide +kernel

theorem typeNames_redeclared :
    (Declaration.functionDeclarator redeclaredSource memberDeclarator).typeNames = ["T"] := by
  decide +kernel

theorem exists_occurs_redeclared :
    ∃ b, Occurs redeclaredSource redeclaredTree {} b ∧ b.nextId = 3 ∧ b.findIn ["R"] "T" = some 2
      ∧ b.introduced? 2 ≠ none := by
  have hany : (trace redeclaredSource redeclaredTree {}).any fun action =>
      action.before.nextId == 3 && action.before.findIn ["R"] "T" == some 2
        && (action.before.introduced? 2).isSome := by
    decide +kernel
  obtain ⟨action, hmem, haction⟩ := List.any_eq_true.mp hany
  rw [Bool.and_eq_true, Bool.and_eq_true, beq_iff_eq, beq_iff_eq, Option.isSome_iff_ne_none] at haction
  obtain ⟨⟨hnext, hfound⟩, hintroduced⟩ := haction
  exact ⟨action.before, .inr ⟨action, hmem, .inl rfl⟩, hnext, hfound, hintroduced⟩

theorem ofParseTree_redeclaration_nestedType :
    let unit := ofParseTree redeclaredSource redeclaredTree
    let v := redeclaredCursor 3
    let w := redeclaredCursor 5
    unit.Redeclares (redeclaredCursor 1) v w
    ∧ LoweredFromFunction redeclaredSource redeclaredTree {} v memberDeclarator
    ∧ LoweredFromFunction redeclaredSource redeclaredTree {} w definitionDeclarator
    ∧ Declaration.WritesParametersAlike redeclaredSource memberDeclarator definitionDeclarator
    ∧ ∃ b, Occurs redeclaredSource redeclaredTree {} b ∧ b.nextId = v.val ∧ b.introduced? 2 ≠ none
      ∧ ((unit.cursor w).displayName = (unit.cursor v).displayName ↔ b.findIn ["R"] "T" = none)
      ∧ (unit.parameterTypes w = unit.parameterTypes v ↔ b.findIn ["R"] "T" = none) := by
  intro unit v w
  obtain ⟨-, -, hbetween, -, -, -, ⟨hlexical, hroot⟩, hprefixes⟩ := redeclared_cursors
  obtain ⟨hnode, hnode'⟩ := loweredFromFunction_redeclared
  obtain ⟨b, hb, hnext, hfound, hintroduced⟩ := exists_occurs_redeclared
  have hplace : unit.OwnsChildrenOf (redeclaredCursor 0) (redeclaredCursor 0) := by
    unfold OwnsChildrenOf
    rw [if_neg (by rw [hroot]; decide)]
  have hnothing : ∀ id, v < id → id < w → (unit.cursor id).kind.isNameable → ∀ name ∈
      (Declaration.functionDeclarator redeclaredSource memberDeclarator).typeNames,
      (unit.cursor id).qualifiedName ∉ Builder.searchKeys
        ((build redeclaredSource redeclaredTree {}).scopePrefix (redeclaredCursor 0)) name := by
    intro id hv hw hkind
    rw [(hbetween id hv hw).2] at hkind
    contradiction
  have hinside : ∀ name ∈ (Declaration.functionDeclarator redeclaredSource memberDeclarator).typeNames,
      ∀ id ∈ b.findIn ["R"] name, b.introduced? id ≠ none := by
    rw [typeNames_redeclared, List.forall_mem_singleton, hfound]
    rintro id ⟨⟩
    exact hintroduced
  have hagree := ofParseTree_redeclaration redeclaredSource redeclaredTree {} _ v w
    redeclares_redeclared _ _ hnode hnode' writesParametersAlike_redeclared _ _ hlexical hplace hnothing
    ["R"] hprefixes b hb hnext hinside
  dsimp only at hagree
  rw [typeNames_redeclared, List.forall_mem_singleton] at hagree
  exact ⟨redeclares_redeclared, hnode, hnode', writesParametersAlike_redeclared, b, hb, hnext,
    hintroduced, hagree⟩

/-- The inner structure is found where the function is declared, but not where it is defined. -/
theorem redeclaration_nestedType_ne :
    ¬∀ owner v w, (ofParseTree redeclaredSource redeclaredTree).Redeclares owner v w →
      ((ofParseTree redeclaredSource redeclaredTree).cursor v).isDefinition = false →
      ((ofParseTree redeclaredSource redeclaredTree).cursor w).isDefinition = true →
      ∀ node node', LoweredFromFunction redeclaredSource redeclaredTree {} v node →
        LoweredFromFunction redeclaredSource redeclaredTree {} w node' →
        Declaration.WritesParametersAlike redeclaredSource node node' →
        (∀ id, v < id → id < w →
          id ∈ (ofParseTree redeclaredSource redeclaredTree).model.descendants owner) →
        ((ofParseTree redeclaredSource redeclaredTree).cursor w).displayName =
            ((ofParseTree redeclaredSource redeclaredTree).cursor v).displayName
          ∧ (ofParseTree redeclaredSource redeclaredTree).parameterTypes w =
            (ofParseTree redeclaredSource redeclaredTree).parameterTypes v := by
  intro h
  obtain ⟨-, -, hbetween, ⟨hdeclaration, hdefinition⟩, ⟨hdeclared, hdefined⟩, -⟩ := redeclared_cursors
  obtain ⟨hnode, hnode'⟩ := loweredFromFunction_redeclared
  have hinside : ∀ id, redeclaredCursor 3 < id → id < redeclaredCursor 5 →
      id ∈ (ofParseTree redeclaredSource redeclaredTree).model.descendants (redeclaredCursor 1) := by
    intro id hv hw
    exact mem_descendants_ofParseTree.mpr (hbetween id hv hw).1
  have hdisplayName := (h _ _ _ redeclares_redeclared hdeclaration hdefinition _ _ hnode hnode'
    writesParametersAlike_redeclared hinside).1
  rw [hdeclared, hdefined] at hdisplayName
  contradiction

end TranslationUnit
end CursorQuery
