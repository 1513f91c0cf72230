import CursorQuery.Proofs.Lowering.Access
import CursorQuery.Proofs.Lowering.NameTable

/-!
This module contains what a function belongs to if a scope is written in front of its name. Records,
enumerations, namespaces and aliases are entered into one table, where a definition makes way for every
later definition of whatever kind. So a record is hidden by an alias with the same qualified name that
comes after it.
-/

namespace CursorQuery

namespace Builder

variable {b : Builder} {specialized : Nat → Prop} {name : String} {id owner : Nat}

structure Defines (b : Builder) (specialized : Nat → Prop) (name : String) (id : Nat) : Prop
    extends b.GoesBy specialized name id where
  isDefinition : b.IsDefinition id

theorem NamesLatest.exists_latest (h : b.NamesLatest specialized) (hid : b.Defines specialized name id) :
    ∃ latest, b.names.lookup name = some latest ∧ b.Defines specialized name latest
      ∧ ∀ other, b.Defines specialized name other → other ≤ latest := by
  have hname := h name
  generalize b.names.lookup name = found? at hname
  cases hname with
  | @definition latest hlatest hdefinition hall =>
    exact ⟨latest, rfl, ⟨hlatest, hdefinition⟩,
      fun other hother => hall other hother.toGoesBy hother.isDefinition⟩
  | declaration _ undefined => exact absurd hid.isDefinition (undefined id hid.toGoesBy)
  | none hnone => exact absurd hid.toGoesBy (hnone id)

theorem isRecord_latest_iff (howner : b.Defines specialized name owner)
    (hlatest : ∀ other, b.Defines specialized name other → other ≤ owner) :
    (b.cursor owner).kind.isRecord ↔
      ∀ other, b.Defines specialized name other → ¬(b.cursor other).kind.isRecord →
        ∃ later, other < later ∧ b.Defines specialized name later
          ∧ (b.cursor later).kind.isRecord := by
  constructor
  · intro hrecord other hother hkind
    refine ⟨owner, Nat.lt_of_le_of_ne (hlatest other hother) ?_, howner, hrecord⟩
    rintro rfl
    exact hkind hrecord
  · intro h
    by_contra hkind
    obtain ⟨later, hlater, hdefines, -⟩ := h owner howner hkind
    exact absurd (hlatest later hdefines) (Nat.not_le_of_lt hlater)

theorem resolve_eq_lookup {scope : Nat} {innermost : String} {earlier later : List String}
    (hname : ¬"::".toList <+: name.toList)
    (hprefixes : enclosingPrefixes (b.scopePrefix scope) = earlier ++ innermost :: later)
    (hearlier : ∀ outer ∈ earlier, b.names.lookup (qualifiedIn outer name) = none)
    (hlookup : b.names.lookup (qualifiedIn innermost name) = some id) :
    b.resolve name scope = some id := by
  -- The search ends at the innermost scope in which the name has a meaning.
  unfold resolve
  rw [if_neg (by simpa using hname), hprefixes, List.findSome?_append,
    List.findSome?_eq_none_iff.mpr hearlier, Option.none_or, List.findSome?_cons, hlookup]

end Builder

namespace Addition

variable {b : Builder}

theorem functionKind_eq_functionDecl_iff (template : List ResolvedParameter) (semantic : Nat)
    (name : String) :
    functionKind b template semantic name = .functionDecl ↔
      template = [] ∧ ¬(b.cursor semantic).kind.isRecord := by
  unfold functionKind
  cases template with
  | cons parameter template => simp
  | nil =>
    dsimp only [List.isEmpty_nil, Bool.not_true]
    rw [if_neg (by simp)]
    split
    · simp_all
    · repeat' split
      all_goals simp_all

end Addition

namespace TranslationUnit

open Lowering

variable {source : Source} {tree : ParseTree} {options : Options}

/--
A function with written scopes belongs to the latest definition of what they name, in the innermost
scope in which they name anything. If a record is defined there, this is a record exactly if every other
definition by the same name is followed by a record. Otherwise the function is no member.
-/
theorem ofParseTree_semanticParent_hidden (source : Source) (tree : ParseTree) (options : Options) :
    let unit := ofParseTree source tree options
    ∀ before scope level form, .add before scope (.function level form) ∈ trace source tree options →
      ∀ v : Fin unit.cursors.size, before.nextId = v.val →
      form.declarator.name.scopes ≠ [] →
      let written := Text.joinScoped form.declarator.name.scopes
      let Defines := before.Defines (SpecializesRecord source tree options)
      ¬"::".toList <+: written.toList →
      ∀ earlier innermost later,
        enclosingPrefixes (before.scopePrefix scope.semantic) = earlier ++ innermost :: later →
        (∀ outer ∈ earlier, before.names.lookup (qualifiedIn outer written) = none) →
      ∀ record, Defines (qualifiedIn innermost written) record →
        (before.cursor record).kind.isRecord →
        ∃ owner, unit.model.semanticParent v = some owner ∧ record ≤ owner.val
          ∧ (unit.cursor owner).qualifiedName = qualifiedIn innermost written
          ∧ ((unit.cursor owner).kind.isRecord ↔
            ∀ other, Defines (qualifiedIn innermost written) other →
              ¬(before.cursor other).kind.isRecord → ∃ later, other < later
                ∧ Defines (qualifiedIn innermost written) later ∧ (before.cursor later).kind.isRecord)
          ∧ ((unit.cursor v).kind = .functionDecl ↔
            form.template = [] ∧ ¬(unit.cursor owner).kind.isRecord) := by
  intro unit before scope level form hmem v hv hscopes written Defines hname earlier innermost later
    hprefixes hearlier record hrecord hkind
  have hnames : before.NamesLatest _ := namesLatest_of_occurs (.inr ⟨_, hmem, .inl rfl⟩)
  obtain ⟨latest, hlookup, hlatest, hall⟩ := hnames.exists_latest hrecord
  have hresolve : before.resolveScope form.declarator.name.scopes scope = latest := by
    unfold Builder.resolveScope
    rw [if_neg (by simpa using hscopes),
      Builder.resolve_eq_lookup hname hprefixes hearlier hlookup]
    rfl
  have hlt : latest < v := by
    rw [← hv]
    exact hlatest.lt
  have hparent : unit.model.semanticParent v = some ⟨latest, Nat.lt_trans hlt v.isLt⟩ := by
    apply semanticParent_ofParseTree ?_ hlt
    rw [← cursor_ofParseTree, cursor_of_mem_trace hmem hv, ← hresolve]
    rfl
  have howner : unit.cursor ⟨latest, Nat.lt_trans hlt v.isLt⟩ = before.cursor latest :=
    cursor_ofParseTree_of_mem_trace hmem hlatest.lt
  refine ⟨_, hparent, hall record hrecord, ?_, ?_, ?_⟩
  · rw [howner]
    exact hlatest.qualifiedName
  · rw [howner]
    exact Builder.isRecord_latest_iff hlatest hall
  · rw [howner, ← hresolve, cursor_of_mem_trace hmem hv]
    exact Addition.functionKind_eq_functionDecl_iff ..

/-- A program with a structure that has an alias of the same name. -/
def hiddenSource : Source where
  path := "a.cpp"
  text := "typedef struct X \x7b void f(); \x7d X;\nvoid X::f() \x7b\x7d"

def hiddenTree : ParseTree :=
  .node { label := "translation_unit", span := ⟨0, 48⟩ } [
    .node { label := "type_definition", span := ⟨0, 33⟩ } [
      .node { label := "struct_specifier", field := some .type, span := ⟨8, 30⟩ } [
        .node { label := "type_identifier", field := some .name, span := ⟨15, 16⟩ } [],
        .node { label := "field_declaration_list", field := some .body, span := ⟨17, 30⟩ } [
          .node { label := "field_declaration", span := ⟨19, 28⟩ } [
            .node { label := "primitive_type", field := some .type, span := ⟨19, 23⟩ } [],
            .node { label := "function_declarator", field := some .declarator, span := ⟨24, 27⟩ } [
              .node { label := "field_identifier", field := some .declarator, span := ⟨24, 25⟩ } [],
              .node { label := "parameter_list", field := some .parameters, span := ⟨25, 27⟩ } []]]]],
      .node { label := "type_identifier", field := some .declarator, span := ⟨31, 32⟩ } []],
    .node { label := "function_definition", span := ⟨34, 48⟩ } [
      .node { label := "primitive_type", field := some .type, span := ⟨34, 38⟩ } [],
      .node { label := "function_declarator", field := some .declarator, span := ⟨39, 45⟩ } [
        .node { label := "qualified_identifier", field := some .declarator, span := ⟨39, 43⟩ } [
          .node { label := "namespace_identifier", field := some .scope, span := ⟨39, 40⟩ } [],
          .node { label := "identifier", field := some .name, span := ⟨42, 43⟩ } []],
        .node { label := "parameter_list", field := some .parameters, span := ⟨43, 45⟩ } []],
      .node { label := "compound_statement", field := some .body, span := ⟨46, 48⟩ } []]]

def addsHidden : Action → Bool
  | .add before scope (.function _ form) =>
    before.nextId == 4 && form.declarator.name.scopes == ["X"]
      && before.scopePrefix scope.semantic == "" && (before.cursor 1).kind.isRecord
      && (before.cursor 1).spelling == "X" && (before.cursor 1).qualifiedName == "X"
      && (before.cursor 1).isDefinition
  | _ => false

def addsRegistered : Action → Bool
  | .add before _ addition => before.nextId == 1 && addition.isRegistered
  | _ => false

theorem not_specializesRecord_hidden : ¬SpecializesRecord hiddenSource hiddenTree {} 1 := by
  have hadded : (trace hiddenSource hiddenTree {}).any addsRegistered := by decide +kernel
  obtain ⟨action, hmem, haction⟩ := List.any_eq_true.mp hadded
  unfold addsRegistered at haction
  split at haction
  · rw [Bool.and_eq_true, beq_iff_eq] at haction
    rw [← haction.1]
    exact ((isRegistered_iff_of_mem_trace hmem).mp haction.2).2
  · contradiction

theorem exists_hidden : ∃ before scope level form,
    .add before scope (.function level form) ∈ trace hiddenSource hiddenTree {}
      ∧ before.nextId = 4 ∧ form.declarator.name.scopes ≠ []
      ∧ Text.joinScoped form.declarator.name.scopes = "X"
      ∧ enclosingPrefixes (before.scopePrefix scope.semantic) = [] ++ "" :: [""]
      ∧ before.Defines (SpecializesRecord hiddenSource hiddenTree {}) "X" 1
      ∧ (before.cursor 1).kind.isRecord := by
  have hadded : (trace hiddenSource hiddenTree {}).any addsHidden := by decide +kernel
  obtain ⟨action, hmem, haction⟩ := List.any_eq_true.mp hadded
  unfold addsHidden at haction
  split at haction
  · next before scope level form =>
    simp only [Bool.and_eq_true, beq_iff_eq] at haction
    obtain ⟨⟨⟨⟨⟨⟨hid, hscopes⟩, hprefix⟩, hrecord⟩, hspelling⟩, hname⟩, hdefinition⟩ := haction
    refine ⟨before, scope, level, form, hmem, hid, ?_⟩
    rw [hscopes, hprefix]
    refine ⟨by simp, rfl, rfl, ⟨?_, hdefinition⟩, hrecord⟩
    refine ⟨by omega, ?_, ?_, not_specializesRecord_hidden, hname⟩
    · simp [CursorKind.isNameable, hrecord]
    · simp [hspelling]
  · contradiction

theorem size_hidden : (ofParseTree hiddenSource hiddenTree).cursors.size = 6 := by
  decide +kernel

def hiddenCursor (id : Fin 6) : Fin (ofParseTree hiddenSource hiddenTree).cursors.size :=
  ⟨id, by rw [size_hidden]; exact id.isLt⟩

theorem semanticParent_hiddenCursor :
    let unit := ofParseTree hiddenSource hiddenTree
    unit.model.semanticParent (hiddenCursor 4) = some (hiddenCursor 3)
      ∧ (unit.cursor (hiddenCursor 3)).kind = .typedefDecl := by
  decide +kernel

theorem ofParseTree_semanticParent_hidden_alias :
    ∃ before scope level form, .add before scope (.function level form) ∈ trace hiddenSource hiddenTree {}
      ∧ before.Defines (SpecializesRecord hiddenSource hiddenTree {}) "X" 1
      ∧ ∃ owner, (ofParseTree hiddenSource hiddenTree).model.semanticParent (hiddenCursor 4) = some owner
        ∧ 1 ≤ owner.val ∧ ((ofParseTree hiddenSource hiddenTree).cursor owner).qualifiedName = "X" := by
  obtain ⟨before, scope, level, form, hmem, hid, hscopes, hname, hprefixes, hdefines, hrecord⟩ :=
    exists_hidden
  have h := ofParseTree_semanticParent_hidden hiddenSource hiddenTree {} before scope level form hmem
    (hiddenCursor 4) hid hscopes
  rw [hname] at h
  obtain ⟨owner, hparent, hle, hqualified, -⟩ := h (by decide) [] "" [""] hprefixes (by simp) 1 hdefines
    hrecord
  exact ⟨before, scope, level, form, hmem, hdefines, owner, hparent, hle, hqualified⟩

/-- The function that is defined belongs to the alias, although its scope is the name of a record. -/
theorem semanticParent_hidden_not_isRecord :
    let unit := ofParseTree hiddenSource hiddenTree
    ¬∀ before scope level form,
      .add before scope (.function level form) ∈ trace hiddenSource hiddenTree {} →
      ∀ v : Fin unit.cursors.size, before.nextId = v.val → form.declarator.name.scopes ≠ [] →
      let written := Text.joinScoped form.declarator.name.scopes
      ∀ earlier innermost later,
        enclosingPrefixes (before.scopePrefix scope.semantic) = earlier ++ innermost :: later →
        (∀ outer ∈ earlier, before.names.lookup (qualifiedIn outer written) = none) →
      ∀ record, before.Defines (SpecializesRecord hiddenSource hiddenTree {})
          (qualifiedIn innermost written) record → (before.cursor record).kind.isRecord →
        ∃ owner, unit.model.semanticParent v = some owner
          ∧ (unit.cursor owner).qualifiedName = qualifiedIn innermost written
          ∧ (unit.cursor owner).kind.isRecord := by
  intro unit h
  obtain ⟨before, scope, level, form, hmem, hid, hscopes, hname, hprefixes, hdefines, hrecord⟩ :=
    exists_hidden
  replace h := h before scope level form hmem (hiddenCursor 4) hid hscopes
  rw [hname] at h
  obtain ⟨owner, hparent, -, howner⟩ := h [] "" [""] hprefixes (by simp) 1 hdefines hrecord
  obtain ⟨hparent', hkind⟩ := semanticParent_hiddenCursor
  rw [hparent'] at hparent
  obtain rfl := Option.some.inj hparent
  rw [hkind] at howner
  contradiction

end TranslationUnit
end CursorQuery
