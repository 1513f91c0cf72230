import CursorQuery.Proofs.Lowering.Origin
import CursorQuery.Proofs.Text.Split
import Mathlib.Data.List.Basic

/-!
This module contains the two ways in which qualified names are read. The name of a record or an
enumeration is cut up as a text, the name of a declarator is read along the nodes of the parse tree. The
two agree as long as there are no template arguments in the scopes and no `::` in the name at the end.
-/

namespace CursorQuery
namespace Declaration

open ParseTree Character Text

/-- A qualified name: a scope, unless the name starts with `::`, and a name, with nothing but white space
around the `::` between them. -/
structure IsJoined (source : Source) (tree inner : ParseTree) : Prop where
  kind : tree.kind = .qualifiedIdentifier
  name : tree.field? .name = some inner
  scope : ∀ scope ∈ tree.field? .scope, (source.textOf scope).toList.getLast? ≠ some ':'
  text : ∃ before after : String, (∀ c ∈ before.toList, isBlank c) ∧ (∀ c ∈ after.toList, isBlank c)
    ∧ source.textOf tree = (((tree.field? .scope).map source.textOf).getD "" ++ before) ++ "::" ++
      (after ++ source.textOf inner)

/-- The scopes of a qualified name, outermost first, and the name that they qualify. -/
inductive Qualifies (source : Source) : ParseTree → List ParseTree → ParseTree → Prop where
  | name {tree name : ParseTree} (hjoined : IsJoined source tree name)
      (hkind : name.kind ≠ .qualifiedIdentifier) :
      Qualifies source tree (tree.field? .scope).toList name
  | scope {tree inner last : ParseTree} {scopes : List ParseTree}
      (hjoined : IsJoined source tree inner) (hinner : Qualifies source inner scopes last) :
      Qualifies source tree ((tree.field? .scope).toList ++ scopes) last

variable {source : Source} {tree name last : ParseTree} {scopes : List ParseTree}

def partsOf (source : Source) (tree : ParseTree) : List String :=
  scopedParts (source.textOf tree)

theorem IsJoined.partsOf_eq (h : IsJoined source tree name) :
    partsOf source tree =
      (tree.field? .scope).toList.flatMap (partsOf source) ++ partsOf source name := by
  obtain ⟨before, after, hbefore, hafter, htext⟩ := h.text
  have hscope : scopedParts (((tree.field? .scope).map source.textOf).getD "") =
        (tree.field? .scope).toList.flatMap (partsOf source)
      ∧ (((tree.field? .scope).map source.textOf).getD "").toList.getLast? ≠ some ':' := by
    cases hscope : tree.field? .scope with
    | none => exact ⟨rfl, by simp⟩
    | some scope => exact ⟨by simp [partsOf], h.scope scope hscope⟩
  have hlast : (((tree.field? .scope).map source.textOf).getD "" ++ before).toList.getLast? ≠
      some ':' := by
    rw [String.toList_append, List.getLast?_append]
    cases hgap : before.toList.getLast? with
    | none => exact hscope.2
    | some c =>
      intro hc
      exact ne_colon_of_isBlank (hbefore c (List.mem_of_getLast? hgap)) (Option.some.inj hc)
  unfold partsOf at hscope ⊢
  rw [htext, scopedParts_append_colons hlast, scopedParts_append_blank hbefore,
    scopedParts_blank_append hafter, hscope.1]

theorem Qualifies.partsOf_eq (h : Qualifies source tree scopes last) :
    partsOf source tree = scopes.flatMap (partsOf source) ++ partsOf source last := by
  induction h with
  | name hjoined => exact hjoined.partsOf_eq
  | scope hjoined _ ih => rw [hjoined.partsOf_eq, ih, List.flatMap_append, List.append_assoc]

theorem Qualifies.kind (h : Qualifies source tree scopes last) : tree.kind = .qualifiedIdentifier := by
  cases h with
  | name hjoined | scope hjoined => exact hjoined.kind

theorem Qualifies.qualifiedName_eq (h : Qualifies source tree scopes last) :
    qualifiedName source tree =
      { scopes := scopes.flatMap fun scope => scopesOf source (some scope)
        name := simpleName source last } := by
  have hscopes : ∀ scope? : Option ParseTree, scopesOf source scope? =
      scope?.toList.flatMap fun scope => scopesOf source (some scope) := by
    intro scope?
    cases scope? with
    | none => rfl
    | some scope => simp
  induction h with
  | name hjoined hkind =>
    rw [qualifiedName, hjoined.name, hscopes]
    simp [hkind]
  | scope hjoined hinner ih =>
    rw [qualifiedName, hjoined.name, hscopes]
    simp [hinner.kind, ih]

theorem Qualifies.declaratorName_eq (h : Qualifies source tree scopes last) :
    declaratorName source tree =
      { scopes := scopes.flatMap fun scope => scopesOf source (some scope)
        name := simpleName source last } := by
  unfold declaratorName
  rw [h.kind]
  exact h.qualifiedName_eq

theorem Qualifies.tagName_eq (h : Qualifies source tree scopes last) :
    tagName source (some tree) =
      { scopes := (scopes.flatMap (partsOf source) ++ partsOf source last).dropLast
        name := (scopes.flatMap (partsOf source) ++ partsOf source last).getLast?.getD "" } := by
  rw [← h.partsOf_eq]
  unfold tagName
  simp only [h.kind]
  rfl

def HasBareScopes (source : Source) (scopes : List ParseTree) : Prop :=
  ∀ scope ∈ scopes, '<' ∉ (source.textOf scope).toList

theorem scopesOf_of_bare (h : '<' ∉ (source.textOf tree).toList) :
    scopesOf source (some tree) = partsOf source tree := by
  have hall : (source.textOf tree).toList.takeWhile (· != '<') = (source.textOf tree).toList := by
    rw [List.takeWhile_eq_self_iff]
    rintro c hc
    simp only [bne_iff_ne]
    rintro rfl
    exact h hc
  unfold scopesOf partsOf
  dsimp only
  rw [hall, String.ofList_toList]

theorem flatMap_scopesOf (h : HasBareScopes source scopes) :
    (scopes.flatMap fun scope => scopesOf source (some scope)) = scopes.flatMap (partsOf source) :=
  List.flatMap_congr fun scope hscope => scopesOf_of_bare (h scope hscope)

theorem not_mem_scopesOf (source : Source) (tree : ParseTree) :
    ∀ part ∈ scopesOf source (some tree), '<' ∉ part.toList := by
  intro part hpart hmem
  have htext := (exists_mem_scopedParts (by decide) (by decide) _).mp ⟨part, hpart, hmem⟩
  rw [String.toList_ofList] at htext
  have := List.mem_takeWhile_imp htext
  simp at this

theorem hasBareScopes_of_eq (hlast : partsOf source last ≠ [])
    (h : (scopes.flatMap (partsOf source) ++ partsOf source last).dropLast =
      scopes.flatMap fun scope => scopesOf source (some scope)) :
    HasBareScopes source scopes ∧ (partsOf source last).length = 1 := by
  rw [List.dropLast_append_of_ne_nil hlast] at h
  have hbare : HasBareScopes source scopes := by
    intro scope hscope hmem
    obtain ⟨part, hpart, hmem⟩ := (exists_mem_scopedParts (by decide) (by decide) _).mpr hmem
    have hall : part ∈ scopes.flatMap (partsOf source) ++ (partsOf source last).dropLast :=
      List.mem_append_left _ (List.mem_flatMap.mpr ⟨scope, hscope, hpart⟩)
    rw [h] at hall
    obtain ⟨scope', -, hpart'⟩ := List.mem_flatMap.mp hall
    exact not_mem_scopesOf source scope' part hpart' hmem
  rw [flatMap_scopesOf hbare, List.append_right_eq_self] at h
  have hlength := congrArg List.length h
  have hpos := List.length_pos_iff.mpr hlast
  rw [List.length_dropLast, List.length_nil] at hlength
  exact ⟨hbare, by omega⟩

theorem Qualifies.scopes_eq_iff (h : Qualifies source tree scopes last)
    (hlast : partsOf source last ≠ []) :
    (tagName source (some tree)).scopes = (declaratorName source tree).scopes ↔
      HasBareScopes source scopes ∧ (partsOf source last).length = 1 := by
  rw [h.tagName_eq, h.declaratorName_eq]
  constructor
  · exact hasBareScopes_of_eq hlast
  · rintro ⟨hbare, hlength⟩
    obtain ⟨part, hpart⟩ := List.length_eq_one_iff.mp hlength
    dsimp only
    rw [flatMap_scopesOf hbare, hpart, List.dropLast_concat]

theorem Qualifies.name_eq_iff (h : Qualifies source tree scopes last)
    (hlast : partsOf source last ≠ []) :
    tagName source (some tree) = declaratorName source tree ↔
      HasBareScopes source scopes ∧ partsOf source last = [simpleName source last] := by
  constructor
  · intro heq
    obtain ⟨hbare, hlength⟩ := (h.scopes_eq_iff hlast).mp (congrArg ScopedName.scopes heq)
    obtain ⟨part, hpart⟩ := List.length_eq_one_iff.mp hlength
    have hname := congrArg ScopedName.name heq
    rw [h.tagName_eq, h.declaratorName_eq, hpart] at hname
    rw [List.getLast?_concat] at hname
    have hsimple : part = simpleName source last := hname
    exact ⟨hbare, by rw [hpart, hsimple]⟩
  · rintro ⟨hbare, hpart⟩
    rw [h.tagName_eq, h.declaratorName_eq, flatMap_scopesOf hbare, hpart, List.dropLast_concat,
      List.getLast?_concat]
    rfl

theorem Qualifies.declaratorName_scopes_congr {tree' last' : ParseTree} {scopes' : List ParseTree}
    (h : Qualifies source tree scopes last) (h' : Qualifies source tree' scopes' last')
    (htexts : scopes'.map source.textOf = scopes.map source.textOf) :
    (declaratorName source tree').scopes = (declaratorName source tree).scopes := by
  have hparts : ∀ trees : List ParseTree,
      (trees.flatMap fun scope => scopesOf source (some scope)) =
        (trees.map source.textOf).flatMap fun text =>
          scopedParts (String.ofList (text.toList.takeWhile (· != '<'))) := by
    intro trees
    rw [List.flatMap_map]
    rfl
  rw [h.declaratorName_eq, h'.declaratorName_eq]
  dsimp only
  rw [hparts, hparts, htexts]

/--
The two ways of reading a qualified name agree exactly if there are no template arguments in its scopes
and the name at the end is a single part of the text. Then what is declared by it and what is declared
by the name of a declarator with the same scopes get the same semantic parent.
-/
theorem tagName_eq_declaratorName_iff (source : Source) {tree last : ParseTree}
    {scopes : List ParseTree} (h : Qualifies source tree scopes last)
    (hlast : partsOf source last ≠ []) :
    (tagName source (some tree) = declaratorName source tree ↔
      HasBareScopes source scopes ∧ partsOf source last = [simpleName source last])
    ∧ ((tagName source (some tree)).scopes = (declaratorName source tree).scopes ↔
      HasBareScopes source scopes ∧ (partsOf source last).length = 1)
    ∧ ∀ tree' scopes' last', Qualifies source tree' scopes' last' →
      scopes'.map source.textOf = scopes.map source.textOf →
      HasBareScopes source scopes → (partsOf source last).length = 1 →
      ∀ tag member : Addition, tag.scopes = (tagName source (some tree)).scopes →
        member.scopes = (declaratorName source tree').scopes →
        ∀ b scope, (tag.placed b scope).semanticParent = (member.placed b scope).semanticParent := by
  refine ⟨h.name_eq_iff hlast, h.scopes_eq_iff hlast, ?_⟩
  intro tree' scopes' last' h' htexts hbare hlength tag member htag hmember b scope
  have hscopes : tag.scopes = member.scopes := by
    rw [htag, hmember, h.declaratorName_scopes_congr h' htexts]
    exact (h.scopes_eq_iff hlast).mpr ⟨hbare, hlength⟩
  unfold Addition.placed
  dsimp only
  rw [hscopes]

/-- A record and a function in the scope of the same record, with white space in one of the names. -/
def plainSource : Source where
  path := "a.cpp"
  text := "struct A::B \x7b \x7d; void A :: f() \x7b\x7d"

def plainLast (start : Nat) : ParseTree :=
  .node { label := "identifier", field := some .name, span := ⟨start, start + 1⟩ } []

def plainScope (start : Nat) : ParseTree :=
  .node { label := "namespace_identifier", field := some .scope, span := ⟨start, start + 1⟩ } []

def plainName (start last : Nat) : ParseTree :=
  .node { label := "qualified_identifier", span := ⟨start, last + 1⟩ } [
    plainScope start, plainLast last]

theorem qualifies_plainName :
    Qualifies plainSource (plainName 7 10) [plainScope 7] (plainLast 10)
      ∧ Qualifies plainSource (plainName 22 27) [plainScope 22] (plainLast 27) := by
  have hblank : ∀ c ∈ " ".toList, isBlank c := List.forall_mem_singleton.mpr rfl
  constructor
  · refine .name ⟨by decide, rfl, ?_, "", "", by simp, by simp, by decide⟩ (by decide)
    rintro _ ⟨⟩
    decide
  · refine .name ⟨by decide, rfl, ?_, " ", " ", hblank, hblank, by decide⟩ (by decide)
    rintro _ ⟨⟩
    decide

theorem tagName_eq_declaratorName_plainName :
    tagName plainSource (some (plainName 7 10)) = declaratorName plainSource (plainName 7 10)
      ∧ ∀ tag member : Addition,
        tag.scopes = (tagName plainSource (some (plainName 7 10))).scopes →
        member.scopes = (declaratorName plainSource (plainName 22 27)).scopes →
        ∀ b scope, (tag.placed b scope).semanticParent = (member.placed b scope).semanticParent := by
  obtain ⟨htag, hmember⟩ := qualifies_plainName
  have hbare : HasBareScopes plainSource [plainScope 7] := by
    rw [HasBareScopes, List.forall_mem_singleton]
    decide
  obtain ⟨hname, -, hparent⟩ := tagName_eq_declaratorName_iff plainSource htag (by decide)
  exact ⟨hname.mpr ⟨hbare, by decide⟩, hparent _ _ _ hmember (by decide) hbare (by decide)⟩

end Declaration

namespace TranslationUnit

open ParseTree Declaration Character

/-- A record and a function with the same template arguments in the scope of their names. -/
def argumentsSource : Source where
  path := "a.cpp"
  text := "struct A { };\nstruct A<int>::B { };\nvoid A<int>::f() {}"

def argumentsScope (start : Nat) : ParseTree :=
  .node { label := "template_type", field := some .scope, span := ⟨start, start + 6⟩ } [
    .node { label := "type_identifier", field := some .name, span := ⟨start, start + 1⟩ } [],
    .node { label := "template_argument_list", field := some .arguments,
            span := ⟨start + 1, start + 6⟩ } []]

def nestedName : ParseTree :=
  .node { label := "qualified_identifier", field := some .name, span := ⟨21, 30⟩ } [
    argumentsScope 21,
    .node { label := "type_identifier", field := some .name, span := ⟨29, 30⟩ } []]

def memberName : ParseTree :=
  .node { label := "qualified_identifier", field := some .declarator, span := ⟨41, 50⟩ } [
    argumentsScope 41,
    .node { label := "identifier", field := some .name, span := ⟨49, 50⟩ } []]

def argumentsTree : ParseTree :=
  .node { label := "translation_unit", span := ⟨0, 55⟩ } [
    .node { label := "struct_specifier", span := ⟨0, 12⟩ } [
      .node { label := "type_identifier", field := some .name, span := ⟨7, 8⟩ } [],
      .node { label := "field_declaration_list", field := some .body, span := ⟨9, 12⟩ } []],
    .node { label := "struct_specifier", span := ⟨14, 34⟩ } [
      nestedName,
      .node { label := "field_declaration_list", field := some .body, span := ⟨31, 34⟩ } []],
    .node { label := "function_definition", span := ⟨36, 55⟩ } [
      .node { label := "primitive_type", field := some .type, span := ⟨36, 40⟩ } [],
      .node { label := "function_declarator", field := some .declarator, span := ⟨41, 52⟩ } [
        memberName,
        .node { label := "parameter_list", field := some .parameters, span := ⟨50, 52⟩ } []],
      .node { label := "compound_statement", field := some .body, span := ⟨53, 55⟩ } []]]

theorem qualifies_nestedName : Qualifies argumentsSource nestedName [argumentsScope 21]
    (.node { label := "type_identifier", field := some .name, span := ⟨29, 30⟩ } []) := by
  refine .name ⟨by decide, rfl, ?_, "", "", by simp, by simp, by decide⟩ (by decide)
  rintro _ ⟨⟩
  decide

theorem size_arguments : (ofParseTree argumentsSource argumentsTree).cursors.size = 5 := by
  decide +kernel

def argumentsCursor (id : Fin 5) : Fin (ofParseTree argumentsSource argumentsTree).cursors.size :=
  ⟨id, by rw [size_arguments]; exact id.isLt⟩

theorem contains_nestedName : argumentsTree.Contains nestedName := by
  have hrecord : argumentsTree.children[1]? = some (.node
      { label := "struct_specifier", span := ⟨14, 34⟩ } [
        nestedName,
        .node { label := "field_declaration_list", field := some .body, span := ⟨31, 34⟩ } []]) := rfl
  exact .trans (.single (List.mem_of_getElem? hrecord)) (.single List.mem_cons_self)

/-- The template arguments are part of one name, and only the other one is found to be in the record. -/
theorem tagName_arguments_ne :
    ¬((∀ name, argumentsTree.Contains name → name.kind = .qualifiedIdentifier →
        tagName argumentsSource (some name) = declaratorName argumentsSource name)
      ∨ (ofParseTree argumentsSource argumentsTree).model.semanticParent (argumentsCursor 2) =
        (ofParseTree argumentsSource argumentsTree).model.semanticParent (argumentsCursor 3)) := by
  rintro (h | h)
  · have heq := h nestedName contains_nestedName (by decide)
    have hbare := ((qualifies_nestedName.name_eq_iff (by decide)).mp heq).1
    have harguments : '<' ∈ (argumentsSource.textOf (argumentsScope 21)).toList := by decide
    exact hbare _ List.mem_cons_self harguments
  · revert h
    decide +kernel

end TranslationUnit
end CursorQuery
