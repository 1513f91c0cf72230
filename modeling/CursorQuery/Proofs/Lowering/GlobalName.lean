import CursorQuery.Proofs.Lowering.Search

/-!
This module contains what type names with a leading `::` stand for. The reader of types takes the `::`
off with the white space, so such a name is looked up like any other, from the innermost scope outwards.
-/

namespace CursorQuery

namespace NodeKind

def namesType : NodeKind → Bool
  | typeIdentifier | qualifiedTypeIdentifier | qualifiedIdentifier => true
  | _ => false

end NodeKind

namespace Text

theorem normalizeScoped_leading (rest : String) :
    normalizeScoped ("::" ++ rest) = normalizeScoped rest := by
  have hparts : scopedParts ("::" ++ rest) = scopedParts rest := by
    unfold scopedParts
    rw [String.toList_append]
    rfl
  unfold normalizeScoped
  rw [hparts]

theorem ne_empty_of_mem_scopedParts {s part : String} (h : part ∈ scopedParts s) : part ≠ "" := by
  obtain ⟨cs, hcs, rfl⟩ := List.mem_map.mp h
  have hsome := (List.mem_filter.mp hcs).2
  simpa using hsome

theorem not_prefix_normalizeScoped {s : String} (h : ∀ part ∈ scopedParts s, IsBare part) :
    ¬"::".toList <+: (normalizeScoped s).toList := by
  have hsome : ∀ part ∈ scopedParts s, part ≠ "" := fun _ => ne_empty_of_mem_scopedParts
  unfold normalizeScoped joinScoped
  cases hparts : scopedParts s with
  | nil => decide
  | cons first parts =>
    rw [hparts, List.forall_mem_cons] at h hsome
    have hhead : (String.intercalate "::" (first :: parts)).toList.head? = first.toList.head? := by
      cases parts with
      | nil => rw [String.intercalate_singleton]
      | cons second parts =>
        rw [String.intercalate_cons_cons, String.toList_append, String.toList_append,
          List.append_assoc, List.head?_append_of_ne_nil]
        simpa using hsome.1
    rintro ⟨rest, hrest⟩
    rw [← hrest] at hhead
    exact h.1.head hhead.symm

end Text

namespace Declaration

theorem writtenType_of_namesType {source : Source} {node : ParseTree} (h : node.kind.namesType) :
    writtenType source node = .named (Text.normalizeScoped (source.textOf node)) := by
  unfold writtenType
  cases hkind : node.kind with
  | typeIdentifier | qualifiedTypeIdentifier | qualifiedIdentifier => rfl
  | _ =>
    rw [hkind] at h
    contradiction

end Declaration

namespace TranslationUnit

/--
A type name with a leading `::` stands for what the name without it stands for in the innermost scope
that has such a name. This is the same as in the global scope exactly if the other scopes do not have
it, or if it is no type in either.
-/
theorem writtenType_globalName (source : Source) (tree : ParseTree) (options : Options) :
    ∀ b, Occurs source tree options b → ∀ (scope : Nat) (node : ParseTree) (rest : String),
      node.kind.namesType → source.textOf node = "::" ++ rest →
      (∀ part ∈ Text.scopedParts rest, Text.IsBare part) →
      let name := Text.normalizeScoped rest
      let type := b.writtenType (Declaration.writtenType source node) scope
      let inner? := b.findIn (innerPrefixes (b.scopePrefix scope)) name
      let global? := b.names.lookup name
      type = b.typeFound name (inner?.or global?)
      ∧ (type = b.typeFound name global? ↔
        ∀ id ∈ inner?, b.introduced? id = none ∧ global?.bind b.introduced? = none) := by
  intro b hb scope node rest hkind htext hbare name type inner? global?
  have hname : ¬"::".toList <+: name.toList := Text.not_prefix_normalizeScoped hbare
  have hglobal : b.search "" name = global? := Builder.search_empty hname
  have hprefixes : innerPrefixes (b.scopePrefix scope) =
      innerPrefixes (b.scopePrefix scope) ++ innerPrefixes "" := (List.append_nil _).symm
  have hsearch : b.search (b.scopePrefix scope) name = inner?.or global? := by
    rw [Builder.search_eq_findIn_or hprefixes, hglobal]
  have htype : type = b.typeFound name (inner?.or global?) := by
    simp only [type, Declaration.writtenType_of_namesType hkind, htext, Text.normalizeScoped_leading]
    rw [← hsearch, ← Builder.resolve_eq_search, ← Builder.namedType_eq_typeFound]
    rfl
  refine ⟨htype, ?_⟩
  have hiff := typeFound_search_eq_iff hb hprefixes name
  rw [hsearch, hglobal] at hiff
  rw [htype]
  exact hiff

/-- A program with a global structure and one of the same name around a use of the global one. -/
def shadowedSource : Source where
  path := "a.cpp"
  text := "struct T \x7b\x7d;\nnamespace n \x7b struct T \x7b\x7d; ::T x; \x7d"

def globalTypeNode : ParseTree :=
  .node { label := "qualified_identifier", field := some .type, span := ⟨40, 43⟩ } [
    .node { label := "type_identifier", field := some .name, span := ⟨42, 43⟩ } []]

def shadowedTree : ParseTree :=
  .node { label := "translation_unit", span := ⟨0, 48⟩ } [
    .node { label := "struct_specifier", span := ⟨0, 11⟩ } [
      .node { label := "type_identifier", field := some .name, span := ⟨7, 8⟩ } [],
      .node { label := "field_declaration_list", field := some .body, span := ⟨9, 11⟩ } []],
    .node { label := "namespace_definition", span := ⟨13, 48⟩ } [
      .node { label := "namespace_identifier", field := some .name, span := ⟨23, 24⟩ } [],
      .node { label := "declaration_list", field := some .body, span := ⟨25, 48⟩ } [
        .node { label := "struct_specifier", span := ⟨27, 38⟩ } [
          .node { label := "type_identifier", field := some .name, span := ⟨34, 35⟩ } [],
          .node { label := "field_declaration_list", field := some .body, span := ⟨36, 38⟩ } []],
        .node { label := "declaration", span := ⟨40, 46⟩ } [
          globalTypeNode,
          .node { label := "identifier", field := some .declarator, span := ⟨44, 45⟩ } []]]]]

theorem shadowed_cursors :
    let b := build shadowedSource shadowedTree {}
    (globalTypeNode.kind.namesType ∧ shadowedSource.textOf globalTypeNode = "::" ++ "T"
      ∧ Text.scopedParts "T" = ["T"] ∧ Text.normalizeScoped "T" = "T")
    ∧ (b.cursor 2).kind = .namespaceDecl
    ∧ b.writtenType (Declaration.writtenType shadowedSource globalTypeNode) 2 =
      { kind := .record, spelling := "n::T" }
    ∧ b.typeFound "T" (b.names.lookup "T") = { kind := .record, spelling := "T" }
    ∧ (b.cursor 4).spelling = "x" ∧ (b.cursor 4).type = some { kind := .record, spelling := "n::T" } := by
  decide +kernel

theorem isBare_shadowed : ∀ part ∈ Text.scopedParts "T", Text.IsBare part := by
  rw [shadowed_cursors.1.2.2.1, List.forall_mem_singleton]
  exact ⟨by decide, by decide⟩

theorem writtenType_globalName_shadowed :
    let b := build shadowedSource shadowedTree {}
    Occurs shadowedSource shadowedTree {} b ∧ globalTypeNode.kind.namesType
      ∧ shadowedSource.textOf globalTypeNode = "::" ++ "T"
      ∧ (∀ part ∈ Text.scopedParts "T", Text.IsBare part)
      ∧ b.writtenType (Declaration.writtenType shadowedSource globalTypeNode) 2 =
        b.typeFound (Text.normalizeScoped "T")
          ((b.findIn (innerPrefixes (b.scopePrefix 2)) (Text.normalizeScoped "T")).or
            (b.names.lookup (Text.normalizeScoped "T"))) := by
  intro b
  obtain ⟨⟨hkind, htext, -⟩, -⟩ := shadowed_cursors
  have hoccurs := occurs_build shadowedSource shadowedTree {}
  exact ⟨hoccurs, hkind, htext, isBare_shadowed,
    (writtenType_globalName _ _ _ b hoccurs 2 globalTypeNode "T" hkind htext isBare_shadowed).1⟩

/-- In the namespace, `::T` is the structure of the namespace and not the global one. -/
theorem writtenType_shadowed_ne_global :
    ¬∀ b, Occurs shadowedSource shadowedTree {} b → ∀ (scope : Nat) (node : ParseTree) (rest : String),
      node.kind.namesType → shadowedSource.textOf node = "::" ++ rest →
      (∀ part ∈ Text.scopedParts rest, Text.IsBare part) →
      b.writtenType (Declaration.writtenType shadowedSource node) scope =
        b.typeFound (Text.normalizeScoped rest) (b.names.lookup (Text.normalizeScoped rest)) := by
  intro h
  obtain ⟨⟨hkind, htext, -, hname⟩, -, hinner, hglobal, -⟩ := shadowed_cursors
  have heq := h _ (occurs_build shadowedSource shadowedTree {}) 2 globalTypeNode "T" hkind htext
    isBare_shadowed
  rw [hname, hinner, hglobal] at heq
  simp at heq

end TranslationUnit
end CursorQuery
