import CursorQuery.Proofs.Declaration.Agreement
import CursorQuery.Proofs.Lowering.Nesting
import CursorQuery.Proofs.Source.Regions

/-!
This module contains what conditional and erroneous regions mean for the reading of declarations:
nothing. If the regions in the containers of a parse tree are replaced by what stands in them, the same
declarations are read, and they are lowered in the same way.
-/

namespace CursorQuery

namespace Declaration

open ParseTree

variable {around : NodeKind} {tree : ParseTree}

theorem unaffected_kind : Unaffected kind :=
  fun _ _ _ => rfl

theorem unaffected_textOf (source : Source) : Unaffected source.textOf :=
  fun _ _ _ => rfl

theorem unaffected_locationOf (source : Source) : Unaffected source.locationOf :=
  fun _ _ _ => rfl

theorem unaffected_simpleName (source : Source) : Unaffected (simpleName source) :=
  fun _ _ _ => rfl

@[simp]
theorem site_rewritten (source : Source) (around : NodeKind) (tree : ParseTree) :
    site source (tree.rewritten around) = site source tree :=
  rfl

theorem scopesOf_rewritten (source : Source) (around : NodeKind) (scope? : Option ParseTree) :
    scopesOf source (scope?.map (rewritten around)) = scopesOf source scope? := by
  cases scope? with
  | none => rfl
  | some scope => rfl

theorem qualifiedName_rewritten (source : Source) {around : NodeKind} {tree : ParseTree}
    (h : isContainer around tree.info = false) :
    qualifiedName source (tree.rewritten around) = qualifiedName source tree := by
  rw [qualifiedName, qualifiedName, field?_rewritten h, field?_rewritten h, scopesOf_rewritten]
  cases hname : tree.field? .name with
  | none => rfl
  | some inner =>
    have hlt := size_lt_of_field? hname
    have hinner : isContainer tree.kind inner.info = false :=
      isContainer_of_mem_field? hname (by decide)
    dsimp only [Option.map_some]
    rw [qualifiedName_rewritten source hinner]
    rfl
termination_by tree.size

theorem unaffected_tagName (source : Source) :
    Unaffected fun tree => tagName source (some tree) := by
  intro around tree h
  unfold tagName
  dsimp only [kind_rewritten]
  split
  · rw [(unaffected_textOf source).getD_field? h .name (by decide)]
  · rfl

theorem tagName_rewritten (source : Source) (h : isContainer around tree.info = false) :
    tagName source ((tree.rewritten around).field? .name) = tagName source (tree.field? .name) := by
  rw [field?_rewritten h]
  cases hname : tree.field? .name with
  | none => rfl
  | some name => exact unaffected_tagName source (isContainer_of_mem_field? hname (by decide))

theorem unaffected_namespaceNames (source : Source) : Unaffected (namespaceNames source) := by
  intro around tree _
  unfold namespaceNames
  rw [textOf_rewritten]

theorem unaffected_writtenType (source : Source) : Unaffected (writtenType source) := by
  intro around tree h
  have htext := unaffected_textOf source
  unfold writtenType
  rw [(htext.comp Text.normalizeScoped).map_field? h .name (by decide),
    (htext.comp Text.collapse).map_field? h .arguments (by decide), field?_rewritten h]
  cases tree.field? .name with
  | none => rfl
  | some name => rfl

theorem hasKeyword_rewritten (source : Source) (h : isContainer around tree.info = false)
    (kind : NodeKind) (keyword : String) :
    hasKeyword source (tree.rewritten around) kind keyword = hasKeyword source tree kind keyword := by
  unfold hasKeyword
  rw [namedChildren_rewritten h, List.any_map]
  rfl

theorem unaffected_hasConst (source : Source) : Unaffected (hasConst source) :=
  fun _ _ h => hasKeyword_rewritten source h _ _

theorem unaffected_derivation? (source : Source) : Unaffected (derivation? source) := by
  intro around tree h
  unfold derivation?
  rw [(unaffected_textOf source).map_field? h .size (by decide)]
  rfl

theorem isContainer_of_wrapped? {inner : ParseTree} (h : wrapped? tree = some inner) :
    isContainer tree.kind inner.info = false := by
  apply isContainer_of_holdsMembers
  unfold wrapped? at h
  split at h
  all_goals simp_all [holdsMembers]

theorem wrapped?_rewritten (h : isContainer around tree.info = false) :
    wrapped? (tree.rewritten around) = (wrapped? tree).map (rewritten tree.kind) := by
  unfold wrapped?
  rw [field?_rewritten h, namedChildren_rewritten h, List.getLast?_map, List.head?_map]
  rw [kind_rewritten]
  split
  all_goals rfl

theorem core_rewritten {around : NodeKind} {tree : ParseTree}
    (h : isContainer around tree.info = false) :
    ∃ around', isContainer around' (core tree).info = false ∧
      core (tree.rewritten around) = (core tree).rewritten around' := by
  rw [core, core, wrapped?_rewritten h]
  cases hwrapped : wrapped? tree with
  | none => exact ⟨around, h, rfl⟩
  | some inner =>
    have hlt := size_lt_of_wrapped? hwrapped
    exact core_rewritten (isContainer_of_wrapped? hwrapped)
termination_by tree.size

theorem read_core_rewritten {α : Type} {read : ParseTree → α} (hread : Unaffected read)
    (h : isContainer around tree.info = false) :
    read (core (tree.rewritten around)) = read (core tree) := by
  obtain ⟨around', hcore, heq⟩ := core_rewritten h
  rw [heq]
  exact hread hcore

theorem derivations_rewritten (source : Source) {around : NodeKind} {tree : ParseTree}
    (h : isContainer around tree.info = false) :
    derivations source (tree.rewritten around) = derivations source tree := by
  rw [derivations, derivations, wrapped?_rewritten h, unaffected_derivation? source h]
  cases hwrapped : wrapped? tree with
  | none => rfl
  | some inner =>
    have hlt := size_lt_of_wrapped? hwrapped
    dsimp only [Option.map_some]
    rw [derivations_rewritten source (isContainer_of_wrapped? hwrapped)]
termination_by tree.size

def firstAt (tree : ParseTree) : Option NodeInfo :=
  if tree.kind.isIdentifier then some tree.info
  else if tree.kind == .parameterList then none
  else (firstIdentifier? tree).map (·.info)

def firstIn (trees : List ParseTree) : Option NodeInfo :=
  (trees.filter (·.info.isNamed)).findSome? firstAt

theorem map_info_firstIdentifier? (tree : ParseTree) :
    (firstIdentifier? tree).map (·.info) = firstIn tree.children := by
  have hnamed : firstIn tree.children = tree.namedChildren.findSome? firstAt := rfl
  rw [firstIdentifier?, List.map_findSome?, hnamed]
  conv_rhs => rw [← tree.namedChildren.attach_map_subtype_val, List.findSome?_map]
  congr 1
  funext child
  unfold firstAt
  dsimp only [Function.comp_apply]
  split
  · rfl
  · split
    · rfl
    · rfl

theorem firstIn_singleton (tree : ParseTree) :
    firstIn [tree] = if tree.info.isNamed then firstAt tree else none := by
  unfold firstIn
  rw [List.filter_cons]
  split
  · exact List.findSome?_singleton
  · rfl

theorem readsInOrder_firstIn : ReadsInOrder firstIn Option.or where
  append_eq first later := by
    unfold firstIn
    rw [List.filter_append, List.findSome?_append]
  named_eq trees := by
    unfold firstIn
    rw [List.filter_filter]
    simp
  region_eq tree hnamed hkind := by
    rw [firstIn_singleton, if_pos hnamed, ← map_info_firstIdentifier?]
    unfold firstAt
    rw [hkind]
    rfl

theorem firstIn_children_rewritten (around : NodeKind) (tree : ParseTree) :
    firstIn (tree.rewritten around).children = firstIn tree.children := by
  apply readsInOrder_firstIn.splicedForest
  intro child hchild around'
  have hlt := tree.forestSize_children
  rw [firstIn_singleton, firstIn_singleton]
  unfold firstAt
  rw [map_info_firstIdentifier?, map_info_firstIdentifier?, firstIn_children_rewritten around' child]
  rfl
termination_by tree.size

theorem unaffected_declaratorName (source : Source) : Unaffected (declaratorName source) := by
  intro around tree h
  have hfirst : (firstIdentifier? (tree.rewritten around)).map (·.info) =
      (firstIdentifier? tree).map (·.info) := by
    rw [map_info_firstIdentifier?, map_info_firstIdentifier?, firstIn_children_rewritten]
  unfold declaratorName
  rw [kind_rewritten, qualifiedName_rewritten source h,
    (unaffected_simpleName source).getD_field? h .name (by decide)]
  split
  · rfl
  · rfl
  · rfl
  · rfl
  · rfl
  · rfl
  · cases hnew : firstIdentifier? (tree.rewritten around) with
    | none =>
      rw [hnew, Option.map_none] at hfirst
      rw [Option.map_eq_none_iff.mp hfirst.symm]
    | some identifier =>
      rw [hnew, Option.map_some] at hfirst
      obtain ⟨identifier', hfound, hinfo⟩ := Option.map_eq_some_iff.mp hfirst.symm
      have hkind : identifier'.kind = identifier.kind := congrArg (fun info : NodeInfo => NodeKind.ofLabel info.label) hinfo
      have htext : source.textOf identifier' = source.textOf identifier :=
        congrArg (fun info : NodeInfo => source.slice info.span) hinfo
      rw [hfound]
      dsimp only
      unfold simpleName
      rw [hkind, htext]

theorem typeUse_rewritten (source : Source) {type : ParseTree} {around' : NodeKind}
    {declarator? declarator'? : Option ParseTree}
    (h : isContainer around tree.info = false) (htype : isContainer around' type.info = false)
    (hdeclarator : declarator'?.map (derivations source) = declarator?.map (derivations source)) :
    typeUse source (tree.rewritten around) (type.rewritten around') declarator'? =
      typeUse source tree type declarator? := by
  unfold typeUse
  rw [unaffected_writtenType source htype, unaffected_hasConst source h, hdeclarator]

theorem unaffected_derivations (source : Source) : Unaffected (derivations source) :=
  fun _ _ h => derivations_rewritten source h

theorem functionParameter?_of_ne (source : Source) (h : tree.kind ≠ .parameter) :
    functionParameter? source tree = none := by
  unfold functionParameter?
  split
  · contradiction
  · rfl

theorem unaffected_functionParameter? (source : Source) :
    Unaffected (functionParameter? source) := by
  intro around tree h
  by_cases hkind : tree.kind = .parameter
  · have hderivations :=
      (unaffected_derivations source).map_field? h .declarator (by decide)
    unfold functionParameter?
    rw [kind_rewritten, hkind, field?_rewritten h .type]
    cases htype : tree.field? .type with
    | none => rfl
    | some type =>
      have hinside : isContainer tree.kind type.info = false :=
        isContainer_of_mem_field? htype (by decide)
      rw [hkind] at hinside
      dsimp only [Option.map_some]
      rw [hkind, typeUse_rewritten source h hinside hderivations, site_rewritten,
        field?_rewritten h .declarator]
      cases hdeclarator : tree.field? .declarator with
      | none => rfl
      | some declarator =>
        have hdeclared : isContainer tree.kind declarator.info = false :=
          isContainer_of_mem_field? hdeclarator (by decide)
        obtain ⟨around', hcore, heq⟩ := core_rewritten hdeclared
        simp only [Option.map_some, heq, kind_rewritten, textOf_rewritten]
        rfl
  · rw [functionParameter?_of_ne source hkind]
    exact functionParameter?_of_ne source hkind

theorem unaffected_typeIdentifier? (source : Source) : Unaffected (typeIdentifier? source) := by
  intro around tree h
  unfold typeIdentifier?
  rw [namedChildren_rewritten h, List.find?_map, Option.map_map]
  rfl

def templateName? (source : Source) (tree : ParseTree) : Option String :=
  (tree.namedChildren.filter (·.kind != .templateParameterList)).findSome? (typeIdentifier? source)

theorem templateName?_rewritten (source : Source) (h : isContainer around tree.info = false)
    (hkind : tree.kind = .templateParameter) :
    templateName? source (tree.rewritten around) = templateName? source tree := by
  unfold templateName?
  rw [namedChildren_rewritten h, List.filter_map, List.findSome?_map]
  congr 1
  funext child
  exact unaffected_typeIdentifier? source (isContainer_of_holdsMembers (by rw [hkind]; rfl) _)

theorem unaffected_templateParameter? (source : Source) :
    Unaffected (templateParameter? source) := by
  intro around tree h
  have hname := (unaffected_textOf source).map_field? h .name (by decide)
  have hidentifier := unaffected_typeIdentifier? source h
  have hcore : Unaffected fun declarator => (declaratorName source (core declarator)).name :=
    fun _ _ h => congrArg (·.name) (read_core_rewritten (unaffected_declaratorName source) h)
  have hnames := hcore.map_field? h .declarator (by decide)
  have hderivations :=
    (unaffected_derivations source).map_field? h .declarator (by decide)
  unfold templateParameter?
  rw [kind_rewritten, hname, hidentifier, site_rewritten]
  dsimp only
  split
  · rfl
  · rfl
  · next hkind =>
    have := templateName?_rewritten source h hkind
    unfold templateName? at this
    rw [this]
  · rw [field?_rewritten h .type]
    cases htype : tree.field? .type with
    | none => rfl
    | some type =>
      have hinside : isContainer tree.kind type.info = false :=
        isContainer_of_mem_field? htype (by decide)
      simp only [Option.map_some, Option.isSome_some, ↓reduceIte]
      rw [typeUse_rewritten source h hinside hderivations, hnames]
  · rfl

theorem templateParameter?_of_kind (source : Source)
    (h : tree.kind = .declarationList ∨ tree.kind = .compoundStatement ∨ tree.kind = .other) :
    templateParameter? source tree = none := by
  unfold templateParameter?
  rcases h with h | h | h
  all_goals rw [h]

theorem unaffected_templateParameters (source : Source) :
    Unaffected (templateParameters source) := by
  intro around tree h
  unfold templateParameters
  rw [field?_rewritten h]
  cases hlist : tree.field? .parameters with
  | none => rfl
  | some list =>
    exact (unaffected_templateParameter? source).filterMap_namedChildren
      (isContainer_of_mem_field? hlist (by decide))
      fun tree => templateParameter?_of_kind source

theorem unaffected_functionDeclarator (source : Source) :
    Unaffected (functionDeclarator source) := by
  intro around tree h
  have hname := (unaffected_declaratorName source).getD_field? h .declarator (by decide)
  have hlocation := (unaffected_locationOf source).getD_field? h .declarator (by decide)
  unfold functionDeclarator
  dsimp only
  rw [hname, hlocation, field?_rewritten h, namedChildren_rewritten h, List.any_map]
  congr 1
  · cases hlist : tree.field? .parameters with
    | none => rfl
    | some list =>
      apply (unaffected_functionParameter? source).filterMap_namedChildren
        (isContainer_of_mem_field? hlist (by decide))
      rintro tree (hkind | hkind | hkind)
      all_goals exact functionParameter?_of_ne source (by rw [hkind]; decide)
  · cases hlist : tree.field? .parameters with
    | none => rfl
    | some list =>
      have hinside : isContainer tree.kind list.info = false :=
        isContainer_of_mem_field? hlist (by decide)
      dsimp only [Option.map_some, Option.any_some]
      rw [children_rewritten hinside, List.any_map]
      rfl

theorem unaffected_namesFunction : Unaffected namesFunction := by
  intro around tree h
  unfold namesFunction
  rw [field?_rewritten h, Option.any_map]
  rfl

theorem unaffected_declared (source : Source) : Unaffected (declared source) := by
  intro around tree h
  unfold declared
  rw [kind_rewritten, unaffected_functionDeclarator source h, unaffected_namesFunction h,
    (unaffected_textOf source).map_field? h .parameters (by decide)]

theorem unaffected_declarator (source : Source) : Unaffected (declarator source) := by
  intro around tree h
  unfold declarator
  dsimp only
  rw [unaffected_derivations source h, read_core_rewritten (unaffected_declaratorName source) h,
    read_core_rewritten (unaffected_locationOf source) h, read_core_rewritten (unaffected_declared source) h]

theorem baseClasses_map_rewritten (source : Source) {clause : NodeKind}
    (hclause : holdsMembers clause = false) (trees : List ParseTree) (pending : Option Access) :
    baseClasses source pending (trees.map (rewritten clause)) = baseClasses source pending trees := by
  induction trees generalizing pending with
  | nil => rfl
  | cons child rest ih =>
    have hchild : isContainer clause child.info = false := isContainer_of_holdsMembers hclause _
    simp only [List.map_cons, baseClasses, kind_rewritten, textOf_rewritten, site_rewritten,
      unaffected_writtenType source hchild, ih]

theorem recordHead_rewritten (source : Source) (h : isContainer around tree.info = false)
    (keyword : RecordKeyword) :
    recordHead source keyword (tree.rewritten around) = recordHead source keyword tree := by
  have hlocation := (unaffected_locationOf source).getD_field? h .name (by decide)
  unfold recordHead
  dsimp only
  rw [tagName_rewritten source h, hlocation, field?_rewritten h, field?_rewritten h,
    namedChildren_rewritten h, List.find?_map, Option.any_map, Option.isSome_map]
  congr 1
  simp only [Function.comp_def, kind_rewritten]
  cases hclause : tree.namedChildren.find? (·.kind == .baseClause) with
  | none => rfl
  | some clause =>
    have hkind : clause.kind = .baseClause := by simpa using List.find?_some hclause
    have hinside : isContainer tree.kind clause.info = false := by
      cases hcontainer : isContainer tree.kind clause.info with
      | false => rfl
      | true =>
        have := kind_of_isContainer hcontainer
        simp [hkind] at this
    dsimp only [Option.map_some]
    rw [namedChildren_rewritten hinside, hkind]
    exact baseClasses_map_rewritten source rfl _ _

theorem unaffected_enumerator? (source : Source) : Unaffected (enumerator? source) := by
  intro around tree h
  unfold enumerator?
  rw [kind_rewritten, field?_rewritten h]
  cases tree.field? .name with
  | none =>
    cases tree.kind with
    | _ => rfl
  | some name =>
    cases tree.kind with
    | _ => rfl

theorem enumHead_rewritten (source : Source) (h : isContainer around tree.info = false)
    (hkind : tree.kind = .enumeration) :
    enumHead source (tree.rewritten around) = enumHead source tree := by
  have hlocation := (unaffected_locationOf source).getD_field? h .name (by decide)
  unfold enumHead
  dsimp only
  rw [tagName_rewritten source h, hlocation, field?_rewritten h, Option.isSome_map]
  congr 1
  cases hbody : tree.field? .body with
  | none => rfl
  | some body =>
    apply (unaffected_enumerator? source).filterMap_namedChildren
      (isContainer_of_holdsMembers (by rw [hkind]; rfl) _)
    unfold enumerator?
    rintro tree (hkind | hkind | hkind)
    all_goals rw [hkind]

theorem unaffected_declaratorList (source : Source) : Unaffected (declaratorList source) := by
  intro around tree h
  unfold declaratorList
  rw [(unaffected_declarator source).map_fields h .declarator (by decide), unaffected_hasConst source h,
    hasKeyword_rewritten source h, hasKeyword_rewritten source h]
  rfl

theorem unaffected_typedefs (source : Source) : Unaffected (typedefs source) := by
  intro around tree h
  unfold typedefs
  have hdeclarator : Unaffected fun declarator => Item.typeAlias true
      (declaratorName source (core declarator)).name
      { location := source.locationOf (core declarator), span := tree.span } := by
    intro around tree h
    dsimp only
    rw [read_core_rewritten (unaffected_declaratorName source) h,
      read_core_rewritten (unaffected_locationOf source) h]
  exact hdeclarator.map_fields h .declarator (by decide)

theorem unaffected_aliasItems (source : Source) : Unaffected (aliasItems source) := by
  intro around tree h
  unfold aliasItems
  rw [field?_rewritten h]
  cases tree.field? .name with
  | none => rfl
  | some name => rfl

theorem unaffected_usingItems (source : Source) : Unaffected (usingItems source) := by
  intro around tree h
  unfold usingItems
  rw [namedChildren_rewritten h, List.getLast?_map, children_rewritten h, List.any_map]
  cases tree.namedChildren.getLast? with
  | none => rfl
  | some target => rfl

theorem unaffected_inclusionItems (source : Source) : Unaffected (inclusionItems source) := by
  intro around tree h
  unfold inclusionItems
  rw [field?_rewritten h]
  cases tree.field? .path with
  | none => rfl
  | some path => rfl

theorem unaffected_macroItems (source : Source) : Unaffected (macroItems source) := by
  intro around tree h
  unfold macroItems
  rw [field?_rewritten h]
  cases tree.field? .name with
  | none => rfl
  | some name => rfl

def membersOf (source : Source) (trees : List ParseTree) : List Item :=
  (trees.filter (·.info.isNamed)).flatMap (childItems source)

theorem members_eq_membersOf (source : Source) (tree : ParseTree) :
    members source tree = membersOf source tree.children :=
  members_eq_flatMap source tree

theorem membersOf_singleton (source : Source) (tree : ParseTree) :
    membersOf source [tree] = if tree.info.isNamed then childItems source tree else [] := by
  unfold membersOf
  rw [List.filter_cons]
  split
  · exact List.flatMap_singleton ..
  · rfl

theorem readsInOrder_membersOf (source : Source) : ReadsInOrder (membersOf source) (· ++ ·) where
  append_eq first later := by
    unfold membersOf
    rw [List.filter_append, List.flatMap_append]
  named_eq trees := by
    unfold membersOf
    rw [List.filter_filter]
    simp
  region_eq tree hnamed hkind := by
    rw [membersOf_singleton, if_pos hnamed, childItems, hkind]
    exact members_eq_membersOf source tree

def ReadsBelow (source : Source) (size : Nat) : Prop :=
  ∀ tree : ParseTree, tree.size < size → ∀ around,
    items source (tree.rewritten around) = items source tree

theorem membersOf_splicedForest (source : Source) {trees : List ParseTree}
    (hitems : ReadsBelow source (forestSize trees + 1)) (inContainer : Bool) (around : NodeKind) :
    membersOf source (splicedForest inContainer around trees) = membersOf source trees := by
  induction hsize : forestSize trees using Nat.strongRecOn
    generalizing trees inContainer around with
  | ind size ih =>
    apply (readsInOrder_membersOf source).splicedForest
    intro tree htree around'
    have hlt := tree.forestSize_children
    have hregion : members source (tree.rewritten around') = members source tree := by
      rw [members_eq_membersOf, members_eq_membersOf]
      exact ih (forestSize tree.children) (by omega) (fun t ht => hitems t (by omega)) _ _ rfl
    rw [membersOf_singleton, membersOf_singleton]
    unfold childItems
    rw [kind_rewritten, hregion, hitems tree (by omega)]
    rfl

theorem ReadsBelow.mono {source : Source} {size size' : Nat} (h : ReadsBelow source size)
    (hle : size' ≤ size) : ReadsBelow source size' :=
  fun tree htree => h tree (Nat.lt_of_lt_of_le htree hle)

theorem ReadsBelow.members_rewritten {source : Source} {size : Nat} (hbelow : ReadsBelow source size)
    (htree : tree.size ≤ size) (around : NodeKind) :
    members source (tree.rewritten around) = members source tree := by
  have hsize := tree.forestSize_children
  rw [members_eq_membersOf, members_eq_membersOf]
  exact membersOf_splicedForest source (hbelow.mono (by omega)) _ _

theorem ReadsBelow.bodyMembers_rewritten {source : Source} {size : Nat}
    (hbelow : ReadsBelow source size) (htree : tree.size ≤ size)
    (h : isContainer around tree.info = false) :
    bodyMembers source (tree.rewritten around) = bodyMembers source tree := by
  rw [bodyMembers, bodyMembers, field?_rewritten h]
  cases hbody : tree.field? .body with
  | none => rfl
  | some body =>
    have hlt := size_lt_of_field? hbody
    exact hbelow.members_rewritten (by omega) tree.kind

theorem ReadsBelow.bodyMembers_of_field? {source : Source} (hbelow : ReadsBelow source tree.size)
    {field : Field} {inner : ParseTree} (hinner : tree.field? field = some inner)
    (hfield : field ≠ .body) :
    bodyMembers source (inner.rewritten tree.kind) = bodyMembers source inner := by
  have hlt := size_lt_of_field? hinner
  exact (hbelow.mono (Nat.le_of_lt hlt)).bodyMembers_rewritten (Nat.le_refl _)
    (isContainer_of_mem_field? hinner hfield)

theorem items_of_kind (source : Source) (tree : ParseTree)
    (h : tree.kind = .declarationList ∨ tree.kind = .compoundStatement ∨ tree.kind = .other) :
    items source tree = [] := by
  rw [items]
  rcases h with h | h | h
  all_goals rw [h]

theorem flatMap_attach_items (source : Source) (trees : List ParseTree) :
    (trees.attach.flatMap fun ⟨tree, _⟩ => items source tree) = trees.flatMap (items source) := by
  conv_rhs => rw [← trees.attach_map_subtype_val, List.flatMap_map]

theorem items_rewritten (source : Source) (tree : ParseTree) (around : NodeKind) :
    items source (tree.rewritten around) = items source tree := by
  cases h : isContainer around tree.info with
  -- From a container no items are read, only its members are.
  | true =>
    have hkind := kind_of_isContainer h
    rw [items_of_kind source tree hkind, items_of_kind source (tree.rewritten around) hkind]
  | false =>
    have hbelow : ReadsBelow source tree.size := fun inner _ around' =>
      items_rewritten source inner around'
    have hbody := hbelow.bodyMembers_rewritten (Nat.le_refl _) h
    rw [items, items, kind_rewritten]
    split
    · have hnames := (unaffected_namespaceNames source).map_field? h .name (by decide)
      have hlocation := (unaffected_locationOf source).getD_field? h .name (by decide)
      dsimp only
      rw [hnames, hbody]
      split
      · rfl
      · rw [hlocation]
        rfl
    · rw [field?_rewritten h]
      cases hfield : tree.field? .body with
      | none => rfl
      | some body =>
        have hlt := size_lt_of_field? hfield
        dsimp only [Option.map_some]
        rw [hbody, hbelow body hlt, site_rewritten]
        rfl
    · rw [recordHead_rewritten source h, hbody]
      rfl
    · next hkind =>
      rw [enumHead_rewritten source h hkind]
      rfl
    · dsimp only
      rw [unaffected_declaratorList source h, field?_rewritten h]
      cases htype : tree.field? .type with
      | none => rfl
      | some type =>
        have hinside : isContainer tree.kind type.info = false :=
          isContainer_of_mem_field? htype (by decide)
        have hmembers := hbelow.bodyMembers_of_field? htype (by decide)
        dsimp only [Option.map_some]
        rw [kind_rewritten, field?_rewritten hinside, Option.isSome_map,
          unaffected_writtenType source hinside, hmembers]
        split
        · rw [recordHead_rewritten source hinside]
        · next hkind _ => rw [enumHead_rewritten source hinside hkind]
        · rfl
    · rw [unaffected_typedefs source h, field?_rewritten h]
      cases htype : tree.field? .type with
      | none => rfl
      | some type =>
        have hinside : isContainer tree.kind type.info = false :=
          isContainer_of_mem_field? htype (by decide)
        have hmembers := hbelow.bodyMembers_of_field? htype (by decide)
        dsimp only [Option.map_some]
        rw [kind_rewritten, field?_rewritten hinside, Option.isSome_map, hmembers]
        split
        · rw [recordHead_rewritten source hinside]
          rfl
        · next hkind _ =>
          rw [enumHead_rewritten source hinside hkind]
          rfl
        · rfl
    · rw [field?_rewritten h .declarator]
      cases hdeclarator : tree.field? .declarator with
      | none => rfl
      | some declarator =>
        have hinside : isContainer tree.kind declarator.info = false :=
          isContainer_of_mem_field? hdeclarator (by decide)
        have hresult : ((tree.rewritten around).field? .type).map (fun type =>
              typeUse source (tree.rewritten around) type (some (declarator.rewritten tree.kind))) =
            (tree.field? .type).map fun type => typeUse source tree type (some declarator) := by
          rw [field?_rewritten h, Option.map_map]
          apply Option.map_congr
          intro type htype
          apply typeUse_rewritten source h (isContainer_of_mem_field? htype (by decide))
          exact congrArg some (unaffected_derivations source hinside)
        have hsite : (((tree.rewritten around).field? .body).filter
              (·.kind == .compoundStatement)).map (site source) =
            ((tree.field? .body).filter (·.kind == .compoundStatement)).map (site source) := by
          rw [field?_rewritten h, Option.filter_map, Option.map_map]
          rfl
        have hisSome := congrArg Option.isSome hsite
        rw [Option.isSome_map, Option.isSome_map] at hisSome
        dsimp only [Option.map_some]
        rw [read_core_rewritten unaffected_kind hinside,
          read_core_rewritten (unaffected_functionDeclarator source) hinside, hresult, hsite, hisSome,
          hbody]
        rfl
    · rw [unaffected_templateParameters source h, flatMap_attach_items, flatMap_attach_items,
        namedChildren_rewritten h, List.filter_map, List.flatMap_map]
      congr 2
      apply List.flatMap_congr
      intro child hchild
      exact hbelow child (size_lt_of_mem_namedChildren (List.mem_filter.mp hchild).1) tree.kind
    · rw [unaffected_aliasItems source h]
    · rw [unaffected_usingItems source h]
    · rw [unaffected_inclusionItems source h]
    · rw [unaffected_macroItems source h]
    · rfl
termination_by tree.size

theorem members_withoutRegions (source : Source) (tree : ParseTree) :
    members source tree.withoutRegions = members source tree := by
  rw [members_eq_membersOf, members_eq_membersOf]
  exact membersOf_splicedForest source (fun inner _ => items_rewritten source inner) _ _

end Declaration

namespace ParseTree

theorem exists_of_contains_withoutRegions {tree node : ParseTree}
    (h : tree.withoutRegions.Contains node) :
    node = tree.withoutRegions ∨ ∃ around, ∃ original : ParseTree, node = original.rewritten around := by
  induction h with
  | refl => exact .inl rfl
  | tail _ hchild ih =>
    rcases ih with rfl | ⟨around, original, rfl⟩
    all_goals
      obtain ⟨original, heq⟩ := (exists_of_mem_splicedForest hchild).1
      exact .inr ⟨_, original, heq⟩

theorem kind_ne_region_of_isContainer {tree node container : ParseTree}
    (hnode : tree.withoutRegions.Contains node) (hchild : container ∈ node.children)
    (hcontainer : isContainer node.kind container.info) :
    ∀ member ∈ container.namedChildren, member.kind ≠ .region := by
  have hrewritten : ∃ original : ParseTree, container = original.rewritten node.kind := by
    rcases exists_of_contains_withoutRegions hnode with rfl | ⟨around, original, rfl⟩
    all_goals exact (exists_of_mem_splicedForest hchild).1
  obtain ⟨original, rfl⟩ := hrewritten
  intro member hmember
  obtain ⟨hmember, hnamed⟩ := List.mem_filter.mp hmember
  exact (exists_of_mem_splicedForest hmember).2 hcontainer hnamed

end ParseTree

namespace TranslationUnit

open ParseTree Declaration Lowering

/--
Regions in containers are transparent: without them the same cursors and the same table of names are
built, by the same actions, and the same access level is in effect where a container ends. A container
may end with any block, so the level after the block is the same as well.
-/
theorem build_withoutRegions (source : Source) (tree : ParseTree) (options : Options) :
    build source tree.withoutRegions options = build source tree options
      ∧ trace source tree.withoutRegions options = trace source tree options
      ∧ ∀ (container : ParseTree) (scope : Scope) (level : Access),
        levelAfterItems scope level (members source container.withoutRegions) =
          levelAfterItems scope level (members source container) := by
  refine ⟨?_, ?_, fun container scope level => ?_⟩
  · unfold build
    rw [members_withoutRegions]
    rfl
  · unfold trace
    rw [members_withoutRegions]
    rfl
  · rw [members_withoutRegions]

end TranslationUnit
end CursorQuery
