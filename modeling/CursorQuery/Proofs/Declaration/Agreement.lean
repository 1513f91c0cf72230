import Mathlib.Data.List.Basic
import CursorQuery.Proofs.Lowering.Origin

/-!
This module contains on what the reading of declarations depends: on the texts and the places of the
nodes of the parse tree, and on nothing else in the source.
-/

namespace CursorQuery

namespace Source

/-- The nodes of the tree have the same texts and the same places in both sources. -/
structure AgreesOn (source source' : Source) (tree : ParseTree) : Prop where
  textOf_eq : ∀ node, tree.Contains node → source'.textOf node = source.textOf node
  locationOf_eq : ∀ node, tree.Contains node → source'.locationOf node = source.locationOf node

namespace AgreesOn

variable {source source' : Source} {tree child : ParseTree} {field : Field}

theorem text (h : source.AgreesOn source' tree) : source'.textOf tree = source.textOf tree :=
  h.textOf_eq tree .refl

theorem location (h : source.AgreesOn source' tree) :
    source'.locationOf tree = source.locationOf tree :=
  h.locationOf_eq tree .refl

theorem of_contains (h : source.AgreesOn source' tree) (hchild : tree.Contains child) :
    source.AgreesOn source' child where
  textOf_eq node hnode := h.textOf_eq node (hchild.trans hnode)
  locationOf_eq node hnode := h.locationOf_eq node (hchild.trans hnode)

theorem of_mem_children (h : source.AgreesOn source' tree) (hchild : child ∈ tree.children) :
    source.AgreesOn source' child :=
  h.of_contains (.single hchild)

theorem of_mem_namedChildren (h : source.AgreesOn source' tree)
    (hchild : child ∈ tree.namedChildren) : source.AgreesOn source' child :=
  h.of_mem_children (List.mem_filter.mp hchild).1

theorem of_mem_field? (h : source.AgreesOn source' tree) :
    ∀ child ∈ tree.field? field, source.AgreesOn source' child :=
  fun _ hchild => h.of_mem_children (List.mem_of_find?_eq_some hchild)

theorem getD_field? (h : source.AgreesOn source' tree) (field : Field) :
    source.AgreesOn source' ((tree.field? field).getD tree) := by
  cases hfield : tree.field? field with
  | none => exact h
  | some child => exact h.of_mem_field? child hfield

theorem of_mem_fields (h : source.AgreesOn source' tree) :
    ∀ child ∈ tree.fields field, source.AgreesOn source' child :=
  fun _ hchild => h.of_mem_children (List.mem_filter.mp hchild).1

theorem map_field? (h : source.AgreesOn source' tree) (field : Field) :
    (tree.field? field).map source'.textOf = (tree.field? field).map source.textOf :=
  Option.map_congr fun child hchild => (h.of_mem_field? child hchild).text

end AgreesOn
end Source

namespace Declaration

open ParseTree

theorem contains_of_wrapped? {tree inner : ParseTree} (h : wrapped? tree = some inner) :
    tree.Contains inner := by
  unfold wrapped? at h
  split at h
  · exact Contains.of_field? .refl h
  · exact Contains.of_field? .refl h
  · exact Contains.of_field? .refl h
  · exact Contains.of_mem_namedChildren .refl (List.mem_of_getLast? h)
  · exact Contains.of_mem_namedChildren .refl (List.mem_of_head? h)
  · simp at h

theorem contains_core (tree : ParseTree) : tree.Contains (core tree) := by
  fun_induction core tree with
  | case1 tree inner h ih => exact (contains_of_wrapped? h).trans ih
  | case2 tree h => exact .refl

theorem contains_of_firstIdentifier? {tree identifier : ParseTree}
    (h : firstIdentifier? tree = some identifier) : tree.Contains identifier := by
  fun_induction firstIdentifier? tree generalizing identifier with
  | case1 tree ih =>
    obtain ⟨⟨child, hchild⟩, -, hfound⟩ := List.exists_of_findSome?_eq_some h
    have hinside : tree.Contains child := Contains.of_mem_namedChildren .refl hchild
    dsimp only at hfound
    split at hfound
    · obtain rfl := Option.some.inj hfound
      exact hinside
    · split at hfound
      · contradiction
      · exact hinside.trans (ih child hchild hfound)

variable {source source' : Source} {tree : ParseTree}

theorem site_eq (h : source.AgreesOn source' tree) : site source' tree = site source tree := by
  unfold site
  rw [h.location]

theorem simpleName_eq (h : source.AgreesOn source' tree) :
    simpleName source' tree = simpleName source tree := by
  unfold simpleName
  rw [h.text]

theorem scopesOf_eq {scope? : Option ParseTree} (h : ∀ scope ∈ scope?, source.AgreesOn source' scope) :
    scopesOf source' scope? = scopesOf source scope? := by
  cases scope? with
  | none => rfl
  | some scope =>
    unfold scopesOf
    dsimp only
    rw [(h scope rfl).text]

theorem qualifiedName_eq {tree : ParseTree} (h : source.AgreesOn source' tree) :
    qualifiedName source' tree = qualifiedName source tree := by
  rw [qualifiedName, qualifiedName, scopesOf_eq h.of_mem_field?]
  split
  · rw [simpleName_eq h]
  · next inner hname =>
    have hlt := size_lt_of_field? hname
    have hinner := h.of_mem_field? inner hname
    rw [simpleName_eq hinner, qualifiedName_eq hinner]
termination_by tree.size

theorem declaratorName_eq (h : source.AgreesOn source' tree) :
    declaratorName source' tree = declaratorName source tree := by
  unfold declaratorName
  split
  · exact qualifiedName_eq h
  · rw [simpleName_eq (h.getD_field? .name)]
  · rw [simpleName_eq h]
  · rw [simpleName_eq h]
  · rw [simpleName_eq h]
  · rw [simpleName_eq h]
  · split
    · next identifier hfound =>
      rw [simpleName_eq (h.of_contains (contains_of_firstIdentifier? hfound))]
    · rfl

theorem tagName_eq {name? : Option ParseTree} (h : ∀ name ∈ name?, source.AgreesOn source' name) :
    tagName source' name? = tagName source name? := by
  unfold tagName
  split
  · rfl
  · next name =>
    have hname := h name rfl
    dsimp only
    split
    · rw [(hname.getD_field? .name).text]
    · rw [hname.text]

theorem namespaceNames_eq (h : source.AgreesOn source' tree) :
    namespaceNames source' tree = namespaceNames source tree := by
  unfold namespaceNames
  rw [h.text]

theorem writtenType_eq (h : source.AgreesOn source' tree) :
    writtenType source' tree = writtenType source tree := by
  unfold writtenType
  rw [h.text]
  dsimp only
  split
  · rfl
  · rfl
  · rfl
  · rfl
  · split
    · next name hname => rw [(h.of_mem_field? name hname).text]
    · rfl
  · split
    · next name hname => rw [(h.of_mem_field? name hname).text]
    · rfl
  · rfl
  · have hname : (tree.field? .name).map (fun name => Text.normalizeScoped (source'.textOf name)) =
        (tree.field? .name).map fun name => Text.normalizeScoped (source.textOf name) :=
      Option.map_congr fun name hname => by rw [(h.of_mem_field? name hname).text]
    have hlist : (tree.field? .arguments).map (fun list => Text.collapse (source'.textOf list)) =
        (tree.field? .arguments).map fun list => Text.collapse (source.textOf list) :=
      Option.map_congr fun list hlist => by rw [(h.of_mem_field? list hlist).text]
    rw [hname, hlist]
  · rfl

theorem any_congr_of_mem {α : Type} {xs : List α} {p q : α → Bool} (h : ∀ x ∈ xs, p x = q x) :
    xs.any p = xs.any q := by
  rw [Bool.eq_iff_iff, List.any_eq_true, List.any_eq_true]
  apply exists_congr
  intro x
  apply and_congr_right
  intro hx
  rw [h x hx]

theorem hasKeyword_eq (h : source.AgreesOn source' tree) (kind : NodeKind) (keyword : String) :
    hasKeyword source' tree kind keyword = hasKeyword source tree kind keyword :=
  any_congr_of_mem fun child hchild => by rw [(h.of_mem_namedChildren hchild).text]

theorem hasConst_eq (h : source.AgreesOn source' tree) :
    hasConst source' tree = hasConst source tree :=
  hasKeyword_eq h _ _

theorem derivation?_eq (h : source.AgreesOn source' tree) :
    derivation? source' tree = derivation? source tree := by
  unfold derivation?
  rw [h.text, h.map_field?]

theorem derivations_eq {tree : ParseTree} (h : source.AgreesOn source' tree) :
    derivations source' tree = derivations source tree := by
  rw [derivations, derivations, derivation?_eq h]
  split
  · next inner hinner =>
    have hlt := size_lt_of_wrapped? hinner
    rw [derivations_eq (h.of_contains (contains_of_wrapped? hinner))]
  · rfl
termination_by tree.size

theorem typeUse_eq {declaration type : ParseTree} {declarator? : Option ParseTree}
    (hdeclaration : source.AgreesOn source' declaration) (htype : source.AgreesOn source' type)
    (hdeclarator : ∀ declarator ∈ declarator?, source.AgreesOn source' declarator) :
    typeUse source' declaration type declarator? = typeUse source declaration type declarator? := by
  have hderivations : declarator?.map (derivations source') = declarator?.map (derivations source) :=
    Option.map_congr fun declarator hmem => derivations_eq (hdeclarator declarator hmem)
  unfold typeUse
  rw [writtenType_eq htype, hasConst_eq hdeclaration, hderivations]

theorem functionParameter?_eq (h : source.AgreesOn source' tree) :
    functionParameter? source' tree = functionParameter? source tree := by
  unfold functionParameter?
  split
  · next type _ htype =>
    dsimp only
    rw [typeUse_eq h (h.of_mem_field? type htype) h.of_mem_field?, site_eq h]
    congr 2
    split
    · next name hname =>
      obtain ⟨declarator, hdeclarator, rfl⟩ := Option.map_eq_some_iff.mp hname
      rw [((h.of_mem_field? declarator hdeclarator).of_contains (contains_core declarator)).text]
    · rfl
  · rfl

theorem typeIdentifier?_eq (h : source.AgreesOn source' tree) :
    typeIdentifier? source' tree = typeIdentifier? source tree :=
  Option.map_congr fun _ hchild => (h.of_mem_namedChildren (List.mem_of_find?_eq_some hchild)).text

theorem templateParameter?_eq (h : source.AgreesOn source' tree) :
    templateParameter? source' tree = templateParameter? source tree := by
  unfold templateParameter?
  rw [typeIdentifier?_eq h, h.map_field?, site_eq h]
  dsimp only
  split
  · rfl
  · rfl
  · have hnames : ∀ child ∈ tree.namedChildren.filter (·.kind != .templateParameterList),
        typeIdentifier? source' child = typeIdentifier? source child :=
      fun child hchild => typeIdentifier?_eq (h.of_mem_namedChildren (List.mem_filter.mp hchild).1)
    rw [← List.head?_filterMap, ← List.head?_filterMap, List.filterMap_congr hnames]
  · have hdeclarator : ∀ declarator ∈
        (if (tree.field? .type).isSome then tree.field? .declarator else none),
        source.AgreesOn source' declarator := by
      split
      · exact h.of_mem_field?
      · simp
    generalize (if (tree.field? .type).isSome then tree.field? .declarator else none) = declarator?
      at hdeclarator
    have hname : declarator?.map (fun d => (declaratorName source' (core d)).name) =
        declarator?.map fun d => (declaratorName source (core d)).name :=
      Option.map_congr fun d hd => by
        rw [declaratorName_eq ((hdeclarator d hd).of_contains (contains_core d))]
    have htype : (tree.field? .type).map (fun type => typeUse source' tree type declarator?) =
        (tree.field? .type).map fun type => typeUse source tree type declarator? :=
      Option.map_congr fun type htype => typeUse_eq h (h.of_mem_field? type htype) hdeclarator
    rw [hname, htype]
  · rfl

theorem templateParameters_eq (h : source.AgreesOn source' tree) :
    templateParameters source' tree = templateParameters source tree := by
  unfold templateParameters
  split
  · next list hlist =>
    have hinside := h.of_mem_field? list hlist
    exact List.filterMap_congr fun child hchild =>
      templateParameter?_eq (hinside.of_mem_namedChildren hchild)
  · rfl

theorem functionDeclarator_eq (h : source.AgreesOn source' tree) :
    functionDeclarator source' tree = functionDeclarator source tree := by
  have hname := h.getD_field? .declarator
  unfold functionDeclarator
  dsimp only
  rw [declaratorName_eq hname, hname.location]
  congr 1
  · split
    · next list hlist =>
      have hinside := h.of_mem_field? list hlist
      exact List.filterMap_congr fun child hchild =>
        functionParameter?_eq (hinside.of_mem_namedChildren hchild)
    · rfl
  · exact any_congr_of_mem fun child hchild => by rw [(h.of_mem_namedChildren hchild).text]

theorem declared_eq (h : source.AgreesOn source' tree) :
    declared source' tree = declared source tree := by
  unfold declared
  rw [functionDeclarator_eq h, h.map_field?]

theorem declarator_eq (h : source.AgreesOn source' tree) :
    declarator source' tree = declarator source tree := by
  have hcore := h.of_contains (contains_core tree)
  unfold declarator
  dsimp only
  rw [derivations_eq h, declaratorName_eq hcore, hcore.location, declared_eq hcore]

theorem baseClasses_eq {trees : List ParseTree} (h : ∀ tree ∈ trees, source.AgreesOn source' tree)
    (pending : Option Access) : baseClasses source' pending trees = baseClasses source pending trees := by
  induction trees generalizing pending with
  | nil => rfl
  | cons child rest ih =>
    rw [List.forall_mem_cons] at h
    simp only [baseClasses, h.1.text, writtenType_eq h.1, site_eq h.1, ih h.2]

theorem recordHead_eq (h : source.AgreesOn source' tree) (keyword : RecordKeyword) :
    recordHead source' keyword tree = recordHead source keyword tree := by
  have hname := h.getD_field? .name
  unfold recordHead
  dsimp only
  rw [tagName_eq h.of_mem_field?, hname.location, h.location]
  congr 1
  split
  · next clause hclause =>
    have hinside := h.of_mem_namedChildren (List.mem_of_find?_eq_some hclause)
    exact baseClasses_eq (fun child hchild => hinside.of_mem_namedChildren hchild) none
  · rfl

theorem enumerator?_eq (h : source.AgreesOn source' tree) :
    enumerator? source' tree = enumerator? source tree := by
  unfold enumerator?
  split
  · next name _ hname =>
    rw [(h.of_mem_field? name hname).text, (h.of_mem_field? name hname).location]
  · rfl

theorem enumHead_eq (h : source.AgreesOn source' tree) :
    enumHead source' tree = enumHead source tree := by
  have hname := h.getD_field? .name
  unfold enumHead
  dsimp only
  rw [tagName_eq h.of_mem_field?, hname.location, h.location]
  congr 1
  split
  · next body hbody =>
    have hinside := h.of_mem_field? body hbody
    exact List.filterMap_congr fun child hchild =>
      enumerator?_eq (hinside.of_mem_namedChildren hchild)
  · rfl

theorem declaratorList_eq (h : source.AgreesOn source' tree) :
    declaratorList source' tree = declaratorList source tree := by
  unfold declaratorList
  rw [hasConst_eq h, hasKeyword_eq h, hasKeyword_eq h]
  congr 1
  exact List.map_congr_left fun child hchild => declarator_eq (h.of_mem_fields child hchild)

theorem typedefs_eq (h : source.AgreesOn source' tree) :
    typedefs source' tree = typedefs source tree := by
  unfold typedefs
  apply List.map_congr_left
  intro child hchild
  have hcore := (h.of_mem_fields child hchild).of_contains (contains_core child)
  dsimp only
  rw [declaratorName_eq hcore, hcore.location]

theorem aliasItems_eq (h : source.AgreesOn source' tree) :
    aliasItems source' tree = aliasItems source tree := by
  unfold aliasItems
  split
  · next name hname =>
    rw [(h.of_mem_field? name hname).text, (h.of_mem_field? name hname).location]
  · rfl

theorem usingItems_eq (h : source.AgreesOn source' tree) :
    usingItems source' tree = usingItems source tree := by
  unfold usingItems
  split
  · next target htarget =>
    have hinside := h.of_mem_namedChildren (List.mem_of_getLast? htarget)
    dsimp only
    rw [hinside.text, hinside.location]
  · rfl

theorem inclusionItems_eq (h : source.AgreesOn source' tree) :
    inclusionItems source' tree = inclusionItems source tree := by
  unfold inclusionItems
  split
  · next path hpath =>
    rw [(h.of_mem_field? path hpath).text, (h.of_mem_field? path hpath).location]
  · rfl

theorem macroItems_eq (h : source.AgreesOn source' tree) :
    macroItems source' tree = macroItems source tree := by
  unfold macroItems
  split
  · next name hname =>
    rw [(h.of_mem_field? name hname).text, (h.of_mem_field? name hname).location]
  · rfl

mutual

theorem members_eq {tree : ParseTree}
    (h : ∀ child ∈ tree.namedChildren, source.AgreesOn source' child) :
    members source' tree = members source tree := by
  rw [members, members]
  apply List.flatMap_congr
  rintro ⟨child, hchild⟩ -
  have hinside := h child hchild
  have hlt := size_lt_of_mem_namedChildren hchild
  dsimp only
  split
  · rw [hinside.text, site_eq hinside]
  · exact members_eq fun _ => hinside.of_mem_namedChildren
  · exact items_eq hinside
termination_by 2 * tree.size + 1
decreasing_by all_goals omega

theorem bodyMembers_eq {tree : ParseTree} (h : source.AgreesOn source' tree) :
    bodyMembers source' tree = bodyMembers source tree := by
  rw [bodyMembers, bodyMembers]
  split
  · next body hbody =>
    have hlt := size_lt_of_field? hbody
    exact members_eq fun _ => (h.of_mem_field? body hbody).of_mem_namedChildren
  · rfl
termination_by 2 * tree.size
decreasing_by omega

theorem items_eq {tree : ParseTree} (h : source.AgreesOn source' tree) :
    items source' tree = items source tree := by
  have hbody := bodyMembers_eq h
  rw [items, items]
  split
  · have hnames : (tree.field? .name).map (namespaceNames source') =
        (tree.field? .name).map (namespaceNames source) :=
      Option.map_congr fun name hname => namespaceNames_eq (h.of_mem_field? name hname)
    dsimp only
    rw [hnames, hbody]
    split
    · rw [h.location]
    · rw [(h.getD_field? .name).location]
  · split
    · next body hfield =>
      have hlt := size_lt_of_field? hfield
      rw [hbody, site_eq h, items_eq (h.of_mem_field? body hfield)]
    · rw [site_eq h]
  · rw [recordHead_eq h, hbody]
  · rw [enumHead_eq h]
  · dsimp only
    rw [declaratorList_eq h]
    split
    · rfl
    · next type htype =>
      have hinside := h.of_mem_field? type htype
      have hlt := size_lt_of_field? htype
      split
      · rw [recordHead_eq hinside, bodyMembers_eq hinside]
      · rw [enumHead_eq hinside]
      · rw [writtenType_eq hinside]
  · rw [typedefs_eq h]
    split
    · rfl
    · next type htype =>
      have hinside := h.of_mem_field? type htype
      have hlt := size_lt_of_field? htype
      split
      · rw [recordHead_eq hinside, bodyMembers_eq hinside]
      · rw [enumHead_eq hinside]
      · rfl
  · split
    · rfl
    · next declarator hdeclarator =>
      have hinside := h.of_mem_field? declarator hdeclarator
      have hresult : (tree.field? .type).map
            (fun type => typeUse source' tree type (some declarator)) =
          (tree.field? .type).map fun type => typeUse source tree type (some declarator) :=
        Option.map_congr fun type htype => typeUse_eq h (h.of_mem_field? type htype)
          fun _ hsome => Option.some.inj hsome ▸ hinside
      have hsite : ((tree.field? .body).filter (·.kind == .compoundStatement)).map (site source') =
          ((tree.field? .body).filter (·.kind == .compoundStatement)).map (site source) :=
        Option.map_congr fun body hbody =>
          site_eq (h.of_mem_field? body (Option.filter_eq_some_iff.mp hbody).1)
      dsimp only
      rw [functionDeclarator_eq (hinside.of_contains (contains_core declarator)), hresult, hsite, hbody]
  · rw [templateParameters_eq h]
    congr 2
    apply List.flatMap_congr
    rintro ⟨child, hchild⟩ -
    have hnamed := (List.mem_filter.mp hchild).1
    have hlt := size_lt_of_mem_namedChildren hnamed
    exact items_eq (h.of_mem_namedChildren hnamed)
  · exact aliasItems_eq h
  · exact usingItems_eq h
  · exact inclusionItems_eq h
  · exact macroItems_eq h
  · rfl
termination_by 2 * tree.size + 1
decreasing_by all_goals omega

end

end Declaration
end CursorQuery
