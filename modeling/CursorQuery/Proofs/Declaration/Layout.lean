import CursorQuery.Proofs.Declaration.Agreement
import CursorQuery.Proofs.Declaration.Parameters
import CursorQuery.Proofs.Source.Layout

/-!
This module contains where the items of a laid out parse tree are written: the sites of what they
declare, and the sites inside of these, which are in source order.
-/

namespace CursorQuery

namespace Site

def offset (site : Site) : Nat :=
  site.location.offset

/-- The place that stands for the site is that of a node of the tree in the text of the site. -/
def WrittenIn (source : Source) (tree : ParseTree) (site : Site) : Prop :=
  ∃ place, tree.Contains place ∧ place.span.Within site.span ∧ site.location = source.locationOf place

/-- The place that stands for the site is that of a node, but its text can be larger. -/
def StandsIn (source : Source) (node : ParseTree) (span : Span) (site : Site) : Prop :=
  ∃ place, node.Contains place ∧ site = { location := source.locationOf place, span }

/-- The sites come before the text of others, in source order. -/
structure Lead (source : Source) (tree : ParseTree) (leading later : List Site) : Prop where
  written : ∀ site ∈ leading, site.WrittenIn source tree
  sorted : leading.Pairwise fun first later => first.offset ≤ later.offset
  before : ∀ site ∈ leading, ∀ site' ∈ later, site.offset ≤ site'.span.start

theorem Lead.nil {source : Source} {tree : ParseTree} {later : List Site} :
    Lead source tree [] later :=
  ⟨by simp, .nil, by simp⟩

end Site

namespace Span

/-- The sites are written in the span, in source order. -/
structure Arranges (source : Source) (tree : ParseTree) (span : Span) (sites : List Site) : Prop where
  written : ∀ site ∈ sites, site.WrittenIn source tree
  within : ∀ site ∈ sites, site.span.Within span
  sorted : sites.Pairwise fun first later => first.offset ≤ later.offset

variable {source : Source} {root : ParseTree} {span outer : Span} {site : Site} {sites later : List Site}

namespace Arranges

theorem nil : span.Arranges source root [] :=
  ⟨by simp, by simp, .nil⟩

theorem singleton (hwritten : site.WrittenIn source root) (hwithin : site.span.Within span) :
    span.Arranges source root [site] :=
  ⟨List.forall_mem_singleton.mpr hwritten, List.forall_mem_singleton.mpr hwithin,
    List.pairwise_singleton _ _⟩

theorem mono (h : span.Arranges source root sites) (hspan : span.Within outer) :
    outer.Arranges source root sites :=
  ⟨h.written, fun site hsite => (h.within site hsite).trans hspan, h.sorted⟩

theorem sublist (h : span.Arranges source root sites) (hsublist : later.Sublist sites) :
    span.Arranges source root later :=
  ⟨fun site hsite => h.written site (hsublist.subset hsite),
    fun site hsite => h.within site (hsublist.subset hsite), h.sorted.sublist hsublist⟩

theorem append (h : span.Arranges source root sites) (hlater : span.Arranges source root later)
    (hle : ∀ site ∈ sites, ∀ site' ∈ later, site.offset ≤ site'.offset) :
    span.Arranges source root (sites ++ later) :=
  ⟨List.forall_mem_append.mpr ⟨h.written, hlater.written⟩,
    List.forall_mem_append.mpr ⟨h.within, hlater.within⟩,
    List.pairwise_append.mpr ⟨h.sorted, hlater.sorted, hle⟩⟩

end Arranges
end Span

namespace Site

variable {source : Source} {root node : ParseTree} {span : Span} {site : Site}

theorem WrittenIn.le_offset (h : site.WrittenIn source root) : site.span.start ≤ site.offset := by
  obtain ⟨place, -, hwithin, hlocation⟩ := h
  rw [offset, hlocation]
  exact hwithin.1

theorem WrittenIn.offset_le (h : site.WrittenIn source root) (hroot : root.AllLaidOut) :
    site.offset ≤ site.span.stop := by
  obtain ⟨place, hcontains, hwithin, hlocation⟩ := h
  rw [offset, hlocation]
  exact Nat.le_trans (hroot place hcontains).start_le hwithin.2

theorem StandsIn.writtenIn (h : site.StandsIn source node span) (hroot : root.AllLaidOut)
    (hnode : root.Contains node) (hspan : node.span.Within span) : site.WrittenIn source root := by
  obtain ⟨place, hplace, rfl⟩ := h
  exact ⟨place, hnode.trans hplace, ((hroot.of_contains hnode).within hplace).trans hspan, rfl⟩

theorem StandsIn.offset_mem (h : site.StandsIn source node span) (hroot : root.AllLaidOut)
    (hnode : root.Contains node) :
    node.span.start ≤ site.offset ∧ site.offset ≤ node.span.stop := by
  obtain ⟨place, hplace, rfl⟩ := h
  have hwithin := (hroot.of_contains hnode).within hplace
  have hle := (hroot place (hnode.trans hplace)).start_le
  exact ⟨hwithin.1, Nat.le_trans hle hwithin.2⟩

end Site

namespace Span.Arranges

variable {source : Source} {root tree : ParseTree} {span : Span} {site : Site} {sites : List Site}

theorem le_offset (h : span.Arranges source root sites) (hsite : site ∈ sites) :
    span.start ≤ site.offset :=
  Nat.le_trans (h.within site hsite).1 (h.written site hsite).le_offset

theorem offset_le (h : span.Arranges source root sites) (hroot : root.AllLaidOut)
    (hsite : site ∈ sites) : site.offset ≤ span.stop :=
  Nat.le_trans ((h.written site hsite).offset_le hroot) (h.within site hsite).2

theorem pairwise_flatMap {nodes : List ParseTree} {sitesOf : ParseTree → List Site}
    (hnodes : nodes.Pairwise fun first later => first.span.Precedes later.span)
    (hmem : ∀ node ∈ nodes, ∀ site ∈ sitesOf node,
      node.span.start ≤ site.offset ∧ site.offset ≤ node.span.stop)
    (hsorted : ∀ node ∈ nodes, (sitesOf node).Pairwise fun first later => first.offset ≤ later.offset) :
    (nodes.flatMap sitesOf).Pairwise fun first later => first.offset ≤ later.offset := by
  rw [List.pairwise_flatMap]
  refine ⟨hsorted, hnodes.imp_of_mem ?_⟩
  intro first later hfirst hlater hprecedes site hsite site' hsite'
  exact Nat.le_trans (hmem first hfirst site hsite).2
    (Nat.le_trans hprecedes (hmem later hlater site' hsite').1)

theorem flatMap {nodes : List ParseTree} {sitesOf : ParseTree → List Site} (hroot : root.AllLaidOut)
    (hnodes : nodes.Pairwise fun first later => first.span.Precedes later.span)
    (hwithin : ∀ node ∈ nodes, node.span.Within span)
    (h : ∀ node ∈ nodes, node.span.Arranges source root (sitesOf node)) :
    span.Arranges source root (nodes.flatMap sitesOf) := by
  constructor
  · intro site hsite
    obtain ⟨node, hnode, hmem⟩ := List.mem_flatMap.mp hsite
    exact (h node hnode).written site hmem
  · intro site hsite
    obtain ⟨node, hnode, hmem⟩ := List.mem_flatMap.mp hsite
    exact ((h node hnode).within site hmem).trans (hwithin node hnode)
  · apply pairwise_flatMap hnodes
    · intro node hnode site hsite
      exact ⟨(h node hnode).le_offset hsite, (h node hnode).offset_le hroot hsite⟩
    · exact fun node hnode => (h node hnode).sorted

theorem map {nodes : List ParseTree} {siteOf : ParseTree → Site} {spanOf : ParseTree → Span}
    (hroot : root.AllLaidOut)
    (hnodes : nodes.Pairwise fun first later => first.span.Precedes later.span)
    (hcontains : ∀ node ∈ nodes, root.Contains node)
    (hinner : ∀ node ∈ nodes, node.span.Within (spanOf node))
    (houter : ∀ node ∈ nodes, (spanOf node).Within span)
    (h : ∀ node ∈ nodes, (siteOf node).StandsIn source node (spanOf node)) :
    span.Arranges source root (nodes.map siteOf) := by
  constructor
  · rw [List.forall_mem_map]
    intro node hnode
    exact (h node hnode).writtenIn hroot (hcontains node hnode) (hinner node hnode)
  · rw [List.forall_mem_map]
    intro node hnode
    obtain ⟨place, -, hsite⟩ := h node hnode
    rw [hsite]
    exact houter node hnode
  · rw [List.map_eq_flatMap]
    apply pairwise_flatMap hnodes
    · intro node hnode
      exact List.forall_mem_singleton.mpr ((h node hnode).offset_mem hroot (hcontains node hnode))
    · exact fun _ _ => List.pairwise_singleton _ _

theorem map_namedChildren {siteOf : ParseTree → Site} (hroot : root.AllLaidOut)
    (htree : root.Contains tree)
    (h : ∀ child ∈ tree.namedChildren, (siteOf child).StandsIn source child child.span) :
    tree.span.Arranges source root (tree.namedChildren.map siteOf) := by
  have hlaid := hroot tree htree
  apply map hroot hlaid.pairwise_namedChildren _ (fun _ _ => .refl _) _ h
  · exact fun _ hchild => htree.of_mem_namedChildren hchild
  · exact fun _ hchild => hlaid.within _ (List.mem_filter.mp hchild).1

theorem map_declarators {siteOf : ParseTree → Site} (hroot : root.AllLaidOut)
    (htree : root.Contains tree)
    (h : ∀ child ∈ tree.fields .declarator, (siteOf child).StandsIn source child tree.span) :
    tree.span.Arranges source root ((tree.fields .declarator).map siteOf) := by
  have hlaid := hroot tree htree
  apply map hroot (hlaid.pairwise_fields _) _ _ (fun _ _ => .refl _) h
  · exact fun _ hchild => htree.of_mem_fields hchild
  · exact fun _ hchild => hlaid.within _ (List.mem_filter.mp hchild).1

end Span.Arranges

structure Frame where
  site : Site
  inside : List Site

def Frame.IsArranged (source : Source) (tree : ParseTree) (frame : Frame) : Prop :=
  frame.site.span.Arranges source tree frame.inside

def FunctionDeclarator.frame (declarator : FunctionDeclarator) (span : Span) (body? : Option Site) :
    Frame where
  site := { location := declarator.location, span }
  inside := declarator.parameters.map (·.site) ++ body?.toList

def Declarator.frame (declarator : Declarator) (span : Span) : Frame :=
  match declarator.declared with
  | .function function => function.frame span none
  | _ => { site := { location := declarator.location, span }, inside := [] }

def DeclaratorList.frames (rest : DeclaratorList) : List Frame :=
  rest.declarators.map (·.frame rest.span)

def DeclaratorList.sites (rest : DeclaratorList) : List Site :=
  rest.frames.map (·.site)

def RecordHead.site (head : RecordHead) : Site where
  location := head.location
  span := head.span

def EnumHead.site (head : EnumHead) : Site where
  location := head.location
  span := head.span

namespace Item

mutual

def sites : Item → List Site
  | .accessLabel _ site => [site]
  | .namespaceBlock _ site _ => [site]
  | .linkageBlock site _ => [site]
  | .template _ body => allSites body
  | .record head _ rest => head.site :: rest.sites
  | .enumeration head rest => head.site :: rest.sites
  | .declaration _ rest => rest.sites
  | .function declarator _ span _ _ => [{ location := declarator.location, span }]
  | .typeAlias _ _ site => [site]
  | .usingName _ _ site => [site]
  | .inclusion _ site => [site]
  | .macroDefinition _ site => [site]

def allSites : List Item → List Site
  | [] => []
  | item :: items => sites item ++ allSites items

end

def frames : Item → List Frame
  | .namespaceBlock _ site body => [⟨site, allSites body⟩]
  | .linkageBlock site body => [⟨site, allSites body⟩]
  | .record head members rest =>
    ⟨head.site, head.bases.map (·.site) ++ allSites members⟩ :: rest.frames
  | .enumeration head rest => ⟨head.site, head.enumerators.map (·.site)⟩ :: rest.frames
  | .declaration _ rest => rest.frames
  | .function declarator _ span body? members =>
    declarator.frame span body? :: body?.toList.map fun body => ⟨body, allSites members⟩
  | _ => []

def parameters : Item → List Parameter
  | .template parameters _ => parameters
  | _ => []

structure IsArranged (source : Source) (tree : ParseTree) (item : Item) : Prop where
  frames : ∀ frame ∈ item.frames, frame.IsArranged source tree
  kind : ∀ parameter ∈ item.parameters, parameter.kind ≠ .function
  leads : Site.Lead source tree (item.parameters.map (·.site)) (allSites item.inside)

variable {source : Source} {tree : ParseTree}

theorem allSites_eq_flatMap (items : List Item) : allSites items = items.flatMap sites := by
  induction items with
  | nil => rfl
  | cons item items ih => rw [allSites, List.flatMap_cons, ih]

theorem allSites_append (first later : List Item) :
    allSites (first ++ later) = allSites first ++ allSites later := by
  rw [allSites_eq_flatMap, allSites_eq_flatMap, allSites_eq_flatMap, List.flatMap_append]

theorem allSites_singleton (item : Item) : allSites [item] = item.sites := by
  rw [allSites_eq_flatMap, List.flatMap_singleton]

theorem isArranged_of_frames {item : Item} (hparameters : item.parameters = [])
    (h : ∀ frame ∈ item.frames, frame.IsArranged source tree) : item.IsArranged source tree := by
  refine ⟨h, by simp [hparameters], ?_⟩
  rw [hparameters]
  exact .nil

theorem isArranged_of_isSimple {item : Item} (h : item.isSimple) : item.IsArranged source tree := by
  cases item with
  | accessLabel | typeAlias | usingName | inclusion | macroDefinition =>
    exact isArranged_of_frames rfl (by simp [frames])
  | _ => contradiction

end Item

namespace Declaration

open ParseTree Item

variable {source : Source} {root tree node : ParseTree}

theorem sublist_map_filterMap {α β γ : Type} {f : α → Option β} {g : β → γ} {k : α → γ}
    (h : ∀ a b, f a = some b → g b = k a) (as : List α) :
    ((as.filterMap f).map g).Sublist (as.map k) := by
  induction as with
  | nil => exact .refl _
  | cons a as ih =>
    cases hf : f a with
    | none =>
      rw [List.filterMap_cons_none hf]
      exact .cons _ ih
    | some b =>
      rw [List.filterMap_cons_some hf, List.map_cons, List.map_cons, h a b hf]
      exact .cons_cons _ ih

theorem standsIn_site (source : Source) (node : ParseTree) :
    (site source node).StandsIn source node node.span :=
  ⟨node, .refl, rfl⟩

theorem site_of_functionParameter? {parameter : Parameter}
    (h : functionParameter? source node = some parameter) : parameter.site = site source node := by
  unfold functionParameter? at h
  split at h
  · obtain rfl := Option.some.inj h
    rfl
  · contradiction

theorem site_of_templateParameter? {parameter : Parameter}
    (h : templateParameter? source node = some parameter) : parameter.site = site source node := by
  unfold templateParameter? at h
  dsimp only at h
  split at h
  · obtain rfl := Option.some.inj h
    rfl
  · obtain rfl := Option.some.inj h
    rfl
  · obtain rfl := Option.some.inj h
    rfl
  · obtain rfl := Option.some.inj h
    rfl
  · contradiction

theorem site_of_enumerator? {enumerator : Enumerator} (h : enumerator? source node = some enumerator) :
    enumerator.site =
      { location := source.locationOf ((node.field? .name).getD node), span := node.span } := by
  unfold enumerator? at h
  split at h
  · next name hname =>
    obtain rfl := Option.some.inj h
    rw [hname]
    rfl
  · contradiction

theorem sublist_baseClasses (source : Source) (pending : Option Access) (nodes : List ParseTree) :
    ((baseClasses source pending nodes).map (·.site)).Sublist (nodes.map (site source)) := by
  induction nodes generalizing pending with
  | nil => exact .refl _
  | cons node nodes ih =>
    rw [baseClasses]
    split
    · exact .cons _ (ih _)
    · exact .cons_cons _ (ih _)
    · exact .cons_cons _ (ih _)
    · exact .cons_cons _ (ih _)
    · exact .cons_cons _ (ih _)
    · exact .cons _ (ih _)

theorem contains_getD_field? (tree : ParseTree) (field : Field) :
    tree.Contains ((tree.field? field).getD tree) := by
  cases hfield : tree.field? field with
  | none => exact .refl
  | some child => exact Contains.of_field? .refl hfield

theorem arranges_sites (source : Source) (hroot : root.AllLaidOut) (htree : root.Contains tree) :
    tree.span.Arranges source root (tree.namedChildren.map (site source)) :=
  .map_namedChildren hroot htree fun child _ => standsIn_site source child

theorem arranges_parameters (source : Source) (hroot : root.AllLaidOut) (htree : root.Contains tree) :
    tree.span.Arranges source root ((functionDeclarator source tree).parameters.map (·.site)) := by
  unfold functionDeclarator
  dsimp only
  split
  · next list hlist =>
    apply ((arranges_sites source hroot (htree.of_field? hlist)).sublist _).mono
    · exact (hroot tree htree).within _ (List.mem_of_find?_eq_some hlist)
    · exact sublist_map_filterMap (fun _ _ => site_of_functionParameter?) _
  · exact .nil

theorem isArranged_functionDeclarator (source : Source) (hroot : root.AllLaidOut)
    (htree : root.Contains tree) {span : Span} (hspan : tree.span.Within span) :
    ((functionDeclarator source tree).frame span none).IsArranged source root := by
  unfold Frame.IsArranged FunctionDeclarator.frame
  rw [Option.toList_none, List.append_nil]
  exact (arranges_parameters source hroot htree).mono hspan

theorem isArranged_declarator (source : Source) (hroot : root.AllLaidOut)
    (htree : root.Contains tree) {span : Span} (hspan : tree.span.Within span) :
    ((declarator source tree).frame span).IsArranged source root := by
  have hcore : root.Contains (core tree) := htree.trans (contains_core tree)
  have hwithin := ((hroot.of_contains htree).within (contains_core tree)).trans hspan
  unfold Declarator.frame declarator declared
  dsimp only
  split
  · next function hdeclared =>
    split at hdeclared
    · contradiction
    · split at hdeclared
      · obtain rfl := Declared.function.inj hdeclared
        exact isArranged_functionDeclarator source hroot hcore hwithin
      · contradiction
  · exact .nil

theorem standsIn_declarator (source : Source) (tree : ParseTree) (span : Span) :
    ((declarator source tree).frame span).site.StandsIn source tree span := by
  unfold Declarator.frame declarator declared
  dsimp only
  split
  · next function hdeclared =>
    split at hdeclared
    · contradiction
    · split at hdeclared
      · obtain rfl := Declared.function.inj hdeclared
        exact ⟨_, (contains_core tree).trans (contains_getD_field? _ .declarator), rfl⟩
      · contradiction
  · exact ⟨_, contains_core tree, rfl⟩

theorem sites_declaratorList (source : Source) (tree : ParseTree) :
    (declaratorList source tree).sites =
      (tree.fields .declarator).map fun child => ((declarator source child).frame tree.span).site := by
  unfold DeclaratorList.sites DeclaratorList.frames declaratorList
  rw [List.map_map, List.map_map]
  rfl

theorem arranges_declaratorList (source : Source) (hroot : root.AllLaidOut)
    (htree : root.Contains tree) :
    tree.span.Arranges source root (declaratorList source tree).sites := by
  rw [sites_declaratorList]
  exact .map_declarators hroot htree fun child _ => standsIn_declarator source child tree.span

theorem isArranged_declaratorList (source : Source) (hroot : root.AllLaidOut)
    (htree : root.Contains tree) :
    ∀ frame ∈ (declaratorList source tree).frames, frame.IsArranged source root := by
  unfold DeclaratorList.frames declaratorList
  rw [List.forall_mem_map, List.forall_mem_map]
  intro child hchild
  exact isArranged_declarator source hroot (htree.of_mem_fields hchild)
    ((hroot tree htree).within _ (List.mem_filter.mp hchild).1)

theorem standsIn_recordHead (source : Source) (keyword : RecordKeyword) (tree : ParseTree) :
    (recordHead source keyword tree).site.StandsIn source tree tree.span :=
  ⟨_, contains_getD_field? tree .name, rfl⟩

theorem standsIn_enumHead (source : Source) (tree : ParseTree) :
    (enumHead source tree).site.StandsIn source tree tree.span :=
  ⟨_, contains_getD_field? tree .name, rfl⟩

theorem arranges_tag {type : ParseTree} {site : Site} (hroot : root.AllLaidOut)
    (htree : root.Contains tree) (htype : tree.field? .type = some type)
    (hsite : site.StandsIn source type type.span) {siteOf : ParseTree → Site}
    (h : ∀ child ∈ tree.fields .declarator, (siteOf child).StandsIn source child tree.span) :
    tree.span.Arranges source root (site :: (tree.fields .declarator).map siteOf) := by
  have hlaid := hroot tree htree
  have hcontains := htree.of_field? htype
  have hwithin := hlaid.within _ (List.mem_of_find?_eq_some htype)
  have hspan : site.span = type.span := by
    obtain ⟨place, -, rfl⟩ := hsite
    rfl
  refine .append (.singleton (hsite.writtenIn hroot hcontains (.refl _)) (hspan ▸ hwithin))
    (.map_declarators hroot htree h) ?_
  rw [List.forall_mem_singleton, List.forall_mem_map]
  intro child hchild
  have hprecedes := hlaid.type type (mem_fields_of_field? htype) child hchild
  exact Nat.le_trans (hsite.offset_mem hroot hcontains).2
    (Nat.le_trans hprecedes ((h child hchild).offset_mem hroot (htree.of_mem_fields hchild)).1)

theorem allSites_typedefs (source : Source) (tree : ParseTree) :
    allSites (typedefs source tree) = (tree.fields .declarator).map fun child =>
      { location := source.locationOf (core child), span := tree.span } := by
  rw [allSites_eq_flatMap, typedefs, List.flatMap_map, List.map_eq_flatMap]
  rfl

theorem arranges_single {item : Item} {site : Site} (hroot : root.AllLaidOut)
    (htree : root.Contains tree) (hsites : item.sites = [site])
    (h : site.StandsIn source tree tree.span) :
    tree.span.Arranges source root (allSites [item]) := by
  rw [allSites_singleton, hsites]
  have hwritten := h.writtenIn hroot htree (.refl _)
  obtain ⟨place, -, rfl⟩ := h
  exact .singleton hwritten (.refl _)

theorem standsIn_of_contains {place : ParseTree} (h : tree.Contains place) :
    ({ location := source.locationOf place, span := tree.span } : Site).StandsIn source tree tree.span :=
  ⟨place, h, rfl⟩

mutual

theorem arranges_members (source : Source) {root tree : ParseTree} (hroot : root.AllLaidOut)
    (htree : root.Contains tree) :
    tree.span.Arranges source root (allSites (members source tree)) := by
  have hlaid := hroot tree htree
  rw [members_eq_flatMap, allSites_eq_flatMap, List.flatMap_assoc]
  apply Span.Arranges.flatMap hroot hlaid.pairwise_namedChildren
  · exact fun child hchild => hlaid.within _ (List.mem_filter.mp hchild).1
  · intro child hchild
    have hcontains := htree.of_mem_namedChildren hchild
    have hlt := size_lt_of_mem_namedChildren hchild
    rw [← allSites_eq_flatMap]
    unfold childItems
    split
    · exact arranges_single hroot hcontains rfl (standsIn_site source child)
    · exact arranges_members source hroot hcontains
    · exact arranges_items source hroot hcontains
termination_by tree.size

theorem arranges_items (source : Source) {root tree : ParseTree} (hroot : root.AllLaidOut)
    (htree : root.Contains tree) :
    tree.span.Arranges source root (allSites (items source tree)) := by
  have hlaid := hroot tree htree
  rw [items]
  split
  · refine arranges_single hroot htree rfl (standsIn_of_contains ?_)
    split
    · exact .refl
    · exact contains_getD_field? tree .name
  · split
    · split
      · exact arranges_single hroot htree rfl (standsIn_site source tree)
      · exact arranges_single hroot htree rfl (standsIn_site source tree)
    · exact arranges_single hroot htree rfl (standsIn_site source tree)
  · exact arranges_single hroot htree rfl (standsIn_recordHead source _ tree)
  · exact arranges_single hroot htree rfl (standsIn_enumHead source tree)
  · dsimp only
    split
    · rw [allSites_singleton]
      exact arranges_declaratorList source hroot htree
    · next type htype =>
      split
      · rw [allSites_singleton, sites, sites_declaratorList]
        exact arranges_tag hroot htree htype (standsIn_recordHead source _ type)
          fun child _ => standsIn_declarator source child tree.span
      · rw [allSites_singleton, sites, sites_declaratorList]
        exact arranges_tag hroot htree htype (standsIn_enumHead source type)
          fun child _ => standsIn_declarator source child tree.span
      · rw [allSites_singleton]
        exact arranges_declaratorList source hroot htree
  · have hstands : ∀ child ∈ tree.fields .declarator,
        ({ location := source.locationOf (core child), span := tree.span } : Site).StandsIn source child
          tree.span := fun child _ => ⟨_, contains_core child, rfl⟩
    rw [allSites_append, allSites_typedefs]
    split
    · exact .map_declarators hroot htree hstands
    · next type htype =>
      split
      · exact arranges_tag hroot htree htype (standsIn_recordHead source _ type) hstands
      · exact arranges_tag hroot htree htype (standsIn_enumHead source type) hstands
      · exact .map_declarators hroot htree hstands
  · split
    · exact .nil
    · next declarator hdeclarator =>
      dsimp only
      split
      · refine arranges_single hroot htree rfl (standsIn_of_contains ?_)
        exact (Contains.of_field? .refl hdeclarator).trans
          ((contains_core declarator).trans (contains_getD_field? _ .declarator))
      · exact .nil
  · rw [allSites_singleton, sites, List.flatMap_subtype (g := items source) (fun _ _ => rfl),
      List.unattach_attach, allSites_eq_flatMap, List.flatMap_assoc]
    apply Span.Arranges.flatMap hroot (hlaid.pairwise_namedChildren.sublist List.filter_sublist)
    · exact fun child hchild =>
        hlaid.within _ (List.mem_filter.mp (List.mem_filter.mp hchild).1).1
    · intro child hchild
      have hnamed := (List.mem_filter.mp hchild).1
      have hlt := size_lt_of_mem_namedChildren hnamed
      rw [← allSites_eq_flatMap]
      exact arranges_items source hroot (htree.of_mem_namedChildren hnamed)
  · unfold aliasItems
    split
    · next name hname =>
      exact arranges_single hroot htree rfl (standsIn_of_contains (Contains.of_field? .refl hname))
    · exact .nil
  · unfold usingItems
    split
    · next target htarget =>
      exact arranges_single hroot htree rfl
        (standsIn_of_contains (Contains.of_mem_namedChildren .refl (List.mem_of_getLast? htarget)))
    · exact .nil
  · unfold inclusionItems
    split
    · next path hpath =>
      exact arranges_single hroot htree rfl (standsIn_of_contains (Contains.of_field? .refl hpath))
    · exact .nil
  · unfold macroItems
    split
    · next name hname =>
      exact arranges_single hroot htree rfl (standsIn_of_contains (Contains.of_field? .refl hname))
    · exact .nil
  · exact .nil
termination_by tree.size

end

theorem arranges_bodyMembers (source : Source) (hroot : root.AllLaidOut)
    (htree : root.Contains tree) :
    tree.span.Arranges source root (allSites (bodyMembers source tree)) := by
  rw [bodyMembers]
  split
  · next body hbody =>
    exact (arranges_members source hroot (htree.of_field? hbody)).mono
      ((hroot tree htree).within _ (List.mem_of_find?_eq_some hbody))
  · exact .nil

theorem bases_eq_nil_or_arranges (source : Source) (keyword : RecordKeyword) (hroot : root.AllLaidOut)
    (htree : root.Contains tree) :
    (recordHead source keyword tree).bases = []
      ∨ ∃ clause ∈ tree.namedChildren, clause.kind = .baseClause
        ∧ clause.span.Arranges source root ((recordHead source keyword tree).bases.map (·.site)) := by
  unfold recordHead
  dsimp only
  split
  · next clause hclause =>
    have hmem := List.mem_of_find?_eq_some hclause
    refine .inr ⟨clause, hmem, by simpa using List.find?_some hclause, ?_⟩
    exact (arranges_sites source hroot (htree.of_mem_namedChildren hmem)).sublist
      (sublist_baseClasses source none _)
  · exact .inl rfl

theorem arranges_recordParts (source : Source) {keyword : RecordKeyword} (hroot : root.AllLaidOut)
    (htree : root.Contains tree) (hkind : tree.kind = .record keyword) :
    tree.span.Arranges source root
      ((recordHead source keyword tree).bases.map (·.site) ++ allSites (bodyMembers source tree)) := by
  have hlaid := hroot tree htree
  have hmembers := arranges_bodyMembers source hroot htree
  cases bases_eq_nil_or_arranges source keyword hroot htree with
  | inl hnone =>
    rw [hnone]
    exact hmembers
  | inr hclause =>
    obtain ⟨clause, hmem, hclause, hbases⟩ := hclause
    refine (hbases.mono (hlaid.within _ (List.mem_filter.mp hmem).1)).append hmembers ?_
    intro site hsite site' hsite'
    rw [bodyMembers] at hsite'
    split at hsite'
    · next body hbody =>
      have hprecedes := hlaid.bases (by rw [hkind]; rfl) clause hmem hclause body
        (mem_fields_of_field? hbody)
      have hinside := arranges_members source hroot (htree.of_field? hbody)
      exact Nat.le_trans (hbases.offset_le hroot hsite)
        (Nat.le_trans hprecedes (hinside.le_offset hsite'))
    · contradiction

theorem arranges_enumerators (source : Source) (hroot : root.AllLaidOut)
    (htree : root.Contains tree) :
    tree.span.Arranges source root ((enumHead source tree).enumerators.map (·.site)) := by
  unfold enumHead
  dsimp only
  split
  · next body hbody =>
    have hcontains := htree.of_field? hbody
    have hnames : body.span.Arranges source root (body.namedChildren.map fun child =>
        { location := source.locationOf ((child.field? .name).getD child), span := child.span }) :=
      .map_namedChildren hroot hcontains fun child _ => ⟨_, contains_getD_field? child .name, rfl⟩
    exact (hnames.sublist (sublist_map_filterMap (fun _ _ => site_of_enumerator?) _)).mono
      ((hroot tree htree).within _ (List.mem_of_find?_eq_some hbody))
  · exact .nil

theorem arranges_functionParts (source : Source) (hroot : root.AllLaidOut)
    (htree : root.Contains tree) {declarator : ParseTree}
    (hdeclarator : tree.field? .declarator = some declarator) :
    tree.span.Arranges source root
      ((functionDeclarator source (core declarator)).parameters.map (·.site)
        ++ (((tree.field? .body).filter (·.kind == .compoundStatement)).map (site source)).toList) := by
  have hlaid := hroot tree htree
  have hcontains := htree.of_field? hdeclarator
  have hparameters := (arranges_parameters source hroot
    (hcontains.trans (contains_core declarator))).mono
      ((hroot.of_contains hcontains).within (contains_core declarator))
  have hwithin := hlaid.within _ (List.mem_of_find?_eq_some hdeclarator)
  cases hbody : (tree.field? .body).filter (·.kind == .compoundStatement) with
  | none =>
    rw [Option.map_none, Option.toList_none, List.append_nil]
    exact hparameters.mono hwithin
  | some body =>
    have hfield : tree.field? .body = some body := (Option.filter_eq_some_iff.mp hbody).1
    refine (hparameters.mono hwithin).append (.singleton ?_ ?_) ?_
    · exact (standsIn_site source body).writtenIn hroot (htree.of_field? hfield) (.refl _)
    · exact hlaid.within _ (List.mem_of_find?_eq_some hfield)
    · intro parameter hparameter
      refine List.forall_mem_singleton.mpr ?_
      exact Nat.le_trans (hparameters.offset_le hroot hparameter)
        (hlaid.declarator _ (mem_fields_of_field? hdeclarator) _ (mem_fields_of_field? hfield))

theorem lead_templateParameters (source : Source) (hroot : root.AllLaidOut)
    (htree : root.Contains tree) (hkind : tree.kind = .templateDeclaration) {sites : List Site}
    (h : ∀ site ∈ sites, ∃ entity ∈ tree.namedChildren, isTemplatable entity.kind
      ∧ site.span.Within entity.span) :
    Site.Lead source root ((templateParameters source tree).map (·.site)) sites := by
  unfold templateParameters
  split
  · next list hlist =>
    have harranges := (arranges_sites source hroot (htree.of_field? hlist)).sublist
      (sublist_map_filterMap (fun _ _ => site_of_templateParameter?) _)
    refine ⟨harranges.written, harranges.sorted, ?_⟩
    intro parameter hparameter site hsite
    obtain ⟨entity, hentity, htemplatable, hwithin⟩ := h site hsite
    have hprecedes := (hroot tree htree).template hkind list (mem_fields_of_field? hlist) entity hentity
      htemplatable
    exact Nat.le_trans (harranges.offset_le hroot hparameter) (Nat.le_trans hprecedes hwithin.1)
  · exact .nil

theorem isArranged_of_declares {specifier : ParseTree} {rest : DeclaratorList} (hroot : root.AllLaidOut)
    (htree : root.Contains tree)
    (h : rest = noDeclarators specifier ∨ rest = declaratorList source tree) :
    ∀ frame ∈ rest.frames, frame.IsArranged source root := by
  obtain rfl | rfl := h
  · intro frame hframe
    contradiction
  · exact isArranged_declaratorList source hroot htree

theorem isArranged_items (source : Source) (hroot : root.AllLaidOut) (htree : root.Contains tree) :
    ∀ item ∈ items source tree, item.IsArranged source root := by
  intro item hitem
  have hbody := arranges_bodyMembers source hroot htree
  cases isDeclaredBy_of_mem_items item hitem with
  | namespaceBlock | linkageMembers =>
    exact isArranged_of_frames rfl (List.forall_mem_singleton.mpr hbody)
  | linkageBody hfield =>
    refine isArranged_of_frames rfl (List.forall_mem_singleton.mpr ?_)
    exact (arranges_items source hroot (htree.of_field? hfield)).mono
      ((hroot tree htree).within _ (List.mem_of_find?_eq_some hfield))
  | linkageNone => exact isArranged_of_frames rfl (List.forall_mem_singleton.mpr .nil)
  | template hkind =>
    refine ⟨by simp [frames], kind_of_mem_templateParameters source tree, ?_⟩
    apply lead_templateParameters source hroot htree hkind
    intro site hsite
    rw [inside, allSites_eq_flatMap, List.flatMap_assoc] at hsite
    obtain ⟨entity, hentity, hmem⟩ := List.mem_flatMap.mp hsite
    rw [← allSites_eq_flatMap] at hmem
    obtain ⟨hnamed, htemplatable⟩ := List.mem_filter.mp hentity
    exact ⟨entity, hnamed, htemplatable,
      (arranges_items source hroot (htree.of_mem_namedChildren hnamed)).within site hmem⟩
  | record hspecifier hkind hrest =>
    have hparts := arranges_recordParts source hroot (htree.trans hspecifier.contains) hkind
    exact isArranged_of_frames rfl
      (List.forall_mem_cons.mpr ⟨hparts, isArranged_of_declares hroot htree hrest⟩)
  | enumeration hspecifier _ hrest =>
    have henumerators := arranges_enumerators source hroot (htree.trans hspecifier.contains)
    exact isArranged_of_frames rfl
      (List.forall_mem_cons.mpr ⟨henumerators, isArranged_of_declares hroot htree hrest⟩)
  | declaration =>
    exact isArranged_of_frames rfl (isArranged_declaratorList source hroot htree)
  | @function declarator body? _ hdeclarator _ hbody =>
    refine isArranged_of_frames rfl (List.forall_mem_cons.mpr ⟨?_, ?_⟩)
    · rw [← hbody]
      exact arranges_functionParts source hroot htree hdeclarator
    · cases body? with
      | none => simp
      | some body =>
        have hfield : tree.field? .body = some body := (Option.filter_eq_some_iff.mp hbody).1
        refine List.forall_mem_singleton.mpr ?_
        rw [Frame.IsArranged, Option.isSome_some, if_pos rfl, bodyMembers, hfield]
        exact arranges_members source hroot (htree.of_field? hfield)
  | simple hsimple => exact isArranged_of_isSimple hsimple

theorem everywhere_isArranged_members (source : Source) {tree : ParseTree} (htree : tree.AllLaidOut) :
    ∀ item ∈ members source tree, item.Everywhere (Item.IsArranged source tree) := by
  apply everywhere_members
  · intro item hlabel
    cases item with
    | accessLabel => exact isArranged_of_isSimple rfl
    | _ => contradiction
  · exact fun node hnode => isArranged_items source htree hnode

end Declaration
end CursorQuery
