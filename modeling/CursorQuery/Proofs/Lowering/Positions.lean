import CursorQuery.Proofs.Declaration.Layout
import CursorQuery.Proofs.Lowering.Hierarchy

/-!
This module contains where the cursors of a unit are in the text, if the parse tree is laid out: a cursor
is where its declaration is written, its extent lies in the one of its lexical parent, and children are
in source order.
-/

namespace CursorQuery

namespace Cursor

def site? (cursor : Cursor) : Option Site :=
  cursor.location.bind fun location => cursor.span.map fun span => { location, span }

theorem site?_eq_some {cursor : Cursor} {site : Site} :
    cursor.site? = some site ↔ cursor.location = some site.location ∧ cursor.span = some site.span := by
  cases site with
  | mk location span =>
    unfold site?
    cases cursor.location with
    | none => simp
    | some _ =>
      cases cursor.span with
      | none => simp
      | some _ => simp

end Cursor

namespace Addition

def site : Addition → Site
  | .parameter resolved => resolved.site
  | .accessLabel _ site => site
  | .namespaceBlock _ site => site
  | .linkage site => site
  | .base _ written => written.site
  | .record _ _ head => head.site
  | .enumeration _ head => head.site
  | .enumerator _ written => written.site
  | .function _ form => { location := form.declarator.location, span := form.span }
  | .body site => site
  | .object _ form => { location := form.declarator.location, span := form.span }
  | .typeAlias _ _ _ site => site
  | .usingName _ _ _ site => site
  | .inclusion _ site => site
  | .macroDefinition _ site => site

theorem site?_placed (addition : Addition) (b : Builder) (scope : Scope) :
    (addition.placed b scope).site? = some addition.site := by
  cases addition with
  | _ => rfl

end Addition

/-- Where a cursor is, and whether it is a parameter of a template: these stand in front of the text of
the cursor that they are children of. -/
structure Placement where
  site? : Option Site
  isTemplateParameter : Bool

namespace Placement

def AreAt (placements : List Placement) (sites : List Site) : Prop :=
  placements.map (·.site?) = sites.map some

variable {placements later : List Placement} {sites sites' : List Site} {placement : Placement}

theorem AreAt.append (h : AreAt placements sites) (hlater : AreAt later sites') :
    AreAt (placements ++ later) (sites ++ sites') := by
  unfold AreAt at *
  rw [List.map_append, List.map_append, h, hlater]

theorem AreAt.exists_of_mem (h : AreAt placements sites) (hmem : placement ∈ placements) :
    ∃ site ∈ sites, placement.site? = some site := by
  have hsite : placement.site? ∈ placements.map (·.site?) := List.mem_map_of_mem hmem
  rw [h] at hsite
  obtain ⟨site, hmem, hsome⟩ := List.mem_map.mp hsite
  exact ⟨site, hmem, hsome.symm⟩

end Placement

namespace Span

/-- The children are in source order, and they lie in the span around them. -/
structure Encloses (span : Span) (children : List Placement) : Prop where
  sorted : ∃ sites : List Site, Placement.AreAt children sites
    ∧ sites.Pairwise fun first later => first.offset ≤ later.offset
  within : ∀ child ∈ children, child.isTemplateParameter = false →
    ∃ site, child.site? = some site ∧ site.span.Within span

theorem Encloses.nil {span : Span} : span.Encloses [] where
  sorted := ⟨[], rfl, .nil⟩
  within := by simp

end Span

namespace Cursor

def placement (cursor : Cursor) : Placement where
  site? := cursor.site?
  isTemplateParameter := cursor.kind.isTemplateParameter

def IsPlaced (source : Source) (tree : ParseTree) (cursor : Cursor) (children : List Placement) : Prop :=
  ∃ site, cursor.site? = some site ∧ site.WrittenIn source tree ∧ site.span.Encloses children

end Cursor

namespace Addition

def placement (addition : Addition) : Placement where
  site? := some addition.site
  isTemplateParameter :=
    match addition with
    | .parameter resolved => resolved.kind.cursorKind.isTemplateParameter
    | _ => false

theorem placement_placed (addition : Addition) (b : Builder) (scope : Scope) :
    (addition.placed b scope).placement = addition.placement := by
  unfold Cursor.placement placement
  rw [site?_placed]
  cases addition with
  | parameter resolved => rfl
  | _ => rw [kind_placed_of_kinds CursorKind.isTemplateParameter rfl]

theorem areAt_map_placement (additions : List Addition) :
    Placement.AreAt (additions.map placement) (additions.map (·.site)) := by
  unfold Placement.AreAt
  rw [List.map_map, List.map_map]
  rfl

end Addition

namespace Lowering

open Builder

variable {source : Source} {tree : ParseTree} {b b₁ b₂ b' : Builder} {scope : Scope}
  {addition : Addition} {sites later sites₁ sites₂ : List Site} {template : List ResolvedParameter}

theorem isPlaced_leaf (hwritten : addition.site.WrittenIn source tree) (b : Builder) (scope : Scope) :
    (addition.placed b scope).IsPlaced source tree [] :=
  ⟨addition.site, addition.site?_placed b scope, hwritten, .nil⟩

def PlacesAt (source : Source) (tree : ParseTree) (sites : List Site) (b : Builder) (scope : Scope)
    (b' : Builder) : Prop :=
  ∃ (gained : List Placement) (placed : List Site),
    b.Gains Cursor.placement (Cursor.IsPlaced source tree) scope.lexical gained b'
      ∧ Placement.AreAt gained placed ∧ placed.Sublist sites

namespace PlacesAt

theorem refl (hscope : scope.ReadyIn b) (sites : List Site) : PlacesAt source tree sites b scope b :=
  ⟨[], [], .refl hscope.toLinked _, rfl, List.nil_sublist _⟩

theorem readyIn (h : PlacesAt source tree sites b scope b') (hscope : scope.ReadyIn b) :
    scope.ReadyIn b' := by
  obtain ⟨_, _, hgains, _⟩ := h
  exact hscope.of_gains hgains

theorem trans (hscope : scope.ReadyIn b) (h₁ : PlacesAt source tree sites₁ b scope b₁)
    (h₂ : PlacesAt source tree sites₂ b₁ scope b₂) :
    PlacesAt source tree (sites₁ ++ sites₂) b scope b₂ := by
  obtain ⟨_, _, hgains₁, hat₁, hsublist₁⟩ := h₁
  obtain ⟨_, _, hgains₂, hat₂, hsublist₂⟩ := h₂
  exact ⟨_, _, hgains₁.trans hscope.lexical_lt hgains₂, hat₁.append hat₂, hsublist₁.append hsublist₂⟩

theorem enclose (hscope : scope.ReadyIn b) {gained : List Placement}
    (h : (b.add scope addition).Gains Cursor.placement (Cursor.IsPlaced source tree) b.nextId gained b')
    (hwritten : addition.site.WrittenIn source tree) (hencloses : addition.site.span.Encloses gained) :
    PlacesAt source tree [addition.site] b scope b' := by
  refine ⟨_, [addition.site], .enclose hscope h ?_, ?_, .refl _⟩
  · exact ⟨addition.site, addition.site?_placed b scope, hwritten, hencloses⟩
  · rw [addition.placement_placed]
    exact Addition.areAt_map_placement [addition]

theorem leaf (hscope : scope.ReadyIn b) (hwritten : addition.site.WrittenIn source tree) :
    PlacesAt source tree [addition.site] b scope (b.add scope addition) :=
  enclose hscope (.refl (hscope.toLinked.add hscope.lexical_lt addition) _) hwritten .nil

theorem single (hscope : scope.ReadyIn b) (hwritten : addition.site.WrittenIn source tree) :
    PlacesAt source tree [addition.site] b scope (b.addAll scope [addition]) :=
  .leaf hscope hwritten

end PlacesAt

structure Introduces (source : Source) (tree : ParseTree) (template : List ResolvedParameter)
    (sites : List Site) : Prop where
  kind : ∀ parameter ∈ template, parameter.kind ≠ .function
  lead : Site.Lead source tree (template.map (·.site)) sites

theorem Introduces.nil {sites : List Site} : Introduces source tree [] sites :=
  ⟨by simp, .nil⟩

theorem Introduces.mono (h : Introduces source tree template sites)
    (hsubset : ∀ site ∈ later, site ∈ sites) : Introduces source tree template later :=
  ⟨h.kind, h.lead.written, h.lead.sorted,
    fun parameter hparameter site hsite => h.lead.before parameter hparameter site (hsubset site hsite)⟩

theorem gains_addAll (hscope : scope.ReadyIn b) {additions : List Addition}
    (hwritten : ∀ addition ∈ additions, addition.site.WrittenIn source tree) :
    b.Gains Cursor.placement (Cursor.IsPlaced source tree) scope.lexical
      (additions.map (·.placement)) (b.addAll scope additions) := by
  have hgains := Gains.addAll (P := Cursor.IsPlaced source tree) id Addition.placement hscope
    (fun addition _ b => addition.placement_placed b scope)
    (fun addition hmem b => isPlaced_leaf (hwritten addition hmem) b scope)
  rwa [List.map_id] at hgains

theorem encloses_of_arranges {span : Span} {inside : List Placement} {placed : List Site}
    (h : span.Arranges source tree placed) (hat : Placement.AreAt inside placed) :
    span.Encloses inside where
  sorted := ⟨placed, hat, h.sorted⟩
  within child hchild _ := by
    obtain ⟨site, hmem, hsite⟩ := hat.exists_of_mem hchild
    exact ⟨site, hsite, h.within site hmem⟩

theorem encloses_append {site : Site} {inside : List Placement} {placed : List Site}
    (htemplate : Introduces source tree template [site])
    (hinside : site.span.Arranges source tree placed) (hat : Placement.AreAt inside placed) :
    site.span.Encloses (template.map (fun parameter => (Addition.parameter parameter).placement)
      ++ inside) := by
  constructor
  · refine ⟨template.map (·.site) ++ placed, ?_, ?_⟩
    · apply Placement.AreAt.append ?_ hat
      unfold Placement.AreAt
      rw [List.map_map, List.map_map]
      rfl
    · rw [List.pairwise_append]
      refine ⟨htemplate.lead.sorted, hinside.sorted, ?_⟩
      intro parameter hparameter child hchild
      exact Nat.le_trans (htemplate.lead.before parameter hparameter site List.mem_cons_self)
        (hinside.le_offset hchild)
  · rw [List.forall_mem_append, List.forall_mem_map]
    refine ⟨?_, (encloses_of_arranges hinside hat).within⟩
    intro parameter hparameter hplacement
    have hkind := htemplate.kind parameter hparameter
    cases h : parameter.kind with
    | function => contradiction
    | _ =>
      simp [Addition.placement, h, ParameterKind.cursorKind, CursorKind.isTemplateParameter] at hplacement

theorem placesAt_addNested (addition : Addition) {inner : Nat → Scope} {parts : List Addition} (hscope : scope.ReadyIn b)
    (hinner : (inner b.nextId).lexical = b.nextId) (hwritten : addition.site.WrittenIn source tree)
    (htemplate : Introduces source tree template [addition.site])
    (hinside : addition.site.span.Arranges source tree (parts.map (·.site) ++ later))
    (h : PlacesAt source tree later
      (b.addNested scope addition inner (template.map .parameter ++ parts)) (inner b.nextId) b') :
    PlacesAt source tree [addition.site] b scope b' := by
  have hready : (inner b.nextId).ReadyIn (b.add scope addition) := hscope.enter addition hinner
  obtain ⟨gained, placed, hgained, hat, hsublist⟩ := h
  have hparts : ∀ part ∈ template.map .parameter ++ parts, part.site.WrittenIn source tree := by
    rw [List.forall_mem_append, List.forall_mem_map]
    constructor
    · intro parameter hparameter
      exact htemplate.lead.written _ (List.mem_map_of_mem hparameter)
    · intro part hpart
      exact hinside.written _ (List.mem_append_left _ (List.mem_map_of_mem hpart))
  have hgains := (gains_addAll hready hparts).trans hready.lexical_lt hgained
  rw [hinner] at hgains
  apply PlacesAt.enclose hscope hgains hwritten
  rw [List.map_append, List.map_map, List.append_assoc]
  apply encloses_append htemplate (hinside.sublist (hsublist.append_left _))
  exact (Addition.areAt_map_placement parts).append hat

theorem placesAt_add (addition : Addition) {inner : Scope} (hscope : scope.ReadyIn b)
    (hinner : inner.lexical = b.nextId) (hwritten : addition.site.WrittenIn source tree)
    (hinside : addition.site.span.Arranges source tree later)
    (h : PlacesAt source tree later (b.add scope addition) inner b') :
    PlacesAt source tree [addition.site] b scope b' := by
  obtain ⟨gained, placed, hgains, hat, hsublist⟩ := h
  rw [hinner] at hgains
  exact .enclose hscope hgains hwritten (encloses_of_arranges (hinside.sublist hsublist) hat)

theorem placesAt_addNamespaces (hscope : scope.ReadyIn b) {site : Site}
    (hwritten : site.WrittenIn source tree) (hinside : site.span.Arranges source tree later)
    (names : List String) :
    let opened := addNamespaces b scope site names
    opened.2.ReadyIn opened.1
      ∧ ∀ b', PlacesAt source tree later opened.1 opened.2 b' →
        PlacesAt source tree (if names.isEmpty then later else [site]) b scope b' := by
  induction names generalizing b scope with
  | nil => exact ⟨hscope, fun _ h => h⟩
  | cons name names ih =>
    have hinner : (Scope.inside b.nextId).ReadyIn (b.add scope (.namespaceBlock name site)) :=
      hscope.enter _ rfl
    obtain ⟨hopened, hplaces⟩ := ih hinner
    refine ⟨hopened, ?_⟩
    intro b' h
    -- The namespaces are all written at one site, so each of them lies in the one around it.
    have hwithin : site.span.Arranges source tree (if names.isEmpty then later else [site]) := by
      split
      · exact hinside
      · exact .singleton hwritten (.refl _)
    exact placesAt_add (.namespaceBlock name site) hscope rfl hwritten hwithin (hplaces b' h)

theorem map_site_resolveParameters (b : Builder) (outermost : Nat) (parameters : List Parameter) :
    (b.resolveParameters outermost parameters).map (·.site) = parameters.map (·.site) := by
  unfold resolveParameters
  rw [List.map_map]
  rfl

theorem placesAt_addFunction (hscope : scope.ReadyIn b) (level : Access)
    {declarator : FunctionDeclarator} {span : Span} {body? : Option Site}
    (result? : Option CType) (isDefinition : Bool)
    (hwritten : (declarator.frame span body?).site.WrittenIn source tree)
    (htemplate : Introduces source tree template [(declarator.frame span body?).site])
    (hframe : (declarator.frame span body?).IsArranged source tree)
    (h : PlacesAt source tree body?.toList
      (addFunction b scope level (functionForm b scope template declarator result? isDefinition span))
      (.inside b.nextId) b') :
    PlacesAt source tree [(declarator.frame span body?).site] b scope b' := by
  let form := functionForm b scope template declarator result? isDefinition span
  have hsites : (form.parameters.map (·.site)).Sublist (declarator.parameters.map (·.site)) := by
    rw [← map_site_resolveParameters b scope.semantic declarator.parameters]
    exact (sublist_dropVoid _).map _
  have hinside : span.Arranges source tree
      ((form.parameters.map Addition.parameter).map (·.site) ++ body?.toList) := by
    rw [List.map_map]
    exact hframe.sublist (hsites.append_right _)
  unfold addFunction at h
  rw [List.map_append] at h
  exact placesAt_addNested (.function level form) hscope rfl hwritten htemplate hinside h

theorem placesAt_addEnum (hscope : scope.ReadyIn b) (level : Access) {head : EnumHead}
    (hwritten : head.site.WrittenIn source tree)
    (hframe : Frame.IsArranged source tree ⟨head.site, head.enumerators.map (·.site)⟩) :
    PlacesAt source tree [head.site] b scope (addEnum b scope level head) := by
  let type := Addition.enumType b scope head
  have hinner : (Scope.inside b.nextId).ReadyIn (b.add scope (.enumeration level head)) :=
    hscope.enter _ rfl
  have hwrittenParts : ∀ part ∈ head.enumerators.map (Addition.enumerator type),
      part.site.WrittenIn source tree := by
    rw [List.forall_mem_map]
    exact fun enumerator hmem => hframe.written _ (List.mem_map_of_mem hmem)
  apply PlacesAt.enclose hscope (gains_addAll hinner hwrittenParts) hwritten
  apply encloses_of_arranges hframe
  have hat := Addition.areAt_map_placement (head.enumerators.map (Addition.enumerator type))
  rwa [List.map_map (f := Addition.enumerator type) (g := (·.site))] at hat

theorem placesAt_addDeclarator (hscope : scope.ReadyIn b) (level : Access) (rest : DeclaratorList)
    (base? : Option CType) {declarator : Declarator}
    (hwritten : (declarator.frame rest.span).site.WrittenIn source tree)
    (htemplate : Introduces source tree template [(declarator.frame rest.span).site])
    (hframe : (declarator.frame rest.span).IsArranged source tree) :
    PlacesAt source tree [(declarator.frame rest.span).site] b scope
      (addDeclarator b scope level template rest base? declarator) := by
  unfold Declarator.frame at *
  unfold addDeclarator
  cases hdeclared : declarator.declared with
  | object =>
    simp only [hdeclared] at hwritten ⊢
    exact .leaf hscope hwritten
  | function function =>
    simp only [hdeclared] at hwritten htemplate hframe ⊢
    exact placesAt_addFunction hscope level _ _ hwritten htemplate hframe
      (.refl (readyIn_addFunction hscope level _) [])
  | functionPointer parameters =>
    simp only [hdeclared] at hwritten ⊢
    exact .leaf hscope hwritten

theorem placesAt_addDeclarators (hscope : scope.ReadyIn b) (level : Access) (base? : Option CType)
    {rest : DeclaratorList} (hwritten : ∀ site ∈ rest.sites, site.WrittenIn source tree)
    (htemplate : Introduces source tree template rest.sites)
    (hframes : ∀ frame ∈ rest.frames, frame.IsArranged source tree) :
    PlacesAt source tree rest.sites b scope (addDeclarators b scope level template base? rest) := by
  unfold addDeclarators
  dsimp only
  generalize (if rest.isConst then base?.map CType.withConst else base?) = base?
  unfold DeclaratorList.sites DeclaratorList.frames at *
  generalize rest.declarators = declarators at *
  induction declarators generalizing b with
  | nil => exact .refl hscope _
  | cons declarator declarators ih =>
    simp only [List.map_cons, List.forall_mem_cons] at hwritten htemplate hframes ⊢
    have hfirst := placesAt_addDeclarator hscope level rest base? hwritten.1
      (htemplate.mono (by simp)) hframes.1
    exact hfirst.trans hscope (ih (hfirst.readyIn hscope) hwritten.2
      (htemplate.mono fun _ h => List.mem_cons_of_mem _ h) hframes.2)

section Recursion

variable {options : Options} {call : Call} {item : Item}

theorem placesAt_simple (hsimple : item.isSimple) (hscope : scope.ReadyIn b) (level : Access)
    (hwritten : ∀ site ∈ item.sites, site.WrittenIn source tree) :
    PlacesAt source tree item.sites b scope
      (b.addAll scope (item.additions options scope level)) := by
  cases item with
  | accessLabel | inclusion | macroDefinition =>
    simp only [Item.additions]
    split
    · exact .single hscope (List.forall_mem_singleton.mp hwritten)
    · exact .refl hscope _
  | typeAlias | usingName => exact .single hscope (List.forall_mem_singleton.mp hwritten)
  | _ => contradiction

theorem placesAt_after (hscope : call.scope.ReadyIn call.unit)
    (hwritten : ∀ site ∈ item.sites, site.WrittenIn source tree)
    (htemplate : Introduces source tree call.template item.sites)
    (hitem : item.Everywhere (Item.IsArranged source tree))
    (inside : ∀ inner, call.inside? options item = some inner → inner.scope.ReadyIn inner.unit →
      (∀ site ∈ Item.allSites inner.items, site.WrittenIn source tree) →
        Introduces source tree inner.template (Item.allSites inner.items) →
          (∀ item ∈ inner.items, item.Everywhere (Item.IsArranged source tree)) →
            PlacesAt source tree (Item.allSites inner.items) inner.unit inner.scope
              (inner.result options)) :
    PlacesAt source tree item.sites call.unit call.scope (call.after options item) := by
  have hframes := hitem.here.frames
  cases item using Item.shapes with
  | simple item hsimple =>
    rw [Call.after_of_isSimple hsimple]
    exact placesAt_simple hsimple hscope call.level hwritten
  | namespaceBlock names site body =>
    have hsite := List.forall_mem_singleton.mp hwritten
    have hbody : Frame.IsArranged source tree ⟨site, Item.allSites body⟩ :=
      List.forall_mem_singleton.mp hframes
    obtain ⟨hopened, hplaces⟩ := placesAt_addNamespaces hscope hsite hbody
      (if names.isEmpty then [""] else names)
    have hlowered := hplaces _ (inside _ rfl hopened hbody.written .nil hitem.of_mem_inside)
    rwa [if_neg] at hlowered
    split
    · simp
    · next hnames => exact hnames
  | linkageBlock site body =>
    have hbody : Frame.IsArranged source tree ⟨site, Item.allSites body⟩ :=
      List.forall_mem_singleton.mp hframes
    have hinner : (Scope.inside call.unit.nextId).ReadyIn (call.unit.add call.scope (.linkage site)) :=
      hscope.enter _ rfl
    exact placesAt_add (.linkage site) hscope rfl (List.forall_mem_singleton.mp hwritten) hbody
      (inside _ rfl hinner hbody.written .nil hitem.of_mem_inside)
  | template parameters body =>
    have hparameters : Introduces source tree
        (call.unit.resolveParameters call.scope.semantic parameters) (Item.allSites body) := by
      constructor
      · exact kind_of_mem_resolveParameters (· ≠ .function) hitem.here.kind _ _
      · rw [map_site_resolveParameters]
        exact hitem.here.leads
    exact inside _ rfl hscope hwritten hparameters hitem.of_mem_inside
  | record head members rest =>
    obtain ⟨hhead, hrest⟩ := List.forall_mem_cons.mp hframes
    obtain ⟨hsite, hsites⟩ := List.forall_mem_cons.mp hwritten
    have hready := readyIn_addRecord hscope call.level call.template head
    have hmembers := inside _ rfl hready
      (fun site hsite => hhead.written site (List.mem_append_right _ hsite)) .nil hitem.of_mem_inside
    have hparts : head.site.span.Arranges source tree
        ((head.bases.map (Addition.base (Addition.defaultAccess head.keyword))).map (·.site)
          ++ Item.allSites members) := by
      rw [List.map_map]
      exact hhead
    have hclosed := placesAt_addNested (.record call.level call.template head) hscope rfl hsite
      (htemplate.mono (by simp [Item.sites, Addition.site])) hparts hmembers
    exact hclosed.trans hscope (placesAt_addDeclarators (hclosed.readyIn hscope) call.level _ hsites
      (htemplate.mono fun _ h => List.mem_cons_of_mem _ h) hrest)
  | enumeration head rest =>
    obtain ⟨hhead, hrest⟩ := List.forall_mem_cons.mp hframes
    obtain ⟨hsite, hsites⟩ := List.forall_mem_cons.mp hwritten
    have hclosed := placesAt_addEnum hscope call.level hsite hhead
    exact hclosed.trans hscope (placesAt_addDeclarators (hclosed.readyIn hscope) call.level _ hsites
      (htemplate.mono fun _ h => List.mem_cons_of_mem _ h) hrest)
  | declaration base? rest =>
    exact placesAt_addDeclarators hscope call.level _ hwritten htemplate hframes
  | function declarator result? span body? members =>
    obtain ⟨hfunction, hbodies⟩ := List.forall_mem_cons.mp hframes
    have hsite := List.forall_mem_singleton.mp hwritten
    let form := call.functionForm declarator result? span
    let opened := addFunction call.unit call.scope call.level form
    have hready : (Scope.inside call.unit.nextId).ReadyIn opened :=
      readyIn_addFunction hscope call.level form
    -- Only the body is put into the function behind its parameters.
    have hclosed : ∀ b', PlacesAt source tree body?.toList opened (.inside call.unit.nextId) b' →
        PlacesAt source tree [(declarator.frame span body?).site] call.unit call.scope b' :=
      fun _ h => placesAt_addFunction hscope call.level _ _ hsite htemplate hfunction h
    unfold Call.after lowerItem
    cases body? with
    | none => exact hclosed opened (.refl hready _)
    | some site =>
      dsimp only
      split
      · exact hclosed opened (.refl hready _)
      · next hskip =>
        have hbody : Frame.IsArranged source tree ⟨site, Item.allSites members⟩ :=
          List.forall_mem_singleton.mp hbodies
        have hblock : site.WrittenIn source tree :=
          hfunction.written site (List.mem_append_right _ List.mem_cons_self)
        let inner := call.functionBody form site members
        have hinner : inner.scope.ReadyIn inner.unit := hready.enter (.body site) rfl
        exact hclosed _ (placesAt_add (.body site) hready rfl hblock hbody
          (inside _ (if_neg hskip) hinner hbody.written .nil hitem.of_mem_inside))

theorem placesAt_lowerItems (options : Options) {b : Builder} {scope : Scope}
    (hscope : scope.ReadyIn b) (level : Access) {template : List ResolvedParameter} {items : List Item}
    (hwritten : ∀ site ∈ Item.allSites items, site.WrittenIn source tree)
    (htemplate : Introduces source tree template (Item.allSites items))
    (hitems : ∀ item ∈ items, item.Everywhere (Item.IsArranged source tree)) :
    PlacesAt source tree (Item.allSites items) b scope
      (lowerItems options b scope level template items) := by
  induction b, scope, level, template, items using induct options with
  | nil => exact .refl hscope _
  | cons call item rest inside next =>
    rw [Item.allSites] at hwritten htemplate ⊢
    rw [List.forall_mem_append] at hwritten
    rw [List.forall_mem_cons] at hitems
    have hfirst := placesAt_after hscope hwritten.1
      (htemplate.mono fun _ h => List.mem_append_left _ h) hitems.1 inside
    exact hfirst.trans hscope (next (hfirst.readyIn hscope) hwritten.2
      (htemplate.mono fun _ h => List.mem_append_right _ h) hitems.2)

end Recursion

end Lowering

namespace TranslationUnit

/-- The cursors of a unit are where the text has them. -/
structure KeepsLayout (unit : TranslationUnit) (tree : ParseTree) : Prop where
  located : ∀ v, v.val ≠ Cursor.root → ∃ location span, (unit.cursor v).location = some location
    ∧ (unit.cursor v).span = some span ∧ span.start ≤ location.offset ∧ location.offset ≤ span.stop
  /-- What starts at the location of a cursor does not reach beyond its extent either. -/
  place : ∀ v, v.val ≠ Cursor.root → ∃ place span, tree.Contains place
    ∧ (unit.cursor v).location = some (unit.source.locationOf place)
    ∧ (unit.cursor v).span = some span ∧ place.span.Within span
  nested : ∀ v parent, unit.model.lexicalParent v = some parent →
    (unit.cursor v).kind.isTemplateParameter = false →
      ∃ inner outer, (unit.cursor v).span = some inner ∧ (unit.cursor parent).span = some outer
        ∧ inner.Within outer
  sorted : ∀ v, ∃ offsets : List Nat,
    (unit.children v).map (fun c => (unit.cursor c).location.map (·.offset)) = offsets.map some
      ∧ offsets.Pairwise (· ≤ ·)

variable {source : Source} {tree : ParseTree} {options : Options}

theorem placesAt_build (source : Source) (htree : tree.AllLaidOut) (options : Options) :
    Lowering.PlacesAt source tree (Item.allSites (Declaration.members source tree))
      (start source tree) (.inside Cursor.root) (build source tree options) :=
  Lowering.placesAt_lowerItems options (readyIn_start source tree) .noAccess
    (Declaration.arranges_members source htree .refl).written .nil
    (Declaration.everywhere_isArranged_members source htree)

theorem isPlaced_ofParseTree (htree : tree.AllLaidOut)
    {v : Fin (ofParseTree source tree options).cursors.size} (hv : v.val ≠ Cursor.root) :
    ((ofParseTree source tree options).cursor v).IsPlaced source tree
      (((ofParseTree source tree options).children v).map fun c =>
        ((ofParseTree source tree options).cursor c).placement) := by
  obtain ⟨_, _, hgains, _⟩ := placesAt_build source htree options
  rw [← viewChildren_build, cursor_ofParseTree]
  exact hgains.holds v (Nat.pos_of_ne_zero hv) v.isLt

theorem encloses_ofParseTree (htree : tree.AllLaidOut)
    (v : Fin (ofParseTree source tree options).cursors.size) :
    ∃ span, ((ofParseTree source tree options).cursor v).span = some span
      ∧ span.Encloses (((ofParseTree source tree options).children v).map fun c =>
        ((ofParseTree source tree options).cursor c).placement) := by
  by_cases hv : v.val = Cursor.root
  · obtain ⟨gained, placed, hgains, hat, hsublist⟩ := placesAt_build source htree options
    refine ⟨tree.span, ?_, ?_⟩
    · rw [cursor_ofParseTree, hv, cursor_root_build]
      rfl
    · have hroot : (build source tree options).viewChildren Cursor.placement Cursor.root = [] ++ gained :=
        hgains.viewChildren_eq
      rw [← viewChildren_build, hv, hroot]
      exact Lowering.encloses_of_arranges
        ((Declaration.arranges_members source htree .refl).sublist hsublist) hat
  · obtain ⟨site, hsite, -, hencloses⟩ := isPlaced_ofParseTree htree hv
    exact ⟨site.span, (Cursor.site?_eq_some.mp hsite).2, hencloses⟩

theorem map_offset_of_areAt {unit : TranslationUnit} {children : List (Fin unit.cursors.size)}
    {sites : List Site} (hat : Placement.AreAt (children.map fun c => (unit.cursor c).placement) sites) :
    children.map (fun c => (unit.cursor c).location.map (·.offset)) =
      (sites.map (·.offset)).map some := by
  have hoffset : ∀ c ∈ children, (unit.cursor c).location.map (·.offset) =
      (unit.cursor c).placement.site?.map (·.offset) := by
    intro c hc
    obtain ⟨site, -, hsite⟩ := hat.exists_of_mem (List.mem_map_of_mem hc)
    rw [hsite, (Cursor.site?_eq_some.mp hsite).1]
    rfl
  have hmapped := congrArg (List.map (Option.map Site.offset)) hat
  rw [List.map_map, List.map_map, List.map_map] at hmapped
  rw [List.map_congr_left hoffset, List.map_map]
  exact hmapped

/--
A unit keeps the layout of its tree. So positions can be compared to tell which cursors are inside of
others, and which of two children comes first.
-/
theorem ofParseTree_keepsLayout (source : Source) (tree : ParseTree) (options : Options)
    (htree : tree.AllLaidOut) : (ofParseTree source tree options).KeepsLayout tree where
  located v hv := by
    obtain ⟨site, hsite, hwritten, -⟩ := isPlaced_ofParseTree htree hv
    obtain ⟨hlocation, hspan⟩ := Cursor.site?_eq_some.mp hsite
    exact ⟨site.location, site.span, hlocation, hspan, hwritten.le_offset, hwritten.offset_le htree⟩
  place v hv := by
    obtain ⟨site, hsite, ⟨place, hplace, hwithin, hlocation⟩, -⟩ := isPlaced_ofParseTree htree hv
    obtain ⟨hcursor, hspan⟩ := Cursor.site?_eq_some.mp hsite
    rw [hlocation] at hcursor
    exact ⟨place, site.span, hplace, hcursor, hspan, hwithin⟩
  nested v parent hparent hkind := by
    obtain ⟨outer, houter, hencloses⟩ := encloses_ofParseTree htree parent
    have hmem := List.mem_map_of_mem (f := fun c => ((ofParseTree source tree options).cursor c).placement)
      (mem_children_iff_lexicalParent.mpr hparent)
    obtain ⟨site, hsite, hwithin⟩ := hencloses.within _ hmem hkind
    exact ⟨site.span, outer, (Cursor.site?_eq_some.mp hsite).2, houter, hwithin⟩
  sorted v := by
    obtain ⟨span, -, hencloses⟩ := encloses_ofParseTree htree v
    obtain ⟨sites, hat, hsorted⟩ := hencloses.sorted
    refine ⟨sites.map (·.offset), ?_, List.pairwise_map.mpr hsorted⟩
    exact map_offset_of_areAt hat

def layoutSource : Source where
  path := "a.cpp"
  text := "struct B \x7b\x7d;\ntemplate <class T> struct S : B \x7b int x, y; \x7d;\nint f(int a) \x7b int z; \x7d"

def layoutTree : ParseTree :=
  .node { label := "translation_unit", span := ⟨0, 83⟩ } [
    .node { label := "struct_specifier", span := ⟨0, 11⟩ } [
      .node { label := "type_identifier", field := some .name, span := ⟨7, 8⟩ } [],
      .node { label := "field_declaration_list", field := some .body, span := ⟨9, 11⟩ } []],
    .node { label := "template_declaration", span := ⟨13, 58⟩ } [
      .node { label := "template_parameter_list", field := some .parameters, span := ⟨22, 31⟩ } [
        .node { label := "type_parameter_declaration", span := ⟨23, 30⟩ } [
          .node { label := "type_identifier", span := ⟨29, 30⟩ } []]],
      .node { label := "struct_specifier", span := ⟨32, 58⟩ } [
        .node { label := "type_identifier", field := some .name, span := ⟨39, 40⟩ } [],
        .node { label := "base_class_clause", span := ⟨41, 44⟩ } [
          .node { label := "type_identifier", span := ⟨43, 44⟩ } []],
        .node { label := "field_declaration_list", field := some .body, span := ⟨45, 58⟩ } [
          .node { label := "field_declaration", span := ⟨47, 56⟩ } [
            .node { label := "primitive_type", field := some .type, span := ⟨47, 50⟩ } [],
            .node { label := "field_identifier", field := some .declarator, span := ⟨51, 52⟩ } [],
            .node { label := "field_identifier", field := some .declarator, span := ⟨54, 55⟩ } []]]]],
    .node { label := "function_definition", span := ⟨60, 83⟩ } [
      .node { label := "primitive_type", field := some .type, span := ⟨60, 63⟩ } [],
      .node { label := "function_declarator", field := some .declarator, span := ⟨64, 72⟩ } [
        .node { label := "identifier", field := some .declarator, span := ⟨64, 65⟩ } [],
        .node { label := "parameter_list", field := some .parameters, span := ⟨65, 72⟩ } [
          .node { label := "parameter_declaration", span := ⟨66, 71⟩ } [
            .node { label := "primitive_type", field := some .type, span := ⟨66, 69⟩ } [],
            .node { label := "identifier", field := some .declarator, span := ⟨70, 71⟩ } []]]],
      .node { label := "compound_statement", field := some .body, span := ⟨73, 83⟩ } [
        .node { label := "declaration", span := ⟨75, 81⟩ } [
          .node { label := "primitive_type", field := some .type, span := ⟨75, 78⟩ } [],
          .node { label := "identifier", field := some .declarator, span := ⟨79, 80⟩ } []]]]]

theorem size_layout : (ofParseTree layoutSource layoutTree).cursors.size = 11 := by
  decide +kernel

def layoutCursor (id : Fin 11) : Fin (ofParseTree layoutSource layoutTree).cursors.size :=
  ⟨id, by rw [size_layout]; exact id.isLt⟩

/-- A class template. Its parameter stands in front of it, and with it come a base class and two fields. -/
theorem ofParseTree_keepsLayout_classTemplate :
    let unit := ofParseTree layoutSource layoutTree
    let v := layoutCursor 2
    layoutTree.AllLaidOut ∧ unit.KeepsLayout layoutTree
    ∧ (unit.cursor v).span = some ⟨32, 58⟩
    ∧ ((unit.children v).map fun c => ((unit.cursor c).span, (unit.cursor c).location.map (·.offset))) =
      [(some ⟨23, 30⟩, some 23), (some ⟨43, 44⟩, some 43), (some ⟨47, 56⟩, some 51),
        (some ⟨47, 56⟩, some 54)] := by
  intro unit v
  have htree : layoutTree.AllLaidOut := by decide +kernel
  exact ⟨htree, ofParseTree_keepsLayout layoutSource layoutTree {} htree, by decide +kernel⟩

end TranslationUnit
end CursorQuery
