import CursorQuery.Proofs.Declaration.Agreement
import CursorQuery.Proofs.Lowering.Extent
import CursorQuery.Proofs.Lowering.Nesting
import CursorQuery.Proofs.Source.Text

/-!
This module contains that what comes later in a source text does not change how its beginning is
lowered. The declarations of the beginning are read the same, and lowering them starts from the same unit
apart from the extent of the root. What is lowered after them only adds to the children of the root.
-/

namespace CursorQuery

/-- All nodes of the tree lie between characters of the text, in its first `stop` bytes. -/
def ParseTree.LiesIn (tree : ParseTree) (text : String) (stop : Nat) : Prop :=
  ∀ node, tree.Contains node → node.span.LiesIn text stop

theorem ParseTree.liesIn_of_children {info : NodeInfo} {children : List ParseTree} {text : String}
    {stop : Nat} (h : info.span.LiesIn text stop)
    (hchildren : ∀ child ∈ children, child.LiesIn text stop) :
    (ParseTree.node info children).LiesIn text stop := by
  intro node hnode
  cases Relation.ReflTransGen.cases_head hnode with
  | inl heq =>
    rw [← heq]
    exact h
  | inr hbelow =>
    obtain ⟨child, hchild, hinside⟩ := hbelow
    exact hchildren child hchild node hinside

theorem Source.BeginAlike.agreesOn {source source' : Source} {stop : Nat} {tree : ParseTree}
    (h : source.BeginAlike source' stop) (htree : tree.LiesIn source.text stop) :
    source.AgreesOn source' tree where
  textOf_eq node hnode := h.slice_eq (htree node hnode)
  locationOf_eq node hnode := h.location_eq (htree node hnode)

namespace Declaration

theorem members_append (source : Source) {tree tree' : ParseTree} {later : List ParseTree}
    (h : tree'.namedChildren = tree.namedChildren ++ later) :
    members source tree' = members source tree ++ later.flatMap (childItems source) := by
  rw [members_eq_flatMap, members_eq_flatMap, h, List.flatMap_append]

end Declaration

namespace Lowering

theorem lowerItems_append (options : Options) (b : Builder) (scope : Scope) (level : Access)
    (template : List ResolvedParameter) (first later : List Item) :
    lowerItems options b scope level template (first ++ later) =
      lowerItems options (lowerItems options b scope level template first) scope
        (levelAfterItems scope level first) template later := by
  induction first generalizing b level with
  | nil => rfl
  | cons item first ih =>
    rw [List.cons_append, lowerItems, lowerItems, ih]
    rfl

end Lowering

namespace Builder

variable {b : Builder} {id : Nat}

theorem getElem?_cursors (hid : id < b.nextId) : b.cursors[id]? = some (b.cursor id) := by
  unfold cursor
  rw [Array.getElem?_eq_getElem hid]
  rfl

theorem getElem?_childLists (hsize : b.childLists.size = b.nextId) (hid : id < b.nextId) :
    b.childLists[id]? = some (b.childrenOf id) := by
  unfold childrenOf
  rw [← hsize] at hid
  rw [Array.getElem?_eq_getElem hid]
  rfl

end Builder

namespace TranslationUnit

open Lowering

theorem start_eq_withExtent {source source' : Source} (tree tree' : ParseTree)
    (hpath : source'.path = source.path) :
    start source' tree' = (start source tree).withExtent (some tree'.span) := by
  unfold start rootCursor
  rw [hpath]
  rfl

variable {source source' : Source} {tree tree' : ParseTree} {later : List ParseTree} {stop : Nat}

theorem growsIn_build (options : Options) (hsource : source.BeginAlike source' stop)
    (hchildren : tree'.namedChildren = tree.namedChildren ++ later)
    (htrees : ∀ child ∈ tree.namedChildren, child.LiesIn source.text stop) :
    ((build source tree options).withExtent (some tree'.span)).GrowsIn Cursor.root
      (build source' tree' options) := by
  have hb := wellFormed_build source tree options
  have hmembers : Declaration.members source' tree' =
      Declaration.members source tree ++ later.flatMap (Declaration.childItems source') := by
    rw [Declaration.members_append source' hchildren,
      Declaration.members_eq fun child hchild => hsource.agreesOn (htrees child hchild)]
  have hplain := Declaration.everywhere_isPlain_members source' tree'
  rw [hmembers, List.forall_mem_append] at hplain
  have hbuild : build source' tree' options =
      lowerItems options ((build source tree options).withExtent (some tree'.span))
        (.inside Cursor.root)
        (levelAfterItems (.inside Cursor.root) .noAccess (Declaration.members source tree)) []
        (later.flatMap (Declaration.childItems source')) := by
    unfold build
    rw [hmembers, lowerItems_append, start_eq_withExtent tree tree' hsource.path,
      lowerItems_withExtent options (wellFormed_start source tree).nextId_pos]
  have hnests := nests_lowerItems options ((build source tree options).withExtent (some tree'.span))
    (.inside Cursor.root)
    (levelAfterItems (.inside Cursor.root) .noAccess (Declaration.members source tree)) [] hplain.2
  rw [hbuild]
  apply hnests.growsIn
  · rw [Builder.nextId_withExtent]
    exact hb.size_childLists
  · rw [Builder.nextId_withExtent]
    exact hb.nextId_pos

/-- `unit'` has the cursors of `unit` before its others, with the same children. Only the root can have
more children after these, and another extent. -/
structure BeginsWith (unit' unit : TranslationUnit) : Prop where
  size_le : unit.size ≤ unit'.size
  cursor : ∀ id, id ≠ Cursor.root → id < unit.size → unit'.cursors[id]? = unit.cursors[id]?
  childList : ∀ id, id ≠ Cursor.root → id < unit.size → unit'.childLists[id]? = unit.childLists[id]?
  root : ∃ root span, unit.cursors[Cursor.root]? = some root
    ∧ unit'.cursors[Cursor.root]? = some { root with span }
  rootList : ∃ first rest, unit.childLists[Cursor.root]? = some first
    ∧ unit'.childLists[Cursor.root]? = some (first ++ rest)

theorem beginsWith_of_growsIn {options : Options} {span : Option Span}
    (h : ((build source tree options).withExtent span).GrowsIn Cursor.root
      (build source' tree' options)) :
    (ofParseTree source' tree' options).BeginsWith (ofParseTree source tree options) := by
  have hb := wellFormed_build source tree options
  have hb' := wellFormed_build source' tree' options
  have hle := h.nextId_le
  rw [Builder.nextId_withExtent] at hle
  constructor
  · exact hle
  · intro id hne hid
    have hcursor := h.cursor_eq id (by rw [Builder.nextId_withExtent]; exact hid)
    rw [Builder.cursor_withExtent_of_ne _ _ _ hne] at hcursor
    change (build source' tree' options).cursors[id]? = (build source tree options).cursors[id]?
    rw [Builder.getElem?_cursors (Nat.lt_of_lt_of_le hid hle), Builder.getElem?_cursors hid, hcursor]
  · intro id hne hid
    have hchildren := h.childrenOf_eq id (by rw [Builder.nextId_withExtent]; exact hid) hne
    change (build source' tree' options).childLists[id]? = (build source tree options).childLists[id]?
    rw [Builder.getElem?_childLists hb'.size_childLists (Nat.lt_of_lt_of_le hid hle),
      Builder.getElem?_childLists hb.size_childLists hid, hchildren]
    rfl
  · have hroot := h.cursor_eq Cursor.root (by rw [Builder.nextId_withExtent]; exact hb.nextId_pos)
    rw [Builder.cursor_withExtent] at hroot
    refine ⟨_, (((build source tree options).withExtent span).cursor Cursor.root).span,
      Builder.getElem?_cursors hb.nextId_pos, ?_⟩
    rw [← hroot]
    exact Builder.getElem?_cursors hb'.nextId_pos
  · obtain ⟨rest, hrest⟩ := h.childrenOf_opened
    refine ⟨_, rest, Builder.getElem?_childLists hb.size_childLists hb.nextId_pos, ?_⟩
    rw [← Builder.childrenOf_withExtent _ span, hrest]
    exact Builder.getElem?_childLists hb'.size_childLists hb'.nextId_pos

/--
If a source text begins like another one and has its declarations and more after them, then its unit
begins with the unit of the other one. Whatever is lowered later, here or in an inner scope, leaves the
cursors that are there as they are, and only the scope that it stands in gets more children.
-/
theorem ofParseTree_beginsWith (options : Options) (hsource : source.BeginAlike source' stop)
    (hchildren : tree'.namedChildren = tree.namedChildren ++ later)
    (htrees : ∀ child ∈ tree.namedChildren, child.LiesIn source.text stop) :
    (ofParseTree source' tree' options).BeginsWith (ofParseTree source tree options)
    ∧ ∀ (b : Builder) (scope : Scope) (level : Access) (template : List ResolvedParameter)
        (container : ParseTree), b.childLists.size = b.nextId → scope.lexical < b.nextId →
      b.GrowsIn scope.lexical
        (lowerItems options b scope level template (Declaration.members source' container)) := by
  constructor
  · exact beginsWith_of_growsIn (growsIn_build options hsource hchildren htrees)
  · intro b scope level template container hsize hscope
    have hplain := Declaration.everywhere_isPlain_members source' container
    exact (nests_lowerItems options b scope level template hplain).growsIn hsize hscope

/-- A program that may have a variable after its structure. -/
def growingSource (later : String) : Source where
  path := "a.cpp"
  text := "struct T \x7b\x7d;" ++ later

def growingTree (stop : Nat) (later : List ParseTree) : ParseTree :=
  .node { label := "translation_unit", span := ⟨0, stop⟩ } ([
    .node { label := "struct_specifier", span := ⟨0, 11⟩ } [
      .node { label := "type_identifier", field := some .name, span := ⟨7, 8⟩ } [],
      .node { label := "field_declaration_list", field := some .body, span := ⟨9, 11⟩ } []]] ++ later)

def growingVariable : ParseTree :=
  .node { label := "declaration", span := ⟨13, 17⟩ } [
    .node { label := "type_identifier", field := some .type, span := ⟨13, 14⟩ } [],
    .node { label := "identifier", field := some .declarator, span := ⟨15, 16⟩ } []]

theorem ofParseTree_beginsWith_of_growing :
    let source := growingSource "\nT x;"
    let tree := growingTree 17 [growingVariable]
    let beginning := build source (growingTree 12 []) {}
    (ofParseTree source tree).BeginsWith (ofParseTree (growingSource "") (growingTree 12 []))
    ∧ beginning.GrowsIn Cursor.root
      (lowerItems {} beginning (.inside Cursor.root) .noAccess [] (Declaration.members source tree)) := by
  intro source tree beginning
  have hsource : (growingSource "").BeginAlike source 12 := ⟨rfl, by decide +kernel⟩
  have hchildren : tree.namedChildren = (growingTree 12 []).namedChildren ++ [growingVariable] := rfl
  have htrees : ∀ child ∈ (growingTree 12 []).namedChildren,
      child.LiesIn (growingSource "").text 12 := by
    intro child hchild
    obtain rfl := List.mem_singleton.mp hchild
    apply ParseTree.liesIn_of_children (by decide +kernel)
    rw [List.forall_mem_cons, List.forall_mem_singleton]
    exact ⟨ParseTree.liesIn_of_children (by decide +kernel) (by simp),
      ParseTree.liesIn_of_children (by decide +kernel) (by simp)⟩
  have hb := wellFormed_build source (growingTree 12 []) {}
  obtain ⟨hbegins, hgrows⟩ := ofParseTree_beginsWith {} hsource hchildren htrees
  exact ⟨hbegins,
    hgrows beginning (.inside Cursor.root) .noAccess [] tree hb.size_childLists hb.nextId_pos⟩

end TranslationUnit
end CursorQuery
