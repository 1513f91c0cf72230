import CursorQuery.Proofs.Lowering.Navigation
import CursorQuery.Proofs.Lowering.Nesting
import CursorQuery.Proofs.Lowering.QualifiedName

/-!
This module contains how the access levels of a lowered unit can be read off it. The members of a record
have the level of the last label before them, or the default of the record's keyword if there is none.
-/

namespace CursorQuery

/-- The level in effect after the cursors, `level` being in effect before them. -/
def Access.afterLabels (level : Access) (cursors : List Cursor) : Access :=
  cursors.foldl
    (fun level cursor => if cursor.kind == .accessSpecifier then cursor.access else level) level

namespace CursorKind

/-- The kinds of members that have the access level in effect, apart from functions. -/
def takesLevel (kind : CursorKind) : Bool :=
  kind == .fieldDecl || kind == .varDecl || kind.isRecord || kind == .enumDecl
    || kind == .typedefDecl || kind == .typeAliasDecl || kind == .usingDeclaration
    || kind == .usingDirective

end CursorKind

theorem ParseTree.label_and_defaultAccess {tree : ParseTree} {keyword : RecordKeyword}
    (h : tree.kind = .record keyword) :
    tree.info.label = "class_specifier" ∧ Addition.defaultAccess keyword = .privateAccess
      ∨ (tree.info.label = "struct_specifier" ∨ tree.info.label = "union_specifier")
        ∧ Addition.defaultAccess keyword = .publicAccess := by
  have hlabel := label_of_kind_eq_record h
  cases keyword with
  | classKey => exact .inl ⟨hlabel, rfl⟩
  | structKey => exact .inr ⟨.inl hlabel, rfl⟩
  | unionKey => exact .inr ⟨.inr hlabel, rfl⟩

namespace Builder

variable {b b' : Builder} {id : Nat}

theorem WellFormed.childrenOf_of_extends (hb : b.WellFormed) (hb' : b'.WellFormed)
    (hext : b.Extends b') (hid : id < b.nextId) :
    b.childrenOf id = (b'.childrenOf id).filter (· < b.nextId) := by
  have hid' := Nat.lt_of_lt_of_le hid hext.nextId_le
  obtain ⟨later, hlater⟩ := Nat.exists_eq_add_of_le hext.nextId_le
  rw [hb.childrenOf id hid, hb'.childrenOf id hid', List.filter_filter, hlater, List.range_add,
    List.filter_append]
  have hnew : ((List.range later).map (b.nextId + ·)).filter
      (fun c => decide (c < b.nextId) && decide ((b'.cursor c).lexicalParent = some id)) = [] := by
    rw [List.filter_eq_nil_iff, List.forall_mem_map]
    intro c _
    simp
  rw [hnew, List.append_nil]
  apply List.filter_congr
  intro c hc
  have hlt := List.mem_range.mp hc
  rw [hext.cursor_eq c hlt]
  simp [hlt]

end Builder

namespace Addition

variable {b : Builder} {scope : Scope} {addition : Addition}

theorem levelAfter_placed (level : Access) :
    addition.levelAfter level =
      if (addition.placed b scope).kind == .accessSpecifier then (addition.placed b scope).access
      else level := by
  cases addition with
  | accessLabel => rfl
  | _ =>
    rw [kind_placed_of_kinds (· == .accessSpecifier) rfl]
    rfl

theorem eq_record (h : (addition.placed b scope).kind.isRecord) :
    ∃ level template head, addition = .record level template head := by
  cases addition with
  | record level template head => exact ⟨level, template, head, rfl⟩
  | _ =>
    rw [kind_placed_of_kinds CursorKind.isRecord rfl] at h
    contradiction

theorem access_placed (hrecord : scope.inRecord)
    (hkind : (addition.placed b scope).kind.takesLevel
      ∨ (addition.placed b scope).kind.isFunctionLike
        ∧ (b.cursor (b.resolveScope addition.scopes scope)).kind.isRecord) :
    (addition.placed b scope).access ∈ addition.level? := by
  cases addition with
  | record | enumeration | typeAlias | usingName =>
    simp [placed, cursor, recordCursor, enumCursor, Scope.memberAccess, hrecord, level?]
  | object => simp [placed, cursor, objectCursor, objectAccess, hrecord, level?]
  | function level form =>
    have howner : (b.cursor (b.resolveScope form.declarator.name.scopes scope)).kind.isRecord := by
      cases hkind with
      | inl hkind =>
        rw [kind_placed_of_kinds CursorKind.takesLevel rfl] at hkind
        contradiction
      | inr hkind => exact hkind.2
    simp [placed, cursor, functionCursor, functionAccess, hrecord, howner, level?]
  | _ =>
    rw [kind_placed_of_kinds CursorKind.takesLevel rfl,
      kind_placed_of_kinds CursorKind.isFunctionLike rfl] at hkind
    simp at hkind

theorem access_placed_outside (hneeds : addition.needsRecord = false)
    (houtside : scope.inRecord = false) :
    (addition.placed b scope).access = .noAccess
      ∨ ((addition.placed b scope).kind.isFunctionLike ∨ (addition.placed b scope).kind = .varDecl)
        ∧ (b.cursor (b.resolveScope addition.scopes scope)).kind.isRecord := by
  cases addition with
  | accessLabel | base => contradiction
  | record | enumeration | typeAlias | usingName =>
    left
    simp [placed, cursor, recordCursor, enumCursor, Scope.memberAccess, houtside]
  | function level form =>
    by_cases howner : (b.cursor (b.resolveScope form.declarator.name.scopes scope)).kind.isRecord
    · exact .inr ⟨.inl (isFunctionLike_functionKind ..), howner⟩
    · left
      simp [placed, cursor, functionCursor, functionAccess, howner]
  | object level form =>
    by_cases howner : (b.cursor (b.resolveScope form.declarator.name.scopes scope)).kind.isRecord
    · refine .inr ⟨.inr ?_, howner⟩
      simp [placed, cursor, objectCursor, houtside]
    · left
      simp [placed, cursor, objectCursor, objectAccess, houtside, howner]
  | _ => exact .inl rfl

end Addition

namespace TranslationUnit

open Lowering

/-- The cursor is in a record, `parent` telling what it is in. -/
def BelongsToRecord (unit : TranslationUnit)
    (parent : Fin unit.cursors.size → Option (Fin unit.cursors.size))
    (v : Fin unit.cursors.size) : Prop :=
  ∃ owner, parent v = some owner ∧ (unit.cursor owner).kind.isRecord

/-- If members are read, then `level` is the one after the labels that the record has so far. -/
def LevelHolds (source : Source) (tree : ParseTree) (options : Options) (b : Builder) (scope : Scope)
    (level : Access) : Prop :=
  scope.inRecord → ∃ before outer around template head,
    .add before outer (.record around template head) ∈ trace source tree options
      ∧ before.nextId = scope.lexical
      ∧ level = (Addition.defaultAccess head.keyword).afterLabels
        ((b.childrenOf scope.lexical).map b.cursor)

variable {source : Source} {tree : ParseTree} {options : Options}

section

variable {b b' closed : Builder} {scope : Scope} {level level' : Access} {addition : Addition}
  {actions : List Action}

theorem levelHolds_inner (hmem : .add b scope addition ∈ trace source tree options) :
    LevelHolds source tree options (b.add scope addition) (addition.inner scope b.nextId)
      addition.innerLevel := by
  intro hrecord
  obtain ⟨hb, -, hlexical⟩ := wellFormed_of_mem_trace hmem
  cases addition with
  | record around template head =>
    refine ⟨b, scope, around, template, head, hmem, rfl, ?_⟩
    simp only [Addition.inner, Scope.membersOf,
      Builder.childrenOf_add_nextId hb.size_childLists hlexical]
    rfl
  | _ => contradiction

theorem LevelHolds.after (h : LevelHolds source tree options b scope level)
    (hmem : .add b scope addition ∈ trace source tree options)
    (hgrows : (b.add scope addition).GrowsIn b.nextId closed) :
    LevelHolds source tree options closed scope (addition.levelAfter level) := by
  intro hrecord
  obtain ⟨before, outer, around, template, head, hadded, hid, hlevel⟩ := h hrecord
  refine ⟨before, outer, around, template, head, hadded, hid, ?_⟩
  obtain ⟨hb, -, hlexical⟩ := wellFormed_of_mem_trace hmem
  have hext := (b.extends_add scope addition).trans hgrows.toExtends
  have hold : (b.childrenOf scope.lexical).map closed.cursor =
      (b.childrenOf scope.lexical).map b.cursor := by
    apply List.map_congr_left
    intro c hc
    exact hext.cursor_eq c (hb.mem_childrenOf.mp hc).1
  rw [hgrows.childrenOf_inner hb.size_childLists hlexical hlexical, if_pos rfl, List.map_append, hold]
  unfold Access.afterLabels at hlevel ⊢
  rw [List.foldl_append, ← hlevel, List.map_singleton, List.foldl_cons, List.foldl_nil,
    hgrows.toExtends.placed_eq]
  exact Addition.levelAfter_placed level

theorem exists_levelHolds_of_nests (h : Nests b scope level actions b' level')
    (hsubset : ∀ action ∈ actions, action ∈ trace source tree options)
    (hlevel : LevelHolds source tree options b scope level) :
    ∀ before inner addition, .add before inner addition ∈ actions →
      ∃ level, addition.Obeys inner level ∧ LevelHolds source tree options before inner level := by
  induction h with
  | done => simp
  | type _ _ _ ih | tag _ _ ih =>
    rw [List.forall_mem_cons] at hsubset
    intro before inner addition hmem
    exact ih hsubset.2 hlevel before inner addition (List.mem_of_ne_of_mem (by simp) hmem)
  | @add b closed _ scope level _ _ addition parts _ obeys inside _ ihInside ihLater =>
    rw [List.forall_mem_cons, List.forall_mem_append] at hsubset
    obtain ⟨hmem, hparts, hrest⟩ := hsubset
    have hgrows := inside.growsIn (wellFormed_of_mem_trace hmem).2.1.size_childLists
      (by simp [Addition.lexical_inner])
    rw [Addition.lexical_inner] at hgrows
    intro before inner other hother
    cases List.mem_cons.mp hother with
    | inl heq =>
      obtain ⟨rfl, rfl, rfl⟩ := Action.add.inj heq
      exact ⟨level, obeys, hlevel⟩
    | inr hother =>
      cases List.mem_append.mp hother with
      | inl hother => exact ihInside hparts (levelHolds_inner hmem) before inner other hother
      | inr hother => exact ihLater hrest (hlevel.after hmem hgrows) before inner other hother

end

theorem nests_build (source : Source) (tree : ParseTree) (options : Options) :
    Nests (start source tree) (.inside Cursor.root) .noAccess (trace source tree options)
      (build source tree options)
      (levelAfterItems (.inside Cursor.root) .noAccess (Declaration.members source tree)) :=
  nests_lowerItems options _ _ _ _ (Declaration.everywhere_isPlain_members source tree)

theorem exists_levelHolds {before : Builder} {scope : Scope} {addition : Addition}
    (hmem : .add before scope addition ∈ trace source tree options) :
    ∃ level, addition.Obeys scope level ∧ LevelHolds source tree options before scope level :=
  exists_levelHolds_of_nests (nests_build source tree options) (fun _ h => h) (fun h => by contradiction)
    before scope addition hmem

section Added

variable {before : Builder} {scope : Scope} {addition : Addition}
  {v : Fin (ofParseTree source tree options).cursors.size}

theorem cursor_ofParseTree_of_mem_trace (hmem : .add before scope addition ∈ trace source tree options)
    (hlt : v < before.nextId) :
    (ofParseTree source tree options).cursor v = before.cursor v := by
  have hext := (before.extends_add scope addition).trans
    ((runs_build source tree options).of_mem_add hmem).2
  rw [cursor_ofParseTree, hext.cursor_eq v hlt]

theorem belongsToRecord_semanticParent (hmem : .add before scope addition ∈ trace source tree options)
    (hv : before.nextId = v) :
    BelongsToRecord _ (ofParseTree source tree options).model.semanticParent v ↔
      (before.cursor (before.resolveScope addition.scopes scope)).kind.isRecord := by
  obtain ⟨owner, hparent, hlt, -⟩ := qualifiedName_of_mem_trace hmem hv
  have hplaced := semanticParent_of_model hparent
  rw [cursor_of_mem_trace hmem hv] at hplaced
  rw [Option.some.inj hplaced, ← cursor_ofParseTree_of_mem_trace hmem (by rw [hv]; exact hlt)]
  simp [BelongsToRecord, hparent]

theorem lexicalParent_of_mem_trace (hmem : .add before scope addition ∈ trace source tree options)
    (hv : before.nextId = v) {parent : Fin (ofParseTree source tree options).cursors.size}
    (hparent : (ofParseTree source tree options).model.lexicalParent v = some parent) :
    parent.val = scope.lexical
      ∧ scope.inRecord = ((ofParseTree source tree options).cursor parent).kind.isRecord := by
  have hplaced := lexicalParent_of_model hparent
  rw [cursor_of_mem_trace hmem hv] at hplaced
  have hlexical : scope.lexical = parent.val := Option.some.inj hplaced
  have hopened := (hasOrigin_trace source tree options _ hmem).1
  refine ⟨hlexical.symm, ?_⟩
  rw [hopened.inRecord, hlexical, cursor_ofParseTree_of_mem_trace hmem]
  rw [← hlexical]
  exact hopened.lexical_lt

theorem map_cursor_earlier (hmem : .add before scope addition ∈ trace source tree options)
    {c : Fin (ofParseTree source tree options).cursors.size} (hc : before.nextId = c)
    {earlier later : List (Fin (ofParseTree source tree options).cursors.size)}
    (hchildren : (ofParseTree source tree options).children v = earlier ++ c :: later) :
    earlier.map (ofParseTree source tree options).cursor =
      (before.childrenOf v).map before.cursor := by
  have hbuilt := wellFormed_build source tree options
  obtain ⟨hb, -, -⟩ := wellFormed_of_mem_trace hmem
  have hext := (before.extends_add scope addition).trans
    ((runs_build source tree options).of_mem_add hmem).2
  have hmemc : c ∈ (ofParseTree source tree options).children v := by simp [hchildren]
  have hsorted := hbuilt.pairwise_childrenOf v
  rw [← map_val_children_ofParseTree, hchildren, List.pairwise_map, List.pairwise_append,
    List.pairwise_cons] at hsorted
  obtain ⟨-, ⟨hlater, -⟩, hearlier⟩ := hsorted
  have hvals : earlier.map (·.val) = before.childrenOf v := by
    rw [hb.childrenOf_of_extends hbuilt hext (by rw [hc]; exact lt_of_mem_children hmemc),
      ← map_val_children_ofParseTree, hchildren, List.map_append, List.filter_append, hc]
    -- Children are in ascending order, so those before `c` are the ones with lower numbers.
    have hkept : (earlier.map (·.val)).filter (· < c.val) = earlier.map (·.val) := by
      rw [List.filter_eq_self, List.forall_mem_map]
      intro e he
      simpa using hearlier e he c List.mem_cons_self
    have hdropped : ((c :: later).map (·.val)).filter (· < c.val) = [] := by
      rw [List.filter_eq_nil_iff, List.forall_mem_map, List.forall_mem_cons]
      refine ⟨by simp, ?_⟩
      intro e he
      simpa using Nat.le_of_lt (hlater e he)
    rw [hkept, hdropped, List.append_nil]
  rw [← hvals, List.map_map]
  apply List.map_congr_left
  intro e he
  apply cursor_ofParseTree_of_mem_trace hmem
  rw [hc]
  exact hearlier e he c List.mem_cons_self

theorem access_eq_afterLabels {around : Access} {template : List ResolvedParameter} {head : RecordHead}
    (hmem : .add before scope (.record around template head) ∈ trace source tree options)
    (hv : before.nextId = v) {c : Fin (ofParseTree source tree options).cursors.size}
    {earlier later : List (Fin (ofParseTree source tree options).cursors.size)}
    (hchildren : (ofParseTree source tree options).children v = earlier ++ c :: later)
    (hmember : ((ofParseTree source tree options).cursor c).kind.takesLevel
      ∨ ((ofParseTree source tree options).cursor c).kind.isFunctionLike
        ∧ BelongsToRecord _ (ofParseTree source tree options).model.semanticParent c) :
    ((ofParseTree source tree options).cursor c).access =
      (Addition.defaultAccess head.keyword).afterLabels
        (earlier.map (ofParseTree source tree options).cursor) := by
  have hparent : (ofParseTree source tree options).model.lexicalParent c = some v := by
    rw [← mem_children_iff_lexicalParent, hchildren]
    simp
  have hroot : c.val ≠ Cursor.root := by
    have := lexicalParent_lt hparent
    exact Nat.ne_of_gt (Nat.lt_of_le_of_lt (Nat.zero_le _) this)
  obtain ⟨before', inner, addition, hmem', hc⟩ := exists_mem_trace hroot
  obtain ⟨hlexical, hinner⟩ := lexicalParent_of_mem_trace hmem' hc hparent
  have hrecord : ((Addition.record around template head).placed before scope).kind.isRecord :=
    Addition.isRecord_recordCursor around template head
  rw [cursor_of_mem_trace hmem hv, hrecord] at hinner
  obtain ⟨level, hobeys, hholds⟩ := exists_levelHolds hmem'
  -- The record that the level is reckoned from is the parent.
  obtain ⟨opened, outer, around', template', head', hopened, hid, hlevel⟩ := hholds hinner
  have hsame := (runs_build source tree options).add_inj hopened hmem (by rw [hid, hv, hlexical])
  obtain ⟨-, -, hsame⟩ := Action.add.inj hsame
  obtain ⟨-, -, rfl⟩ := Addition.record.inj hsame
  rw [belongsToRecord_semanticParent hmem' hc, cursor_of_mem_trace hmem' hc] at hmember
  rw [cursor_of_mem_trace hmem' hc, map_cursor_earlier hmem' hc hchildren, hlexical, ← hlevel]
  exact hobeys.level _ (Addition.access_placed hinner hmember)

theorem access_of_outside
    (houtside : ¬BelongsToRecord _ (ofParseTree source tree options).model.lexicalParent v) :
    ((ofParseTree source tree options).cursor v).access = .noAccess
      ∨ (((ofParseTree source tree options).cursor v).kind.isFunctionLike
          ∨ ((ofParseTree source tree options).cursor v).kind = .varDecl)
        ∧ BelongsToRecord _ (ofParseTree source tree options).model.semanticParent v := by
  by_cases hroot : v.val = Cursor.root
  · left
    rw [cursor_ofParseTree, hroot, cursor_root_build]
    rfl
  · obtain ⟨before, scope, addition, hmem, hv⟩ := exists_mem_trace hroot
    have hopened := (hasOrigin_trace source tree options _ hmem).1
    have hlt : scope.lexical < v.val := by
      rw [← hv]
      exact hopened.lexical_lt
    have hinner : scope.inRecord = false := by
      rw [Bool.eq_false_iff]
      intro hinner
      have hparent : (ofParseTree source tree options).model.lexicalParent v =
          some ⟨scope.lexical, Nat.lt_trans hlt v.isLt⟩ := by
        apply lexicalParent_ofParseTree ?_ hlt
        rw [← cursor_ofParseTree, cursor_of_mem_trace hmem hv]
        rfl
      refine houtside ⟨_, hparent, ?_⟩
      rw [← (lexicalParent_of_mem_trace hmem hv hparent).2, hinner]
    obtain ⟨level, hobeys, -⟩ := exists_levelHolds hmem
    have hneeds : addition.needsRecord = false := by
      rw [Bool.eq_false_iff]
      intro hneeds
      rw [hobeys.inRecord hneeds] at hinner
      contradiction
    rw [belongsToRecord_semanticParent hmem hv, cursor_of_mem_trace hmem hv]
    exact Addition.access_placed_outside hneeds hinner

end Added

/--
The members of a record have the access level of the last label before them. Those before any label are
private in what is written with `class`, and public in what is written with `struct` or `union`.
Outside of records only functions and variables that belong to one have an access level.
-/
theorem ofParseTree_access (source : Source) (tree : ParseTree) (options : Options) :
    let unit := ofParseTree source tree options
    (∀ v, (unit.cursor v).kind.isRecord → ∃ specifier, ∃ level : Access,
      LoweredFrom source tree options v specifier ∧ (unit.cursor v).span = some specifier.span
      ∧ (specifier.info.label = "class_specifier" ∧ level = .privateAccess
        ∨ (specifier.info.label = "struct_specifier" ∨ specifier.info.label = "union_specifier")
          ∧ level = .publicAccess)
      ∧ ∀ earlier c later, unit.model.children v = earlier ++ c :: later →
        (unit.cursor c).kind.takesLevel
          ∨ (unit.cursor c).kind.isFunctionLike ∧ unit.BelongsToRecord unit.model.semanticParent c →
        (unit.cursor c).access = level.afterLabels (earlier.map unit.cursor))
    ∧ ∀ v, ¬unit.BelongsToRecord unit.model.lexicalParent v →
      (unit.cursor v).access = .noAccess
        ∨ ((unit.cursor v).kind.isFunctionLike ∨ (unit.cursor v).kind = .varDecl)
          ∧ unit.BelongsToRecord unit.model.semanticParent v := by
  intro unit
  constructor
  · intro v hrecord
    obtain ⟨before, scope, addition, hmem, hv⟩ :=
      exists_mem_trace (ne_root_of_kind CursorKind.isRecord rfl hrecord)
    rw [cursor_of_mem_trace hmem hv] at hrecord
    obtain ⟨around, template, head, rfl⟩ := Addition.eq_record hrecord
    obtain ⟨specifier, keyword, hcontains, hkind, hhead⟩ :=
      (hasOrigin_trace source tree options _ hmem).2
    have hkeyword : head.keyword = keyword := by rw [hhead]; rfl
    refine ⟨specifier, Addition.defaultAccess keyword,
      ⟨hcontains, before, scope, _, hmem, hv, keyword, hkind, hhead⟩, ?_,
      ParseTree.label_and_defaultAccess hkind, ?_⟩
    · rw [cursor_of_mem_trace hmem hv, hhead]
      rfl
    · intro earlier c later hchildren hmember
      rw [← hkeyword]
      exact access_eq_afterLabels hmem hv hchildren hmember
  · intro v houtside
    exact access_of_outside houtside

end TranslationUnit
end CursorQuery
