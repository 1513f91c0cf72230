import CursorQuery.Proofs.Lowering.Calls
import CursorQuery.Proofs.Lowering.NameTable
import CursorQuery.Proofs.Lowering.Preorder
import CursorQuery.Proofs.Lowering.QualifiedName

/-!
This module contains which enumerators are lowered: those that stand directly in the list of their
enumeration. The list is not read like the containers of members, so the enumerators in its conditional
blocks are left out.
-/

namespace CursorQuery

namespace Declaration

open ParseTree

def isEnumerator (tree : ParseTree) : Bool :=
  tree.kind == .enumerator && (tree.field? .name).isSome

/-- A block that the preprocessor keeps under a condition. -/
def isConditional (tree : ParseTree) : Bool :=
  tree.kind == .region && tree.info.label != "ERROR"

def directEnumerators (list : ParseTree) : List ParseTree :=
  list.namedChildren.filter isEnumerator

/-- The enumerators of a list, at any depth in its conditional blocks. -/
def enumerators (list : ParseTree) : List ParseTree :=
  list.namedChildren.attach.flatMap fun ⟨child, hchild⟩ =>
    have := size_lt_of_mem_namedChildren hchild
    if isEnumerator child then [child]
    else if isConditional child then enumerators child
    else []
termination_by list.size

def enumeratorsAt (tree : ParseTree) : List ParseTree :=
  if isEnumerator tree then [tree] else if isConditional tree then enumerators tree else []

variable {source : Source} {tree list specifier : ParseTree}

theorem enumerators_eq_flatMap (list : ParseTree) :
    enumerators list = list.namedChildren.flatMap enumeratorsAt := by
  have hchildren : enumerators list = list.namedChildren.attach.unattach.flatMap enumeratorsAt := by
    rw [enumerators]
    exact List.flatMap_subtype fun _ _ => rfl
  rw [hchildren, List.unattach_attach]

theorem isConditional_of_isEnumerator (h : isEnumerator tree) : isConditional tree = false := by
  unfold isEnumerator at h
  rw [Bool.and_eq_true, beq_iff_eq] at h
  simp [isConditional, h.1]

theorem length_flatMap_enumeratorsAt (trees : List ParseTree) :
    (trees.flatMap enumeratorsAt).length =
      (trees.filter isEnumerator).length + ((trees.filter isConditional).flatMap enumerators).length := by
  induction trees with
  | nil => rfl
  | cons tree trees ih =>
    rw [List.flatMap_cons, List.length_append, ih]
    unfold enumeratorsAt
    by_cases henumerator : isEnumerator tree
    · rw [if_pos henumerator, List.filter_cons_of_pos henumerator,
        List.filter_cons_of_neg (by simp [isConditional_of_isEnumerator henumerator])]
      simp
      omega
    · rw [if_neg henumerator, List.filter_cons_of_neg henumerator]
      by_cases hconditional : isConditional tree
      · rw [if_pos hconditional, List.filter_cons_of_pos hconditional, List.flatMap_cons,
          List.length_append]
        omega
      · rw [if_neg hconditional, List.filter_cons_of_neg hconditional, List.length_nil]
        omega

theorem length_enumerators_eq_iff (list : ParseTree) :
    (enumerators list).length = (directEnumerators list).length ↔
      ∀ block ∈ list.namedChildren, isConditional block → enumerators block = [] := by
  rw [enumerators_eq_flatMap, length_flatMap_enumeratorsAt]
  unfold directEnumerators
  rw [Nat.add_eq_left, List.length_eq_zero_iff, List.flatMap_eq_nil_iff]
  simp only [List.mem_filter, and_imp]

theorem enumerators_eq_directEnumerators
    (h : ∀ block ∈ list.namedChildren, isConditional block → enumerators block = []) :
    enumerators list = directEnumerators list := by
  rw [enumerators_eq_flatMap]
  unfold directEnumerators
  generalize list.namedChildren = trees at h
  induction trees with
  | nil => rfl
  | cons tree trees ih =>
    rw [List.forall_mem_cons] at h
    rw [List.flatMap_cons, ih h.2]
    unfold enumeratorsAt
    by_cases henumerator : isEnumerator tree
    · rw [if_pos henumerator, List.filter_cons_of_pos henumerator]
      rfl
    · rw [if_neg henumerator, List.filter_cons_of_neg henumerator]
      split
      · next hconditional =>
        rw [h.1 hconditional]
        rfl
      · rfl

def constantOf (source : Source) (tree : ParseTree) : Enumerator where
  name := source.textOf ((tree.field? .name).getD tree)
  site := { location := source.locationOf ((tree.field? .name).getD tree), span := tree.span }

theorem enumerator?_eq_ite (source : Source) (tree : ParseTree) :
    enumerator? source tree = if isEnumerator tree then some (constantOf source tree) else none := by
  unfold enumerator? isEnumerator constantOf
  cases hname : tree.field? .name with
  | none => simp
  | some name =>
    split
    · next hkind hsome =>
      obtain rfl := Option.some.inj hsome
      simp [hkind]
    · next hother =>
      rw [if_neg]
      intro h
      exact hother name (by simpa using h) rfl

theorem enumerators_enumHead (source : Source) {body : ParseTree}
    (hbody : specifier.field? .body = some body) :
    (enumHead source specifier).enumerators = (directEnumerators body).map (constantOf source) := by
  unfold enumHead directEnumerators
  dsimp only
  rw [hbody]
  dsimp only
  induction body.namedChildren with
  | nil => rfl
  | cons tree trees ih =>
    rw [List.filterMap_cons, enumerator?_eq_ite, ih]
    by_cases henumerator : isEnumerator tree
    · rw [if_pos henumerator, List.filter_cons_of_pos henumerator]
      rfl
    · rw [if_neg henumerator, List.filter_cons_of_neg henumerator]

end Declaration

def Addition.isEnumeration : Addition → Bool
  | .enumeration .. => true
  | _ => false

theorem Addition.eq_enumeration {addition : Addition} {b : Builder} {scope : Scope}
    (h : (addition.placed b scope).kind = .enumDecl) :
    ∃ level head, addition = .enumeration level head := by
  have hkind : ((addition.placed b scope).kind == .enumDecl) = true := by simp [h]
  cases addition with
  | enumeration level head => exact ⟨level, head, rfl⟩
  | _ =>
    rw [kind_placed_of_kinds (· == .enumDecl) rfl] at hkind
    contradiction

namespace Lowering

open Builder

variable {b : Builder} {scope : Scope} {level : Access} {head : EnumHead}

theorem exists_childrenOf_addAll (scope : Scope) (hsize : b.childLists.size = b.nextId)
    (hscope : scope.lexical < b.nextId) (additions : List Addition) :
    ∃ ids, (b.addAll scope additions).childrenOf scope.lexical =
        b.childrenOf scope.lexical ++ ids
      ∧ List.Forall₂ (fun id addition => ∃ before : Builder, before.nextId = id
        ∧ .add before scope addition ∈ Trace.addAll b scope additions) ids additions := by
  induction additions generalizing b with
  | nil => exact ⟨[], (List.append_nil _).symm, .nil⟩
  | cons addition additions ih =>
    obtain ⟨ids, hids, hadditions⟩ := ih (b := b.add scope addition) (size_childLists_add_eq hsize)
      (by rw [nextId_add]; omega)
    refine ⟨b.nextId :: ids, ?_, .cons ⟨b, rfl, List.mem_cons_self⟩ ?_⟩
    · rw [childrenOf_add hsize hscope, if_pos rfl] at hids
      exact hids.trans (List.append_assoc ..)
    · exact hadditions.imp fun _ _ ⟨before, hid, hmem⟩ => ⟨before, hid, List.mem_cons_of_mem _ hmem⟩

def Action.addsEnumeration : Action → Bool
  | .add _ _ addition => addition.isEnumeration
  | _ => false

section AddsEnumeration

variable (b : Builder) (scope : Scope) (level : Access) (template : List ResolvedParameter)

theorem addsEnumeration_types (outermost : Nat) (written : List WrittenType) :
    (Trace.types b outermost written).any Action.addsEnumeration = false := by
  unfold Trace.types
  rw [List.any_map, List.any_eq_false]
  intro _ _
  simp [Action.addsEnumeration]

theorem addsEnumeration_addAll (additions : List Addition) :
    (Trace.addAll b scope additions).any Action.addsEnumeration =
      additions.any Addition.isEnumeration := by
  induction additions generalizing b with
  | nil => rfl
  | cons addition additions ih => rw [Trace.addAll, List.any_cons, List.any_cons, ih]; rfl

theorem addsEnumeration_addNamespaces (site : Site) (names : List String) :
    (Trace.addNamespaces b scope site names).any Action.addsEnumeration = false := by
  induction names generalizing b scope with
  | nil => rfl
  | cons name names ih => rw [Trace.addNamespaces, List.any_cons, ih]; rfl

theorem addsEnumeration_addNested (addition : Addition) (inner : Nat → Scope) (parts : List Addition) :
    (Trace.addNested b scope addition inner parts).any Action.addsEnumeration =
      (addition.isEnumeration || parts.any Addition.isEnumeration) := by
  rw [Trace.addNested, List.any_cons, addsEnumeration_addAll]
  rfl

theorem addsEnumeration_addRecord (head : RecordHead) :
    (Trace.addRecord b scope level template head).any Action.addsEnumeration = false := by
  rw [Trace.addRecord, addsEnumeration_addNested]
  simp [Addition.isEnumeration]

theorem addsEnumeration_addFunction (form : FunctionForm) :
    (Trace.addFunction b scope level form).any Action.addsEnumeration = false := by
  rw [Trace.addFunction, Trace.parameterTypes, List.any_append, addsEnumeration_types, addsEnumeration_addNested]
  simp [Addition.isEnumeration]

theorem addsEnumeration_addDeclarator (rest : DeclaratorList) (base? : Option CType) (declarator : Declarator) :
    (Trace.addDeclarator b scope level template rest base? declarator).any Action.addsEnumeration =
      false := by
  unfold Trace.addDeclarator
  cases declarator.declared with
  | function function => exact addsEnumeration_addFunction ..
  | functionPointer parameters => rfl
  | object => rfl

theorem addsEnumeration_addDeclarators (base? : Option CType) (rest : DeclaratorList) :
    (Trace.addDeclarators b scope level template base? rest).any Action.addsEnumeration = false := by
  unfold Trace.addDeclarators
  generalize (if rest.isConst then base?.map CType.withConst else base?) = base?
  generalize rest.declarators = declarators
  induction declarators generalizing b with
  | nil => rfl
  | cons declarator declarators ih =>
    rw [Trace.addDeclarators.go, List.any_append, addsEnumeration_addDeclarator, ih]
    rfl

variable {b scope level}

theorem eq_of_mem_addEnum {b' : Builder} {scope' : Scope} {level' : Access} {head' : EnumHead}
    (h : .add b scope (.enumeration level head) ∈ Trace.addEnum b' scope' level' head') :
    b = b' ∧ scope = scope' ∧ level = level' ∧ head = head' := by
  simp only [Trace.addEnum, Trace.addNested, List.mem_cons, Action.add.injEq,
    Addition.enumeration.injEq] at h
  cases h with
  | inl h => exact h
  | inr h =>
    have hparts : (Trace.addAll (b'.add scope' (.enumeration level' head')) (.inside b'.nextId)
        (head'.enumerators.map (.enumerator (Addition.enumType b' scope' head')))).any
          Action.addsEnumeration := List.any_eq_true.mpr ⟨_, h, rfl⟩
    rw [addsEnumeration_addAll] at hparts
    simp [Addition.isEnumeration] at hparts

end AddsEnumeration

namespace Call

variable {options : Options} {call : Call} {item : Item} {rest : List Item}
  {declarators : DeclaratorList}

theorem addsEnumeration_closing (options : Options) (call : Call) (item : Item) :
    (call.closing options item).any Action.addsEnumeration = false := by
  cases item with
  | record | enumeration =>
    rw [closing, List.any_cons, declaratorActions, addsEnumeration_addDeclarators]
    rfl
  | declaration =>
    rw [closing, List.any_append, declaratorActions, addsEnumeration_addDeclarators, addsEnumeration_types]
    rfl
  | _ => rfl

theorem addsEnumeration_opening (options : Options) (call : Call) (item : Item)
    (h : ∀ head declarators, item ≠ .enumeration head declarators) :
    (call.opening options item).any Action.addsEnumeration = false := by
  cases item with
  | enumeration head declarators => exact absurd rfl (h head declarators)
  | namespaceBlock => rw [opening, addsEnumeration_addNamespaces]
  | template => rw [opening, Trace.parameterTypes, addsEnumeration_types]
  | record => rw [opening, addsEnumeration_addRecord]
  | function declarator result? span body? members =>
    simp only [opening, List.any_append, addsEnumeration_types, addsEnumeration_addFunction,
      Bool.false_or]
    cases body? with
    | none => rfl
    | some site =>
      dsimp only
      split
      · rfl
      · rfl
  | accessLabel | inclusion | macroDefinition =>
    simp only [opening, Trace.lowerItem]
    split
    · rfl
    · rfl
  | linkageBlock | declaration | typeAlias | usingName => rfl

theorem eq_enumeration_of_mem_opening
    (h : .add b scope (.enumeration level head) ∈ call.opening options item) :
    ∃ declarators, item = .enumeration head declarators
      ∧ b = call.unit ∧ scope = call.scope ∧ level = call.level := by
  -- Only the item of an enumeration adds one.
  by_cases hitem : ∃ written declarators, item = .enumeration written declarators
  · obtain ⟨written, declarators, rfl⟩ := hitem
    obtain ⟨rfl, rfl, rfl, rfl⟩ := eq_of_mem_addEnum h
    exact ⟨declarators, rfl, rfl, rfl, rfl⟩
  · have hadds : (call.opening options item).any Action.addsEnumeration :=
      List.any_eq_true.mpr ⟨_, h, rfl⟩
    rw [addsEnumeration_opening options call item fun written declarators heq =>
      hitem ⟨written, declarators, heq⟩] at hadds
    contradiction

theorem addEnum_subset (options : Options) (hitems : call.items = .enumeration head declarators :: rest) :
    Trace.addEnum call.unit call.scope call.level head ⊆ call.actions options := by
  rw [actions_of_items hitems]
  intro action haction
  exact List.mem_append_left _ (List.mem_append_left _ (List.mem_append_left _ haction))

theorem Sound.childrenOf_enumeration (h : call.Sound) (options : Options)
    (hitems : call.items = .enumeration head declarators :: rest) :
    call.unit.nextId < (call.result options).nextId
      ∧ (call.result options).childrenOf call.unit.nextId =
        (addEnum call.unit call.scope call.level head).childrenOf call.unit.nextId := by
  have hlexical := h.lexical_lt
  have hsize : (addEnum call.unit call.scope call.level head).childLists.size =
      (addEnum call.unit call.scope call.level head).nextId :=
    ((nests_addEnum ..).growsIn h.wellFormed.size_childLists hlexical).size_childLists
  have hlt : call.unit.nextId < (addEnum call.unit call.scope call.level head).nextId := by
    have := (extends_addAll (call.unit.add call.scope (.enumeration call.level head))
      (.inside call.unit.nextId) (head.enumerators.map
        (.enumerator (Addition.enumType call.unit call.scope head)))).nextId_le
    rw [nextId_add] at this
    exact this
  have hafter : (addEnum call.unit call.scope call.level head).GrowsIn call.scope.lexical
      (call.after options (.enumeration head declarators)) :=
    (nests_addDeclarators ..).growsIn hsize (by omega)
  have hgrows := hafter.trans ((h.next options hitems).growsIn_result options)
  rw [result_of_items hitems]
  exact ⟨Nat.lt_of_lt_of_le hlt hgrows.nextId_le,
    hgrows.childrenOf_eq _ hlt (Nat.ne_of_gt hlexical)⟩

end Call
end Lowering

namespace TranslationUnit

open ParseTree Declaration Lowering

variable {source : Source} {tree : ParseTree} {options : Options} {b : Builder} {scope : Scope}
  {level : Access} {head : EnumHead} {v : Fin (ofParseTree source tree options).cursors.size}

theorem exists_call_of_mem_trace
    (hmem : .add b scope (.enumeration level head) ∈ trace source tree options) :
    ∃ call declarators rest, (startCall source tree).Leads options call
      ∧ call.items = .enumeration head declarators :: rest
      ∧ b = call.unit ∧ scope = call.scope ∧ level = call.level := by
  obtain ⟨call, item, rest, hleads, hitems, hwhere⟩ :=
    Call.exists_leads_of_mem options (startCall source tree) hmem
  cases hwhere with
  | inr hclosing =>
    have hadds : (call.closing options item).any Action.addsEnumeration :=
      List.any_eq_true.mpr ⟨_, hclosing, rfl⟩
    rw [Call.addsEnumeration_closing] at hadds
    contradiction
  | inl hopening =>
    obtain ⟨declarators, rfl, hcall⟩ := Call.eq_enumeration_of_mem_opening hopening
    exact ⟨call, declarators, rest, hleads, hitems, hcall⟩

theorem childrenOf_of_mem_trace
    (hmem : .add b scope (.enumeration level head) ∈ trace source tree options) :
    Trace.addEnum b scope level head ⊆ trace source tree options
      ∧ (build source tree options).childrenOf b.nextId =
        (addEnum b scope level head).childrenOf b.nextId := by
  obtain ⟨call, declarators, rest, hleads, hitems, rfl, rfl, rfl⟩ := exists_call_of_mem_trace hmem
  have hsound := hleads.sound (sound_startCall source tree)
  obtain ⟨hlt, hchildren⟩ := hsound.childrenOf_enumeration options hitems
  have hbuild := (hleads.childrenOf_eq (sound_startCall source tree)).2 _ (Nat.le_refl _) hlt
  exact ⟨List.Subset.trans (Call.addEnum_subset options hitems) hleads.actions_subset,
    hbuild.trans hchildren⟩

theorem forall₂_children_of_mem_trace
    (hmem : .add b scope (.enumeration level head) ∈ trace source tree options)
    (hv : b.nextId = v) :
    List.Forall₂ (fun c written => ∃ before,
        (ofParseTree source tree options).cursor c =
          (Addition.enumerator (Addition.enumType b scope head) written).placed before
            (.inside b.nextId))
      ((ofParseTree source tree options).children v) head.enumerators := by
  obtain ⟨hactions, hchildren⟩ := childrenOf_of_mem_trace hmem
  obtain ⟨hb, hadded, hlexical⟩ := wellFormed_of_mem_trace hmem
  have hnone : (b.add scope (.enumeration level head)).childrenOf b.nextId = [] :=
    Builder.childrenOf_add_nextId hb.size_childLists hlexical _
  obtain ⟨ids, hids, hadditions⟩ := exists_childrenOf_addAll (.inside b.nextId)
    hadded.size_childLists (by rw [Builder.nextId_add]; exact Nat.lt_succ_self _)
    (head.enumerators.map (.enumerator (Addition.enumType b scope head)))
  have hval : ((ofParseTree source tree options).children v).map (·.val) = ids := by
    rw [map_val_children_ofParseTree, ← hv, hchildren]
    refine hids.trans ?_
    rw [show (Scope.inside b.nextId).lexical = b.nextId from rfl, hnone, List.nil_append]
  rw [← hval, List.forall₂_map_left_iff, List.forall₂_map_right_iff] at hadditions
  refine hadditions.imp ?_
  rintro c written ⟨before, hid, hadd⟩
  exact ⟨before, cursor_of_mem_trace (hactions (List.mem_cons_of_mem _ hadd)) hid⟩

structure IsConstantOf (source : Source) (unit : TranslationUnit) (c : Fin unit.cursors.size)
    (node : ParseTree) : Prop where
  kind : (unit.cursor c).kind = .enumConstantDecl
  name : ∃ name, node.field? .name = some name
    ∧ (unit.cursor c).spelling = source.textOf name
    ∧ (unit.cursor c).location = some (source.locationOf name)
  span : (unit.cursor c).span = some node.span

theorem isConstantOf_of_placed {c : Fin (ofParseTree source tree options).cursors.size}
    {node : ParseTree} {type : CType} {before : Builder} (hnode : isEnumerator node)
    (hcursor : (ofParseTree source tree options).cursor c =
      (Addition.enumerator type (constantOf source node)).placed before scope) :
    IsConstantOf source (ofParseTree source tree options) c node := by
  unfold isEnumerator at hnode
  rw [Bool.and_eq_true, Option.isSome_iff_exists] at hnode
  obtain ⟨-, name, hname⟩ := hnode
  constructor
  · rw [hcursor]
    rfl
  · refine ⟨name, hname, ?_⟩
    rw [hcursor]
    simp [Addition.placed, Addition.cursor, constantOf, hname]
  · rw [hcursor]
    rfl

theorem forall₂_isConstantOf {specifier list : ParseTree}
    (hmem : .add b scope (.enumeration level (enumHead source specifier)) ∈ trace source tree options)
    (hv : b.nextId = v) (hlist : specifier.field? .body = some list) :
    List.Forall₂ (IsConstantOf source (ofParseTree source tree options))
      ((ofParseTree source tree options).children v) (directEnumerators list) := by
  have hchildren := forall₂_children_of_mem_trace hmem hv
  rw [enumerators_enumHead source hlist, List.forall₂_map_right_iff] at hchildren
  refine List.forall₂_iff_zip.mpr ⟨hchildren.length_eq, ?_⟩
  intro c node hzip
  obtain ⟨before, hcursor⟩ := List.forall₂_zip hchildren hzip
  exact isConstantOf_of_placed (List.mem_filter.mp (List.of_mem_zip hzip).2).2 hcursor

structure ComesToEnumeration (source : Source) (tree : ParseTree) (options : Options)
    (specifier : ParseTree) : Prop where
  contains : tree.Contains specifier
  kind : specifier.kind = .enumeration
  item : ∃ call declarators rest, (startCall source tree).Leads options call
    ∧ call.items = .enumeration (enumHead source specifier) declarators :: rest

theorem exists_mem_trace_of_loweredFrom {id : Nat} {specifier : ParseTree}
    (hkind : specifier.kind = .enumeration) (h : LoweredFrom source tree options id specifier) :
    ∃ b scope level, b.nextId = id
      ∧ .add b scope (.enumeration level (enumHead source specifier)) ∈ trace source tree options := by
  obtain ⟨-, b, scope, addition, hmem, hnext, hwritten⟩ := h
  cases addition with
  | enumeration level head =>
    obtain ⟨-, rfl⟩ := hwritten
    exact ⟨b, scope, level, hnext, hmem⟩
  | record level template head =>
    obtain ⟨keyword, hrecord, -⟩ := hwritten
    rw [hkind] at hrecord
    contradiction
  | _ => contradiction

theorem exists_loweredFrom_iff {specifier : ParseTree} (hkind : specifier.kind = .enumeration) :
    (∃ v : Fin (ofParseTree source tree options).cursors.size,
      LoweredFrom source tree options v specifier) ↔
        ComesToEnumeration source tree options specifier := by
  constructor
  · rintro ⟨v, hlowered⟩
    obtain ⟨b, scope, level, -, hmem⟩ := exists_mem_trace_of_loweredFrom hkind hlowered
    obtain ⟨call, declarators, rest, hleads, hitems, -⟩ := exists_call_of_mem_trace hmem
    exact ⟨hlowered.1, hkind, call, declarators, rest, hleads, hitems⟩
  · rintro ⟨hcontains, -, call, declarators, rest, hleads, hitems⟩
    have hmem : .add call.unit call.scope (.enumeration call.level (enumHead source specifier)) ∈
        trace source tree options :=
      hleads.actions_subset (Call.addEnum_subset options hitems List.mem_cons_self)
    exact ⟨⟨call.unit.nextId, nextId_lt_of_mem_trace hmem⟩, hcontains, _, _, _, hmem, rfl, hkind, rfl⟩

theorem exists_loweredFrom_of_enumDecl
    (hv : ((ofParseTree source tree options).cursor v).kind = .enumDecl) :
    ∃ specifier, specifier.kind = .enumeration ∧ LoweredFrom source tree options v specifier := by
  obtain ⟨before, scope, addition, hmem, hnext⟩ :=
    exists_mem_trace (ne_root_of_kind (· == .enumDecl) rfl (beq_iff_eq.mpr hv))
  rw [cursor_of_mem_trace hmem hnext] at hv
  obtain ⟨level, head, rfl⟩ := Addition.eq_enumeration hv
  obtain ⟨-, specifier, hcontains, hkind, rfl⟩ := hasOrigin_trace source tree options _ hmem
  exact ⟨specifier, hkind, hcontains, _, _, _, hmem, hnext, hkind, rfl⟩

/--
Every enumeration that lowering comes to has a cursor, and every such cursor has a specifier. Its
children are the enumerators that stand directly in the list of the specifier, in their order. These
are all the enumerators of the list exactly if there are none in its conditional blocks.
-/
theorem ofParseTree_enumerators (source : Source) (tree : ParseTree) (options : Options) :
    let unit := ofParseTree source tree options
    (∀ specifier, specifier.kind = .enumeration →
      ((∃ v : Fin unit.cursors.size, LoweredFrom source tree options v specifier) ↔
        ComesToEnumeration source tree options specifier))
    ∧ (∀ v, (unit.cursor v).kind = .enumDecl →
      ∃ specifier, specifier.kind = .enumeration ∧ LoweredFrom source tree options v specifier)
    ∧ ∀ (v : Fin unit.cursors.size) (specifier : ParseTree), specifier.kind = .enumeration →
      LoweredFrom source tree options v specifier →
      (unit.cursor v).kind = .enumDecl
      ∧ (specifier.field? .body = none → unit.children v = [])
      ∧ ∀ list, specifier.field? .body = some list →
        List.Forall₂ (IsConstantOf source unit) (unit.children v) (directEnumerators list)
        ∧ (List.Forall₂ (IsConstantOf source unit) (unit.children v) (enumerators list) ↔
          ∀ block ∈ list.namedChildren, isConditional block → enumerators block = []) := by
  intro unit
  refine ⟨fun specifier hkind => exists_loweredFrom_iff hkind,
    fun v hv => exists_loweredFrom_of_enumDecl hv, ?_⟩
  intro v specifier hkind hlowered
  obtain ⟨b, scope, level, hnext, hmem⟩ := exists_mem_trace_of_loweredFrom hkind hlowered
  refine ⟨?_, ?_, ?_⟩
  · rw [cursor_of_mem_trace hmem hnext]
    rfl
  · intro hnone
    have hchildren := forall₂_children_of_mem_trace hmem hnext
    have hempty : (enumHead source specifier).enumerators = [] := by
      unfold enumHead
      dsimp only
      rw [hnone]
    rw [hempty] at hchildren
    exact List.forall₂_nil_right_iff.mp hchildren
  · intro list hlist
    have hdirect := forall₂_isConstantOf hmem hnext hlist
    refine ⟨hdirect, ?_, ?_⟩
    · intro hall
      rw [← length_enumerators_eq_iff, ← hall.length_eq, hdirect.length_eq]
    · intro hnone
      rw [enumerators_eq_directEnumerators hnone]
      exact hdirect

/-- An enumeration with one of its enumerators in a conditional block. -/
def conditionalSource : Source where
  path := "a.cpp"
  text := "enum E \x7b A,\n#ifdef X\n B,\n#endif\n C \x7d;"

def enumeratorAt (start : Nat) : ParseTree :=
  .node { label := "enumerator", span := ⟨start, start + 1⟩ } [
    .node { label := "identifier", field := some .name, span := ⟨start, start + 1⟩ } []]

def conditionalList : ParseTree :=
  .node { label := "enumerator_list", field := some .body, span := ⟨7, 36⟩ } [
    enumeratorAt 9,
    .node { label := "preproc_ifdef", span := ⟨12, 31⟩ } [
      .node { label := "identifier", field := some .name, span := ⟨19, 20⟩ } [],
      enumeratorAt 22],
    enumeratorAt 33]

def conditionalSpecifier : ParseTree :=
  .node { label := "enum_specifier", span := ⟨0, 36⟩ } [
    .node { label := "type_identifier", field := some .name, span := ⟨5, 6⟩ } [],
    conditionalList]

def conditionalTree : ParseTree :=
  .node { label := "translation_unit", span := ⟨0, 37⟩ } [conditionalSpecifier]

theorem loweredFrom_conditionalSpecifier :
    LoweredFrom conditionalSource conditionalTree {} 1 conditionalSpecifier :=
  loweredFrom_of_addsEnum (.single List.mem_cons_self) rfl (by decide +kernel)

theorem size_conditional : (ofParseTree conditionalSource conditionalTree).cursors.size = 4 := by
  decide +kernel

def conditionalEnum : Fin (ofParseTree conditionalSource conditionalTree).cursors.size :=
  ⟨1, by rw [size_conditional]; decide⟩

theorem ofParseTree_enumerators_conditional :
    let unit := ofParseTree conditionalSource conditionalTree
    (unit.cursor conditionalEnum).kind = .enumDecl
      ∧ List.Forall₂ (IsConstantOf conditionalSource unit) (unit.children conditionalEnum)
        [enumeratorAt 9, enumeratorAt 33] := by
  intro unit
  obtain ⟨-, -, hlowered⟩ := ofParseTree_enumerators conditionalSource conditionalTree {}
  obtain ⟨hkind, -, hchildren⟩ :=
    hlowered conditionalEnum conditionalSpecifier rfl loweredFrom_conditionalSpecifier
  exact ⟨hkind, (hchildren conditionalList rfl).1⟩

/-- The enumerator `B` is lost. -/
theorem conditional_enumerators_not_lowered :
    let unit := ofParseTree conditionalSource conditionalTree
    ¬∀ (v : Fin unit.cursors.size) (specifier list : ParseTree),
      (unit.cursor v).kind = .enumDecl → LoweredFrom conditionalSource conditionalTree {} v specifier →
      specifier.field? .body = some list →
      List.Forall₂ (IsConstantOf conditionalSource unit) (unit.children v) (enumerators list) := by
  intro unit h
  have hkind : (unit.cursor conditionalEnum).kind = .enumDecl := by decide +kernel
  have hall := h conditionalEnum conditionalSpecifier conditionalList hkind
    loweredFrom_conditionalSpecifier rfl
  have hchildren : (unit.children conditionalEnum).length = 2 := by decide +kernel
  have henumerators : (enumerators conditionalList).length = 3 := by decide +kernel
  have hlength := hall.length_eq
  rw [hchildren, henumerators] at hlength
  contradiction

end TranslationUnit
end CursorQuery
