import CursorQuery.Proofs.Lowering.Origin

/-!
This module contains that the extent of the root is not looked at: units that are built from roots with
different extents differ in these extents only.
-/

namespace CursorQuery
namespace Builder

def withExtent (b : Builder) (span : Option Span) : Builder :=
  { b with cursors := b.cursors.modify Cursor.root fun root => { root with span } }

section Reads

variable (b : Builder) (span : Option Span) (id : Nat)

@[simp]
theorem nextId_withExtent : (b.withExtent span).nextId = b.nextId :=
  Array.size_modify

@[simp]
theorem childrenOf_withExtent : (b.withExtent span).childrenOf id = b.childrenOf id :=
  rfl

theorem cursor_withExtent :
    (b.withExtent span).cursor id = { b.cursor id with span := ((b.withExtent span).cursor id).span } := by
  unfold cursor withExtent
  rw [Array.getElem?_modify]
  split
  · cases b.cursors[id]? with
    | none => rfl
    | some cursor => rfl
  · rfl

theorem cursor_withExtent_of_ne (h : id ≠ Cursor.root) : (b.withExtent span).cursor id = b.cursor id := by
  unfold cursor withExtent
  rw [Array.getElem?_modify, if_neg (Ne.symm h)]

@[simp]
theorem kind_withExtent : ((b.withExtent span).cursor id).kind = (b.cursor id).kind :=
  congrArg (·.kind) (b.cursor_withExtent span id)

@[simp]
theorem spelling_withExtent : ((b.withExtent span).cursor id).spelling = (b.cursor id).spelling :=
  congrArg (·.spelling) (b.cursor_withExtent span id)

@[simp]
theorem type_withExtent : ((b.withExtent span).cursor id).type = (b.cursor id).type :=
  congrArg (·.type) (b.cursor_withExtent span id)

@[simp]
theorem access_withExtent : ((b.withExtent span).cursor id).access = (b.cursor id).access :=
  congrArg (·.access) (b.cursor_withExtent span id)

@[simp]
theorem isDefinition_withExtent :
    ((b.withExtent span).cursor id).isDefinition = (b.cursor id).isDefinition :=
  congrArg (·.isDefinition) (b.cursor_withExtent span id)

@[simp]
theorem qualifiedName_withExtent :
    ((b.withExtent span).cursor id).qualifiedName = (b.cursor id).qualifiedName :=
  congrArg (·.qualifiedName) (b.cursor_withExtent span id)

@[simp]
theorem semanticParent_withExtent :
    ((b.withExtent span).cursor id).semanticParent = (b.cursor id).semanticParent :=
  congrArg (·.semanticParent) (b.cursor_withExtent span id)

@[simp]
theorem names_withExtent : (b.withExtent span).names = b.names :=
  rfl

@[simp]
theorem scopePrefix_withExtent : (b.withExtent span).scopePrefix id = b.scopePrefix id := by
  fun_induction scopePrefix b id with
  | case1 id cursor parent hparent hclimb ih =>
    rw [scopePrefix]
    rw [semanticParent_withExtent, kind_withExtent, hparent]
    dsimp only
    rw [if_pos hclimb, ih]
  | case2 id cursor parent hparent hstop =>
    rw [scopePrefix]
    rw [semanticParent_withExtent, kind_withExtent, hparent]
    dsimp only
    rw [if_neg hstop, qualifiedName_withExtent]
  | case3 id cursor hparent =>
    rw [scopePrefix]
    rw [semanticParent_withExtent, hparent]
    exact qualifiedName_withExtent b span id

@[simp]
theorem qualify_withExtent (name : String) :
    (b.withExtent span).qualify id name = b.qualify id name := by
  simp [qualify]

@[simp]
theorem resolve_withExtent (name : String) :
    (b.withExtent span).resolve name id = b.resolve name id := by
  simp [resolve]

@[simp]
theorem resolveScope_withExtent (scopes : List String) (scope : Scope) :
    (b.withExtent span).resolveScope scopes scope = b.resolveScope scopes scope := by
  simp [resolveScope]

@[simp]
theorem namedType_withExtent (name : String) :
    (b.withExtent span).namedType name id = b.namedType name id := by
  simp [namedType]

@[simp]
theorem writtenType_withExtent (type : WrittenType) :
    (b.withExtent span).writtenType type id = b.writtenType type id := by
  simp [writtenType]

@[simp]
theorem typeOf_withExtent (use : TypeUse) :
    (b.withExtent span).typeOf use id = b.typeOf use id := by
  simp [typeOf]

@[simp]
theorem resolveParameters_withExtent (parameters : List Parameter) :
    (b.withExtent span).resolveParameters id parameters = b.resolveParameters id parameters := by
  simp [resolveParameters]

@[simp]
theorem isDefined_withExtent (name : String) :
    (b.withExtent span).isDefined name = b.isDefined name := by
  simp [isDefined]

@[simp]
theorem declaredAccess_withExtent (name : String) :
    (b.withExtent span).declaredAccess id name = b.declaredAccess id name := by
  have hdeclares : (b.withExtent span).declares name = b.declares name := by
    funext member
    simp [declares]
  simp [declaredAccess, hdeclares]

@[simp]
theorem enumType_withExtent (scope : Scope) (head : EnumHead) :
    Addition.enumType (b.withExtent span) scope head = Addition.enumType b scope head := by
  simp [Addition.enumType]

@[simp]
theorem cursor_addition_withExtent (scope : Scope) (addition : Addition) :
    addition.cursor (b.withExtent span) scope = addition.cursor b scope := by
  cases addition with
  | record | enumeration | function | object =>
    simp [Addition.cursor, Addition.recordCursor, Addition.enumCursor, Addition.functionCursor,
      Addition.functionKind, Addition.functionAccess, Addition.objectCursor, Addition.objectAccess]
  | _ => simp [Addition.cursor]

end Reads

section Adds

variable {b : Builder} (span : Option Span) (scope : Scope)

theorem push_withExtent (hpos : 0 < b.nextId) (cursor : Cursor) :
    (b.withExtent span).push scope cursor = (b.push scope cursor).withExtent span := by
  have hcursors : ∀ placed, ((b.cursors.modify Cursor.root fun root => { root with span }).push placed) =
      (b.cursors.push placed).modify Cursor.root fun root => { root with span } := by
    intro placed
    apply Array.ext_getElem?
    intro i
    rw [Array.getElem?_modify, Array.getElem?_push, Array.getElem?_push, Array.size_modify,
      Array.getElem?_modify]
    -- The new cursor is not the root, as there is a root already.
    by_cases hnew : i = b.cursors.size
    · have hroot : Cursor.root ≠ i := by
        rw [hnew]
        exact Nat.ne_of_lt hpos
      rw [if_pos hnew, if_neg hroot, if_pos hnew]
    · rw [if_neg hnew, if_neg hnew]
  unfold push withExtent nextId
  simp only [hcursors, Array.size_modify]

theorem register_withExtent (id : Nat) :
    (b.withExtent span).register id = (b.register id).withExtent span := by
  simp only [register, spelling_withExtent, qualifiedName_withExtent, isDefined_withExtent,
    isDefinition_withExtent]
  split
  · rfl
  · rfl

theorem add_withExtent (hpos : 0 < b.nextId) (addition : Addition) :
    (b.withExtent span).add scope addition = (b.add scope addition).withExtent span := by
  unfold add
  simp only [cursor_addition_withExtent, push_withExtent span scope hpos, nextId_withExtent,
    register_withExtent]
  split
  · rfl
  · rfl

theorem addAll_withExtent (hpos : 0 < b.nextId) (additions : List Addition) :
    (b.withExtent span).addAll scope additions = (b.addAll scope additions).withExtent span := by
  induction additions generalizing b with
  | nil => rfl
  | cons addition additions ih =>
    unfold addAll at ih ⊢
    rw [List.foldl_cons, List.foldl_cons, add_withExtent span scope hpos, ih (by simp)]

theorem addNested_withExtent (hpos : 0 < b.nextId) (addition : Addition) (inner : Nat → Scope)
    (parts : List Addition) :
    (b.withExtent span).addNested scope addition inner parts =
      (b.addNested scope addition inner parts).withExtent span := by
  unfold addNested
  rw [add_withExtent span scope hpos, nextId_withExtent, addAll_withExtent _ _ (by simp)]

end Adds
end Builder

namespace Lowering

open Builder

variable {b : Builder} (span : Option Span) (scope : Scope) (level : Access)

theorem addNamespaces_withExtent (hpos : 0 < b.nextId) (site : Site) (names : List String) :
    addNamespaces (b.withExtent span) scope site names =
      ((addNamespaces b scope site names).1.withExtent span, (addNamespaces b scope site names).2) := by
  induction names generalizing b scope with
  | nil => rfl
  | cons name names ih =>
    rw [addNamespaces, addNamespaces, add_withExtent span scope hpos, nextId_withExtent,
      ih _ (by simp)]

theorem addRecord_withExtent (hpos : 0 < b.nextId) (template : List ResolvedParameter)
    (head : RecordHead) :
    addRecord (b.withExtent span) scope level template head =
      (addRecord b scope level template head).withExtent span :=
  addNested_withExtent span scope hpos _ _ _

theorem addEnum_withExtent (hpos : 0 < b.nextId) (head : EnumHead) :
    addEnum (b.withExtent span) scope level head = (addEnum b scope level head).withExtent span := by
  unfold addEnum
  rw [enumType_withExtent, addNested_withExtent span scope hpos]

theorem addFunction_withExtent (hpos : 0 < b.nextId) (form : FunctionForm) :
    addFunction (b.withExtent span) scope level form =
      (addFunction b scope level form).withExtent span :=
  addNested_withExtent span scope hpos _ _ _

@[simp]
theorem tagType_withExtent (id : Nat) : tagType (b.withExtent span) id = tagType b id := by
  simp [tagType]

@[simp]
theorem functionForm_withExtent (template : List ResolvedParameter) (declarator : FunctionDeclarator)
    (result? : Option CType) (isDefinition : Bool) (extent : Span) :
    functionForm (b.withExtent span) scope template declarator result? isDefinition extent =
      functionForm b scope template declarator result? isDefinition extent := by
  simp [functionForm]

theorem addDeclarator_withExtent (hpos : 0 < b.nextId) (template : List ResolvedParameter)
    (rest : DeclaratorList) (base? : Option CType) (declarator : Declarator) :
    addDeclarator (b.withExtent span) scope level template rest base? declarator =
      (addDeclarator b scope level template rest base? declarator).withExtent span := by
  unfold addDeclarator
  dsimp only
  split
  · rw [functionForm_withExtent, addFunction_withExtent span scope level hpos]
  · rw [add_withExtent span scope hpos]
  · rw [add_withExtent span scope hpos]

theorem addDeclarators_withExtent (hpos : 0 < b.nextId) (template : List ResolvedParameter)
    (base? : Option CType) (rest : DeclaratorList) :
    addDeclarators (b.withExtent span) scope level template base? rest =
      (addDeclarators b scope level template base? rest).withExtent span := by
  unfold addDeclarators
  dsimp only
  generalize (if rest.isConst then base?.map CType.withConst else base?) = base?
  generalize rest.declarators = declarators
  induction declarators generalizing b with
  | nil => rfl
  | cons declarator declarators ih =>
    have hext := extends_addDeclarator b scope level template rest base? declarator
    rw [List.foldl_cons, List.foldl_cons, addDeclarator_withExtent span scope level hpos,
      ih (Nat.lt_of_lt_of_le hpos hext.nextId_le)]

section Recursion

variable {options : Options} {call : Call} {item : Item}

theorem after_withExtent (hpos : 0 < call.unit.nextId) (span : Option Span)
    (inside : ∀ inner, call.inside? options item = some inner → 0 < inner.unit.nextId →
      lowerItems options (inner.unit.withExtent span) inner.scope inner.level inner.template
        inner.items = (inner.result options).withExtent span) :
    lowerItem options (call.unit.withExtent span) call.scope call.level call.template item =
      (call.after options item).withExtent span := by
  cases item using Item.shapes with
  | simple item hsimple =>
    let other : Call := { call with unit := call.unit.withExtent span }
    have hother : other.after options item = _ := Call.after_of_isSimple hsimple
    rw [Call.after_of_isSimple hsimple, ← addAll_withExtent span call.scope hpos]
    exact hother
  | namespaceBlock names site body =>
    have hopened :=
      extends_addNamespaces call.unit call.scope site (if names.isEmpty then [""] else names)
    unfold lowerItem
    rw [addNamespaces_withExtent span call.scope hpos]
    exact inside _ rfl (Nat.lt_of_lt_of_le hpos hopened.nextId_le)
  | linkageBlock site body =>
    unfold lowerItem
    rw [add_withExtent span call.scope hpos, nextId_withExtent]
    exact inside _ rfl (by simp)
  | template parameters body =>
    unfold lowerItem
    rw [resolveParameters_withExtent]
    exact inside _ rfl hpos
  | record head members rest =>
    have hopened : call.unit.Extends (addRecord call.unit call.scope call.level call.template head) :=
      extends_addNested ..
    have hmembers := inside _ rfl (Nat.lt_of_lt_of_le hpos hopened.nextId_le)
    dsimp only [Call.recordMembers, Call.result] at hmembers
    have hclosed := hopened.trans (extends_lowerItems options _ (.membersOf call.unit.nextId)
      (Addition.defaultAccess head.keyword) [] members)
    unfold Call.after lowerItem
    dsimp only
    rw [nextId_withExtent, addRecord_withExtent span call.scope call.level hpos, hmembers,
      tagType_withExtent,
      addDeclarators_withExtent span call.scope call.level (Nat.lt_of_lt_of_le hpos hclosed.nextId_le)]
  | enumeration head rest =>
    have hclosed : call.unit.Extends (addEnum call.unit call.scope call.level head) :=
      extends_addNested ..
    unfold Call.after lowerItem
    dsimp only
    rw [nextId_withExtent, addEnum_withExtent span call.scope call.level hpos, tagType_withExtent,
      addDeclarators_withExtent span call.scope call.level (Nat.lt_of_lt_of_le hpos hclosed.nextId_le)]
  | declaration base? rest =>
    unfold Call.after lowerItem
    simp only [writtenType_withExtent]
    rw [addDeclarators_withExtent span call.scope call.level hpos]
  | function declarator result? extent body? members =>
    have hopened : ∀ form, call.unit.Extends (addFunction call.unit call.scope call.level form) :=
      fun _ => extends_addNested ..
    unfold Call.after lowerItem
    simp only [typeOf_withExtent, functionForm_withExtent, nextId_withExtent,
      addFunction_withExtent span call.scope call.level hpos]
    cases body? with
    | none => rfl
    | some site =>
      dsimp only
      split
      · rfl
      · next hskip =>
        rw [add_withExtent span _ (Nat.lt_of_lt_of_le hpos (hopened _).nextId_le)]
        exact inside _ (if_neg hskip) (by simp [Call.functionBody])

theorem lowerItems_withExtent (options : Options) {b : Builder} (hpos : 0 < b.nextId)
    (span : Option Span) (scope : Scope) (level : Access) (template : List ResolvedParameter)
    (items : List Item) :
    lowerItems options (b.withExtent span) scope level template items =
      (lowerItems options b scope level template items).withExtent span := by
  induction b, scope, level, template, items using induct options with
  | nil => rfl
  | cons call item rest inside next =>
    have hext := extends_lowerItem options call item
    rw [lowerItems, lowerItems, after_withExtent hpos span inside]
    exact next (Nat.lt_of_lt_of_le hpos hext.nextId_le)

end Recursion

end Lowering
end CursorQuery
