import CursorQuery.Proofs.Declaration.Everywhere
import CursorQuery.Proofs.Lowering.Run

/-!
This module contains where the additions of a lowering come from: the nodes of the parse tree that write
the records and the enumerations, and the scopes in which additions are made.
-/

namespace CursorQuery

def RecordHead.WrittenIn (source : Source) (tree : ParseTree) (head : RecordHead) : Prop :=
  ∃ specifier keyword, tree.Contains specifier ∧ specifier.kind = .record keyword
    ∧ head = Declaration.recordHead source keyword specifier

def EnumHead.WrittenIn (source : Source) (tree : ParseTree) (head : EnumHead) : Prop :=
  ∃ specifier, tree.Contains specifier ∧ specifier.kind = .enumeration
    ∧ head = Declaration.enumHead source specifier

def Item.HeadWrittenIn (source : Source) (tree : ParseTree) : Item → Prop
  | .record head _ _ => head.WrittenIn source tree
  | .enumeration head _ => head.WrittenIn source tree
  | _ => True

namespace Declaration

open ParseTree Item

theorem headWrittenIn_items (source : Source) {root tree : ParseTree} (h : root.Contains tree) :
    ∀ item ∈ items source tree, item.HeadWrittenIn source root := by
  intro item hitem
  cases isDeclaredBy_of_mem_items item hitem with
  | record hspecifier hkind => exact ⟨_, _, h.trans hspecifier.contains, hkind, rfl⟩
  | enumeration hspecifier hkind => exact ⟨_, h.trans hspecifier.contains, hkind, rfl⟩
  | simple hsimple =>
    cases item with
    | record | enumeration => contradiction
    | _ => trivial
  | _ => trivial

theorem everywhere_headWrittenIn_members (source : Source) (tree : ParseTree) :
    ∀ item ∈ members source tree, item.Everywhere (HeadWrittenIn source tree) := by
  apply everywhere_members
  · intro item hlabel
    cases item with
    | accessLabel => trivial
    | _ => contradiction
  · exact fun _ => headWrittenIn_items source

end Declaration

namespace CursorKind

def isScope (kind : CursorKind) : Bool :=
  kind == .translationUnit || kind == .namespaceDecl || kind == .linkageSpec || kind.isRecord
    || kind == .enumDecl || kind.isFunctionLike

theorem isRecord_of_isFunctionLike {kind : CursorKind} (h : kind.isFunctionLike) :
    kind.isRecord = false := by
  cases kind with
  | functionDecl | functionTemplate | method | constructor | destructor => rfl
  | _ => simp [isFunctionLike] at h

end CursorKind

namespace Scope

/-- The scope is one that lowering opens: what is declared there belongs to a cursor of a suitable kind,
and it is a member exactly if it is put into a record. -/
structure OpenedIn (b : Builder) (scope : Scope) : Prop where
  lexical_lt : scope.lexical < b.nextId
  semantic_lt : scope.semantic < b.nextId
  semantic_kind : (b.cursor scope.semantic).kind.isScope
  inRecord : scope.inRecord = (b.cursor scope.lexical).kind.isRecord

variable {b b' : Builder} {scope : Scope} {addition : Addition}

theorem OpenedIn.of_extends (h : scope.OpenedIn b) (hext : b.Extends b') : scope.OpenedIn b' where
  lexical_lt := Nat.lt_of_lt_of_le h.lexical_lt hext.nextId_le
  semantic_lt := Nat.lt_of_lt_of_le h.semantic_lt hext.nextId_le
  semantic_kind := by
    rw [hext.cursor_eq _ h.semantic_lt]
    exact h.semantic_kind
  inRecord := by
    rw [hext.cursor_eq _ h.lexical_lt]
    exact h.inRecord

theorem openedIn_inside (hkind : (addition.cursor b scope).kind.isScope)
    (hrecord : (addition.cursor b scope).kind.isRecord = false) :
    (Scope.inside b.nextId).OpenedIn (b.add scope addition) where
  lexical_lt := by simp [inside]
  semantic_lt := by simp [inside]
  semantic_kind := by
    simp only [inside, Builder.cursor_add_nextId]
    exact hkind
  inRecord := by
    simp only [inside, Builder.cursor_add_nextId]
    exact hrecord.symm

theorem openedIn_membersOf (hrecord : (addition.cursor b scope).kind.isRecord) :
    (Scope.membersOf b.nextId).OpenedIn (b.add scope addition) where
  lexical_lt := by simp [membersOf]
  semantic_lt := by simp [membersOf]
  semantic_kind := by
    have hrecord' : (addition.placed b scope).kind.isRecord := hrecord
    simp [membersOf, Builder.cursor_add_nextId, CursorKind.isScope, hrecord']
  inRecord := by
    simp only [membersOf, Builder.cursor_add_nextId]
    exact hrecord.symm

theorem OpenedIn.body {function : Nat} (h : (inside function).OpenedIn b) (site : Site) :
    ({ lexical := b.nextId, semantic := function, inRecord := false } : Scope).OpenedIn
      (b.add (.inside function) (.body site)) := by
  have hadded := h.of_extends (b.extends_add (.inside function) (.body site))
  constructor
  · simp
  · exact hadded.semantic_lt
  · exact hadded.semantic_kind
  · rw [Builder.cursor_add_nextId]
    rfl

end Scope

namespace Addition

def kinds : Addition → List CursorKind
  | .parameter _ =>
    [.parmDecl, .templateTypeParameter, .templateNonTypeParameter, .templateTemplateParameter]
  | .accessLabel .. => [.accessSpecifier]
  | .namespaceBlock .. => [.namespaceDecl]
  | .linkage _ => [.linkageSpec]
  | .base .. => [.baseSpecifier]
  | .record .. => [.classDecl, .structDecl, .unionDecl, .classTemplate]
  | .enumeration .. => [.enumDecl]
  | .enumerator .. => [.enumConstantDecl]
  | .function .. => [.functionDecl, .functionTemplate, .method, .constructor, .destructor]
  | .body _ => [.compoundStmt]
  | .object .. => [.fieldDecl, .varDecl]
  | .typeAlias .. => [.typedefDecl, .typeAliasDecl]
  | .usingName .. => [.usingDirective, .usingDeclaration]
  | .inclusion .. => [.inclusionDirective]
  | .macroDefinition .. => [.macroDefinition]

theorem kind_mem_kinds (addition : Addition) (b : Builder) (scope : Scope) :
    (addition.cursor b scope).kind ∈ addition.kinds := by
  cases addition with
  | parameter resolved =>
    simp only [cursor]
    cases resolved.kind with
    | _ => simp [kinds, ParameterKind.cursorKind]
  | record level template head =>
    have hrecord : (recordCursor b scope level template head).kind.isRecord :=
      isRecord_recordCursor level template head
    simp only [cursor]
    cases hkind : (recordCursor b scope level template head).kind with
    | _ => simp [hkind, CursorKind.isRecord, kinds] at hrecord ⊢
  | function level form =>
    have hlike : (functionCursor b scope level form).kind.isFunctionLike :=
      isFunctionLike_functionKind ..
    simp only [cursor]
    cases hkind : (functionCursor b scope level form).kind with
    | _ => simp [hkind, CursorKind.isFunctionLike, kinds] at hlike ⊢
  | object level form =>
    simp only [cursor, objectCursor]
    split
    · simp [kinds]
    · simp [kinds]
  | typeAlias level isTypedef name site =>
    cases isTypedef with
    | _ => simp [cursor, kinds]
  | usingName level isDirective target site =>
    cases isDirective with
    | _ => simp [cursor, kinds]
  | _ => exact List.mem_singleton_self _

theorem kind_placed_of_kinds (P : CursorKind → Bool) {addition : Addition} {b : Builder}
    {scope : Scope} (h : addition.kinds.any P = false) : P (addition.placed b scope).kind = false := by
  rw [List.any_eq_false] at h
  exact Bool.eq_false_iff.mpr (h _ (addition.kind_mem_kinds b scope))

def ComesFrom (source : Source) (tree : ParseTree) (b : Builder) (scope : Scope) : Addition → Prop
  | .record _ _ head => head.WrittenIn source tree
  | .enumeration _ head => head.WrittenIn source tree
  | .enumerator type _ =>
    scope.lexical = scope.semantic ∧ (b.cursor scope.semantic).kind = .enumDecl
      ∧ (b.cursor scope.semantic).type = some type
  | _ => True

def IsWrittenBy (source : Source) (specifier : ParseTree) : Addition → Prop
  | .record _ _ head =>
    ∃ keyword, specifier.kind = .record keyword
      ∧ head = Declaration.recordHead source keyword specifier
  | .enumeration _ head =>
    specifier.kind = .enumeration ∧ head = Declaration.enumHead source specifier
  | _ => False

theorem comesFrom_of_isSimple {source : Source} {tree : ParseTree} {b : Builder} {scope : Scope}
    {addition : Addition} (h : addition.isSimple) : addition.ComesFrom source tree b scope := by
  cases addition with
  | record | enumeration | enumerator => contradiction
  | _ => trivial

end Addition

namespace Lowering

open Builder

variable {source : Source} {tree : ParseTree} {b b' : Builder} {scope : Scope}

theorem extends_addNamespaces (b : Builder) (scope : Scope) (site : Site) (names : List String) :
    b.Extends (addNamespaces b scope site names).1 := by
  induction names generalizing b scope with
  | nil => exact .refl b
  | cons name names ih => exact (b.extends_add scope _).trans (ih _ _)

theorem extends_addNested (b : Builder) (scope : Scope) (addition : Addition) (inner : Nat → Scope)
    (parts : List Addition) : b.Extends (b.addNested scope addition inner parts) :=
  (b.extends_add scope addition).trans (extends_addAll _ _ _)

theorem extends_addDeclarator (b : Builder) (scope : Scope) (level : Access)
    (template : List ResolvedParameter) (rest : DeclaratorList) (base? : Option CType)
    (declarator : Declarator) :
    b.Extends (addDeclarator b scope level template rest base? declarator) := by
  unfold addDeclarator
  dsimp only
  split
  · exact extends_addNested _ _ _ _ _
  · exact b.extends_add scope _
  · exact b.extends_add scope _

theorem extends_addDeclarators (b : Builder) (scope : Scope) (level : Access)
    (template : List ResolvedParameter) (base? : Option CType) (rest : DeclaratorList) :
    b.Extends (addDeclarators b scope level template base? rest) := by
  unfold addDeclarators
  dsimp only
  generalize rest.declarators = declarators
  induction declarators generalizing b with
  | nil => exact .refl b
  | cons declarator declarators ih => exact (extends_addDeclarator ..).trans (ih _)

variable {options : Options} {call : Call} {item : Item}

theorem extends_after (inside : ∀ inner, call.inside? options item = some inner →
      inner.unit.Extends (inner.result options)) :
    call.unit.Extends (call.after options item) := by
  cases item using Item.shapes with
  | simple item hsimple =>
    rw [Call.after_of_isSimple hsimple]
    exact extends_addAll _ _ _
  | namespaceBlock names site body => exact (extends_addNamespaces ..).trans (inside _ rfl)
  | linkageBlock site body =>
    exact (call.unit.extends_add call.scope (.linkage site)).trans (inside _ rfl)
  | template parameters body => exact inside _ rfl
  | record head members rest =>
    exact ((extends_addNested ..).trans (inside _ rfl)).trans (extends_addDeclarators ..)
  | enumeration head rest => exact (extends_addNested ..).trans (extends_addDeclarators ..)
  | declaration base? rest => exact extends_addDeclarators ..
  | function declarator result? span body? members =>
    let form := call.functionForm declarator result? span
    have hopened : call.unit.Extends (addFunction call.unit call.scope call.level form) :=
      extends_addNested ..
    unfold Call.after lowerItem
    cases body? with
    | none => exact hopened
    | some site =>
      dsimp only
      split
      · exact hopened
      · next hskip =>
        have hblock := extends_add (addFunction call.unit call.scope call.level form)
          (.inside call.unit.nextId) (.body site)
        exact (hopened.trans hblock).trans (inside _ (if_neg hskip))

theorem extends_lowerItems (options : Options) (b : Builder) (scope : Scope) (level : Access)
    (template : List ResolvedParameter) (items : List Item) :
    b.Extends (lowerItems options b scope level template items) := by
  induction b, scope, level, template, items using induct options with
  | nil b => exact .refl b
  | cons call item rest inside next => exact (extends_after inside).trans next

theorem extends_lowerItem (options : Options) (call : Call) (item : Item) :
    call.unit.Extends (call.after options item) :=
  extends_after fun _ _ => extends_lowerItems ..

namespace Action

def HasOrigin (source : Source) (tree : ParseTree) : Action → Prop
  | .add b scope addition => scope.OpenedIn b ∧ addition.ComesFrom source tree b scope
  | _ => True

end Action

theorem hasOrigin_types (scope : Nat) (written : List WrittenType) :
    ∀ action ∈ Trace.types b scope written, action.HasOrigin source tree := by
  unfold Trace.types
  rw [List.forall_mem_map]
  exact fun _ _ => trivial

theorem hasOrigin_addAll {additions : List Addition} (hscope : scope.OpenedIn b)
    (hadditions : ∀ addition ∈ additions, ∀ b', b.Extends b' →
      addition.ComesFrom source tree b' scope) :
    ∀ action ∈ Trace.addAll b scope additions, action.HasOrigin source tree := by
  induction additions generalizing b with
  | nil => simp [Trace.addAll]
  | cons addition additions ih =>
    rw [List.forall_mem_cons] at hadditions
    have hext := b.extends_add scope addition
    rw [Trace.addAll, List.forall_mem_cons]
    refine ⟨⟨hscope, hadditions.1 b (.refl b)⟩, ih (hscope.of_extends hext) ?_⟩
    intro other hother b' hb'
    exact hadditions.2 other hother b' (hext.trans hb')

theorem openedIn_addNamespace (b : Builder) (scope : Scope) (name : String) (site : Site) :
    (Scope.inside b.nextId).OpenedIn (b.add scope (.namespaceBlock name site)) :=
  Scope.openedIn_inside rfl rfl

theorem openedIn_addNamespaces (hscope : scope.OpenedIn b) (site : Site) (names : List String) :
    (addNamespaces b scope site names).2.OpenedIn (addNamespaces b scope site names).1 := by
  induction names generalizing b scope with
  | nil => exact hscope
  | cons name names ih => exact ih (openedIn_addNamespace b scope name site)

theorem hasOrigin_addNamespaces (hscope : scope.OpenedIn b) (site : Site) (names : List String) :
    ∀ action ∈ Trace.addNamespaces b scope site names, action.HasOrigin source tree := by
  induction names generalizing b scope with
  | nil => simp [Trace.addNamespaces]
  | cons name names ih =>
    rw [Trace.addNamespaces, List.forall_mem_cons]
    exact ⟨⟨hscope, trivial⟩, ih (openedIn_addNamespace b scope name site)⟩

theorem openedIn_addFunction (b : Builder) (scope : Scope) (level : Access) (form : FunctionForm) :
    (Scope.inside b.nextId).OpenedIn (b.add scope (.function level form)) := by
  have hlike := Addition.isFunctionLike_functionKind (b := b) form.template
    (b.resolveScope form.declarator.name.scopes scope) form.declarator.name.name
  apply Scope.openedIn_inside
  · simp [Addition.cursor, Addition.functionCursor, CursorKind.isScope, hlike]
  · exact CursorKind.isRecord_of_isFunctionLike hlike

theorem hasOrigin_parameters (hscope : scope.OpenedIn b) (parameters : List ResolvedParameter) :
    ∀ action ∈ Trace.addAll b scope (parameters.map .parameter), action.HasOrigin source tree := by
  apply hasOrigin_addAll hscope
  rw [List.forall_mem_map]
  exact fun _ _ _ _ => trivial

theorem hasOrigin_addFunction (hscope : scope.OpenedIn b) (level : Access) (form : FunctionForm) :
    ∀ action ∈ Trace.addFunction b scope level form, action.HasOrigin source tree := by
  unfold Trace.addFunction Trace.addNested
  rw [List.forall_mem_append, List.forall_mem_cons]
  exact ⟨hasOrigin_types _ _, ⟨hscope, trivial⟩,
    hasOrigin_parameters (openedIn_addFunction b scope level form) _⟩

theorem hasOrigin_addDeclarator (hscope : scope.OpenedIn b) (level : Access)
    (template : List ResolvedParameter) (rest : DeclaratorList) (base? : Option CType)
    (declarator : Declarator) :
    ∀ action ∈ Trace.addDeclarator b scope level template rest base? declarator,
      action.HasOrigin source tree := by
  have hobject : ∀ form, (Action.add b scope (.object level form)).HasOrigin source tree :=
    fun _ => ⟨hscope, trivial⟩
  unfold Trace.addDeclarator
  dsimp only
  split
  · exact hasOrigin_addFunction hscope level _
  · exact List.forall_mem_singleton.mpr (hobject _)
  · exact List.forall_mem_singleton.mpr (hobject _)

theorem hasOrigin_addDeclarators (hscope : scope.OpenedIn b) (level : Access)
    (template : List ResolvedParameter) (base? : Option CType) (rest : DeclaratorList) :
    ∀ action ∈ Trace.addDeclarators b scope level template base? rest,
      action.HasOrigin source tree := by
  unfold Trace.addDeclarators
  generalize (if rest.isConst then base?.map CType.withConst else base?) = base?
  generalize rest.declarators = declarators
  induction declarators generalizing b with
  | nil => simp [Trace.addDeclarators.go]
  | cons declarator declarators ih =>
    have hext := extends_addDeclarator b scope level template rest base? declarator
    rw [Trace.addDeclarators.go, List.forall_mem_append]
    exact ⟨hasOrigin_addDeclarator hscope level template rest base? declarator,
      ih (hscope.of_extends hext)⟩

theorem hasOrigin_addRecord (hscope : scope.OpenedIn b) (level : Access)
    (template : List ResolvedParameter) {head : RecordHead} (hhead : head.WrittenIn source tree) :
    (∀ action ∈ Trace.addRecord b scope level template head, action.HasOrigin source tree)
      ∧ (Scope.membersOf b.nextId).OpenedIn (addRecord b scope level template head) := by
  have hopened : (Scope.membersOf b.nextId).OpenedIn (b.add scope (.record level template head)) :=
    Scope.openedIn_membersOf (Addition.isRecord_recordCursor level template head)
  refine ⟨?_, hopened.of_extends (extends_addAll _ _ _)⟩
  unfold Trace.addRecord Trace.addNested
  rw [List.forall_mem_cons]
  refine ⟨⟨hscope, hhead⟩, hasOrigin_addAll hopened ?_⟩
  rw [List.forall_mem_append, List.forall_mem_map, List.forall_mem_map]
  exact ⟨fun _ _ _ _ => trivial, fun _ _ _ _ => trivial⟩

theorem hasOrigin_addEnum (hscope : scope.OpenedIn b) (level : Access) {head : EnumHead}
    (hhead : head.WrittenIn source tree) :
    ∀ action ∈ Trace.addEnum b scope level head, action.HasOrigin source tree := by
  have hopened : (Scope.inside b.nextId).OpenedIn (b.add scope (.enumeration level head)) :=
    Scope.openedIn_inside rfl rfl
  unfold Trace.addEnum Trace.addNested
  rw [List.forall_mem_cons]
  refine ⟨⟨hscope, hhead⟩, hasOrigin_addAll hopened ?_⟩
  rw [List.forall_mem_map]
  intro enumerator _ b' hext
  have hcursor : b'.cursor b.nextId = (Addition.enumeration level head).placed b scope :=
    hext.placed_eq
  simp only [Addition.ComesFrom, Scope.inside, hcursor]
  exact ⟨trivial, rfl, rfl⟩

theorem hasOrigin_tag (id : Nat) : ∀ action ∈ [Action.tag b id], action.HasOrigin source tree :=
  List.forall_mem_singleton.mpr trivial

theorem hasOrigin_after (hscope : call.scope.OpenedIn call.unit) (hitem : item.Everywhere (Item.HeadWrittenIn source tree))
    (inside : ∀ inner, call.inside? options item = some inner → inner.scope.OpenedIn inner.unit →
      (∀ item ∈ inner.items, item.Everywhere (Item.HeadWrittenIn source tree)) →
        ∀ action ∈ inner.actions options, action.HasOrigin source tree) :
    ∀ action ∈ call.itemActions options item, action.HasOrigin source tree := by
  cases item using Item.shapes with
  | simple item hsimple =>
    rw [Call.itemActions_of_isSimple hsimple]
    apply hasOrigin_addAll hscope
    intro addition hmem _ _
    exact Addition.comesFrom_of_isSimple (Item.isSimple_of_mem_additions hmem)
  | namespaceBlock names site body =>
    exact List.forall_mem_append.mpr ⟨hasOrigin_addNamespaces hscope site _,
      inside _ rfl (openedIn_addNamespaces hscope site _) hitem.of_mem_inside⟩
  | linkageBlock site body =>
    have hopened : (Scope.inside call.unit.nextId).OpenedIn
        (call.unit.add call.scope (.linkage site)) := Scope.openedIn_inside rfl rfl
    exact List.forall_mem_cons.mpr ⟨⟨hscope, trivial⟩, inside _ rfl hopened hitem.of_mem_inside⟩
  | template parameters body =>
    exact List.forall_mem_append.mpr ⟨hasOrigin_types _ _, inside _ rfl hscope hitem.of_mem_inside⟩
  | record head members rest =>
    obtain ⟨hrecord, hopened⟩ := hasOrigin_addRecord hscope call.level call.template hitem.here
    have hclosed := (extends_addNested call.unit call.scope _ _ _).trans
      (extends_lowerItems options (addRecord call.unit call.scope call.level call.template head)
        (.membersOf call.unit.nextId) (Addition.defaultAccess head.keyword) [] members)
    unfold Call.itemActions Trace.lowerItem
    simp only [List.forall_mem_append]
    exact ⟨⟨⟨hrecord, inside _ rfl hopened hitem.of_mem_inside⟩, hasOrigin_tag _⟩,
      hasOrigin_addDeclarators (hscope.of_extends hclosed) call.level call.template _ rest⟩
  | enumeration head rest =>
    have hclosed : call.unit.Extends (addEnum call.unit call.scope call.level head) :=
      extends_addNested ..
    unfold Call.itemActions Trace.lowerItem
    simp only [List.forall_mem_append]
    exact ⟨⟨hasOrigin_addEnum hscope call.level hitem.here, hasOrigin_tag _⟩,
      hasOrigin_addDeclarators (hscope.of_extends hclosed) call.level call.template _ rest⟩
  | declaration base? rest =>
    exact List.forall_mem_append.mpr ⟨hasOrigin_types _ _,
      hasOrigin_addDeclarators hscope call.level call.template _ rest⟩
  | function declarator result? span body? members =>
    unfold Call.itemActions Trace.lowerItem
    dsimp only
    rw [List.forall_mem_append, List.forall_mem_append]
    refine ⟨⟨hasOrigin_types _ _, hasOrigin_addFunction hscope call.level _⟩, ?_⟩
    cases body? with
    | none => simp
    | some site =>
      dsimp only
      split
      · simp
      · next hskip =>
        let form := call.functionForm declarator result? span
        have hfunction := (openedIn_addFunction call.unit call.scope call.level form).of_extends
          (extends_addAll _ (.inside call.unit.nextId)
            ((form.template ++ form.parameters).map .parameter))
        exact List.forall_mem_cons.mpr ⟨⟨hfunction, trivial⟩,
          inside _ (if_neg hskip) (hfunction.body site) hitem.of_mem_inside⟩

theorem hasOrigin_lowerItems (options : Options) {b : Builder} {scope : Scope}
    (hscope : scope.OpenedIn b) (level : Access) (template : List ResolvedParameter)
    {items : List Item} (hitems : ∀ item ∈ items, item.Everywhere (Item.HeadWrittenIn source tree)) :
    ∀ action ∈ Trace.lowerItems options b scope level template items,
      action.HasOrigin source tree := by
  induction b, scope, level, template, items using induct options with
  | nil => simp [Trace.lowerItems]
  | cons call item rest inside next =>
    rw [List.forall_mem_cons] at hitems
    rw [Trace.lowerItems, List.forall_mem_append]
    exact ⟨hasOrigin_after hscope hitems.1 inside,
      next (hscope.of_extends (extends_lowerItem options call item)) hitems.2⟩

end Lowering

namespace TranslationUnit

def LoweredFrom (source : Source) (tree : ParseTree) (options : Options) (id : Nat)
    (specifier : ParseTree) : Prop :=
  tree.Contains specifier ∧ ∃ before scope addition,
    .add before scope addition ∈ trace source tree options ∧ before.nextId = id
      ∧ addition.IsWrittenBy source specifier

theorem openedIn_start (source : Source) (tree : ParseTree) :
    (Scope.inside Cursor.root).OpenedIn (start source tree) where
  lexical_lt := Nat.one_pos
  semantic_lt := Nat.one_pos
  semantic_kind := rfl
  inRecord := rfl

theorem hasOrigin_trace (source : Source) (tree : ParseTree) (options : Options) :
    ∀ action ∈ trace source tree options, action.HasOrigin source tree :=
  Lowering.hasOrigin_lowerItems options (openedIn_start source tree) _ _
    (Declaration.everywhere_headWrittenIn_members source tree)

end TranslationUnit
end CursorQuery
