import CursorQuery.Proofs.Declaration.Agreement
import CursorQuery.Proofs.Lowering.Access
import CursorQuery.Proofs.Lowering.Hierarchy
import CursorQuery.Proofs.Lowering.Unnamed

/-!
This module contains where the parameters of a lowered function come from. A function is added together
with its parameters, and all that may be put into it later is a body. So in the finished unit, the types
of its parameters are those that the declarator had when the function was added.
-/

namespace CursorQuery

def Declared.function? : Declared → Option FunctionDeclarator
  | .function declarator => some declarator
  | _ => none

def DeclaratorList.functions (rest : DeclaratorList) : List FunctionDeclarator :=
  rest.declarators.filterMap (·.declared.function?)

def Item.functions : Item → List FunctionDeclarator
  | .record _ _ rest | .enumeration _ rest | .declaration _ rest => rest.functions
  | .function declarator .. => [declarator]
  | _ => []

def FunctionDeclarator.IsReadFrom (source : Source) (tree : ParseTree) (function : FunctionDeclarator) :
    Prop :=
  ∃ node, tree.Contains node ∧ node.kind = .functionDeclarator
    ∧ function = Declaration.functionDeclarator source node

def Item.ReadsFunctions (source : Source) (tree : ParseTree) (item : Item) : Prop :=
  ∀ function ∈ item.functions, function.IsReadFrom source tree

namespace Declaration

open ParseTree

variable {source : Source} {root tree : ParseTree}

theorem isReadFrom_of_mem_declaratorList (htree : root.Contains tree) :
    ∀ function ∈ (declaratorList source tree).functions, function.IsReadFrom source root := by
  intro function hmem
  obtain ⟨_, hdeclarator, hfunction⟩ := List.mem_filterMap.mp hmem
  obtain ⟨node, hnode, rfl⟩ := List.mem_map.mp hdeclarator
  have hcore : root.Contains (core node) :=
    .trans (htree.tail (List.mem_filter.mp hnode).1) (contains_core node)
  simp only [declarator, declared] at hfunction
  split at hfunction
  · contradiction
  · next hkind =>
    split at hfunction
    · exact ⟨core node, hcore, by simpa using hkind, (Option.some.inj hfunction).symm⟩
    · contradiction

theorem readsFunctions_of_functions_eq_nil {item : Item} (h : item.functions = []) :
    item.ReadsFunctions source root := by
  simp [Item.ReadsFunctions, h]

theorem isReadFrom_of_declares {specifier : ParseTree} {rest : DeclaratorList}
    (htree : root.Contains tree)
    (h : rest = noDeclarators specifier ∨ rest = declaratorList source tree) :
    ∀ function ∈ rest.functions, function.IsReadFrom source root := by
  obtain rfl | rfl := h
  · intro function hmem
    contradiction
  · exact isReadFrom_of_mem_declaratorList htree

theorem readsFunctions_items (htree : root.Contains tree) :
    ∀ item ∈ items source tree, item.ReadsFunctions source root := by
  intro item hitem
  cases isDeclaredBy_of_mem_items item hitem with
  | record _ _ hrest | enumeration _ _ hrest => exact isReadFrom_of_declares htree hrest
  | declaration => exact isReadFrom_of_mem_declaratorList htree
  | @function declarator _ _ hdeclarator hkind =>
    have hcore : root.Contains (core declarator) :=
      .trans (htree.of_field? hdeclarator) (contains_core declarator)
    exact List.forall_mem_singleton.mpr ⟨_, hcore, hkind, rfl⟩
  | simple hsimple =>
    cases item with
    | accessLabel | typeAlias | usingName | inclusion | macroDefinition =>
      exact readsFunctions_of_functions_eq_nil rfl
    | _ => contradiction
  | _ => exact readsFunctions_of_functions_eq_nil rfl

theorem everywhere_readsFunctions_members (source : Source) (tree : ParseTree) :
    ∀ item ∈ members source tree, item.Everywhere (Item.ReadsFunctions source tree) := by
  apply everywhere_members
  · intro item hlabel
    cases item with
    | accessLabel level? site => exact readsFunctions_of_functions_eq_nil rfl
    | _ => contradiction
  · exact fun node hnode => readsFunctions_items hnode

end Declaration

def Cursor.parameterType? (cursor : Cursor) : Option (Option CType) :=
  if cursor.kind = .parmDecl then some cursor.type else none

namespace Builder

def parameterTypes (b : Builder) (id : Nat) : List (Option CType) :=
  (b.childrenOf id).filterMap fun c => (b.cursor c).parameterType?

variable {b b' : Builder} {scope : Scope} {id : Nat}

theorem Linked.filterMap_parameterType? (hb : b.Linked) (hext : b.Extends b') (id : Nat) :
    ((b.childrenOf id).filterMap fun c => (b'.cursor c).parameterType?) = b.parameterTypes id := by
  apply List.filterMap_congr
  intro c hc
  rw [hext.cursor_eq c (hb.lt_of_mem id c hc)]

theorem Linked.parameterTypes_eq (hb : b.Linked) (hext : b.Extends b')
    (hchildren : b'.childrenOf id = b.childrenOf id) : b'.parameterTypes id = b.parameterTypes id := by
  rw [← hb.filterMap_parameterType? hext id, ← hchildren]
  rfl

theorem parameterTypes_add (hscope : scope.ReadyIn b) (addition : Addition) :
    (b.add scope addition).parameterTypes scope.lexical =
      b.parameterTypes scope.lexical ++ (addition.cursor b scope).parameterType?.toList := by
  unfold parameterTypes
  rw [childrenOf_add hscope.size_childLists hscope.lexical_lt, if_pos rfl, List.filterMap_append,
    hscope.toLinked.filterMap_parameterType? (b.extends_add scope addition)]
  have hnew : ((b.add scope addition).cursor b.nextId).parameterType? =
      (addition.cursor b scope).parameterType? := by
    rw [cursor_add_nextId]
    rfl
  rw [List.filterMap_cons, hnew]
  cases (addition.cursor b scope).parameterType? with
  | none => rfl
  | some type => rfl

theorem parameterTypes_addAll (hscope : scope.ReadyIn b) (parameters : List ResolvedParameter) :
    (b.addAll scope (parameters.map .parameter)).parameterTypes scope.lexical =
      b.parameterTypes scope.lexical ++
        (parameters.filter (·.kind == .function)).map (·.type) := by
  induction parameters generalizing b with
  | nil => exact (List.append_nil _).symm
  | cons parameter parameters ih =>
    have hready : scope.ReadyIn (b.add scope (.parameter parameter)) :=
      hscope.of_fills (Fills.parameters false hscope [parameter])
    have hlater := ih hready
    rw [parameterTypes_add hscope, List.append_assoc] at hlater
    refine hlater.trans ?_
    congr 1
    cases hkind : parameter.kind with
    | _ => simp [Addition.cursor, Cursor.parameterType?, ParameterKind.cursorKind, hkind]

end Builder

def FunctionForm.IsMadeIn (source : Source) (tree : ParseTree) (b : Builder) (scope : Scope)
    (form : FunctionForm) : Prop :=
  ∃ node template result? isDefinition span, tree.Contains node ∧ node.kind = .functionDeclarator
    ∧ form = Lowering.functionForm b scope template (Declaration.functionDeclarator source node) result?
      isDefinition span

namespace Lowering

open Builder

variable {source : Source} {tree : ParseTree} {b b' closed : Builder} {scope : Scope} {level : Access}
  {form : FunctionForm} {template : List ResolvedParameter} {first opened : Nat}
  {actions later : List Action}

theorem parameterTypes_addFunction (hscope : scope.ReadyIn b) (level : Access)
    (htemplate : ∀ parameter ∈ form.template, parameter.kind ≠ .function)
    (hparameters : ∀ parameter ∈ form.parameters, parameter.kind = .function) :
    (addFunction b scope level form).parameterTypes b.nextId = form.types := by
  have hinner : (Scope.inside b.nextId).ReadyIn (b.add scope (.function level form)) :=
    hscope.enter _ rfl
  have hnone : (b.add scope (.function level form)).childrenOf b.nextId = [] :=
    childrenOf_add_nextId hscope.size_childLists hscope.lexical_lt _
  have htemplate : form.template.filter (·.kind == .function) = [] := by
    rw [List.filter_eq_nil_iff]
    simpa using htemplate
  have hparameters : form.parameters.filter (·.kind == .function) = form.parameters := by
    rw [List.filter_eq_self]
    simpa using hparameters
  have hadded := parameterTypes_addAll hinner (form.template ++ form.parameters)
  rw [List.filter_append, htemplate, hparameters, List.nil_append] at hadded
  refine hadded.trans ?_
  unfold Builder.parameterTypes
  rw [show (Scope.inside b.nextId).lexical = b.nextId from rfl, hnone]
  rfl

theorem parameterTypes_addFunction_of_isMadeIn (hscope : scope.ReadyIn b) (level : Access)
    (htemplate : ∀ parameter ∈ form.template, parameter.kind ≠ .function)
    (hform : form.IsMadeIn source tree b scope) :
    (addFunction b scope level form).parameterTypes b.nextId = form.types := by
  apply parameterTypes_addFunction hscope level htemplate
  obtain ⟨node, template, result?, isDefinition, span, -, -, rfl⟩ := hform
  exact kind_of_mem_functionForm (Declaration.takesOnlyOwn_functionDeclarator source node) _ _ _ _ _ _

namespace Action

/-- If a function is added, it lies from `first` on, and its parameters are those of its form. -/
def FormsIn (source : Source) (tree : ParseTree) (first : Nat) (closed : Builder) : Action → Prop
  | .add b scope (.function _ form) =>
    form.IsMadeIn source tree b scope ∧ first ≤ b.nextId ∧ b.nextId < closed.nextId
      ∧ closed.parameterTypes b.nextId = form.types
  | _ => True

def addsFunction : Action → Bool
  | .add _ _ (.function ..) => true
  | _ => false

variable {action : Action}

theorem formsIn_of_addsFunction_eq_false (h : action.addsFunction = false) :
    action.FormsIn source tree first closed := by
  cases action with
  | add b scope addition =>
    cases addition with
    | function level form => contradiction
    | _ => trivial
  | _ => trivial

theorem formsIn_of_addsFunction
    (h : ∀ b scope level form, action = .add b scope (.function level form) →
      action.FormsIn source tree first closed) : action.FormsIn source tree first closed := by
  cases hadds : action.addsFunction with
  | false => exact formsIn_of_addsFunction_eq_false hadds
  | true =>
    cases action with
    | add b scope addition =>
      cases addition with
      | function level form => exact h _ _ _ _ rfl
      | _ => contradiction
    | _ => contradiction

theorem FormsIn.mono {first' : Nat} (h : action.FormsIn source tree first closed)
    (hle : first' ≤ first) : action.FormsIn source tree first' closed := by
  apply formsIn_of_addsFunction
  rintro b scope level form rfl
  obtain ⟨hmade, hfirst, hlt, htypes⟩ := h
  exact ⟨hmade, Nat.le_trans hle hfirst, hlt, htypes⟩

theorem FormsIn.of_growsIn (h : action.FormsIn source tree first closed) (hclosed : closed.Linked)
    (hgrows : closed.GrowsIn opened b') (hopened : opened < first) :
    action.FormsIn source tree first b' := by
  apply formsIn_of_addsFunction
  rintro b scope level form rfl
  obtain ⟨hmade, hfirst, hlt, htypes⟩ := h
  have hchildren := hgrows.childrenOf_eq b.nextId hlt (by omega)
  refine ⟨hmade, hfirst, Nat.lt_of_lt_of_le hlt hgrows.nextId_le, ?_⟩
  rw [hclosed.parameterTypes_eq hgrows.toExtends hchildren, htypes]

theorem FormsIn.of_inner {addition : Addition} (h : action.FormsIn source tree first closed)
    (hscope : scope.ReadyIn closed) (hnone : (addition.cursor closed scope).parameterType? = none)
    (hgrows : (closed.add scope addition).GrowsIn closed.nextId b') :
    action.FormsIn source tree first b' := by
  apply formsIn_of_addsFunction
  rintro b _ level form rfl
  obtain ⟨hmade, hfirst, hlt, htypes⟩ := h
  have hext := closed.extends_add scope addition
  have hadded : (closed.add scope addition).parameterTypes b.nextId = closed.parameterTypes b.nextId := by
    by_cases hparent : b.nextId = scope.lexical
    · rw [hparent, parameterTypes_add hscope, hnone]
      exact List.append_nil _
    · apply hscope.toLinked.parameterTypes_eq hext
      rw [childrenOf_add hscope.size_childLists hscope.lexical_lt, if_neg hparent]
  have hlt' := Nat.lt_of_lt_of_le hlt hext.nextId_le
  have hchildren := hgrows.childrenOf_eq b.nextId hlt' (Nat.ne_of_lt hlt)
  refine ⟨hmade, hfirst, Nat.lt_of_lt_of_le hlt' hgrows.nextId_le, ?_⟩
  rw [(hscope.toLinked.add hscope.lexical_lt addition).parameterTypes_eq hgrows.toExtends hchildren,
    hadded, htypes]

end Action

theorem formsIn_append {skipBodies : Bool}
    (hactions : ∀ action ∈ actions, action.FormsIn source tree first closed)
    (hscope : scope.ReadyIn closed) (hlexical : scope.lexical < first)
    (hfills : FillsScope skipBodies closed scope b') (hfirst : first ≤ closed.nextId)
    (hlater : ∀ action ∈ later, action.FormsIn source tree closed.nextId b') :
    ∀ action ∈ actions ++ later, action.FormsIn source tree first b' := by
  obtain ⟨kinds, hgrows, -⟩ := hfills
  rw [List.forall_mem_append]
  exact ⟨fun action hmem => (hactions action hmem).of_growsIn hscope.toLinked hgrows.toGrowsIn hlexical,
    fun action hmem => (hlater action hmem).mono hfirst⟩

theorem formsIn_types (scope : Nat) (written : List WrittenType) :
    ∀ action ∈ Trace.types b scope written, action.FormsIn source tree first closed := by
  unfold Trace.types
  rw [List.forall_mem_map]
  exact fun _ _ => trivial

theorem formsIn_addAll {additions : List Addition}
    (h : ∀ addition ∈ additions, ∀ b, (Action.add b scope addition).addsFunction = false) :
    ∀ action ∈ Trace.addAll b scope additions, action.FormsIn source tree first closed := by
  induction additions generalizing b with
  | nil => simp [Trace.addAll]
  | cons addition additions ih =>
    rw [List.forall_mem_cons] at h
    rw [Trace.addAll, List.forall_mem_cons]
    exact ⟨Action.formsIn_of_addsFunction_eq_false (h.1 b), ih h.2⟩

theorem formsIn_parameters (scope : Scope) (parameters : List ResolvedParameter) :
    ∀ action ∈ Trace.addAll b scope (parameters.map .parameter),
      action.FormsIn source tree first closed := by
  apply formsIn_addAll
  rw [List.forall_mem_map]
  exact fun _ _ _ => rfl

theorem formsIn_addRecord (scope : Scope) (level : Access) (template : List ResolvedParameter)
    (head : RecordHead) :
    ∀ action ∈ Trace.addRecord b scope level template head,
      action.FormsIn source tree first closed := by
  unfold Trace.addRecord Trace.addNested
  rw [List.forall_mem_cons]
  refine ⟨trivial, formsIn_addAll ?_⟩
  rw [List.forall_mem_append, List.forall_mem_map, List.forall_mem_map]
  exact ⟨fun _ _ _ => rfl, fun _ _ _ => rfl⟩

theorem formsIn_addEnum (scope : Scope) (level : Access) (head : EnumHead) :
    ∀ action ∈ Trace.addEnum b scope level head, action.FormsIn source tree first closed := by
  unfold Trace.addEnum Trace.addNested
  rw [List.forall_mem_cons]
  refine ⟨trivial, formsIn_addAll ?_⟩
  rw [List.forall_mem_map]
  exact fun _ _ _ => rfl

theorem formsIn_tag (id : Nat) :
    ∀ action ∈ [Action.tag b id], action.FormsIn source tree first closed :=
  List.forall_mem_singleton.mpr trivial

theorem formsIn_addNamespaces (scope : Scope) (site : Site) (names : List String) :
    ∀ action ∈ Trace.addNamespaces b scope site names, action.FormsIn source tree first closed := by
  induction names generalizing b scope with
  | nil => simp [Trace.addNamespaces]
  | cons name names ih =>
    rw [Trace.addNamespaces, List.forall_mem_cons]
    exact ⟨trivial, ih _⟩

theorem formsIn_addFunction (hscope : scope.ReadyIn b) (level : Access)
    (htemplate : ∀ parameter ∈ form.template, parameter.kind ≠ .function)
    (hform : form.IsMadeIn source tree b scope) :
    ∀ action ∈ Trace.addFunction b scope level form,
      action.FormsIn source tree b.nextId (addFunction b scope level form) := by
  have hlt := (fills_addFunction false hscope level form).nextId_le
  rw [nextId_add] at hlt
  unfold Trace.addFunction Trace.addNested
  rw [List.forall_mem_append, List.forall_mem_cons]
  exact ⟨formsIn_types _ _,
    ⟨hform, Nat.le_refl _, hlt, parameterTypes_addFunction_of_isMadeIn hscope level htemplate hform⟩,
    formsIn_parameters _ _⟩

theorem formsIn_addDeclarator (hscope : scope.ReadyIn b) (level : Access)
    (htemplate : ∀ parameter ∈ template, parameter.kind ≠ .function) (rest : DeclaratorList)
    (base? : Option CType) {declarator : Declarator}
    (hread : ∀ function ∈ declarator.declared.function?, function.IsReadFrom source tree) :
    ∀ action ∈ Trace.addDeclarator b scope level template rest base? declarator,
      action.FormsIn source tree b.nextId
        (addDeclarator b scope level template rest base? declarator) := by
  unfold Trace.addDeclarator addDeclarator
  cases hdeclared : declarator.declared with
  | object => exact List.forall_mem_singleton.mpr trivial
  | functionPointer parameters => exact List.forall_mem_singleton.mpr trivial
  | function function =>
    rw [hdeclared] at hread
    obtain ⟨node, hcontains, hkind, rfl⟩ := hread function rfl
    exact formsIn_addFunction hscope level htemplate ⟨node, _, _, _, _, hcontains, hkind, rfl⟩

theorem formsIn_addDeclarators (hscope : scope.ReadyIn b) (level : Access)
    (htemplate : ∀ parameter ∈ template, parameter.kind ≠ .function) (base? : Option CType)
    {rest : DeclaratorList} (hown : rest.TakesOnlyOwn)
    (hread : ∀ function ∈ rest.functions, function.IsReadFrom source tree) :
    ∀ action ∈ Trace.addDeclarators b scope level template base? rest,
      action.FormsIn source tree b.nextId (addDeclarators b scope level template base? rest) := by
  unfold Trace.addDeclarators addDeclarators
  dsimp only
  generalize (if rest.isConst then base?.map CType.withConst else base?) = base?
  unfold DeclaratorList.TakesOnlyOwn at hown
  unfold DeclaratorList.functions at hread
  generalize rest.declarators = declarators at hown hread
  induction declarators generalizing b with
  | nil => simp [Trace.addDeclarators.go]
  | cons declarator declarators ih =>
    rw [List.forall_mem_cons] at hown
    have hfirst : ∀ function ∈ declarator.declared.function?, function.IsReadFrom source tree :=
      fun function hmem => hread function (List.mem_filterMap.mpr ⟨_, List.mem_cons_self, hmem⟩)
    have hlater : ∀ function ∈ declarators.filterMap (·.declared.function?),
        function.IsReadFrom source tree := by
      intro function hmem
      obtain ⟨other, hother, hfunction⟩ := List.mem_filterMap.mp hmem
      exact hread function (List.mem_filterMap.mpr ⟨other, List.mem_cons_of_mem _ hother, hfunction⟩)
    have hready :=
      (fillsScope_addDeclarator false hscope level htemplate rest base? hown.1).readyIn hscope
    have hlaterOwn : ({ rest with declarators, isConst := false } : DeclaratorList).TakesOnlyOwn := hown.2
    have hgrows := fillsScope_addDeclarators false hready level htemplate base? hlaterOwn
    exact formsIn_append (formsIn_addDeclarator hscope level htemplate rest base? hfirst) hready
      hscope.lexical_lt hgrows (extends_addDeclarator ..).nextId_le (ih hready hown.2 hlater)

section Recursion

variable {options : Options} {call : Call} {item : Item}

theorem addsFunction_of_isSimple {addition : Addition} (h : addition.isSimple) (b : Builder)
    (scope : Scope) : (Action.add b scope addition).addsFunction = false := by
  cases addition with
  | function => contradiction
  | _ => rfl

theorem formsIn_after (hscope : call.scope.ReadyIn call.unit)
    (htemplate : ∀ parameter ∈ call.template, parameter.kind ≠ .function)
    (hitem : item.Everywhere Item.SortsParameters)
    (hread : item.Everywhere (Item.ReadsFunctions source tree))
    (inside : ∀ inner, call.inside? options item = some inner → inner.scope.ReadyIn inner.unit →
      (∀ parameter ∈ inner.template, parameter.kind ≠ .function) →
        (∀ item ∈ inner.items, item.Everywhere Item.SortsParameters) →
          (∀ item ∈ inner.items, item.Everywhere (Item.ReadsFunctions source tree)) →
            ∀ action ∈ inner.actions options,
              action.FormsIn source tree inner.unit.nextId (inner.result options)) :
    ∀ action ∈ call.itemActions options item,
      action.FormsIn source tree call.unit.nextId (call.after options item) := by
  have hnone : ∀ parameter ∈ ([] : List ResolvedParameter), parameter.kind ≠ .function := by simp
  cases item using Item.shapes with
  | simple item hsimple =>
    rw [Call.itemActions_of_isSimple hsimple]
    exact formsIn_addAll fun _ hmem b =>
      addsFunction_of_isSimple (Item.isSimple_of_mem_additions hmem) b call.scope
  | namespaceBlock names site body =>
    have ⟨hopened, _⟩ : _ ∧ ∀ b', FillsScope options.skipBodies _ _ b' → _ :=
      FillsScope.addNamespaces hscope site (if names.isEmpty then [""] else names)
    have hbody := inside _ rfl hopened hnone hitem.of_mem_inside hread.of_mem_inside
    have hle := (extends_addNamespaces call.unit call.scope site
      (if names.isEmpty then [""] else names)).nextId_le
    unfold Call.itemActions Trace.lowerItem
    rw [List.forall_mem_append]
    exact ⟨formsIn_addNamespaces call.scope site _, fun action hmem => (hbody action hmem).mono hle⟩
  | linkageBlock site body =>
    have hinner : (Scope.inside call.unit.nextId).ReadyIn (call.unit.add call.scope (.linkage site)) :=
      hscope.enter _ rfl
    have hbody := inside _ rfl hinner hnone hitem.of_mem_inside hread.of_mem_inside
    unfold Call.itemActions Trace.lowerItem
    rw [List.forall_mem_cons]
    exact ⟨trivial, fun action hmem =>
      (hbody action hmem).mono (call.unit.extends_add call.scope _).nextId_le⟩
  | template parameters body =>
    have hresolved := kind_of_mem_resolveParameters (· ≠ .function) hitem.here call.unit
      call.scope.semantic
    unfold Call.itemActions Trace.lowerItem
    rw [List.forall_mem_append]
    exact ⟨formsIn_types _ _,
      inside _ rfl hscope hresolved hitem.of_mem_inside hread.of_mem_inside⟩
  -- The record is closed before the declarators after it, so its functions keep their parameters.
  | record head members rest =>
    have hopened := readyIn_addRecord hscope call.level call.template head
    have hmembers := inside _ rfl hopened hnone hitem.of_mem_inside hread.of_mem_inside
    have hclosed := fillsScope_record hscope call.level htemplate (fillsScope_lowerItems options hopened
      (Addition.defaultAccess head.keyword) hnone hitem.of_mem_inside)
    have hle : call.unit.nextId ≤
        (addRecord call.unit call.scope call.level call.template head).nextId :=
      (extends_addNested call.unit call.scope _ _ _).nextId_le
    have hle' := (extends_lowerItems options
      (addRecord call.unit call.scope call.level call.template head) (.membersOf call.unit.nextId)
      (Addition.defaultAccess head.keyword) [] members).nextId_le
    unfold Call.itemActions Trace.lowerItem
    refine formsIn_append ?_ (hclosed.readyIn hscope) hscope.lexical_lt
      (fillsScope_addDeclarators options.skipBodies (hclosed.readyIn hscope) call.level htemplate _
        hitem.here)
      (Nat.le_trans hle hle')
      (formsIn_addDeclarators (hclosed.readyIn hscope) call.level htemplate _ hitem.here hread.here)
    rw [List.forall_mem_append, List.forall_mem_append]
    exact ⟨⟨formsIn_addRecord call.scope call.level call.template head,
      fun action hmem => (hmembers action hmem).mono hle⟩, formsIn_tag _⟩
  | enumeration head rest =>
    have hclosed := fillsScope_addEnum options.skipBodies hscope call.level head
    unfold Call.itemActions Trace.lowerItem
    refine formsIn_append ?_ (hclosed.readyIn hscope) hscope.lexical_lt
      (fillsScope_addDeclarators options.skipBodies (hclosed.readyIn hscope) call.level htemplate _
        hitem.here)
      (extends_addNested call.unit call.scope _ _ _).nextId_le
      (formsIn_addDeclarators (hclosed.readyIn hscope) call.level htemplate _ hitem.here hread.here)
    rw [List.forall_mem_append]
    exact ⟨formsIn_addEnum call.scope call.level head, formsIn_tag _⟩
  | declaration base? rest =>
    unfold Call.itemActions Trace.lowerItem
    rw [List.forall_mem_append]
    exact ⟨formsIn_types _ _,
      formsIn_addDeclarators hscope call.level htemplate _ hitem.here hread.here⟩
  | function declarator result? span body? members =>
    let form := call.functionForm declarator result? span
    have hform : form.IsMadeIn source tree call.unit call.scope := by
      obtain ⟨node, hcontains, hkind, hnode⟩ := hread.here declarator List.mem_cons_self
      exact ⟨node, _, _, _, _, hcontains, hkind, by rw [← hnode]; rfl⟩
    have hfunction := formsIn_addFunction hscope call.level htemplate hform
    have hplain : ∀ action ∈
        Trace.types call.unit call.scope.semantic (result?.map (·.base)).toList ++
          Trace.addFunction call.unit call.scope call.level form,
        action.FormsIn source tree call.unit.nextId
          (addFunction call.unit call.scope call.level form) :=
      List.forall_mem_append.mpr ⟨formsIn_types _ _, hfunction⟩
    unfold Call.itemActions Call.after Trace.lowerItem lowerItem
    cases body? with
    | none =>
      dsimp only
      rw [List.append_nil]
      exact hplain
    | some site =>
      dsimp only
      split
      · rw [List.append_nil]
        exact hplain
      · next hskip =>
        -- The body is put into the function behind the parameters, and it is no parameter itself.
        have hready := readyIn_addFunction hscope call.level form
        let inner := call.functionBody form site members
        have hinner : inner.scope.ReadyIn inner.unit := hready.enter (.body site) rfl
        let opened := addFunction call.unit call.scope call.level form
        obtain ⟨kinds, hfills, -⟩ :=
          fillsScope_lowerItems options hinner .noAccess hnone hitem.of_mem_inside
        have hgrows : (opened.add (.inside call.unit.nextId) (.body site)).GrowsIn opened.nextId
            (inner.result options) := hfills.toGrowsIn
        have hmembers :=
          inside _ (if_neg hskip) hinner hnone hitem.of_mem_inside hread.of_mem_inside
        have hle : call.unit.nextId ≤ inner.unit.nextId :=
          ((extends_addNested call.unit call.scope _ _ _).trans (extends_add ..)).nextId_le
        rw [List.forall_mem_append, List.forall_mem_cons]
        exact ⟨fun action hmem => (hplain action hmem).of_inner hready rfl hgrows, trivial,
          fun action hmem => (hmembers action hmem).mono hle⟩

theorem formsIn_lowerItems (options : Options) {b : Builder} {scope : Scope} (hscope : scope.ReadyIn b)
    (level : Access) {template : List ResolvedParameter}
    (htemplate : ∀ parameter ∈ template, parameter.kind ≠ .function) {items : List Item}
    (hitems : ∀ item ∈ items, item.Everywhere Item.SortsParameters)
    (hread : ∀ item ∈ items, item.Everywhere (Item.ReadsFunctions source tree)) :
    ∀ action ∈ Trace.lowerItems options b scope level template items,
      action.FormsIn source tree b.nextId (lowerItems options b scope level template items) := by
  induction b, scope, level, template, items using induct options with
  | nil => simp [Trace.lowerItems]
  | cons call item rest inside next =>
    rw [List.forall_mem_cons] at hitems hread
    have hready := (fillsScope_lowerItem options hscope htemplate hitems.1).readyIn hscope
    exact formsIn_append (formsIn_after hscope htemplate hitems.1 hread.1 inside) hready
      hscope.lexical_lt (fillsScope_lowerItems options hready _ htemplate hitems.2)
      (extends_lowerItem ..).nextId_le (next hready htemplate hitems.2 hread.2)

end Recursion

end Lowering

theorem Addition.eq_function {addition : Addition} {b : Builder} {scope : Scope}
    (h : (addition.placed b scope).kind.isFunctionLike) :
    ∃ level form, addition = .function level form := by
  cases addition with
  | function level form => exact ⟨level, form, rfl⟩
  | _ =>
    rw [kind_placed_of_kinds CursorKind.isFunctionLike rfl] at h
    contradiction

namespace TranslationUnit

def parameterTypes (unit : TranslationUnit) (v : Fin unit.cursors.size) : List (Option CType) :=
  (unit.children v).filterMap fun c => (unit.cursor c).parameterType?

def LoweredFromFunction (source : Source) (tree : ParseTree) (options : Options) (id : Nat)
    (node : ParseTree) : Prop :=
  tree.Contains node ∧ node.kind = .functionDeclarator
    ∧ ∃ before scope level template result? isDefinition span,
      .add before scope (.function level (Lowering.functionForm before scope template
        (Declaration.functionDeclarator source node) result? isDefinition span)) ∈
          trace source tree options
      ∧ before.nextId = id

variable {source : Source} {tree : ParseTree} {options : Options}

theorem formsIn_trace (source : Source) (tree : ParseTree) (options : Options) :
    ∀ action ∈ trace source tree options,
      action.FormsIn source tree (start source tree).nextId (build source tree options) :=
  Lowering.formsIn_lowerItems options (readyIn_start source tree) .noAccess (by simp)
    (Declaration.everywhere_sortsParameters_members source tree)
    (Declaration.everywhere_readsFunctions_members source tree)

variable {v : Fin (ofParseTree source tree options).cursors.size}

theorem exists_loweredFromFunction
    (h : ((ofParseTree source tree options).cursor v).kind.isFunctionLike) :
    ∃ node, LoweredFromFunction source tree options v node := by
  obtain ⟨before, scope, addition, hmem, hv⟩ :=
    exists_mem_trace (ne_root_of_kind CursorKind.isFunctionLike rfl h)
  rw [cursor_of_mem_trace hmem hv] at h
  obtain ⟨level, form, rfl⟩ := Addition.eq_function h
  obtain ⟨⟨node, template, result?, isDefinition, span, hcontains, hkind, rfl⟩, -⟩ :=
    formsIn_trace source tree options _ hmem
  exact ⟨node, hcontains, hkind, before, scope, level, _, _, _, _, hmem, hv⟩

theorem parameterTypes_ofParseTree {before : Builder} {scope : Scope} {level : Access}
    {form : FunctionForm} (hmem : .add before scope (.function level form) ∈ trace source tree options)
    (hv : before.nextId = v) : (ofParseTree source tree options).parameterTypes v = form.types := by
  obtain ⟨-, -, -, htypes⟩ := formsIn_trace source tree options _ hmem
  rw [← htypes, hv]
  unfold parameterTypes Builder.parameterTypes
  rw [← map_val_children_ofParseTree, List.filterMap_map]
  apply List.filterMap_congr
  intro c _
  rw [cursor_ofParseTree]
  rfl

end TranslationUnit
end CursorQuery
