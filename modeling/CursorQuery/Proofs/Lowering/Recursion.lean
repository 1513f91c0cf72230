import CursorQuery.Proofs.Lowering.Trace

/-!
This module contains the recursion of the lowering. A call lowers the items of a container, or what is
left of them. Its first item leads to a call for what stands inside of it, and then there is the call
for the items after it. So what is to be shown of all calls has to be shown of a call with a first item,
where it is known of these two.
-/

namespace CursorQuery

def Addition.isSimple : Addition → Bool
  | .accessLabel .. | .typeAlias .. | .usingName .. | .inclusion .. | .macroDefinition .. => true
  | _ => false

namespace Item

def inside : Item → List Item
  | .namespaceBlock _ _ body => body
  | .linkageBlock _ body => body
  | .template _ body => body
  | .record _ members _ => members
  | .function _ _ _ _ members => members
  | _ => []

theorem sizeOf_inside_le (item : Item) : sizeOf item.inside ≤ sizeOf item := by
  cases item with
  | _ => simp [Item.inside] <;> omega

def isSimple : Item → Bool
  | .accessLabel .. | .typeAlias .. | .usingName .. | .inclusion .. | .macroDefinition .. => true
  | _ => false

theorem inside_of_isSimple {item : Item} (h : item.isSimple) : item.inside = [] := by
  cases item with
  | accessLabel | typeAlias | usingName | inclusion | macroDefinition => rfl
  | _ => contradiction

def additions (options : Options) (scope : Scope) (level : Access) : Item → List Addition
  | .accessLabel level? site =>
    if scope.inRecord then [.accessLabel (level?.getD level) site] else []
  | .typeAlias isTypedef name site => [.typeAlias level isTypedef name site]
  | .usingName isDirective target site => [.usingName level isDirective target site]
  | .inclusion path site => if options.detailed then [.inclusion path site] else []
  | .macroDefinition name site => if options.detailed then [.macroDefinition name site] else []
  | _ => []

theorem isSimple_of_mem_additions {options : Options} {scope : Scope} {level : Access} {item : Item}
    {addition : Addition} (h : addition ∈ item.additions options scope level) :
    addition.isSimple := by
  cases item with
  | accessLabel | inclusion | macroDefinition =>
    simp only [additions, List.mem_ite_nil_right, List.mem_singleton] at h
    rw [h.2]
    rfl
  | typeAlias | usingName =>
    rw [List.mem_singleton.mp h]
    rfl
  | _ => contradiction

@[elab_as_elim]
theorem shapes {motive : Item → Prop} (simple : ∀ item, item.isSimple → motive item)
    (namespaceBlock : ∀ names site body, motive (.namespaceBlock names site body))
    (linkageBlock : ∀ site body, motive (.linkageBlock site body))
    (template : ∀ parameters body, motive (.template parameters body))
    (record : ∀ head members rest, motive (.record head members rest))
    (enumeration : ∀ head rest, motive (.enumeration head rest))
    (declaration : ∀ base? rest, motive (.declaration base? rest))
    (function : ∀ declarator result? span body? members,
      motive (.function declarator result? span body? members)) (item : Item) : motive item := by
  cases item with
  | accessLabel | typeAlias | usingName | inclusion | macroDefinition => exact simple _ rfl
  | namespaceBlock => apply namespaceBlock
  | linkageBlock => apply linkageBlock
  | template => apply template
  | record => apply record
  | enumeration => apply enumeration
  | declaration => apply declaration
  | function => apply function

end Item

namespace Lowering

open Builder

structure Call where
  unit : Builder
  scope : Scope
  level : Access
  template : List ResolvedParameter
  items : List Item

namespace Call

def result (options : Options) (call : Call) : Builder :=
  lowerItems options call.unit call.scope call.level call.template call.items

def actions (options : Options) (call : Call) : List Action :=
  Trace.lowerItems options call.unit call.scope call.level call.template call.items

def after (options : Options) (call : Call) (item : Item) : Builder :=
  lowerItem options call.unit call.scope call.level call.template item

def itemActions (options : Options) (call : Call) (item : Item) : List Action :=
  Trace.lowerItem options call.unit call.scope call.level call.template item

def next (options : Options) (call : Call) (item : Item) (rest : List Item) : Call where
  unit := call.after options item
  scope := call.scope
  level := levelAfter call.scope call.level item
  template := call.template
  items := rest

def functionForm (call : Call) (declarator : FunctionDeclarator) (result? : Option TypeUse)
    (span : Span) : FunctionForm :=
  Lowering.functionForm call.unit call.scope call.template declarator
    (result?.map fun use => call.unit.typeOf use call.scope.semantic) true span

def recordMembers (call : Call) (head : RecordHead) (members : List Item) : Call where
  unit := addRecord call.unit call.scope call.level call.template head
  scope := .membersOf call.unit.nextId
  level := Addition.defaultAccess head.keyword
  template := []
  items := members

def functionBody (call : Call) (form : FunctionForm) (site : Site) (members : List Item) : Call :=
  let opened := addFunction call.unit call.scope call.level form
  { unit := opened.add (.inside call.unit.nextId) (.body site)
    scope := { lexical := opened.nextId, semantic := call.unit.nextId, inRecord := false }
    level := .noAccess
    template := []
    items := members }

/-- The call for what stands inside of an item. -/
def inside? (options : Options) (call : Call) : Item → Option Call
  | .namespaceBlock names site body =>
    let (opened, inner) :=
      addNamespaces call.unit call.scope site (if names.isEmpty then [""] else names)
    some { unit := opened, scope := inner, level := .noAccess, template := [], items := body }
  | .linkageBlock site body =>
    some {
      unit := call.unit.add call.scope (.linkage site)
      scope := .inside call.unit.nextId
      level := .noAccess
      template := []
      items := body
    }
  | .template parameters body =>
    some { call with
      template := call.unit.resolveParameters call.scope.semantic parameters
      items := body }
  | .record head members _ => some (call.recordMembers head members)
  | .function declarator result? span body? members =>
    if options.skipBodies then none
    else body?.map fun site =>
      call.functionBody (call.functionForm declarator result? span) site members
  | _ => none

theorem items_of_inside {options : Options} {call inner : Call} {item : Item}
    (h : call.inside? options item = some inner) : inner.items = item.inside := by
  cases item with
  | namespaceBlock | linkageBlock | template | record =>
    obtain rfl := Option.some.inj h
    rfl
  | function =>
    simp only [inside?] at h
    split at h
    · contradiction
    · obtain ⟨site, -, rfl⟩ := Option.map_eq_some_iff.mp h
      rfl
  | _ => contradiction

theorem after_of_isSimple {options : Options} {call : Call} {item : Item} (h : item.isSimple) :
    call.after options item =
      call.unit.addAll call.scope (item.additions options call.scope call.level) := by
  cases item with
  | accessLabel | inclusion | macroDefinition =>
    unfold after lowerItem Item.additions
    split
    · rfl
    · rfl
  | typeAlias | usingName => rfl
  | _ => contradiction

theorem itemActions_of_isSimple {options : Options} {call : Call} {item : Item} (h : item.isSimple) :
    call.itemActions options item =
      Trace.addAll call.unit call.scope (item.additions options call.scope call.level) := by
  cases item with
  | accessLabel | inclusion | macroDefinition =>
    unfold itemActions Trace.lowerItem Item.additions
    split
    · rfl
    · rfl
  | typeAlias | usingName => rfl
  | _ => contradiction

end Call

/-- Induction along the recursion of the lowering. -/
@[elab_as_elim]
theorem induct (options : Options)
    {motive : Builder → Scope → Access → List ResolvedParameter → List Item → Prop}
    (nil : ∀ b scope level template, motive b scope level template [])
    (cons : ∀ (call : Call) (item : Item) (rest : List Item),
      (∀ inner, call.inside? options item = some inner →
        motive inner.unit inner.scope inner.level inner.template inner.items) →
      motive (call.after options item) call.scope (levelAfter call.scope call.level item) call.template
        rest →
      motive call.unit call.scope call.level call.template (item :: rest))
    (b : Builder) (scope : Scope) (level : Access) (template : List ResolvedParameter)
    (items : List Item) : motive b scope level template items := by
  induction hsize : sizeOf items using Nat.strongRecOn generalizing b scope level template items with
  | ind size ih =>
    cases items with
    | nil => exact nil b scope level template
    | cons item rest =>
      rw [List.cons.sizeOf_spec] at hsize
      apply cons { unit := b, scope, level, template, items := item :: rest }
      · intro inner hinner
        -- What stands in an item is smaller than the item.
        have hle := item.sizeOf_inside_le
        rw [← Call.items_of_inside hinner] at hle
        exact ih (sizeOf inner.items) (by omega) _ _ _ _ _ rfl
      · exact ih (sizeOf rest) (by omega) _ _ _ _ _ rfl

end Lowering
end CursorQuery
