import CursorQuery.Proofs.Declaration.Everywhere

/-!
This module contains how the additions of a lowering lie in each other. Whatever is declared inside of
an addition is added in the scope that the addition opens, and then lowering goes on in the scope around
it, with the access level that was in effect before. So child lists of cursors that are no longer open
stay as they are.
-/

namespace CursorQuery

namespace Addition

def inner (addition : Addition) (scope : Scope) (id : Nat) : Scope :=
  match addition with
  | .record .. => .membersOf id
  | .body _ => { lexical := id, semantic := scope.semantic, inRecord := false }
  | _ => .inside id

def innerLevel : Addition → Access
  | .record _ _ head => defaultAccess head.keyword
  | _ => .noAccess

def levelAfter (level : Access) : Addition → Access
  | .accessLabel level _ => level
  | _ => level

/-- The access level that an addition takes to be in effect. -/
def level? : Addition → Option Access
  | .record level .. | .enumeration level _ | .function level _ | .object level _
  | .typeAlias level .. | .usingName level .. => some level
  | _ => none

def needsRecord : Addition → Bool
  | .accessLabel .. | .base .. => true
  | _ => false

structure Obeys (addition : Addition) (scope : Scope) (level : Access) : Prop where
  level : ∀ used ∈ addition.level?, used = level
  inRecord : addition.needsRecord → scope.inRecord

theorem lexical_inner (addition : Addition) (scope : Scope) (id : Nat) :
    (addition.inner scope id).lexical = id := by
  cases addition with
  | _ => rfl

section Obeys

variable {addition : Addition} {scope : Scope} {level : Access}

theorem obeys_of_level (hlevel : addition.level? = some level) : addition.Obeys scope level where
  level := by simp [hlevel]
  inRecord hneeds := by
    -- What stands in records only does not take a level to be in effect.
    cases addition with
    | _ => contradiction

theorem obeys_of_inRecord (hlevel : addition.level? = none) (hscope : scope.inRecord) :
    addition.Obeys scope level where
  level := by simp [hlevel]
  inRecord _ := hscope

theorem obeys_of_eq_none (hlevel : addition.level? = none) (hneeds : addition.needsRecord = false) :
    addition.Obeys scope level where
  level := by simp [hlevel]
  inRecord := by simp [hneeds]

end Obeys

end Addition

namespace Builder

/-- `b'` has the cursors of `b` with their child lists. There can be more cursors after them, and one
child list may have become longer. -/
structure GrowsIn (b : Builder) (opened : Nat) (b' : Builder) : Prop extends b.Extends b' where
  size_childLists : b'.childLists.size = b'.nextId
  childrenOf_eq : ∀ id, id < b.nextId → id ≠ opened → b'.childrenOf id = b.childrenOf id
  childrenOf_opened : b.childrenOf opened <+: b'.childrenOf opened

namespace GrowsIn

variable {b b₁ b₂ b' : Builder} {opened : Nat} {scope : Scope} {addition : Addition}

theorem refl (hsize : b.childLists.size = b.nextId) : b.GrowsIn opened b where
  toExtends := .refl b
  size_childLists := hsize
  childrenOf_eq _ _ _ := rfl
  childrenOf_opened := List.prefix_refl _

theorem trans (h₁ : b.GrowsIn opened b₁) (h₂ : b₁.GrowsIn opened b₂) : b.GrowsIn opened b₂ where
  toExtends := h₁.toExtends.trans h₂.toExtends
  size_childLists := h₂.size_childLists
  childrenOf_eq id hid hne := by
    rw [h₂.childrenOf_eq id (Nat.lt_of_lt_of_le hid h₁.nextId_le) hne, h₁.childrenOf_eq id hid hne]
  childrenOf_opened := h₁.childrenOf_opened.trans h₂.childrenOf_opened

theorem childrenOf_inner (h : (b.add scope addition).GrowsIn b.nextId b')
    (hsize : b.childLists.size = b.nextId) (hscope : scope.lexical < b.nextId) {id : Nat}
    (hid : id < b.nextId) :
    b'.childrenOf id =
      if id = scope.lexical then b.childrenOf id ++ [b.nextId] else b.childrenOf id := by
  rw [h.childrenOf_eq id (by rw [nextId_add]; omega) (by omega), childrenOf_add hsize hscope]

theorem of_inner (h : (b.add scope addition).GrowsIn b.nextId b')
    (hsize : b.childLists.size = b.nextId) (hscope : scope.lexical < b.nextId) :
    b.GrowsIn scope.lexical b' where
  toExtends := (b.extends_add scope addition).trans h.toExtends
  size_childLists := h.size_childLists
  childrenOf_eq id hid hne := by rw [h.childrenOf_inner hsize hscope hid, if_neg hne]
  childrenOf_opened := by
    rw [h.childrenOf_inner hsize hscope hscope, if_pos rfl]
    exact List.prefix_append _ _

end GrowsIn
end Builder

namespace Lowering

open Builder

variable {b b' : Builder} {scope : Scope} {level level' : Access} {addition : Addition}
  {actions : List Action}

/-- The actions are made in the scope, where `level` is in effect at their beginning and `level'` at
their end. -/
inductive Nests : Builder → Scope → Access → List Action → Builder → Access → Prop where
  | done (b : Builder) (scope : Scope) (level : Access) : Nests b scope level [] b level
  | type {b b' : Builder} {scope : Scope} {level level' : Access} {actions : List Action}
      (outermost : Nat) (written : WrittenType) (later : Nests b scope level actions b' level') :
      Nests b scope level (.type b outermost written :: actions) b' level'
  | tag {b b' : Builder} {scope : Scope} {level level' : Access} {actions : List Action}
      (id : Nat) (later : Nests b scope level actions b' level') :
      Nests b scope level (.tag b id :: actions) b' level'
  | add {b closed b' : Builder} {scope : Scope} {level last level' : Access} {addition : Addition}
      {parts actions : List Action} (obeys : addition.Obeys scope level)
      (inside : Nests (b.add scope addition) (addition.inner scope b.nextId) addition.innerLevel parts
        closed last)
      (later : Nests closed scope (addition.levelAfter level) actions b' level') :
      Nests b scope level (.add b scope addition :: (parts ++ actions)) b' level'

namespace Nests

theorem append {b₁ b₂ b₃ : Builder} {level₁ level₂ level₃ : Access} {first later : List Action}
    (h₁ : Nests b₁ scope level₁ first b₂ level₂) (h₂ : Nests b₂ scope level₂ later b₃ level₃) :
    Nests b₁ scope level₁ (first ++ later) b₃ level₃ := by
  induction h₁ with
  | done => exact h₂
  | type _ _ _ ih => exact .type _ _ (ih h₂)
  | tag _ _ ih => exact .tag _ (ih h₂)
  | add obeys inside _ _ ih =>
    rw [List.cons_append, List.append_assoc]
    exact .add obeys inside (ih h₂)

theorem enclose (addition : Addition) (obeys : addition.Obeys scope level) {parts : List Action}
    {last : Access}
    (inside : Nests (b.add scope addition) (addition.inner scope b.nextId) addition.innerLevel parts b'
      last) :
    Nests b scope level (.add b scope addition :: parts) b' (addition.levelAfter level) := by
  rw [← List.append_nil parts]
  exact .add obeys inside (.done ..)

theorem single (b : Builder) (addition : Addition) (obeys : addition.Obeys scope level) :
    Nests b scope level [.add b scope addition] (b.add scope addition) (addition.levelAfter level) :=
  .enclose addition obeys (.done ..)

theorem types (b : Builder) (scope : Scope) (level : Access) (outermost : Nat)
    (written : List WrittenType) : Nests b scope level (Trace.types b outermost written) b level := by
  induction written with
  | nil => exact .done ..
  | cons first written ih => exact .type outermost first ih

theorem addAll (b : Builder) {additions : List Addition}
    (h : ∀ addition ∈ additions, addition.Obeys scope level ∧ addition.levelAfter level = level) :
    Nests b scope level (Trace.addAll b scope additions) (b.addAll scope additions) level := by
  induction additions generalizing b with
  | nil => exact .done ..
  | cons addition additions ih =>
    rw [List.forall_mem_cons] at h
    have hfirst := single b addition h.1.1
    rw [h.1.2] at hfirst
    exact hfirst.append (ih _ h.2)

theorem addAll_parameters (b : Builder) (scope : Scope) (level : Access)
    (parameters : List ResolvedParameter) :
    Nests b scope level (Trace.addAll b scope (parameters.map .parameter))
      (b.addAll scope (parameters.map .parameter)) level := by
  apply addAll
  rw [List.forall_mem_map]
  exact fun _ _ => ⟨Addition.obeys_of_eq_none rfl rfl, rfl⟩

theorem addNamespaces (site : Site) (name : String) (names : List String) (b : Builder)
    (scope : Scope) (level : Access) {last : Access}
    (h : Nests (Lowering.addNamespaces b scope site (name :: names)).1
      (Lowering.addNamespaces b scope site (name :: names)).2 .noAccess actions b' last) :
    Nests b scope level (Trace.addNamespaces b scope site (name :: names) ++ actions) b' level := by
  have obeys : ∀ name scope level, (Addition.namespaceBlock name site).Obeys scope level :=
    fun _ _ _ => Addition.obeys_of_eq_none rfl rfl
  induction names generalizing name b scope level with
  | nil => exact .enclose (.namespaceBlock name site) (obeys name scope level) h
  | cons next names ih =>
    rw [Lowering.addNamespaces] at h
    rw [Trace.addNamespaces]
    exact .enclose (.namespaceBlock name site) (obeys name scope level) (ih next _ _ _ h)

theorem growsIn (h : Nests b scope level actions b' level') (hsize : b.childLists.size = b.nextId)
    (hscope : scope.lexical < b.nextId) : b.GrowsIn scope.lexical b' := by
  induction h with
  | done => exact .refl hsize
  | type _ _ _ ih | tag _ _ ih => exact ih hsize hscope
  | @add b closed _ scope _ _ _ addition _ _ _ _ _ ihInside ihLater =>
    have hinside := ihInside (size_childLists_add_eq hsize) (by rw [Addition.lexical_inner, nextId_add]; omega)
    rw [Addition.lexical_inner] at hinside
    have hclosed : b.GrowsIn scope.lexical closed := hinside.of_inner hsize hscope
    exact hclosed.trans
      (ihLater hclosed.size_childLists (Nat.lt_of_lt_of_le hscope hclosed.nextId_le))

end Nests

theorem nests_function {form : FunctionForm} {last : Access}
    (h : Nests (addFunction b scope level form) (.inside b.nextId) .noAccess actions b' last) :
    Nests b scope level (Trace.addFunction b scope level form ++ actions) b' level := by
  unfold Trace.addFunction Trace.addNested
  rw [List.append_assoc, List.cons_append]
  exact (Nests.types ..).append (.enclose (.function level form) (Addition.obeys_of_level rfl)
    ((Nests.addAll_parameters ..).append h))

theorem nests_addFunction (b : Builder) (scope : Scope) (level : Access) (form : FunctionForm) :
    Nests b scope level (Trace.addFunction b scope level form) (addFunction b scope level form)
      level := by
  rw [← List.append_nil (Trace.addFunction b scope level form)]
  exact nests_function (.done ..)

theorem nests_addEnum (b : Builder) (scope : Scope) (level : Access) (head : EnumHead) :
    Nests b scope level (Trace.addEnum b scope level head) (addEnum b scope level head) level := by
  have hparts : ∀ part ∈ head.enumerators.map
      (Addition.enumerator (Addition.enumType b scope head)),
      part.Obeys (.inside b.nextId) .noAccess ∧ part.levelAfter .noAccess = .noAccess := by
    rw [List.forall_mem_map]
    exact fun _ _ => ⟨Addition.obeys_of_eq_none rfl rfl, rfl⟩
  exact .enclose (.enumeration level head) (Addition.obeys_of_level rfl) (Nests.addAll _ hparts)

theorem nests_addDeclarator (b : Builder) (scope : Scope) (level : Access)
    (template : List ResolvedParameter) (rest : DeclaratorList) (base? : Option CType)
    (declarator : Declarator) :
    Nests b scope level (Trace.addDeclarator b scope level template rest base? declarator)
      (addDeclarator b scope level template rest base? declarator) level := by
  unfold Trace.addDeclarator addDeclarator
  cases declarator.declared with
  | object => exact .single _ _ (Addition.obeys_of_level rfl)
  | function function => exact nests_addFunction ..
  | functionPointer parameters => exact .single _ _ (Addition.obeys_of_level rfl)

theorem nests_addDeclarators (b : Builder) (scope : Scope) (level : Access)
    (template : List ResolvedParameter) (base? : Option CType) (rest : DeclaratorList) :
    Nests b scope level (Trace.addDeclarators b scope level template base? rest)
      (addDeclarators b scope level template base? rest) level := by
  unfold Trace.addDeclarators addDeclarators
  dsimp only
  generalize (if rest.isConst then base?.map CType.withConst else base?) = base?
  generalize rest.declarators = declarators
  induction declarators generalizing b with
  | nil => exact .done ..
  | cons declarator declarators ih => exact (nests_addDeclarator ..).append (ih _)

def levelAfterItems (scope : Scope) (level : Access) (items : List Item) : Access :=
  items.foldl (levelAfter scope) level

theorem levelAfterItems_of_isLabel (scope : Scope) (level : Access) {items : List Item}
    (h : ∀ item ∈ items, item.isLabel = false) : levelAfterItems scope level items = level := by
  unfold levelAfterItems
  induction items with
  | nil => rfl
  | cons item items ih =>
    rw [List.forall_mem_cons] at h
    have hitem : levelAfter scope level item = level := by
      cases item with
      | accessLabel => simp [Item.isLabel] at h
      | _ => rfl
    rw [List.foldl_cons, hitem, ih h.2]

section Recursion

variable {options : Options} {call : Call} {item : Item}

theorem nests_simple (b : Builder) (scope : Scope) (level : Access) (hsimple : item.isSimple) :
    Nests b scope level (Trace.addAll b scope (item.additions options scope level))
      (b.addAll scope (item.additions options scope level)) (levelAfter scope level item) := by
  cases item with
  | accessLabel level? site =>
    simp only [Item.additions, levelAfter]
    split
    · next hrecord => exact .single _ _ (Addition.obeys_of_inRecord rfl hrecord)
    · exact .done ..
  | typeAlias | usingName => exact .single _ _ (Addition.obeys_of_level rfl)
  | inclusion | macroDefinition =>
    simp only [Item.additions]
    split
    · exact .single _ _ (Addition.obeys_of_eq_none rfl rfl)
    · exact .done ..
  | _ => contradiction

theorem nests_after (hitem : item.Everywhere Item.IsPlain)
    (inside : ∀ inner, call.inside? options item = some inner →
      (∀ item ∈ inner.items, item.Everywhere Item.IsPlain) →
        Nests inner.unit inner.scope inner.level (inner.actions options) (inner.result options)
          (levelAfterItems inner.scope inner.level inner.items)) :
    Nests call.unit call.scope call.level (call.itemActions options item) (call.after options item)
      (levelAfter call.scope call.level item) := by
  cases item using Item.shapes with
  | simple item hsimple =>
    rw [Call.itemActions_of_isSimple hsimple, Call.after_of_isSimple hsimple]
    exact nests_simple call.unit call.scope call.level hsimple
  | namespaceBlock names site body =>
    have hbody := inside _ rfl hitem.of_mem_inside
    cases names with
    | nil => exact .addNamespaces site "" [] call.unit call.scope call.level hbody
    | cons name names => exact .addNamespaces site name names call.unit call.scope call.level hbody
  | linkageBlock site body =>
    exact .enclose _ (Addition.obeys_of_eq_none rfl rfl) (inside _ rfl hitem.of_mem_inside)
  | template parameters body =>
    -- There is no label in the template, so the level is still the same after it.
    have hlevel : levelAfterItems call.scope call.level body = call.level :=
      levelAfterItems_of_isLabel call.scope call.level (hitem.here rfl)
    have hbody := inside _ rfl hitem.of_mem_inside
    dsimp only at hbody
    rw [hlevel] at hbody
    exact (Nests.types ..).append hbody
  | record head members rest =>
    have hbases : ∀ part ∈ call.template.map Addition.parameter ++
        head.bases.map (.base (Addition.defaultAccess head.keyword)),
        part.Obeys (.membersOf call.unit.nextId) (Addition.defaultAccess head.keyword)
          ∧ part.levelAfter (Addition.defaultAccess head.keyword) =
            Addition.defaultAccess head.keyword := by
      rw [List.forall_mem_append, List.forall_mem_map, List.forall_mem_map]
      exact ⟨fun _ _ => ⟨Addition.obeys_of_inRecord rfl rfl, rfl⟩,
        fun _ _ => ⟨Addition.obeys_of_inRecord rfl rfl, rfl⟩⟩
    let addition := Addition.record call.level call.template head
    have hparts := (Nests.addAll (call.unit.add call.scope addition) hbases).append
      (inside _ rfl hitem.of_mem_inside)
    have hrecord : Nests call.unit call.scope call.level _ _ call.level :=
      .enclose addition (Addition.obeys_of_level rfl) hparts
    have htyped := hrecord.append (.tag call.unit.nextId (.done ..))
    exact htyped.append (nests_addDeclarators ..)
  | enumeration head rest =>
    have htyped := (nests_addEnum call.unit call.scope call.level head).append
      (.tag call.unit.nextId (.done ..))
    exact htyped.append (nests_addDeclarators ..)
  | declaration base? rest => exact (Nests.types ..).append (nests_addDeclarators ..)
  | function declarator result? span body? members =>
    have hfunction := nests_addFunction call.unit call.scope call.level
      (call.functionForm declarator result? span)
    unfold Call.itemActions Call.after Trace.lowerItem lowerItem
    dsimp only
    rw [List.append_assoc]
    cases body? with
    | none =>
      rw [List.append_nil]
      exact (Nests.types ..).append hfunction
    | some site =>
      dsimp only
      split
      · rw [List.append_nil]
        exact (Nests.types ..).append hfunction
      · next hskip =>
        apply (Nests.types ..).append
        apply nests_function
        apply Nests.enclose (.body site) (Addition.obeys_of_eq_none rfl rfl)
        exact inside _ (if_neg hskip) hitem.of_mem_inside

theorem nests_lowerItems (options : Options) (b : Builder) (scope : Scope) (level : Access)
    (template : List ResolvedParameter) {items : List Item}
    (hitems : ∀ item ∈ items, item.Everywhere Item.IsPlain) :
    Nests b scope level (Trace.lowerItems options b scope level template items)
      (lowerItems options b scope level template items) (levelAfterItems scope level items) := by
  induction b, scope, level, template, items using induct options with
  | nil => exact .done ..
  | cons call item rest inside next =>
    rw [List.forall_mem_cons] at hitems
    exact (nests_after hitems.1 inside).append (next hitems.2)

end Recursion

end Lowering
end CursorQuery
