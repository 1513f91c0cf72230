import CursorQuery.Proofs.Declaration.Parameters
import CursorQuery.Proofs.Lowering.Filling
import CursorQuery.Proofs.Lowering.Invariant

/-!
This module contains the grammar of lowered units: which kinds of cursors are children of which, and in
what order. Every step of the lowering puts children of the right kinds into the scope that it works in.
-/

namespace CursorQuery

namespace CursorKind

def isTemplateParameter : CursorKind → Bool
  | templateTypeParameter | templateNonTypeParameter | templateTemplateParameter => true
  | _ => false

def isTemplate : CursorKind → Bool
  | classTemplate | functionTemplate => true
  | _ => false

/-- The kinds of cursors that hold any declarations, but not as the members of a record. -/
def isContainer : CursorKind → Bool
  | translationUnit | namespaceDecl | linkageSpec | compoundStmt => true
  | _ => false

def isLeaf : CursorKind → Bool
  | varDecl | fieldDecl | parmDecl | enumConstantDecl | typedefDecl | typeAliasDecl | usingDirective
  | usingDeclaration | accessSpecifier | baseSpecifier | templateTypeParameter
  | templateNonTypeParameter | templateTemplateParameter | macroDefinition | inclusionDirective => true
  | _ => false

def isDeclaredIn (inRecord : Bool) : CursorKind → Bool
  | fieldDecl | accessSpecifier => inRecord
  | translationUnit | parmDecl | enumConstantDecl | baseSpecifier | compoundStmt
  | templateTypeParameter | templateNonTypeParameter | templateTemplateParameter => false
  | _ => true

theorem isDeclaredIn_of_isRecord {kind : CursorKind} (inRecord : Bool) (h : kind.isRecord) :
    kind.isDeclaredIn inRecord := by
  cases kind with
  | classDecl | structDecl | unionDecl | classTemplate => rfl
  | _ => contradiction

theorem isDeclaredIn_of_isFunctionLike {kind : CursorKind} (inRecord : Bool) (h : kind.isFunctionLike) :
    kind.isDeclaredIn inRecord := by
  cases kind with
  | functionDecl | functionTemplate | method | constructor | destructor => rfl
  | _ => contradiction

end CursorKind

namespace Addition

variable {b : Builder} {scope : Scope}

theorem isTemplate_recordCursor (level : Access) (template : List ResolvedParameter)
    (head : RecordHead) :
    (recordCursor b scope level template head).kind.isTemplate ↔ template ≠ [] := by
  unfold recordCursor
  cases template with
  | nil => cases head.keyword <;> simp [recordKind, CursorKind.isTemplate]
  | cons parameter template => simp [CursorKind.isTemplate]

theorem isTemplate_functionKind (template : List ResolvedParameter) (semantic : Nat) (name : String) :
    (functionKind b template semantic name).isTemplate ↔ template ≠ [] := by
  unfold functionKind
  cases template with
  | nil =>
    dsimp only
    repeat' split
    all_goals simp_all [CursorKind.isTemplate]
  | cons parameter template => simp [CursorKind.isTemplate]

end Addition

inductive Produces (skipBodies : Bool) (entity : Entity) : List CursorKind → Prop where
  | container {members : List CursorKind} (hkind : entity.kind.isContainer)
      (hmembers : ∀ kind ∈ members, kind.isDeclaredIn false) : Produces skipBodies entity members
  | record {template bases members : List CursorKind} (hkind : entity.kind.isRecord)
      (htemplate : ∀ kind ∈ template, kind.isTemplateParameter)
      (hsome : template ≠ [] ↔ entity.kind.isTemplate)
      (hbases : ∀ kind ∈ bases, kind = .baseSpecifier)
      (hmembers : ∀ kind ∈ members, kind.isDeclaredIn true) :
      Produces skipBodies entity (template ++ bases ++ members)
  | function {template parameters body : List CursorKind} (hkind : entity.kind.isFunctionLike)
      (htemplate : ∀ kind ∈ template, kind.isTemplateParameter)
      (hsome : template ≠ [] ↔ entity.kind.isTemplate)
      (hparameters : ∀ kind ∈ parameters, kind = .parmDecl)
      (hbody : body = [] ∨ body = [.compoundStmt] ∧ entity.isDefinition ∧ skipBodies = false) :
      Produces skipBodies entity (template ++ parameters ++ body)
  | enumeration {enumerators : List CursorKind} (hkind : entity.kind = .enumDecl)
      (henumerators : ∀ kind ∈ enumerators, kind = .enumConstantDecl) :
      Produces skipBodies entity enumerators
  | leaf (hkind : entity.kind.isLeaf) : Produces skipBodies entity []

namespace Builder

def childKinds (b : Builder) (id : Nat) : List CursorKind :=
  (b.childrenOf id).map fun c => (b.cursor c).kind

/-- Children of these kinds are put into a cursor, with everything inside of them. -/
structure Fills (skipBodies : Bool) (b : Builder) (opened : Nat) (kinds : List CursorKind)
    (b' : Builder) : Prop extends b.GrowsIn opened b' where
  linked : b'.Linked
  childKinds_eq : b'.childKinds opened = b.childKinds opened ++ kinds
  produces : ∀ id, b.nextId ≤ id → id < b'.nextId →
    Produces skipBodies (b'.cursor id).toEntity (b'.childKinds id)

end Builder

namespace Scope

variable {b b' : Builder} {scope : Scope} {kinds : List CursorKind} {skipBodies : Bool} {opened : Nat}

theorem ReadyIn.of_fills (hscope : scope.ReadyIn b) (h : b.Fills skipBodies opened kinds b') :
    scope.ReadyIn b' where
  toLinked := h.linked
  lexical_lt := Nat.lt_of_lt_of_le hscope.lexical_lt h.nextId_le

end Scope

namespace Builder

variable {b b₁ b₂ b' : Builder} {scope : Scope} {addition : Addition} {opened : Nat}
  {kinds kinds₁ kinds₂ : List CursorKind} {skipBodies : Bool}

namespace Fills

theorem iff_gains : b.Fills skipBodies opened kinds b' ↔
    b.Gains (·.kind) (fun cursor kinds => Produces skipBodies cursor.toEntity kinds) opened kinds b' :=
  ⟨fun h => ⟨h.toGrowsIn, h.linked, h.childKinds_eq, h.produces⟩,
    fun h => ⟨h.toGrowsIn, h.linked, h.viewChildren_eq, h.holds⟩⟩

theorem refl (hb : b.Linked) (opened : Nat) : b.Fills skipBodies opened [] b :=
  iff_gains.mpr (.refl hb opened)

theorem trans (hopened : opened < b.nextId) (h₁ : b.Fills skipBodies opened kinds₁ b₁)
    (h₂ : b₁.Fills skipBodies opened kinds₂ b₂) :
    b.Fills skipBodies opened (kinds₁ ++ kinds₂) b₂ :=
  iff_gains.mpr ((iff_gains.mp h₁).trans hopened (iff_gains.mp h₂))

theorem enclose (hscope : scope.ReadyIn b)
    (h : (b.add scope addition).Fills skipBodies b.nextId kinds b')
    (hproduces : Produces skipBodies (addition.cursor b scope).toEntity kinds) :
    b.Fills skipBodies scope.lexical [(addition.cursor b scope).kind] b' :=
  iff_gains.mpr (.enclose hscope (iff_gains.mp h) hproduces)

theorem leaf (hscope : scope.ReadyIn b) (hleaf : (addition.cursor b scope).kind.isLeaf) :
    b.Fills skipBodies scope.lexical [(addition.cursor b scope).kind] (b.add scope addition) :=
  iff_gains.mpr (.leaf hscope (.leaf hleaf))

theorem addAll {α : Type} (skipBodies : Bool) (make : α → Addition) (kind : α → CursorKind)
    (hscope : scope.ReadyIn b) (hkind : ∀ a b, ((make a).cursor b scope).kind = kind a)
    (hleaf : ∀ a, (kind a).isLeaf) (as : List α) :
    b.Fills skipBodies scope.lexical (as.map kind) (b.addAll scope (as.map make)) := by
  refine iff_gains.mpr (.addAll make kind hscope (fun a _ => hkind a) ?_)
  intro a _ b
  apply Produces.leaf
  have hplaced : ((make a).placed b scope).kind = kind a := hkind a b
  rw [hplaced]
  exact hleaf a

theorem parameters (skipBodies : Bool) (hscope : scope.ReadyIn b)
    (parameters : List ResolvedParameter) :
    b.Fills skipBodies scope.lexical (parameters.map (·.kind.cursorKind))
      (b.addAll scope (parameters.map .parameter)) := by
  apply addAll skipBodies _ _ hscope
  · exact fun _ _ => rfl
  · intro parameter
    cases parameter.kind with
    | _ => rfl

end Fills
end Builder

namespace Lowering

open Builder

variable {b b₁ b₂ b' : Builder} {scope : Scope} {skipBodies : Bool} {addition : Addition}
  {template : List ResolvedParameter} {kinds : List CursorKind}

def FillsScope (skipBodies : Bool) (b : Builder) (scope : Scope) (b' : Builder) : Prop :=
  ∃ kinds, b.Fills skipBodies scope.lexical kinds b'
    ∧ ∀ kind ∈ kinds, kind.isDeclaredIn scope.inRecord

namespace FillsScope

theorem refl (hscope : scope.ReadyIn b) : FillsScope skipBodies b scope b :=
  ⟨[], .refl hscope.toLinked _, by simp⟩

theorem readyIn (h : FillsScope skipBodies b scope b') (hscope : scope.ReadyIn b) :
    scope.ReadyIn b' := by
  obtain ⟨_, hfills, _⟩ := h
  exact hscope.of_fills hfills

theorem trans (hscope : scope.ReadyIn b) (h₁ : FillsScope skipBodies b scope b₁)
    (h₂ : FillsScope skipBodies b₁ scope b₂) : FillsScope skipBodies b scope b₂ := by
  obtain ⟨kinds₁, hfills₁, hkinds₁⟩ := h₁
  obtain ⟨kinds₂, hfills₂, hkinds₂⟩ := h₂
  exact ⟨kinds₁ ++ kinds₂, hfills₁.trans hscope.lexical_lt hfills₂,
    List.forall_mem_append.mpr ⟨hkinds₁, hkinds₂⟩⟩

theorem enclose (addition : Addition) (hscope : scope.ReadyIn b)
    (hkind : (addition.cursor b scope).kind.isDeclaredIn scope.inRecord)
    (h : (b.add scope addition).Fills skipBodies b.nextId kinds b')
    (hproduces : Produces skipBodies (addition.cursor b scope).toEntity kinds) :
    FillsScope skipBodies b scope b' :=
  ⟨_, .enclose hscope h hproduces, List.forall_mem_singleton.mpr hkind⟩

theorem leaf (hscope : scope.ReadyIn b) (hleaf : (addition.cursor b scope).kind.isLeaf)
    (hkind : (addition.cursor b scope).kind.isDeclaredIn scope.inRecord) :
    FillsScope skipBodies b scope (b.add scope addition) :=
  ⟨_, .leaf hscope hleaf, List.forall_mem_singleton.mpr hkind⟩

theorem single (hscope : scope.ReadyIn b) (hleaf : (addition.cursor b scope).kind.isLeaf)
    (hkind : (addition.cursor b scope).kind.isDeclaredIn scope.inRecord) :
    FillsScope skipBodies b scope (b.addAll scope [addition]) :=
  .leaf hscope hleaf hkind

theorem container (hscope : scope.ReadyIn b)
    (hkind : (addition.cursor b scope).kind.isDeclaredIn scope.inRecord)
    (hcontainer : (addition.cursor b scope).kind.isContainer)
    (h : FillsScope skipBodies (b.add scope addition) (.inside b.nextId) b') :
    FillsScope skipBodies b scope b' := by
  obtain ⟨kinds, hfills, hkinds⟩ := h
  exact .enclose addition hscope hkind hfills (.container hcontainer hkinds)

theorem addNamespaces (hscope : scope.ReadyIn b) (site : Site) (names : List String) :
    let opened := Lowering.addNamespaces b scope site names
    opened.2.ReadyIn opened.1
      ∧ ∀ b', FillsScope skipBodies opened.1 opened.2 b' → FillsScope skipBodies b scope b' := by
  induction names generalizing b scope with
  | nil => exact ⟨hscope, fun _ h => h⟩
  | cons name names ih =>
    have hinner : (Scope.inside b.nextId).ReadyIn (b.add scope (.namespaceBlock name site)) :=
      hscope.enter _ rfl
    obtain ⟨hopened, hinside⟩ := ih hinner
    refine ⟨hopened, ?_⟩
    intro b' h
    exact container hscope rfl rfl (hinside b' h)

end FillsScope

theorem isTemplateParameter_of_mem (htemplate : ∀ parameter ∈ template, parameter.kind ≠ .function) :
    ∀ kind ∈ template.map (·.kind.cursorKind), kind.isTemplateParameter := by
  rw [List.forall_mem_map]
  intro parameter hmem
  have hkind := htemplate parameter hmem
  cases h : parameter.kind with
  | function => contradiction
  | _ => rfl

theorem kind_of_mem_resolveParameters (P : ParameterKind → Prop) {parameters : List Parameter}
    (h : ∀ parameter ∈ parameters, P parameter.kind) (b : Builder) (outermost : Nat) :
    ∀ parameter ∈ b.resolveParameters outermost parameters, P parameter.kind := by
  unfold resolveParameters
  rw [List.forall_mem_map]
  exact h

theorem sublist_dropVoid (parameters : List ResolvedParameter) :
    (dropVoid parameters).Sublist parameters := by
  unfold dropVoid
  split
  · split
    · exact List.nil_sublist _
    · exact .refl _
  · exact .refl _

theorem fills_addRecord (skipBodies : Bool) (hscope : scope.ReadyIn b) (level : Access)
    (template : List ResolvedParameter) (head : RecordHead) :
    (b.add scope (.record level template head)).Fills skipBodies b.nextId
      (template.map (·.kind.cursorKind) ++ head.bases.map fun _ => .baseSpecifier)
      (addRecord b scope level template head) := by
  have hinner : (Scope.membersOf b.nextId).ReadyIn (b.add scope (.record level template head)) :=
    hscope.enter _ rfl
  have htemplate := Fills.parameters skipBodies hinner template
  have hbases := Fills.addAll skipBodies (.base (Addition.defaultAccess head.keyword))
    (fun _ => .baseSpecifier) (hinner.of_fills htemplate) (fun _ _ => rfl) (fun _ => rfl) head.bases
  unfold addRecord addNested
  rw [Builder.addAll, List.foldl_append]
  exact htemplate.trans hinner.lexical_lt hbases

theorem readyIn_addRecord (hscope : scope.ReadyIn b) (level : Access)
    (template : List ResolvedParameter) (head : RecordHead) :
    (Scope.membersOf b.nextId).ReadyIn (addRecord b scope level template head) := by
  have hinner : (Scope.membersOf b.nextId).ReadyIn (b.add scope (.record level template head)) :=
    hscope.enter _ rfl
  exact hinner.of_fills (fills_addRecord false hscope level template head)

theorem fillsScope_record (hscope : scope.ReadyIn b) (level : Access)
    (htemplate : ∀ parameter ∈ template, parameter.kind ≠ .function) {head : RecordHead}
    (h : FillsScope skipBodies (addRecord b scope level template head) (.membersOf b.nextId) b') :
    FillsScope skipBodies b scope b' := by
  have hrecord : (Addition.recordCursor b scope level template head).kind.isRecord :=
    Addition.isRecord_recordCursor level template head
  have hlt : b.nextId < (b.add scope (.record level template head)).nextId := by simp
  obtain ⟨kinds, hmembers, hkinds⟩ := h
  have hopened := fills_addRecord skipBodies hscope level template head
  refine .enclose (.record level template head) hscope
    (CursorKind.isDeclaredIn_of_isRecord _ hrecord) (hopened.trans hlt hmembers) ?_
  apply Produces.record hrecord (isTemplateParameter_of_mem htemplate) ?_ (by simp) hkinds
  rw [ne_eq, List.map_eq_nil_iff]
  exact (Addition.isTemplate_recordCursor ..).symm

theorem fills_addFunction (skipBodies : Bool) (hscope : scope.ReadyIn b) (level : Access)
    (form : FunctionForm) :
    (b.add scope (.function level form)).Fills skipBodies b.nextId
      (form.template.map (·.kind.cursorKind) ++ form.parameters.map (·.kind.cursorKind))
      (addFunction b scope level form) := by
  have hinner : (Scope.inside b.nextId).ReadyIn (b.add scope (.function level form)) :=
    hscope.enter _ rfl
  rw [← List.map_append]
  exact .parameters skipBodies hinner _

theorem readyIn_addFunction (hscope : scope.ReadyIn b) (level : Access) (form : FunctionForm) :
    (Scope.inside b.nextId).ReadyIn (addFunction b scope level form) := by
  have hinner : (Scope.inside b.nextId).ReadyIn (b.add scope (.function level form)) :=
    hscope.enter _ rfl
  exact hinner.of_fills (fills_addFunction false hscope level form)

theorem fillsScope_addEnum (skipBodies : Bool) (hscope : scope.ReadyIn b) (level : Access)
    (head : EnumHead) : FillsScope skipBodies b scope (addEnum b scope level head) := by
  have hinner : (Scope.inside b.nextId).ReadyIn (b.add scope (.enumeration level head)) :=
    hscope.enter _ rfl
  have henumerators := Fills.addAll skipBodies (.enumerator (Addition.enumType b scope head))
    (fun _ => .enumConstantDecl) hinner (fun _ _ => rfl) (fun _ => rfl) head.enumerators
  apply FillsScope.enclose (.enumeration level head) hscope rfl henumerators
  apply Produces.enumeration rfl
  simp

theorem kind_of_mem_functionForm {declarator : FunctionDeclarator} (h : declarator.TakesOnlyOwn)
    (b : Builder) (scope : Scope) (template : List ResolvedParameter) (result? : Option CType)
    (isDefinition : Bool) (span : Span) :
    ∀ parameter ∈ (functionForm b scope template declarator result? isDefinition span).parameters,
      parameter.kind = .function := by
  intro parameter hmem
  exact kind_of_mem_resolveParameters (· = .function) h b scope.semantic parameter
    ((sublist_dropVoid _).mem hmem)

theorem fillsScope_function (hscope : scope.ReadyIn b) (level : Access) {form : FunctionForm}
    (htemplate : ∀ parameter ∈ form.template, parameter.kind ≠ .function)
    (hparameters : ∀ parameter ∈ form.parameters, parameter.kind = .function)
    (h : (addFunction b scope level form).Fills skipBodies b.nextId kinds b')
    (hkinds : kinds = [] ∨ kinds = [.compoundStmt] ∧ form.isDefinition ∧ skipBodies = false) :
    FillsScope skipBodies b scope b' := by
  have hlike : (Addition.functionCursor b scope level form).kind.isFunctionLike :=
    Addition.isFunctionLike_functionKind ..
  have hopened := fills_addFunction skipBodies hscope level form
  have hlt : b.nextId < (b.add scope (.function level form)).nextId := by simp
  refine .enclose (.function level form) hscope
    (CursorKind.isDeclaredIn_of_isFunctionLike _ hlike) (hopened.trans hlt h) ?_
  apply Produces.function hlike (isTemplateParameter_of_mem htemplate) ?_ ?_ hkinds
  · rw [ne_eq, List.map_eq_nil_iff]
    exact (Addition.isTemplate_functionKind ..).symm
  · rw [List.forall_mem_map]
    intro parameter hmem
    rw [hparameters parameter hmem]
    rfl

theorem fillsScope_addDeclarator (skipBodies : Bool) (hscope : scope.ReadyIn b) (level : Access)
    (htemplate : ∀ parameter ∈ template, parameter.kind ≠ .function) (rest : DeclaratorList)
    (base? : Option CType) {declarator : Declarator} (h : declarator.declared.TakesOnlyOwn) :
    FillsScope skipBodies b scope (addDeclarator b scope level template rest base? declarator) := by
  have hobject : ∀ form, FillsScope skipBodies b scope (b.add scope (.object level form)) := by
    intro form
    apply FillsScope.leaf hscope
    · simp only [Addition.cursor, Addition.objectCursor]
      split <;> rfl
    · simp only [Addition.cursor, Addition.objectCursor]
      split
      · simp_all [CursorKind.isDeclaredIn]
      · rfl
  unfold addDeclarator
  cases hdeclared : declarator.declared with
  | object => exact hobject _
  | function function =>
    rw [hdeclared] at h
    have hopened := fills_addFunction skipBodies hscope level
    exact fillsScope_function hscope level htemplate (kind_of_mem_functionForm h _ _ _ _ _ _)
      (.refl (hopened _).linked _) (.inl rfl)
  | functionPointer parameters => exact hobject _

theorem fillsScope_addDeclarators (skipBodies : Bool) (hscope : scope.ReadyIn b) (level : Access)
    (htemplate : ∀ parameter ∈ template, parameter.kind ≠ .function) (base? : Option CType)
    {rest : DeclaratorList} (h : rest.TakesOnlyOwn) :
    FillsScope skipBodies b scope (addDeclarators b scope level template base? rest) := by
  unfold addDeclarators
  dsimp only
  generalize (if rest.isConst then base?.map CType.withConst else base?) = base?
  unfold DeclaratorList.TakesOnlyOwn at h
  generalize rest.declarators = declarators at h
  induction declarators generalizing b with
  | nil => exact .refl hscope
  | cons declarator declarators ih =>
    rw [List.forall_mem_cons] at h
    have hfirst := fillsScope_addDeclarator skipBodies hscope level htemplate rest base? h.1
    exact hfirst.trans hscope (ih (hfirst.readyIn hscope) h.2)

section Recursion

variable {options : Options} {call : Call} {item : Item}

theorem fillsScope_simple (hsimple : item.isSimple) (hscope : scope.ReadyIn b) (level : Access) :
    FillsScope skipBodies b scope (b.addAll scope (item.additions options scope level)) := by
  cases item with
  | accessLabel level? site =>
    simp only [Item.additions]
    split
    · next hrecord => exact .single hscope rfl hrecord
    · exact .refl hscope
  | typeAlias isTypedef name site =>
    cases isTypedef with
    | false => exact .single hscope rfl rfl
    | true => exact .single hscope rfl rfl
  | usingName isDirective target site =>
    cases isDirective with
    | false => exact .single hscope rfl rfl
    | true => exact .single hscope rfl rfl
  | inclusion | macroDefinition =>
    simp only [Item.additions]
    split
    · exact .single hscope rfl rfl
    · exact .refl hscope
  | _ => contradiction

theorem fillsScope_after (hscope : call.scope.ReadyIn call.unit)
    (htemplate : ∀ parameter ∈ call.template, parameter.kind ≠ .function)
    (hitem : item.Everywhere Item.SortsParameters)
    (inside : ∀ inner, call.inside? options item = some inner → inner.scope.ReadyIn inner.unit →
      (∀ parameter ∈ inner.template, parameter.kind ≠ .function) →
        (∀ item ∈ inner.items, item.Everywhere Item.SortsParameters) →
          FillsScope options.skipBodies inner.unit inner.scope (inner.result options)) :
    FillsScope options.skipBodies call.unit call.scope (call.after options item) := by
  have hnone : ∀ parameter ∈ ([] : List ResolvedParameter), parameter.kind ≠ .function := by simp
  cases item using Item.shapes with
  | simple item hsimple =>
    rw [Call.after_of_isSimple hsimple]
    exact fillsScope_simple hsimple hscope call.level
  | namespaceBlock names site body =>
    obtain ⟨hopened, hinside⟩ :=
      FillsScope.addNamespaces hscope site (if names.isEmpty then [""] else names)
    exact hinside _ (inside _ rfl hopened hnone hitem.of_mem_inside)
  | linkageBlock site body =>
    have hinner : (Scope.inside call.unit.nextId).ReadyIn (call.unit.add call.scope (.linkage site)) :=
      hscope.enter _ rfl
    have hbody := inside _ rfl hinner hnone hitem.of_mem_inside
    dsimp only [Call.result] at hbody
    exact .container hscope rfl rfl hbody
  | template parameters body =>
    have hresolved := kind_of_mem_resolveParameters (· ≠ .function) hitem.here call.unit
      call.scope.semantic
    exact inside _ rfl hscope hresolved hitem.of_mem_inside
  | record head members rest =>
    have hready := readyIn_addRecord hscope call.level call.template head
    have hmembers := inside _ rfl hready hnone hitem.of_mem_inside
    have hclosed := fillsScope_record hscope call.level htemplate hmembers
    exact hclosed.trans hscope (fillsScope_addDeclarators options.skipBodies (hclosed.readyIn hscope)
      call.level htemplate _ hitem.here)
  | enumeration head rest =>
    have hclosed := fillsScope_addEnum options.skipBodies hscope call.level head
    exact hclosed.trans hscope (fillsScope_addDeclarators options.skipBodies (hclosed.readyIn hscope)
      call.level htemplate _ hitem.here)
  | declaration base? rest =>
    exact fillsScope_addDeclarators options.skipBodies hscope call.level htemplate _ hitem.here
  | function declarator result? span body? members =>
    let form := call.functionForm declarator result? span
    have hparameters : ∀ parameter ∈ form.parameters, parameter.kind = .function :=
      kind_of_mem_functionForm hitem.here _ _ _ _ _ _
    have hopened := fills_addFunction options.skipBodies hscope call.level form
    have hplain : FillsScope options.skipBodies call.unit call.scope
        (addFunction call.unit call.scope call.level form) :=
      fillsScope_function hscope call.level htemplate hparameters (.refl hopened.linked _) (.inl rfl)
    unfold Call.after lowerItem
    cases body? with
    | none => exact hplain
    | some site =>
      dsimp only
      split
      · exact hplain
      · next hskip =>
        -- A body is the last child of its function.
        have hready := readyIn_addFunction hscope call.level form
        let inner := call.functionBody form site members
        have hinner : inner.scope.ReadyIn inner.unit := hready.enter (.body site) rfl
        have hmembers := inside _ (if_neg hskip) hinner hnone hitem.of_mem_inside
        dsimp only [Call.functionBody, Call.result] at hmembers
        obtain ⟨kinds, hmembers, hkinds⟩ := hmembers
        have hbody := Fills.enclose hready hmembers (.container rfl hkinds)
        exact fillsScope_function hscope call.level htemplate hparameters hbody
          (.inr ⟨rfl, rfl, Bool.eq_false_iff.mpr hskip⟩)

theorem fillsScope_lowerItems (options : Options) {b : Builder} {scope : Scope}
    (hscope : scope.ReadyIn b) (level : Access) {template : List ResolvedParameter}
    (htemplate : ∀ parameter ∈ template, parameter.kind ≠ .function) {items : List Item}
    (hitems : ∀ item ∈ items, item.Everywhere Item.SortsParameters) :
    FillsScope options.skipBodies b scope (lowerItems options b scope level template items) := by
  induction b, scope, level, template, items using induct options with
  | nil => exact .refl hscope
  | cons call item rest inside next =>
    rw [List.forall_mem_cons] at hitems
    have hfirst := fillsScope_after hscope htemplate hitems.1 inside
    exact hfirst.trans hscope (next (hfirst.readyIn hscope) htemplate hitems.2)

theorem fillsScope_lowerItem (options : Options) (hscope : call.scope.ReadyIn call.unit)
    (htemplate : ∀ parameter ∈ call.template, parameter.kind ≠ .function)
    (hitem : item.Everywhere Item.SortsParameters) :
    FillsScope options.skipBodies call.unit call.scope (call.after options item) :=
  fillsScope_after hscope htemplate hitem fun _ _ hready hnone hinside =>
    fillsScope_lowerItems options hready _ hnone hinside

end Recursion

end Lowering
end CursorQuery
