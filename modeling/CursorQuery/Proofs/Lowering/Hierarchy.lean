import CursorQuery.Proofs.Lowering.Access
import CursorQuery.Proofs.Lowering.Grammar

/-!
This module contains what the grammar says about finished units: which cursors are children of which,
and how the kind of a function agrees with its name and with what it belongs to.
-/

namespace CursorQuery

namespace CursorKind

def suits (parent : CursorKind) : CursorKind → Bool
  | translationUnit => false
  | fieldDecl | accessSpecifier | baseSpecifier => parent.isRecord
  | parmDecl | compoundStmt => parent.isFunctionLike
  | enumConstantDecl => parent == enumDecl
  | templateTypeParameter | templateNonTypeParameter | templateTemplateParameter => parent.isTemplate
  | _ => parent.isRecord || parent.isContainer

variable {parent kind : CursorKind}

theorem suits_of_isTemplateParameter (h : kind.isTemplateParameter) :
    parent.suits kind = parent.isTemplate := by
  cases kind with
  | templateTypeParameter | templateNonTypeParameter | templateTemplateParameter => rfl
  | _ => contradiction

theorem suits_of_isDeclaredIn {inRecord : Bool} (h : kind.isDeclaredIn inRecord)
    (hparent : if inRecord then parent.isRecord else parent.isContainer) : parent.suits kind := by
  cases inRecord with
  | false =>
    cases kind with
    | _ => simp_all [suits, isDeclaredIn]
  | true =>
    cases kind with
    | _ => simp_all [suits, isDeclaredIn]

theorem not_suits_of_isLeaf (h : parent.isLeaf) : parent.suits kind = false := by
  cases parent with
  | varDecl | fieldDecl | parmDecl | enumConstantDecl | typedefDecl | typeAliasDecl | usingDirective
  | usingDeclaration | accessSpecifier | baseSpecifier | templateTypeParameter
  | templateNonTypeParameter | templateTemplateParameter | macroDefinition | inclusionDirective =>
    cases kind with
    | _ => rfl
  | _ => contradiction

end CursorKind

namespace Produces

variable {skipBodies : Bool} {entity : Entity} {kinds : List CursorKind}

theorem suits (h : Produces skipBodies entity kinds) : ∀ kind ∈ kinds, entity.kind.suits kind := by
  cases h with
  | container hkind hmembers =>
    intro kind hmem
    exact CursorKind.suits_of_isDeclaredIn (hmembers kind hmem) hkind
  | @record template _ _ hkind htemplate hsome hbases hmembers =>
    simp only [List.forall_mem_append]
    refine ⟨⟨?_, ?_⟩, ?_⟩
    · intro kind hmem
      rw [CursorKind.suits_of_isTemplateParameter (htemplate kind hmem)]
      exact hsome.mp (List.ne_nil_of_mem hmem)
    · intro kind hmem
      rw [hbases kind hmem]
      exact hkind
    · intro kind hmem
      exact CursorKind.suits_of_isDeclaredIn (hmembers kind hmem) hkind
  | @function template _ body hkind htemplate hsome hparameters hbody =>
    simp only [List.forall_mem_append]
    refine ⟨⟨?_, ?_⟩, ?_⟩
    · intro kind hmem
      rw [CursorKind.suits_of_isTemplateParameter (htemplate kind hmem)]
      exact hsome.mp (List.ne_nil_of_mem hmem)
    · intro kind hmem
      rw [hparameters kind hmem]
      exact hkind
    · intro kind hmem
      cases hbody with
      | inl hnone =>
        rw [hnone] at hmem
        contradiction
      | inr hbody =>
        rw [hbody.1, List.mem_singleton] at hmem
        rw [hmem]
        exact hkind
  | enumeration hkind henumerators =>
    intro kind hmem
    rw [henumerators kind hmem, hkind]
    rfl
  | leaf hkind => simp

theorem of_isRecord (h : Produces skipBodies entity kinds) (hrecord : entity.kind.isRecord) :
    ∃ template bases members, kinds = template ++ bases ++ members
      ∧ (∀ kind ∈ template, kind.isTemplateParameter) ∧ (template ≠ [] ↔ entity.kind.isTemplate)
      ∧ (∀ kind ∈ bases, kind = .baseSpecifier) ∧ ∀ kind ∈ members, kind.isDeclaredIn true := by
  cases h with
  | record _ htemplate hsome hbases hmembers =>
    exact ⟨_, _, _, rfl, htemplate, hsome, hbases, hmembers⟩
  | _ => cases hkind : entity.kind <;> simp_all [CursorKind.isContainer, CursorKind.isFunctionLike,
      CursorKind.isLeaf, CursorKind.isRecord]

theorem of_isFunctionLike (h : Produces skipBodies entity kinds)
    (hlike : entity.kind.isFunctionLike) :
    ∃ template parameters body, kinds = template ++ parameters ++ body
      ∧ (∀ kind ∈ template, kind.isTemplateParameter) ∧ (template ≠ [] ↔ entity.kind.isTemplate)
      ∧ (∀ kind ∈ parameters, kind = .parmDecl)
      ∧ (body = [] ∨ body = [.compoundStmt] ∧ entity.isDefinition ∧ skipBodies = false) := by
  cases h with
  | function _ htemplate hsome hparameters hbody =>
    exact ⟨_, _, _, rfl, htemplate, hsome, hparameters, hbody⟩
  | _ => cases hkind : entity.kind <;> simp_all [CursorKind.isContainer, CursorKind.isFunctionLike,
      CursorKind.isLeaf, CursorKind.isRecord]

theorem exists_isTemplateParameter_iff (h : Produces skipBodies entity kinds) :
    (∃ kind ∈ kinds, kind.isTemplateParameter) ↔ entity.kind.isTemplate := by
  constructor
  · rintro ⟨kind, hmem, hkind⟩
    rw [← CursorKind.suits_of_isTemplateParameter hkind]
    exact h.suits kind hmem
  · intro htemplate
    have hfamily : entity.kind.isRecord ∨ entity.kind.isFunctionLike := by
      cases hkind : entity.kind <;>
        simp_all [CursorKind.isTemplate, CursorKind.isRecord, CursorKind.isFunctionLike]
    have hfirst : ∃ template later, kinds = template ++ later
        ∧ (∀ kind ∈ template, kind.isTemplateParameter)
        ∧ (template ≠ [] ↔ entity.kind.isTemplate) := by
      cases hfamily with
      | inl hrecord =>
        obtain ⟨template, bases, members, hkinds, hall, hsome, -, -⟩ := h.of_isRecord hrecord
        exact ⟨template, bases ++ members, by rw [hkinds, List.append_assoc], hall, hsome⟩
      | inr hlike =>
        obtain ⟨template, parameters, body, hkinds, hall, hsome, -, -⟩ := h.of_isFunctionLike hlike
        exact ⟨template, parameters ++ body, by rw [hkinds, List.append_assoc], hall, hsome⟩
    obtain ⟨template, later, rfl, hall, hsome⟩ := hfirst
    obtain ⟨kind, hmem⟩ := List.exists_mem_of_ne_nil _ (hsome.mpr htemplate)
    exact ⟨kind, List.mem_append_left _ hmem, hall kind hmem⟩

end Produces

namespace CursorKind

def AgreesWith (kind : CursorKind) (owner : Entity) (name : String) : Prop :=
  match kind with
  | functionDecl => owner.kind.isRecord = false
  | method => owner.kind.isRecord ∧ name ≠ owner.spelling ∧ name.toList.head? ≠ some '~'
  | constructor => owner.kind.isRecord ∧ name = owner.spelling
  | destructor => owner.kind.isRecord ∧ name.toList.head? = some '~'
  | _ => True

theorem agreesWith_of_isFunctionLike_eq_false {kind : CursorKind} (h : kind.isFunctionLike = false)
    (owner : Entity) (name : String) : kind.AgreesWith owner name := by
  cases kind with
  | functionDecl | method | constructor | destructor => contradiction
  | _ => trivial

end CursorKind

namespace Addition

variable {b : Builder} {scope : Scope}

theorem agreesWith_functionKind (template : List ResolvedParameter) (semantic : Nat) (name : String) :
    (functionKind b template semantic name).AgreesWith (b.cursor semantic).toEntity name := by
  unfold functionKind
  dsimp only
  split
  · trivial
  · split
    · next howner => simpa [CursorKind.AgreesWith] using howner
    · next howner =>
      have hrecord : (b.cursor semantic).kind.isRecord := by simpa using howner
      split
      · next htilde => exact ⟨hrecord, by simpa using htilde⟩
      · next htilde =>
        split
        · next hname => exact ⟨hrecord, (beq_iff_eq.mp hname).symm⟩
        · next hname => exact ⟨hrecord, fun h => hname (beq_iff_eq.mpr h.symm), by simpa using htilde⟩

theorem agreesWith_placed (addition : Addition) (b : Builder) (scope : Scope) :
    (addition.placed b scope).kind.AgreesWith (b.cursor (b.resolveScope addition.scopes scope)).toEntity
      (addition.placed b scope).spelling := by
  cases addition with
  | function level form => exact agreesWith_functionKind ..
  | _ =>
    exact CursorKind.agreesWith_of_isFunctionLike_eq_false
      (kind_placed_of_kinds CursorKind.isFunctionLike rfl) _ _

theorem isSome_resultType_placed (addition : Addition) (b : Builder) (scope : Scope) :
    (addition.placed b scope).resultType.isSome = (addition.placed b scope).kind.isFunctionLike := by
  cases addition with
  | function level form =>
    exact (isFunctionLike_functionKind form.template _ form.declarator.name.name).symm
  | _ =>
    rw [kind_placed_of_kinds CursorKind.isFunctionLike rfl]
    rfl

end Addition

namespace TranslationUnit

open Lowering

def childKinds (unit : TranslationUnit) (v : Fin unit.cursors.size) : List CursorKind :=
  (unit.children v).map fun c => (unit.cursor c).kind

/-- What is a child of what, and what the kind of a cursor says about the cursor itself. -/
structure ObeysGrammar (unit : TranslationUnit) : Prop where
  root : ∀ v, (unit.cursor v).kind = .translationUnit ↔ v.val = Cursor.root
  parent : ∀ v, v.val ≠ Cursor.root → ∃! parent, v ∈ unit.children parent
  function : ∀ v, (unit.cursor v).kind.isFunctionLike →
    ∃ template parameters body, unit.children v = template ++ parameters ++ body
      ∧ (∀ c ∈ template, (unit.cursor c).kind.isTemplateParameter)
      ∧ (∀ c ∈ parameters, (unit.cursor c).kind = .parmDecl)
      ∧ (∀ c ∈ body, (unit.cursor c).kind = .compoundStmt) ∧ body.length ≤ 1
      ∧ (body ≠ [] → (unit.cursor v).isDefinition ∧ unit.options.skipBodies = false)
  record : ∀ v, (unit.cursor v).kind.isRecord →
    ∃ template bases members, unit.children v = template ++ bases ++ members
      ∧ (∀ c ∈ template, (unit.cursor c).kind.isTemplateParameter)
      ∧ (∀ c ∈ bases, (unit.cursor c).kind = .baseSpecifier)
      ∧ ∀ c ∈ members, (unit.cursor c).kind.isDeclaredIn true
  template : ∀ v, (∃ c ∈ unit.children v, (unit.cursor c).kind.isTemplateParameter) ↔
    (unit.cursor v).kind = .classTemplate ∨ (unit.cursor v).kind = .functionTemplate
  inRecord : ∀ v, ∀ c ∈ unit.children v,
    (unit.cursor c).kind = .fieldDecl ∨ (unit.cursor c).kind = .accessSpecifier
      ∨ (unit.cursor c).kind = .baseSpecifier → (unit.cursor v).kind.isRecord
  inFunction : ∀ v, ∀ c ∈ unit.children v,
    (unit.cursor c).kind = .parmDecl ∨ (unit.cursor c).kind = .compoundStmt →
      (unit.cursor v).kind.isFunctionLike
  inEnumeration : ∀ v, ∀ c ∈ unit.children v,
    (unit.cursor c).kind = .enumConstantDecl ↔ (unit.cursor v).kind = .enumDecl
  leaf : ∀ v, (unit.cursor v).kind.isLeaf → unit.children v = []
  owner : ∀ v, v.val ≠ Cursor.root → ∃ owner, unit.model.semanticParent v = some owner
    ∧ (unit.cursor v).kind.AgreesWith (unit.cursor owner).toEntity (unit.cursor v).spelling
  result : ∀ v, (unit.cursor v).resultType.isSome ↔ (unit.cursor v).kind.isFunctionLike

variable {source : Source} {tree : ParseTree} {options : Options}

theorem readyIn_start (source : Source) (tree : ParseTree) :
    (Scope.inside Cursor.root).ReadyIn (start source tree) where
  size_childLists := rfl
  lt_of_mem id c hc := by
    have hnone : (start source tree).childrenOf id = [] := by
      simp only [Builder.childrenOf, start]
      cases id with
      | zero => rfl
      | succ id => rfl
    rw [hnone] at hc
    contradiction
  lexical_lt := Nat.one_pos

theorem produces_build (source : Source) (tree : ParseTree) (options : Options) {id : Nat}
    (hid : id < (build source tree options).nextId) :
    Produces options.skipBodies ((build source tree options).cursor id).toEntity
      ((build source tree options).childKinds id) := by
  have hnone : ∀ parameter ∈ ([] : List ResolvedParameter), parameter.kind ≠ .function := by simp
  obtain ⟨kinds, hfills, hkinds⟩ := fillsScope_lowerItems options (readyIn_start source tree) .noAccess
    hnone (Declaration.everywhere_sortsParameters_members source tree)
  by_cases hroot : id = Cursor.root
  · rw [hroot, cursor_root_build]
    have hstart : (start source tree).childKinds Cursor.root = [] := rfl
    have hchildren : (build source tree options).childKinds Cursor.root = [] ++ kinds := by
      rw [← hstart]
      exact hfills.childKinds_eq
    rw [hchildren]
    exact .container rfl hkinds
  · exact hfills.produces id (Nat.pos_of_ne_zero hroot) hid

theorem viewChildren_build {α : Type} (view : Cursor → α)
    (v : Fin (ofParseTree source tree options).cursors.size) :
    (build source tree options).viewChildren view v =
      ((ofParseTree source tree options).children v).map fun c =>
        view ((ofParseTree source tree options).cursor c) := by
  unfold Builder.viewChildren
  rw [← map_val_children_ofParseTree, List.map_map]
  apply List.map_congr_left
  intro c _
  rw [cursor_ofParseTree]
  rfl

theorem produces_ofParseTree (v : Fin (ofParseTree source tree options).cursors.size) :
    Produces options.skipBodies ((ofParseTree source tree options).cursor v).toEntity
      ((ofParseTree source tree options).childKinds v) := by
  have hkinds : (build source tree options).childKinds v =
      (ofParseTree source tree options).childKinds v := viewChildren_build (·.kind) v
  rw [← hkinds, cursor_ofParseTree]
  exact produces_build source tree options v.isLt

theorem suits_of_mem_children {v c : Fin (ofParseTree source tree options).cursors.size}
    (h : c ∈ (ofParseTree source tree options).children v) :
    ((ofParseTree source tree options).cursor v).kind.suits
      ((ofParseTree source tree options).cursor c).kind :=
  (produces_ofParseTree v).suits _ (List.mem_map_of_mem h)

theorem exists_children_eq_append {unit : TranslationUnit} {v : Fin unit.cursors.size}
    {first second third : List CursorKind} (h : unit.childKinds v = first ++ second ++ third) :
    ∃ as bs cs, unit.children v = as ++ bs ++ cs ∧ as.map (fun c => (unit.cursor c).kind) = first
      ∧ bs.map (fun c => (unit.cursor c).kind) = second
      ∧ cs.map (fun c => (unit.cursor c).kind) = third := by
  obtain ⟨before, cs, hchildren, hbefore, hthird⟩ := List.map_eq_append_iff.mp h
  obtain ⟨as, bs, rfl, hfirst, hsecond⟩ := List.map_eq_append_iff.mp hbefore
  exact ⟨as, bs, cs, hchildren, hfirst, hsecond, hthird⟩

theorem existsUnique_parent {v : Fin (ofParseTree source tree options).cursors.size}
    (hv : v.val ≠ Cursor.root) : ∃! parent, v ∈ (ofParseTree source tree options).children parent := by
  cases hparent : (ofParseTree source tree options).model.lexicalParent v with
  | none => exact absurd (eq_root_of_lexicalParent hparent) hv
  | some parent =>
    refine ⟨parent, mem_children_iff_lexicalParent.mpr hparent, ?_⟩
    intro other hother
    rw [mem_children_iff_lexicalParent, hparent] at hother
    exact (Option.some.inj hother).symm

theorem exists_agreesWith {v : Fin (ofParseTree source tree options).cursors.size}
    (hv : v.val ≠ Cursor.root) :
    ∃ owner, (ofParseTree source tree options).model.semanticParent v = some owner
      ∧ ((ofParseTree source tree options).cursor v).kind.AgreesWith
        ((ofParseTree source tree options).cursor owner).toEntity
        ((ofParseTree source tree options).cursor v).spelling := by
  obtain ⟨before, scope, addition, hmem, hnext⟩ := exists_mem_trace hv
  obtain ⟨owner, hparent, hlt, -⟩ := exists_semanticParent hv
  refine ⟨owner, hparent, ?_⟩
  have hplaced := semanticParent_of_model hparent
  rw [cursor_of_mem_trace hmem hnext] at hplaced ⊢
  rw [cursor_ofParseTree_of_mem_trace hmem (by rw [hnext]; exact hlt), ← Option.some.inj hplaced]
  exact addition.agreesWith_placed before scope

theorem isSome_resultType (v : Fin (ofParseTree source tree options).cursors.size) :
    ((ofParseTree source tree options).cursor v).resultType.isSome =
      ((ofParseTree source tree options).cursor v).kind.isFunctionLike := by
  by_cases hv : v.val = Cursor.root
  · rw [cursor_ofParseTree, hv, cursor_root_build]
    rfl
  · obtain ⟨before, scope, addition, hmem, hnext⟩ := exists_mem_trace hv
    rw [cursor_of_mem_trace hmem hnext]
    exact addition.isSome_resultType_placed before scope

/--
Every lowered unit obeys the grammar. So a query can rely on the kind of a cursor for what its children
are, where it stands and what it belongs to.
-/
theorem ofParseTree_grammar (source : Source) (tree : ParseTree) (options : Options) :
    (ofParseTree source tree options).ObeysGrammar where
  root v := by
    constructor
    · intro hkind
      by_contra hv
      exact kind_ne_translationUnit hv hkind
    · intro hv
      rw [cursor_ofParseTree, hv, cursor_root_build]
      rfl
  parent _ hv := existsUnique_parent hv
  function v hlike := by
    obtain ⟨_, _, _, hkinds, htemplate, -, hparameters, hbody⟩ :=
      (produces_ofParseTree v).of_isFunctionLike hlike
    obtain ⟨template, parameters, body, hchildren, rfl, rfl, rfl⟩ := exists_children_eq_append hkinds
    rw [List.forall_mem_map] at htemplate hparameters
    refine ⟨template, parameters, body, hchildren, htemplate, hparameters, ?_⟩
    cases hbody with
    | inl hnone =>
      rw [List.map_eq_nil_iff] at hnone
      simp [hnone]
    | inr hbody =>
      obtain ⟨hsingle, hdefinition, hskip⟩ := hbody
      obtain ⟨block, rfl, hblock⟩ := List.map_eq_singleton_iff.mp hsingle
      exact ⟨List.forall_mem_singleton.mpr hblock, Nat.le_refl 1, fun _ => ⟨hdefinition, hskip⟩⟩
  record v hrecord := by
    obtain ⟨_, _, _, hkinds, htemplate, -, hbases, hmembers⟩ :=
      (produces_ofParseTree v).of_isRecord hrecord
    obtain ⟨template, bases, members, hchildren, rfl, rfl, rfl⟩ := exists_children_eq_append hkinds
    rw [List.forall_mem_map] at htemplate hbases hmembers
    exact ⟨template, bases, members, hchildren, htemplate, hbases, hmembers⟩
  template v := by
    have hiff := (produces_ofParseTree v).exists_isTemplateParameter_iff
    simp only [childKinds, List.mem_map, exists_exists_and_eq_and] at hiff
    rw [hiff]
    cases ((ofParseTree source tree options).cursor v).kind with
    | _ => simp [CursorKind.isTemplate]
  inRecord v c hc hkind := by
    have hsuits := suits_of_mem_children hc
    rcases hkind with hkind | hkind | hkind
    all_goals
      rw [hkind] at hsuits
      exact hsuits
  inFunction v c hc hkind := by
    have hsuits := suits_of_mem_children hc
    rcases hkind with hkind | hkind
    all_goals
      rw [hkind] at hsuits
      exact hsuits
  inEnumeration v c hc := by
    have hsuits := suits_of_mem_children hc
    constructor
    · intro hkind
      rw [hkind] at hsuits
      exact beq_iff_eq.mp hsuits
    · intro hkind
      rw [hkind] at hsuits
      cases hchild : ((ofParseTree source tree options).cursor c).kind with
      | enumConstantDecl => rfl
      | _ =>
        rw [hchild] at hsuits
        contradiction
  leaf v hleaf := by
    rw [List.eq_nil_iff_forall_not_mem]
    intro c hc
    have hsuits := suits_of_mem_children hc
    rw [CursorKind.not_suits_of_isLeaf hleaf] at hsuits
    contradiction
  owner _ hv := exists_agreesWith hv
  result v := by rw [isSome_resultType]

end TranslationUnit
end CursorQuery
