import Mathlib.Data.List.Find
import CursorQuery.Proofs.Lowering.Trace

/-!
This module contains the proof that the reads in a trace are all there are: what an action comes to is
the same for any two units that agree on the cursors it reads.
-/

namespace CursorQuery
namespace Builder

structure AgreesOn (b b' : Builder) (ids : List Nat) : Prop where
  names : b'.names = b.names
  cursor : ∀ id ∈ ids, b'.cursor id = b.cursor id
  childrenOf : ∀ id ∈ ids, b'.childrenOf id = b.childrenOf id

variable {b b' : Builder} {scope : Scope} {id : Nat}

theorem AgreesOn.mono {ids ids' : List Nat} (h : b.AgreesOn b' ids) (hsubset : ids' ⊆ ids) :
    b.AgreesOn b' ids' where
  names := h.names
  cursor id hid := h.cursor id (hsubset hid)
  childrenOf id hid := h.childrenOf id (hsubset hid)

theorem mem_prefixReads_self (b : Builder) (id : Nat) : id ∈ b.prefixReads id := by
  unfold prefixReads
  split
  · split
    · simp
    · simp
  · simp

theorem AgreesOn.scopePrefix_eq (h : b.AgreesOn b' (b.prefixReads id)) :
    b'.scopePrefix id = b.scopePrefix id := by
  have hcursor := h.cursor id (b.mem_prefixReads_self id)
  fun_induction prefixReads b id with
  | case1 id parent hparent hclimb ih =>
    -- Both searches go on to `parent`, as they read the same cursor at `id`.
    have hlater := h.mono (List.subset_cons_self id (b.prefixReads parent))
    have hparent' := hlater.cursor parent (b.mem_prefixReads_self parent)
    unfold scopePrefix
    dsimp only
    rw [hcursor, hparent]
    dsimp only
    rw [if_pos hclimb, if_pos hclimb]
    exact ih hlater hparent'
  | case2 id parent hparent hstop =>
    unfold scopePrefix
    dsimp only
    rw [hcursor, hparent]
    dsimp only
    rw [if_neg hstop, if_neg hstop]
  | case3 id hparent =>
    unfold scopePrefix
    dsimp only
    rw [hcursor, hparent]

theorem AgreesOn.resolve_eq {name : String} {scope : Nat}
    (h : b.AgreesOn b' (b.resolveReads name scope)) :
    b'.resolve name scope = b.resolve name scope := by
  unfold resolve
  unfold resolveReads at h
  split
  · rw [h.names]
  · next hlocal =>
    rw [if_neg hlocal] at h
    rw [h.scopePrefix_eq, h.names]

theorem AgreesOn.resolveScope_eq {scopes : List String}
    (h : b.AgreesOn b' (b.resolveScopeReads scopes scope)) :
    b'.resolveScope scopes scope = b.resolveScope scopes scope := by
  unfold resolveScope
  unfold resolveScopeReads at h
  split
  · rfl
  · next hwritten =>
    rw [if_neg hwritten] at h
    rw [h.resolve_eq]

theorem AgreesOn.namedType_eq {name : String} {scope : Nat}
    (h : b.AgreesOn b' (b.namedTypeReads name scope)) :
    b'.namedType name scope = b.namedType name scope := by
  have hresolve := (h.mono (List.subset_append_left _ _)).resolve_eq
  have hfound := h.mono (List.subset_append_right _ _)
  unfold namedType
  rw [hresolve]
  cases hid : b.resolve name scope with
  | none => rfl
  | some id =>
    rw [hid] at hfound
    dsimp only
    rw [hfound.cursor id (by simp)]

theorem AgreesOn.writtenType_eq {type : WrittenType} {scope : Nat}
    (h : b.AgreesOn b' (b.typeReads scope type)) :
    b'.writtenType type scope = b.writtenType type scope := by
  cases type with
  | known type => rfl
  | named name => exact h.namedType_eq
  | tagged fallback name =>
    have hresolve := (h.mono (List.subset_append_left _ _)).resolve_eq
    unfold writtenType
    dsimp only
    rw [hresolve, h.namedType_eq]
  | template name? arguments =>
    cases name? with
    | none => rfl
    | some name =>
      have hname : b.AgreesOn b' (b.namedTypeReads name scope) := by
        simpa [typeReads] using h
      unfold writtenType
      simp only [Option.map_some]
      rw [hname.namedType_eq]

theorem AgreesOn.qualify_eq (h : b.AgreesOn b' (b.prefixReads id)) (name : String) :
    b'.qualify id name = b.qualify id name := by
  unfold qualify
  rw [h.scopePrefix_eq]

theorem AgreesOn.declaredAccess_eq {owner : Nat} (h : b.AgreesOn b' (b.declaredAccessReads owner))
    (spelling : String) : b'.declaredAccess owner spelling = b.declaredAccess owner spelling := by
  have hchildren := h.childrenOf owner List.mem_cons_self
  have hcursor : ∀ id ∈ b.childrenOf owner, b'.cursor id = b.cursor id :=
    fun id hid => h.cursor id (List.mem_cons_of_mem _ hid)
  have hfind : (b.childrenOf owner).find? (b'.declares spelling) =
      (b.childrenOf owner).find? (b.declares spelling) := by
    apply List.find?_congr
    intro id hid
    unfold declares
    rw [hcursor id hid]
  unfold declaredAccess
  rw [hchildren, hfind]
  cases hid : (b.childrenOf owner).find? (b.declares spelling) with
  | none => rfl
  | some id =>
    dsimp only
    rw [hcursor id (List.mem_of_find?_eq_some hid)]

theorem AgreesOn.of_memberReads {scopes : List String}
    (h : b.AgreesOn b' (b.memberReads scopes scope)) :
    let semantic := b.resolveScope scopes scope
    b'.resolveScope scopes scope = semantic
      ∧ (∀ name, b'.qualify semantic name = b.qualify semantic name)
      ∧ b'.cursor semantic = b.cursor semantic
      ∧ ((b.cursor semantic).kind.isRecord → scope.inRecord = false →
        ∀ name, b'.declaredAccess semantic name = b.declaredAccess semantic name) := by
  intro semantic
  have hfront := h.mono (List.subset_append_left _ _)
  have htag := hfront.mono (List.subset_append_left _ _)
  refine ⟨?_, ?_, ?_, ?_⟩
  · exact (htag.mono (List.subset_append_left _ _)).resolveScope_eq
  · exact (htag.mono (List.subset_append_right _ _)).qualify_eq
  · exact hfront.cursor semantic (by simp [semantic])
  · intro hrecord houtside name
    have haccess := h.mono (List.subset_append_right _ _)
    rw [houtside, if_pos (by simpa using hrecord)] at haccess
    exact haccess.declaredAccess_eq name

theorem AgreesOn.register_eq (h : b.AgreesOn b' (b.registerReads id)) :
    (b'.register id).names = (b.register id).names := by
  have hcursor := h.cursor id List.mem_cons_self
  have hdefined : b'.isDefined (b.cursor id).qualifiedName = b.isDefined (b.cursor id).qualifiedName := by
    unfold isDefined
    rw [h.names]
    cases hlookup : b.names.lookup (b.cursor id).qualifiedName with
    | none => rfl
    | some other =>
      have hother : other ∈ b.registerReads id := by simp [registerReads, hlookup]
      dsimp only
      rw [h.cursor other hother]
  unfold register
  dsimp only
  rw [hcursor, hdefined, h.names]
  split
  · exact h.names
  · rfl

end Builder

namespace Addition

open Builder

variable {b b' : Builder} {scope : Scope}

section Access

variable {level : Access} {semantic : Nat} {name : String}

theorem functionAccess_eq (hsemantic : b'.cursor semantic = b.cursor semantic)
    (haccess : (b.cursor semantic).kind.isRecord → scope.inRecord = false →
      ∀ name, b'.declaredAccess semantic name = b.declaredAccess semantic name) :
    functionAccess b' scope level semantic name = functionAccess b scope level semantic name := by
  unfold functionAccess
  rw [hsemantic]
  split
  · rfl
  · next hrecord =>
    split
    · rfl
    · next houtside => exact haccess (by simpa using hrecord) (by simpa using houtside) name

theorem objectAccess_eq (hsemantic : b'.cursor semantic = b.cursor semantic)
    (haccess : (b.cursor semantic).kind.isRecord → scope.inRecord = false →
      ∀ name, b'.declaredAccess semantic name = b.declaredAccess semantic name) :
    objectAccess b' scope level semantic name = objectAccess b scope level semantic name := by
  unfold objectAccess
  rw [hsemantic]
  split
  · rfl
  · next houtside =>
    split
    · next hrecord => exact haccess hrecord (by simpa using houtside) name
    · rfl

end Access

theorem cursor_eq {addition : Addition} (h : b.AgreesOn b' (addition.reads b scope)) :
    addition.cursor b' scope = addition.cursor b scope := by
  cases addition with
  | namespaceBlock | enumerator | typeAlias =>
    unfold cursor
    dsimp only
    rw [h.qualify_eq]
  | base level written =>
    unfold cursor
    dsimp only
    rw [h.writtenType_eq]
  | record level template head =>
    have hscope := (h.mono (List.subset_append_left _ _)).resolveScope_eq
    have hqualify := (h.mono (List.subset_append_right _ _)).qualify_eq
    unfold cursor recordCursor
    dsimp only
    rw [hscope, hqualify]
  | enumeration level head =>
    have hscope := (h.mono (List.subset_append_left _ _)).resolveScope_eq
    have hqualify := (h.mono (List.subset_append_right _ _)).qualify_eq
    unfold cursor enumCursor enumType
    dsimp only
    rw [hscope, hqualify]
  | function level form =>
    obtain ⟨hscope, hqualify, hsemantic, haccess⟩ := h.of_memberReads
    unfold cursor functionCursor functionKind
    dsimp only
    rw [hscope, hqualify, functionAccess_eq hsemantic haccess, hsemantic]
  | object level form =>
    obtain ⟨hscope, hqualify, hsemantic, haccess⟩ := h.of_memberReads
    unfold cursor objectCursor
    dsimp only
    rw [hscope, hqualify, objectAccess_eq hsemantic haccess]
  | _ => rfl

end Addition

namespace Lowering
namespace Action

/-- Nothing but the cursors that an action reads has an influence on what it comes to. -/
def IsDeterminedByReads : Action → Prop
  | type b scope written => ∀ b', b.AgreesOn b' (b.typeReads scope written) →
    b'.writtenType written scope = b.writtenType written scope
  | tag b id => ∀ b', b.AgreesOn b' [id] → tagType b' id = tagType b id
  | add b scope addition =>
    let pushed := b.push scope (addition.cursor b scope)
    (∀ b', b.AgreesOn b' (addition.reads b scope) →
      addition.cursor b' scope = addition.cursor b scope)
    ∧ ∀ b', pushed.AgreesOn b' (pushed.registerReads b.nextId) →
      (b'.register b.nextId).names = (pushed.register b.nextId).names

theorem isDeterminedByReads (action : Action) : action.IsDeterminedByReads := by
  cases action with
  | type b scope written =>
    intro b' h
    exact h.writtenType_eq
  | tag b id =>
    intro b' h
    unfold tagType
    rw [h.cursor id List.mem_cons_self]
  | add b scope addition =>
    constructor
    · intro b' h
      exact Addition.cursor_eq h
    · intro b' h
      exact h.register_eq

end Action
end Lowering
end CursorQuery
