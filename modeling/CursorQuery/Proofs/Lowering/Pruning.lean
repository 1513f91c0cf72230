import Mathlib.Data.List.Find
import CursorQuery.Proofs.Lowering.Names
import CursorQuery.Proofs.Lowering.SemanticParent

/-!
This module compares two units that are being built: one of them has what the other has, apart from the
cursors of certain kinds and everything inside of these. Making the same addition to both of them keeps
this up, and so does making an addition of such a kind to the larger one only.
-/

namespace CursorQuery

namespace Cursor

def renumber (f : Nat → Nat) (cursor : Cursor) : Cursor :=
  { cursor with
    semanticParent := cursor.semanticParent.map f
    lexicalParent := cursor.lexicalParent.map f }

theorem renumber_congr {f g : Nat → Nat} {cursor : Cursor}
    (hsemantic : ∀ parent ∈ cursor.semanticParent, f parent = g parent)
    (hlexical : ∀ parent ∈ cursor.lexicalParent, f parent = g parent) :
    cursor.renumber f = cursor.renumber g := by
  unfold renumber
  rw [Option.map_congr hsemantic, Option.map_congr hlexical]

theorem kind_renumber (f : Nat → Nat) (cursor : Cursor) : (cursor.renumber f).kind = cursor.kind :=
  rfl

end Cursor

namespace Scope

def renumber (f : Nat → Nat) (scope : Scope) : Scope :=
  { scope with lexical := f scope.lexical, semantic := f scope.semantic }

end Scope

namespace Builder

variable {b b' r : Builder} {scope : Scope} {addition : Addition} {drop : CursorKind → Bool} {id : Nat}

def isOutside (b : Builder) (kinds : CursorKind → Bool) (id : Nat) : Bool :=
  (b.lexicalPath id).all fun a => !kinds (b.cursor a).kind

def rank (b : Builder) (kinds : CursorKind → Bool) (id : Nat) : Nat :=
  (List.range id).countP (b.isOutside kinds)

section Outside

variable {kinds : CursorKind → Bool}

theorem isOutside_iff :
    b.isOutside kinds id ↔ ∀ a ∈ b.lexicalPath id, kinds (b.cursor a).kind = false := by
  simp [isOutside]

theorem isOutside_of_mem_lexicalPath {a : Nat} (h : b.isOutside kinds id)
    (ha : a ∈ b.lexicalPath id) : b.isOutside kinds a := by
  rw [isOutside_iff] at h ⊢
  exact fun c hc => h c (mem_lexicalPath_trans hc ha)

theorem kind_of_isOutside (h : b.isOutside kinds id) : kinds (b.cursor id).kind = false :=
  isOutside_iff.mp h id (b.mem_lexicalPath_self id)

theorem Extends.isOutside_eq (hext : b.Extends b') (hid : id < b.nextId) :
    b'.isOutside kinds id = b.isOutside kinds id := by
  rw [Bool.eq_iff_iff, isOutside_iff, isOutside_iff, hext.lexicalPath_eq hid]
  apply forall₂_congr
  intro a ha
  have := le_of_mem_lexicalPath ha
  rw [hext.cursor_eq a (by omega)]

theorem Extends.rank_eq (hext : b.Extends b') (hid : id ≤ b.nextId) :
    b'.rank kinds id = b.rank kinds id := by
  unfold rank
  apply List.countP_congr
  intro a ha
  have := List.mem_range.mp ha
  rw [hext.isOutside_eq (by omega)]

theorem isOutside_of_lexicalParent {parent : Nat} (h : (b.cursor id).lexicalParent = some parent)
    (hlt : parent < id) :
    b.isOutside kinds id = (!kinds (b.cursor id).kind && b.isOutside kinds parent) := by
  unfold isOutside
  rw [lexicalPath_eq_cons h hlt, List.all_cons]

theorem isOutside_add_nextId (hlt : scope.lexical < b.nextId) :
    (b.add scope addition).isOutside kinds b.nextId =
      (!kinds (addition.placed b scope).kind && b.isOutside kinds scope.lexical) := by
  have hparent : ((b.add scope addition).cursor b.nextId).lexicalParent = some scope.lexical := by
    rw [cursor_add_nextId]
    rfl
  rw [isOutside_of_lexicalParent hparent hlt, cursor_add_nextId,
    (b.extends_add scope addition).isOutside_eq hlt]

theorem rank_succ (b : Builder) (kinds : CursorKind → Bool) (id : Nat) :
    b.rank kinds (id + 1) = b.rank kinds id + if b.isOutside kinds id then 1 else 0 := by
  unfold rank
  rw [List.range_succ, List.countP_append, List.countP_singleton]

theorem rank_le {id' : Nat} (h : id ≤ id') : b.rank kinds id ≤ b.rank kinds id' :=
  (List.range_sublist.mpr h).countP_le

theorem rank_lt {id' : Nat} (hid : b.isOutside kinds id) (h : id < id') :
    b.rank kinds id < b.rank kinds id' := by
  have hle : b.rank kinds (id + 1) ≤ b.rank kinds id' := rank_le h
  rw [rank_succ, if_pos hid] at hle
  omega

theorem rank_inj {id' : Nat} (hid : b.isOutside kinds id) (hid' : b.isOutside kinds id')
    (h : b.rank kinds id = b.rank kinds id') : id = id' := by
  rcases Nat.lt_trichotomy id id' with hlt | heq | hlt
  · have := rank_lt hid hlt
    omega
  · exact heq
  · have := rank_lt hid' hlt
    omega

end Outside

/--
What names stand for in `r` if it has what is kept of `b`. A name can stand for a dropped cursor in `b`.
Then it does not matter what it stands for in `r`, as long as both are replaced by the same cursors.
-/
structure PrunesNames (drop : CursorKind → Bool) (b r : Builder) : Prop where
  bounded : r.NamesBounded
  absent : ∀ {name}, b.names.lookup name = none → r.names.lookup name = none
  found : ∀ {name id}, b.names.lookup name = some id → b.isOutside drop id →
    r.names.lookup name = some (b.rank drop id)
  hidden : ∀ {name id}, b.names.lookup name = some id → b.isOutside drop id = false →
    (b.cursor id).isDefinition ∨ r.isDefined name = false

/-- `r` has the cursors of `b` that are outside of the kinds to drop, with new numbers. -/
structure Prunes (drop : CursorKind → Bool) (b r : Builder) : Prop where
  nextId : r.nextId = b.rank drop b.nextId
  size_childLists : r.childLists.size = r.nextId
  cursor : ∀ id, id < b.nextId → b.isOutside drop id →
    r.cursor (b.rank drop id) = (b.cursor id).renumber (b.rank drop)
  semanticParent : ∀ id parent, id < b.nextId → b.isOutside drop id →
    (b.cursor id).semanticParent = some parent → b.isOutside drop parent
  childrenOf : ∀ id, id < b.nextId → b.isOutside drop id →
    r.childrenOf (b.rank drop id) = ((b.childrenOf id).filter (b.isOutside drop)).map (b.rank drop)
  names : b.PrunesNames drop r

namespace Prunes

theorem isDefined_eq (h : b.Prunes drop r) (hb : b.WellFormed) {name : String}
    (hname : ∀ id, b.names.lookup name = some id → b.isOutside drop id) :
    r.isDefined name = b.isDefined name := by
  unfold isDefined
  cases hlookup : b.names.lookup name with
  | none => rw [h.names.absent hlookup]
  | some id =>
    have hkept := hname id hlookup
    have hlt := hb.namesBounded _ (mem_names_of_lookup hlookup)
    rw [h.names.found hlookup hkept]
    dsimp only
    rw [h.cursor id hlt hkept]
    rfl

theorem isDefined_eq_false (h : b.Prunes drop r) (hb : b.WellFormed) {name : String}
    (hname : b.isDefined name = false) : r.isDefined name = false := by
  by_cases hkept : ∀ id, b.names.lookup name = some id → b.isOutside drop id
  · rw [h.isDefined_eq hb hkept]
    exact hname
  · simp only [not_forall] at hkept
    obtain ⟨id, hlookup, hdropped⟩ := hkept
    have hdefinition : ¬ (b.cursor id).isDefinition := by simpa [isDefined, hlookup] using hname
    exact (h.names.hidden hlookup (by simpa using hdropped)).resolve_left hdefinition

theorem scopePrefix_of_prefixSearch (h : b.Prunes drop r) (hb : b.WellFormed) {name : String}
    (hsearch : b.PrefixSearch id name) (hkept : b.isOutside drop id) :
    r.scopePrefix (b.rank drop id) = name := by
  induction hsearch with
  | @stop id hid hstop =>
    have hcursor := h.cursor id hid hkept
    have hname : (r.cursor (b.rank drop id)).qualifiedName = (b.cursor id).qualifiedName := by
      rw [hcursor]
      rfl
    rw [← hname]
    cases hstop with
    | inl hroot =>
      apply scopePrefix_of_semanticParent_eq_none
      simp [hcursor, Cursor.renumber, hroot]
    | inr hcounts =>
      apply scopePrefix_of_counts
      rw [hcursor]
      exact hcounts
  | @climb id parent name hid hparent htransparent _ ih =>
    have hcursor := h.cursor id hid hkept
    have hparent_kept := h.semanticParent id parent hid hkept hparent
    have hparent' : (r.cursor (b.rank drop id)).semanticParent = some (b.rank drop parent) := by
      simp [hcursor, Cursor.renumber, hparent]
    have htransparent' : (r.cursor (b.rank drop id)).kind.isTransparent := by
      rw [hcursor]
      exact htransparent
    have hlt := rank_lt hparent_kept (hb.lt_of_semanticParent hid hparent)
    rw [scopePrefix_of_isTransparent hparent' hlt htransparent']
    exact ih hparent_kept

theorem scopePrefix_eq (h : b.Prunes drop r) (hb : b.WellFormed) (hid : id < b.nextId)
    (hkept : b.isOutside drop id) : r.scopePrefix (b.rank drop id) = b.scopePrefix id :=
  h.scopePrefix_of_prefixSearch hb (hb.prefixSearch hid) hkept

theorem qualify_eq (h : b.Prunes drop r) (hb : b.WellFormed) (hid : id < b.nextId)
    (hkept : b.isOutside drop id) (name : String) :
    r.qualify (b.rank drop id) name = b.qualify id name := by
  unfold qualify
  rw [h.scopePrefix_eq hb hid hkept]

theorem resolve_eq (h : b.Prunes drop r) (hb : b.WellFormed) (hid : id < b.nextId)
    (hkept : b.isOutside drop id) {name : String}
    (hfound : ∀ found, b.resolve name id = some found → b.isOutside drop found) :
    r.resolve name (b.rank drop id) = (b.resolve name id).map (b.rank drop) := by
  have hlookup : ∀ key, (∀ found, b.names.lookup key = some found → b.isOutside drop found) →
      r.names.lookup key = (b.names.lookup key).map (b.rank drop) := by
    intro key hkey
    cases hcases : b.names.lookup key with
    | none => exact h.names.absent hcases
    | some found => exact h.names.found hcases (hkey found hcases)
  unfold resolve at hfound ⊢
  split
  · next hglobal =>
    rw [if_pos hglobal] at hfound
    exact hlookup _ hfound
  · next hlocal =>
    rw [if_neg hlocal] at hfound
    rw [h.scopePrefix_eq hb hid hkept]
    generalize enclosingPrefixes (b.scopePrefix id) = prefixes at hfound ⊢
    -- Scope by scope both units find the same, so both searches end at the same scope.
    induction prefixes with
    | nil => rfl
    | cons outer prefixes ih =>
      rw [List.findSome?_cons] at hfound ⊢
      rw [List.findSome?_cons]
      cases houter : b.names.lookup (qualifiedIn outer name) with
      | none =>
        rw [houter] at hfound
        rw [h.names.absent houter]
        exact ih hfound
      | some found =>
        rw [houter] at hfound
        rw [h.names.found houter (hfound found rfl)]
        rfl

end Prunes

def typeFinds (b : Builder) (scope : Nat) : WrittenType → List Nat
  | .known _ => []
  | .named name | .tagged _ name => (b.resolve name scope).toList
  | .template name? _ => name?.toList.flatMap fun name => (b.resolve name scope).toList

def scopeFinds (b : Builder) (scopes : List String) (scope : Scope) : List Nat :=
  if scopes.isEmpty then [] else (b.resolve (Text.joinScoped scopes) scope.semantic).toList

def declaration? (b : Builder) (name : ScopedName) (scope : Scope) : Option Nat :=
  let semantic := b.resolveScope name.scopes scope
  if (b.cursor semantic).kind.isRecord && !scope.inRecord then
    (b.childrenOf semantic).find? (b.declares name.name)
  else none

end Builder

namespace Addition

def finds (b : Builder) (scope : Scope) : Addition → List Nat
  | .base _ written => b.typeFinds scope.semantic written.type
  | addition => b.scopeFinds addition.scopes scope

def declaration? (b : Builder) (scope : Scope) : Addition → Option Nat
  | .function _ form => b.declaration? form.declarator.name scope
  | .object _ form => b.declaration? form.declarator.name scope
  | _ => none

structure FindsKept (addition : Addition) (drop : CursorKind → Bool) (b : Builder) (scope : Scope) :
    Prop where
  finds : ∀ found ∈ addition.finds b scope, b.isOutside drop found
  declaration : ∀ found ∈ addition.declaration? b scope, b.isOutside drop found

theorem FindsKept.of_eq_nil {addition : Addition} {drop : CursorKind → Bool} {b : Builder}
    {scope : Scope} (hfinds : addition.finds b scope = [])
    (hdeclaration : addition.declaration? b scope = none) : addition.FindsKept drop b scope where
  finds := by simp [hfinds]
  declaration := by simp [hdeclaration]

end Addition

namespace Builder

variable {b b' r : Builder} {scope scope' : Scope} {addition : Addition} {drop : CursorKind → Bool}
  {id : Nat}

/--
Lowering is in a scope that is kept, and `r` and `scope'` are what is left of the unit and of the scope.
-/
structure Follows (drop : CursorKind → Bool) (b : Builder) (scope : Scope) (r : Builder)
    (scope' : Scope) : Prop where
  wellFormed : b.WellFormed
  validIn : scope.ValidIn b
  kept : b.isOutside drop scope.lexical
  prunes : b.Prunes drop r
  scope_eq : scope' = scope.renumber (b.rank drop)

namespace Follows

theorem semantic_kept (h : Follows drop b scope r scope') : b.isOutside drop scope.semantic := by
  have hlt := h.wellFormed.lexical_lt h.validIn
  rw [h.validIn.owner]
  unfold ownerOf
  split
  · next hkind =>
    obtain ⟨function, hparent, -⟩ := h.wellFormed.body _ hlt hkind
    apply isOutside_of_mem_lexicalPath h.kept
    rw [hparent, lexicalPath_eq_cons hparent (h.wellFormed.lt_of_lexicalParent hlt hparent)]
    exact List.mem_cons_of_mem _ (b.mem_lexicalPath_self function)
  · exact h.kept

theorem resolve_eq (h : Follows drop b scope r scope') {name : String}
    (hfound : ∀ found ∈ b.resolve name scope.semantic, b.isOutside drop found) :
    r.resolve name scope'.semantic = (b.resolve name scope.semantic).map (b.rank drop) := by
  rw [h.scope_eq]
  exact h.prunes.resolve_eq h.wellFormed h.validIn.semantic_lt h.semantic_kept hfound

theorem namedType_eq (h : Follows drop b scope r scope') {name : String}
    (hfound : ∀ found ∈ b.resolve name scope.semantic, b.isOutside drop found) :
    r.namedType name scope'.semantic = b.namedType name scope.semantic := by
  unfold namedType
  rw [h.resolve_eq hfound]
  cases hresolve : b.resolve name scope.semantic with
  | none => rfl
  | some found =>
    obtain ⟨key, hkey⟩ := mem_names_of_resolve hresolve
    have hcursor := h.prunes.cursor found (h.wellFormed.names _ hkey).1 (hfound found hresolve)
    simp only [Option.map_some, hcursor]
    rfl

theorem writtenType_eq (h : Follows drop b scope r scope') {written : WrittenType}
    (hfinds : ∀ found ∈ b.typeFinds scope.semantic written, b.isOutside drop found) :
    r.writtenType written scope'.semantic = b.writtenType written scope.semantic := by
  cases written with
  | known type => rfl
  | named name => exact h.namedType_eq (by simpa [typeFinds] using hfinds)
  | tagged fallback name =>
    have hfound : ∀ found ∈ b.resolve name scope.semantic, b.isOutside drop found := by
      simpa [typeFinds] using hfinds
    unfold writtenType
    dsimp only
    rw [h.resolve_eq hfound, h.namedType_eq hfound]
    cases b.resolve name scope.semantic with
    | none => rfl
    | some found => rfl
  | template name? arguments =>
    cases name? with
    | none => rfl
    | some name =>
      have hfound : ∀ found ∈ b.resolve name scope.semantic, b.isOutside drop found := by
        simpa [typeFinds] using hfinds
      unfold writtenType
      simp only [Option.map_some, h.namedType_eq hfound]

theorem resolveScope_eq (h : Follows drop b scope r scope') {scopes : List String}
    (hfinds : ∀ found ∈ b.scopeFinds scopes scope, b.isOutside drop found) :
    r.resolveScope scopes scope' = b.rank drop (b.resolveScope scopes scope)
      ∧ b.isOutside drop (b.resolveScope scopes scope) := by
  have hsemantic : scope'.semantic = b.rank drop scope.semantic := by
    rw [h.scope_eq]
    rfl
  unfold resolveScope
  unfold scopeFinds at hfinds
  split
  · exact ⟨hsemantic, h.semantic_kept⟩
  · next hwritten =>
    rw [if_neg hwritten] at hfinds
    have hfound : ∀ found ∈ b.resolve (Text.joinScoped scopes) scope.semantic,
        b.isOutside drop found := by simpa using hfinds
    rw [h.resolve_eq hfound]
    cases hresolve : b.resolve (Text.joinScoped scopes) scope.semantic with
    | none => exact ⟨hsemantic, h.semantic_kept⟩
    | some found => exact ⟨rfl, hfound found hresolve⟩

end Follows

theorem find?_filter_of_found {l : List Nat} {p q : Nat → Bool} (h : ∀ x ∈ l.find? p, q x) :
    (l.filter q).find? p = l.find? p := by
  induction l with
  | nil => rfl
  | cons x l ih =>
    by_cases hp : p x
    · have hq : q x := h x (by simp [hp])
      simp [hp, hq]
    · rw [List.find?_cons_of_neg hp] at h ⊢
      rw [← ih h, List.filter_cons]
      split
      · rw [List.find?_cons_of_neg hp]
      · rfl

theorem Prunes.declaredAccess_eq (h : b.Prunes drop r) (hb : b.WellFormed) (hid : id < b.nextId)
    (hkept : b.isOutside drop id) {spelling : String}
    (hfound : ∀ found ∈ (b.childrenOf id).find? (b.declares spelling), b.isOutside drop found) :
    r.declaredAccess (b.rank drop id) spelling = b.declaredAccess id spelling := by
  have hcursor : ∀ c ∈ b.childrenOf id, b.isOutside drop c →
      r.cursor (b.rank drop c) = (b.cursor c).renumber (b.rank drop) :=
    fun c hc hc' => h.cursor c (hb.mem_childrenOf.mp hc).1 hc'
  have hdeclares : ∀ c ∈ (b.childrenOf id).filter (b.isOutside drop),
      (r.declares spelling ∘ b.rank drop) c = b.declares spelling c := by
    intro c hc
    rw [List.mem_filter] at hc
    simp only [Function.comp_apply, declares, hcursor c hc.1 hc.2]
    rfl
  have hfind : (r.childrenOf (b.rank drop id)).find? (r.declares spelling) =
      ((b.childrenOf id).find? (b.declares spelling)).map (b.rank drop) := by
    rw [h.childrenOf id hid hkept, List.find?_map, List.find?_congr hdeclares,
      find?_filter_of_found hfound]
  unfold declaredAccess
  rw [hfind]
  cases hfirst : (b.childrenOf id).find? (b.declares spelling) with
  | none => rfl
  | some c =>
    have hc := List.mem_of_find?_eq_some hfirst
    simp only [Option.map_some, hcursor c hc (hfound c hfirst)]
    rfl

end Builder

namespace Addition

open Builder

variable {b r : Builder} {scope scope' : Scope} {addition : Addition} {drop : CursorKind → Bool}

theorem member_eq (h : Follows drop b scope r scope') {name : ScopedName}
    (hfinds : ∀ found ∈ b.scopeFinds name.scopes scope, b.isOutside drop found)
    (hdeclaration : ∀ found ∈ b.declaration? name scope, b.isOutside drop found) :
    let semantic := b.resolveScope name.scopes scope
    r.resolveScope name.scopes scope' = b.rank drop semantic
      ∧ r.qualify (b.rank drop semantic) name.name = b.qualify semantic name.name
      ∧ r.cursor (b.rank drop semantic) = (b.cursor semantic).renumber (b.rank drop)
      ∧ ((b.cursor semantic).kind.isRecord → scope.inRecord = false →
        r.declaredAccess (b.rank drop semantic) name.name = b.declaredAccess semantic name.name) := by
  intro semantic
  obtain ⟨hscope, hkept⟩ := h.resolveScope_eq hfinds
  obtain ⟨hlt, -⟩ := h.wellFormed.resolveScope h.validIn name.scopes
  refine ⟨hscope, h.prunes.qualify_eq h.wellFormed hlt hkept _, h.prunes.cursor _ hlt hkept, ?_⟩
  intro hrecord houtside
  apply h.prunes.declaredAccess_eq h.wellFormed hlt hkept
  unfold Builder.declaration? at hdeclaration
  simpa [semantic, hrecord, houtside] using hdeclaration

theorem qualify_follows (h : Follows drop b scope r scope') (name : String) :
    r.qualify scope'.semantic name = b.qualify scope.semantic name := by
  rw [h.scope_eq]
  exact h.prunes.qualify_eq h.wellFormed h.validIn.semantic_lt h.semantic_kept name

theorem inRecord_follows (h : Follows drop b scope r scope') : scope'.inRecord = scope.inRecord := by
  rw [h.scope_eq]
  rfl

theorem memberAccess_follows (h : Follows drop b scope r scope') (level : Access) :
    scope'.memberAccess level = scope.memberAccess level := by
  unfold Scope.memberAccess
  rw [inRecord_follows h]

theorem functionCursor_follows (h : Follows drop b scope r scope') {level : Access}
    {form : FunctionForm} (hfinds : (Addition.function level form).FindsKept drop b scope) :
    functionCursor r scope' level form =
      (functionCursor b scope level form).renumber (b.rank drop) := by
  obtain ⟨hscope, hqualify, hsemantic, haccess⟩ := member_eq h hfinds.finds hfinds.declaration
  have hkind : functionKind r form.template
        (b.rank drop (b.resolveScope form.declarator.name.scopes scope)) form.declarator.name.name =
      functionKind b form.template (b.resolveScope form.declarator.name.scopes scope)
        form.declarator.name.name := by
    unfold functionKind
    rw [hsemantic]
    rfl
  have hlevel : functionAccess r scope' level
        (b.rank drop (b.resolveScope form.declarator.name.scopes scope)) form.declarator.name.name =
      functionAccess b scope level (b.resolveScope form.declarator.name.scopes scope)
        form.declarator.name.name := by
    unfold functionAccess
    rw [hsemantic, inRecord_follows h, Cursor.kind_renumber]
    split
    · rfl
    · next hrecord =>
      split
      · rfl
      · next houtside => exact haccess (by simpa using hrecord) (by simpa using houtside)
  unfold functionCursor
  simp only [hscope, hqualify, hkind, hlevel]
  rfl

theorem objectCursor_follows (h : Follows drop b scope r scope') {level : Access}
    {form : ObjectForm} (hfinds : (Addition.object level form).FindsKept drop b scope) :
    objectCursor r scope' level form =
      (objectCursor b scope level form).renumber (b.rank drop) := by
  obtain ⟨hscope, hqualify, hsemantic, haccess⟩ := member_eq h hfinds.finds hfinds.declaration
  have hlevel : objectAccess r scope' level
        (b.rank drop (b.resolveScope form.declarator.name.scopes scope)) form.declarator.name.name =
      objectAccess b scope level (b.resolveScope form.declarator.name.scopes scope)
        form.declarator.name.name := by
    unfold objectAccess
    rw [hsemantic, inRecord_follows h, Cursor.kind_renumber]
    split
    · rfl
    · next houtside =>
      split
      · next hrecord => exact haccess hrecord (by simpa using houtside)
      · rfl
  unfold objectCursor
  simp only [hscope, hqualify, hlevel, inRecord_follows h]
  rfl

theorem tag_follows (h : Follows drop b scope r scope') {scopes : List String}
    (hfinds : ∀ found ∈ b.scopeFinds scopes scope, b.isOutside drop found) :
    let semantic := b.resolveScope scopes scope
    r.resolveScope scopes scope' = b.rank drop semantic
      ∧ ∀ name, r.qualify (b.rank drop semantic) name = b.qualify semantic name := by
  obtain ⟨hscope, hkept⟩ := h.resolveScope_eq hfinds
  obtain ⟨hlt, -⟩ := h.wellFormed.resolveScope h.validIn scopes
  exact ⟨hscope, h.prunes.qualify_eq h.wellFormed hlt hkept⟩

theorem enumType_follows (h : Follows drop b scope r scope') {level : Access} {head : EnumHead}
    (hfinds : (Addition.enumeration level head).FindsKept drop b scope) :
    enumType r scope' head = enumType b scope head := by
  obtain ⟨hscope, hqualify⟩ := tag_follows h hfinds.finds
  simp only [scopes] at hscope hqualify
  simp only [enumType, hscope, hqualify]

theorem cursor_follows (h : Follows drop b scope r scope') (hfinds : addition.FindsKept drop b scope) :
    addition.cursor r scope' = (addition.cursor b scope).renumber (b.rank drop) := by
  cases addition with
  | namespaceBlock name site | enumerator type written =>
    simp only [cursor, qualify_follows h]
    rfl
  | typeAlias level isTypedef name site =>
    simp only [cursor, qualify_follows h, memberAccess_follows h]
    rfl
  | usingName level isDirective target site =>
    simp only [cursor, memberAccess_follows h]
    rfl
  | base level written =>
    simp only [cursor, h.writtenType_eq hfinds.finds]
    rfl
  | record level template head =>
    obtain ⟨hscope, hqualify⟩ := tag_follows h hfinds.finds
    simp only [scopes] at hscope hqualify
    simp only [cursor, recordCursor, hscope, hqualify, memberAccess_follows h]
    rfl
  | enumeration level head =>
    obtain ⟨hscope, -⟩ := tag_follows h hfinds.finds
    simp only [scopes] at hscope
    simp only [cursor, enumCursor, enumType_follows h hfinds, hscope, memberAccess_follows h]
    rfl
  | function level form => exact functionCursor_follows h hfinds
  | object level form => exact objectCursor_follows h hfinds
  | _ => rfl

theorem placed_follows (h : Follows drop b scope r scope') (hfinds : addition.FindsKept drop b scope) :
    addition.placed r scope' = (addition.placed b scope).renumber (b.rank drop)
      ∧ b.isOutside drop (b.resolveScope addition.scopes scope) := by
  have hscopes : ∀ found ∈ b.scopeFinds addition.scopes scope, b.isOutside drop found := by
    have hfinds := hfinds.finds
    cases addition with
    | base level written => simp [scopes, scopeFinds]
    | _ => exact hfinds
  obtain ⟨hscope, hkept⟩ := h.resolveScope_eq hscopes
  refine ⟨?_, hkept⟩
  unfold placed
  rw [cursor_follows h hfinds, hscope, h.scope_eq]
  rfl

end Addition

namespace Builder

variable {b b' r : Builder} {scope scope' : Scope} {addition : Addition} {drop : CursorKind → Bool}

section Extends

variable {r' : Builder} {id : Nat} (hext : b.Extends b') (hb : b.WellFormed)

include hext hb

theorem Extends.renumber_eq (hid : id < b.nextId) :
    (b.cursor id).renumber (b'.rank drop) = (b.cursor id).renumber (b.rank drop) := by
  apply Cursor.renumber_congr
  · intro parent hparent
    have := hb.lt_of_semanticParent hid hparent
    exact hext.rank_eq (by omega)
  · intro parent hparent
    have := hb.lt_of_lexicalParent hid hparent
    exact hext.rank_eq (by omega)

theorem Prunes.cursor_of_extends (h : b.Prunes drop r) (hext' : r.Extends r') (hid : id < b.nextId)
    (hkept : b'.isOutside drop id) :
    r'.cursor (b'.rank drop id) = (b'.cursor id).renumber (b'.rank drop) := by
  rw [hext.isOutside_eq hid] at hkept
  have hlt : b.rank drop id < r.nextId := by
    rw [h.nextId]
    exact rank_lt hkept hid
  rw [hext.rank_eq (by omega), hext'.cursor_eq _ hlt, h.cursor id hid hkept, hext.cursor_eq id hid,
    hext.renumber_eq hb hid]

theorem Prunes.semanticParent_of_extends (h : b.Prunes drop r) (hid : id < b.nextId)
    (hkept : b'.isOutside drop id) {parent : Nat}
    (hparent : (b'.cursor id).semanticParent = some parent) : b'.isOutside drop parent := by
  rw [hext.isOutside_eq hid] at hkept
  rw [hext.cursor_eq id hid] at hparent
  have hlt := hb.lt_of_semanticParent hid hparent
  rw [hext.isOutside_eq (by omega)]
  exact h.semanticParent id parent hid hkept hparent

theorem map_rank_childrenOf (id : Nat) :
    ((b.childrenOf id).filter (b'.isOutside drop)).map (b'.rank drop) =
      ((b.childrenOf id).filter (b.isOutside drop)).map (b.rank drop) := by
  have hlt : ∀ c ∈ b.childrenOf id, c < b.nextId := fun c hc => (hb.mem_childrenOf.mp hc).1
  rw [List.filter_congr fun c hc => hext.isOutside_eq (hlt c hc)]
  apply List.map_congr_left
  intro c hc
  have := hlt c (List.mem_filter.mp hc).1
  exact hext.rank_eq (by omega)

end Extends

theorem Prunes.names_add_dropped (h : b.Prunes drop r) (hb : b.WellFormed)
    (hdropped : (b.add scope addition).isOutside drop b.nextId = false) :
    (b.add scope addition).PrunesNames drop r := by
  have hext := b.extends_add scope addition
  have hold : ∀ {name id}, b.names.lookup name = some id → id < b.nextId :=
    fun hlookup => hb.namesBounded _ (mem_names_of_lookup hlookup)
  constructor
  · exact h.names.bounded
  · intro name hlookup
    rw [lookup_names_add hb.namesBounded] at hlookup
    split at hlookup
    · contradiction
    · exact h.names.absent hlookup
  · intro name id hlookup hkept
    rw [lookup_names_add hb.namesBounded] at hlookup
    split at hlookup
    · obtain rfl := Option.some.inj hlookup
      rw [hdropped] at hkept
      contradiction
    · have hid := hold hlookup
      rw [hext.isOutside_eq hid] at hkept
      rw [hext.rank_eq (by omega)]
      exact h.names.found hlookup hkept
  · intro name id hlookup hdropped'
    rw [lookup_names_add hb.namesBounded] at hlookup
    split at hlookup
    · next hnew =>
      obtain rfl := Option.some.inj hlookup
      rw [cursor_add_nextId, hnew.2]
      exact (Addition.isEntered_iff.mp hnew.1).2.2.imp_right (h.isDefined_eq_false hb)
    · have hid := hold hlookup
      rw [hext.isOutside_eq hid] at hdropped'
      rw [hext.cursor_eq id hid]
      exact h.names.hidden hlookup hdropped'

theorem Prunes.add_dropped (h : b.Prunes drop r) (hb : b.WellFormed) (hscope : scope.ValidIn b)
    (hdropped : (b.add scope addition).isOutside drop b.nextId = false) :
    (b.add scope addition).Prunes drop r := by
  have hext := b.extends_add scope addition
  have hlexical := hb.lexical_lt hscope
  -- The new cursor is the only one that was not there before, and it is not kept.
  have hold : ∀ id, id < (b.add scope addition).nextId → (b.add scope addition).isOutside drop id →
      id < b.nextId := by
    intro id hid hkept
    rw [nextId_add] at hid
    have hne : id ≠ b.nextId := by
      rintro rfl
      rw [hdropped] at hkept
      contradiction
    omega
  constructor
  · rw [nextId_add, rank_succ, hdropped, hext.rank_eq (Nat.le_refl _), h.nextId]
    rfl
  · exact h.size_childLists
  · intro id hid hkept
    exact h.cursor_of_extends hext hb (.refl r) (hold id hid hkept) hkept
  · intro id parent hid hkept hparent
    exact h.semanticParent_of_extends hext hb (hold id hid hkept) hkept hparent
  · intro id hid hkept
    have hid := hold id hid hkept
    rw [hext.isOutside_eq hid] at hkept
    rw [hext.rank_eq (by omega), h.childrenOf id hid hkept, childrenOf_add hb.size_childLists hlexical]
    split
    · rw [List.filter_append, List.filter_cons_of_neg (by simp [hdropped]), List.filter_nil,
        List.append_nil, map_rank_childrenOf hext hb]
    · rw [map_rank_childrenOf hext hb]
  · exact h.names_add_dropped hb hdropped

section AddKept

variable (h : Follows drop b scope r scope') (hfinds : addition.FindsKept drop b scope)

include h hfinds

theorem Follows.isEntered (hentered : addition.isEntered b scope) : addition.isEntered r scope' := by
  obtain ⟨hplaced, -⟩ := Addition.placed_follows h hfinds
  rw [Addition.isEntered_iff] at hentered ⊢
  rw [hplaced]
  exact ⟨hentered.1, hentered.2.1,
    hentered.2.2.imp_right (h.prunes.isDefined_eq_false h.wellFormed)⟩

theorem Follows.isEntered_iff
    (hname : ∀ id, b.names.lookup (addition.placed b scope).qualifiedName = some id →
      b.isOutside drop id) : addition.isEntered r scope' ↔ addition.isEntered b scope := by
  obtain ⟨hplaced, -⟩ := Addition.placed_follows h hfinds
  have hdefined := h.prunes.isDefined_eq h.wellFormed hname
  rw [Addition.isEntered_iff, Addition.isEntered_iff, hplaced, ← hdefined]
  rfl

theorem Follows.names_add (hkept : (b.add scope addition).isOutside drop b.nextId) :
    (b.add scope addition).PrunesNames drop (r.add scope' addition) := by
  have hext := b.extends_add scope addition
  have hbounded := h.wellFormed.namesBounded
  have hold : ∀ {name id}, b.names.lookup name = some id → id < b.nextId :=
    fun hlookup => hbounded _ (mem_names_of_lookup hlookup)
  have hrank : (b.add scope addition).rank drop b.nextId = r.nextId := by
    rw [hext.rank_eq (Nat.le_refl _), h.prunes.nextId]
  have hqualified : (addition.placed r scope').qualifiedName =
      (addition.placed b scope).qualifiedName := by
    rw [(Addition.placed_follows h hfinds).1]
    rfl
  -- A name that does not get a new entry in `b` gets none in `r`, unless it stands for a dropped cursor.
  have hsame : ∀ {name}, (∀ id, b.names.lookup name = some id → b.isOutside drop id) →
      ¬ (addition.isEntered b scope ∧ name = (addition.placed b scope).qualifiedName) →
      ¬ (addition.isEntered r scope' ∧ name = (addition.placed b scope).qualifiedName) := by
    rintro name hname hnot ⟨hentered, rfl⟩
    exact hnot ⟨(h.isEntered_iff hfinds hname).mp hentered, rfl⟩
  constructor
  · exact h.prunes.names.bounded.add scope' addition
  · intro name hlookup
    rw [lookup_names_add hbounded] at hlookup
    split at hlookup
    · contradiction
    · next hnot =>
      rw [lookup_names_add h.prunes.names.bounded, hqualified,
        if_neg (hsame (by simp [hlookup]) hnot)]
      exact h.prunes.names.absent hlookup
  · intro name id hlookup hid_kept
    rw [lookup_names_add hbounded] at hlookup
    rw [lookup_names_add h.prunes.names.bounded, hqualified]
    split at hlookup
    · next hnew =>
      obtain rfl := Option.some.inj hlookup
      rw [if_pos ⟨h.isEntered hfinds hnew.1, hnew.2⟩, hrank]
    · next hnot =>
      have hid := hold hlookup
      rw [hext.isOutside_eq hid] at hid_kept
      rw [if_neg (hsame (by simp [hlookup, hid_kept]) hnot), hext.rank_eq (by omega)]
      exact h.prunes.names.found hlookup hid_kept
  · intro name id hlookup hdropped
    rw [lookup_names_add hbounded] at hlookup
    split at hlookup
    · obtain rfl := Option.some.inj hlookup
      rw [hkept] at hdropped
      contradiction
    · next hnot =>
      have hid := hold hlookup
      rw [hext.isOutside_eq hid] at hdropped
      rw [hext.cursor_eq id hid, isDefined_add h.prunes.names.bounded, hqualified]
      split
      · next hnew =>
        -- It is entered in `r` only, so it is no definition.
        have hentered := Addition.isEntered_iff.mp hnew.1
        rw [(Addition.placed_follows h hfinds).1] at hentered ⊢
        right
        by_contra hdefinition
        apply hnot
        exact ⟨Addition.isEntered_iff.mpr
            ⟨hentered.1, hentered.2.1, .inl (Bool.eq_true_of_not_eq_false hdefinition)⟩,
          hnew.2⟩
      · exact h.prunes.names.hidden hlookup hdropped

end AddKept

theorem Follows.prunes_add (h : Follows drop b scope r scope')
    (hfinds : addition.FindsKept drop b scope)
    (hkind : drop (addition.placed b scope).kind = false) :
    (b.add scope addition).Prunes drop (r.add scope' addition) := by
  have hext := b.extends_add scope addition
  have hext' := r.extends_add scope' addition
  have hb := h.wellFormed
  have hlexical := hb.lexical_lt h.validIn
  have hlexical' : scope'.lexical = b.rank drop scope.lexical := by
    rw [h.scope_eq]
    rfl
  have hkept : (b.add scope addition).isOutside drop b.nextId := by
    rw [isOutside_add_nextId hlexical, hkind, h.kept]
    rfl
  -- The new cursor is kept, so in the other unit it gets the next number as well.
  have hrank : (b.add scope addition).rank drop b.nextId = r.nextId := by
    rw [hext.rank_eq (Nat.le_refl _), h.prunes.nextId]
  obtain ⟨hplaced, hsemantic⟩ := Addition.placed_follows h hfinds
  obtain ⟨hsemantic_lt, -⟩ := hb.resolveScope h.validIn addition.scopes
  constructor
  · rw [nextId_add, nextId_add, rank_succ, hkept, hrank]
    rfl
  · exact size_childLists_add_eq h.prunes.size_childLists
  · intro id hid hid_kept
    rw [nextId_add] at hid
    cases Nat.lt_succ_iff_lt_or_eq.mp hid with
    | inl hid => exact h.prunes.cursor_of_extends hext hb hext' hid hid_kept
    | inr heq =>
      rw [heq, hrank, cursor_add_nextId, cursor_add_nextId, hplaced]
      simp only [Cursor.renumber, Addition.placed, Option.map_some,
        hext.rank_eq (Nat.le_of_lt hlexical), hext.rank_eq (Nat.le_of_lt hsemantic_lt)]
  · intro id parent hid hid_kept hparent
    rw [nextId_add] at hid
    cases Nat.lt_succ_iff_lt_or_eq.mp hid with
    | inl hid => exact h.prunes.semanticParent_of_extends hext hb hid hid_kept hparent
    | inr heq =>
      rw [heq, cursor_add_nextId] at hparent
      obtain rfl := Option.some.inj hparent
      rw [hext.isOutside_eq hsemantic_lt]
      exact hsemantic
  · intro id hid hid_kept
    rw [nextId_add] at hid
    have hlexical_lt : scope'.lexical < r.nextId := by
      rw [hlexical', h.prunes.nextId]
      exact rank_lt h.kept hlexical
    rw [childrenOf_add h.prunes.size_childLists hlexical_lt, childrenOf_add hb.size_childLists hlexical]
    cases Nat.lt_succ_iff_lt_or_eq.mp hid with
    | inl hid =>
      rw [hext.isOutside_eq hid] at hid_kept
      rw [hext.rank_eq (Nat.le_of_lt hid), hlexical', h.prunes.childrenOf id hid hid_kept]
      -- Only the cursor around the new one gets a child. As kept cursors have different numbers, it
      -- is the same one in both units.
      by_cases hparent : id = scope.lexical
      · rw [if_pos (by rw [hparent]), if_pos hparent, List.filter_append, List.map_append,
          map_rank_childrenOf hext hb]
        simp [hkept, hrank]
      · have hparent' : b.rank drop id ≠ b.rank drop scope.lexical :=
          fun heq => hparent (rank_inj hid_kept h.kept heq)
        rw [if_neg hparent', if_neg hparent, map_rank_childrenOf hext hb]
    | inr heq =>
      rw [heq, hrank, if_neg (by omega), if_neg (by omega),
        childrenOf_eq_nil h.prunes.size_childLists (Nat.le_refl _),
        childrenOf_eq_nil hb.size_childLists (Nat.le_refl _)]
      rfl
  · exact h.names_add hfinds hkept

end Builder
end CursorQuery
