import CursorQuery.Proofs.Lowering.Trace

/-!
This module contains the invariant of lowering. The cursors of a unit that is being built are numbered
in pre-order, which means that new ones are only put on the path from the root to the cursor added
last. So the scopes that lowering works in have to lie on this path, and they still do when what is
inside of them has been lowered.
-/

namespace CursorQuery

namespace CursorKind

def isOwner (kind : CursorKind) : Bool :=
  kind == .translationUnit || kind == .namespaceDecl || kind == .linkageSpec || kind.isRecord
    || kind == .enumDecl || kind.isFunctionLike || kind == .typedefDecl || kind == .typeAliasDecl

theorem ne_compoundStmt_of_isOwner {kind : CursorKind} (h : kind.isOwner) : kind ≠ .compoundStmt := by
  rintro rfl
  simp [isOwner, isRecord, isFunctionLike] at h

end CursorKind

namespace Addition

variable {b : Builder} {scope : Scope}

def opens : Addition → Bool
  | .namespaceBlock .. | .linkage .. | .record .. | .enumeration .. | .function .. => true
  | _ => false

def isBody : Addition → Bool
  | .body _ => true
  | _ => false

def Fits (addition : Addition) (b : Builder) (scope : Scope) : Prop :=
  addition.isBody → (b.cursor scope.lexical).kind.isFunctionLike

theorem fits_of_isBody_eq_false {addition : Addition} (h : addition.isBody = false) :
    addition.Fits b scope := by
  intro hbody
  rw [h] at hbody
  contradiction

theorem fits_of_opens {addition : Addition} (h : addition.opens) : addition.Fits b scope := by
  apply fits_of_isBody_eq_false
  cases addition with
  | body site => simp [opens] at h
  | _ => rfl

theorem isRecord_recordCursor (level : Access) (template : List ResolvedParameter)
    (head : RecordHead) : (recordCursor b scope level template head).kind.isRecord := by
  unfold recordCursor
  dsimp only
  split
  · cases head.keyword <;> rfl
  · rfl

theorem isFunctionLike_functionKind (template : List ResolvedParameter) (semantic : Nat)
    (name : String) : (functionKind b template semantic name).isFunctionLike := by
  unfold functionKind
  dsimp only
  repeat' split
  all_goals rfl

theorem isOwner_of_isRegistered {addition : Addition} (h : addition.isRegistered) :
    (addition.cursor b scope).kind.isOwner := by
  cases addition with
  | namespaceBlock name site => rfl
  | enumeration level head => rfl
  | typeAlias level isTypedef name site => cases isTypedef <;> rfl
  | record level template head =>
    simp [cursor, CursorKind.isOwner, isRecord_recordCursor]
  | _ => simp [isRegistered] at h

theorem isOwner_of_opens {addition : Addition} (h : addition.opens) :
    (addition.cursor b scope).kind.isOwner := by
  cases addition with
  | namespaceBlock name site => rfl
  | linkage site => rfl
  | enumeration level head => rfl
  | record level template head =>
    simp [cursor, CursorKind.isOwner, isRecord_recordCursor]
  | function level form =>
    simp [cursor, functionCursor, CursorKind.isOwner, isFunctionLike_functionKind]
  | _ => simp [opens] at h

theorem isBody_of_kind {addition : Addition}
    (h : (addition.cursor b scope).kind = .compoundStmt) : addition.isBody := by
  by_cases hopens : addition.opens
  · exact absurd h (CursorKind.ne_compoundStmt_of_isOwner (isOwner_of_opens hopens))
  · cases addition with
    | body site => rfl
    | parameter resolved =>
      simp only [cursor] at h
      cases hkind : resolved.kind with
      | _ => simp [hkind, ParameterKind.cursorKind] at h
    | object level form =>
      simp only [cursor, objectCursor] at h
      split at h <;> simp at h
    | typeAlias level isTypedef name site => cases isTypedef <;> simp [cursor] at h
    | usingName level isDirective target site => cases isDirective <;> simp [cursor] at h
    | _ => simp [cursor, opens] at h hopens

end Addition

namespace Builder

/-- The cursor that the children of a cursor belong to: the function if it is a body. -/
def ownerOf (b : Builder) (id : Nat) : Nat :=
  if (b.cursor id).kind = .compoundStmt then (b.cursor id).lexicalParent.getD id else id

def openPath (b : Builder) : List Nat :=
  b.lexicalPath (b.nextId - 1)

/-- What holds whenever lowering makes an addition. -/
structure WellFormed (b : Builder) : Prop where
  nextId_pos : 0 < b.nextId
  size_childLists : b.childLists.size = b.nextId
  root_kind : (b.cursor 0).kind = .translationUnit
  root_lexicalParent : (b.cursor 0).lexicalParent = none
  root_semanticParent : (b.cursor 0).semanticParent = none
  lexicalParent : ∀ id, 0 < id → id < b.nextId →
    ∃ parent, (b.cursor id).lexicalParent = some parent ∧ parent ∈ b.lexicalPath (id - 1)
  semanticParent : ∀ id, 0 < id → id < b.nextId →
    ∃ parent, (b.cursor id).semanticParent = some parent ∧ parent < id
      ∧ (b.cursor parent).kind.isOwner
  childrenOf : ∀ id, id < b.nextId →
    b.childrenOf id = (List.range b.nextId).filter fun c => (b.cursor c).lexicalParent = some id
  body : ∀ id, id < b.nextId → (b.cursor id).kind = .compoundStmt →
    ∃ function, (b.cursor id).lexicalParent = some function
      ∧ (b.cursor function).kind.isFunctionLike
  names : ∀ entry ∈ b.names, entry.2 < b.nextId ∧ (b.cursor entry.2).kind.isOwner

end Builder

structure Scope.ValidIn (scope : Scope) (b : Builder) : Prop where
  isOpen : scope.lexical ∈ b.openPath
  owner : scope.semantic = b.ownerOf scope.lexical
  semantic_lt : scope.semantic < b.nextId
  semantic_kind : (b.cursor scope.semantic).kind.isOwner

namespace Builder

variable {b b' : Builder} {scope : Scope} {addition : Addition} {id : Nat}

theorem WellFormed.lexical_lt (hb : b.WellFormed) (hscope : scope.ValidIn b) :
    scope.lexical < b.nextId := by
  have := le_of_mem_lexicalPath hscope.isOpen
  have := hb.nextId_pos
  omega

theorem WellFormed.lexicalParent_lt (hb : b.WellFormed) (hpos : 0 < id) (hid : id < b.nextId) :
    ∃ parent, (b.cursor id).lexicalParent = some parent ∧ parent < id := by
  obtain ⟨parent, hparent, hmem⟩ := hb.lexicalParent id hpos hid
  have := le_of_mem_lexicalPath hmem
  exact ⟨parent, hparent, by omega⟩

theorem lt_of_parent (parent? : Nat → Option Nat) {count parent : Nat} (hroot : parent? 0 = none)
    (hparents : ∀ id, 0 < id → id < count → ∃ parent, parent? id = some parent ∧ parent < id)
    (hid : id < count) (h : parent? id = some parent) : parent < id := by
  cases Nat.eq_zero_or_pos id with
  | inl hzero =>
    rw [hzero, hroot] at h
    contradiction
  | inr hpos =>
    obtain ⟨other, hother, hlt⟩ := hparents id hpos hid
    rw [h] at hother
    obtain rfl := Option.some.inj hother
    exact hlt

theorem WellFormed.lt_of_lexicalParent {parent : Nat} (hb : b.WellFormed) (hid : id < b.nextId)
    (h : (b.cursor id).lexicalParent = some parent) : parent < id :=
  lt_of_parent (fun id => (b.cursor id).lexicalParent) hb.root_lexicalParent
    (fun _ => hb.lexicalParent_lt) hid h

theorem WellFormed.mem_childrenOf {c : Nat} (hb : b.WellFormed) :
    c ∈ b.childrenOf id ↔ c < b.nextId ∧ (b.cursor c).lexicalParent = some id := by
  by_cases hid : id < b.nextId
  · rw [hb.childrenOf id hid]
    simp
  · rw [childrenOf_eq_nil hb.size_childLists (by omega)]
    constructor
    · intro h
      simp at h
    · rintro ⟨hc, hparent⟩
      have := hb.lt_of_lexicalParent hc hparent
      omega

theorem mem_names_of_lookup {name : String} (h : b.names.lookup name = some id) :
    (name, id) ∈ b.names := by
  obtain ⟨newer, older, hnames, -⟩ := List.lookup_eq_some_iff.mp h
  simp [hnames]

theorem mem_names_of_resolve {name : String} {outermost : Nat} (h : b.resolve name outermost = some id) :
    ∃ key, (key, id) ∈ b.names := by
  unfold resolve at h
  split at h
  · exact ⟨_, mem_names_of_lookup h⟩
  · obtain ⟨outer, -, houter⟩ := List.exists_of_findSome?_eq_some h
    exact ⟨_, mem_names_of_lookup houter⟩

theorem WellFormed.resolveScope (hb : b.WellFormed) (hscope : scope.ValidIn b)
    (scopes : List String) :
    b.resolveScope scopes scope < b.nextId ∧ (b.cursor (b.resolveScope scopes scope)).kind.isOwner := by
  unfold Builder.resolveScope
  split
  · exact ⟨hscope.semantic_lt, hscope.semantic_kind⟩
  · cases h : b.resolve (Text.joinScoped scopes) scope.semantic with
    | none => exact ⟨hscope.semantic_lt, hscope.semantic_kind⟩
    | some id =>
      obtain ⟨key, hkey⟩ := mem_names_of_resolve h
      exact hb.names _ hkey

theorem Extends.ownerOf_eq (h : b.Extends b') (hid : id < b.nextId) :
    b'.ownerOf id = b.ownerOf id := by
  unfold ownerOf
  rw [h.cursor_eq id hid]

theorem openPath_add (hb : b.WellFormed) (hscope : scope.ValidIn b) (addition : Addition) :
    (b.add scope addition).openPath = b.nextId :: b.lexicalPath scope.lexical := by
  have hlt := hb.lexical_lt hscope
  have hparent : ((b.add scope addition).cursor b.nextId).lexicalParent = some scope.lexical := by
    rw [cursor_add_nextId]
    rfl
  unfold openPath
  rw [nextId_add, Nat.add_sub_cancel, lexicalPath_eq_cons hparent hlt]
  rw [(b.extends_add scope addition).lexicalPath_eq hlt]

theorem filter_lexicalParent_add (hb : b.WellFormed) (hid : id < b.nextId + 1) :
    (List.range (b.nextId + 1)).filter
        (fun c => ((b.add scope addition).cursor c).lexicalParent = some id) =
      if id = scope.lexical then b.childrenOf id ++ [b.nextId] else b.childrenOf id := by
  have hold : (List.range b.nextId).filter
        (fun c => ((b.add scope addition).cursor c).lexicalParent = some id) = b.childrenOf id := by
    have hsame : (List.range b.nextId).filter
          (fun c => ((b.add scope addition).cursor c).lexicalParent = some id) =
        (List.range b.nextId).filter fun c => (b.cursor c).lexicalParent = some id := by
      apply List.filter_congr
      intro c hc
      rw [cursor_add_of_lt (List.mem_range.mp hc)]
    rw [hsame]
    cases Nat.lt_succ_iff_lt_or_eq.mp hid with
    | inl hid => rw [hb.childrenOf id hid]
    | inr hid =>
      -- Nothing can be a child of the cursor that is just being added.
      rw [childrenOf_eq_nil hb.size_childLists (by omega)]
      apply List.filter_eq_nil_iff.mpr
      intro c hc
      rw [List.mem_range] at hc
      intro hparent
      have := hb.lt_of_lexicalParent hc (of_decide_eq_true hparent)
      omega
  have hnew : ((b.add scope addition).cursor b.nextId).lexicalParent = some scope.lexical := by
    rw [cursor_add_nextId]
    rfl
  rw [List.range_succ, List.filter_append, hold]
  by_cases h : id = scope.lexical
  · simp [hnew, h]
  · simp [hnew, h, Ne.symm h]

theorem wellFormed_add (hb : b.WellFormed) (hscope : scope.ValidIn b)
    (hfits : addition.Fits b scope) : (b.add scope addition).WellFormed := by
  have hpos := hb.nextId_pos
  have hlex := hb.lexical_lt hscope
  have hext := b.extends_add scope addition
  have hroot : (b.add scope addition).cursor 0 = b.cursor 0 :=
    cursor_add_of_lt hpos
  constructor
  · simp
  · exact size_childLists_add_eq hb.size_childLists
  · rw [hroot, hb.root_kind]
  · rw [hroot, hb.root_lexicalParent]
  · rw [hroot, hb.root_semanticParent]
  · intro id hid hlt
    rw [nextId_add] at hlt
    -- The path of the cursor before `id` is there already, and a scope that is open lies on it.
    rw [hext.lexicalPath_eq (by omega)]
    cases Nat.lt_succ_iff_lt_or_eq.mp hlt with
    | inl hlt =>
      rw [cursor_add_of_lt hlt]
      exact hb.lexicalParent id hid hlt
    | inr heq =>
      rw [heq, cursor_add_nextId]
      exact ⟨scope.lexical, rfl, hscope.isOpen⟩
  · intro id hid hlt
    rw [nextId_add] at hlt
    cases Nat.lt_succ_iff_lt_or_eq.mp hlt with
    | inl hlt =>
      rw [cursor_add_of_lt hlt]
      obtain ⟨parent, hparent, hless, hkind⟩ := hb.semanticParent id hid hlt
      refine ⟨parent, hparent, hless, ?_⟩
      rw [cursor_add_of_lt (by omega)]
      exact hkind
    | inr heq =>
      -- The semantic parent is the one of the scope, or it is looked up in the table of names.
      obtain ⟨hless, hkind⟩ := hb.resolveScope hscope addition.scopes
      rw [heq, cursor_add_nextId]
      refine ⟨_, rfl, hless, ?_⟩
      rw [cursor_add_of_lt hless]
      exact hkind
  · intro id hid
    rw [nextId_add] at hid ⊢
    rw [childrenOf_add hb.size_childLists hlex, filter_lexicalParent_add hb hid]
  · intro id hid hkind
    rw [nextId_add] at hid
    cases Nat.lt_succ_iff_lt_or_eq.mp hid with
    | inl hid =>
      rw [cursor_add_of_lt hid] at hkind ⊢
      obtain ⟨function, hparent, hlike⟩ := hb.body id hid hkind
      have := hb.lt_of_lexicalParent hid hparent
      refine ⟨function, hparent, ?_⟩
      rw [cursor_add_of_lt (by omega)]
      exact hlike
    | inr heq =>
      rw [heq, cursor_add_nextId] at hkind ⊢
      refine ⟨scope.lexical, rfl, ?_⟩
      rw [cursor_add_of_lt hlex]
      exact hfits (Addition.isBody_of_kind hkind)
  · intro entry hentry
    rw [nextId_add]
    cases mem_names_add hentry with
    | inl hentry =>
      obtain ⟨hless, hkind⟩ := hb.names entry hentry
      rw [cursor_add_of_lt hless]
      exact ⟨by omega, hkind⟩
    | inr hentry =>
      obtain ⟨hregistered, hid⟩ := hentry
      rw [hid, cursor_add_nextId]
      exact ⟨by omega, Addition.isOwner_of_isRegistered hregistered⟩

end Builder

namespace Scope

open Builder

variable {b b' : Builder} {scope inner : Scope} {addition : Addition}

theorem ValidIn.of_extends (hscope : scope.ValidIn b) (hlt : scope.lexical < b.nextId)
    (hext : b.Extends b') (hopen : scope.lexical ∈ b'.openPath) : scope.ValidIn b' where
  isOpen := hopen
  owner := by rw [hext.ownerOf_eq hlt, hscope.owner]
  semantic_lt := Nat.lt_of_lt_of_le hscope.semantic_lt hext.nextId_le
  semantic_kind := by
    rw [hext.cursor_eq _ hscope.semantic_lt]
    exact hscope.semantic_kind

theorem ValidIn.add (hscope : scope.ValidIn b) (hb : b.WellFormed) (addition : Addition) :
    scope.ValidIn (b.add scope addition) := by
  apply hscope.of_extends (hb.lexical_lt hscope) (b.extends_add scope addition)
  rw [openPath_add hb hscope]
  exact List.mem_cons_of_mem _ (b.mem_lexicalPath_self scope.lexical)

theorem ValidIn.of_inner (hscope : scope.ValidIn b) (hb : b.WellFormed)
    (hext : (b.add scope addition).Extends b') (hopen : b.nextId ∈ b'.openPath) :
    scope.ValidIn b' := by
  have hlt := hb.lexical_lt hscope
  have hext' := (b.extends_add scope addition).trans hext
  -- What is on the path of the addition is on every path that the addition is on.
  apply hscope.of_extends hlt hext'
  apply mem_lexicalPath_trans ?_ hopen
  have hpath := openPath_add hb hscope addition
  unfold openPath at hpath
  rw [nextId_add, Nat.add_sub_cancel] at hpath
  rw [hext.lexicalPath_eq (by simp), hpath]
  exact List.mem_cons_of_mem _ (b.mem_lexicalPath_self scope.lexical)

theorem ValidIn.enter (hscope : scope.ValidIn b) (hb : b.WellFormed) (hopens : addition.opens)
    (hlexical : inner.lexical = b.nextId) (hsemantic : inner.semantic = b.nextId) :
    inner.ValidIn (b.add scope addition) := by
  have hkind : ((b.add scope addition).cursor b.nextId).kind.isOwner := by
    rw [cursor_add_nextId]
    exact Addition.isOwner_of_opens hopens
  constructor
  · rw [openPath_add hb hscope, hlexical]
    exact List.mem_cons_self
  · unfold ownerOf
    rw [hlexical, hsemantic, if_neg (CursorKind.ne_compoundStmt_of_isOwner hkind)]
  · rw [hsemantic, nextId_add]
    omega
  · rw [hsemantic]
    exact hkind

theorem ValidIn.enterBody {function : Nat} (hscope : (Scope.inside function).ValidIn b)
    (hb : b.WellFormed) (site : Site) :
    ({ lexical := b.nextId, semantic := function, inRecord := false } : Scope).ValidIn
      (b.add (.inside function) (.body site)) := by
  -- The body of a function is no owner itself: what is declared there belongs to the function.
  have hadd := hscope.add hb (.body site)
  constructor
  · rw [openPath_add hb hscope]
    exact List.mem_cons_self
  · unfold ownerOf
    rw [cursor_add_nextId]
    rfl
  · exact hadd.semantic_lt
  · exact hadd.semantic_kind

end Scope
end CursorQuery
