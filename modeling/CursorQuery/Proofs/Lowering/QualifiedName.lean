import Mathlib.Tactic.Choose
import CursorQuery.Proofs.Lowering.Names
import CursorQuery.Proofs.Lowering.Origin
import CursorQuery.Proofs.Lowering.SemanticParent
import CursorQuery.Proofs.Source.Position

/-!
This module contains what qualified names say. A qualified name is made up when its cursor is added,
from the qualified name of one scope. That it lists all the scopes around the cursor follows by going
up from the cursor, because a cursor that others belong to never lacks a name of its own.
-/

namespace CursorQuery

namespace CursorKind

def isNamed (kind : CursorKind) : Bool :=
  kind == .namespaceDecl || kind.isRecord || kind == .enumDecl || kind == .enumConstantDecl
    || kind == .fieldDecl || kind == .varDecl || kind.isFunctionLike || kind == .typedefDecl
    || kind == .typeAliasDecl

def isLabelled (kind : CursorKind) : Bool :=
  kind == .namespaceDecl || kind.isRecord || kind == .enumDecl

/-- The kinds of cursors that introduce a type. A template does not, only its instances are types. -/
def introducesType (kind : CursorKind) : Bool :=
  kind.isRecord && kind != .classTemplate || kind == .enumDecl || kind == .typedefDecl
    || kind == .typeAliasDecl

def keywords : CursorKind → List String
  | .classDecl => ["class"]
  | .structDecl => ["struct"]
  | .unionDecl => ["union"]
  | .classTemplate => ["class", "struct", "union"]
  | .enumDecl => ["enum"]
  | _ => []

theorem isNamed_of_isOwner {kind : CursorKind} (howner : kind.isOwner) (hroot : kind ≠ .translationUnit)
    (hcounts : kind.isTransparent = false) : kind.isNamed := by
  cases kind with
  | translationUnit => contradiction
  | linkageSpec => contradiction
  | _ => simp_all [isOwner, isNamed, isTransparent, isRecord, isFunctionLike]

theorem isLabelled_of_isScope {kind : CursorKind} (hscope : kind.isScope)
    (hroot : kind ≠ .translationUnit) (hcounts : kind.isTransparent = false) : kind.isLabelled := by
  cases kind with
  | translationUnit => contradiction
  | linkageSpec => contradiction
  | _ => simp_all [isScope, isLabelled, isTransparent, isRecord, isFunctionLike]

end CursorKind

namespace ParseTree

variable {tree : ParseTree}

theorem label_of_kind_eq_record {keyword : RecordKeyword} (h : tree.kind = .record keyword) :
    tree.info.label = Addition.keywordText keyword ++ "_specifier" := by
  unfold kind NodeKind.ofLabel at h
  split at h
  all_goals first
    | contradiction
    | next hlabel =>
      obtain rfl := NodeKind.record.inj h
      exact hlabel

theorem label_of_kind_eq_enumeration (h : tree.kind = .enumeration) :
    tree.info.label = "enum_specifier" := by
  unfold kind NodeKind.ofLabel at h
  split at h
  all_goals first
    | contradiction
    | next hlabel => exact hlabel

end ParseTree

/-- What a cursor is called in qualified names. -/
inductive HasComponent (source : Source) (tree : ParseTree) (cursor : Cursor) : String → Prop where
  | spelled (h : cursor.spelling ≠ "" ∨ cursor.kind.isLabelled = false) :
      HasComponent source tree cursor cursor.spelling
  | anonymousNamespace (hname : cursor.spelling = "") (hkind : cursor.kind = .namespaceDecl) :
      HasComponent source tree cursor "(anonymous namespace)"
  | unnamed {specifier : ParseTree} {keyword : String} {start : Location}
      (hname : cursor.spelling = "") (hkeyword : keyword ∈ cursor.kind.keywords)
      (hwritten : tree.Contains specifier) (hlabel : specifier.info.label = keyword ++ "_specifier")
      (hspan : cursor.span = some specifier.span) (hstart : start.IsStartOf source specifier) :
      HasComponent source tree cursor ("(unnamed " ++ keyword ++ " at " ++ source.path ++ ":"
        ++ toString start.line ++ ":" ++ toString start.column ++ ")")

theorem HasComponent.of_unnamedLabel {source : Source} {tree specifier : ParseTree} {cursor : Cursor}
    {keyword : String} (hname : cursor.spelling = "") (hkeyword : keyword ∈ cursor.kind.keywords)
    (hwritten : tree.Contains specifier) (hlabel : specifier.info.label = keyword ++ "_specifier")
    (hspan : cursor.span = some specifier.span) :
    HasComponent source tree cursor
      (Addition.unnamedLabel keyword (source.locationOf specifier)) := by
  have htext : Addition.unnamedLabel keyword (source.locationOf specifier) =
      "(unnamed " ++ keyword ++ " at " ++ source.path ++ ":"
        ++ toString (source.locationOf specifier).line ++ ":"
        ++ toString (source.locationOf specifier).column ++ ")" := by
    unfold Addition.unnamedLabel Location.display
    rw [(source.isStartOf_locationOf specifier).file]
    simp only [String.append_assoc, Nat.toString_eq_repr]
  rw [htext]
  exact .unnamed hname hkeyword hwritten hlabel hspan (source.isStartOf_locationOf specifier)

theorem HasComponent.ne_empty {source : Source} {tree : ParseTree} {cursor : Cursor} {text : String}
    (h : HasComponent source tree cursor text) (hname : cursor.kind.isLabelled ∨ cursor.spelling ≠ "") :
    text ≠ "" := by
  cases h with
  | spelled h =>
    cases hname with
    | inl hname => exact h.resolve_right (by simp [hname])
    | inr hname => exact hname
  | anonymousNamespace => decide
  | unnamed => simp [String.append_eq_empty_iff]

theorem qualifiedIn_joinScoped {parts : List String} (h : ∀ part ∈ parts, part ≠ "") (name : String) :
    qualifiedIn (Text.joinScoped parts) name = Text.joinScoped (parts ++ [name]) := by
  unfold qualifiedIn Text.joinScoped
  cases parts with
  | nil => simp
  | cons part rest =>
    have hpart : part ≠ "" := h part List.mem_cons_self
    have hjoined : (String.intercalate "::" (part :: rest)).isEmpty = false := by
      rw [String.isEmpty_eq_false_iff]
      cases rest with
      | nil => simpa using hpart
      | cons next rest => simp [String.append_eq_empty_iff]
    rw [hjoined, String.intercalate_append_of_ne_nil (by simp) (by simp)]
    simp

namespace Addition

def label (addition : Addition) (b : Builder) (scope : Scope) : String :=
  match addition with
  | .namespaceBlock name _ => if name.isEmpty then "(anonymous namespace)" else name
  | .record _ _ head =>
    if head.name.name.isEmpty then unnamedLabel (keywordText head.keyword) head.start
    else head.name.name
  | .enumeration _ head =>
    if head.name.name.isEmpty then unnamedLabel "enum" head.start else head.name.name
  | addition => (addition.cursor b scope).spelling

variable {b : Builder} {scope : Scope} {addition : Addition} {source : Source} {tree : ParseTree}

theorem keywordText_mem_keywords (template : List ResolvedParameter) (keyword : RecordKeyword) :
    keywordText keyword ∈
      (if template.isEmpty then recordKind keyword else .classTemplate).keywords := by
  split
  · cases keyword with
    | classKey | structKey | unionKey => exact List.mem_singleton.mpr rfl
  · cases keyword with
    | classKey | structKey | unionKey => decide

theorem qualifiedName_placed (h : (addition.placed b scope).kind.isNamed) :
    (addition.placed b scope).qualifiedName =
      b.qualify (b.resolveScope addition.scopes scope) (addition.label b scope) := by
  cases addition with
  | parameter | accessLabel | linkage | base | body | usingName | inclusion | macroDefinition =>
    rw [kind_placed_of_kinds CursorKind.isNamed rfl] at h
    contradiction
  | _ => rfl

theorem hasComponent_label (h : addition.ComesFrom source tree b scope) :
    HasComponent source tree (addition.placed b scope) (addition.label b scope) := by
  cases addition with
  | namespaceBlock name site =>
    unfold label
    dsimp only
    split
    · next hname => exact .anonymousNamespace (String.isEmpty_iff.mp hname) rfl
    · next hname => exact .spelled (.inl (by simpa [placed, cursor] using hname))
  | record level template head =>
    obtain ⟨specifier, keyword, hwritten, hspecifier, rfl⟩ := h
    unfold label
    dsimp only
    split
    · next hname =>
      exact .of_unnamedLabel (String.isEmpty_iff.mp hname) (keywordText_mem_keywords template _)
        hwritten (ParseTree.label_of_kind_eq_record hspecifier) rfl
    · next hname => exact .spelled (.inl (by simpa [placed, cursor, recordCursor] using hname))
  | enumeration level head =>
    obtain ⟨specifier, hwritten, hspecifier, rfl⟩ := h
    unfold label
    dsimp only
    split
    · next hname =>
      exact .of_unnamedLabel (String.isEmpty_iff.mp hname) (List.mem_singleton.mpr rfl) hwritten
        (ParseTree.label_of_kind_eq_enumeration hspecifier) rfl
    · next hname => exact .spelled (.inl (by simpa [placed, cursor, enumCursor] using hname))
  | _ => exact .spelled (.inr (kind_placed_of_kinds CursorKind.isLabelled rfl))

theorem eq_enumerator (h : (addition.placed b scope).kind = .enumConstantDecl) :
    ∃ type written, addition = .enumerator type written := by
  have hkind : ((addition.placed b scope).kind == .enumConstantDecl) = true := by simp [h]
  cases addition with
  | enumerator type written => exact ⟨type, written, rfl⟩
  | _ =>
    rw [kind_placed_of_kinds (· == .enumConstantDecl) rfl] at hkind
    contradiction

theorem type_placed (h : (addition.placed b scope).kind.introducesType) :
    ∃ type, (addition.placed b scope).type = some type
      ∧ type.spelling = (addition.placed b scope).qualifiedName := by
  cases addition with
  | record level template head =>
    cases template with
    | nil => exact ⟨_, rfl, rfl⟩
    | cons => simp [placed, cursor, recordCursor, CursorKind.introducesType] at h
  | enumeration | typeAlias => exact ⟨_, rfl, rfl⟩
  | _ =>
    rw [kind_placed_of_kinds CursorKind.introducesType rfl] at h
    contradiction

end Addition

namespace Builder

variable {b b' : Builder} {scope : Scope} {addition : Addition} {id : Nat}

theorem Extends.scopePrefix_eq (h : b.Extends b') (hid : id < b.nextId) :
    b'.scopePrefix id = b.scopePrefix id := by
  fun_induction scopePrefix b id with
  | case1 id cursor parent hparent hclimb ih =>
    have hlt : parent < id := by simp_all
    rw [scopePrefix]
    rw [h.cursor_eq id hid, hparent]
    dsimp only
    rw [if_pos hclimb, ih (by omega)]
  | case2 id cursor parent hparent hstop =>
    rw [scopePrefix]
    rw [h.cursor_eq id hid, hparent]
    dsimp only
    rw [if_neg hstop]
  | case3 id cursor hparent =>
    rw [scopePrefix]
    rw [h.cursor_eq id hid, hparent]

theorem isScope_or_spelling_ne_empty (hscope : scope.OpenedIn b) (hnames : b.NamesSpelled)
    (scopes : List String) :
    (b.cursor (b.resolveScope scopes scope)).kind.isScope
      ∨ (b.cursor (b.resolveScope scopes scope)).spelling ≠ "" := by
  unfold resolveScope
  split
  · exact .inl hscope.semantic_kind
  · cases hresolve : b.resolve (Text.joinScoped scopes) scope.semantic with
    | none => exact .inl hscope.semantic_kind
    | some id =>
      obtain ⟨key, hkey⟩ := mem_names_of_resolve hresolve
      exact .inr (hnames _ hkey)

end Builder

namespace TranslationUnit

def isListed (unit : TranslationUnit) (v : Fin unit.cursors.size) : Bool :=
  !(unit.cursor v).kind.isTransparent && v.val != Cursor.root

/-- The cursors that a qualified name lists, from the outermost to the named one itself. -/
def scopePath (unit : TranslationUnit) (v : Fin unit.cursors.size) : List (Fin unit.cursors.size) :=
  ((unit.model.predecessors unit.model.semanticParent v).filter unit.isListed).reverse ++ [v]

variable {source : Source} {tree : ParseTree} {options : Options}

theorem cursor_root_build (source : Source) (tree : ParseTree) (options : Options) :
    (build source tree options).cursor Cursor.root = rootCursor source tree :=
  (runs_build source tree options).toExtends.cursor_eq _ (wellFormed_start source tree).nextId_pos

theorem ne_root_of_kind (P : CursorKind → Bool) (hroot : P .translationUnit = false)
    {v : Fin (ofParseTree source tree options).cursors.size}
    (h : P ((ofParseTree source tree options).cursor v).kind) : v.val ≠ Cursor.root := by
  intro hv
  rw [cursor_ofParseTree, hv, cursor_root_build] at h
  simp [rootCursor, hroot] at h

theorem semanticParent_of_model {unit : TranslationUnit} {v w : Fin unit.cursors.size}
    (h : unit.model.semanticParent v = some w) : (unit.cursor v).semanticParent = some w.val := by
  obtain ⟨id, hid, hnode⟩ := Option.bind_eq_some_iff.mp h
  unfold node? at hnode
  split at hnode
  · obtain rfl := Option.some.inj hnode
    exact hid
  · contradiction

section Added

variable {before : Builder} {scope : Scope} {addition : Addition}
  {v : Fin (ofParseTree source tree options).cursors.size}

theorem cursor_of_mem_trace (hmem : .add before scope addition ∈ trace source tree options)
    (hv : before.nextId = v) :
    (ofParseTree source tree options).cursor v = addition.placed before scope := by
  rw [cursor_ofParseTree, ← hv]
  exact ((runs_build source tree options).of_mem_add hmem).2.placed_eq

theorem nextId_lt_of_mem_trace (hmem : .add before scope addition ∈ trace source tree options) :
    before.nextId < (ofParseTree source tree options).cursors.size := by
  have hle := ((runs_build source tree options).of_mem_add hmem).2.nextId_le
  rw [Builder.nextId_add] at hle
  exact hle

theorem exists_mem_trace (hv : v.val ≠ Cursor.root) :
    ∃ before scope addition, .add before scope addition ∈ trace source tree options
      ∧ before.nextId = v.val :=
  (runs_build source tree options).exists_add v.val (Nat.pos_of_ne_zero hv) v.isLt

theorem kind_ne_translationUnit (hv : v.val ≠ Cursor.root) :
    ((ofParseTree source tree options).cursor v).kind ≠ .translationUnit := by
  obtain ⟨before, scope, addition, hmem, hnext⟩ := exists_mem_trace hv
  rw [cursor_of_mem_trace hmem hnext]
  have hkind : ((addition.placed before scope).kind == .translationUnit) = false := by
    apply Addition.kind_placed_of_kinds (· == .translationUnit)
    cases addition with
    | _ => rfl
  simpa using hkind

theorem qualifiedName_of_mem_trace (hmem : .add before scope addition ∈ trace source tree options)
    (hv : before.nextId = v) :
    let unit := ofParseTree source tree options
    ∃ owner, unit.model.semanticParent v = some owner ∧ owner < v
      ∧ (unit.cursor owner).kind.isOwner
      ∧ ((unit.cursor owner).kind.isScope ∨ (unit.cursor owner).spelling ≠ "")
      ∧ ((unit.cursor v).kind.isNamed → (unit.cursor v).qualifiedName =
        (build source tree options).qualify owner (addition.label before scope)) := by
  intro unit
  have hb : before.WellFormed :=
    ((runs_build source tree options).wellFormed_of_mem (wellFormed_start source tree) hmem).1
  obtain ⟨hscope, hext⟩ := (runs_build source tree options).of_mem_add hmem
  have hopened := (hasOrigin_trace source tree options _ hmem).1
  have hold := (before.extends_add scope addition).trans hext
  have hplaced := cursor_of_mem_trace hmem hv
  obtain ⟨hlt, howner⟩ := hb.resolveScope hscope addition.scopes
  let owner := before.resolveScope addition.scopes scope
  have hkept := hold.cursor_eq owner hlt
  have hparent : ((build source tree options).cursor v).semanticParent = some owner := by
    rw [← cursor_ofParseTree, hplaced]
    rfl
  have hless : owner < v.val := by
    rw [← hv]
    exact hlt
  refine ⟨⟨owner, Nat.lt_trans hless v.isLt⟩, semanticParent_ofParseTree hparent hless, hless, ?_, ?_, ?_⟩
  · rw [cursor_ofParseTree, hkept]
    exact howner
  · rw [cursor_ofParseTree, hkept]
    exact Builder.isScope_or_spelling_ne_empty hopened (namesSpelled_of_mem_trace hmem) _
  · intro hnamed
    rw [hplaced] at hnamed ⊢
    rw [Addition.qualifiedName_placed hnamed]
    unfold Builder.qualify
    rw [hold.scopePrefix_eq hlt]

theorem type_of_enumerator (hmem : .add before scope addition ∈ trace source tree options)
    (hv : before.nextId = v)
    (hkind : ((ofParseTree source tree options).cursor v).kind = .enumConstantDecl) :
    let unit := ofParseTree source tree options
    ∃ owner, unit.model.semanticParent v = some owner ∧ unit.model.lexicalParent v = some owner
      ∧ (unit.cursor owner).kind = .enumDecl ∧ (unit.cursor owner).type.isSome
      ∧ (unit.cursor v).type = (unit.cursor owner).type := by
  intro unit
  have hext := ((runs_build source tree options).of_mem_add hmem).2
  have hold := (before.extends_add scope addition).trans hext
  obtain ⟨hopened, horigin⟩ := hasOrigin_trace source tree options _ hmem
  have hplaced := cursor_of_mem_trace hmem hv
  rw [hplaced] at hkind
  obtain ⟨type, written, rfl⟩ := Addition.eq_enumerator hkind
  obtain ⟨hsame, henum, htype⟩ := horigin
  have hkept := hold.cursor_eq scope.semantic hopened.semantic_lt
  have hsemantic : ((build source tree options).cursor v).semanticParent = some scope.semantic := by
    rw [← cursor_ofParseTree, hplaced]
    rfl
  have hlexical : ((build source tree options).cursor v).lexicalParent = some scope.semantic := by
    rw [← cursor_ofParseTree, hplaced, ← hsame]
    rfl
  have hless : scope.semantic < v.val := by
    rw [← hv]
    exact hopened.semantic_lt
  refine ⟨⟨scope.semantic, Nat.lt_trans hless v.isLt⟩, semanticParent_ofParseTree hsemantic hless,
    lexicalParent_ofParseTree hlexical hless, ?_⟩
  rw [cursor_ofParseTree source tree options ⟨scope.semantic, _⟩, hkept, htype, hplaced]
  exact ⟨henum, rfl, rfl⟩

end Added

section Components

variable {component : Fin (ofParseTree source tree options).cursors.size → String}

theorem scopePrefix_eq_joinScoped
    (hlabel : ∀ v, v.val ≠ Cursor.root → ∃ before scope addition,
      .add before scope addition ∈ trace source tree options ∧ before.nextId = v.val
        ∧ component v = addition.label before scope)
    (hcomponent : ∀ v, HasComponent source tree ((ofParseTree source tree options).cursor v)
      (component v))
    {v : Fin (ofParseTree source tree options).cursors.size}
    {chain : List (Fin (ofParseTree source tree options).cursors.size)}
    (h : Climbs (ofParseTree source tree options).model.semanticParent v chain)
    (howner : ((ofParseTree source tree options).cursor v).kind.isOwner)
    (hname : ((ofParseTree source tree options).cursor v).kind.isScope
      ∨ ((ofParseTree source tree options).cursor v).spelling ≠ "") :
    let parts :=
      ((v :: chain).filter (ofParseTree source tree options).isListed).reverse.map component
    (build source tree options).scopePrefix v = Text.joinScoped parts ∧ ∀ part ∈ parts, part ≠ "" := by
  -- The induction is on the way up, so the prefix of the cursor above is known already.
  induction h with
  | @top v htop =>
    have hroot := eq_root_of_semanticParent htop
    have hlisted : (ofParseTree source tree options).isListed v = false := by
      simp [isListed, hroot]
    rw [List.filter_cons_of_neg (by simp [hlisted])]
    refine ⟨?_, by simp⟩
    rw [hroot, Builder.scopePrefix_of_counts, cursor_root_build]
    · rfl
    · rw [cursor_root_build]
      rfl
  | @up v w rest hstep later ih =>
    have hv : v.val ≠ Cursor.root := by
      have := semanticParent_lt hstep
      exact Nat.ne_of_gt (Nat.lt_of_le_of_lt (Nat.zero_le _) this)
    obtain ⟨before, scope, addition, hmem, hnext, hlabel⟩ := hlabel v hv
    obtain ⟨owner, hparent, hlt, hkind, hspelled, hqualified⟩ := qualifiedName_of_mem_trace hmem hnext
    rw [hstep] at hparent
    obtain rfl := Option.some.inj hparent
    obtain ⟨ihnames, ihparts⟩ := ih hkind hspelled
    have hsemantic : ((build source tree options).cursor v).semanticParent = some w.val := by
      rw [← cursor_ofParseTree]
      exact semanticParent_of_model hstep
    -- What names see through adds nothing to what is listed above it.
    cases htransparent : ((ofParseTree source tree options).cursor v).kind.isTransparent with
    | true =>
      have hlisted : (ofParseTree source tree options).isListed v = false := by
        simp [isListed, htransparent]
      rw [List.filter_cons_of_neg (by simp [hlisted])]
      refine ⟨?_, ihparts⟩
      rw [cursor_ofParseTree] at htransparent
      rw [Builder.scopePrefix_of_isTransparent hsemantic hlt htransparent]
      exact ihnames
    | false =>
      have hlisted : (ofParseTree source tree options).isListed v := by
        simpa [isListed, htransparent] using hv
      have hnotRoot : ((ofParseTree source tree options).cursor v).kind ≠ .translationUnit :=
        kind_ne_translationUnit hv
      rw [List.filter_cons_of_pos hlisted, List.reverse_cons, List.map_append]
      constructor
      · rw [Builder.scopePrefix_of_counts (by rw [← cursor_ofParseTree]; exact htransparent)]
        rw [← cursor_ofParseTree,
          hqualified (CursorKind.isNamed_of_isOwner howner hnotRoot htransparent)]
        unfold Builder.qualify
        rw [ihnames, qualifiedIn_joinScoped ihparts, ← hlabel]
        rfl
      · rw [List.forall_mem_append]
        refine ⟨ihparts, ?_⟩
        simp only [List.map_cons, List.map_nil, List.forall_mem_singleton]
        apply (hcomponent v).ne_empty
        cases hname with
        | inl hscope => exact .inl (CursorKind.isLabelled_of_isScope hscope hnotRoot htransparent)
        | inr hspelling => exact .inr hspelling

theorem exists_component (source : Source) (tree : ParseTree) (options : Options) :
    ∃ component : Fin (ofParseTree source tree options).cursors.size → String,
      (∀ v, HasComponent source tree ((ofParseTree source tree options).cursor v) (component v))
      ∧ ∀ v, v.val ≠ Cursor.root → ∃ before scope addition,
        .add before scope addition ∈ trace source tree options ∧ before.nextId = v.val
          ∧ component v = addition.label before scope := by
  have hpointwise : ∀ v : Fin (ofParseTree source tree options).cursors.size, ∃ text,
      HasComponent source tree ((ofParseTree source tree options).cursor v) text
      ∧ (v.val ≠ Cursor.root → ∃ before scope addition,
        .add before scope addition ∈ trace source tree options ∧ before.nextId = v.val
          ∧ text = addition.label before scope) := by
    intro v
    by_cases hv : v.val = Cursor.root
    · refine ⟨_, .spelled (.inr ?_), fun hother => absurd hv hother⟩
      rw [cursor_ofParseTree, hv, cursor_root_build]
      rfl
    · obtain ⟨before, scope, addition, hmem, hnext⟩ := exists_mem_trace hv
      refine ⟨addition.label before scope, ?_, fun _ => ⟨before, scope, addition, hmem, hnext, rfl⟩⟩
      rw [cursor_of_mem_trace hmem hnext]
      exact Addition.hasComponent_label (hasOrigin_trace source tree options _ hmem).2
  choose component hcomponent using hpointwise
  exact ⟨component, fun v => (hcomponent v).1, fun v => (hcomponent v).2⟩

end Components

/--
The qualified name of a cursor lists the names of the scopes it belongs to and ends with its own. The
types that cursors introduce are called by these names, and an enumerator has the type of its
enumeration.
-/
theorem ofParseTree_qualifiedName (source : Source) (tree : ParseTree) (options : Options) :
    let unit := ofParseTree source tree options
    (∃ component : Fin unit.cursors.size → String,
      (∀ v, HasComponent source tree (unit.cursor v) (component v))
      ∧ ∀ v, (unit.cursor v).kind.isNamed →
        (unit.cursor v).qualifiedName = Text.joinScoped ((unit.scopePath v).map component))
    ∧ (∀ v, (unit.cursor v).kind.introducesType →
      ∃ type, (unit.cursor v).type = some type ∧ type.spelling = (unit.cursor v).qualifiedName)
    ∧ ∀ v, (unit.cursor v).kind = .enumConstantDecl →
      ∃ owner, unit.model.semanticParent v = some owner ∧ unit.model.lexicalParent v = some owner
        ∧ (unit.cursor owner).kind = .enumDecl ∧ (unit.cursor owner).type.isSome
        ∧ (unit.cursor v).type = (unit.cursor owner).type := by
  intro unit
  refine ⟨?_, ?_, ?_⟩
  · obtain ⟨component, hcomponent, hlabel⟩ := exists_component source tree options
    refine ⟨component, hcomponent, ?_⟩
    intro v hnamed
    have hv := ne_root_of_kind CursorKind.isNamed rfl hnamed
    obtain ⟨before, scope, addition, hmem, hnext, htext⟩ := hlabel v hv
    obtain ⟨owner, hparent, -, howner, hname, hqualified⟩ := qualifiedName_of_mem_trace hmem hnext
    have hclimbs : Climbs _ v (unit.model.predecessors _ v) :=
      climbs_predecessorsIn Fin.val (fun _ w _ => List.mem_finRange w)
        (fun _ _ => semanticParent_lt) v
    unfold scopePath
    generalize unit.model.predecessors unit.model.semanticParent v = chain at hclimbs
    cases hclimbs with
    | top htop => simp [htop] at hparent
    | @up _ w rest hstep later =>
      rw [hstep] at hparent
      obtain rfl := Option.some.inj hparent
      obtain ⟨hpath, hparts⟩ := scopePrefix_eq_joinScoped hlabel hcomponent later howner hname
      rw [hqualified hnamed, ← htext]
      unfold Builder.qualify
      rw [hpath, qualifiedIn_joinScoped hparts, List.map_append]
      rfl
  · intro v hkind
    have hv := ne_root_of_kind CursorKind.introducesType rfl hkind
    obtain ⟨before, scope, addition, hmem, hnext⟩ := exists_mem_trace hv
    rw [cursor_of_mem_trace hmem hnext] at hkind ⊢
    exact Addition.type_placed hkind
  · intro v hkind
    have hv := ne_root_of_kind (· == .enumConstantDecl) rfl (beq_iff_eq.mpr hkind)
    obtain ⟨before, scope, addition, hmem, hnext⟩ := exists_mem_trace hv
    exact type_of_enumerator hmem hnext hkind

end TranslationUnit
end CursorQuery
