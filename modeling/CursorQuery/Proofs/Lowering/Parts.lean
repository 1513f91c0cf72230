import CursorQuery.Proofs.Lowering.Origin
import CursorQuery.Proofs.Lowering.Preorder
import CursorQuery.Proofs.Lowering.Pruning

/-!
This module compares two lowerings of the same items, one of which leaves out a part of what the other
one adds. They do the same things in the same order apart from this part, as long as nothing outside of
it refers to something inside of it.
-/

namespace CursorQuery

inductive Part where
  | bodies
  | preprocessing
  deriving Repr, DecidableEq

namespace Part

/-- The kinds of cursors that make up the part, together with everything inside of them. -/
def kinds : Part → CursorKind → Bool
  | bodies, kind => kind == .compoundStmt
  | preprocessing, kind => kind == .macroDefinition || kind == .inclusionDirective

def takeIn : Part → Options → Options
  | bodies, options => { options with skipBodies := false }
  | preprocessing, options => { options with detailed := true }

def leaveOut : Part → Options → Options
  | bodies, options => { options with skipBodies := true }
  | preprocessing, options => { options with detailed := false }

end Part

namespace Lowering

open Builder

namespace Action

def scope : Action → Nat
  | type _ scope _ => scope
  | tag _ id => id
  | add _ scope _ => scope.semantic

def finds : Action → List Nat
  | type b scope written => b.typeFinds scope written
  | tag .. => []
  | add b scope addition => addition.finds b scope

def declaration? : Action → Option Nat
  | add b scope addition => addition.declaration? b scope
  | _ => none

def FindsKept (drop : CursorKind → Bool) (action : Action) : Prop :=
  (∀ found ∈ action.finds, action.before.isOutside drop found)
    ∧ ∀ found ∈ action.declaration?, action.before.isOutside drop found

/-- An action outside of the part does not refer to anything inside of it. Bodies are the part of a
function from which it looks names up. -/
def Keeps (part : Part) (action : Action) : Prop :=
  (part = .bodies → action.before.isOutside CursorKind.isFunctionLike action.scope) →
    action.FindsKept part.kinds

end Action

variable {b b' r r' : Builder} {scope scope' : Scope} {addition : Addition}
  {drop : CursorKind → Bool} {part : Part} {actions : List Action}

theorem any_kinds_of_opens (part : Part) (h : addition.opens) :
    addition.kinds.any part.kinds = false := by
  cases part with
  | _ =>
    cases addition with
    | namespaceBlock | linkage | record | enumeration | function => rfl
    | _ => contradiction

theorem mem_addAll {additions : List Addition} {action : Action}
    (h : action ∈ Trace.addAll b scope additions) :
    ∃ before, ∃ addition ∈ additions, action = .add before scope addition ∧ b.Extends before := by
  induction additions generalizing b with
  | nil => contradiction
  | cons first additions ih =>
    rw [Trace.addAll] at h
    cases List.mem_cons.mp h with
    | inl h => exact ⟨b, first, List.mem_cons_self, h, .refl b⟩
    | inr h =>
      obtain ⟨before, addition, hmem, heq, hext⟩ := ih h
      exact ⟨before, addition, List.mem_cons_of_mem _ hmem, heq, (b.extends_add scope first).trans hext⟩

theorem findsKept_add : (Action.add b scope addition).FindsKept drop ↔
    addition.FindsKept drop b scope :=
  ⟨fun h => ⟨h.1, h.2⟩, fun h => ⟨h.finds, h.declaration⟩⟩

end Lowering

namespace Builder

open Lowering

variable {b b' r r' : Builder} {scope scope' : Scope} {addition : Addition}
  {drop : CursorKind → Bool} {actions : List Action}

theorem Prunes.of_dropped (h : b.Prunes drop r) (hb : b.WellFormed) (hruns : Runs b actions b')
    (hdropped : ∀ id, b.nextId ≤ id → id < b'.nextId → b'.isOutside drop id = false) :
    b'.Prunes drop r := by
  induction hruns with
  | done => exact h
  | type _ _ ih | tag _ _ ih => exact ih h hb hdropped
  | @add b b' scope addition actions hscope hfits later ih =>
    have hext := later.toExtends
    have hle := hext.nextId_le
    rw [nextId_add] at hle
    have hnew : (b.add scope addition).isOutside drop b.nextId = false := by
      rw [← hext.isOutside_eq (by simp)]
      exact hdropped b.nextId (Nat.le_refl _) (by omega)
    apply ih (h.add_dropped hb hscope hnew) (wellFormed_add hb hscope hfits)
    intro id hid hlt
    rw [nextId_add] at hid
    exact hdropped id (by omega) hlt

theorem WellFormed.isOutside_eq_false {kinds : CursorKind → Bool} {opened id : Nat} (hb : b.WellFormed)
    (hopen : opened ∈ b.openPath) (hkind : kinds (b.cursor opened).kind) (hle : opened ≤ id)
    (hid : id < b.nextId) : b.isOutside kinds id = false := by
  -- Everything after a cursor is inside of it as long as it is open.
  have hpath : opened ∈ b.lexicalPath id := by
    by_contra hpath
    have hless : opened < id := by
      apply Nat.lt_of_le_of_ne hle
      rintro rfl
      exact hpath (b.mem_lexicalPath_self opened)
    exact hb.not_mem_lexicalPath hless hpath (by omega) (by omega) hopen
  rw [Bool.eq_false_iff]
  intro houtside
  rw [isOutside_iff.mp houtside opened hpath] at hkind
  contradiction

namespace Follows

theorem tagType_eq (h : Follows drop b scope r scope') :
    tagType r scope'.lexical = tagType b scope.lexical := by
  have hcursor := h.prunes.cursor _ (h.wellFormed.lexical_lt h.validIn) h.kept
  unfold tagType
  rw [h.scope_eq, Scope.renumber, hcursor]
  rfl

theorem of_extends (h : Follows drop b scope r scope') (hext : b.Extends b') (hb : b'.WellFormed)
    (hscope : scope.ValidIn b') (hprunes : b'.Prunes drop r') : Follows drop b' scope r' scope' where
  wellFormed := hb
  validIn := hscope
  kept := by
    rw [hext.isOutside_eq (h.wellFormed.lexical_lt h.validIn)]
    exact h.kept
  prunes := hprunes
  scope_eq := by
    rw [h.scope_eq]
    unfold Scope.renumber
    rw [hext.rank_eq (Nat.le_of_lt (h.wellFormed.lexical_lt h.validIn)),
      hext.rank_eq (Nat.le_of_lt h.validIn.semantic_lt)]

theorem add (h : Follows drop b scope r scope') (hfinds : addition.FindsKept drop b scope)
    (hbody : addition.isBody = false) (hkinds : addition.kinds.any drop = false) :
    Follows drop (b.add scope addition) scope (r.add scope' addition) scope' :=
  h.of_extends (b.extends_add scope addition)
    (wellFormed_add h.wellFormed h.validIn (Addition.fits_of_isBody_eq_false hbody))
    (h.validIn.add h.wellFormed addition)
    (h.prunes_add hfinds (Addition.kind_placed_of_kinds drop hkinds))

theorem addAll {additions : List Addition} (h : Follows drop b scope r scope')
    (hfinds : ∀ action ∈ Trace.addAll b scope additions, action.FindsKept drop)
    (hbodies : ∀ addition ∈ additions, addition.isBody = false)
    (hkinds : ∀ addition ∈ additions, addition.kinds.any drop = false) :
    Follows drop (b.addAll scope additions) scope (r.addAll scope' additions) scope' := by
  induction additions generalizing b r with
  | nil => exact h
  | cons addition additions ih =>
    rw [Trace.addAll, List.forall_mem_cons] at hfinds
    rw [List.forall_mem_cons] at hbodies hkinds
    exact ih (h.add (findsKept_add.mp hfinds.1) hbodies.1 hkinds.1) hfinds.2 hbodies.2 hkinds.2

theorem enter (h : Follows drop b scope r scope') (hopens : addition.opens)
    (hfinds : addition.FindsKept drop b scope) (hkinds : addition.kinds.any drop = false)
    (inner : Nat → Scope) (hlexical : ∀ id, (inner id).lexical = id)
    (hsemantic : ∀ id, (inner id).semantic = id)
    (hrenumber : ∀ f id, inner (f id) = (inner id).renumber f) :
    Follows drop (b.add scope addition) (inner b.nextId) (r.add scope' addition) (inner r.nextId) where
  wellFormed := wellFormed_add h.wellFormed h.validIn (Addition.fits_of_opens hopens)
  validIn := h.validIn.enter h.wellFormed hopens (hlexical b.nextId) (hsemantic b.nextId)
  kept := by
    rw [hlexical, isOutside_add_nextId (h.wellFormed.lexical_lt h.validIn), h.kept,
      Addition.kind_placed_of_kinds drop hkinds]
    rfl
  prunes := h.prunes_add hfinds (Addition.kind_placed_of_kinds drop hkinds)
  scope_eq := by
    rw [← hrenumber, (b.extends_add scope addition).rank_eq (Nat.le_refl _), h.prunes.nextId]

theorem enterBody {function function' : Nat}
    (h : Follows drop b (.inside function) r (.inside function')) (site : Site)
    (hlike : (b.cursor function).kind.isFunctionLike) (hdrop : drop .compoundStmt = false) :
    Follows drop (b.add (.inside function) (.body site))
      { lexical := b.nextId, semantic := function, inRecord := false }
      (r.add (.inside function') (.body site))
      { lexical := r.nextId, semantic := function', inRecord := false } := by
  have hkinds : (Addition.body site).kinds.any drop = false := by simp [Addition.kinds, hdrop]
  have hfinds : (Addition.body site).FindsKept drop b (.inside function) := .of_eq_nil rfl rfl
  have hfunction : function' = b.rank drop function := congrArg Scope.semantic h.scope_eq
  have hlt : function < b.nextId := h.validIn.semantic_lt
  constructor
  · exact wellFormed_add h.wellFormed h.validIn fun _ => hlike
  · exact h.validIn.enterBody h.wellFormed site
  · rw [isOutside_add_nextId (h.wellFormed.lexical_lt h.validIn), h.kept,
      Addition.kind_placed_of_kinds drop hkinds]
    rfl
  · exact h.prunes_add hfinds (Addition.kind_placed_of_kinds drop hkinds)
  · have hext := b.extends_add (.inside function) (.body site)
    simp only [Scope.renumber, hext.rank_eq (Nat.le_refl _), hext.rank_eq (Nat.le_of_lt hlt),
      h.prunes.nextId, hfunction]

theorem leave {inner inner' : Scope} (h : Follows drop b scope r scope')
    (hinner : Follows drop b' inner r' inner') (hlexical : inner.lexical = b.nextId)
    (hext : (b.add scope addition).Extends b') : Follows drop b' scope r' scope' := by
  have hopen : b.nextId ∈ b'.openPath := by
    rw [← hlexical]
    exact hinner.validIn.isOpen
  exact h.of_extends ((b.extends_add scope addition).trans hext) hinner.wellFormed
    (h.validIn.of_inner h.wellFormed hext hopen) hinner.prunes

end Follows
end Builder

namespace Lowering

open Builder

variable {b b' r r' : Builder} {scope scope' : Scope} {addition : Addition} {part : Part}

structure Mirrors (part : Part) (b : Builder) (scope : Scope) (r : Builder) (scope' : Scope) : Prop
    extends Follows part.kinds b scope r scope' where
  outside : part = .bodies → b.isOutside CursorKind.isFunctionLike scope.semantic

namespace Mirrors

theorem of_extends (h : Mirrors part b scope r scope') (hext : b.Extends b')
    (hfollows : Follows part.kinds b' scope r' scope') : Mirrors part b' scope r' scope' where
  toFollows := hfollows
  outside hpart := by
    rw [hext.isOutside_eq h.validIn.semantic_lt]
    exact h.outside hpart

theorem findsKept (h : Mirrors part b scope r scope') {action : Action} (hkeeps : action.Keeps part)
    (hext : b.Extends action.before) (hscope : action.scope = scope.semantic) :
    action.FindsKept part.kinds := by
  apply hkeeps
  intro hpart
  rw [hscope, hext.isOutside_eq h.validIn.semantic_lt]
  exact h.outside hpart

theorem findsKept_add (h : Mirrors part b scope r scope')
    (hkeeps : (Action.add b scope addition).Keeps part) : addition.FindsKept part.kinds b scope :=
  Lowering.findsKept_add.mp (h.findsKept hkeeps (.refl b) rfl)

theorem findsKept_addAll (h : Mirrors part b scope r scope') {additions : List Addition}
    (hkeeps : ∀ action ∈ Trace.addAll b scope additions, action.Keeps part) :
    ∀ action ∈ Trace.addAll b scope additions, action.FindsKept part.kinds := by
  intro action haction
  obtain ⟨before, addition, -, rfl, hext⟩ := mem_addAll haction
  exact h.findsKept (hkeeps _ haction) hext rfl

theorem add (h : Mirrors part b scope r scope')
    (hkeeps : (Action.add b scope addition).Keeps part) (hbody : addition.isBody = false)
    (hkinds : addition.kinds.any part.kinds = false) :
    Mirrors part (b.add scope addition) scope (r.add scope' addition) scope' :=
  h.of_extends (b.extends_add scope addition)
    (h.toFollows.add (h.findsKept_add hkeeps) hbody hkinds)

theorem enter (h : Mirrors part b scope r scope') (hkeeps : (Action.add b scope addition).Keeps part)
    (hopens : addition.opens)
    (hlike : addition.kinds.any CursorKind.isFunctionLike = false)
    (inner : Nat → Scope) (hlexical : ∀ id, (inner id).lexical = id)
    (hsemantic : ∀ id, (inner id).semantic = id)
    (hrenumber : ∀ f id, inner (f id) = (inner id).renumber f) :
    Mirrors part (b.add scope addition) (inner b.nextId) (r.add scope' addition)
      (inner r.nextId) where
  toFollows :=
    h.toFollows.enter hopens (h.findsKept_add hkeeps) (any_kinds_of_opens part hopens) inner hlexical
      hsemantic hrenumber
  outside hpart := by
    -- The scope is not a body, as these are dropped, so it is its own owner.
    have hkind := kind_of_isOutside h.kept
    have howner : scope.semantic = scope.lexical := by
      rw [h.validIn.owner, ownerOf, if_neg]
      simpa [hpart, Part.kinds] using hkind
    rw [hsemantic, isOutside_add_nextId (h.wellFormed.lexical_lt h.validIn), ← howner,
      h.outside hpart, Addition.kind_placed_of_kinds _ hlike]
    rfl

theorem leave {inner inner' : Scope} (h : Mirrors part b scope r scope')
    (hinner : Follows part.kinds b' inner r' inner') (hlexical : inner.lexical = b.nextId)
    (hext : (b.add scope addition).Extends b') : Mirrors part b' scope r' scope' :=
  h.of_extends ((b.extends_add scope addition).trans hext)
    (h.toFollows.leave hinner hlexical hext)

theorem writtenType_eq (h : Mirrors part b scope r scope') {written : List WrittenType}
    (hkeeps : ∀ action ∈ Trace.types b scope.semantic written, action.Keeps part) :
    ∀ type ∈ written,
      r.writtenType type scope'.semantic = b.writtenType type scope.semantic := by
  intro type htype
  have hkeeps := hkeeps _ (List.mem_map_of_mem htype)
  exact h.toFollows.writtenType_eq (h.findsKept hkeeps (.refl b) rfl).1

theorem resolveParameters_eq (h : Mirrors part b scope r scope') {parameters : List Parameter}
    (hkeeps : ∀ action ∈ Trace.parameterTypes b scope.semantic parameters, action.Keeps part) :
    r.resolveParameters scope'.semantic parameters =
      b.resolveParameters scope.semantic parameters := by
  unfold resolveParameters
  apply List.map_congr_left
  intro parameter hparameter
  cases htype : parameter.type with
  | none => rfl
  | some use =>
    have hmem : use.base ∈ parameters.filterMap fun parameter => parameter.type.map (·.base) :=
      List.mem_filterMap.mpr ⟨parameter, hparameter, by rw [htype]; rfl⟩
    simp only [Option.map_some, typeOf, h.writtenType_eq hkeeps _ hmem]

theorem functionForm_eq (h : Mirrors part b scope r scope') {declarator : FunctionDeclarator}
    (hkeeps : ∀ action ∈ Trace.parameterTypes b scope.semantic declarator.parameters,
      action.Keeps part)
    (template : List ResolvedParameter) (result? : Option CType) (isDefinition : Bool) (span : Span) :
    functionForm r scope' template declarator result? isDefinition span =
      functionForm b scope template declarator result? isDefinition span := by
  unfold functionForm
  rw [h.resolveParameters_eq hkeeps]

theorem addFunction (h : Mirrors part b scope r scope') {level : Access} {form : FunctionForm}
    (hkeeps : ∀ action ∈ Trace.addFunction b scope level form, action.Keeps part) :
    Follows part.kinds (Lowering.addFunction b scope level form) (.inside b.nextId)
      (Lowering.addFunction r scope' level form) (.inside r.nextId) := by
  unfold Trace.addFunction Trace.addNested at hkeeps
  rw [List.forall_mem_append, List.forall_mem_cons] at hkeeps
  have henter := h.toFollows.enter rfl (h.findsKept_add hkeeps.2.1) (any_kinds_of_opens part rfl)
    .inside (fun _ => rfl) (fun _ => rfl) (fun _ _ => rfl)
  apply henter.addAll
  · intro action haction
    obtain ⟨before, addition, hmem, rfl, -⟩ := mem_addAll haction
    obtain ⟨parameter, -, rfl⟩ := List.mem_map.mp hmem
    exact Lowering.findsKept_add.mpr (.of_eq_nil rfl rfl)
  · rw [List.forall_mem_map]
    exact fun _ _ => rfl
  · rw [List.forall_mem_map]
    cases part with
    | _ => exact fun _ _ => rfl

theorem addDeclarator (h : Mirrors part b scope r scope') {level : Access}
    {template : List ResolvedParameter} {rest : DeclaratorList} {base? : Option CType}
    {declarator : Declarator}
    (hkeeps : ∀ action ∈ Trace.addDeclarator b scope level template rest base? declarator,
      action.Keeps part) :
    Mirrors part (Lowering.addDeclarator b scope level template rest base? declarator) scope
      (Lowering.addDeclarator r scope' level template rest base? declarator) scope' := by
  have hobject : ∀ {form}, (Action.add b scope (.object level form)).Keeps part →
      Mirrors part (b.add scope (.object level form)) scope
        (r.add scope' (.object level form)) scope' := by
    intro form hform
    apply h.add hform rfl
    cases part with
    | _ => rfl
  unfold Trace.addDeclarator at hkeeps
  unfold Lowering.addDeclarator
  cases hdeclared : declarator.declared with
  | object =>
    simp only [hdeclared, List.forall_mem_singleton] at hkeeps
    exact hobject hkeeps
  | functionPointer parameters =>
    simp only [hdeclared, List.forall_mem_singleton] at hkeeps
    exact hobject hkeeps
  | function function =>
    simp only [hdeclared] at hkeeps
    have hparameters : ∀ action ∈ Trace.parameterTypes b scope.semantic function.parameters,
        action.Keeps part := by
      unfold Trace.addFunction at hkeeps
      exact (List.forall_mem_append.mp hkeeps).1
    dsimp only
    rw [h.functionForm_eq hparameters]
    exact h.leave (h.addFunction hkeeps) rfl (extends_addAll _ _ _)

theorem addDeclarators (h : Mirrors part b scope r scope') {level : Access}
    {template : List ResolvedParameter} {base? : Option CType} {rest : DeclaratorList}
    (hkeeps : ∀ action ∈ Trace.addDeclarators b scope level template base? rest,
      action.Keeps part) :
    Mirrors part (Lowering.addDeclarators b scope level template base? rest) scope
      (Lowering.addDeclarators r scope' level template base? rest) scope' := by
  unfold Trace.addDeclarators at hkeeps
  unfold Lowering.addDeclarators
  dsimp only
  generalize (if rest.isConst then base?.map CType.withConst else base?) = base? at hkeeps ⊢
  generalize hdeclarators : rest.declarators = declarators at hkeeps ⊢
  clear hdeclarators
  induction declarators generalizing b r with
  | nil => exact h
  | cons declarator declarators ih =>
    rw [Trace.addDeclarators.go, List.forall_mem_append] at hkeeps
    exact ih (h.addDeclarator hkeeps.1) hkeeps.2

theorem addNamespaces (h : Mirrors part b scope r scope') {site : Site} {names : List String}
    (hkeeps : ∀ action ∈ Trace.addNamespaces b scope site names, action.Keeps part) :
    let opened := Lowering.addNamespaces b scope site names
    let opened' := Lowering.addNamespaces r scope' site names
    Mirrors part opened.1 opened.2 opened'.1 opened'.2
      ∧ ∀ {b' r'}, opened.1.Extends b' → Mirrors part b' opened.2 r' opened'.2 →
        Mirrors part b' scope r' scope' := by
  induction names generalizing b scope r scope' with
  | nil => exact ⟨h, fun _ hlater => hlater⟩
  | cons name names ih =>
    rw [Trace.addNamespaces, List.forall_mem_cons] at hkeeps
    have henter := h.enter hkeeps.1 rfl rfl .inside (fun _ => rfl) (fun _ => rfl) (fun _ _ => rfl)
    obtain ⟨hopened, hleave⟩ := ih henter hkeeps.2
    refine ⟨hopened, fun hext hlater => ?_⟩
    exact h.leave (hleave hext hlater).toFollows rfl ((extends_addNamespaces _ _ _ _).trans hext)

theorem addRecord (h : Mirrors part b scope r scope') {level : Access}
    {template : List ResolvedParameter} {head : RecordHead}
    (hkeeps : ∀ action ∈ Trace.addRecord b scope level template head, action.Keeps part) :
    Mirrors part (Lowering.addRecord b scope level template head) (.membersOf b.nextId)
      (Lowering.addRecord r scope' level template head) (.membersOf r.nextId) := by
  unfold Trace.addRecord Trace.addNested at hkeeps
  rw [List.forall_mem_cons] at hkeeps
  have henter := h.enter hkeeps.1 rfl rfl .membersOf (fun _ => rfl) (fun _ => rfl) (fun _ _ => rfl)
  apply henter.of_extends (extends_addAll _ _ _)
  apply henter.toFollows.addAll (henter.findsKept_addAll hkeeps.2)
  · rw [List.forall_mem_append, List.forall_mem_map, List.forall_mem_map]
    exact ⟨fun _ _ => rfl, fun _ _ => rfl⟩
  · rw [List.forall_mem_append, List.forall_mem_map, List.forall_mem_map]
    cases part with
    | _ => exact ⟨fun _ _ => rfl, fun _ _ => rfl⟩

theorem addEnum (h : Mirrors part b scope r scope') {level : Access} {head : EnumHead}
    (hkeeps : ∀ action ∈ Trace.addEnum b scope level head, action.Keeps part) :
    Follows part.kinds (Lowering.addEnum b scope level head) (.inside b.nextId)
      (Lowering.addEnum r scope' level head) (.inside r.nextId) := by
  unfold Trace.addEnum Trace.addNested at hkeeps
  rw [List.forall_mem_cons] at hkeeps
  have hfinds := h.findsKept_add hkeeps.1
  have henter := h.toFollows.enter rfl hfinds (any_kinds_of_opens part rfl) .inside (fun _ => rfl)
    (fun _ => rfl) (fun _ _ => rfl)
  unfold Lowering.addEnum
  rw [Addition.enumType_follows h.toFollows hfinds]
  apply henter.addAll
  · intro action haction
    obtain ⟨before, addition, hmem, rfl, -⟩ := mem_addAll haction
    obtain ⟨enumerator, -, rfl⟩ := List.mem_map.mp hmem
    exact Lowering.findsKept_add.mpr (.of_eq_nil rfl rfl)
  · rw [List.forall_mem_map]
    exact fun _ _ => rfl
  · rw [List.forall_mem_map]
    cases part with
    | _ => exact fun _ _ => rfl

theorem addDetail (h : Mirrors part b scope r scope') {options : Options}
    (hbody : addition.isBody = false) (hkinds : addition.kinds.any Part.bodies.kinds = false)
    (hdetail : addition.kinds.all Part.preprocessing.kinds)
    (hkeeps : ∀ action ∈ if (part.takeIn options).detailed then [Action.add b scope addition] else [],
      action.Keeps part) :
    Mirrors part (if (part.takeIn options).detailed then b.add scope addition else b) scope
      (if (part.leaveOut options).detailed then r.add scope' addition else r) scope' := by
  cases part with
  | bodies =>
    have hfull : (Part.bodies.takeIn options).detailed = options.detailed := rfl
    have hreduced : (Part.bodies.leaveOut options).detailed = options.detailed := rfl
    rw [hfull] at hkeeps ⊢
    rw [hreduced]
    split
    · next hdetailed =>
      rw [if_pos hdetailed, List.forall_mem_singleton] at hkeeps
      exact h.add hkeeps hbody hkinds
    · exact h
  | preprocessing =>
    have hext := b.extends_add scope addition
    have hkind : Part.preprocessing.kinds (addition.placed b scope).kind :=
      List.all_eq_true.mp hdetail _ (addition.kind_mem_kinds b scope)
    have hdropped : (b.add scope addition).isOutside Part.preprocessing.kinds b.nextId = false := by
      rw [isOutside_add_nextId (h.wellFormed.lexical_lt h.validIn), hkind]
      rfl
    apply h.of_extends hext
    exact h.toFollows.of_extends hext
      (wellFormed_add h.wellFormed h.validIn (Addition.fits_of_isBody_eq_false hbody))
      (h.validIn.add h.wellFormed addition) (h.prunes.add_dropped h.wellFormed h.validIn hdropped)

end Mirrors

theorem follows_droppedBody {function function' : Nat}
    (h : Follows Part.bodies.kinds b (.inside function) r (.inside function'))
    (hlike : (b.cursor function).kind.isFunctionLike) (options : Options) (site : Site)
    (members : List Item) :
    Follows Part.bodies.kinds
      (lowerItems options (b.add (.inside function) (.body site))
        { lexical := b.nextId, semantic := function, inRecord := false } .noAccess [] members)
      (.inside function) r (.inside function') := by
  have hfits : (Addition.body site).Fits b (.inside function) := fun _ => hlike
  have hmembers := runsIn_lowerItems options (wellFormed_add h.wellFormed h.validIn hfits)
    (h.validIn.enterBody h.wellFormed site) .noAccess [] members
  have hblock := hmembers.leave h.wellFormed h.validIn hfits rfl
  have hbuilt := hblock.runs.wellFormed h.wellFormed
  apply h.of_extends hblock.runs.toExtends hbuilt hblock.validIn
  apply h.prunes.of_dropped h.wellFormed hblock.runs
  intro id hid hlt
  apply hbuilt.isOutside_eq_false hmembers.validIn.isOpen ?_ hid hlt
  rw [hmembers.runs.toExtends.placed_eq]
  rfl

section Recursion

variable {part : Part} {options : Options} {call : Call} {item : Item}

theorem mirrors_simple (hsimple : item.isSimple) (h : Mirrors part call.unit call.scope r scope')
    (hkeeps : ∀ action ∈ call.itemActions (part.takeIn options) item, action.Keeps part) :
    Mirrors part (call.after (part.takeIn options) item) call.scope
      (lowerItem (part.leaveOut options) r scope' call.level call.template item) scope' := by
  unfold Call.itemActions at hkeeps
  unfold Call.after
  cases item with
  | accessLabel level? site =>
    unfold Trace.lowerItem at hkeeps
    unfold lowerItem
    rw [Addition.inRecord_follows h.toFollows]
    split
    · next hrecord =>
      rw [if_pos hrecord, List.forall_mem_singleton] at hkeeps
      exact h.add hkeeps rfl (by cases part <;> rfl)
    · exact h
  | typeAlias | usingName =>
    unfold Trace.lowerItem at hkeeps
    rw [List.forall_mem_singleton] at hkeeps
    exact h.add hkeeps rfl (by cases part <;> rfl)
  | inclusion | macroDefinition =>
    unfold Trace.lowerItem at hkeeps
    unfold lowerItem
    exact h.addDetail rfl rfl rfl hkeeps
  | _ => contradiction

theorem mirrors_after (h : Mirrors part call.unit call.scope r scope')
    (hkeeps : ∀ action ∈ call.itemActions (part.takeIn options) item, action.Keeps part)
    (inside : ∀ inner, call.inside? (part.takeIn options) item = some inner →
      ∀ {r scope'}, Mirrors part inner.unit inner.scope r scope' →
        (∀ action ∈ inner.actions (part.takeIn options), action.Keeps part) →
          Mirrors part (inner.result (part.takeIn options)) inner.scope
            (lowerItems (part.leaveOut options) r scope' inner.level inner.template inner.items)
            scope') :
    Mirrors part (call.after (part.takeIn options) item) call.scope
      (lowerItem (part.leaveOut options) r scope' call.level call.template item) scope' := by
  cases item using Item.shapes with
  | simple item hsimple => exact mirrors_simple hsimple h hkeeps
  | namespaceBlock names site body =>
    unfold Call.itemActions Trace.lowerItem at hkeeps
    rw [List.forall_mem_append] at hkeeps
    obtain ⟨hopened, hleave⟩ := h.addNamespaces hkeeps.1
    exact hleave (extends_lowerItems ..) (inside _ rfl hopened hkeeps.2)
  | linkageBlock site body =>
    unfold Call.itemActions Trace.lowerItem at hkeeps
    rw [List.forall_mem_cons] at hkeeps
    have henter := h.enter hkeeps.1 rfl rfl .inside (fun _ => rfl) (fun _ => rfl) (fun _ _ => rfl)
    have hbody := inside _ rfl henter hkeeps.2
    exact h.leave hbody.toFollows rfl (extends_lowerItems ..)
  | template parameters body =>
    unfold Call.itemActions Trace.lowerItem at hkeeps
    rw [List.forall_mem_append] at hkeeps
    unfold lowerItem
    rw [h.resolveParameters_eq hkeeps.1]
    exact inside _ rfl h hkeeps.2
  | record head members rest =>
    unfold Call.itemActions Trace.lowerItem at hkeeps
    simp only [List.forall_mem_append] at hkeeps
    have hmembers := inside _ rfl (h.addRecord hkeeps.1.1.1) hkeeps.1.1.2
    dsimp only [Call.result, Call.recordMembers] at hmembers
    have hclosed := h.leave hmembers.toFollows rfl
      ((extends_addAll _ _ _).trans (extends_lowerItems ..))
    unfold lowerItem
    dsimp only
    rw [show tagType _ r.nextId = tagType _ call.unit.nextId from hmembers.toFollows.tagType_eq]
    exact hclosed.addDeclarators hkeeps.2
  | enumeration head rest =>
    unfold Call.itemActions Trace.lowerItem at hkeeps
    simp only [List.forall_mem_append] at hkeeps
    have henum := h.addEnum hkeeps.1.1
    have hclosed := h.leave henum rfl (extends_addAll _ _ _)
    unfold lowerItem
    dsimp only
    rw [show tagType _ r.nextId = tagType _ call.unit.nextId from henum.tagType_eq]
    exact hclosed.addDeclarators hkeeps.2
  | declaration base? rest =>
    unfold Call.itemActions Trace.lowerItem at hkeeps
    rw [List.forall_mem_append] at hkeeps
    have hbase : base?.map (fun base => r.writtenType base scope'.semantic) =
        base?.map fun base => call.unit.writtenType base call.scope.semantic := by
      apply Option.map_congr
      intro base hmem
      exact h.writtenType_eq hkeeps.1 base (by simpa using hmem)
    unfold lowerItem
    dsimp only
    rw [hbase]
    exact h.addDeclarators hkeeps.2
  | function declarator result? span body? members =>
    unfold Call.itemActions Trace.lowerItem at hkeeps
    simp only [List.forall_mem_append] at hkeeps
    obtain ⟨⟨hresult, hfunction⟩, hbody⟩ := hkeeps
    have hresult? : result?.map (fun use => r.typeOf use scope'.semantic) =
        result?.map fun use => call.unit.typeOf use call.scope.semantic := by
      apply Option.map_congr
      intro use huse
      have hmem : use.base ∈ (result?.map (·.base)).toList := by simpa using ⟨use, huse, rfl⟩
      simp only [typeOf, h.writtenType_eq hresult _ hmem]
    have hparameters : ∀ action ∈ Trace.parameterTypes call.unit call.scope.semantic
        declarator.parameters, action.Keeps part := by
      unfold Trace.addFunction at hfunction
      exact (List.forall_mem_append.mp hfunction).1
    have hlike := isFunctionLike_addFunction call.unit call.scope call.level
      (call.functionForm declarator result? span)
    have hopened := h.addFunction hfunction
    unfold Call.after lowerItem
    dsimp only
    rw [hresult?, h.functionForm_eq hparameters]
    cases body? with
    | none => exact h.leave hopened rfl (extends_addAll _ _ _)
    | some site =>
      cases part with
      -- The body is lowered on one side only.
      | bodies =>
        exact h.leave (follows_droppedBody hopened hlike _ site members) rfl
          (((extends_addAll _ _ _).trans (extends_add ..)).trans (extends_lowerItems ..))
      | preprocessing =>
        have hfull : (Part.preprocessing.takeIn options).skipBodies = options.skipBodies := rfl
        have hreduced : (Part.preprocessing.leaveOut options).skipBodies = options.skipBodies := rfl
        dsimp only at hbody ⊢
        rw [hfull] at hbody ⊢
        rw [hreduced]
        by_cases hskip : options.skipBodies
        · rw [if_pos hskip, if_pos hskip]
          exact h.leave hopened rfl (extends_addAll _ _ _)
        · rw [if_neg hskip] at hbody ⊢
          rw [if_neg hskip]
          have hinner : Mirrors .preprocessing _ _ _ _ :=
            ⟨hopened.enterBody site hlike rfl, by simp⟩
          have hmembers := inside _ (if_neg hskip) hinner (List.forall_mem_cons.mp hbody).2
          dsimp only [Call.result, Call.functionBody] at hmembers
          have hblock := hopened.leave hmembers.toFollows rfl (extends_lowerItems ..)
          exact h.leave hblock rfl
            (((extends_addAll _ _ _).trans (extends_add ..)).trans (extends_lowerItems ..))

theorem mirrors_lowerItems (part : Part) (options : Options) {b r : Builder} {scope scope' : Scope}
    (h : Mirrors part b scope r scope') {level : Access} {template : List ResolvedParameter}
    {items : List Item}
    (hkeeps : ∀ action ∈ Trace.lowerItems (part.takeIn options) b scope level template items,
      action.Keeps part) :
    Mirrors part (lowerItems (part.takeIn options) b scope level template items) scope
      (lowerItems (part.leaveOut options) r scope' level template items) scope' := by
  induction b, scope, level, template, items using induct (part.takeIn options)
    generalizing r scope' with
  | nil => exact h
  | cons call item rest inside next =>
    rw [Trace.lowerItems, List.forall_mem_append] at hkeeps
    have hlevel : levelAfter scope' call.level item = levelAfter call.scope call.level item := by
      unfold levelAfter
      rw [Addition.inRecord_follows h.toFollows]
    unfold lowerItems
    rw [hlevel]
    exact next (mirrors_after h hkeeps.1 inside) hkeeps.2

end Recursion

end Lowering

namespace TranslationUnit

theorem isOutside_start (source : Source) (tree : ParseTree) {kinds : CursorKind → Bool}
    (hkinds : kinds .translationUnit = false) : (start source tree).isOutside kinds Cursor.root := by
  have hpath : (start source tree).lexicalPath Cursor.root = [Cursor.root] := by
    unfold Builder.lexicalPath
    rfl
  rw [Builder.isOutside_iff, hpath, List.forall_mem_singleton]
  exact hkinds

theorem prunes_start (source : Source) (tree : ParseTree) {kinds : CursorKind → Bool}
    (hkinds : kinds .translationUnit = false) :
    (start source tree).Prunes kinds (start source tree) := by
  have hroot : ∀ {id}, id < (start source tree).nextId → id = 0 := fun hid => Nat.lt_one_iff.mp hid
  have hnone : ∀ name, (start source tree).names.lookup name = none := fun _ => rfl
  constructor
  · rw [show (start source tree).nextId = Cursor.root + 1 from rfl, Builder.rank_succ,
      if_pos (isOutside_start source tree hkinds)]
    rfl
  · rfl
  · intro id hid _
    rw [hroot hid]
    rfl
  · intro id parent hid _ hparent
    rw [hroot hid] at hparent
    contradiction
  · intro id hid _
    rw [hroot hid]
    rfl
  · constructor
    · exact (wellFormed_start source tree).namesBounded
    · exact fun _ => rfl
    · intro name id hlookup _
      rw [hnone] at hlookup
      contradiction
    · intro name id hlookup _
      rw [hnone] at hlookup
      contradiction

theorem mirrors_start (part : Part) (source : Source) (tree : ParseTree) :
    Lowering.Mirrors part (start source tree) (.inside Cursor.root) (start source tree)
      (.inside Cursor.root) := by
  have hkinds : part.kinds .translationUnit = false := by
    cases part with
    | _ => rfl
  refine ⟨⟨wellFormed_start source tree, validIn_start source tree, ?_, ?_, rfl⟩, fun _ => ?_⟩
  · exact isOutside_start source tree hkinds
  · exact prunes_start source tree hkinds
  · exact isOutside_start source tree rfl

theorem prunes_build (part : Part) (source : Source) (tree : ParseTree) (options : Options)
    (hkeeps : ∀ action ∈ trace source tree (part.takeIn options), action.Keeps part) :
    (build source tree (part.takeIn options)).Prunes part.kinds
      (build source tree (part.leaveOut options)) :=
  (Lowering.mirrors_lowerItems part options (mirrors_start part source tree) hkeeps).prunes

end TranslationUnit
end CursorQuery
