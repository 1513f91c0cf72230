import CursorQuery.Proofs.Lowering.Parts

/-!
This module contains what the options do to a unit. Each of them leaves out cursors of certain kinds, and
the rest of the unit stays as it is if nothing in it refers to what is left out.
-/

namespace CursorQuery

namespace TranslationUnit

/-- The node is not in a subtree whose root has one of the given kinds. -/
def isKept (unit : TranslationUnit) (drop : CursorKind → Bool) (v : Fin unit.cursors.size) : Bool :=
  (List.finRange unit.cursors.size).all fun root =>
    !(drop (unit.cursor root).kind && (unit.model.descendants root).contains v)

def kept (unit : TranslationUnit) (drop : CursorKind → Bool) : List (Fin unit.cursors.size) :=
  (List.finRange unit.cursors.size).filter (unit.isKept drop)

def newId (unit : TranslationUnit) (drop : CursorKind → Bool) (id : Nat) : Nat :=
  (unit.kept drop).countP fun v => v.val < id

/-- The unit without the subtrees whose roots have one of the given kinds. -/
def without (unit : TranslationUnit) (drop : CursorKind → Bool) : TranslationUnit :=
  { unit with
    cursors := ((unit.kept drop).map fun v => (unit.cursor v).renumber (unit.newId drop)).toArray
    childLists := ((unit.kept drop).map fun v =>
      ((unit.model.children v).filter (unit.isKept drop)).map fun c => unit.newId drop c.val).toArray }

theorem exists_of_mem_without {unit : TranslationUnit} {drop : CursorKind → Bool} {cursor : Cursor}
    (h : cursor ∈ (unit.without drop).cursors) :
    ∃ kept ∈ unit.cursors, cursor = kept.renumber (unit.newId drop) := by
  obtain ⟨v, -, hv⟩ := List.mem_map.mp (List.mem_toArray.mp h)
  exact ⟨unit.cursor v, Array.getElem_mem _, hv.symm⟩

end TranslationUnit

namespace Builder

variable {b r : Builder} {drop : CursorKind → Bool}

theorem map_range_rank {α : Type} {f g : Nat → α} {count : Nat}
    (h : ∀ id, id < count → b.isOutside drop id → g (b.rank drop id) = f id) :
    (List.range (b.rank drop count)).map g =
      ((List.range count).filter (b.isOutside drop)).map f := by
  induction count with
  | zero => rfl
  | succ count ih =>
    have hbelow := ih fun id hid => h id (by omega)
    rw [rank_succ, List.range_succ, List.filter_append, List.map_append, ← hbelow]
    by_cases hkept : b.isOutside drop count
    · rw [if_pos hkept, List.range_succ, List.map_append]
      simp [hkept, h count (Nat.lt_succ_self count) hkept]
    · simp [hkept]

theorem countP_range_lt {id count : Nat} (h : id ≤ count) :
    (List.range count).countP (fun a => a < id && b.isOutside drop a) = b.rank drop id := by
  induction count, h using Nat.le_induction with
  | base =>
    apply List.countP_congr
    intro a ha
    simp [List.mem_range.mp ha]
  | succ count hle ih => simp [List.range_succ, List.countP_append, ih, Nat.not_lt.mpr hle]

theorem cursors_eq (b : Builder) : b.cursors = ((List.range b.nextId).map b.cursor).toArray := by
  apply Array.ext
  · simp [nextId]
  · intro id hid _
    simp [cursor, hid]

theorem childLists_eq (h : b.childLists.size = b.nextId) :
    b.childLists = ((List.range b.nextId).map b.childrenOf).toArray := by
  apply Array.ext
  · simp [h]
  · intro id hid _
    simp [childrenOf, hid]

end Builder

namespace TranslationUnit

variable {source : Source} {tree : ParseTree} {options : Options} {drop : CursorKind → Bool}

theorem isKept_ofParseTree (v : Fin (ofParseTree source tree options).cursors.size) :
    (ofParseTree source tree options).isKept drop v =
      (build source tree options).isOutside drop v := by
  have hbelow : ∀ root, v ∈ (ofParseTree source tree options).model.descendants root ↔
      root.val ∈ (build source tree options).lexicalPath v := by
    intro root
    rw [Model.descendants_eq_listing, mem_listing_ofParseTree]
  rw [Bool.eq_iff_iff, Builder.isOutside_iff]
  simp only [isKept, List.all_eq_true, List.mem_finRange, forall_const, Bool.not_eq_true',
    Bool.and_eq_false_imp, List.contains_eq_mem, decide_eq_false_iff_not, hbelow, cursor_ofParseTree]
  constructor
  · intro h a ha
    have hle := Builder.le_of_mem_lexicalPath ha
    by_contra hkind
    exact h ⟨a, by omega⟩ (by simpa using hkind) ha
  · intro h root hkind ha
    rw [h root ha] at hkind
    contradiction

theorem map_val_kept_ofParseTree :
    ((ofParseTree source tree options).kept drop).map (·.val) =
      (List.range (build source tree options).nextId).filter
        ((build source tree options).isOutside drop) := by
  have hkept : (ofParseTree source tree options).isKept drop =
      (build source tree options).isOutside drop ∘ (·.val) := by
    funext v
    exact isKept_ofParseTree v
  unfold kept
  rw [hkept, ← List.filter_map, List.map_coe_finRange_eq_range]
  rfl

theorem newId_ofParseTree {id : Nat} (hid : id ≤ (build source tree options).nextId) :
    (ofParseTree source tree options).newId drop id = (build source tree options).rank drop id := by
  have hcount : (ofParseTree source tree options).newId drop id =
      (((ofParseTree source tree options).kept drop).map (·.val)).countP (· < id) := by
    rw [List.countP_map]
    rfl
  rw [hcount, map_val_kept_ofParseTree, List.countP_filter]
  exact Builder.countP_range_lt hid

theorem renumber_ofParseTree (v : Fin (ofParseTree source tree options).cursors.size) :
    ((ofParseTree source tree options).cursor v).renumber
        ((ofParseTree source tree options).newId drop) =
      ((build source tree options).cursor v).renumber ((build source tree options).rank drop) := by
  have hb := wellFormed_build source tree options
  have hv : v.val < (build source tree options).nextId := v.isLt
  rw [cursor_ofParseTree]
  apply Cursor.renumber_congr
  · intro parent hparent
    have := hb.lt_of_semanticParent hv hparent
    exact newId_ofParseTree (by omega)
  · intro parent hparent
    have := hb.lt_of_lexicalParent hv hparent
    exact newId_ofParseTree (by omega)

theorem map_newId_children (v : Fin (ofParseTree source tree options).cursors.size) :
    (((ofParseTree source tree options).model.children v).filter
        ((ofParseTree source tree options).isKept drop)).map
          (fun c => (ofParseTree source tree options).newId drop c.val) =
      (((build source tree options).childrenOf v).filter
        ((build source tree options).isOutside drop)).map ((build source tree options).rank drop) := by
  have hkept : (build source tree options).isOutside drop ∘ (·.val) =
      (ofParseTree source tree options).isKept drop := by
    funext c
    exact (isKept_ofParseTree c).symm
  rw [← map_val_children_ofParseTree, List.filter_map, List.map_map, hkept]
  apply List.map_congr_left
  intro c _
  exact newId_ofParseTree (Nat.le_of_lt c.isLt)

theorem cursors_without {r : Builder} (h : (build source tree options).Prunes drop r) :
    ((ofParseTree source tree options).without drop).cursors = r.cursors := by
  rw [r.cursors_eq, h.nextId, Builder.map_range_rank h.cursor, ← map_val_kept_ofParseTree, List.map_map]
  apply congrArg List.toArray
  apply List.map_congr_left
  intro v _
  exact renumber_ofParseTree v

theorem childLists_without {r : Builder} (h : (build source tree options).Prunes drop r) :
    ((ofParseTree source tree options).without drop).childLists = r.childLists := by
  rw [Builder.childLists_eq h.size_childLists, h.nextId, Builder.map_range_rank h.childrenOf,
    ← map_val_kept_ofParseTree, List.map_map]
  apply congrArg List.toArray
  apply List.map_congr_left
  intro v _
  exact map_newId_children v

theorem ofParseTree_leaveOut (part : Part) (source : Source) (tree : ParseTree) (options : Options)
    (hkeeps : ∀ action ∈ trace source tree (part.takeIn options), action.Keeps part) :
    ofParseTree source tree (part.leaveOut options) =
      { (ofParseTree source tree (part.takeIn options)).without part.kinds with
        options := part.leaveOut options } := by
  have hprunes := prunes_build part source tree options hkeeps
  dsimp only
  rw [cursors_without hprunes, childLists_without hprunes]
  rfl

end TranslationUnit

namespace Builder

variable {b : Builder} {scope : Scope} {id : Nat}

theorem resolveScope_eq_or_mem (b : Builder) (scopes : List String) (scope : Scope) :
    b.resolveScope scopes scope = scope.semantic
      ∨ b.resolveScope scopes scope ∈ b.scopeFinds scopes scope := by
  unfold resolveScope scopeFinds
  split
  · exact .inl rfl
  · cases b.resolve (Text.joinScoped scopes) scope.semantic with
    | none => exact .inl rfl
    | some found => exact .inr (by simp)

theorem WellFormed.isOutside_bodies (hb : b.WellFormed) (hid : id < b.nextId)
    (h : b.isOutside CursorKind.isFunctionLike id) : b.isOutside Part.bodies.kinds id := by
  rw [isOutside_iff] at h ⊢
  intro a ha
  have hle := le_of_mem_lexicalPath ha
  by_contra hkind
  obtain ⟨function, hparent, hlike⟩ := hb.body a (by omega) (by simpa [Part.kinds] using hkind)
  have hfunction : function ∈ b.lexicalPath id := by
    apply mem_lexicalPath_trans ?_ ha
    rw [lexicalPath_eq_cons hparent (hb.lt_of_lexicalParent (by omega) hparent)]
    exact List.mem_cons_of_mem _ (b.mem_lexicalPath_self function)
  rw [h function hfunction] at hlike
  contradiction

theorem WellFormed.isOutside_bodies_of_mem_childrenOf {c : Nat} (hb : b.WellFormed)
    (hrecord : (b.cursor id).kind.isRecord) (hc : c ∈ b.childrenOf id)
    (h : b.isOutside Part.bodies.kinds id) : b.isOutside Part.bodies.kinds c := by
  obtain ⟨hlt, hparent⟩ := hb.mem_childrenOf.mp hc
  have hkind : Part.bodies.kinds (b.cursor c).kind = false := by
    by_contra hkind
    obtain ⟨function, hfunction, hlike⟩ := hb.body c hlt (by simpa [Part.kinds] using hkind)
    rw [hparent] at hfunction
    obtain rfl := Option.some.inj hfunction
    rw [CursorKind.isRecord_of_isFunctionLike hlike] at hrecord
    contradiction
  rw [isOutside_of_lexicalParent hparent (hb.lt_of_lexicalParent hlt hparent), hkind, h]
  rfl

def DetailsEmpty (b : Builder) : Prop :=
  ∀ id, id < b.nextId → Part.preprocessing.kinds (b.cursor id).kind = false →
    b.isOutside Part.preprocessing.kinds id

theorem kinds_preprocessing_of_isOwner {kind : CursorKind} (h : kind.isOwner) :
    Part.preprocessing.kinds kind = false := by
  cases kind with
  | macroDefinition | inclusionDirective => contradiction
  | _ => rfl

theorem DetailsEmpty.add (h : b.DetailsEmpty) (hb : b.WellFormed) (hscope : scope.ValidIn b)
    (addition : Addition) : (b.add scope addition).DetailsEmpty := by
  have hlexical := hb.lexical_lt hscope
  have hkind : Part.preprocessing.kinds (b.cursor scope.lexical).kind = false := by
    by_cases hbody : (b.cursor scope.lexical).kind = .compoundStmt
    · rw [hbody]
      rfl
    · have howner := hscope.owner
      rw [ownerOf, if_neg hbody] at howner
      rw [← howner]
      exact kinds_preprocessing_of_isOwner hscope.semantic_kind
  intro id hid hid_kind
  rw [nextId_add] at hid
  cases Nat.lt_succ_iff_lt_or_eq.mp hid with
  | inl hid =>
    have hext := b.extends_add scope addition
    rw [hext.cursor_eq id hid] at hid_kind
    rw [hext.isOutside_eq hid]
    exact h id hid hid_kind
  | inr heq =>
    rw [heq, cursor_add_nextId] at hid_kind
    rw [heq, isOutside_add_nextId hlexical, hid_kind, h scope.lexical hlexical hkind]
    rfl

end Builder

namespace Builder

variable {b : Builder} {found : Nat}

theorem mem_names_of_mem_typeFinds {scope : Nat} {written : WrittenType}
    (h : found ∈ b.typeFinds scope written) : ∃ key, (key, found) ∈ b.names := by
  cases written with
  | known type => contradiction
  | named name | tagged fallback name => exact mem_names_of_resolve (Option.mem_toList.mp h)
  | template name? arguments =>
    obtain ⟨name, -, hname⟩ := List.mem_flatMap.mp h
    exact mem_names_of_resolve (Option.mem_toList.mp hname)

theorem mem_names_of_mem_scopeFinds {scopes : List String} {scope : Scope}
    (h : found ∈ b.scopeFinds scopes scope) : ∃ key, (key, found) ∈ b.names := by
  unfold scopeFinds at h
  split at h
  · contradiction
  · exact mem_names_of_resolve (Option.mem_toList.mp h)

theorem mem_of_declaration? {name : ScopedName} {scope : Scope}
    (h : found ∈ b.declaration? name scope) :
    (b.cursor (b.resolveScope name.scopes scope)).kind.isRecord
      ∧ found ∈ b.childrenOf (b.resolveScope name.scopes scope) := by
  simp only [declaration?] at h
  split at h
  · next hmember => exact ⟨(Bool.and_eq_true_iff.mp hmember).1, List.mem_of_find?_eq_some h⟩
  · contradiction

end Builder

namespace Lowering.Action

variable {action : Action} {found : Nat}

theorem mem_names_of_mem_finds (h : found ∈ action.finds) :
    ∃ key, (key, found) ∈ action.before.names := by
  cases action with
  | type b scope written => exact Builder.mem_names_of_mem_typeFinds h
  | tag b id => contradiction
  | add b scope addition =>
    simp only [finds, Addition.finds] at h
    split at h
    · exact Builder.mem_names_of_mem_typeFinds h
    · exact Builder.mem_names_of_mem_scopeFinds h

theorem exists_of_declaration? (h : found ∈ action.declaration?) :
    ∃ record, (action.before.cursor record).kind.isRecord ∧ found ∈ action.before.childrenOf record
      ∧ (record = action.scope ∨ record ∈ action.finds) := by
  -- The declaration that an access level is taken from is a member of a record. The record is
  -- found by its name, or it is the scope of the addition.
  cases action with
  | type b scope written | tag b id => contradiction
  | add b scope addition =>
    cases addition with
    | function level form | object level form =>
      obtain ⟨hrecord, hmem⟩ := Builder.mem_of_declaration? h
      exact ⟨_, hrecord, hmem, b.resolveScope_eq_or_mem _ scope⟩
    | _ => contradiction

end Lowering.Action

namespace TranslationUnit

/--
Skipping bodies is the same as deleting them afterwards, provided that names outside of functions do not
stand for what is declared inside of functions.
-/
theorem ofParseTree_skipBodies (source : Source) (tree : ParseTree) (options : Options)
    (h : ∀ action ∈ trace source tree { options with skipBodies := false },
      action.before.isOutside CursorKind.isFunctionLike action.scope →
        ∀ found ∈ action.finds, action.before.isOutside CursorKind.isFunctionLike found) :
    ofParseTree source tree { options with skipBodies := true } =
      { (ofParseTree source tree { options with skipBodies := false }).without (· == .compoundStmt) with
        options := { options with skipBodies := true } } := by
  apply ofParseTree_leaveOut .bodies source tree options
  intro action haction houtside
  have hfinds := h action haction (houtside rfl)
  have hruns := runs_build source tree { options with skipBodies := false }
  have hb := (hruns.wellFormed_of_mem (wellFormed_start source tree) haction).1
  constructor
  · intro found hfound
    obtain ⟨key, hkey⟩ := action.mem_names_of_mem_finds hfound
    exact hb.isOutside_bodies (hb.namesBounded _ hkey) (hfinds found hfound)
  · intro found hfound
    obtain ⟨record, hrecord, hmember, hsource⟩ := action.exists_of_declaration? hfound
    obtain ⟨hlt, hparent⟩ := hb.mem_childrenOf.mp hmember
    have hrecord_lt := hb.lt_of_lexicalParent hlt hparent
    have hrecord_outside : action.before.isOutside CursorKind.isFunctionLike record := by
      cases hsource with
      | inl hscope =>
        rw [hscope]
        exact houtside rfl
      | inr hmem => exact hfinds record hmem
    exact hb.isOutside_bodies_of_mem_childrenOf hrecord hmember
      (hb.isOutside_bodies (by omega) hrecord_outside)

/-- A program that declares a structure in a function, and the type `T` outside of it. -/
def localTypeSource (name : String) : Source where
  path := "a.cpp"
  text := "typedef int T;\nvoid f() \x7b struct " ++ name ++ " \x7b\x7d; \x7d\nT x;"

def localTypeTree : ParseTree :=
  .node { label := "translation_unit", span := ⟨0, 45⟩ } [
    .node { label := "type_definition", span := ⟨0, 14⟩ } [
      .node { label := "primitive_type", field := some .type, span := ⟨8, 11⟩ } [],
      .node { label := "type_identifier", field := some .declarator, span := ⟨12, 13⟩ } []],
    .node { label := "function_definition", span := ⟨15, 40⟩ } [
      .node { label := "primitive_type", field := some .type, span := ⟨15, 19⟩ } [],
      .node { label := "function_declarator", field := some .declarator, span := ⟨20, 23⟩ } [
        .node { label := "identifier", field := some .declarator, span := ⟨20, 21⟩ } []],
      .node { label := "compound_statement", field := some .body, span := ⟨24, 40⟩ } [
        .node { label := "struct_specifier", span := ⟨26, 37⟩ } [
          .node { label := "type_identifier", field := some .name, span := ⟨33, 34⟩ } [],
          .node { label := "field_declaration_list", field := some .body, span := ⟨35, 37⟩ } []]]],
    .node { label := "declaration", span := ⟨41, 45⟩ } [
      .node { label := "type_identifier", field := some .type, span := ⟨41, 42⟩ } [],
      .node { label := "identifier", field := some .declarator, span := ⟨43, 44⟩ } []]]

theorem ofParseTree_skipBodies_of_localType :
    ofParseTree (localTypeSource "S") localTypeTree { skipBodies := true } =
      { (ofParseTree (localTypeSource "S") localTypeTree { skipBodies := false }).without
          (· == .compoundStmt) with
        options := { skipBodies := true } } :=
  ofParseTree_skipBodies (localTypeSource "S") localTypeTree {} (by decide +kernel)

/-- If the structure is called `T`, then it takes the place of the type outside of the function. -/
theorem ofParseTree_skipBodies_ne_without :
    (ofParseTree (localTypeSource "T") localTypeTree { skipBodies := true }).cursors ≠
      ((ofParseTree (localTypeSource "T") localTypeTree { skipBodies := false }).without
        (· == .compoundStmt)).cursors := by
  intro h
  have hskipped :
      ∃ x ∈ (ofParseTree (localTypeSource "T") localTypeTree { skipBodies := true }).cursors,
        x.kind = .varDecl ∧ x.type = some { kind := .typedefName, spelling := "T" } := by
    decide +kernel
  have hfull :
      ∀ x ∈ (ofParseTree (localTypeSource "T") localTypeTree { skipBodies := false }).cursors,
        x.kind = .varDecl → x.type ≠ some { kind := .typedefName, spelling := "T" } := by
    decide +kernel
  obtain ⟨x, hx, hkind, htype⟩ := hskipped
  rw [h] at hx
  obtain ⟨kept, hkept, rfl⟩ := exists_of_mem_without hx
  exact hfull kept hkept hkind htype

/--
Without the preprocessing record a unit is the same as with the record deleted afterwards, provided that
no member takes its access level from a part of the record.
-/
theorem ofParseTree_detailed (source : Source) (tree : ParseTree) (options : Options)
    (h : ∀ action ∈ trace source tree { options with detailed := true },
      ∀ found ∈ action.declaration?, (action.before.cursor found).kind ≠ .macroDefinition
        ∧ (action.before.cursor found).kind ≠ .inclusionDirective) :
    ofParseTree source tree { options with detailed := false } =
      { (ofParseTree source tree { options with detailed := true }).without
          fun kind => kind == .macroDefinition || kind == .inclusionDirective with
        options := { options with detailed := false } } := by
  apply ofParseTree_leaveOut .preprocessing source tree options
  intro action haction _
  have hruns := runs_build source tree { options with detailed := true }
  have hb := (hruns.wellFormed_of_mem (wellFormed_start source tree) haction).1
  have hempty : action.before.DetailsEmpty := by
    apply hruns.preserves (fun hb hscope hempty => hempty.add hb hscope _)
      (wellFormed_start source tree) ?_ action haction
    intro id hid _
    obtain rfl : id = 0 := Nat.lt_one_iff.mp hid
    exact isOutside_start source tree rfl
  constructor
  · intro found hfound
    obtain ⟨key, hkey⟩ := action.mem_names_of_mem_finds hfound
    obtain ⟨hlt, howner⟩ := hb.names _ hkey
    exact hempty found hlt (Builder.kinds_preprocessing_of_isOwner howner)
  · intro found hfound
    obtain ⟨record, -, hmember, -⟩ := action.exists_of_declaration? hfound
    have hkind := h action haction found hfound
    exact hempty found (hb.mem_childrenOf.mp hmember).1 (by simp [Part.kinds, hkind])

/-- A program that defines a macro among the members of a record, one of which is defined outside. -/
def memberMacroSource (name : String) : Source where
  path := "a.cpp"
  text := "struct C \x7b\n#define " ++ name ++ " " ++ name ++ "\nvoid f();\n\x7d;\nvoid C::f() \x7b\x7d"

def memberMacroTree : ParseTree :=
  .node { label := "translation_unit", span := ⟨0, 50⟩ } [
    .node { label := "struct_specifier", span := ⟨0, 34⟩ } [
      .node { label := "type_identifier", field := some .name, span := ⟨7, 8⟩ } [],
      .node { label := "field_declaration_list", field := some .body, span := ⟨9, 34⟩ } [
        .node { label := "preproc_def", span := ⟨11, 23⟩ } [
          .node { label := "identifier", field := some .name, span := ⟨19, 20⟩ } []],
        .node { label := "field_declaration", span := ⟨23, 32⟩ } [
          .node { label := "primitive_type", field := some .type, span := ⟨23, 27⟩ } [],
          .node { label := "function_declarator", field := some .declarator, span := ⟨28, 31⟩ } [
            .node { label := "field_identifier", field := some .declarator, span := ⟨28, 29⟩ } []]]]],
    .node { label := "function_definition", span := ⟨36, 50⟩ } [
      .node { label := "primitive_type", field := some .type, span := ⟨36, 40⟩ } [],
      .node { label := "function_declarator", field := some .declarator, span := ⟨41, 47⟩ } [
        .node { label := "qualified_identifier", field := some .declarator, span := ⟨41, 45⟩ } [
          .node { label := "namespace_identifier", field := some .scope, span := ⟨41, 42⟩ } [],
          .node { label := "identifier", field := some .name, span := ⟨44, 45⟩ } []]],
      .node { label := "compound_statement", field := some .body, span := ⟨48, 50⟩ } []]]

theorem ofParseTree_detailed_of_memberMacro :
    ofParseTree (memberMacroSource "g") memberMacroTree { detailed := false } =
      { (ofParseTree (memberMacroSource "g") memberMacroTree { detailed := true }).without
          fun kind => kind == .macroDefinition || kind == .inclusionDirective with
        options := { detailed := false } } :=
  ofParseTree_detailed (memberMacroSource "g") memberMacroTree {} (by decide +kernel)

/-- If the macro is called like the member, then the member has the access level of the macro. -/
theorem ofParseTree_detailed_ne_without :
    (ofParseTree (memberMacroSource "f") memberMacroTree { detailed := false }).cursors ≠
      ((ofParseTree (memberMacroSource "f") memberMacroTree { detailed := true }).without
        fun kind => kind == .macroDefinition || kind == .inclusionDirective).cursors := by
  intro h
  have hplain :
      ∃ f ∈ (ofParseTree (memberMacroSource "f") memberMacroTree { detailed := false }).cursors,
        f.kind = .method ∧ f.isDefinition ∧ f.access = .publicAccess := by
    decide +kernel
  have hfull :
      ∀ f ∈ (ofParseTree (memberMacroSource "f") memberMacroTree { detailed := true }).cursors,
        f.kind = .method → f.isDefinition → f.access ≠ .publicAccess := by
    decide +kernel
  obtain ⟨f, hf, hkind, hdefinition, haccess⟩ := hplain
  rw [h] at hf
  obtain ⟨kept, hkept, rfl⟩ := exists_of_mem_without hf
  exact hfull kept hkept hkind hdefinition haccess

end TranslationUnit
end CursorQuery
