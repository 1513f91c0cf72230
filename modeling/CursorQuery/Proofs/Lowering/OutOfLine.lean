import CursorQuery.Proofs.Lowering.Access

/-!
This module contains the access levels of what is lowered outside of the record that it belongs to. The
record has all of its members by then, and the level is taken from the first of them with the same name,
whatever this one declares. Records do not take a level from anywhere.
-/

namespace CursorQuery

namespace CursorKind

def isVariable (kind : CursorKind) : Bool :=
  kind == .varDecl || kind == .fieldDecl

/-- Both kinds are of functions, both are of variables or both are of records. -/
def isLike (kind other : CursorKind) : Bool :=
  kind.isFunctionLike && other.isFunctionLike || kind.isVariable && other.isVariable
    || kind.isRecord && other.isRecord

theorem isLike_cases {kind other : CursorKind} (h : kind.isLike other) :
    other.isRecord ∧ other.takesLevel
      ∨ other.isRecord = false ∧ other.isVariable ∧ other.takesLevel
      ∨ other.isRecord = false ∧ other.isFunctionLike := by
  cases other with
  | _ => simp_all [isLike, isRecord, isVariable, takesLevel, isFunctionLike]

theorem ne_accessSpecifier_of_isLike {kind other : CursorKind} (h : kind.isLike other) :
    kind ≠ .accessSpecifier := by
  rintro rfl
  simp [isLike, isRecord, isVariable, isFunctionLike] at h

end CursorKind

namespace Builder

variable {b : Builder} {owner id c : Nat}

theorem WellFormed.lt_of_mem_childrenOf (hb : b.WellFormed) (hlt : owner < id)
    (houtside : owner ∉ b.lexicalPath id) (hc : c ∈ b.childrenOf owner) : c < id := by
  -- Once the path has left a cursor, no more children are put into it.
  rw [hb.mem_childrenOf] at hc
  obtain ⟨hbound, hparent⟩ := hc
  by_contra hle
  have hpath := hb.not_mem_lexicalPath hlt houtside (Nat.le_of_not_lt hle) hbound
  rw [lexicalPath_eq_cons hparent (hb.lt_of_lexicalParent hbound hparent)] at hpath
  exact hpath (List.mem_cons_of_mem _ (b.mem_lexicalPath_self owner))

end Builder

namespace Addition

variable {b : Builder} {scope : Scope} {addition : Addition}

theorem access_placed_member (houtside : scope.inRecord = false)
    (howner : (b.cursor (b.resolveScope addition.scopes scope)).kind.isRecord)
    (hkind : (addition.placed b scope).kind.isVariable
      ∨ (addition.placed b scope).kind.isFunctionLike) :
    (addition.placed b scope).access =
      b.declaredAccess (b.resolveScope addition.scopes scope) (addition.placed b scope).spelling := by
  cases addition with
  | function level form =>
    have howner : (b.cursor (b.resolveScope form.declarator.name.scopes scope)).kind.isRecord := howner
    simp [placed, cursor, functionCursor, functionAccess, houtside, howner, scopes]
  | object level form =>
    have howner : (b.cursor (b.resolveScope form.declarator.name.scopes scope)).kind.isRecord := howner
    simp [placed, cursor, objectCursor, objectAccess, houtside, howner, scopes]
  | _ =>
    rw [kind_placed_of_kinds CursorKind.isVariable rfl,
      kind_placed_of_kinds CursorKind.isFunctionLike rfl] at hkind
    simp at hkind

end Addition

namespace TranslationUnit

/-- The cursor belongs to a record, and it is not lowered inside of it. -/
structure IsOutOfLine (unit : TranslationUnit) (owner v : Fin unit.cursors.size) : Prop where
  semanticParent : unit.model.semanticParent v = some owner
  isRecord : (unit.cursor owner).kind.isRecord
  outside : v ∉ unit.model.descendants owner

/-- The record has `c` as a member, which looks like a declaration of `v`. -/
structure IsDeclaredAs (unit : TranslationUnit) (owner v c : Fin unit.cursors.size) : Prop where
  mem_children : c ∈ unit.model.children owner
  isLike : (unit.cursor c).kind.isLike (unit.cursor v).kind
  spelling : (unit.cursor c).spelling = (unit.cursor v).spelling
  displayName : (unit.cursor c).displayName = (unit.cursor v).displayName

/-- The first member of a record with the given spelling. Labels do not count. -/
def firstMember? (unit : TranslationUnit) (owner : Fin unit.cursors.size) (spelling : String) :
    Option (Fin unit.cursors.size) :=
  (unit.children owner).find? fun c =>
    (unit.cursor c).spelling == spelling && (unit.cursor c).kind != .accessSpecifier

variable {source : Source} {tree : ParseTree} {options : Options}
  {v owner c : Fin (ofParseTree source tree options).cursors.size}

theorem mem_descendants_ofParseTree :
    v ∈ (ofParseTree source tree options).model.descendants owner ↔
      owner.val ∈ (build source tree options).lexicalPath v := by
  rw [Model.descendants_eq_listing]
  exact mem_listing_ofParseTree

theorem children_lt_of_isOutOfLine (h : (ofParseTree source tree options).IsOutOfLine owner v) :
    ∀ c ∈ (ofParseTree source tree options).children owner, c < v := by
  have hb := wellFormed_build source tree options
  intro c hc
  apply hb.lt_of_mem_childrenOf (semanticParent_lt h.semanticParent) ?_ (mem_children_ofParseTree.mp hc)
  exact fun hpath => h.outside (mem_descendants_ofParseTree.mpr hpath)

theorem declaredAccess_of_isOutOfLine {before : Builder} {scope : Scope} {addition : Addition}
    (hmem : .add before scope addition ∈ trace source tree options) (hv : before.nextId = v)
    (h : (ofParseTree source tree options).IsOutOfLine owner v) (spelling : String) :
    before.declaredAccess owner spelling =
      (((ofParseTree source tree options).firstMember? owner spelling).map fun first =>
        ((ofParseTree source tree options).cursor first).access).getD .noAccess := by
  let unit := ofParseTree source tree options
  have hbuilt := wellFormed_build source tree options
  obtain ⟨hb, -, -⟩ := wellFormed_of_mem_trace hmem
  have hext := (before.extends_add scope addition).trans
    ((runs_build source tree options).of_mem_add hmem).2
  have howner : owner.val < before.nextId := by
    rw [hv]
    exact semanticParent_lt h.semanticParent
  -- The record is closed already, so all of its members are there.
  have hearlier : ∀ c ∈ unit.children owner, c.val < before.nextId := by
    rw [hv]
    exact children_lt_of_isOutOfLine h
  have hchildren : before.childrenOf owner = (unit.children owner).map (·.val) := by
    rw [hb.childrenOf_of_extends hbuilt hext howner, ← map_val_children_ofParseTree,
      List.filter_eq_self, List.forall_mem_map]
    intro c hc
    simpa using hearlier c hc
  have hfind : (unit.children owner).find? (before.declares spelling ∘ Fin.val) =
      unit.firstMember? owner spelling := by
    unfold firstMember?
    apply List.find?_congr
    intro c hc
    have hcursor : unit.cursor c = before.cursor c :=
      cursor_ofParseTree_of_mem_trace hmem (hearlier c hc)
    simp only [Function.comp_apply, Builder.declares, hcursor]
  unfold Builder.declaredAccess
  rw [hchildren, List.find?_map, hfind]
  cases hfirst : unit.firstMember? owner spelling with
  | none => rfl
  | some first =>
    have hcursor : unit.cursor first = before.cursor first :=
      cursor_ofParseTree_of_mem_trace hmem (hearlier first (List.mem_of_find?_eq_some hfirst))
    exact congrArg (·.access) hcursor.symm

theorem exists_addition_of_isOutOfLine (h : (ofParseTree source tree options).IsOutOfLine owner v) :
    ∃ before scope addition, .add before scope addition ∈ trace source tree options
      ∧ before.nextId = v.val ∧ before.resolveScope addition.scopes scope = owner.val
      ∧ (before.cursor (before.resolveScope addition.scopes scope)).kind.isRecord := by
  have hlt := semanticParent_lt h.semanticParent
  have hroot : v.val ≠ Cursor.root := Nat.ne_of_gt (Nat.lt_of_le_of_lt (Nat.zero_le _) hlt)
  obtain ⟨before, scope, addition, hmem, hv⟩ := exists_mem_trace hroot
  have hplaced := semanticParent_of_model h.semanticParent
  rw [cursor_of_mem_trace hmem hv] at hplaced
  exact ⟨before, scope, addition, hmem, hv, Option.some.inj hplaced,
    (belongsToRecord_semanticParent hmem hv).mp ⟨owner, h.semanticParent, h.isRecord⟩⟩

theorem inRecord_of_outside {before : Builder} {scope : Scope} {addition : Addition}
    (hmem : .add before scope addition ∈ trace source tree options) (hv : before.nextId = v)
    (houtside : ¬BelongsToRecord _ (ofParseTree source tree options).model.lexicalParent v) :
    scope.inRecord = false := by
  have hlt := (hasOrigin_trace source tree options _ hmem).1.lexical_lt
  rw [hv] at hlt
  have hparent : (ofParseTree source tree options).model.lexicalParent v =
      some ⟨scope.lexical, Nat.lt_trans hlt v.isLt⟩ := by
    apply lexicalParent_ofParseTree ?_ hlt
    rw [← cursor_ofParseTree, cursor_of_mem_trace hmem hv]
    rfl
  rw [(lexicalParent_of_mem_trace hmem hv hparent).2, Bool.eq_false_iff]
  exact fun hrecord => houtside ⟨_, hparent, hrecord⟩

theorem access_of_isOutOfLine (h : (ofParseTree source tree options).IsOutOfLine owner v)
    (hlexical : ¬BelongsToRecord _ (ofParseTree source tree options).model.lexicalParent v)
    (hkind : ((ofParseTree source tree options).cursor v).kind.isVariable
      ∨ ((ofParseTree source tree options).cursor v).kind.isFunctionLike) :
    ((ofParseTree source tree options).cursor v).access =
      (((ofParseTree source tree options).firstMember? owner
          ((ofParseTree source tree options).cursor v).spelling).map fun first =>
        ((ofParseTree source tree options).cursor first).access).getD .noAccess := by
  obtain ⟨before, scope, addition, hmem, hv, howner, hrecord⟩ := exists_addition_of_isOutOfLine h
  rw [← declaredAccess_of_isOutOfLine hmem hv h]
  rw [cursor_of_mem_trace hmem hv] at hkind ⊢
  rw [← howner]
  exact Addition.access_placed_member (inRecord_of_outside hmem hv hlexical) hrecord hkind

theorem exists_specifier_of_isRecord (h : ((ofParseTree source tree options).cursor v).kind.isRecord) :
    ∃ before scope level template head specifier,
      .add before scope (.record level template head) ∈ trace source tree options
      ∧ before.nextId = v.val ∧ LoweredFrom source tree options v specifier
      ∧ specifier.kind = .record head.keyword := by
  obtain ⟨before, scope, addition, hmem, hv⟩ :=
    exists_mem_trace (ne_root_of_kind CursorKind.isRecord rfl h)
  rw [cursor_of_mem_trace hmem hv] at h
  obtain ⟨level, template, head, rfl⟩ := Addition.eq_record h
  obtain ⟨specifier, keyword, hcontains, hkind, rfl⟩ := (hasOrigin_trace source tree options _ hmem).2
  exact ⟨before, scope, level, template, _, specifier, hmem, hv,
    ⟨hcontains, before, scope, _, hmem, hv, keyword, hkind, rfl⟩, hkind⟩

theorem exists_firstMember?_of_isDeclaredAs
    (h : (ofParseTree source tree options).IsDeclaredAs owner v c) :
    ∃ first, (ofParseTree source tree options).firstMember? owner
        ((ofParseTree source tree options).cursor v).spelling = some first ∧ first ≤ c := by
  -- The search for the first member comes to the declaration at the latest.
  have hfound : ((ofParseTree source tree options).cursor c).spelling ==
        ((ofParseTree source tree options).cursor v).spelling
      && ((ofParseTree source tree options).cursor c).kind != .accessSpecifier := by
    simp [h.spelling, CursorKind.ne_accessSpecifier_of_isLike h.isLike]
  have hsorted := (wellFormed_build source tree options).pairwise_childrenOf owner
  rw [← map_val_children_ofParseTree, List.pairwise_map] at hsorted
  have hsome : ((ofParseTree source tree options).firstMember? owner
      ((ofParseTree source tree options).cursor v).spelling).isSome := by
    unfold firstMember?
    rw [List.find?_isSome]
    exact ⟨c, h.mem_children, hfound⟩
  obtain ⟨first, hfirst⟩ := Option.isSome_iff_exists.mp hsome
  refine ⟨first, hfirst, ?_⟩
  obtain ⟨-, earlier, later, hchildren, hearlier⟩ := List.find?_eq_some_iff_append.mp hfirst
  rw [hchildren, List.pairwise_append, List.pairwise_cons] at hsorted
  have hmem : c ∈ (ofParseTree source tree options).children owner := h.mem_children
  rw [hchildren, List.mem_append, List.mem_cons] at hmem
  obtain hc | rfl | hc := hmem
  · have := hearlier c hc
    rw [hfound] at this
    contradiction
  · exact le_refl _
  · exact le_of_lt (hsorted.2.1.1 c hc)

/--
Outside of all records, a function or a variable takes the access level of the first member of its
record with its name, and a record has no access level. Inside of another record the level that is in
effect there is taken. So an access level is the one of the declaration exactly if this happens to be
the same.
-/
theorem ofParseTree_access_outOfLine (source : Source) (tree : ParseTree) (options : Options) :
    let unit := ofParseTree source tree options
    ∀ owner v c, unit.IsOutOfLine owner v → unit.IsDeclaredAs owner v c →
      let agrees := (unit.cursor v).access = (unit.cursor c).access
      (¬unit.BelongsToRecord unit.model.lexicalParent v →
        if (unit.cursor v).kind.isRecord then agrees ↔ (unit.cursor c).access = .noAccess
        else ∃ first, unit.firstMember? owner (unit.cursor v).spelling = some first ∧ first ≤ c
          ∧ (agrees ↔ (unit.cursor first).access = (unit.cursor c).access))
      ∧ ∀ around earlier later, (unit.cursor around).kind.isRecord →
        unit.model.children around = earlier ++ v :: later → ∃ specifier keyword,
          LoweredFrom source tree options around specifier ∧ specifier.kind = .record keyword
          ∧ (agrees ↔ (Addition.defaultAccess keyword).afterLabels (earlier.map unit.cursor) =
            (unit.cursor c).access) := by
  intro unit owner v c h hdeclared agrees
  have hkind := CursorKind.isLike_cases hdeclared.isLike
  constructor
  -- Outside of records the level is that of the first member with the name. Only records have none
  -- at all.
  · intro hlexical
    split
    · next hrecord =>
      have hnone : (unit.cursor v).access = .noAccess := by
        refine (access_of_outside hlexical).resolve_right ?_
        rintro ⟨hlike | hvariable, -⟩
        · rw [CursorKind.isRecord_of_isFunctionLike hlike] at hrecord
          contradiction
        · rw [hvariable] at hrecord
          contradiction
      simp only [agrees, hnone, eq_comm]
    · next hrecord =>
      obtain ⟨first, hfirst, hle⟩ := exists_firstMember?_of_isDeclaredAs hdeclared
      have hmember : (unit.cursor v).kind.isVariable ∨ (unit.cursor v).kind.isFunctionLike := by
        obtain h | h | h := hkind
        · exact absurd h.1 hrecord
        · exact .inl h.2.1
        · exact .inr h.2
      have haccess : (unit.cursor v).access = (unit.cursor first).access := by
        rw [access_of_isOutOfLine h hlexical hmember, hfirst]
        rfl
      refine ⟨first, hfirst, hle, ?_⟩
      simp only [agrees, haccess]
  -- In another record the labels of that record count.
  · intro around earlier later hrecord hchildren
    obtain ⟨before, scope, level, template, head, specifier, hmem, hid, hlowered, hspecifier⟩ :=
      exists_specifier_of_isRecord hrecord
    have haccess := access_eq_afterLabels hmem hid hchildren (by
      obtain h' | h' | h' := hkind
      · exact .inl h'.2
      · exact .inl h'.2.2
      · exact .inr ⟨h'.2, owner, h.semanticParent, h.isRecord⟩)
    refine ⟨specifier, head.keyword, hlowered, hspecifier, ?_⟩
    rw [← haccess]

/-- A class with a public and a private function of the same name. The private one is defined after it. -/
def overloadSource : Source where
  path := "a.cpp"
  text := "class A \x7b public: void f(); private: void f(int); \x7d; void A::f(int) \x7b\x7d"

def overloadTree : ParseTree :=
  .node { label := "translation_unit", span := ⟨0, 70⟩ } [
    .node { label := "class_specifier", span := ⟨0, 51⟩ } [
      .node { label := "type_identifier", field := some .name, span := ⟨6, 7⟩ } [],
      .node { label := "field_declaration_list", field := some .body, span := ⟨8, 51⟩ } [
        .node { label := "access_specifier", span := ⟨10, 16⟩ } [],
        .node { label := "field_declaration", span := ⟨18, 27⟩ } [
          .node { label := "primitive_type", field := some .type, span := ⟨18, 22⟩ } [],
          .node { label := "function_declarator", field := some .declarator, span := ⟨23, 26⟩ } [
            .node { label := "field_identifier", field := some .declarator, span := ⟨23, 24⟩ } [],
            .node { label := "parameter_list", field := some .parameters, span := ⟨24, 26⟩ } []]],
        .node { label := "access_specifier", span := ⟨28, 35⟩ } [],
        .node { label := "field_declaration", span := ⟨37, 49⟩ } [
          .node { label := "primitive_type", field := some .type, span := ⟨37, 41⟩ } [],
          .node { label := "function_declarator", field := some .declarator, span := ⟨42, 48⟩ } [
            .node { label := "field_identifier", field := some .declarator, span := ⟨42, 43⟩ } [],
            .node { label := "parameter_list", field := some .parameters, span := ⟨43, 48⟩ } [
              .node { label := "parameter_declaration", span := ⟨44, 47⟩ } [
                .node { label := "primitive_type", field := some .type, span := ⟨44, 47⟩ } []]]]]]],
    .node { label := "function_definition", span := ⟨53, 70⟩ } [
      .node { label := "primitive_type", field := some .type, span := ⟨53, 57⟩ } [],
      .node { label := "function_declarator", field := some .declarator, span := ⟨58, 67⟩ } [
        .node { label := "qualified_identifier", field := some .declarator, span := ⟨58, 62⟩ } [
          .node { label := "namespace_identifier", field := some .scope, span := ⟨58, 59⟩ } [],
          .node { label := "identifier", field := some .name, span := ⟨61, 62⟩ } []],
        .node { label := "parameter_list", field := some .parameters, span := ⟨62, 67⟩ } [
          .node { label := "parameter_declaration", span := ⟨63, 66⟩ } [
            .node { label := "primitive_type", field := some .type, span := ⟨63, 66⟩ } []]]],
      .node { label := "compound_statement", field := some .body, span := ⟨68, 70⟩ } []]]

theorem size_overload : (ofParseTree overloadSource overloadTree).cursors.size = 10 := by
  decide +kernel

def overloadCursor (id : Fin 10) : Fin (ofParseTree overloadSource overloadTree).cursors.size :=
  ⟨id, by rw [size_overload]; exact id.isLt⟩

theorem overload_cursors :
    let unit := ofParseTree overloadSource overloadTree
    let owner := overloadCursor 1
    let v := overloadCursor 7
    let c := overloadCursor 5
    (unit.model.semanticParent v = some owner ∧ (unit.cursor owner).kind.isRecord
      ∧ owner.val ∉ (build overloadSource overloadTree {}).lexicalPath v)
    ∧ (c ∈ unit.model.children owner ∧ (unit.cursor c).kind.isLike (unit.cursor v).kind
      ∧ (unit.cursor c).spelling = (unit.cursor v).spelling
      ∧ (unit.cursor c).displayName = (unit.cursor v).displayName)
    ∧ (∀ d ∈ unit.model.children owner,
      (unit.cursor d).displayName = (unit.cursor v).displayName → d = c)
    ∧ ((unit.cursor c).access = .privateAccess ∧ (unit.cursor v).access = .publicAccess
      ∧ (unit.cursor v).kind.isRecord = false)
    ∧ unit.model.lexicalParent v = some (overloadCursor 0)
      ∧ (unit.cursor (overloadCursor 0)).kind.isRecord = false := by
  decide +kernel

theorem isOutOfLine_overload :
    (ofParseTree overloadSource overloadTree).IsOutOfLine (overloadCursor 1) (overloadCursor 7) := by
  obtain ⟨⟨hparent, hrecord, hpath⟩, -⟩ := overload_cursors
  refine ⟨hparent, hrecord, ?_⟩
  rwa [mem_descendants_ofParseTree]

theorem isDeclaredAs_overload :
    (ofParseTree overloadSource overloadTree).IsDeclaredAs (overloadCursor 1) (overloadCursor 7)
      (overloadCursor 5) := by
  obtain ⟨-, ⟨hmem, hlike, hspelling, hdisplayName⟩, -⟩ := overload_cursors
  exact ⟨hmem, hlike, hspelling, hdisplayName⟩

theorem ofParseTree_access_outOfLine_overload :
    let unit := ofParseTree overloadSource overloadTree
    let v := overloadCursor 7
    let c := overloadCursor 5
    unit.IsOutOfLine (overloadCursor 1) v ∧ unit.IsDeclaredAs (overloadCursor 1) v c
    ∧ ∃ first, unit.firstMember? (overloadCursor 1) (unit.cursor v).spelling = some first ∧ first ≤ c
      ∧ ((unit.cursor v).access = (unit.cursor c).access ↔
        (unit.cursor first).access = (unit.cursor c).access) := by
  intro unit v c
  obtain ⟨-, -, -, ⟨-, -, hkind⟩, hlexical, houter⟩ := overload_cursors
  have h := (ofParseTree_access_outOfLine overloadSource overloadTree {} _ _ _ isOutOfLine_overload
    isDeclaredAs_overload).1
  rw [if_neg (by simp [hkind])] at h
  refine ⟨isOutOfLine_overload, isDeclaredAs_overload, h ?_⟩
  rintro ⟨around, haround, hrecord⟩
  rw [hlexical] at haround
  obtain rfl := Option.some.inj haround
  rw [houter] at hrecord
  contradiction

/-- The private function is defined with the access level of the public one. -/
theorem access_overload_ne_declared :
    ¬∀ owner v c, (ofParseTree overloadSource overloadTree).IsOutOfLine owner v →
      (∀ d, (ofParseTree overloadSource overloadTree).IsDeclaredAs owner v d ↔ d = c) →
      ((ofParseTree overloadSource overloadTree).cursor v).access =
        ((ofParseTree overloadSource overloadTree).cursor c).access := by
  intro h
  obtain ⟨-, -, honly, ⟨hprivate, hpublic, -⟩, -⟩ := overload_cursors
  have hunique : ∀ d, (ofParseTree overloadSource overloadTree).IsDeclaredAs (overloadCursor 1)
      (overloadCursor 7) d ↔ d = overloadCursor 5 := by
    intro d
    constructor
    · intro hd
      exact honly d hd.mem_children hd.displayName
    · rintro rfl
      exact isDeclaredAs_overload
  have haccess := h _ _ _ isOutOfLine_overload hunique
  rw [hprivate, hpublic] at haccess
  contradiction

end TranslationUnit
end CursorQuery
