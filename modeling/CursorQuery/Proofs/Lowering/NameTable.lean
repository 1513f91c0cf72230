import CursorQuery.Proofs.Lowering.Names
import CursorQuery.Proofs.Lowering.Origin
import CursorQuery.Proofs.Lowering.SemanticParent

/-!
This module contains what the table of names says. Among the cursors that go by a name, the table has
the latest definition, and the latest declaration as long as there is no definition. One addition puts
at most one entry in front, so it is enough to compare the new cursor with the entry that it replaces
or leaves in place.
-/

namespace CursorQuery

namespace CursorKind

def isNameable (kind : CursorKind) : Bool :=
  kind == .namespaceDecl || kind.isRecord || kind == .enumDecl || kind == .typedefDecl
    || kind == .typeAliasDecl

end CursorKind

namespace TypeKind

def isIntroducedBy : TypeKind → CursorKind → Bool
  | record, kind => kind.isRecord
  | enumeration, kind => kind == .enumDecl
  | typedefName, kind => kind == .typedefDecl || kind == .typeAliasDecl
  | _, _ => false

end TypeKind

/-- The answer is the latest candidate that is a definition, or the latest of all candidates if none of
them is one; there is no answer if there is no candidate. -/
inductive IsLatest (candidate isDefinition : Nat → Prop) : Option Nat → Prop where
  | definition {id : Nat} (hid : candidate id) (hdefinition : isDefinition id)
      (latest : ∀ other, candidate other → isDefinition other → other ≤ id) :
      IsLatest candidate isDefinition (some id)
  | declaration {id : Nat} (hid : candidate id)
      (undefined : ∀ other, candidate other → ¬isDefinition other)
      (latest : ∀ other, candidate other → other ≤ id) :
      IsLatest candidate isDefinition (some id)
  | none (h : ∀ id, ¬candidate id) : IsLatest candidate isDefinition none

theorem IsLatest.candidate {candidate isDefinition : Nat → Prop} {id : Nat}
    (h : IsLatest candidate isDefinition (some id)) : candidate id := by
  cases h with
  | definition hid => exact hid
  | declaration hid => exact hid

namespace Builder

/-- The cursor can be looked up by this name: it is of a kind that can be, it has a name, and it is none
of the specializations. -/
structure GoesBy (b : Builder) (specialized : Nat → Prop) (name : String) (id : Nat) : Prop where
  lt : id < b.nextId
  kind : (b.cursor id).kind.isNameable
  spelled : (b.cursor id).spelling ≠ ""
  general : ¬specialized id
  qualifiedName : (b.cursor id).qualifiedName = name

def IsDefinition (b : Builder) (id : Nat) : Prop :=
  (b.cursor id).isDefinition

def NamesLatest (b : Builder) (specialized : Nat → Prop) : Prop :=
  ∀ name, IsLatest (b.GoesBy specialized name) b.IsDefinition (b.names.lookup name)

variable {b : Builder} {scope : Scope} {addition : Addition} {specialized : Nat → Prop}
  {name : String} {id : Nat}

theorem goesBy_add_of_lt (hid : id < b.nextId) :
    (b.add scope addition).GoesBy specialized name id ↔ b.GoesBy specialized name id := by
  have hcursor : (b.add scope addition).cursor id = b.cursor id := cursor_add_of_lt hid
  constructor
  · rintro ⟨_, hkind, hspelled, hgeneral, hname⟩
    rw [hcursor] at hkind hspelled hname
    exact ⟨hid, hkind, hspelled, hgeneral, hname⟩
  · rintro ⟨_, hkind, hspelled, hgeneral, hname⟩
    rw [← hcursor] at hkind hspelled hname
    exact ⟨by rw [nextId_add]; omega, hkind, hspelled, hgeneral, hname⟩

theorem goesBy_add_nextId
    (hregistered : addition.isRegistered ↔
      (addition.placed b scope).kind.isNameable ∧ ¬specialized b.nextId) :
    (b.add scope addition).GoesBy specialized name b.nextId ↔
      addition.isRegistered ∧ (addition.placed b scope).spelling ≠ ""
        ∧ (addition.placed b scope).qualifiedName = name := by
  have hcursor := cursor_add_nextId b scope addition
  constructor
  · rintro ⟨_, hkind, hspelled, hgeneral, hname⟩
    rw [hcursor] at hkind hspelled hname
    exact ⟨hregistered.mpr ⟨hkind, hgeneral⟩, hspelled, hname⟩
  · rintro ⟨hadded, hspelled, hname⟩
    obtain ⟨hkind, hgeneral⟩ := hregistered.mp hadded
    rw [← hcursor] at hkind hspelled hname
    exact ⟨by simp, hkind, hspelled, hgeneral, hname⟩

theorem isDefinition_add_of_lt (hid : id < b.nextId) :
    (b.add scope addition).IsDefinition id ↔ b.IsDefinition id := by
  unfold IsDefinition
  rw [cursor_add_of_lt hid]

theorem isDefinition_add_nextId :
    (b.add scope addition).IsDefinition b.nextId ↔ (addition.placed b scope).isDefinition := by
  unfold IsDefinition
  rw [cursor_add_nextId]

theorem lt_or_eq_of_goesBy_add (h : (b.add scope addition).GoesBy specialized name id) :
    id < b.nextId ∨ id = b.nextId := by
  have hlt := h.lt
  rw [nextId_add] at hlt
  omega

theorem isDefined_of_lookup (h : b.names.lookup name = some id) :
    b.isDefined name = true ↔ b.IsDefinition id := by
  unfold isDefined IsDefinition
  rw [h]

theorem NamesLatest.not_isDefinition (h : b.NamesLatest specialized)
    (hundefined : b.isDefined name = false) (hid : b.GoesBy specialized name id) :
    ¬b.IsDefinition id := by
  have hname := h name
  generalize hlookup : b.names.lookup name = found? at hname
  cases hname with
  | definition _ hdefinition =>
    rw [← isDefined_of_lookup hlookup, hundefined] at hdefinition
    contradiction
  | declaration _ undefined => exact undefined id hid
  | none hnone => exact absurd hid (hnone id)

theorem NamesLatest.isLatest_nextId (h : b.NamesLatest specialized)
    (hregistered : addition.isRegistered ↔
      (addition.placed b scope).kind.isNameable ∧ ¬specialized b.nextId)
    (hentered : addition.isEntered b scope)
    (hname : name = (addition.placed b scope).qualifiedName) :
    IsLatest ((b.add scope addition).GoesBy specialized name)
      (b.add scope addition).IsDefinition (some b.nextId) := by
  obtain ⟨hadded, hspelled, hreplaces⟩ := Addition.isEntered_iff.mp hentered
  have hgoes := (goesBy_add_nextId hregistered).mpr ⟨hadded, hspelled, hname.symm⟩
  have hlatest : ∀ other, (b.add scope addition).GoesBy specialized name other →
      other ≤ b.nextId := by
    intro other hother
    have := lt_or_eq_of_goesBy_add hother
    omega
  by_cases hdefinition : (addition.placed b scope).isDefinition
  · exact .definition hgoes (isDefinition_add_nextId.mpr hdefinition)
      fun other hother _ => hlatest other hother
  · -- A mere declaration takes the place of declarations only.
    have hundefined : b.isDefined name = false := by
      rw [hname]
      exact hreplaces.resolve_left hdefinition
    refine .declaration hgoes ?_ hlatest
    intro other hother
    cases lt_or_eq_of_goesBy_add hother with
    | inl hold =>
      rw [isDefinition_add_of_lt hold]
      exact h.not_isDefinition hundefined ((goesBy_add_of_lt hold).mp hother)
    | inr hnew =>
      rw [hnew, isDefinition_add_nextId]
      exact hdefinition

theorem not_entered_of_goesBy
    (hregistered : addition.isRegistered ↔
      (addition.placed b scope).kind.isNameable ∧ ¬specialized b.nextId)
    (hnew : ¬(addition.isEntered b scope ∧ name = (addition.placed b scope).qualifiedName))
    (hgoes : (b.add scope addition).GoesBy specialized name b.nextId) :
    ¬(b.add scope addition).IsDefinition b.nextId ∧ b.isDefined name = true := by
  obtain ⟨hadded, hspelled, hname⟩ := (goesBy_add_nextId hregistered).mp hgoes
  rw [isDefinition_add_nextId]
  constructor
  · intro hdefinition
    exact hnew ⟨Addition.isEntered_iff.mpr ⟨hadded, hspelled, .inl hdefinition⟩, hname.symm⟩
  · cases hdefined : b.isDefined name with
    | true => rfl
    | false =>
      rw [← hname] at hdefined
      exact absurd ⟨Addition.isEntered_iff.mpr ⟨hadded, hspelled, .inr hdefined⟩, hname.symm⟩ hnew

theorem NamesLatest.add (h : b.NamesLatest specialized) (hnames : b.NamesBounded)
    (hregistered : addition.isRegistered ↔
      (addition.placed b scope).kind.isNameable ∧ ¬specialized b.nextId) :
    (b.add scope addition).NamesLatest specialized := by
  intro name
  rw [lookup_names_add hnames]
  by_cases hnew : addition.isEntered b scope ∧ name = (addition.placed b scope).qualifiedName
  · rw [if_pos hnew]
    exact h.isLatest_nextId hregistered hnew.1 hnew.2
  · rw [if_neg hnew]
    have hname := h name
    generalize hlookup : b.names.lookup name = found? at hname
    cases hname with
    | @definition found hfound hdefinition latest =>
      refine .definition ((goesBy_add_of_lt hfound.lt).mpr hfound)
        ((isDefinition_add_of_lt hfound.lt).mpr hdefinition) ?_
      intro other hother hdefined
      cases lt_or_eq_of_goesBy_add hother with
      | inl hold =>
        exact latest other ((goesBy_add_of_lt hold).mp hother)
          ((isDefinition_add_of_lt hold).mp hdefined)
      | inr heq =>
        rw [heq] at hother hdefined
        exact absurd hdefined (not_entered_of_goesBy hregistered hnew hother).1
    | @declaration found hfound undefined latest =>
      -- The new cursor does not go by the name: it would have been entered.
      have hold : ∀ other, (b.add scope addition).GoesBy specialized name other →
          other < b.nextId := by
        intro other hother
        cases lt_or_eq_of_goesBy_add hother with
        | inl hold => exact hold
        | inr heq =>
          rw [heq] at hother
          have hdefined := (not_entered_of_goesBy hregistered hnew hother).2
          exact absurd ((isDefined_of_lookup hlookup).mp hdefined) (undefined found hfound)
      refine .declaration ((goesBy_add_of_lt hfound.lt).mpr hfound) ?_ ?_
      · intro other hother
        rw [isDefinition_add_of_lt (hold other hother)]
        exact undefined other ((goesBy_add_of_lt (hold other hother)).mp hother)
      · intro other hother
        exact latest other ((goesBy_add_of_lt (hold other hother)).mp hother)
    | none hnone =>
      refine .none ?_
      intro other hother
      cases lt_or_eq_of_goesBy_add hother with
      | inl hold => exact hnone other ((goesBy_add_of_lt hold).mp hother)
      | inr heq =>
        rw [heq] at hother
        have hdefined := (not_entered_of_goesBy hregistered hnew hother).2
        simp [isDefined, hlookup] at hdefined

theorem exists_lookup_of_resolve {scope : Nat} (h : b.resolve name scope = some id) :
    ∃ key, b.names.lookup key = some id := by
  unfold resolve at h
  split at h
  · exact ⟨_, h⟩
  · obtain ⟨outer, -, houter⟩ := List.exists_of_findSome?_eq_some h
    exact ⟨_, houter⟩

theorem exists_of_namedType {scope : Nat}
    (h : (b.namedType name scope).kind ∈ [.record, .enumeration, .typedefName]) :
    ∃ id, b.resolve name scope = some id
      ∧ (b.namedType name scope).spelling = (b.cursor id).qualifiedName
      ∧ (b.namedType name scope).kind.isIntroducedBy (b.cursor id).kind := by
  unfold namedType at h ⊢
  cases hresolve : b.resolve name scope with
  | none => simp [hresolve] at h
  | some id =>
    simp only [hresolve] at h ⊢
    refine ⟨id, rfl, ?_⟩
    cases hkind : (b.cursor id).kind with
    | classDecl | structDecl | unionDecl | classTemplate => exact ⟨rfl, rfl⟩
    | enumDecl => exact ⟨rfl, rfl⟩
    | typedefDecl | typeAliasDecl => exact ⟨rfl, rfl⟩
    | _ => simp [hkind] at h

theorem NamesLatest.exists_of_namedType {scope : Nat} (h : b.NamesLatest specialized)
    (hkind : (b.namedType name scope).kind ∈ [.record, .enumeration, .typedefName]) :
    ∃ id, b.GoesBy specialized (b.namedType name scope).spelling id
      ∧ (b.namedType name scope).kind.isIntroducedBy (b.cursor id).kind := by
  obtain ⟨id, hresolve, hspelling, hintroduced⟩ := Builder.exists_of_namedType hkind
  obtain ⟨key, hlookup⟩ := exists_lookup_of_resolve hresolve
  have hfound := h key
  rw [hlookup] at hfound
  obtain ⟨hlt, hkind, hspelled, hgeneral, -⟩ := hfound.candidate
  exact ⟨id, ⟨hlt, hkind, hspelled, hgeneral, hspelling.symm⟩, hintroduced⟩

end Builder

def ParseTree.namesTemplate (specifier : ParseTree) : Bool :=
  (specifier.field? .name).any (·.kind == .templateType)

namespace Addition

theorem isNameable_record (b : Builder) (scope : Scope) (level : Access)
    (template : List ResolvedParameter) (head : RecordHead) :
    ((record level template head).placed b scope).kind.isNameable := by
  have hrecord : ((record level template head).placed b scope).kind.isRecord :=
    isRecord_recordCursor level template head
  simp [CursorKind.isNameable, hrecord]

theorem isNameable_of_isRegistered {b : Builder} {scope : Scope} {addition : Addition}
    (h : addition.isRegistered) : (addition.placed b scope).kind.isNameable := by
  cases addition with
  | namespaceBlock name site => rfl
  | enumeration level head => rfl
  | typeAlias level isTypedef name site => cases isTypedef <;> rfl
  | record level template head => exact isNameable_record b scope level template head
  | _ => simp [isRegistered] at h

end Addition

namespace TranslationUnit

def Specializes (source : Source) (tree : ParseTree) (options : Options) (id : Nat) : Prop :=
  ∃ specifier, LoweredFrom source tree options id specifier ∧ specifier.namesTemplate

def SpecializesRecord (source : Source) (tree : ParseTree) (options : Options) (id : Nat) : Prop :=
  ∃ specifier keyword, LoweredFrom source tree options id specifier
    ∧ specifier.kind = .record keyword ∧ specifier.namesTemplate

variable {source : Source} {tree : ParseTree} {options : Options}

theorem isRegistered_iff_of_mem_trace {before : Builder} {scope : Scope} {addition : Addition}
    (hmem : .add before scope addition ∈ trace source tree options) :
    addition.isRegistered ↔ (addition.placed before scope).kind.isNameable
      ∧ ¬SpecializesRecord source tree options before.nextId := by
  have hruns := runs_build source tree options
  -- There is only this addition that the cursor can come from.
  have hwritten : SpecializesRecord source tree options before.nextId →
      ∃ specifier keyword, addition.IsWrittenBy source specifier
        ∧ specifier.kind = .record keyword ∧ specifier.namesTemplate := by
    rintro ⟨specifier, keyword, ⟨-, other, scope', addition', hother, hid, hwritten⟩, hkind, hname⟩
    obtain ⟨-, -, rfl⟩ := Lowering.Action.add.inj (hruns.add_inj hother hmem hid)
    exact ⟨specifier, keyword, hwritten, hkind, hname⟩
  cases addition with
  | record level template head =>
    have hnameable := Addition.isNameable_record before scope level template head
    obtain ⟨specifier, keyword, hcontains, hkind, hhead⟩ :=
      (hasOrigin_trace source tree options _ hmem).2
    have hspecialization : head.isSpecialization = specifier.namesTemplate := by
      rw [hhead]
      rfl
    simp only [Addition.isRegistered, hnameable, true_and, Bool.not_eq_true',
      hspecialization]
    constructor
    · intro hgeneral hspecializes
      obtain ⟨specifier', _, ⟨keyword', _, hhead'⟩, _, hname⟩ := hwritten hspecializes
      have hsame : head.isSpecialization = specifier'.namesTemplate := by
        rw [hhead']
        rfl
      rw [hspecialization, hgeneral, hname] at hsame
      contradiction
    · intro hgeneral
      rw [Bool.eq_false_iff]
      intro hname
      exact hgeneral ⟨specifier, keyword,
        ⟨hcontains, before, scope, _, hmem, rfl, keyword, hkind, hhead⟩, hkind, hname⟩
  | namespaceBlock | enumeration | typeAlias =>
    refine iff_of_true rfl ⟨Addition.isNameable_of_isRegistered rfl, ?_⟩
    intro hspecializes
    obtain ⟨specifier, keyword, hby, hkind, -⟩ := hwritten hspecializes
    simp [Addition.IsWrittenBy, hkind] at hby
  | _ =>
    refine iff_of_false (by simp [Addition.isRegistered]) ?_
    rintro ⟨hkind, _⟩
    rw [Addition.kind_placed_of_kinds CursorKind.isNameable rfl] at hkind
    contradiction

theorem occurs_build (source : Source) (tree : ParseTree) (options : Options) :
    Occurs source tree options (build source tree options) := by
  cases (runs_build source tree options).eq_or_exists_after with
  | inl heq => exact .inl heq
  | inr h =>
    obtain ⟨action, hmem, heq⟩ := h
    exact .inr ⟨action, hmem, .inr heq⟩

theorem namesLatest_of_occurs {b : Builder} (h : Occurs source tree options b) :
    b.NamesLatest (SpecializesRecord source tree options) := by
  have hruns := runs_build source tree options
  have hstart : (start source tree).NamesLatest (SpecializesRecord source tree options) := by
    -- The root is the only cursor, and it does not go by a name.
    intro name
    refine .none ?_
    rintro id ⟨hlt, hkind, _, _, _⟩
    obtain rfl : id = 0 := Nat.lt_one_iff.mp hlt
    simp [Builder.cursor, start, rootCursor, CursorKind.isNameable, CursorKind.isRecord] at hkind
  have hall := (hruns.preserves_of_mem (P := fun b => b.NamesLatest _) ?_ hstart).2
  · cases h with
    | inl h =>
      rw [h]
      exact hstart
    | inr h =>
      obtain ⟨action, hmem, hb⟩ := h
      cases hb with
      | inl hb =>
        rw [hb]
        exact (hall action hmem).1
      | inr hb =>
        rw [hb]
        exact (hall action hmem).2
  · intro before scope addition hmem _ _ hlatest
    obtain ⟨hb, -, -⟩ := wellFormed_of_mem_trace hmem
    exact hlatest.add hb.namesBounded (isRegistered_iff_of_mem_trace hmem)

/--
Whenever lowering looks a name up, it stands for the latest definition that goes by it, or for the
latest declaration if there is no definition. So the types that names stand for are called after
cursors that are there.
-/
theorem lookup_names_of_occurs (source : Source) (tree : ParseTree) (options : Options) :
    (∀ b, Occurs source tree options b → ∀ name,
      IsLatest (b.GoesBy (SpecializesRecord source tree options) name) b.IsDefinition
        (b.names.lookup name))
    ∧ ∀ b, Occurs source tree options b → ∀ name scope,
      (b.namedType name scope).kind ∈ [.record, .enumeration, .typedefName] →
        ∃ id, b.GoesBy (SpecializesRecord source tree options) (b.namedType name scope).spelling id
          ∧ (b.namedType name scope).kind.isIntroducedBy (b.cursor id).kind := by
  constructor
  · intro b hb
    exact namesLatest_of_occurs hb
  · intro b hb name scope hkind
    exact (namesLatest_of_occurs hb).exists_of_namedType hkind

def templateEnumSource : Source where
  path := "a.cpp"
  text := "enum E<int> \x7b A \x7d;\nE x;"

def templateEnumSpecifier : ParseTree :=
  .node { label := "enum_specifier", span := ⟨0, 17⟩ } [
    .node { label := "template_type", field := some .name, span := ⟨5, 11⟩ } [
      .node { label := "type_identifier", field := some .name, span := ⟨5, 6⟩ } []],
    .node { label := "enumerator_list", field := some .body, span := ⟨12, 17⟩ } [
      .node { label := "enumerator", span := ⟨14, 15⟩ } [
        .node { label := "identifier", field := some .name, span := ⟨14, 15⟩ } []]]]

def templateEnumTree : ParseTree :=
  .node { label := "translation_unit", span := ⟨0, 23⟩ } [
    templateEnumSpecifier,
    .node { label := "declaration", span := ⟨19, 23⟩ } [
      .node { label := "type_identifier", field := some .type, span := ⟨19, 20⟩ } [],
      .node { label := "identifier", field := some .declarator, span := ⟨21, 22⟩ } []]]

def addsEnum (head : EnumHead) (id : Nat) : Lowering.Action → Bool
  | .add before _ (.enumeration _ written) => before.nextId == id && written == head
  | _ => false

theorem loweredFrom_of_addsEnum {specifier : ParseTree} {id : Nat} (hcontains : tree.Contains specifier)
    (hkind : specifier.kind = .enumeration)
    (hadded : (trace source tree options).any (addsEnum (Declaration.enumHead source specifier) id)) :
    LoweredFrom source tree options id specifier := by
  obtain ⟨action, hmem, haction⟩ := List.any_eq_true.mp hadded
  unfold addsEnum at haction
  split at haction
  · rw [Bool.and_eq_true, beq_iff_eq, beq_iff_eq] at haction
    obtain ⟨hid, rfl⟩ := haction
    exact ⟨hcontains, _, _, _, hmem, hid, hkind, rfl⟩
  · contradiction

theorem specializes_templateEnum : Specializes templateEnumSource templateEnumTree {} 1 :=
  ⟨templateEnumSpecifier, loweredFrom_of_addsEnum (.single List.mem_cons_self) rfl (by decide +kernel),
    rfl⟩

/-- Enumerations are entered into the table even if their names have template arguments. -/
theorem not_isLatest_of_templateEnum :
    ¬∀ b, Occurs templateEnumSource templateEnumTree {} b → ∀ name,
      IsLatest (b.GoesBy (Specializes templateEnumSource templateEnumTree {}) name) b.IsDefinition
        (b.names.lookup name) := by
  intro h
  have hlookup : (build templateEnumSource templateEnumTree {}).names.lookup "E" = some 1 := by
    decide +kernel
  have hlatest := h _ (occurs_build templateEnumSource templateEnumTree {}) "E"
  rw [hlookup] at hlatest
  exact hlatest.candidate.general specializes_templateEnum

end TranslationUnit
end CursorQuery
