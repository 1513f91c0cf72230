import CursorQuery.Proofs.Formula
import CursorQuery.Query.Basic

/-!
This module contains the correctness of compiling queries. Compiling succeeds on queries all of whose
patterns can be read, and a compiled query holds at the nodes that the query describes.
-/

namespace CursorQuery

namespace Category

def Describes : Category → Entity → Prop
  | classDecl, entity => entity.kind ∈ [.classDecl, .structDecl, .unionDecl]
  | classDefinition, entity =>
    entity.kind ∈ [.classDecl, .structDecl, .unionDecl] ∧ entity.isDefinition
  | classTemplate, entity => entity.kind = .classTemplate
  | function, entity => entity.kind = .functionDecl
  | method, entity => entity.kind = .method
  | enumeration, entity => entity.kind = .enumDecl
  | namespaceDecl, entity => entity.kind = .namespaceDecl
  | translationUnit, entity => entity.kind = .translationUnit
  | definition, entity => entity.isDefinition
  | hasLocation, entity => ∃ location, entity.location = some location ∧ location.file ≠ ""

theorem holds_iff (category : Category) (entity : Entity) :
    category.holds entity = true ↔ category.Describes entity := by
  cases category with
  | _ => simp [holds, holds.isClass, Describes, Option.any_eq_true, or_assoc]

end Category

namespace Pattern

variable [Engine]

def isRejected (pattern : String) : Bool :=
  !isValid ("^(?:" ++ pattern ++ ")$")

theorem isRejected_eq_false_iff {pattern : String} :
    isRejected pattern = false ↔ isValid (anchored pattern) := by
  simp [isRejected, anchored]

end Pattern

namespace Leaf

variable [Pattern.Engine]

/-- What a leaf test asks of an entity. A test of something that the entity does not have fails. -/
def Describes : Leaf String → Entity → Prop
  | isA family, entity => family.Describes entity
  | kind k, entity => entity.kind = k
  | access level, entity => entity.access = level
  | name pattern, entity =>
    ∃ regex, Pattern.parse ("^(?:" ++ pattern ++ ")$") = .ok regex ∧ regex.isMatch entity.spelling
  | typename spelling, entity => ∃ type, entity.type = some type ∧ type.spelling = spelling
  | inFile files, entity =>
    ∃ location, entity.location = some location ∧ ∃ file ∈ files, location.fileName? = some file

def pattern? : Leaf String → Option String
  | name pattern => some pattern
  | _ => none

variable {leaf : Leaf String}

theorem compile_name (pattern : String) :
    (name pattern).compile =
      match Pattern.parse ("^(?:" ++ pattern ++ ")$") with
      | .ok regex => .ok (name regex)
      | .error _ => .error pattern :=
  rfl

theorem failure?_compileLeaf (leaf : Leaf String) :
    Formula.failure? Query.compileLeaf leaf =
      (leaf.pattern?.filter Pattern.isRejected).map InvalidPattern.mk := by
  cases leaf with
  | name pattern =>
    unfold Formula.failure? Query.compileLeaf pattern?
    rw [compile_name]
    cases h : Pattern.parse ("^(?:" ++ pattern ++ ")$") with
    | ok regex =>
      have hvalid : Pattern.isRejected pattern = false := by
        simp [Pattern.isRejected, Pattern.isValid, h, Except.isOk, Except.toBool]
      rw [Option.filter_some, hvalid]
      rfl
    | error e =>
      have hrejected : Pattern.isRejected pattern = true := by
        simp [Pattern.isRejected, Pattern.isValid, h, Except.isOk, Except.toBool]
      rw [Option.filter_some, hrejected]
      rfl
  | _ => rfl

theorem compile_of_compileLeaf {compiled : Leaf Regex}
    (h : Query.compileLeaf leaf = .ok compiled) : leaf.compile = .ok compiled := by
  unfold Query.compileLeaf at h
  cases hleaf : leaf.compile with
  | error pattern =>
    rw [hleaf] at h
    contradiction
  | ok compiled' =>
    rw [hleaf] at h
    simpa [Except.mapError] using h

theorem holds_iff_of_compile {compiled : Leaf Regex} (h : leaf.compile = .ok compiled)
    (entity : Entity) : compiled.holds entity = true ↔ leaf.Describes entity := by
  cases leaf with
  | isA family =>
    obtain rfl := Except.ok.inj h
    exact family.holds_iff entity
  | kind k =>
    obtain rfl := Except.ok.inj h
    simp [holds, Describes]
  | access level =>
    obtain rfl := Except.ok.inj h
    simp [holds, Describes]
  | name pattern =>
    rw [compile_name] at h
    split at h
    · next regex hregex =>
      obtain rfl := Except.ok.inj h
      simp [holds, Describes, hregex]
    · contradiction
  | typename spelling =>
    obtain rfl := Except.ok.inj h
    simp [holds, Describes, Option.any_eq_true]
  | inFile files =>
    obtain rfl := Except.ok.inj h
    simp only [holds, Describes, Option.any_eq_true, Entity.fileName?, Option.bind_eq_some_iff,
      List.contains_iff_mem]
    constructor
    · rintro ⟨file, ⟨location, hlocation, hfile⟩, hmem⟩
      exact ⟨location, hlocation, file, hmem, hfile⟩
    · rintro ⟨location, hlocation, file, hmem, hfile⟩
      exact ⟨file, ⟨location, hlocation, hfile⟩, hmem⟩

end Leaf

namespace Graph

variable {ν : Type} (g : Graph ν) {v w : ν}

theorem mem_above_of_follow {step : Step} (h : step.follow g v = some w) :
    w ∈ g.above v ∧ g.above w ⊆ g.above v := by
  cases step with
  | semanticParent => exact g.semanticParent_mem v w h
  | lexicalParent => exact g.lexicalParent_mem v w h

theorem mem_above_of_reaches {step : Step} (h : Reaches (step.follow g) v w) :
    w ∈ g.above v ∧ g.above w ⊆ g.above v := by
  induction h with
  | single h => exact g.mem_above_of_follow h
  | tail _ h ih =>
    obtain ⟨hmem, hsubset⟩ := g.mem_above_of_follow h
    exact ⟨ih.2 hmem, List.Subset.trans hsubset ih.2⟩

theorem mem_predecessors [DecidableEq ν] (step : Step) (v w : ν) :
    w ∈ g.predecessors (step.follow g) v ↔ w ≠ v ∧ Reaches (step.follow g) v w := by
  apply mem_predecessorsIn
  intro w h
  exact (g.mem_above_of_reaches h).1

end Graph

namespace Query

variable [Pattern.Engine]

def patterns (query : Query) : List String :=
  query.leaves.filterMap Leaf.pattern?

def Describes {ν : Type} (query : Query) (g : Graph ν) (v : ν) : Prop :=
  let parent : Step → ν → Option ν
    | .semanticParent => g.semanticParent
    | .lexicalParent => g.lexicalParent
  query.Denotes g parent (fun leaf w => leaf.Describes (g.entity w)) v

theorem findSome?_leaves (leaves : List (Leaf String)) :
    leaves.findSome? (Formula.failure? compileLeaf) =
      ((leaves.filterMap Leaf.pattern?).find? Pattern.isRejected).map InvalidPattern.mk := by
  induction leaves with
  | nil => rfl
  | cons leaf leaves ih =>
    rw [List.findSome?_cons, Leaf.failure?_compileLeaf, ih, List.filterMap_cons]
    cases leaf.pattern? with
    | none => rfl
    | some pattern =>
      rw [Option.filter_some, List.find?_cons]
      cases Pattern.isRejected pattern with
      | true => rfl
      | false => rfl

theorem compile_eq_error_iff {query : Query} {error : InvalidPattern} :
    query.compile = .error error ↔
      query.patterns.find? Pattern.isRejected = some error.pattern := by
  unfold compile patterns
  rw [Formula.mapLeaves_eq_error_iff, findSome?_leaves, Option.map_eq_some_iff]
  constructor
  · rintro ⟨pattern, hpattern, herror⟩
    rw [hpattern, ← herror]
  · intro h
    exact ⟨error.pattern, h, rfl⟩

theorem exists_compile_eq_ok_iff {query : Query} :
    (∃ compiled, query.compile = .ok compiled) ↔
      ∀ pattern ∈ query.patterns, Pattern.isRejected pattern = false := by
  have hnone : query.patterns.find? Pattern.isRejected = none ↔
      ∀ pattern ∈ query.patterns, Pattern.isRejected pattern = false := by
    simp
  rw [← hnone]
  cases h : query.compile with
  | error error =>
    rw [compile_eq_error_iff.mp h]
    simp
  | ok compiled =>
    -- A rejected pattern would have made it fail.
    cases hfind : query.patterns.find? Pattern.isRejected with
    | none => simp
    | some pattern =>
      have herror : query.compile = .error ⟨pattern⟩ := compile_eq_error_iff.mpr hfind
      rw [h] at herror
      contradiction

theorem holds_iff_describes {ν : Type} [DecidableEq ν] {query : Query} {compiled : CompiledQuery}
    (h : query.compile = .ok compiled) (g : Graph ν) (v : ν) :
    compiled.holds g v = true ↔ query.Describes g v := by
  have hparent : (fun | .semanticParent => g.semanticParent | .lexicalParent => g.lexicalParent) =
      Step.follow g := by
    funext step
    cases step with
    | semanticParent => rfl
    | lexicalParent => rfl
  unfold Describes
  rw [hparent]
  apply Formula.eval_mapLeaves g.mem_predecessors ?_ query h
  intro leaf leaf' hleaf w
  exact Leaf.holds_iff_of_compile (Leaf.compile_of_compileLeaf hleaf) (g.entity w)

/--
Compiling a query succeeds if all of its patterns can be read, and fails at the first one that cannot.
A compiled query holds at the nodes that the query describes.
-/
theorem compile_correct (query : Query) :
    ((∃ compiled, query.compile = .ok compiled) ↔
      ∀ pattern ∈ query.patterns, Pattern.isValid ("^(?:" ++ pattern ++ ")$"))
    ∧ (∀ error, query.compile = .error error ↔
      (query.patterns.find? fun pattern => !Pattern.isValid ("^(?:" ++ pattern ++ ")$")) =
        some error.pattern)
    ∧ (∀ compiled, query.compile = .ok compiled →
      ∀ (ν : Type) [DecidableEq ν] (g : Graph ν) (v : ν),
        compiled.holds g v = true ↔ query.Describes g v) := by
  refine ⟨?_, fun _ => compile_eq_error_iff, ?_⟩
  · rw [exists_compile_eq_ok_iff]
    simp [Pattern.isRejected]
  · intro compiled hcompiled ν _ g v
    exact holds_iff_describes hcompiled g v

end Query
end CursorQuery
