import CursorQuery.CommandLine.Find
import CursorQuery.Pattern.Standard
import CursorQuery.Proofs.Pattern.Anchoring
import CursorQuery.Proofs.Query.Compile

/-!
This module relates the validation of queries to compiling them. Validation reads each pattern by
itself, compiling reads it with anchors around it, and the two agree up to patterns that end in a
comment and patterns that leave no room for the anchors.
-/

namespace CursorQuery

namespace Leaf

theorem isValid_of_issue?_eq_none [Pattern.Engine] {leaf : Leaf String} {pattern : String} (h : leaf.issue? = none)
    (hpattern : leaf.pattern? = some pattern) : Pattern.isValid pattern := by
  cases leaf with
  | name pattern' =>
    obtain rfl := Option.some.inj hpattern
    simp only [issue?] at h
    split at h
    · contradiction
    · split at h
      · next hvalid => exact hvalid
      · contradiction
  | _ => contradiction

end Leaf

namespace Query

theorem mem_leavesOfList {leaf : Leaf String} {parts : List Query}
    (h : leaf ∈ Formula.leavesOfList parts) : ∃ part ∈ parts, leaf ∈ part.leaves := by
  induction parts with
  | nil => contradiction
  | cons part parts ih =>
    unfold Formula.leavesOfList at h
    rw [List.mem_append] at h
    cases h with
    | inl hpart => exact ⟨part, List.mem_cons_self, hpart⟩
    | inr hparts =>
      obtain ⟨part', hmem, hleaf⟩ := ih hparts
      exact ⟨part', List.mem_cons_of_mem part hmem, hleaf⟩

section Issues

variable [Pattern.Engine]

theorem issuesOfList_eq_nil_iff {segment : Nat → Segment} {index : Nat} {parts : List Query} :
    issuesOfList segment index parts = [] ↔ ∀ part ∈ parts, issues part = [] := by
  induction parts generalizing index with
  | nil => simp [issuesOfList]
  | cons part parts ih =>
    unfold issuesOfList
    rw [List.append_eq_nil_iff, List.map_eq_nil_iff, List.forall_mem_cons, ih]

theorem issue?_eq_none_of_issues {query : Query} (h : issues query = []) :
    ∀ leaf ∈ query.leaves, leaf.issue? = none := by
  induction query using Formula.induct with
  | leaf test =>
    unfold issues at h
    simpa [Formula.leaves] using h
  | all parts ih | any parts ih =>
    unfold issues at h
    intro leaf hleaf
    unfold Formula.leaves at hleaf
    obtain ⟨part, hpart, hleaf⟩ := mem_leavesOfList hleaf
    exact ih part hpart (issuesOfList_eq_nil_iff.mp h part hpart) leaf hleaf
  | not part ih | anyChild part ih | allChildren part ih =>
    unfold issues at h
    exact ih (List.map_eq_nil_iff.mp h)
  | anyPredecessor step part ih | allPredecessors step part ih =>
    unfold issues at h
    exact ih (List.map_eq_nil_iff.mp h)

theorem isValid_of_mem_patterns {query : Query} (h : issues query = []) :
    ∀ pattern ∈ query.patterns, Pattern.isValid pattern := by
  intro pattern hpattern
  obtain ⟨leaf, hleaf, hpattern⟩ := List.mem_filterMap.mp hpattern
  exact Leaf.isValid_of_issue?_eq_none (issue?_eq_none_of_issues h leaf hleaf) hpattern

inductive Validated : Query → Prop where
  | checked {query : Query} (h : issues query = []) : Validated query
  | loaded {document? : Option Document} {file : QueryFile} (h : QueryFile.load document? = .ok file) :
    Validated file.query
  | combined {args : FindArgs} {file? : Option QueryFile} {file : QueryFile}
    (h : args.combine file? = .ok file) : Validated file.query

theorem Validated.issues_eq_nil {query : Query} (h : Validated query) : issues query = [] := by
  cases h with
  | checked h => exact h
  | loaded h =>
    unfold QueryFile.load at h
    split at h
    · contradiction
    · split at h
      · next hissues =>
        obtain rfl := Except.ok.inj h
        exact hissues
      · contradiction
  | combined h =>
    unfold FindArgs.combine at h
    extract_lets filters query? at h
    cases hquery : query? with
    | none =>
      rw [hquery] at h
      contradiction
    | some query =>
      rw [hquery] at h
      dsimp only at h
      split at h
      · next hissues =>
        obtain rfl := Except.ok.inj h
        exact hissues
      · contradiction

/--
A query that passes validation compiles if none of its patterns ends in a comment and all of them leave
room for the anchors, and not otherwise. A pattern without `#` has no comment to end in.
-/
theorem exists_compile_iff_of_validated {query : Query} (h : Validated query) :
    ((∃ compiled, query.compile = .ok compiled) ↔
      ∀ pattern ∈ query.patterns, ¬ Pattern.EndsInComment pattern ∧ Pattern.HasRoom pattern)
    ∧ ∀ pattern ∈ query.patterns, Pattern.EndsInComment pattern → '#' ∈ pattern.toList := by
  have hformed : ∀ pattern ∈ query.patterns, Pattern.IsWellFormed pattern := fun pattern hpattern =>
    .of_isValid (isValid_of_mem_patterns h.issues_eq_nil pattern hpattern)
  constructor
  · rw [exists_compile_eq_ok_iff]
    apply forall₂_congr
    intro pattern hpattern
    rw [← Pattern.isValid_anchored_iff (hformed pattern hpattern), Pattern.isRejected_eq_false_iff]
  · intro pattern hpattern hends
    exact hends.mem (hformed pattern hpattern)

end Issues

theorem exists_compile_of_validated_name :
    Validated (.leaf (.name "f")) ∧ ∃ compiled, compile (.leaf (.name "f")) = .ok compiled := by
  have hvalidated : Validated (.leaf (.name "f")) := .checked (by decide +kernel)
  refine ⟨hvalidated, (exists_compile_iff_of_validated hvalidated).1.mpr ?_⟩
  intro pattern hpattern
  obtain rfl : pattern = "f" := by simpa [patterns, Formula.leaves, Leaf.pattern?] using hpattern
  have hvalid : Pattern.isValid "f" := by decide +kernel
  exact (Pattern.isValid_anchored_iff (.of_isValid hvalid)).mp (by decide +kernel)

/-- The pattern ends in a comment, which is where the anchor after it goes. -/
theorem compile_error_of_validated_comment :
    Validated (.leaf (.name "(?x)f#"))
    ∧ compile (.leaf (.name "(?x)f#")) = .error ⟨"(?x)f#"⟩ :=
  ⟨.checked (by decide +kernel), compile_eq_error_iff.mpr (by decide +kernel)⟩

end Query
end CursorQuery
