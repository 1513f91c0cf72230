import CursorQuery.Pattern.Standard
import CursorQuery.Proofs.Pattern.Matching
import CursorQuery.Proofs.Pattern.Unopened
import CursorQuery.Query.Leaf

/-!
This module contains what a test of the name accepts: the spellings that its pattern matches from the
first to the last character, unless a parenthesis in the pattern closes no group of its own.
-/

namespace CursorQuery

namespace Pattern

variable [Engine]

/-- The pattern is a regular expression by itself, and matches a text from its first to its last
character. -/
def MatchesWhole (pattern text : String) : Prop :=
  ∃ expression, read pattern = .ok expression ∧ expression.value.MatchesWhole text

variable {pattern text : String} {expression : Nested Regex}

theorem matchesWhole_iff (h : read pattern = .ok expression) :
    MatchesWhole pattern text ↔ expression.value.MatchesWhole text := by
  simp [MatchesWhole, h]

theorem parse_anchored_of_isValid (h : read pattern = .ok expression)
    (hvalid : isValid (anchored pattern)) :
    parse (anchored pattern) =
      .ok (.seq (.look .textStart false) (.seq expression.value (.look .textEnd false))) := by
  obtain ⟨hends, hroom⟩ := (isValid_anchored_iff ⟨expression, h⟩).mp hvalid
  exact parse_anchored h hends hroom

end Pattern

namespace Leaf

section Name

variable [Pattern.Engine] {pattern : String} {matcher : Leaf Regex}

theorem compile_name_eq_ok_iff :
    (name pattern).compile = .ok matcher ↔
      ∃ regex, Pattern.parse (Pattern.anchored pattern) = .ok regex ∧ matcher = .name regex := by
  simp only [compile]
  cases Pattern.parse (Pattern.anchored pattern) with
  | error e => simp
  | ok regex => simp [eq_comm]

theorem isValid_anchored_of_compile (hcompile : (name pattern).compile = .ok matcher) :
    Pattern.isValid (Pattern.anchored pattern) := by
  obtain ⟨anchored, hanchored, -⟩ := compile_name_eq_ok_iff.mp hcompile
  exact Pattern.isValid_iff_exists_parse.mpr ⟨anchored, hanchored⟩

theorem holds_name_iff (h : Pattern.IsWellFormed pattern)
    (hcompile : (name pattern).compile = .ok matcher) (entity : Entity) :
    matcher.holds entity ↔ Pattern.MatchesWhole pattern entity.spelling := by
  obtain ⟨expression, hread⟩ := h
  have hvalid := isValid_anchored_of_compile hcompile
  obtain ⟨anchored, hanchored, rfl⟩ := compile_name_eq_ok_iff.mp hcompile
  rw [Pattern.parse_anchored_of_isValid hread hvalid] at hanchored
  obtain rfl := Except.ok.inj hanchored
  rw [holds, Regex.isMatch_between_anchors, Pattern.matchesWhole_iff hread]

theorem exists_compile_name_iff (h : Pattern.IsWellFormed pattern) :
    (∃ matcher, (name pattern).compile = .ok matcher) ↔
      ¬ Pattern.EndsInComment pattern ∧ Pattern.HasRoom pattern := by
  rw [← Pattern.isValid_anchored_iff h, Pattern.isValid_iff_exists_parse]
  simp [compile_name_eq_ok_iff]

theorem isWellFormed_or_unopenedGroup (hcompile : (name pattern).compile = .ok matcher) :
    Pattern.IsWellFormed pattern ∨ Pattern.read pattern = .error .unopenedGroup := by
  have hanchored := Pattern.IsWellFormed.of_isValid (isValid_anchored_of_compile hcompile)
  cases hread : Pattern.read pattern with
  | ok expression => exact .inl ⟨expression, hread⟩
  | error e =>
    rw [Pattern.read_eq_unopenedGroup hread hanchored]
    exact .inr rfl

theorem isValid_of_compile (h : Pattern.IsWellFormed pattern)
    (hcompile : (name pattern).compile = .ok matcher)
    (hsize : Pattern.Engine.compiledSize pattern ≤ Pattern.sizeLimit) : Pattern.isValid pattern := by
  -- The anchored pattern is nested more deeply, so only the size of the pattern itself can be too
  -- much.
  obtain ⟨expression, hread⟩ := h
  have hroom := ((exists_compile_name_iff ⟨expression, hread⟩).mp ⟨matcher, hcompile⟩).2
  have hdepth := hroom.depth expression hread
  exact Pattern.isValid_iff.mpr ⟨expression, hread, by omega, hsize⟩

/--
A pattern that is a regular expression by itself has a matcher unless it ends in a comment or there is no
room for the anchors. A pattern with a matcher is a regular expression by itself, and the matcher accepts
the spellings that the pattern matches from the first to the last character, unless a parenthesis in the
pattern closes no group.
-/
theorem name_matches_whole (pattern : String) :
    (Pattern.IsWellFormed pattern →
        ((∃ matcher, (name pattern).compile = .ok matcher) ↔
          ¬ Pattern.EndsInComment pattern ∧ Pattern.HasRoom pattern))
      ∧ ∀ matcher, (name pattern).compile = .ok matcher →
        (Pattern.IsWellFormed pattern
            ∧ (Pattern.Engine.compiledSize pattern ≤ Pattern.sizeLimit → Pattern.isValid pattern)
            ∧ ∀ entity, matcher.holds entity ↔ Pattern.MatchesWhole pattern entity.spelling)
          ∨ Pattern.read pattern = .error .unopenedGroup := by
  refine ⟨exists_compile_name_iff, fun matcher hcompile => ?_⟩
  cases isWellFormed_or_unopenedGroup hcompile with
  | inl hformed =>
    exact .inl ⟨hformed, isValid_of_compile hformed hcompile, holds_name_iff hformed hcompile⟩
  | inr hunopened => exact .inr hunopened

end Name

theorem name_matches_whole_alternatives :
    Pattern.isValid "f|g" ∧ ∃ matcher, (name "f|g").compile = .ok matcher ∧
      ∀ entity, matcher.holds entity ↔ Pattern.MatchesWhole "f|g" entity.spelling := by
  have hvalid : Pattern.isValid "f|g" := by decide +kernel
  have hformed := Pattern.IsWellFormed.of_isValid hvalid
  obtain ⟨hcompiles, hmatches⟩ := name_matches_whole "f|g"
  obtain ⟨matcher, hmatcher⟩ :=
    (hcompiles hformed).mpr ((Pattern.isValid_anchored_iff hformed).mp (by decide +kernel))
  obtain ⟨expression, hread⟩ := hformed
  cases hmatches matcher hmatcher with
  | inl hwhole => exact ⟨hvalid, matcher, hmatcher, hwhole.2.2⟩
  | inr hunopened =>
    rw [hread] at hunopened
    contradiction

/-- The parenthesis closes the group around the pattern, and the first alternative is left without an
anchor at its end. -/
theorem name_matches_part_unopened :
    ¬ Pattern.isValid "f)|(x" ∧ ∃ matcher, (name "f)|(x").compile = .ok matcher
      ∧ matcher.holds { kind := .functionDecl, spelling := "f1" } := by
  refine ⟨by decide +kernel, ?_⟩
  have haccepts : (name "f)|(x").compile.toOption.any fun matcher =>
      matcher.holds { kind := .functionDecl, spelling := "f1" } := by
    decide +kernel
  cases hcompile : (name "f)|(x").compile with
  | error pattern =>
    rw [hcompile] at haccepts
    contradiction
  | ok matcher =>
    rw [hcompile] at haccepts
    exact ⟨matcher, rfl, haccepts⟩

end Leaf
end CursorQuery
