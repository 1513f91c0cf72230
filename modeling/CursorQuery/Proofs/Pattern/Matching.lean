import Mathlib.Data.List.Basic
import CursorQuery.Pattern.Regex

/-!
This module contains what it means that an expression matches part of a text, and the proof that the
search for matches finds exactly these. A repetition that goes on for more rounds than there are
characters left repeats itself at some place, so the search may stop after that many rounds.
-/

namespace CursorQuery
namespace Regex

open Character

inductive Steps (R : Place → Place → Prop) : Nat → Place → Place → Prop where
  | zero (p : Place) : Steps R 0 p p
  | succ {n : Nat} {p q r : Place} (h : R p q) (hs : Steps R n q r) : Steps R (n + 1) p r

/-- Whether a repetition may have `n` rounds. A largest number below the smallest one does not count. -/
def Allows (least : Nat) (most : Option Nat) (n : Nat) : Prop :=
  least ≤ n ∧ ∀ m, most = some m → n ≤ max least m

/-- The expression matches what stands between two places. -/
def Spans : Regex → Place → Place → Prop
  | empty, p, q => q = p
  | char cls, p, q => ∃ c rest, p.after = c :: rest ∧ cls.mem c ∧ q = ⟨some c, rest⟩
  | look condition ascii, p, q =>
    condition.holds (if ascii then CharClass.mem .asciiWord else isWord) p ∧ q = p
  | seq a b, p, q => ∃ middle, Spans a p middle ∧ Spans b middle q
  | alt a b, p, q => Spans a p q ∨ Spans b p q
  | rep a least most, p, q => ∃ n, Allows least most n ∧ Steps (Spans a) n p q

def MatchesWhole (regex : Regex) (text : String) : Prop :=
  ∃ q, regex.Spans ⟨none, text.toList⟩ q ∧ q.after = []

section Steps

variable {R S : Place → Place → Prop} {n k : Nat} {p q r : Place}

theorem Steps.trans (h : Steps R n p q) (h' : Steps R k q r) : Steps R (n + k) p r := by
  induction h with
  | zero p => simpa using h'
  | succ hstep _ ih =>
    rw [Nat.add_right_comm]
    exact .succ hstep (ih h')

theorem Steps.split (h : Steps R (n + k) p r) : ∃ q, Steps R n p q ∧ Steps R k q r := by
  induction n generalizing p with
  | zero => exact ⟨p, .zero p, by simpa using h⟩
  | succ n ih =>
    rw [Nat.add_right_comm] at h
    cases h with
    | succ hstep hs =>
      obtain ⟨q, hfirst, hlast⟩ := ih hs
      exact ⟨q, .succ hstep hfirst, hlast⟩

theorem steps_add : Steps R (n + k) p r ↔ ∃ q, Steps R n p q ∧ Steps R k q r := by
  constructor
  · exact Steps.split
  · rintro ⟨q, hfirst, hlast⟩
    exact hfirst.trans hlast

theorem steps_congr (h : ∀ p q, R p q ↔ S p q) : Steps R n p q ↔ Steps S n p q := by
  have heq : R = S := by
    funext p q
    exact propext (h p q)
  rw [heq]

def Advances (R : Place → Place → Prop) : Prop :=
  ∀ p q, R p q → q = p ∨ q.after.length < p.after.length

variable (hR : Advances R)

include hR

theorem Steps.advances : Advances (Steps R n) := by
  intro p q h
  induction h with
  | zero p => exact .inl rfl
  | succ hstep _ ih =>
    cases hR _ _ hstep with
    | inl heq =>
      rw [← heq]
      exact ih
    | inr hlt =>
      right
      cases ih with
      | inl heq =>
        rw [heq]
        exact hlt
      | inr hlt' => omega

theorem Steps.exists_loop (h : Steps R n p q) (hn : p.after.length < n) :
    ∃ i j m, i + j + 1 = n ∧ Steps R i p m ∧ R m m ∧ Steps R j m q := by
  induction h with
  | zero p => omega
  | @succ n p middle q hstep hs ih =>
    cases hR _ _ hstep with
    | inl heq =>
      rw [heq] at hstep hs
      exact ⟨0, n, p, by omega, .zero p, hstep, hs⟩
    | inr hlt =>
      obtain ⟨i, j, m, hij, hfirst, hloop, hlast⟩ := ih (by omega)
      exact ⟨i + 1, j, m, by omega, .succ hstep hfirst, hloop, hlast⟩

theorem steps_succ_iff (hn : p.after.length < n) : Steps R (n + 1) p q ↔ Steps R n p q := by
  constructor
  · intro h
    obtain ⟨i, j, m, hij, hfirst, -, hlast⟩ := h.exists_loop hR (by omega)
    obtain rfl : n = i + j := by omega
    exact hfirst.trans hlast
  · intro h
    obtain ⟨i, j, m, rfl, hfirst, hloop, hlast⟩ := h.exists_loop hR hn
    have hlonger : Steps R (i + (j + 1 + 1)) p q := hfirst.trans (.succ hloop (.succ hloop hlast))
    exact hlonger

theorem steps_iff_of_lt (hn : p.after.length < n) (hk : p.after.length < k) :
    Steps R n p q ↔ Steps R k p q := by
  have hbound : ∀ i, p.after.length < i → (Steps R i p q ↔ Steps R (p.after.length + 1) p q) := by
    intro i hi
    induction i with
    | zero => omega
    | succ i ih =>
      by_cases heq : i = p.after.length
      · rw [heq]
      · rw [steps_succ_iff hR (by omega), ih (by omega)]
  rw [hbound n hn, hbound k hk]

theorem exists_allows_iff (least : Nat) (most : Option Nat) :
    (∃ n, Allows least most n ∧ Steps R n p q) ↔
      ∃ k, k ≤ p.after.length + 1 ∧ (∀ m, most = some m → k ≤ m - least)
        ∧ Steps R (min least (p.after.length + 1) + k) p q := by
  -- Rounds beyond the characters that are left stay at one place, so their number does not matter.
  by_cases hleast : least ≤ p.after.length + 1
  · rw [Nat.min_eq_left hleast]
    constructor
    · rintro ⟨n, ⟨hlow, hhigh⟩, hn⟩
      by_cases hmany : n - least ≤ p.after.length + 1
      · refine ⟨n - least, hmany, ?_, by rwa [Nat.add_sub_cancel' hlow]⟩
        intro m hm
        have := hhigh m hm
        omega
      · refine ⟨p.after.length + 1, Nat.le_refl _, ?_, ?_⟩
        · intro m hm
          have := hhigh m hm
          omega
        · exact (steps_iff_of_lt hR (by omega) (by omega)).mp hn
    · rintro ⟨k, -, hk, hs⟩
      refine ⟨least + k, ⟨Nat.le_add_right _ _, ?_⟩, hs⟩
      intro m hm
      have := hk m hm
      omega
  · rw [Nat.min_eq_right (by omega)]
    constructor
    · rintro ⟨n, ⟨hlow, -⟩, hn⟩
      refine ⟨0, by omega, fun _ _ => by omega, ?_⟩
      exact (steps_iff_of_lt hR (by omega) (by omega)).mp hn
    · rintro ⟨k, -, -, hs⟩
      refine ⟨least, ⟨Nat.le_refl _, fun _ _ => Nat.le_max_left _ _⟩, ?_⟩
      exact (steps_iff_of_lt hR (by omega) (by omega)).mp hs

end Steps

theorem spans_advances (regex : Regex) : Advances regex.Spans := by
  induction regex with
  | empty =>
    intro p q h
    exact .inl h
  | char cls =>
    rintro p q ⟨c, rest, hafter, -, rfl⟩
    right
    rw [hafter]
    simp
  | look condition ascii =>
    rintro p q ⟨-, rfl⟩
    exact .inl rfl
  | seq a b iha ihb =>
    rintro p q ⟨middle, ha, hb⟩
    cases iha _ _ ha with
    | inl heq =>
      rw [← heq]
      exact ihb _ _ hb
    | inr hlt =>
      right
      cases ihb _ _ hb with
      | inl heq =>
        rw [heq]
        exact hlt
      | inr hlt' => omega
  | alt a b iha ihb =>
    intro p q h
    cases h with
    | inl h => exact iha _ _ h
    | inr h => exact ihb _ _ h
  | rep a least most ih =>
    rintro p q ⟨n, -, hn⟩
    exact Steps.advances ih p q hn

section Ends

variable {step : Place → List Place} {ps : List Place} {n : Nat} {q : Place}

theorem mem_stepAll : q ∈ stepAll step ps ↔ ∃ p ∈ ps, q ∈ step p := by
  rw [stepAll, List.mem_eraseDups, List.mem_flatMap]

theorem mem_exactly : q ∈ exactly step n ps ↔ ∃ p ∈ ps, Steps (fun p q => q ∈ step p) n p q := by
  induction n generalizing ps with
  | zero =>
    rw [exactly]
    constructor
    · intro h
      exact ⟨q, h, .zero q⟩
    · rintro ⟨p, hp, hs⟩
      cases hs with
      | zero => exact hp
  | succ n ih =>
    rw [exactly, ih]
    constructor
    · rintro ⟨middle, hmiddle, hs⟩
      obtain ⟨p, hp, hstep⟩ := mem_stepAll.mp hmiddle
      exact ⟨p, hp, .succ hstep hs⟩
    · rintro ⟨p, hp, hs⟩
      cases hs with
      | @succ _ _ middle _ hstep hs => exact ⟨middle, mem_stepAll.mpr ⟨p, hp, hstep⟩, hs⟩

theorem mem_atMost :
    q ∈ atMost step n ps ↔ ∃ k ≤ n, ∃ p ∈ ps, Steps (fun p q => q ∈ step p) k p q := by
  induction n generalizing ps with
  | zero =>
    rw [atMost]
    constructor
    · intro h
      exact ⟨0, Nat.le_refl 0, q, h, .zero q⟩
    · rintro ⟨k, hk, p, hp, hs⟩
      obtain rfl := Nat.le_zero.mp hk
      cases hs with
      | zero => exact hp
  | succ n ih =>
    rw [atMost, List.mem_eraseDups, List.mem_append, ih]
    constructor
    · rintro (h | ⟨k, hk, middle, hmiddle, hs⟩)
      · exact ⟨0, Nat.zero_le _, q, h, .zero q⟩
      · obtain ⟨p, hp, hstep⟩ := mem_stepAll.mp hmiddle
        exact ⟨k + 1, by omega, p, hp, .succ hstep hs⟩
    · rintro ⟨k, hk, p, hp, hs⟩
      cases hs with
      | zero => exact .inl hp
      | @succ k _ middle _ hstep hs =>
        exact .inr ⟨k, by omega, middle, mem_stepAll.mpr ⟨p, hp, hstep⟩, hs⟩

theorem mem_atMost_exactly {least : Nat} {p : Place} :
    q ∈ atMost step n (exactly step least [p]) ↔
      ∃ k ≤ n, Steps (fun p q => q ∈ step p) (least + k) p q := by
  simp only [mem_atMost, mem_exactly, steps_add, List.mem_singleton, exists_eq_left]

/-- The search for the ends of matches finds all of them, and nothing else. -/
theorem mem_ends_iff (regex : Regex) (p q : Place) : q ∈ regex.ends p ↔ regex.Spans p q := by
  induction regex generalizing p q with
  | empty => simp [ends, Spans]
  | char cls =>
    rw [ends, Spans]
    cases hafter : p.after with
    | nil => simp
    | cons c rest =>
      dsimp only
      split
      · next hmem => simp [hmem]
      · next hmem => simp [hmem]
  | look condition ascii =>
    simp only [ends, Spans]
    split
    · simp
    · simp
  | seq a b iha ihb =>
    rw [ends, Spans, mem_stepAll]
    simp only [iha, ihb]
  | alt a b iha ihb => rw [ends, Spans, List.mem_eraseDups, List.mem_append, iha, ihb]
  | rep a least most ih =>
    have hsteps : ∀ n, Steps (fun p q => q ∈ ends a p) n p q ↔ Steps a.Spans n p q :=
      fun n => steps_congr ih
    rw [Spans, exists_allows_iff (spans_advances a)]
    simp only [ends]
    cases most with
    | none =>
      rw [mem_atMost_exactly]
      simp [hsteps]
    | some most =>
      rw [mem_atMost_exactly]
      simp only [hsteps, Nat.le_min, Option.some.injEq, forall_eq']
      constructor
      · rintro ⟨k, ⟨hmost, hbound⟩, hs⟩
        exact ⟨k, hbound, hmost, hs⟩
      · rintro ⟨k, hbound, hmost, hs⟩
        exact ⟨k, ⟨hmost, hbound⟩, hs⟩

end Ends

section Search

variable {regex : Regex} {text : String}

theorem isMatch_iff : regex.isMatch text ↔
    ∃ p ∈ places none text.toList, ∃ q, regex.Spans p q := by
  rw [isMatch, List.any_eq_true]
  simp only [Bool.not_eq_true', List.isEmpty_eq_false_iff_exists_mem, mem_ends_iff]

theorem isSome_before_of_mem_places {c : Char} {cs : List Char} {p : Place}
    (h : p ∈ places (some c) cs) : p.before.isSome := by
  induction cs generalizing c with
  | nil =>
    obtain rfl := List.mem_singleton.mp h
    rfl
  | cons d cs ih =>
    cases List.mem_cons.mp h with
    | inl heq =>
      rw [heq]
      rfl
    | inr hmem => exact ih hmem

theorem mem_places_start {cs : List Char} {p : Place} :
    p ∈ places none cs ∧ p.before = none ↔ p = ⟨none, cs⟩ := by
  cases cs with
  | nil =>
    rw [places, List.mem_singleton]
    constructor
    · exact And.left
    · rintro rfl
      exact ⟨rfl, rfl⟩
  | cons c cs =>
    rw [places, List.mem_cons]
    constructor
    · rintro ⟨heq | hmem, hbefore⟩
      · exact heq
      · have hsome := isSome_before_of_mem_places hmem
        rw [hbefore] at hsome
        contradiction
    · rintro rfl
      exact ⟨.inl rfl, rfl⟩

theorem isMatch_between_anchors (ascii ascii' : Bool) :
    (seq (look .textStart ascii) (seq regex (look .textEnd ascii'))).isMatch text ↔
      regex.MatchesWhole text := by
  rw [isMatch_iff]
  simp only [Spans, Look.holds]
  constructor
  · rintro ⟨p, hp, q, _, ⟨hstart, rfl⟩, middle, hspans, hend, rfl⟩
    obtain rfl := mem_places_start.mp ⟨hp, by simpa using hstart⟩
    exact ⟨q, hspans, by simpa using hend⟩
  · rintro ⟨q, hspans, hend⟩
    obtain ⟨hp, hstart⟩ := mem_places_start.mpr (rfl : (⟨none, text.toList⟩ : Place) = _)
    exact ⟨_, hp, q, _, ⟨by simp, rfl⟩, q, hspans, by simp [hend], rfl⟩

end Search

end Regex
end CursorQuery
