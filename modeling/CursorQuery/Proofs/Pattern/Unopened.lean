import CursorQuery.Proofs.Pattern.Anchoring
import CursorQuery.Proofs.Pattern.Caution

/-!
This module contains what anchoring does to a pattern that is no regular expression by itself. What
closes the pattern does not make up for what is missing in it, so the anchored pattern is no regular
expression either, unless a parenthesis in the pattern closes the group around it.
-/

namespace CursorQuery
namespace Pattern

/--
A reader of the rest of a pattern that a group around it is no help to. The texts have fewer
characters than `n`, and the arguments are those of a closable reader.
-/
structure IsStuck (n : Nat)
    (run : Nat → List OpenGroup → List Char → Except PatternError (Nested Regex)) : Prop where
  closed : ∀ {cs e}, cs.length < n → run 0 [] cs = .error e → e ≠ .unopenedGroup →
    ∀ k around r, run k [around] (cs ++ closing) ≠ .ok r
  spent : ∀ {cs}, cs <:+ ['$'] → ∀ k around r, run k [around] cs ≠ .ok r

namespace IsStuck

variable {α : Type} {n : Nat}
  {run : Nat → List OpenGroup → List Char → Except PatternError (Nested Regex)}

theorem error (e : PatternError) : IsStuck n fun _ _ _ => .error e where
  closed _ _ _ _ _ _ h := by contradiction
  spent _ _ _ _ h := by contradiction

theorem bind {late : α → List Char → Prop} {first : Nat → List Char → Reader α}
    (next : α → Nat → List OpenGroup → List Char → Except PatternError (Nested Regex))
    (hfirst : IsCautious n late first)
    (herror : ∀ {k base cs e}, first k cs = .error e → run k base cs = .error e)
    (hok : ∀ {k base cs a rest}, first k cs = .ok (a, rest) →
      run k base cs = next a k base rest)
    (hnext : ∀ a, IsStuck n (next a))
    (hlate : ∀ {a rest}, late a rest → ∀ k around r, next a k [around] rest ≠ .ok r) :
    IsStuck n run where
  closed {cs e} hlength hrun he k around r hclosed := by
    -- The part may need the parenthesis to be read at all, and then it has used the parenthesis up.
    cases hcs : first 0 cs with
    | error e' =>
      cases hboth : first k (cs ++ closing) with
      | error e'' =>
        rw [herror hboth] at hclosed
        contradiction
      | ok later =>
        rw [hok hboth] at hclosed
        exact hlate (hfirst.late_of_error hlength hcs hboth) k around r hclosed
    | ok later =>
      obtain ⟨a, rest⟩ := later
      have hrest := (hfirst.suffix hcs).length_le
      rw [hok hcs] at hrun
      by_cases hempty : rest = []
      · rw [hempty] at hcs hrun hrest
        cases hfirst.toIsLocal.ending hcs with
        | inl hends =>
          rw [hok (hends.2 k closing (by decide))] at hclosed
          exact (hnext a).spent List.nil_suffix k around r hclosed
        | inr hopen =>
          rw [hok (hopen k)] at hclosed
          exact (hnext a).closed (by omega) hrun he k around r hclosed
      · rw [hok (hfirst.toIsLocal.append hcs hempty k closing)] at hclosed
        exact (hnext a).closed (by omega) hrun he k around r hclosed
  spent {cs} hcs k around r h := by
    cases hfirst' : first k cs with
    | error e =>
      rw [herror hfirst'] at h
      contradiction
    | ok later =>
      rw [hok hfirst'] at h
      exact (hnext later.1).spent ((hfirst.suffix hfirst').trans hcs) k around r h

theorem bind_spent {first : Nat → List Char → Reader α}
    (next : α → Nat → List OpenGroup → List Char → Except PatternError (Nested Regex))
    (hfirst : IsCautious n Spent first)
    (herror : ∀ {k base cs e}, first k cs = .error e → run k base cs = .error e)
    (hok : ∀ {k base cs a rest}, first k cs = .ok (a, rest) →
      run k base cs = next a k base rest)
    (hnext : ∀ a, IsStuck n (next a)) : IsStuck n run :=
  bind next hfirst herror hok hnext fun hspent => (hnext _).spent hspent

end IsStuck

section Rounds

variable [Engine] {fuel : Nat} {outer : List OpenGroup} {group : OpenGroup} {names : List (List Char)}
  {cs : List Char}

theorem groupLoop_spent (h : cs <:+ ['$']) (houter : outer ≠ []) (r : Nested Regex) :
    groupLoop fuel outer group names cs ≠ .ok r := by
  -- An anchor does not close a group.
  induction fuel generalizing group cs with
  | zero => simp [groupLoop]
  | succ fuel ih =>
    have hopen : outer.isEmpty = false := by simpa using houter
    obtain rfl | rfl : cs = ['$'] ∨ cs = [] := by
      simpa [List.suffix_cons_iff] using h
    · have hskip : group.flags.skip ['$'] = ['$'] := skip_stop rfl (by decide) []
      simp only [groupLoop, hskip]
      exact ih List.nil_suffix
    · rw [groupLoop_nil (skip_nil _), hopen]
      simp

theorem groupLoop_brace {more : List Char} (hskip : group.flags.skip cs = '\x7b' :: more)
    (hmore : group.flags.skip more = closing) (r : Nested Regex) :
    groupLoop fuel outer group names cs ≠ .ok r := by
  -- A brace has to hold a number.
  cases fuel with
  | zero => simp [groupLoop]
  | succ fuel =>
    simp only [groupLoop, hskip, bounds_closing hmore]
    split
    · simp
    · simp

section Step

-- What is left to read after a round is stuck with one round less.
variable (hlater : ∀ outer group names,
  IsStuck fuel fun k base => groupLoop (fuel + k) (outer ++ base) group names)
  (outer : List OpenGroup) (group : OpenGroup) (names : List (List Char))

include hlater

theorem isStuck_item (read : Except PatternError Regex) :
    IsStuck fuel fun k base rest =>
      match read with
      | .error e => .error e
      | .ok r => groupLoop (fuel + k) (outer ++ base) (group.add (.flat r)) names rest := by
  cases read with
  | error e => exact .error e
  | ok r => exact hlater outer (group.add (.flat r)) names

theorem isStuck_repeated (least : Nat) (most : Option Nat) :
    IsStuck fuel fun k base rest =>
      match group.repeatLast? least most with
      | some repeated => groupLoop (fuel + k) (outer ++ base) repeated names (skipLazy rest)
      | none => .error .nothingToRepeat := by
  cases group.repeatLast? least most with
  | none => exact .error _
  | some repeated =>
    apply IsStuck.bind_spent (fun _ k base => groupLoop (fuel + k) (outer ++ base) repeated names)
      isCautious_skipLazy
    · intro k base cs e h
      contradiction
    · intro k base cs a rest h
      rw [(Prod.mk.inj (Except.ok.inj h)).2]
    · exact fun _ => hlater outer repeated names

theorem isStuck_opening :
    IsStuck fuel fun k base rest =>
      match opening group.flags names rest with
      | .error e => .error e
      | .ok (.setFlags changed, rest) =>
        groupLoop (fuel + k) (outer ++ base)
          { group with flags := changed, items := none :: group.items } names rest
      | .ok (.group inner name?, rest) =>
        groupLoop (fuel + k) (group :: (outer ++ base)) (.start inner) (name?.toList ++ names)
          rest := by
  apply IsStuck.bind_spent (fun read k base rest =>
    match read with
    | .setFlags changed =>
      groupLoop (fuel + k) (outer ++ base)
        { group with flags := changed, items := none :: group.items } names rest
    | .group inner name? =>
      groupLoop (fuel + k) (group :: outer ++ base) (.start inner) (name?.toList ++ names) rest)
    (isCautious_opening group.flags names)
  · intro k base cs e h
    simp only [h]
  · intro k base cs read rest h
    cases read with
    | _ => simp only [h, List.cons_append]
  · intro read
    cases read with
    | setFlags changed => exact hlater outer _ names
    | group inner name? => exact hlater (group :: outer) (.start inner) _

theorem isStuck_bracketed :
    IsStuck fuel fun k base rest =>
      match bracketed group.flags rest with
      | .error e => .error e
      | .ok (cls, rest) =>
        groupLoop (fuel + k) (outer ++ base) (group.add (cls.map .char)) names rest := by
  apply IsStuck.bind _ (isCautious_bracketed group.flags) ?_ ?_
    (fun cls => hlater outer (group.add (cls.map .char)) names) False.elim
  · intro k base cs e h
    simp only [h]
  · intro k base cs read rest h
    simp only [h]

theorem isStuck_bounds :
    IsStuck fuel fun k base rest =>
      match bounds group.flags rest with
      | .error e => .error e
      | .ok ((least, most), rest) =>
        match group.repeatLast? least most with
        | some repeated =>
          groupLoop (fuel + k) (outer ++ base) repeated names (skipLazy (group.flags.skip rest))
        | none => .error .nothingToRepeat := by
  apply IsStuck.bind_spent (fun count k base rest =>
    match group.repeatLast? count.1 count.2 with
    | some repeated =>
      groupLoop (fuel + k) (outer ++ base) repeated names (skipLazy (group.flags.skip rest))
    | none => .error .nothingToRepeat) (isCautious_bounds group.flags)
  · intro k base cs e h
    simp only [h]
  · intro k base cs count rest h
    simp only [h]
  · intro count
    apply IsStuck.bind_spent _ (IsCautious.skip group.flags) ?_ ?_ fun _ =>
      isStuck_repeated hlater outer group names count.1 count.2
    · intro k base cs e h
      contradiction
    · intro k base cs a rest h
      rw [(Prod.mk.inj (Except.ok.inj h)).2]

theorem isStuck_escape :
    IsStuck fuel fun k base rest =>
      match escape group.flags rest with
      | .error e => .error e
      | .ok (p, rest) =>
        match primitive group.flags p with
        | .error e => .error e
        | .ok r => groupLoop (fuel + k) (outer ++ base) (group.add (.flat r)) names rest := by
  apply IsStuck.bind (fun p k base rest =>
    match primitive group.flags p with
    | .error e => .error e
    | .ok r => groupLoop (fuel + k) (outer ++ base) (group.add (.flat r)) names rest)
    (isCautious_escape group.flags) ?_ ?_
    fun p => isStuck_item hlater outer group names (primitive group.flags p)
  · rintro p rest (hspent | ⟨rfl, more, rfl, hmore⟩)
    · exact (isStuck_item hlater outer group names (primitive group.flags p)).spent hspent
    · intro k around r
      simp only [primitive]
      apply groupLoop_brace
      · exact skip_stop rfl (by decide) more
      · exact hmore
  · intro k base cs e h
    simp only [h]
  · intro k base cs read rest h
    simp only [h]

theorem exists_isStuck_rest {c : Char} (hunopened : c = ')' → outer ≠ []) :
    ∃ agreeing, IsStuck fuel agreeing ∧ ∀ {k base s more}, group.flags.skip s = c :: more →
      groupLoop (fuel + k + 1) (outer ++ base) group names s = agreeing k base more := by
  -- The operators are taken one by one. Whatever is no operator stands for itself.
  by_cases hc : c ∈ "()|[?*+\x7b\\.^$".toList
  · replace hc : c = '(' ∨ c = ')' ∨ c = '|' ∨ c = '[' ∨ c = '?' ∨ c = '*' ∨ c = '+' ∨ c = '\x7b'
      ∨ c = '\\' ∨ c = '.' ∨ c = '^' ∨ c = '$' := by simpa using hc
    obtain rfl | rfl | rfl | rfl | rfl | rfl | rfl | rfl | rfl | rfl | rfl | rfl := hc
    · refine ⟨_, isStuck_opening hlater outer group names, fun hs => ?_⟩
      rw [groupLoop, hs]
      rfl
    · cases outer with
      | nil => exact absurd rfl (hunopened rfl)
      | cons around outer =>
        refine ⟨_, hlater outer (around.add group.close.wrap) names, fun hs => ?_⟩
        rw [groupLoop, hs]
        rfl
    · refine ⟨_, hlater outer group.nextAlternative names, fun hs => ?_⟩
      rw [groupLoop, hs]
      rfl
    · refine ⟨_, isStuck_bracketed hlater outer group names, fun hs => ?_⟩
      rw [groupLoop, hs]
      rfl
    · refine ⟨_, isStuck_repeated hlater outer group names 0 (some 1), fun hs => ?_⟩
      rw [groupLoop, hs]
      rfl
    · refine ⟨_, isStuck_repeated hlater outer group names 0 none, fun hs => ?_⟩
      rw [groupLoop, hs]
      rfl
    · refine ⟨_, isStuck_repeated hlater outer group names 1 none, fun hs => ?_⟩
      rw [groupLoop, hs]
      rfl
    · cases hrepeat : group.canRepeat with
      | false =>
        refine ⟨_, .error .nothingToRepeat, fun hs => ?_⟩
        rw [groupLoop, hs, hrepeat]
        rfl
      | true =>
        refine ⟨_, isStuck_bounds hlater outer group names, fun hs => ?_⟩
        rw [groupLoop, hs, hrepeat]
        rfl
    · refine ⟨_, isStuck_escape hlater outer group names, fun hs => ?_⟩
      rw [groupLoop, hs]
      rfl
    · refine ⟨_, isStuck_item hlater outer group names (dot group.flags), fun hs => ?_⟩
      rw [groupLoop, hs]
      rfl
    · exact ⟨_, hlater outer _ names, fun hs => groupLoop_start hs⟩
    · refine ⟨_, hlater outer (group.add (.flat (.look (endAnchor group.flags) (!group.flags.unicode))))
        names, fun hs => ?_⟩
      rw [groupLoop, hs]
      rfl
  · exact ⟨_, isStuck_item hlater outer group names _, fun hs => groupLoop_literal hc hs⟩

end Step

theorem groupLoop_unopened {rest : List Char} (h : group.flags.skip cs = ')' :: rest) :
    groupLoop (fuel + 1) [] group names cs = .error .unopenedGroup := by
  rw [groupLoop, h]
  rfl

theorem isStuck_groupLoop (fuel : Nat) (outer : List OpenGroup) (group : OpenGroup)
    (names : List (List Char)) :
    IsStuck fuel fun k base => groupLoop (fuel + k) (outer ++ base) group names := by
  induction fuel generalizing outer group names with
  | zero =>
    refine ⟨fun hlength => absurd hlength (Nat.not_lt_zero _), ?_⟩
    intro cs hcs k around r
    exact groupLoop_spent hcs (by simp) r
  | succ fuel ih =>
    refine ⟨?_, fun hcs k around r => groupLoop_spent hcs (by simp) r⟩
    intro cs e hlength hrun he k around r hclosed
    simp only [Nat.add_right_comm fuel 1, Nat.add_zero, List.append_nil] at hrun hclosed
    have hsuffix := (skip_suffix group.flags cs).length_le
    cases hskip : group.flags.skip cs with
    | nil =>
      rw [groupLoop_nil hskip] at hrun
      have hcloses := skip_append_closing group.flags cs
      rw [hskip] at hcloses
      obtain hcloses | ⟨-, hcloses⟩ := hcloses
      · cases outer with
        | nil => contradiction
        | cons inner outer =>
          -- The parenthesis closes a group of the text, and the one around the text stays open.
          obtain ⟨agreeing, hstuck, heq⟩ := exists_isStuck_rest ih (inner :: outer) group names
            fun _ => List.cons_ne_nil inner outer
          rw [heq hcloses] at hclosed
          exact hstuck.spent (List.suffix_refl _) k around r hclosed
      · rw [groupLoop_nil hcloses] at hclosed
        simp at hclosed
    | cons c more =>
      rw [hskip, List.length_cons] at hsuffix
      have hboth := skip_cons_append hskip closing
      by_cases hunopened : c = ')' ∧ outer = []
      · obtain ⟨rfl, rfl⟩ := hunopened
        rw [groupLoop_unopened hskip] at hrun
        exact he (Except.error.inj hrun).symm
      · obtain ⟨agreeing, hstuck, heq⟩ :=
          exists_isStuck_rest ih outer group names (c := c) (not_and.mp hunopened)
        have hstart := @heq 0 [] cs more hskip
        rw [Nat.add_zero, List.append_nil] at hstart
        rw [hstart] at hrun
        rw [heq hboth] at hclosed
        exact hstuck.closed (by omega) hrun he k around r hclosed

end Rounds

/--
What is no regular expression by itself is none with anchors around it either, unless a parenthesis
in it closes the group around it.
-/
theorem read_eq_unopenedGroup [Engine] {pattern : String} {e : PatternError}
    (h : read pattern = .error e) (hanchored : IsWellFormed (anchored pattern)) :
    e = .unopenedGroup := by
  by_contra he
  obtain ⟨expression, hread⟩ := hanchored
  rw [read_anchored] at hread
  have hlength : pattern.toList.length < pattern.length + 1 := by
    rw [String.length_toList]
    exact Nat.lt_succ_self _
  exact (isStuck_groupLoop (pattern.length + 1) [] (.start {}) []).closed hlength h he 4 _ expression
    hread

end Pattern
end CursorQuery
