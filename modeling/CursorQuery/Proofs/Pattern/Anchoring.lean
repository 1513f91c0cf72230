import CursorQuery.Proofs.Pattern.Locality

/-!
This module contains the proof of what anchoring does to a pattern: it keeps a valid pattern valid
unless the pattern ends in a comment, since then what closes the pattern goes into the comment, or comes
too close to a limit.
-/

namespace CursorQuery
namespace Pattern

def OpenGroup.anchor (around : OpenGroup) (inner : Nested Regex) : Nested Regex :=
  ((around.add inner.wrap).add
    (.flat (.look (endAnchor around.flags) (!around.flags.unicode)))).close

/--
A reader of the rest of a pattern that can tell whether all groups are closed. Its arguments are the
number of rounds that it may use beyond those that it has been given, and the groups around the part
that it reads.
-/
structure IsClosable
    (run : Nat → List OpenGroup → List Char → Except PatternError (Nested Regex)) : Prop where
  more : ∀ {cs r}, run 0 [] cs = .ok r → ∀ k, run k [] cs = .ok r
  unclosed : ∀ {cs r}, run 0 [] cs = .ok r → ∀ k around, run k [around] cs = .error .unclosedGroup
  ending : ∀ {cs r}, run 0 [] cs = .ok r →
    EndsInside (fun k => run k []) cs r
      ∨ ∀ k around, run (k + 2) [around] (cs ++ closing) = .ok (around.anchor r)

namespace IsClosable

variable {α : Type}
  {run : Nat → List OpenGroup → List Char → Except PatternError (Nested Regex)}

theorem of_error (h : ∀ cs r, run 0 [] cs ≠ .ok r) : IsClosable run where
  more hrun := absurd hrun (h _ _)
  unclosed hrun := absurd hrun (h _ _)
  ending hrun := absurd hrun (h _ _)

theorem error (e : PatternError) : IsClosable fun _ _ _ => .error e := by
  apply of_error
  intro cs r h
  contradiction

theorem bind {first : Nat → List Char → Reader α}
    (next : α → Nat → List OpenGroup → List Char → Except PatternError (Nested Regex))
    (hfirst : IsLocal first)
    (herror : ∀ {k base cs e}, first k cs = .error e → run k base cs = .error e)
    (hok : ∀ {k base cs a rest}, first k cs = .ok (a, rest) → run k base cs = next a k base rest)
    (hnext : ∀ a, IsClosable (next a)) : IsClosable run := by
  have hsteps : ∀ {cs r}, run 0 [] cs = .ok r →
      ∃ a rest, first 0 cs = .ok (a, rest) ∧ next a 0 [] rest = .ok r := by
    intro cs r h
    cases hcs : first 0 cs with
    | error e =>
      rw [herror hcs] at h
      contradiction
    | ok read =>
      rw [hok hcs] at h
      exact ⟨read.1, read.2, rfl, h⟩
  constructor
  · intro cs r h k
    obtain ⟨a, rest, hcs, hlater⟩ := hsteps h
    rw [hok (hfirst.more hcs k)]
    exact (hnext a).more hlater k
  · intro cs r h k around
    obtain ⟨a, rest, hcs, hlater⟩ := hsteps h
    rw [hok (hfirst.more hcs k)]
    exact (hnext a).unclosed hlater k around
  · intro cs r h
    obtain ⟨a, rest, hcs, hlater⟩ := hsteps h
    -- If the part takes all of the text, then what comes after the text could still belong to the
    -- part.
    by_cases hrest : rest = []
    · rw [hrest] at hcs hlater
      have hopen : ∀ k around, next a (k + 2) [around] closing = .ok (around.anchor r) := by
        cases (hnext a).ending hlater with
        | inl hends => simp [EndsInside] at hends
        | inr hopen => exact hopen
      cases hfirst.ending hcs with
      | inl hends =>
        refine .inl ⟨hends.1, fun k t ht => ?_⟩
        exact (hok (hends.2 k t ht)).trans ((hnext a).more hlater k)
      | inr hclosing =>
        refine .inr fun k around => ?_
        rw [hok (hclosing (k + 2))]
        exact hopen k around
    · have happend := hfirst.append hcs hrest
      cases (hnext a).ending hlater with
      | inl hends =>
        refine .inl ⟨(hfirst.suffix hcs).subset hends.1, fun k t ht => ?_⟩
        exact (hok (happend k t)).trans (hends.2 k t ht)
      | inr hopen =>
        refine .inr fun k around => ?_
        rw [hok (happend (k + 2) closing)]
        exact hopen k around

theorem of_agrees (flags : Flags)
    (h : ∀ {cs r}, run 0 [] cs = .ok r →
      (∃ agreeing rest, IsClosable agreeing ∧ rest <:+ cs
        ∧ ∀ k base t, run k base (cs ++ t) = agreeing k base (rest ++ t))
      ∨ (flags.skip cs = [] ∧ (∀ k s, flags.skip s = [] → run k [] s = .ok r)
        ∧ (∀ k around s, flags.skip s = [] → run k [around] s = .error .unclosedGroup)
        ∧ ∀ k around s, flags.skip s = closing → run (k + 2) [around] s = .ok (around.anchor r))) :
    IsClosable run where
  more {cs r} hrun k := by
    -- Either a closable reader does the rest, or nothing that counts is left for it.
    cases h hrun with
    | inl hagrees =>
      obtain ⟨agreeing, rest, hclosable, -, heq⟩ := hagrees
      have heq₀ := heq 0 [] []
      have heqk := heq k [] []
      simp only [List.append_nil] at heq₀ heqk
      rw [heqk]
      exact hclosable.more (heq₀.symm.trans hrun) k
    | inr hlast =>
      obtain ⟨hskip, hnil, -⟩ := hlast
      exact hnil k cs hskip
  unclosed {cs r} hrun k around := by
    cases h hrun with
    | inl hagrees =>
      obtain ⟨agreeing, rest, hclosable, -, heq⟩ := hagrees
      have heq₀ := heq 0 [] []
      have heqk := heq k [around] []
      simp only [List.append_nil] at heq₀ heqk
      rw [heqk]
      exact hclosable.unclosed (heq₀.symm.trans hrun) k around
    | inr hlast =>
      obtain ⟨hskip, -, hnil, -⟩ := hlast
      exact hnil k around cs hskip
  ending {cs r} hrun := by
    cases h hrun with
    | inl hagrees =>
      obtain ⟨agreeing, rest, hclosable, hrest, heq⟩ := hagrees
      have heq₀ := heq 0 [] []
      simp only [List.append_nil] at heq₀
      cases hclosable.ending (heq₀.symm.trans hrun) with
      | inl hends =>
        refine .inl ⟨hrest.subset hends.1, fun k t ht => ?_⟩
        exact (heq k [] t).trans (hends.2 k t ht)
      | inr hopen =>
        refine .inr fun k around => ?_
        rw [heq (k + 2) [around] closing]
        exact hopen k around
    | inr hlast =>
      obtain ⟨hskip, hnil, -, hclosing⟩ := hlast
      cases skip_ending hskip with
      | inl hends => exact .inl ⟨hends.1, fun k t ht => hnil k _ (hends.2 t ht)⟩
      | inr hopen =>
        exact .inr fun k around => hclosing k around _ ((hopen closing).trans (skip_closing flags))

end IsClosable

section Rounds

variable [Engine] {fuel : Nat} {outer : List OpenGroup} {group : OpenGroup} {names : List (List Char)}
  {cs rest : List Char}

theorem groupLoop_closing (h : group.flags.skip cs = closing) (k : Nat) (around : OpenGroup) :
    groupLoop (k + 3) [around] group names cs = .ok (around.anchor group.close) := by
  -- Closing the group around a part and reading the anchor after it takes three rounds.
  have hdollar : ∀ flags : Flags, flags.skip ['$'] = ['$'] :=
    fun flags => skip_stop rfl (by decide) []
  simp only [groupLoop, h, closing, hdollar, OpenGroup.add, skip_nil]
  rfl

theorem groupLoop_nil (h : group.flags.skip cs = []) :
    groupLoop (fuel + 1) outer group names cs =
      if outer.isEmpty then .ok group.close else .error .unclosedGroup := by
  rw [groupLoop, h]

theorem groupLoop_start (h : group.flags.skip cs = '^' :: rest) :
    groupLoop (fuel + 1) outer group names cs =
      groupLoop fuel outer (group.add (.flat (.look (startAnchor group.flags) (!group.flags.unicode)))) names
        rest := by
  rw [groupLoop, h]
  rfl

theorem groupLoop_group {inner : Flags} {name? : Option (List Char)} {more : List Char}
    (h : group.flags.skip cs = '(' :: rest)
    (hopening : opening group.flags names rest = .ok (.group inner name?, more)) :
    groupLoop (fuel + 1) outer group names cs =
      groupLoop fuel (group :: outer) (.start inner) (name?.toList ++ names) more := by
  rw [groupLoop, h]
  simp only [hopening]

theorem groupLoop_literal {c : Char} (hc : c ∉ "()|[?*+\x7b\\.^$".toList)
    (h : group.flags.skip cs = c :: rest) :
    groupLoop (fuel + 1) outer group names cs =
      match primitive group.flags (.literal c false) with
      | .error e => .error e
      | .ok r => groupLoop fuel outer (group.add (.flat r)) names rest := by
  rw [groupLoop, h]
  split
  case h_14 =>
    obtain ⟨rfl, rfl⟩ := List.cons.inj ‹c :: rest = _›
    rfl
  all_goals simp_all

section Step

-- What is left to read after a round can be closed with one round less.
variable (hlater : ∀ outer group names,
  IsClosable fun k base => groupLoop (fuel + k) (outer ++ base) group names)
  (outer : List OpenGroup) (group : OpenGroup) (names : List (List Char))

include hlater

theorem isClosable_item (read : Except PatternError Regex) :
    IsClosable fun k base rest =>
      match read with
      | .error e => .error e
      | .ok r => groupLoop (fuel + k) (outer ++ base) (group.add (.flat r)) names rest := by
  cases read with
  | error e => exact .error e
  | ok r => exact hlater outer (group.add (.flat r)) names

theorem isClosable_repeated (least : Nat) (most : Option Nat) :
    IsClosable fun k base rest =>
      match group.repeatLast? least most with
      | some repeated => groupLoop (fuel + k) (outer ++ base) repeated names (skipLazy rest)
      | none => .error .nothingToRepeat := by
  cases group.repeatLast? least most with
  | none => exact .error _
  | some repeated =>
    apply IsClosable.bind (fun _ k base => groupLoop (fuel + k) (outer ++ base) repeated names)
      isLocal_skipLazy
    · intro k base cs e h
      contradiction
    · intro k base cs a rest h
      rw [(Prod.mk.inj (Except.ok.inj h)).2]
    · exact fun _ => hlater outer repeated names

theorem isClosable_opening :
    IsClosable fun k base rest =>
      match opening group.flags names rest with
      | .error e => .error e
      | .ok (.setFlags changed, rest) =>
        groupLoop (fuel + k) (outer ++ base)
          { group with flags := changed, items := none :: group.items } names rest
      | .ok (.group inner name?, rest) =>
        groupLoop (fuel + k) (group :: (outer ++ base)) (.start inner) (name?.toList ++ names)
          rest := by
  apply IsClosable.bind (fun read k base rest =>
    match read with
    | .setFlags changed =>
      groupLoop (fuel + k) (outer ++ base)
        { group with flags := changed, items := none :: group.items } names rest
    | .group inner name? =>
      groupLoop (fuel + k) (group :: outer ++ base) (.start inner) (name?.toList ++ names) rest)
    (isLocal_opening group.flags names)
  · intro k base cs e h
    simp only [h]
  · intro k base cs read rest h
    cases read with
    | _ => simp only [h, List.cons_append]
  · intro read
    cases read with
    | setFlags changed => exact hlater outer _ names
    | group inner name? => exact hlater (group :: outer) (.start inner) _

theorem isClosable_bracketed :
    IsClosable fun k base rest =>
      match bracketed group.flags rest with
      | .error e => .error e
      | .ok (cls, rest) => groupLoop (fuel + k) (outer ++ base) (group.add (cls.map .char)) names rest := by
  apply IsClosable.bind _ (isLocal_bracketed group.flags) ?_ ?_
    fun cls => hlater outer (group.add (cls.map .char)) names
  · intro k base cs e h
    simp only [h]
  · intro k base cs read rest h
    simp only [h]

theorem isClosable_bounds :
    IsClosable fun k base rest =>
      match bounds group.flags rest with
      | .error e => .error e
      | .ok ((least, most), rest) =>
        match group.repeatLast? least most with
        | some repeated =>
          groupLoop (fuel + k) (outer ++ base) repeated names (skipLazy (group.flags.skip rest))
        | none => .error .nothingToRepeat := by
  apply IsClosable.bind (fun count k base rest =>
    match group.repeatLast? count.1 count.2 with
    | some repeated =>
      groupLoop (fuel + k) (outer ++ base) repeated names (skipLazy (group.flags.skip rest))
    | none => .error .nothingToRepeat) (isLocal_bounds group.flags)
  · intro k base cs e h
    simp only [h]
  · intro k base cs count rest h
    simp only [h]
  · intro count
    apply IsClosable.bind _ (IsLocal.skip group.flags) ?_ ?_ fun _ =>
      isClosable_repeated hlater outer group names count.1 count.2
    · intro k base cs e h
      contradiction
    · intro k base cs a rest h
      rw [(Prod.mk.inj (Except.ok.inj h)).2]

theorem isClosable_escape :
    IsClosable fun k base rest =>
      match escape group.flags rest with
      | .error e => .error e
      | .ok (p, rest) =>
        match primitive group.flags p with
        | .error e => .error e
        | .ok r => groupLoop (fuel + k) (outer ++ base) (group.add (.flat r)) names rest := by
  apply IsClosable.bind (fun p k base rest =>
    match primitive group.flags p with
    | .error e => .error e
    | .ok r => groupLoop (fuel + k) (outer ++ base) (group.add (.flat r)) names rest)
    (isLocal_escape group.flags) ?_ ?_
    fun p => isClosable_item hlater outer group names (primitive group.flags p)
  · intro k base cs e h
    simp only [h]
  · intro k base cs read rest h
    simp only [h]

theorem exists_isClosable_rest {c : Char} {r : Nested Regex}
    (h : groupLoop (fuel + 1) outer group names cs = .ok r) (hskip : group.flags.skip cs = c :: rest) :
    ∃ agreeing, IsClosable agreeing ∧ ∀ {k base s more}, group.flags.skip s = c :: more →
      groupLoop (fuel + k + 1) (outer ++ base) group names s = agreeing k base more := by
  -- The operators are taken one by one. Whatever is no operator stands for itself.
  by_cases hc : c ∈ "()|[?*+\x7b\\.^$".toList
  · replace hc : c = '(' ∨ c = ')' ∨ c = '|' ∨ c = '[' ∨ c = '?' ∨ c = '*' ∨ c = '+' ∨ c = '\x7b'
      ∨ c = '\\' ∨ c = '.' ∨ c = '^' ∨ c = '$' := by simpa using hc
    obtain rfl | rfl | rfl | rfl | rfl | rfl | rfl | rfl | rfl | rfl | rfl | rfl := hc
    · refine ⟨_, isClosable_opening hlater outer group names, fun hs => ?_⟩
      rw [groupLoop, hs]
      rfl
    · cases outer with
      | nil => simp [groupLoop, hskip] at h
      | cons around outer =>
        refine ⟨_, hlater outer (around.add group.close.wrap) names, fun hs => ?_⟩
        rw [groupLoop, hs]
        rfl
    · refine ⟨_, hlater outer group.nextAlternative names, fun hs => ?_⟩
      rw [groupLoop, hs]
      rfl
    · refine ⟨_, isClosable_bracketed hlater outer group names, fun hs => ?_⟩
      rw [groupLoop, hs]
      rfl
    · refine ⟨_, isClosable_repeated hlater outer group names 0 (some 1), fun hs => ?_⟩
      rw [groupLoop, hs]
      rfl
    · refine ⟨_, isClosable_repeated hlater outer group names 0 none, fun hs => ?_⟩
      rw [groupLoop, hs]
      rfl
    · refine ⟨_, isClosable_repeated hlater outer group names 1 none, fun hs => ?_⟩
      rw [groupLoop, hs]
      rfl
    · cases hrepeat : group.canRepeat with
      | false => simp [groupLoop, hskip, hrepeat] at h
      | true =>
        refine ⟨_, isClosable_bounds hlater outer group names, fun hs => ?_⟩
        rw [groupLoop, hs, hrepeat]
        rfl
    · refine ⟨_, isClosable_escape hlater outer group names, fun hs => ?_⟩
      rw [groupLoop, hs]
      rfl
    · refine ⟨_, isClosable_item hlater outer group names (dot group.flags), fun hs => ?_⟩
      rw [groupLoop, hs]
      rfl
    · exact ⟨_, hlater outer _ names, fun hs => groupLoop_start hs⟩
    · refine ⟨_, hlater outer (group.add (.flat (.look (endAnchor group.flags) (!group.flags.unicode)))) names,
        fun hs => ?_⟩
      rw [groupLoop, hs]
      rfl
  · exact ⟨_, isClosable_item hlater outer group names _, fun hs => groupLoop_literal hc hs⟩

end Step

theorem isClosable_groupLoop (fuel : Nat) (outer : List OpenGroup) (group : OpenGroup)
    (names : List (List Char)) :
    IsClosable fun k base => groupLoop (fuel + k) (outer ++ base) group names := by
  induction fuel generalizing outer group names with
  | zero => exact .of_error (by simp [groupLoop])
  | succ fuel ih =>
    apply IsClosable.of_agrees group.flags
    intro cs r h
    simp only [Nat.add_right_comm fuel 1, Nat.add_zero, List.append_nil] at h ⊢
    cases hskip : group.flags.skip cs with
    | nil =>
      right
      rw [groupLoop_nil hskip] at h
      cases outer with
      | cons around outer => contradiction
      | nil =>
        refine ⟨rfl, fun k s hs => ?_, fun k around s hs => ?_, fun k around s hs => ?_⟩
        · exact (groupLoop_nil hs).trans h
        · exact groupLoop_nil hs
        · rw [← Except.ok.inj h]
          exact groupLoop_closing hs (fuel + k) around
    | cons c rest =>
      left
      obtain ⟨agreeing, hclosable, heq⟩ := exists_isClosable_rest ih outer group names h hskip
      have hsuffix := skip_suffix group.flags cs
      rw [hskip] at hsuffix
      refine ⟨agreeing, rest, hclosable, (List.suffix_cons c rest).trans hsuffix, ?_⟩
      intro k base t
      exact heq (skip_cons_append hskip t)

end Rounds

section Anchored

variable [Engine]

/-- The pattern is a regular expression, whatever it takes to compile it. -/
def IsWellFormed (pattern : String) : Prop :=
  ∃ expression, read pattern = .ok expression

/-- The pattern ends in a comment: what is added to its last line makes no difference. -/
def EndsInComment (pattern : String) : Prop :=
  ∀ text : String, '\n' ∉ text.toList → read (pattern ++ text) = read pattern

/-- There is room for the anchors: they and the group between them are two more levels. -/
structure HasRoom (pattern : String) : Prop where
  depth : ∀ expression, read pattern = .ok expression → expression.depth + 2 ≤ nestLimit
  size : Engine.compiledSize ("^(?:" ++ pattern ++ ")$") ≤ sizeLimit

variable {pattern : String} {expression : Nested Regex}

theorem read_append (pattern text : String) :
    read (pattern ++ text) =
      groupLoop (pattern.length + 1 + text.length) [] (.start {}) []
        (pattern.toList ++ text.toList) := by
  unfold read
  rw [String.length_append, String.toList_append, Nat.add_right_comm]

theorem read_anchored (pattern : String) :
    read (anchored pattern) =
      groupLoop (pattern.length + 1 + 4)
        [(OpenGroup.start {}).add (.flat (.look .textStart false))] (.start {}) []
        (pattern.toList ++ closing) := by
  have htext : (anchored pattern).toList = '^' :: '(' :: '?' :: ':' :: (pattern.toList ++ closing) := by
    simp [anchored, closing]
  have hlength : (anchored pattern).length = pattern.length + 1 + 4 + 1 := by
    rw [← String.length_toList, htext, ← String.length_toList]
    simp [closing]
  have hopening : opening {} [] ('?' :: ':' :: (pattern.toList ++ closing)) =
      .ok (.group {} none, pattern.toList ++ closing) := rfl
  unfold read
  rw [htext, hlength, groupLoop_start rfl, groupLoop_group rfl hopening]
  rfl

theorem parse_eq_ok_iff {regex : Regex} :
    parse pattern = .ok regex ↔
      ∃ expression, read pattern = .ok expression ∧ expression.depth ≤ nestLimit
        ∧ Engine.compiledSize pattern ≤ sizeLimit ∧ expression.value = regex := by
  unfold parse
  cases read pattern with
  | error e => simp
  | ok expression =>
    dsimp only
    split
    · next hdeep => simp [Nat.not_le.mpr hdeep]
    · next hdepth =>
      split
      · next hlarge => simp [Nat.not_le.mpr hlarge]
      · next hsize => simp [Nat.not_lt.mp hdepth, Nat.not_lt.mp hsize]

theorem isValid_iff_exists_parse : isValid pattern ↔ ∃ regex, parse pattern = .ok regex := by
  unfold isValid
  cases parse pattern with
  | error e => simp [Except.isOk, Except.toBool]
  | ok regex => simp [Except.isOk, Except.toBool]

theorem isValid_iff :
    isValid pattern ↔
      ∃ expression, read pattern = .ok expression ∧ expression.depth ≤ nestLimit
        ∧ Engine.compiledSize pattern ≤ sizeLimit := by
  simp [isValid_iff_exists_parse, parse_eq_ok_iff]

theorem IsWellFormed.of_isValid (h : isValid pattern) : IsWellFormed pattern := by
  obtain ⟨expression, hread, -⟩ := isValid_iff.mp h
  exact ⟨expression, hread⟩

theorem endsInComment_or_read_anchored (h : read pattern = .ok expression) :
    ('#' ∈ pattern.toList ∧ EndsInComment pattern)
      ∨ read (anchored pattern) =
        .ok { value := .seq (.look .textStart false) (.seq expression.value (.look .textEnd false))
              depth := expression.depth + 2 } := by
  cases (isClosable_groupLoop (pattern.length + 1) [] (.start {}) []).ending h with
  | inl hends =>
    refine .inl ⟨hends.1, fun text htext => ?_⟩
    rw [read_append, h]
    exact hends.2 text.length text.toList htext
  | inr hopen =>
    right
    rw [read_anchored]
    refine (hopen 2 _).trans ?_
    simp [OpenGroup.anchor, OpenGroup.add, OpenGroup.close, OpenGroup.current, OpenGroup.start,
      Nested.flat, Nested.wrap, jointDepth, Regex.seqAll, Regex.altAll, endAnchor]

theorem EndsInComment.read_anchored (h : EndsInComment pattern) (hformed : IsWellFormed pattern) :
    read (anchored pattern) = .error .unclosedGroup := by
  -- What closes the group around the pattern goes into the comment, and the group stays open.
  obtain ⟨expression, hread⟩ := hformed
  have hclosed : read (pattern ++ ")$") = .ok expression := (h ")$" (by decide)).trans hread
  rw [read_append] at hclosed
  rw [Pattern.read_anchored]
  exact (isClosable_groupLoop (pattern.length + 3) [] (.start {}) []).unclosed hclosed 2 _

theorem isWellFormed_anchored_iff (h : IsWellFormed pattern) :
    IsWellFormed (anchored pattern) ↔ ¬ EndsInComment pattern := by
  constructor
  · rintro ⟨expression, hread⟩ hends
    rw [hends.read_anchored h] at hread
    contradiction
  · intro hends
    obtain ⟨expression, hread⟩ := h
    exact ⟨_, (endsInComment_or_read_anchored hread).resolve_left fun hcomment => hends hcomment.2⟩

theorem EndsInComment.mem (h : EndsInComment pattern) (hformed : IsWellFormed pattern) :
    '#' ∈ pattern.toList := by
  obtain ⟨expression, hread⟩ := hformed
  cases endsInComment_or_read_anchored hread with
  | inl hcomment => exact hcomment.1
  | inr hanchored =>
    rw [h.read_anchored ⟨expression, hread⟩] at hanchored
    contradiction

theorem parse_anchored (h : read pattern = .ok expression) (hends : ¬ EndsInComment pattern)
    (hroom : HasRoom pattern) :
    parse (anchored pattern) =
      .ok (.seq (.look .textStart false) (.seq expression.value (.look .textEnd false))) := by
  have hanchored := (endsInComment_or_read_anchored h).resolve_left fun hcomment => hends hcomment.2
  exact parse_eq_ok_iff.mpr ⟨_, hanchored, hroom.depth expression h, hroom.size, rfl⟩

theorem isValid_anchored_iff (h : IsWellFormed pattern) :
    isValid (anchored pattern) ↔ ¬ EndsInComment pattern ∧ HasRoom pattern := by
  obtain ⟨expression, hread⟩ := h
  constructor
  · intro hvalid
    have hends := (isWellFormed_anchored_iff ⟨expression, hread⟩).mp (.of_isValid hvalid)
    obtain ⟨anchored, hanchored, hdepth, hsize⟩ := isValid_iff.mp hvalid
    rw [(endsInComment_or_read_anchored hread).resolve_left fun hcomment => hends hcomment.2]
      at hanchored
    obtain rfl := Except.ok.inj hanchored
    refine ⟨hends, ?_, hsize⟩
    intro expression' hread'
    rw [hread] at hread'
    obtain rfl := Except.ok.inj hread'
    exact hdepth
  · rintro ⟨hends, hroom⟩
    exact isValid_iff_exists_parse.mpr ⟨_, parse_anchored hread hends hroom⟩

end Anchored

end Pattern
end CursorQuery
