import Mathlib.Data.List.Infix
import CursorQuery.Pattern.Parser

/-!
This module contains what the readers of a pattern have in common. They look at a text only as far as
they need to, so that more text after it makes no difference, with one exception: where white space
does not count, a text can end in a comment, and then the rest of the line goes into the comment.
-/

namespace CursorQuery
namespace Pattern

open Character

section Skipping

variable {cs t : List Char} {flags : Flags}

theorem skipLine_suffix (cs : List Char) : skipLine cs <:+ cs := by
  induction cs with
  | nil => exact List.suffix_refl []
  | cons c cs ih =>
    rw [skipLine]
    split
    · exact List.suffix_cons c cs
    · exact ih.trans (List.suffix_cons c cs)

theorem skipLine_append (h : '\n' ∈ cs) (t : List Char) : skipLine (cs ++ t) = skipLine cs ++ t := by
  induction cs with
  | nil => simp at h
  | cons c cs ih =>
    rw [List.cons_append, skipLine, skipLine]
    split
    · rfl
    · next hc =>
      have hne : '\n' ≠ c := by
        rintro rfl
        simp at hc
      exact ih ((List.mem_cons.mp h).resolve_left hne)

theorem skipLine_append_of_not_mem (h : '\n' ∉ cs) (t : List Char) :
    skipLine (cs ++ t) = skipLine t := by
  induction cs with
  | nil => rfl
  | cons c cs ih =>
    rw [List.mem_cons, not_or] at h
    have hc : (c == '\n') = false := by simpa using Ne.symm h.1
    rw [List.cons_append, skipLine, hc]
    exact ih h.2

theorem skipLine_of_not_mem (h : '\n' ∉ cs) : skipLine cs = [] := by
  have hline := skipLine_append_of_not_mem h []
  rw [List.append_nil] at hline
  exact hline

theorem skipSpace_go_eq {fuel fuel' : Nat} (h : cs.length ≤ fuel) (h' : cs.length ≤ fuel') :
    skipSpace.go fuel cs = skipSpace.go fuel' cs := by
  induction fuel generalizing fuel' cs with
  | zero =>
    obtain rfl : cs = [] := List.length_eq_zero_iff.mp (by omega)
    cases fuel' with
    | zero => rfl
    | succ => rfl
  | succ fuel ih =>
    cases cs with
    | nil =>
      cases fuel' with
      | zero => rfl
      | succ => rfl
    | cons c cs =>
      rw [List.length_cons] at h h'
      obtain ⟨fuel', rfl⟩ : ∃ n, fuel' = n + 1 := ⟨fuel' - 1, by omega⟩
      have hline := (skipLine_suffix cs).length_le
      have hblank : skipSpace.go fuel cs = skipSpace.go fuel' cs := ih (by omega) (by omega)
      have hcomment : skipSpace.go fuel (skipLine cs) = skipSpace.go fuel' (skipLine cs) :=
        ih (by omega) (by omega)
      rw [skipSpace.go, skipSpace.go, hblank, hcomment]

theorem skipSpace_cons (c : Char) (cs : List Char) :
    skipSpace (c :: cs) =
      if isBlank c then skipSpace cs
      else if c == '#' then skipSpace (skipLine cs)
      else c :: cs := by
  have hline := (skipLine_suffix cs).length_le
  unfold skipSpace
  rw [List.length_cons, skipSpace.go, skipSpace_go_eq hline (Nat.le_refl _)]

theorem skipSpace_induct {P : List Char → Prop} (nil : P [])
    (blank : ∀ c cs, isBlank c → P cs → P (c :: cs)) (comment : ∀ cs, P (skipLine cs) → P ('#' :: cs))
    (stop : ∀ c cs, isBlank c = false → c ≠ '#' → P (c :: cs)) (cs : List Char) : P cs := by
  induction hn : cs.length using Nat.strongRecOn generalizing cs with
  | _ n ih =>
    cases cs with
    | nil => exact nil
    | cons c cs =>
      rw [List.length_cons] at hn
      cases hblank : isBlank c with
      | true => exact blank c cs hblank (ih cs.length (by omega) cs rfl)
      | false =>
        by_cases hc : c = '#'
        · have hline := (skipLine_suffix cs).length_le
          rw [hc]
          exact comment cs (ih (skipLine cs).length (by omega) (skipLine cs) rfl)
        · exact stop c cs hblank hc

theorem skipSpace_blank {c : Char} (h : isBlank c) (cs : List Char) :
    skipSpace (c :: cs) = skipSpace cs := by
  rw [skipSpace_cons, if_pos h]

theorem skipSpace_comment (cs : List Char) : skipSpace ('#' :: cs) = skipSpace (skipLine cs) := by
  rw [skipSpace_cons]
  rfl

theorem skipSpace_stop {c : Char} (hblank : isBlank c = false) (hc : c ≠ '#') (cs : List Char) :
    skipSpace (c :: cs) = c :: cs := by
  rw [skipSpace_cons]
  simp [hblank, hc]

theorem skipSpace_suffix (cs : List Char) : skipSpace cs <:+ cs := by
  induction cs using skipSpace_induct with
  | nil => exact List.suffix_refl []
  | blank c cs h ih =>
    rw [skipSpace_blank h]
    exact ih.trans (List.suffix_cons c cs)
  | comment cs ih =>
    rw [skipSpace_comment]
    exact (ih.trans (skipLine_suffix cs)).trans (List.suffix_cons '#' cs)
  | stop c cs hblank hc => rw [skipSpace_stop hblank hc]

theorem skipSpace_append (h : skipSpace cs ≠ []) (t : List Char) :
    skipSpace (cs ++ t) = skipSpace cs ++ t := by
  induction cs using skipSpace_induct with
  | nil => contradiction
  | blank c cs hblank ih =>
    rw [skipSpace_blank hblank] at h
    rw [List.cons_append, skipSpace_blank hblank, skipSpace_blank hblank, ih h]
  | comment cs ih =>
    rw [skipSpace_comment] at h
    rw [List.cons_append, skipSpace_comment, skipSpace_comment]
    by_cases hline : '\n' ∈ cs
    · rw [skipLine_append hline, ih h]
    · rw [skipLine_of_not_mem hline] at h
      contradiction
  | stop c cs hblank hc =>
    rw [List.cons_append, skipSpace_stop hblank hc, skipSpace_stop hblank hc]
    rfl

theorem skipSpace_ending (h : skipSpace cs = []) :
    ('#' ∈ cs ∧ ∀ t, '\n' ∉ t → skipSpace (cs ++ t) = []) ∨ ∀ t, skipSpace (cs ++ t) = skipSpace t := by
  induction cs using skipSpace_induct with
  | nil => exact .inr fun _ => rfl
  | blank c cs hblank ih =>
    rw [skipSpace_blank hblank] at h
    simp only [List.cons_append, skipSpace_blank hblank]
    exact (ih h).imp_left fun hends => ⟨List.mem_cons_of_mem c hends.1, hends.2⟩
  | comment cs ih =>
    rw [skipSpace_comment] at h
    simp only [List.cons_append, skipSpace_comment]
    by_cases hline : '\n' ∈ cs
    · simp only [skipLine_append hline]
      exact (ih h).imp_left fun hends => ⟨List.mem_cons_self, hends.2⟩
    · refine .inl ⟨List.mem_cons_self, ?_⟩
      intro t ht
      rw [skipLine_append_of_not_mem hline, skipLine_of_not_mem ht]
      rfl
  | stop c cs hblank hc =>
    rw [skipSpace_stop hblank hc] at h
    contradiction

theorem skip_suffix (flags : Flags) (cs : List Char) : flags.skip cs <:+ cs := by
  unfold Flags.skip
  split
  · exact skipSpace_suffix cs
  · exact List.suffix_refl cs

theorem skip_nil (flags : Flags) : flags.skip [] = [] :=
  List.suffix_nil.mp (skip_suffix flags [])

theorem skip_append (h : flags.skip cs ≠ []) (t : List Char) :
    flags.skip (cs ++ t) = flags.skip cs ++ t := by
  unfold Flags.skip at h ⊢
  split
  · next hspace =>
    rw [if_pos hspace] at h
    exact skipSpace_append h t
  · rfl

theorem skip_cons_append {c : Char} {rest : List Char} (h : flags.skip cs = c :: rest)
    (t : List Char) : flags.skip (cs ++ t) = c :: (rest ++ t) := by
  rw [skip_append (by simp [h]), h]
  rfl

theorem skip_stop {c : Char} (hblank : isBlank c = false) (hc : c ≠ '#') (cs : List Char) :
    flags.skip (c :: cs) = c :: cs := by
  unfold Flags.skip
  split
  · exact skipSpace_stop hblank hc cs
  · rfl

theorem skip_ending (h : flags.skip cs = []) :
    ('#' ∈ cs ∧ ∀ t, '\n' ∉ t → flags.skip (cs ++ t) = [])
      ∨ ∀ t, flags.skip (cs ++ t) = flags.skip t := by
  unfold Flags.skip at h ⊢
  split
  · next hspace =>
    rw [if_pos hspace] at h
    exact skipSpace_ending h
  · next hspace =>
    rw [if_neg hspace] at h
    rw [h]
    exact .inr fun _ => rfl

end Skipping

def closing : List Char :=
  [')', '$']

theorem skip_closing (flags : Flags) : flags.skip closing = closing :=
  skip_stop rfl (by decide) ['$']

/-- The text ends in a comment: what is added to its last line makes no difference. -/
def EndsInside {γ : Type} (read : Nat → List Char → Except PatternError γ) (cs : List Char) (x : γ) :
    Prop :=
  '#' ∈ cs ∧ ∀ k t, '\n' ∉ t → read k (cs ++ t) = .ok x

/--
A reader that looks at a text only as far as it needs to. Its first argument is the number of rounds
that it may use beyond those that it has been given.
-/
structure IsLocal {α : Type} (read : Nat → List Char → Reader α) : Prop where
  more : ∀ {cs x}, read 0 cs = .ok x → ∀ k, read k cs = .ok x
  suffix : ∀ {cs a rest}, read 0 cs = .ok (a, rest) → rest <:+ cs
  append : ∀ {cs a rest}, read 0 cs = .ok (a, rest) → rest ≠ [] → ∀ k t,
    read k (cs ++ t) = .ok (a, rest ++ t)
  ending : ∀ {cs a}, read 0 cs = .ok (a, []) →
    EndsInside read cs (a, []) ∨ ∀ k, read k (cs ++ closing) = .ok (a, closing)

namespace IsLocal

variable {α β : Type} {flags : Flags} {read : Nat → List Char → Reader α}

theorem of_exact {read : List Char → Reader α}
    (h : ∀ {cs a rest}, read cs = .ok (a, rest) →
      rest <:+ cs ∧ ∀ t, read (cs ++ t) = .ok (a, rest ++ t)) : IsLocal fun _ => read where
  more hread _ := hread
  suffix hread := (h hread).1
  append hread _ _ := (h hread).2
  ending hread := .inr fun _ => (h hread).2 closing

theorem of_error (h : ∀ cs x, read 0 cs ≠ .ok x) : IsLocal read where
  more hread := absurd hread (h _ _)
  suffix hread := absurd hread (h _ _)
  append hread := absurd hread (h _ _)
  ending hread := absurd hread (h _ _)

theorem error (e : PatternError) : IsLocal fun _ _ => (.error e : Reader α) := by
  apply of_error
  intro cs x h
  contradiction

theorem pure (a : α) : IsLocal fun _ cs => .ok (a, cs) := by
  apply of_exact
  intro cs a' rest h
  obtain ⟨rfl, rfl⟩ := Prod.mk.inj (Except.ok.inj h)
  exact ⟨List.suffix_refl cs, fun _ => rfl⟩

theorem bind {first : Nat → List Char → Reader β} (next : β → Nat → List Char → Reader α)
    (hfirst : IsLocal first) (herror : ∀ {k cs e}, first k cs = .error e → read k cs = .error e)
    (hok : ∀ {k cs b rest}, first k cs = .ok (b, rest) → read k cs = next b k rest)
    (hnext : ∀ b, IsLocal (next b)) : IsLocal read := by
  have hsteps : ∀ {cs x}, read 0 cs = .ok x →
      ∃ b rest, first 0 cs = .ok (b, rest) ∧ next b 0 rest = .ok x := by
    intro cs x h
    cases hcs : first 0 cs with
    | error e =>
      rw [herror hcs] at h
      contradiction
    | ok read =>
      rw [hok hcs] at h
      exact ⟨read.1, read.2, rfl, h⟩
  constructor
  · intro cs x h k
    obtain ⟨b, rest, hcs, hlater⟩ := hsteps h
    rw [hok (hfirst.more hcs k)]
    exact (hnext b).more hlater k
  · intro cs a rest h
    obtain ⟨b, middle, hcs, hlater⟩ := hsteps h
    exact ((hnext b).suffix hlater).trans (hfirst.suffix hcs)
  · intro cs a rest h hrest k t
    obtain ⟨b, middle, hcs, hlater⟩ := hsteps h
    have hmiddle : middle ≠ [] := by
      rintro rfl
      exact hrest (List.suffix_nil.mp ((hnext b).suffix hlater))
    rw [hok (hfirst.append hcs hmiddle k t)]
    exact (hnext b).append hlater hrest k t
  · intro cs a h
    obtain ⟨b, middle, hcs, hlater⟩ := hsteps h
    by_cases hmiddle : middle = []
    · -- All of the text has been used up by `first`, so it is `first` that decides how the text ends.
      rw [hmiddle] at hcs hlater
      have hopen : ∀ k, next b k closing = .ok (a, closing) := by
        cases (hnext b).ending hlater with
        | inl hends => simp [EndsInside] at hends
        | inr hopen => exact hopen
      cases hfirst.ending hcs with
      | inl hends =>
        refine .inl ⟨hends.1, ?_⟩
        intro k t ht
        rw [hok (hends.2 k t ht)]
        exact (hnext b).more hlater k
      | inr hclosing =>
        refine .inr fun k => ?_
        rw [hok (hclosing k)]
        exact hopen k
    · have happend := hfirst.append hcs hmiddle
      cases (hnext b).ending hlater with
      | inl hends =>
        refine .inl ⟨(hfirst.suffix hcs).subset hends.1, ?_⟩
        intro k t ht
        rw [hok (happend k t)]
        exact hends.2 k t ht
      | inr hopen =>
        refine .inr fun k => ?_
        rw [hok (happend k closing)]
        exact hopen k

theorem andThen {first : Nat → List Char → Reader β} {next : β → Nat → List Char → Reader α}
    (hfirst : IsLocal first) (hnext : ∀ b, IsLocal (next b)) :
    IsLocal fun k cs => (first k cs).bind fun read => next read.1 k read.2 := by
  apply bind next hfirst ?_ ?_ hnext
  · intro k cs e h
    rw [h]
    rfl
  · intro k cs b rest h
    rw [h]
    rfl

theorem map {first : Nat → List Char → Reader β} (f : β → α) (hfirst : IsLocal first) :
    IsLocal fun k cs => (first k cs).map fun read => (f read.1, read.2) := by
  apply bind (fun b _ rest => .ok (f b, rest)) hfirst
  · intro k cs e h
    rw [h]
    rfl
  · intro k cs b rest h
    rw [h]
    rfl
  · exact fun b => pure (f b)

theorem lift (x : Except PatternError α) : IsLocal fun _ cs => x.map fun a => (a, cs) := by
  cases x with
  | error e => exact error e
  | ok a => exact pure a

theorem skip (flags : Flags) : IsLocal fun _ cs => (.ok ((), flags.skip cs) : Reader Unit) where
  more h _ := h
  suffix {cs a rest} h := by
    obtain rfl : flags.skip cs = rest := by simpa using h
    exact skip_suffix flags cs
  append {cs a rest} h hrest k t := by
    obtain rfl : flags.skip cs = rest := by simpa using h
    rw [skip_append hrest]
  ending {cs a} h := by
    have hskip : flags.skip cs = [] := by simpa using h
    cases skip_ending hskip with
    | inl hends =>
      refine .inl ⟨hends.1, ?_⟩
      intro k t ht
      dsimp only
      rw [hends.2 t ht]
    | inr hopen =>
      refine .inr fun k => ?_
      rw [hopen closing, skip_closing]

theorem skipping (flags : Flags) (hread : IsLocal read) :
    IsLocal fun k cs => read k (flags.skip cs) := by
  apply bind (fun _ k rest => read k rest) (skip flags)
  · intro k cs e h
    contradiction
  · intro k cs b rest h
    rw [(Prod.mk.inj (Except.ok.inj h)).2]
  · exact fun _ => hread

theorem uncons (hnil : ∀ x, read 0 [] ≠ .ok x) (hcons : ∀ c, IsLocal fun k rest => read k (c :: rest)) :
    IsLocal read where
  more {cs x} h k := by
    cases cs with
    | nil => exact absurd h (hnil x)
    | cons c cs => exact (hcons c).more h k
  suffix {cs a rest} h := by
    cases cs with
    | nil => exact absurd h (hnil _)
    | cons c cs => exact ((hcons c).suffix h).trans (List.suffix_cons c cs)
  append {cs a rest} h hrest k t := by
    cases cs with
    | nil => exact absurd h (hnil _)
    | cons c cs => exact (hcons c).append h hrest k t
  ending {cs a} h := by
    cases cs with
    | nil => exact absurd h (hnil _)
    | cons c cs =>
      exact ((hcons c).ending h).imp_left fun hends => ⟨List.mem_cons_of_mem c hends.1, hends.2⟩

def Beyond (read : Nat → List Char → Reader α) (cs : List Char) : Prop :=
  ∃ agreeing rest, IsLocal agreeing ∧ rest <:+ cs ∧ ∀ k t, read k (cs ++ t) = agreeing k (rest ++ t)

theorem of_beyond (flags : Flags)
    (h : ∀ {cs x}, read 0 cs = .ok x → Beyond read cs
      ∨ (flags.skip cs = [] ∧ ∃ a, x = (a, []) ∧ (∀ k s, flags.skip s = [] → read k s = .ok (a, []))
        ∧ ∀ k s, flags.skip s = closing → read k s = .ok (a, closing))) :
    IsLocal read where
  more {cs x} hread k := by
    -- Either a local reader does the rest, or nothing that counts is left for it.
    cases h hread with
    | inl hbeyond =>
      obtain ⟨agreeing, middle, hlocal, -, heq⟩ := hbeyond
      have heq₀ := heq 0 []
      have heqk := heq k []
      simp only [List.append_nil] at heq₀ heqk
      rw [heqk]
      exact hlocal.more (heq₀.symm.trans hread) k
    | inr hlast =>
      obtain ⟨hskip, a, rfl, hnil, -⟩ := hlast
      exact hnil k cs hskip
  suffix {cs a rest} hread := by
    cases h hread with
    | inl hbeyond =>
      obtain ⟨agreeing, middle, hlocal, hmiddle, heq⟩ := hbeyond
      have heq₀ := heq 0 []
      simp only [List.append_nil] at heq₀
      exact (hlocal.suffix (heq₀.symm.trans hread)).trans hmiddle
    | inr hlast =>
      obtain ⟨-, a', hx, -⟩ := hlast
      rw [(Prod.mk.inj hx).2]
      exact List.nil_suffix
  append {cs a rest} hread hrest k t := by
    cases h hread with
    | inl hbeyond =>
      obtain ⟨agreeing, middle, hlocal, -, heq⟩ := hbeyond
      have heq₀ := heq 0 []
      simp only [List.append_nil] at heq₀
      rw [heq k t]
      exact hlocal.append (heq₀.symm.trans hread) hrest k t
    | inr hlast =>
      obtain ⟨-, a', hx, -⟩ := hlast
      exact absurd (Prod.mk.inj hx).2 hrest
  ending {cs a} hread := by
    cases h hread with
    | inl hbeyond =>
      obtain ⟨agreeing, middle, hlocal, hmiddle, heq⟩ := hbeyond
      have heq₀ := heq 0 []
      simp only [List.append_nil] at heq₀
      cases hlocal.ending (heq₀.symm.trans hread) with
      | inl hends =>
        refine .inl ⟨hmiddle.subset hends.1, ?_⟩
        intro k t ht
        rw [heq k t]
        exact hends.2 k t ht
      | inr hopen =>
        refine .inr fun k => ?_
        rw [heq k closing]
        exact hopen k
    | inr hlast =>
      obtain ⟨hskip, a', hx, hnil, hclosing⟩ := hlast
      obtain rfl := (Prod.mk.inj hx).1
      cases skip_ending hskip with
      | inl hends => exact .inl ⟨hends.1, fun k t ht => hnil k _ (hends.2 t ht)⟩
      | inr hopen =>
        exact .inr fun k => hclosing k _ ((hopen closing).trans (skip_closing flags))

theorem branch (flags : Flags) {mark : Char} (hmark : mark ≠ ')')
    {marked other : Nat → List Char → Reader α} (hmarked : IsLocal marked) (hother : IsLocal other)
    (heq : ∀ {k cs rest}, flags.skip cs = mark :: rest → read k cs = marked k rest)
    (hne : ∀ {k cs}, (flags.skip cs).head? ≠ some mark → read k cs = other k (flags.skip cs)) :
    IsLocal read := by
  apply of_beyond flags
  intro cs x h
  cases hskip : flags.skip cs with
  | nil =>
    have hnil : ∀ k s, flags.skip s = [] → read k s = other k [] := by
      intro k s hs
      rw [hne (by simp [hs]), hs]
    rw [hnil 0 cs hskip] at h
    obtain ⟨a, rest⟩ := x
    obtain rfl := List.suffix_nil.mp (hother.suffix h)
    refine .inr ⟨rfl, a, rfl, ?_, ?_⟩
    · intro k s hs
      rw [hnil k s hs]
      exact hother.more h k
    · intro k s hs
      rw [hne (by simpa [hs, closing] using hmark.symm), hs]
      cases hother.ending h with
      | inl hends => simp [EndsInside] at hends
      | inr hopen => exact hopen k
  | cons c rest =>
    left
    have hsuffix := skip_suffix flags cs
    rw [hskip] at hsuffix
    by_cases hc : c = mark
    · rw [hc] at hskip hsuffix
      refine ⟨marked, rest, hmarked, (List.suffix_cons mark rest).trans hsuffix, ?_⟩
      intro k t
      exact heq (skip_cons_append hskip t)
    · refine ⟨other, c :: rest, hother, hsuffix, ?_⟩
      intro k t
      rw [hne (by simpa [skip_cons_append hskip t] using hc), skip_cons_append hskip t]
      rfl

theorem byLength (loop : Nat → List Char → Reader α)
    (hloop : ∀ fuel, IsLocal fun k => loop (fuel + k)) :
    IsLocal fun _ cs => loop (cs.length + 1) cs := by
  have hrounds : ∀ cs t : List Char, (cs ++ t).length + 1 = cs.length + 1 + t.length := by
    intro cs t
    rw [List.length_append]
    omega
  constructor
  · exact fun h _ => h
  · intro cs a rest h
    exact (hloop (cs.length + 1)).suffix h
  · intro cs a rest h hrest k t
    rw [hrounds]
    exact (hloop (cs.length + 1)).append h hrest t.length t
  · intro cs a h
    cases (hloop (cs.length + 1)).ending h with
    | inl hends =>
      refine .inl ⟨hends.1, ?_⟩
      intro k t ht
      dsimp only
      rw [hrounds]
      exact hends.2 t.length t ht
    | inr hopen =>
      refine .inr fun k => ?_
      rw [hrounds]
      exact hopen closing.length

end IsLocal
end Pattern
end CursorQuery
