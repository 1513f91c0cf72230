import CursorQuery.Proofs.Pattern.Reader

/-!
This module contains what the readers of a pattern have in common where a text cannot be read by
itself. What closes the text is no help to them: if they read something from the closed text, they have
used up the parenthesis that closes it, or there is not enough left for what comes after them.
-/

namespace CursorQuery
namespace Pattern

open Character

/-- What is left of a text and of the closed text: the latter is closed as well, or what closes it has
been taken for the rest of a comment. -/
def ClosesAs (cs closed : List Char) : Prop :=
  closed = cs ++ closing ∨ (cs = [] ∧ closed = [])

theorem skip_append_closing (flags : Flags) (cs : List Char) :
    ClosesAs (flags.skip cs) (flags.skip (cs ++ closing)) := by
  cases hskip : flags.skip cs with
  | nil =>
    cases skip_ending hskip with
    | inl hends => exact .inr ⟨rfl, hends.2 closing (by decide)⟩
    | inr hopen => exact .inl ((hopen closing).trans (skip_closing flags))
  | cons c rest => exact .inl (skip_cons_append hskip closing)

theorem ClosesAs.skip {cs closed : List Char} (h : ClosesAs cs closed) (flags : Flags) :
    ClosesAs (flags.skip cs) (flags.skip closed) := by
  obtain rfl | ⟨rfl, rfl⟩ := h
  · exact skip_append_closing flags cs
  · exact .inr ⟨skip_nil flags, skip_nil flags⟩

/--
A reader that what closes a text is no help to. If it can read a closed text but not the text by
itself, `late` holds of what it reads and what is left. The texts have fewer characters than `n`, and
the first argument of the reader is the number of rounds that it may use beyond those that it has been
given.
-/
structure IsCautious {α : Type} (n : Nat) (late : α → List Char → Prop)
    (read : Nat → List Char → Reader α) : Prop where
  isLocal : ∀ k, IsLocal fun j => read (k + j)
  late_of_error : ∀ {cs e}, cs.length < n → read 0 cs = .error e →
    ∀ {k a rest}, read k (cs ++ closing) = .ok (a, rest) → late a rest

def Spent {α : Type} (_ : α) (rest : List Char) : Prop :=
  rest <:+ ['$']

def Never {α : Type} (_ : α) (_ : List Char) : Prop :=
  False

namespace IsCautious

variable {α β : Type} {n : Nat} {flags : Flags} {late late' : α → List Char → Prop}
  {read : Nat → List Char → Reader α}

theorem toIsLocal (h : IsCautious n late read) : IsLocal read := by
  simpa using h.isLocal 0

theorem suffix (h : IsCautious n late read) {k : Nat} {cs : List Char} {a : α} {rest : List Char}
    (hread : read k cs = .ok (a, rest)) : rest <:+ cs :=
  (h.isLocal k).suffix hread

theorem mono (h : IsCautious n late read) (hlate : ∀ a rest, late a rest → late' a rest) :
    IsCautious n late' read where
  isLocal := h.isLocal
  late_of_error hlength herror _ _ _ hread := hlate _ _ (h.late_of_error hlength herror hread)

theorem zero (hlocal : ∀ k, IsLocal fun j => read (k + j)) : IsCautious 0 late read where
  isLocal := hlocal
  late_of_error hlength := absurd hlength (Nat.not_lt_zero _)

theorem of_error (h : ∀ k cs x, read k cs ≠ .ok x) : IsCautious n late read where
  isLocal k := .of_error (h (k + 0))
  late_of_error _ _ _ _ _ hread := absurd hread (h _ _ _)

theorem error (e : PatternError) : IsCautious n late fun _ _ => (.error e : Reader α) := by
  apply of_error
  intro k cs x h
  contradiction

theorem of_total {read : List Char → Reader α} (hlocal : IsLocal fun _ => read)
    (h : ∀ cs e, read cs ≠ .error e) : IsCautious n late fun _ => read where
  isLocal _ := hlocal
  late_of_error _ herror := absurd herror (h _ _)

theorem pure (a : α) : IsCautious n late fun _ cs => .ok (a, cs) := by
  apply of_total (.pure a)
  intro cs e h
  contradiction

theorem lift (x : Except PatternError α) :
    IsCautious n late fun _ cs => x.map fun a => (a, cs) := by
  cases x with
  | error e => exact error e
  | ok a => exact pure a

theorem skip {late : Unit → List Char → Prop} (flags : Flags) :
    IsCautious n late fun _ cs => (.ok ((), flags.skip cs) : Reader Unit) := by
  apply of_total (.skip flags)
  intro cs e h
  contradiction

theorem bind_shorter {m : Nat} {first : Nat → List Char → Reader β}
    {lateFirst : β → List Char → Prop} (next : β → Nat → List Char → Reader α)
    (hfirst : IsCautious n lateFirst first)
    (herror : ∀ {k cs e}, first k cs = .error e → read k cs = .error e)
    (hok : ∀ {k cs b rest}, first k cs = .ok (b, rest) → read k cs = next b k rest)
    (hnext : ∀ b, IsCautious m late (next b))
    (hshorter : ∀ {cs b rest}, first 0 cs = .ok (b, rest) → cs.length < n → rest.length < m)
    (hlate : ∀ {b rest}, lateFirst b rest → ∀ {k a rest'}, next b k rest = .ok (a, rest') →
      late a rest')
    (hnil : ∀ {b k a}, next b k [] = .ok (a, []) → late a []) : IsCautious n late read where
  isLocal k := .bind (fun b j => next b (k + j)) (hfirst.isLocal k) herror hok
    fun b => (hnext b).isLocal k
  late_of_error {cs e} hlength hread k a rest hclosed := by
    -- If the first reader can read the text by itself, then it is the second one that cannot.
    cases hcs : first 0 cs with
    | error e' =>
      cases hboth : first k (cs ++ closing) with
      | error e'' =>
        rw [herror hboth] at hclosed
        contradiction
      | ok later =>
        rw [hok hboth] at hclosed
        exact hlate (hfirst.late_of_error hlength hcs hboth) hclosed
    | ok later =>
      obtain ⟨b, middle⟩ := later
      have hmiddle := hshorter hcs hlength
      rw [hok hcs] at hread
      by_cases hempty : middle = []
      · rw [hempty] at hcs hread hmiddle
        cases hfirst.toIsLocal.ending hcs with
        | inl hends =>
          rw [hok (hends.2 k closing (by decide))] at hclosed
          obtain rfl := List.suffix_nil.mp ((hnext b).suffix hclosed)
          exact hnil hclosed
        | inr hopen =>
          rw [hok (hopen k)] at hclosed
          exact (hnext b).late_of_error hmiddle hread hclosed
      · rw [hok (hfirst.toIsLocal.append hcs hempty k closing)] at hclosed
        exact (hnext b).late_of_error hmiddle hread hclosed

theorem bind {first : Nat → List Char → Reader β} {lateFirst : β → List Char → Prop}
    (next : β → Nat → List Char → Reader α) (hfirst : IsCautious n lateFirst first)
    (herror : ∀ {k cs e}, first k cs = .error e → read k cs = .error e)
    (hok : ∀ {k cs b rest}, first k cs = .ok (b, rest) → read k cs = next b k rest)
    (hnext : ∀ b, IsCautious n late (next b))
    (hlate : ∀ {b rest}, lateFirst b rest → ∀ {k a rest'}, next b k rest = .ok (a, rest') →
      late a rest')
    (hnil : ∀ {b k a}, next b k [] = .ok (a, []) → late a []) : IsCautious n late read :=
  bind_shorter next hfirst herror hok hnext
    (fun h hlength => Nat.lt_of_le_of_lt (hfirst.suffix h).length_le hlength) hlate hnil

theorem sequence {first : Nat → List Char → Reader β} {lateFirst : β → List Char → Prop}
    {next : β → Nat → List Char → Reader α} (hfirst : IsCautious n lateFirst first)
    (hnext : ∀ b, IsCautious n late (next b))
    (hlate : ∀ {b rest}, lateFirst b rest → ∀ {k a rest'}, next b k rest = .ok (a, rest') →
      late a rest')
    (hnil : ∀ {b k a}, next b k [] = .ok (a, []) → late a []) :
    IsCautious n late fun k cs => (first k cs).bind fun read => next read.1 k read.2 := by
  apply bind next hfirst ?_ ?_ hnext hlate hnil
  · intro k cs e h
    rw [h]
    rfl
  · intro k cs b rest h
    rw [h]
    rfl

theorem skipping (flags : Flags) (hread : IsCautious n late read) (hnil : ∀ a, late a []) :
    IsCautious n late fun k cs => read k (flags.skip cs) := by
  have hskip : IsCautious n Never fun _ cs => (.ok ((), flags.skip cs) : Reader Unit) := skip flags
  apply bind (fun _ k rest => read k rest) hskip ?_ ?_ (fun _ => hread) False.elim
    fun {_ _ a} _ => hnil a
  · intro k cs e h
    contradiction
  · intro k cs b rest h
    rw [(Prod.mk.inj (Except.ok.inj h)).2]

theorem uncons (hnil : ∀ k x, read k [] ≠ .ok x)
    (hcons : ∀ c, IsCautious (n - 1) late fun k rest => read k (c :: rest))
    (hclosing : ∀ {k a rest}, read k closing = .ok (a, rest) → late a rest) :
    IsCautious n late read where
  isLocal k := .uncons (hnil k) fun c => (hcons c).isLocal k
  late_of_error {cs e} hlength herror k a rest hread := by
    cases cs with
    | nil => exact hclosing hread
    | cons c cs =>
      rw [List.length_cons] at hlength
      exact (hcons c).late_of_error (by omega) herror hread

theorem branch (flags : Flags) {mark : Char} (hmark : mark ≠ ')')
    {marked other : Nat → List Char → Reader α} (hmarked : IsCautious n late marked)
    (hother : IsCautious n late other)
    (heq : ∀ {k cs rest}, flags.skip cs = mark :: rest → read k cs = marked k rest)
    (hne : ∀ {k cs}, (flags.skip cs).head? ≠ some mark → read k cs = other k (flags.skip cs))
    (hnil : ∀ a, late a []) : IsCautious n late read where
  isLocal k := .branch flags hmark (hmarked.isLocal k) (hother.isLocal k) heq hne
  late_of_error {cs e} hlength herror k a rest hread := by
    have hsuffix := (skip_suffix flags cs).length_le
    cases hskip : flags.skip cs with
    | nil =>
      rw [hne (by simp [hskip]), hskip] at herror
      obtain hclosed | ⟨-, hclosed⟩ := skip_append_closing flags cs
      · rw [hskip, List.nil_append] at hclosed
        have hhead : (flags.skip (cs ++ closing)).head? ≠ some mark := by
          rw [hclosed]
          simpa [closing] using hmark.symm
        rw [hne hhead, hclosed] at hread
        exact hother.late_of_error (by simp; omega) herror hread
      · rw [hne (by simp [hclosed]), hclosed] at hread
        rw [List.suffix_nil.mp (hother.suffix hread)]
        exact hnil a
    | cons c more =>
      have hclosed := skip_cons_append hskip closing
      rw [hskip, List.length_cons] at hsuffix
      by_cases hc : c = mark
      · rw [hc] at hskip hclosed
        rw [heq hskip] at herror
        rw [heq hclosed] at hread
        exact hmarked.late_of_error (by omega) herror hread
      · rw [hne (by simpa [hskip] using hc), hskip] at herror
        rw [hne (by simpa [hclosed] using hc), hclosed] at hread
        exact hother.late_of_error (by simp; omega) herror hread

theorem byLength (loop : Nat → List Char → Reader α)
    (hloop : ∀ fuel, IsCautious fuel late fun k => loop (fuel + k)) :
    IsCautious n late fun _ cs => loop (cs.length + 1) cs where
  isLocal _ := .byLength loop fun fuel => (hloop fuel).toIsLocal
  late_of_error {cs e} _ herror k a rest hread := by
    rw [List.length_append, Nat.add_right_comm] at hread
    exact (hloop (cs.length + 1)).late_of_error (Nat.lt_succ_self _) herror hread

section Spent

theorem spent_nil (a : α) : Spent a [] :=
  List.nil_suffix

theorem spent_of_suffix {b : β} {a : α} {rest rest' : List Char} (h : Spent b rest)
    (hsuffix : rest' <:+ rest) : Spent a rest' :=
  hsuffix.trans h

theorem andThen {first : Nat → List Char → Reader β} {next : β → Nat → List Char → Reader α}
    (hfirst : IsCautious n Spent first) (hnext : ∀ b, IsCautious n Spent (next b)) :
    IsCautious n Spent fun k cs => (first k cs).bind fun read => next read.1 k read.2 := by
  apply sequence hfirst hnext ?_ fun _ => spent_nil _
  intro b rest hspent k a rest' h
  exact spent_of_suffix hspent ((hnext b).suffix h)

theorem map {first : Nat → List Char → Reader β} (f : β → α) (hfirst : IsCautious n Spent first) :
    IsCautious n Spent fun k cs => (first k cs).map fun read => (f read.1, read.2) := by
  apply bind (fun b _ rest => .ok (f b, rest)) hfirst ?_ ?_ (fun b => pure (f b)) ?_
    fun _ => spent_nil _
  · intro k cs e h
    rw [h]
    rfl
  · intro k cs b rest h
    rw [h]
    rfl
  · intro b rest hspent k a rest' h
    rw [← (Prod.mk.inj (Except.ok.inj h)).2]
    exact hspent

theorem uncons_spent (hnil : ∀ k x, read k [] ≠ .ok x)
    (hcons : ∀ c, IsCautious (n - 1) Spent fun k rest => read k (c :: rest)) :
    IsCautious n Spent read :=
  uncons hnil hcons fun h => (hcons ')').suffix h

end Spent

end IsCautious

end Pattern
end CursorQuery
