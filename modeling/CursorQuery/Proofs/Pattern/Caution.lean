import CursorQuery.Proofs.Pattern.ClosedText
import CursorQuery.Proofs.Pattern.Locality

/-!
This module contains the proof that what closes a text is no help to any reader of part of a pattern.
-/

namespace CursorQuery
namespace Pattern

open Character

theorem rest_eq_of_map {α : Type} {x : Except PatternError α} {a : α} {rest rest' : List Char}
    (h : (x.map fun b => (b, rest)) = .ok (a, rest')) : rest' = rest := by
  cases x with
  | error e => contradiction
  | ok b => exact (Prod.mk.inj (Except.ok.inj h)).2.symm

section Escapes

variable {n : Nat}

theorem isCautious_hexDigits (flags : Flags) (count value : Nat) :
    IsCautious n Spent fun _ => hexDigits flags count value := by
  induction count generalizing n value with
  | zero => exact .pure value
  | succ count ih =>
    apply IsCautious.uncons_spent (by simp [hexDigits])
    intro c
    simp only [hexDigits]
    split
    · exact (ih _).skipping flags IsCautious.spent_nil
    · exact .error _

theorem isCautious_hexBraced (flags : Flags) (fuel : Nat) (value? : Option Nat) :
    IsCautious fuel Spent fun k => hexBraced flags (fuel + k) value? := by
  have hlocal := isLocal_hexBraced flags
  induction fuel generalizing value? with
  | zero =>
    apply IsCautious.zero
    intro k
    simpa using hlocal k value?
  | succ fuel ih =>
    apply IsCautious.uncons_spent (by simp [hexBraced, Nat.add_right_comm])
    intro c
    simp only [Nat.add_right_comm fuel 1, hexBraced]
    split
    · split
      · next value => exact (IsCautious.pure value).skipping flags IsCautious.spent_nil
      · exact .error _
    · split
      · exact (ih _).skipping flags IsCautious.spent_nil
      · exact .error _

theorem isCautious_charOf (value : Nat) (byte : Bool) :
    IsCautious n Spent fun _ rest =>
      (charOf value).map fun c => (Primitive.literal c byte, rest) := by
  cases charOf value with
  | error e => exact .error e
  | ok c => exact .pure _

theorem isCautious_hexEscape (flags : Flags) (digits : Nat) :
    IsCautious n Spent fun _ => hexEscape flags digits := by
  have hbraced : IsCautious n Spent fun _ rest =>
      hexBraced flags (rest.length + 1) none (flags.skip rest) :=
    .byLength (fun fuel rest => hexBraced flags fuel none (flags.skip rest))
      fun fuel => (isCautious_hexBraced flags fuel none).skipping flags IsCautious.spent_nil
  have hplain := (isCautious_hexDigits (n := n) flags digits 0).andThen fun value =>
    isCautious_charOf value (digits == 2)
  apply IsCautious.branch flags (show '\x7b' ≠ ')' by decide)
    (hbraced.andThen fun value => isCautious_charOf value false) hplain ?_ ?_ IsCautious.spent_nil
  · intro k cs rest h
    simp only [hexEscape, h]
    cases hexBraced flags (rest.length + 1) none (flags.skip rest) with
    | error e => rfl
    | ok read => rfl
  · intro k cs h
    unfold hexEscape
    split
    · next hskip => simp [hskip] at h
    · cases hexDigits flags digits 0 (flags.skip cs) with
      | error e => rfl
      | ok read => rfl

theorem isCautious_boundaryName (flags : Flags) (fuel : Nat) (name : List Char) :
    IsCautious fuel Spent fun k => boundaryName flags (fuel + k) name := by
  have hlocal := isLocal_boundaryName flags
  induction fuel generalizing name with
  | zero =>
    apply IsCautious.zero
    intro k
    simpa using hlocal k name
  | succ fuel ih =>
    apply IsCautious.uncons_spent (by simp [boundaryName, Nat.add_right_comm])
    intro c
    simp only [Nat.add_right_comm fuel 1, boundaryName]
    split
    · exact (ih _).skipping flags IsCautious.spent_nil
    · split
      · split
        · next look _ => exact .pure look
        · exact .error _
      · exact .error _

/-- What an escape can be in a closed text only: it has used up the parenthesis, or it is a boundary
with a brace after it that holds no name, since the parenthesis comes next. -/
def LateEscape (flags : Flags) (p : Primitive) (rest : List Char) : Prop :=
  rest <:+ ['$']
    ∨ (p = .look .wordBoundary ∧ ∃ more, rest = '\x7b' :: more ∧ flags.skip more = closing)

theorem boundaryEscape_of_ne {flags : Flags} {cs : List Char} (h : cs.head? ≠ some '\x7b') :
    boundaryEscape flags cs = .ok (.look .wordBoundary, cs) := by
  unfold boundaryEscape
  split
  · simp at h
  · rfl

theorem isCautious_boundaryEscape (flags : Flags) :
    IsCautious n (LateEscape flags) fun _ => boundaryEscape flags where
  isLocal _ := isLocal_boundaryEscape flags
  late_of_error {cs e} _ herror k a rest hread := by
    obtain ⟨more, rfl⟩ : ∃ more, cs = '\x7b' :: more := by
      by_cases hhead : cs.head? = some '\x7b'
      · exact List.head?_eq_some_iff.mp hhead
      · rw [boundaryEscape_of_ne hhead] at herror
        contradiction
    have hnamed : IsCautious (more.length + 1) Spent fun _ rest =>
        (boundaryName flags (rest.length + 1) [] (flags.skip rest)).map fun read =>
          (Primitive.look read.1, read.2) :=
      .map Primitive.look (.byLength (fun fuel rest => boundaryName flags fuel [] (flags.skip rest))
        fun fuel => (isCautious_boundaryName flags fuel []).skipping flags IsCautious.spent_nil)
    cases hskip : flags.skip more with
    | nil =>
      simp only [boundaryEscape, List.cons_append] at hread
      obtain hclosed | ⟨-, hclosed⟩ := skip_append_closing flags more
      · rw [hskip, List.nil_append] at hclosed
        rw [hclosed] at hread
        obtain ⟨rfl, rfl⟩ := Prod.mk.inj (Except.ok.inj hread)
        exact .inr ⟨rfl, _, rfl, hclosed⟩
      · rw [hclosed] at hread
        contradiction
    | cons c later =>
      have hclosed := skip_cons_append hskip closing
      simp only [boundaryEscape, List.cons_append, hskip, hclosed] at herror hread
      split at herror
      · next hletter =>
        rw [if_pos hletter] at hread
        rw [← hskip] at herror
        rw [← hclosed] at hread
        exact .inl (hnamed.late_of_error (Nat.lt_succ_self _) herror (k := k) hread)
      · contradiction

theorem isCautious_braced (flags : Flags) (fuel : Nat) (read : List Char) :
    IsCautious fuel Spent fun k => braced flags (fuel + k) read := by
  have hlocal := isLocal_braced flags
  induction fuel generalizing read with
  | zero =>
    apply IsCautious.zero
    intro k
    simpa using hlocal k read
  | succ fuel ih =>
    apply IsCautious.uncons_spent (by simp [braced, Nat.add_right_comm])
    intro c
    simp only [Nat.add_right_comm fuel 1, braced]
    split
    · exact .pure _
    · exact (ih _).skipping flags IsCautious.spent_nil

theorem isCautious_letterProperty : IsCautious n Spent fun _ => letterProperty := by
  apply IsCautious.uncons_spent (by simp [letterProperty])
  intro c
  simp only [letterProperty]
  split
  · exact .error _
  · exact .pure _

theorem isCautious_property (flags : Flags) : IsCautious n Spent fun _ => property flags := by
  have hbraced : IsCautious n Spent fun _ rest =>
      (braced flags (rest.length + 1) [] (flags.skip rest)).map fun read =>
        (propertyOf read.1, read.2) :=
    .map propertyOf (.byLength (fun fuel rest => braced flags fuel [] (flags.skip rest))
      fun fuel => (isCautious_braced flags fuel []).skipping flags IsCautious.spent_nil)
  apply IsCautious.branch flags (show '\x7b' ≠ ')' by decide) hbraced isCautious_letterProperty
    ?_ ?_ IsCautious.spent_nil
  · intro k cs rest h
    simp only [property, h]
  · intro k cs h
    unfold property
    split
    · next hskip => simp [hskip] at h
    · rfl

variable [Engine]

theorem isCautious_unicodeClass (flags : Flags) (negated : Bool) :
    IsCautious n Spent fun _ => unicodeClass flags negated := by
  apply IsCautious.bind (fun read _ rest =>
    (propertyClass flags read.1 (negated != read.2)).map fun p => (p, rest))
    (isCautious_property flags) ?_ ?_
    (fun read => .lift (propertyClass flags read.1 (negated != read.2))) ?_
    fun _ => IsCautious.spent_nil _
  · intro k cs e h
    simp only [unicodeClass, h]
  · intro k cs read rest h
    simp only [unicodeClass, h]
  · intro read rest hspent k p rest' h
    rw [rest_eq_of_map h]
    exact hspent

theorem isCautious_escape (flags : Flags) :
    IsCautious n (LateEscape flags) fun _ => escape flags := by
  have hlate : ∀ p rest, Spent p rest → LateEscape flags p rest := fun _ _ => .inl
  apply IsCautious.uncons
  · simp [escape]
  · intro c
    simp only [escape]
    split
    · exact .error _
    · split
      · exact .pure _
      · split
        · exact (isCautious_hexEscape flags 2).mono hlate
        · exact (isCautious_hexEscape flags 4).mono hlate
        · exact (isCautious_hexEscape flags 8).mono hlate
        all_goals first
          | exact IsCautious.lift _
          | exact IsCautious.pure _
          | exact isCautious_boundaryEscape flags
          | exact (isCautious_unicodeClass flags _).mono hlate
          | exact IsCautious.error _
  · intro k p rest h
    obtain ⟨-, rfl⟩ := Prod.mk.inj (Except.ok.inj h)
    exact .inl (List.suffix_refl _)

end Escapes

section Classes

variable {n : Nat} {flags : Flags} {cs : List Char}

def Bracketless {α : Type} (_ : α) (rest : List Char) : Prop :=
  ']' ∉ rest

theorem not_mem_closing : ']' ∉ closing := by
  decide

theorem leadingDashes_nil (flags : Flags) (fuel : Nat) (cls : OpenClass) :
    leadingDashes flags fuel cls [] = (cls, []) := by
  cases fuel with
  | zero => rfl
  | succ fuel => rfl

theorem ClosesAs.leadingDashes {closed : List Char} {fuel fuel' : Nat} (flags : Flags)
    (h : ClosesAs cs closed) (hfuel : cs.length ≤ fuel) (hfuel' : closed.length ≤ fuel')
    (cls : OpenClass) :
    ClosesAs (Pattern.leadingDashes flags fuel cls cs).2
      (Pattern.leadingDashes flags fuel' cls closed).2 := by
  induction fuel generalizing cls cs closed fuel' with
  | zero =>
    obtain rfl : cs = [] := List.length_eq_zero_iff.mp (by omega)
    obtain rfl | ⟨-, rfl⟩ := h
    · exact .inl (by rw [List.nil_append, closing, leadingDashes_of_ne (by decide)]; rfl)
    · exact .inr ⟨rfl, by rw [leadingDashes_nil]⟩
  | succ fuel ih =>
    obtain rfl | ⟨rfl, rfl⟩ := h
    · cases cs with
      | nil => exact .inl (by rw [List.nil_append, closing, leadingDashes_of_ne (by decide)]; rfl)
      | cons c cs =>
        by_cases hc : c = '-'
        · rw [hc]
          rw [List.length_cons] at hfuel
          rw [List.cons_append, List.length_cons] at hfuel'
          obtain ⟨fuel', rfl⟩ : ∃ n, fuel' = n + 1 := ⟨fuel' - 1, by omega⟩
          have hskip := (skip_suffix flags cs).length_le
          have hclosed := (skip_suffix flags (cs ++ closing)).length_le
          exact ih (skip_append_closing flags cs) (by omega) (by omega) (cls.add (.flat (.single '-')))
        · rw [leadingDashes_of_ne hc, List.cons_append, leadingDashes_of_ne hc]
          exact .inl rfl
    · exact .inr ⟨by rw [leadingDashes_nil], by rw [leadingDashes_nil]⟩

theorem ClosesAs.not_mem {closed : List Char} (h : ClosesAs [] closed) : ']' ∉ closed := by
  obtain rfl | ⟨-, rfl⟩ := h
  · exact not_mem_closing
  · exact List.not_mem_nil

theorem isCautious_openItems (flags : Flags) (negated : Bool) :
    IsCautious n Bracketless fun _ => openItems flags negated where
  isLocal _ := isLocal_openItems flags negated
  late_of_error {cs e} _ herror k cls rest hread := by
    by_cases hbracket : cs.head? = some ']'
    · obtain ⟨more, rfl⟩ := List.head?_eq_some_iff.mp hbracket
      simp only [openItems, List.cons_append] at herror hread
      split at herror
      · next hempty =>
        split at hread
        · contradiction
        · obtain ⟨-, rfl⟩ := Prod.mk.inj (Except.ok.inj hread)
          have hcloses := skip_append_closing flags more
          rw [List.isEmpty_iff.mp hempty] at hcloses
          exact hcloses.not_mem
      · contradiction
    · have hclosed : (cs ++ closing).head? ≠ some ']' := by
        cases cs with
        | nil => decide
        | cons c cs => exact hbracket
      rw [openItems_of_ne negated hbracket] at herror
      rw [openItems_of_ne negated hclosed] at hread
      split at herror
      · next hempty =>
        split at hread
        · contradiction
        · have hclosed : ClosesAs cs (cs ++ closing) := .inl rfl
          have hcloses := hclosed.leadingDashes flags (Nat.le_refl _) (Nat.le_refl _)
            (.start negated)
          rw [List.isEmpty_iff.mp hempty, Except.ok.inj hread] at hcloses
          exact hcloses.not_mem
      · contradiction

theorem isCautious_openClass (flags : Flags) :
    IsCautious n Bracketless fun _ => openClass flags := by
  have hnil : ∀ cls : OpenClass, Bracketless cls [] := fun _ => List.not_mem_nil
  have hnegated := (isCautious_openItems (n := n) flags true).skipping flags hnil
  apply IsCautious.branch flags (show '^' ≠ ')' by decide) hnegated
    (isCautious_openItems flags false) ?_ ?_ hnil
  · intro k cs rest h
    unfold openClass
    rw [h]
    rfl
  · intro k cs h
    unfold openClass
    split
    · next hskip => simp [hskip] at h
    · rfl

def LateItem (p : Primitive) (rest : List Char) : Prop :=
  ']' ∉ rest ∨ ∃ condition, p = .look condition

theorem classOp?_append_closing (c : Char) (rest : List Char) :
    classOp? (c :: rest ++ closing) =
      (classOp? (c :: rest)).map fun read => (read.1, read.2 ++ closing) := by
  cases rest with
  | nil =>
    -- A parenthesis is not doubled into an operation.
    by_cases hc : c = ')'
    · rw [hc]
      rfl
    · simp [closing, classOp?, hc]
  | cons d rest => exact classOp?_append c d rest closing

theorem length_lt_of_classOp? {op : ClassOp} {rest : List Char}
    (h : classOp? cs = some (op, rest)) : rest.length < cs.length := by
  unfold classOp? at h
  split at h
  · next c d more =>
    split at h
    · obtain ⟨op', -, hread⟩ := Option.map_eq_some_iff.mp h
      rw [← (Prod.mk.inj hread).2, List.length_cons, List.length_cons]
      omega
    · contradiction
  · contradiction

theorem rangeBetween_look (flags : Flags) (first : Primitive) (condition : Look) (cls : CharClass) :
    rangeBetween flags first (.look condition) ≠ .ok cls := by
  unfold rangeBetween
  cases classChar flags first with
  | error e => simp
  | ok c => simp [classChar]

variable [Engine]

theorem isCautious_classPrimitive (flags : Flags) :
    IsCautious n LateItem fun _ => classPrimitive flags := by
  apply IsCautious.uncons (by simp [classPrimitive])
  · intro c
    by_cases hc : c = '\\'
    · rw [hc]
      apply (isCautious_escape flags).mono
      rintro p rest (hspent | ⟨rfl, -⟩)
      · exact .inl fun hmem => absurd (hspent.subset hmem) (by decide)
      · exact .inr ⟨_, rfl⟩
    · simp only [classPrimitive_of_ne hc]
      exact .pure _
  · intro k p rest h
    rw [closing, classPrimitive_of_ne (by decide)] at h
    obtain ⟨-, rfl⟩ := Prod.mk.inj (Except.ok.inj h)
    exact .inl (by decide)

section RangeAfter

variable {first : Primitive} {c d : Char} {rest more : List Char}

theorem rangeAfter_nil (h : flags.skip cs = []) :
    rangeAfter flags first cs = .error .unclosedClass := by
  simp only [rangeAfter, h]

theorem rangeAfter_of_ne (hc : c ≠ '-') (h : flags.skip cs = c :: rest) :
    rangeAfter flags first cs = (classItem flags first).map fun cls => (cls, c :: rest) := by
  simp only [rangeAfter, h]
  split
  · contradiction
  · next heq => exact absurd (List.cons.inj heq).1 hc
  · rfl

theorem rangeAfter_dash_nil (h : flags.skip cs = '-' :: rest) (hrest : flags.skip rest = []) :
    rangeAfter flags first cs = .error .unclosedClass := by
  simp only [rangeAfter, h, hrest]

theorem rangeAfter_dash (hd : d = ']' ∨ d = '-') (h : flags.skip cs = '-' :: rest)
    (hrest : flags.skip rest = d :: more) :
    rangeAfter flags first cs = (classItem flags first).map fun cls => (cls, '-' :: rest) := by
  obtain rfl | rfl := hd
  · simp only [rangeAfter, h, hrest]
  · simp only [rangeAfter, h, hrest]

theorem rangeAfter_range (hbracket : d ≠ ']') (hdash : d ≠ '-')
    (h : flags.skip cs = '-' :: rest) (hrest : flags.skip rest = d :: more) :
    rangeAfter flags first cs =
      (classPrimitive flags (d :: more)).bind fun last =>
        (rangeBetween flags first last.1).map fun cls => (cls, last.2) := by
  simp only [rangeAfter, h, hrest]
  split
  · contradiction
  · next heq => exact absurd (List.cons.inj heq).1 hbracket
  · next heq => exact absurd (List.cons.inj heq).1 hdash
  · cases classPrimitive flags (d :: more) with
    | error e => rfl
    | ok last => rfl

end RangeAfter

theorem isCautious_range (flags : Flags) (first : Primitive) :
    IsCautious n Bracketless fun _ cs =>
      (classPrimitive flags cs).bind fun last =>
        (rangeBetween flags first last.1).map fun cls => (cls, last.2) := by
  apply IsCautious.sequence (isCautious_classPrimitive flags)
    (fun last => .lift (rangeBetween flags first last)) ?_ fun _ => List.not_mem_nil
  intro last rest hlate k cls rest' h
  cases hlate with
  | inl hmem =>
    rw [rest_eq_of_map h]
    exact hmem
  | inr hlook =>
    obtain ⟨condition, rfl⟩ := hlook
    cases hrange : rangeBetween flags first (.look condition) with
    | error e =>
      rw [hrange] at h
      contradiction
    | ok cls' => exact absurd hrange (rangeBetween_look flags first condition cls')

theorem isCautious_rangeAfter (flags : Flags) (first : Primitive) :
    IsCautious n Bracketless fun _ => rangeAfter flags first where
  isLocal _ := isLocal_rangeAfter flags first
  late_of_error {cs e} hlength herror k item rest hread := by
    have hsuffix := (skip_suffix flags cs).length_le
    have hsingle : ∀ {rest rest' : List Char} {e read},
        (classItem flags first).map (fun cls => (cls, rest)) = .error e →
        (classItem flags first).map (fun cls => (cls, rest')) ≠ .ok read := by
      intro rest rest' e read h
      cases hitem : classItem flags first with
      | error e' => simp [Except.map]
      | ok cls => simp [hitem, Except.map] at h
    cases hskip : flags.skip cs with
    | nil =>
      obtain hclosed | ⟨-, hclosed⟩ := skip_append_closing flags cs
      · rw [hskip, List.nil_append] at hclosed
        rw [rangeAfter_of_ne (by decide) hclosed] at hread
        rw [rest_eq_of_map hread]
        exact not_mem_closing
      · rw [rangeAfter_nil hclosed] at hread
        contradiction
    | cons c more =>
      have hclosed := skip_cons_append hskip closing
      by_cases hc : c = '-'
      · rw [hc] at hskip hclosed
        cases hmore : flags.skip more with
        | nil =>
          obtain hlater | ⟨-, hlater⟩ := skip_append_closing flags more
          · -- The parenthesis is the last character of the range.
            rw [hmore, List.nil_append] at hlater
            rw [rangeAfter_range (by decide) (by decide) hclosed hlater,
              classPrimitive_of_ne (by decide)] at hread
            rw [rest_eq_of_map hread]
            exact List.not_mem_of_not_mem_cons not_mem_closing
          · rw [rangeAfter_dash_nil hclosed hlater] at hread
            contradiction
        | cons d later =>
          have hlater := skip_cons_append hmore closing
          by_cases hd : d = ']' ∨ d = '-'
          · rw [rangeAfter_dash hd hskip hmore] at herror
            rw [rangeAfter_dash hd hclosed hlater] at hread
            exact absurd hread (hsingle herror)
          · rw [not_or] at hd
            rw [rangeAfter_range hd.1 hd.2 hskip hmore] at herror
            rw [rangeAfter_range hd.1 hd.2 hclosed hlater] at hread
            have hlt : (d :: later).length < n := by
              have := (skip_suffix flags more).length_le
              rw [hmore] at this
              rw [hskip, List.length_cons] at hsuffix
              omega
            exact (isCautious_range flags first).late_of_error hlt herror (k := k) hread
      · rw [rangeAfter_of_ne hc hskip] at herror
        rw [rangeAfter_of_ne hc hclosed] at hread
        exact absurd hread (hsingle herror)

theorem rangeAfter_look (flags : Flags) (condition : Look) (cs : List Char)
    (read : CharClass × List Char) : rangeAfter flags (.look condition) cs ≠ .ok read := by
  have hsingle (rest : List Char) :
      (classItem flags (.look condition)).map (fun cls => (cls, rest)) ≠ .ok read := by
    simp [classItem, Except.map]
  cases hskip : flags.skip cs with
  | nil => simp [rangeAfter_nil hskip]
  | cons c more =>
    by_cases hc : c = '-'
    · rw [hc] at hskip
      cases hmore : flags.skip more with
      | nil => simp [rangeAfter_dash_nil hskip hmore]
      | cons d later =>
        by_cases hd : d = ']' ∨ d = '-'
        · rw [rangeAfter_dash hd hskip hmore]
          exact hsingle _
        · rw [not_or] at hd
          rw [rangeAfter_range hd.1 hd.2 hskip hmore]
          cases classPrimitive flags (d :: later) with
          | error e => simp [Except.bind]
          | ok last => simp [Except.bind, Except.map, rangeBetween, classChar]
    · rw [rangeAfter_of_ne hc hskip]
      exact hsingle _

theorem isCautious_classRange (flags : Flags) :
    IsCautious n Bracketless fun _ => classRange flags := by
  apply IsCautious.bind (fun first _ => rangeAfter flags first) (isCautious_classPrimitive flags)
    ?_ ?_ (isCautious_rangeAfter flags) ?_ fun _ => List.not_mem_nil
  · intro k cs e h
    simp only [classRange, h]
  · intro k cs first rest h
    simp only [classRange, h]
  · intro first rest hlate k item rest' h
    cases hlate with
    | inl hmem =>
      intro hbracket
      exact hmem (((isLocal_rangeAfter flags first).suffix h).subset hbracket)
    | inr hlook =>
      obtain ⟨condition, rfl⟩ := hlook
      exact absurd h (rangeAfter_look flags condition rest _)

theorem classLoop_ne_ok {fuel : Nat} {outer : List OpenClass} {cls : OpenClass} (h : ']' ∉ cs)
    (read : Nested CharClass × List Char) : classLoop flags fuel outer cls cs ≠ .ok read :=
  fun hread => h ((skip_suffix flags cs).subset (mem_of_classLoop hread))

theorem length_lt_of_classPrimitive {p : Primitive} {rest : List Char}
    (h : classPrimitive flags cs = .ok (p, rest)) : rest.length < cs.length := by
  cases cs with
  | nil => contradiction
  | cons c cs =>
    rw [List.length_cons, Nat.lt_succ_iff]
    by_cases hc : c = '\\'
    · rw [hc] at h
      exact ((isLocal_escape flags).suffix h).length_le
    · rw [classPrimitive_of_ne hc] at h
      rw [(Prod.mk.inj (Except.ok.inj h)).2]

theorem length_lt_of_classRange {item : CharClass} {rest : List Char}
    (h : classRange flags cs = .ok (item, rest)) : rest.length < cs.length := by
  unfold classRange at h
  split at h
  · contradiction
  · next first more hfirst =>
    exact Nat.lt_of_le_of_lt ((isLocal_rangeAfter flags first).suffix h).length_le
      (length_lt_of_classPrimitive hfirst)

section Rounds

variable {fuel k : Nat} {outer : List OpenClass} {cls : OpenClass} {c : Char} {rest : List Char}
  {e : PatternError}

-- What is left to read after a round is read cautiously with one round less.
variable (hlater : ∀ outer cls, IsCautious fuel Never fun k => classLoop flags (fuel + k) outer cls)

include hlater

theorem isCautious_inner (outer : List OpenClass) :
    IsCautious fuel Never fun k rest =>
      (openClass flags rest).bind fun inner =>
        classLoop flags (fuel + k) outer inner.1 inner.2 := by
  apply IsCautious.sequence (isCautious_openClass flags) (hlater outer)
  · intro inner rest hlate k item rest' h
    exact classLoop_ne_ok hlate _ h
  · intro inner k item h
    exact classLoop_ne_ok List.not_mem_nil _ h

theorem isCautious_item (outer : List OpenClass) (cls : OpenClass) :
    IsCautious (fuel + 1) Never fun k rest =>
      (classRange flags rest).bind fun item =>
        classLoop flags (fuel + k) outer (cls.add (.flat item.1)) item.2 := by
  apply IsCautious.bind_shorter
    (fun item k rest => classLoop flags (fuel + k) outer (cls.add (.flat item)) rest)
    (isCautious_classRange flags) ?_ ?_ fun item => hlater outer (cls.add (.flat item))
  · intro cs item rest h hlength
    have := length_lt_of_classRange h
    omega
  · intro item rest hlate k item' rest' h
    exact classLoop_ne_ok hlate _ h
  · intro item k item' h
    exact classLoop_ne_ok List.not_mem_nil _ h
  · intro k cs e h
    rw [h]
    rfl
  · intro k cs item rest h
    rw [h]
    rfl

theorem classLoop_open_ne_ok (hlength : rest.length < fuel) (hskip : flags.skip cs = '[' :: rest)
    (h : classLoop flags (fuel + 1) outer cls cs = .error e) (read : Nested CharClass × List Char) :
    classLoop flags (fuel + k + 1) outer cls (cs ++ closing) ≠ .ok read := by
  intro hread
  have hclosed := skip_cons_append hskip closing
  have hbracket : ']' ∈ rest := by
    have hmem := mem_of_classLoop hread
    rw [hclosed] at hmem
    simpa [closing] using hmem
  have hnamed : namedClass? flags (rest ++ closing) =
      (namedClass? flags rest).map fun read => (read.1, read.2 ++ closing) :=
    namedClass?_append hbracket closing
  cases hrest : namedClass? flags rest with
  | some named =>
    obtain ⟨item, more⟩ := named
    have hmore := (suffix_of_namedClass? hrest).length_le
    rw [hrest] at hnamed
    simp only [classLoop, hskip, hrest] at h
    simp only [classLoop, hclosed, hnamed, Option.map_some] at hread
    split at h
    · next hascii =>
      rw [if_pos hascii] at hread
      rw [List.length_cons] at hmore
      exact (hlater outer (cls.add (.flat item))).late_of_error (by omega) h hread
    · next hascii =>
      rw [if_neg hascii] at hread
      contradiction
  | none =>
    rw [hrest] at hnamed
    rw [classLoop_inner hskip hrest] at h
    rw [classLoop_inner hclosed hnamed] at hread
    exact (isCautious_inner hlater (cls :: outer)).late_of_error hlength h hread

theorem classLoop_close_ne_ok (hlength : rest.length < fuel) (hskip : flags.skip cs = ']' :: rest)
    (h : classLoop flags (fuel + 1) outer cls cs = .error e) (read : Nested CharClass × List Char) :
    classLoop flags (fuel + k + 1) outer cls (cs ++ closing) ≠ .ok read := by
  intro hread
  have hclosed := skip_cons_append hskip closing
  simp only [classLoop, hskip] at h
  simp only [classLoop, hclosed] at hread
  cases hclose : cls.close flags with
  | error e => simp [hclose] at hread
  | ok closed =>
    rw [hclose] at h hread
    cases outer with
    | nil => contradiction
    | cons around outer =>
      exact (hlater outer (around.add closed)).late_of_error hlength h hread

theorem classLoop_other_ne_ok (hlength : (c :: rest).length < fuel + 1) (hopen : c ≠ '[')
    (hclose : c ≠ ']') (hskip : flags.skip cs = c :: rest)
    (h : classLoop flags (fuel + 1) outer cls cs = .error e) (read : Nested CharClass × List Char) :
    classLoop flags (fuel + k + 1) outer cls (cs ++ closing) ≠ .ok read := by
  intro hread
  rw [classLoop_of_ne hopen hclose hskip] at h
  rw [classLoop_of_ne hopen hclose (skip_cons_append hskip closing), ← List.cons_append,
    classOp?_append_closing] at hread
  cases hop : classOp? (c :: rest) with
  | some next =>
    have := length_lt_of_classOp? hop
    rw [hop] at h hread
    exact (hlater outer (cls.operate flags next.1)).late_of_error (by omega) h hread
  | none =>
    rw [hop] at h hread
    exact (isCautious_item hlater outer cls).late_of_error hlength h hread

end Rounds

theorem isCautious_classLoop (flags : Flags) (fuel : Nat) (outer : List OpenClass)
    (cls : OpenClass) : IsCautious fuel Never fun k => classLoop flags (fuel + k) outer cls := by
  have hlocal : ∀ fuel outer cls k,
      IsLocal fun j => classLoop flags (fuel + (k + j)) outer cls := by
    intro fuel outer cls k
    simpa only [Nat.add_assoc] using isLocal_classLoop flags (fuel + k) outer cls
  induction fuel generalizing outer cls with
  | zero => exact .zero (hlocal 0 outer cls)
  | succ fuel ih =>
    refine ⟨hlocal (fuel + 1) outer cls, ?_⟩
    intro cs e hlength herror k item rest hread
    rw [Nat.add_right_comm] at hread
    have hsuffix := (skip_suffix flags cs).length_le
    cases hskip : flags.skip cs with
    | nil =>
      have hcloses := skip_append_closing flags cs
      rw [hskip] at hcloses
      exact absurd (mem_of_classLoop hread) hcloses.not_mem
    | cons c more =>
      rw [hskip] at hsuffix
      by_cases hopen : c = '['
      · rw [hopen] at hskip
        rw [List.length_cons] at hsuffix
        exact classLoop_open_ne_ok ih (by omega) hskip herror _ hread
      · by_cases hclose : c = ']'
        · rw [hclose] at hskip
          rw [List.length_cons] at hsuffix
          exact classLoop_close_ne_ok ih (by omega) hskip herror _ hread
        · exact classLoop_other_ne_ok ih (by omega) hopen hclose hskip herror _ hread

theorem isCautious_bracketed (flags : Flags) : IsCautious n Never fun _ => bracketed flags := by
  apply IsCautious.bind (fun cls _ rest => classLoop flags (rest.length + 1) [] cls rest)
    (isCautious_openClass flags) ?_ ?_ (fun cls =>
      .byLength (fun fuel => classLoop flags fuel [] cls)
        fun fuel => isCautious_classLoop flags fuel [] cls)
  · intro cls rest hlate k read rest' h
    exact classLoop_ne_ok hlate _ h
  · intro cls k read h
    exact classLoop_ne_ok List.not_mem_nil _ h
  · intro k cs e h
    simp only [bracketed, h]
  · intro k cs value rest h
    simp only [bracketed, h]

end Classes

section Groups

variable {n : Nat}

theorem isCautious_flagList (flags : Flags) (used : List Char) :
    IsCautious n Spent fun _ => flagList flags used := by
  induction n generalizing flags used with
  | zero => exact .zero fun _ => isLocal_flagList flags used
  | succ n ih =>
    apply IsCautious.uncons_spent (by simp [flagList])
    intro c
    simp only [flagList]
    split
    · split
      · exact .error _
      · exact .pure _
    · split
      · exact .error _
      · split
        · exact ih _ _
        · split
          · exact ih _ _
          · exact .error _

theorem isCautious_groupName (names : List (List Char)) :
    IsCautious n Spent fun _ => groupName names where
  isLocal _ := isLocal_groupName names
  late_of_error {cs e} _ herror k name rest hread := by
  -- The mark at the end of a name has to be in the text itself.
    by_cases hmem : '>' ∈ cs
    · obtain ⟨before, after, rfl, hbefore⟩ := List.eq_append_cons_of_mem hmem
      simp only [groupName, List.append_assoc, List.cons_append, takeWhile_bne hbefore,
        dropWhile_bne hbefore] at herror hread
      cases before with
      | nil => contradiction
      | cons c more =>
        dsimp only at herror hread
        split at herror
        · contradiction
        · next hinvalid =>
          rw [if_neg hinvalid] at hread
          contradiction
    · have hclosed : '>' ∉ cs ++ closing := by simp [hmem, closing]
      simp [groupName, dropWhile_bne_of_not_mem hclosed] at hread

theorem isCautious_flagOpening (flags : Flags) : IsCautious n Spent fun _ => flagOpening flags := by
  apply IsCautious.bind (fun read _ rest =>
    match read with
    | (changed, _, .colon) => .ok (.group changed none, rest)
    | (changed, used, .parenthesis) =>
      if used.isEmpty then .error .nothingToRepeat else .ok (.setFlags changed, rest))
    (isCautious_flagList flags []) ?_ ?_ ?_ ?_ fun _ => IsCautious.spent_nil _
  · intro k cs e h
    simp only [flagOpening, h]
  · intro k cs read rest h
    obtain ⟨changed, used, last⟩ := read
    cases last with
    | _ => simp only [flagOpening, h]
  · intro read
    obtain ⟨changed, used, last⟩ := read
    cases last with
    | colon => exact .pure _
    | parenthesis =>
      cases used with
      | nil => exact .error _
      | cons => exact .pure _
  · intro read rest hspent k opening rest' h
    obtain ⟨changed, used, last⟩ := read
    cases last with
    | colon =>
      rw [← (Prod.mk.inj (Except.ok.inj h)).2]
      exact hspent
    | parenthesis =>
      dsimp only at h
      split at h
      · contradiction
      · rw [← (Prod.mk.inj (Except.ok.inj h)).2]
        exact hspent

theorem isCautious_namedOpening (flags : Flags) (names : List (List Char)) :
    IsCautious n Spent fun _ => namedOpening flags names :=
  .map (fun name => Opening.group flags (some name)) (isCautious_groupName names)

theorem namedOpening_closing (flags : Flags) (names : List (List Char))
    (read : Opening × List Char) : namedOpening flags names closing ≠ .ok read := by
  have hclosing : '>' ∉ closing := by decide
  simp [namedOpening, groupName, dropWhile_bne_of_not_mem hclosing, Except.map]

theorem markedOpening_ne_ok {flags : Flags} {names : List (List Char)} {cs : List Char}
    (h : cs.head? ≠ some '<') (read : Opening × List Char) :
    markedOpening flags names ('P' :: cs) ≠ .ok read := by
  -- The letter is no flag, so it has to be the start of a name.
  unfold markedOpening
  split
  all_goals simp_all [flagOpening, flagList, isFlag]

theorem isCautious_markedOpening (flags : Flags) (names : List (List Char)) :
    IsCautious n Spent fun _ => markedOpening flags names where
  isLocal _ := isLocal_markedOpening flags names
  late_of_error {cs e} hlength herror k opening rest hread := by
    cases cs with
    | nil => contradiction
    | cons c more =>
      by_cases hc : c ∈ ['=', '!', '<', 'P']
      · simp only [List.mem_cons, List.not_mem_nil, or_false] at hc
        obtain rfl | rfl | rfl | rfl := hc
        · contradiction
        · contradiction
        · cases more with
          | nil =>
            rw [List.cons_append, List.nil_append, closing,
              markedOpening_name (by decide) (by decide)] at hread
            exact absurd hread (namedOpening_closing flags names _)
          | cons d more =>
            by_cases hd : d = '=' ∨ d = '!'
            · obtain rfl | rfl := hd
              · contradiction
              · contradiction
            · rw [not_or] at hd
              rw [markedOpening_name hd.1 hd.2] at herror
              rw [List.cons_append, List.cons_append, markedOpening_name hd.1 hd.2] at hread
              rw [List.length_cons] at hlength
              exact (isCautious_namedOpening flags names).late_of_error (Nat.lt_of_succ_lt hlength)
                herror (k := k) hread
        · by_cases hhead : more.head? = some '<'
          · obtain ⟨more, rfl⟩ := List.head?_eq_some_iff.mp hhead
            rw [List.length_cons, List.length_cons] at hlength
            exact (isCautious_namedOpening flags names).late_of_error
              (Nat.lt_of_succ_lt (Nat.lt_of_succ_lt hlength)) herror (k := k) hread
          · have hclosed : (more ++ closing).head? ≠ some '<' := by
              cases more with
              | nil => decide
              | cons d more => exact hhead
            exact absurd hread (markedOpening_ne_ok hclosed _)
      · rw [markedOpening_flags hc] at herror
        rw [List.cons_append, markedOpening_flags hc] at hread
        exact (isCautious_flagOpening flags).late_of_error hlength herror (k := k) hread

theorem isCautious_opening (flags : Flags) (names : List (List Char)) :
    IsCautious n Spent fun _ => opening flags names := by
  apply IsCautious.branch flags (show '?' ≠ ')' by decide) (isCautious_markedOpening flags names)
    (.pure (.group flags none)) ?_ ?_ IsCautious.spent_nil
  · intro k cs rest h
    unfold opening
    rw [h]
    rfl
  · intro k cs h
    unfold opening
    split
    · next hskip => simp [hskip] at h
    · rfl

end Groups

section Counts

variable {n : Nat} {flags : Flags} {cs closed : List Char}

theorem ClosesAs.dropWhile_isBlank (h : ClosesAs cs closed) :
    ClosesAs (cs.dropWhile isBlank) (closed.dropWhile isBlank) := by
  obtain rfl | ⟨rfl, rfl⟩ := h
  · left
    rw [List.dropWhile_append]
    split
    · next hnil =>
      rw [List.isEmpty_iff.mp hnil]
      rfl
    · rfl
  · exact .inr ⟨rfl, rfl⟩

theorem digits_nil (flags : Flags) (fuel : Nat) (read : List Char) :
    digits flags fuel read [] = (read.reverse, []) := by
  cases fuel with
  | zero => rfl
  | succ fuel => rfl

theorem ClosesAs.digits {fuel fuel' : Nat} (h : ClosesAs cs closed) (hfuel : cs.length ≤ fuel)
    (hfuel' : closed.length ≤ fuel') (read : List Char) :
    ClosesAs (Pattern.digits flags fuel read cs).2 (Pattern.digits flags fuel' read closed).2 := by
  induction fuel generalizing read cs closed fuel' with
  | zero =>
    obtain rfl : cs = [] := List.length_eq_zero_iff.mp (by omega)
    obtain rfl | ⟨-, rfl⟩ := h
    · exact .inl (by rw [List.nil_append, closing, digits_of_not (by decide)]; rfl)
    · exact .inr ⟨rfl, by rw [digits_nil]⟩
  | succ fuel ih =>
    obtain rfl | ⟨rfl, rfl⟩ := h
    · cases cs with
      | nil => exact .inl (by rw [List.nil_append, closing, digits_of_not (by decide)]; rfl)
      | cons c cs =>
        by_cases hc : c.isDigit
        · rw [List.length_cons] at hfuel
          rw [List.cons_append, List.length_cons] at hfuel'
          obtain ⟨fuel', rfl⟩ : ∃ n, fuel' = n + 1 := ⟨fuel' - 1, by omega⟩
          have hskip := (skip_suffix flags cs).length_le
          have hclosed := (skip_suffix flags (cs ++ closing)).length_le
          rw [List.cons_append, Pattern.digits, Pattern.digits, if_pos hc, if_pos hc]
          exact ih (skip_append_closing flags cs) (by omega) (by omega) (c :: read)
        · rw [digits_of_not hc, List.cons_append, digits_of_not hc]
          exact .inl rfl
    · exact .inr ⟨by rw [digits_nil], by rw [digits_nil]⟩

theorem ClosesAs.decimal (h : ClosesAs cs closed) :
    ClosesAs (Pattern.decimal flags cs).2 (Pattern.decimal flags closed).2 :=
  (h.dropWhile_isBlank.digits (Nat.le_refl _) (Nat.le_refl _) []).dropWhile_isBlank.skip flags

theorem decimal_of_cons {c : Char} {after : List Char} (hc : c ≠ ')') (h : ClosesAs cs closed)
    (hclosed : (Pattern.decimal flags closed).2 = c :: after) :
    ∃ value? more, Pattern.decimal flags cs = (value?, c :: more)
      ∧ Pattern.decimal flags closed = (value?, c :: (more ++ closing)) := by
  -- What follows a number in a closed text is there already, unless it closes the text.
  have hcloses : ClosesAs (Pattern.decimal flags cs).2 (Pattern.decimal flags closed).2 := h.decimal
  obtain ⟨-, happend⟩ := decimal_append flags cs
  cases hread : Pattern.decimal flags cs with
  | mk value? rest =>
    rw [hread] at hcloses happend
    cases rest with
    | nil =>
      obtain hcloses | ⟨-, hcloses⟩ := hcloses
      · rw [hclosed] at hcloses
        exact absurd (List.cons.inj hcloses).1 hc
      · rw [hclosed] at hcloses
        contradiction
    | cons d more =>
      obtain rfl | ⟨rfl, rfl⟩ := h
      · have hboth := happend (List.cons_ne_nil d more) closing
        rw [hboth] at hclosed ⊢
        obtain ⟨rfl, rfl⟩ := List.cons.inj hclosed
        exact ⟨value?, more, rfl, rfl⟩
      · have hsuffix := (decimal_append flags []).1
        rw [hread] at hsuffix
        simp at hsuffix

theorem isCautious_writtenBound (flags : Flags) (least : Nat) :
    IsCautious n Spent fun _ => writtenBound flags least where
  isLocal _ := isLocal_writtenBound flags least
  late_of_error {cs e} _ herror k count rest hread := by
    unfold writtenBound at herror hread
    split at hread
    · next most after hclosed =>
      obtain ⟨value?, more, hcs, hboth⟩ :=
        decimal_of_cons (c := '\x7d') (by decide) (.inl rfl) (by rw [hclosed])
      rw [hboth] at hclosed
      obtain ⟨rfl, -⟩ := Prod.mk.inj hclosed
      rw [hcs] at herror
      split at hread
      · next hle => simp [hle] at herror
      · contradiction
    · contradiction

theorem isCautious_upperBound (flags : Flags) (least : Nat) :
    IsCautious n Spent fun _ => upperBound flags least := by
  apply IsCautious.branch flags (show '\x7d' ≠ ')' by decide) (.pure (least, none))
    (isCautious_writtenBound flags least) ?_ ?_ IsCautious.spent_nil
  · intro k cs rest h
    unfold upperBound
    rw [h]
    rfl
  · intro k cs h
    unfold upperBound
    split
    · next hskip => simp [hskip] at h
    · rfl

theorem bounds_closing (h : flags.skip cs = closing) : bounds flags cs = .error .badCount := by
  have hdecimal : (Pattern.decimal flags closing).1 = none := by
    have hstart : closing.dropWhile isBlank = closing := rfl
    rw [Pattern.decimal, hstart, closing, digits_of_not (by decide)]
    rfl
  simp only [bounds, h, hdecimal]

theorem isCautious_bounds (flags : Flags) : IsCautious n Spent fun _ => bounds flags where
  isLocal _ := isLocal_bounds flags
  late_of_error {cs e} _ herror k count rest hread := by
    have hcloses := skip_append_closing flags cs
    simp only [bounds] at herror hread
    split at hread
    · contradiction
    · next least after hvalue hafter =>
      obtain ⟨value?, more, hcs, hboth⟩ := decimal_of_cons (by decide) hcloses hafter
      rw [hboth] at hvalue
      obtain rfl : value? = some least := hvalue
      rw [hcs] at herror
      contradiction
    · next least after hvalue hafter =>
      obtain ⟨value?, more, hcs, hboth⟩ := decimal_of_cons (by decide) hcloses hafter
      rw [hboth] at hvalue hafter
      obtain rfl : value? = some least := hvalue
      obtain ⟨-, rfl⟩ := List.cons.inj hafter
      rw [hcs] at herror
      exact (isCautious_upperBound flags least).late_of_error (Nat.lt_succ_self _) herror (k := k)
        hread
    · contradiction

theorem isCautious_skipLazy :
    IsCautious n Spent fun _ cs => (.ok ((), skipLazy cs) : Reader Unit) := by
  apply IsCautious.of_total isLocal_skipLazy
  intro cs e h
  contradiction

end Counts

end Pattern
end CursorQuery
