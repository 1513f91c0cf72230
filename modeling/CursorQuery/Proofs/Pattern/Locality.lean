import CursorQuery.Proofs.Pattern.Reader

/-!
This module contains the proof that all readers of parts of a pattern are local.
-/

namespace CursorQuery
namespace Pattern

open Character

section Separators

variable {d : Char} {cs before : List Char}

theorem forall_bne_of_not_mem (h : d ∉ before) : ∀ c ∈ before, (c != d) = true := by
  intro c hc
  rw [bne_iff_ne]
  rintro rfl
  contradiction

theorem takeWhile_bne (h : d ∉ before) (after : List Char) :
    (before ++ d :: after).takeWhile (· != d) = before := by
  rw [List.takeWhile_append_of_pos (forall_bne_of_not_mem h)]
  simp

theorem dropWhile_bne (h : d ∉ before) (after : List Char) :
    (before ++ d :: after).dropWhile (· != d) = d :: after := by
  rw [List.dropWhile_append_of_pos (forall_bne_of_not_mem h)]
  simp

theorem dropWhile_bne_of_not_mem (h : d ∉ cs) : cs.dropWhile (· != d) = [] := by
  rw [← List.append_nil cs, List.dropWhile_append_of_pos (forall_bne_of_not_mem h)]
  rfl

end Separators

section Escapes

theorem isLocal_hexDigits (flags : Flags) (count value : Nat) :
    IsLocal fun _ => hexDigits flags count value := by
  induction count generalizing value with
  | zero => exact .pure value
  | succ count ih =>
    apply IsLocal.uncons (by simp [hexDigits])
    intro c
    simp only [hexDigits]
    split
    · exact (ih _).skipping flags
    · exact .error _

theorem isLocal_hexBraced (flags : Flags) (fuel : Nat) (value? : Option Nat) :
    IsLocal fun k => hexBraced flags (fuel + k) value? := by
  induction fuel generalizing value? with
  | zero => exact .of_error (by simp [hexBraced])
  | succ fuel ih =>
    apply IsLocal.uncons (by simp [hexBraced])
    intro c
    simp only [Nat.add_right_comm fuel 1, hexBraced]
    split
    · split
      · next value => exact (IsLocal.pure value).skipping flags
      · exact .error _
    · split
      · exact (ih _).skipping flags
      · exact .error _

theorem isLocal_charOf (value : Nat) (byte : Bool) :
    IsLocal fun _ rest => (charOf value).map fun c => (Primitive.literal c byte, rest) := by
  cases charOf value with
  | error e => exact .error e
  | ok c => exact .pure _

theorem isLocal_hexEscape (flags : Flags) (digits : Nat) :
    IsLocal fun _ => hexEscape flags digits := by
  have hbraced : IsLocal fun _ rest => hexBraced flags (rest.length + 1) none (flags.skip rest) :=
    .byLength (fun fuel rest => hexBraced flags fuel none (flags.skip rest))
      fun fuel => (isLocal_hexBraced flags fuel none).skipping flags
  apply IsLocal.branch flags (show '\x7b' ≠ ')' by decide)
    (hbraced.andThen fun value => isLocal_charOf value false)
    ((isLocal_hexDigits flags digits 0).andThen fun value => isLocal_charOf value (digits == 2))
  · intro k cs rest h
    simp only [hexEscape, h]
    cases hexBraced flags (rest.length + 1) none (flags.skip rest) with
    | error e => rfl
    | ok read => rfl
  · intro k cs h
    unfold hexEscape
    split
    · next hskip => simp [hskip] at h
    · cases hexDigits flags digits 0 (flags.skip cs) with
      | error e => rfl
      | ok read => rfl

theorem isLocal_boundaryName (flags : Flags) (fuel : Nat) (name : List Char) :
    IsLocal fun k => boundaryName flags (fuel + k) name := by
  induction fuel generalizing name with
  | zero => exact .of_error (by simp [boundaryName])
  | succ fuel ih =>
    apply IsLocal.uncons (by simp [boundaryName])
    intro c
    simp only [Nat.add_right_comm fuel 1, boundaryName]
    split
    · exact (ih _).skipping flags
    · split
      · split
        · next look _ => exact .pure look
        · exact .error _
      · exact .error _

theorem isLocal_boundaryEscape (flags : Flags) : IsLocal fun _ => boundaryEscape flags := by
  have hnamed : IsLocal fun _ rest =>
      (boundaryName flags (rest.length + 1) [] (flags.skip rest)).map fun read =>
        (Primitive.look read.1, read.2) :=
    .map Primitive.look (.byLength (fun fuel rest => boundaryName flags fuel [] (flags.skip rest))
      fun fuel => (isLocal_boundaryName flags fuel []).skipping flags)
  apply IsLocal.of_beyond {}
  intro cs x h
  cases cs with
  | nil =>
    refine .inr ⟨rfl, .look .wordBoundary, (Except.ok.inj h).symm, ?_, ?_⟩
    · rintro k s rfl
      rfl
    · rintro k s rfl
      rfl
  | cons d rest =>
    left
    by_cases hd : d = '\x7b'
    · -- A brace is only looked at, unless it names a boundary.
      rw [hd] at h ⊢
      cases hskip : flags.skip rest with
      | nil => simp [boundaryEscape, hskip] at h
      | cons c more =>
        by_cases hc : c.isAlpha || c == '-'
        · refine ⟨_, rest, hnamed, List.suffix_cons _ rest, ?_⟩
          intro k t
          simp only [boundaryEscape, List.cons_append, skip_cons_append hskip t, hc, if_true]
        · refine ⟨_, _, .pure (.look .wordBoundary), List.suffix_refl _, ?_⟩
          intro k t
          simp only [boundaryEscape, List.cons_append, skip_cons_append hskip t, hc]
          rfl
    · refine ⟨_, _, .pure (.look .wordBoundary), List.suffix_refl _, ?_⟩
      intro k t
      simp only [List.cons_append]
      unfold boundaryEscape
      split
      · next heq => exact absurd (List.cons.inj heq).1 hd
      · rfl

theorem isLocal_braced (flags : Flags) (fuel : Nat) (read : List Char) :
    IsLocal fun k => braced flags (fuel + k) read := by
  induction fuel generalizing read with
  | zero => exact .of_error (by simp [braced])
  | succ fuel ih =>
    apply IsLocal.uncons (by simp [braced])
    intro c
    simp only [Nat.add_right_comm fuel 1, braced]
    split
    · exact .pure _
    · exact (ih _).skipping flags

theorem isLocal_letterProperty : IsLocal fun _ => letterProperty := by
  apply IsLocal.uncons (by simp [letterProperty])
  intro c
  simp only [letterProperty]
  split
  · exact .error _
  · exact .pure _

theorem isLocal_property (flags : Flags) : IsLocal fun _ => property flags := by
  have hbraced : IsLocal fun _ rest =>
      (braced flags (rest.length + 1) [] (flags.skip rest)).map fun read =>
        (propertyOf read.1, read.2) :=
    .map propertyOf (.byLength (fun fuel rest => braced flags fuel [] (flags.skip rest))
      fun fuel => (isLocal_braced flags fuel []).skipping flags)
  apply IsLocal.branch flags (show '\x7b' ≠ ')' by decide) hbraced isLocal_letterProperty
  · intro k cs rest h
    simp only [property, h]
  · intro k cs h
    unfold property
    split
    · next hskip => simp [hskip] at h
    · rfl

variable [Engine]

theorem isLocal_unicodeClass (flags : Flags) (negated : Bool) :
    IsLocal fun _ => unicodeClass flags negated := by
  apply IsLocal.bind (fun read _ rest =>
    (propertyClass flags read.1 (negated != read.2)).map fun p => (p, rest)) (isLocal_property flags)
  · intro k cs e h
    simp only [unicodeClass, h]
  · intro k cs read rest h
    simp only [unicodeClass, h]
  · exact fun read => .lift (propertyClass flags read.1 (negated != read.2))

theorem isLocal_escape (flags : Flags) : IsLocal fun _ => escape flags := by
  apply IsLocal.uncons (by simp [escape])
  intro c
  simp only [escape]
  split
  · exact .error _
  · split
    · exact .pure _
    · split
      · exact isLocal_hexEscape flags 2
      · exact isLocal_hexEscape flags 4
      · exact isLocal_hexEscape flags 8
      all_goals first
        | exact IsLocal.lift _
        | exact IsLocal.pure _
        | exact isLocal_boundaryEscape flags
        | exact isLocal_unicodeClass flags _
        | exact IsLocal.error _

end Escapes

section Classes

variable {flags : Flags} {cs : List Char}

theorem leadingDashes_of_ne {c : Char} (hc : c ≠ '-') (fuel : Nat) (cls : OpenClass)
    (cs : List Char) : leadingDashes flags fuel cls (c :: cs) = (cls, c :: cs) := by
  unfold leadingDashes
  split
  · next heq => exact absurd (List.cons.inj heq).1 hc
  · rfl

theorem leadingDashes_append {fuel : Nat} (cls : OpenClass) (h : cs.length ≤ fuel) :
    let read := leadingDashes flags fuel cls cs
    read.2 <:+ cs ∧ (read.2 ≠ [] → ∀ t fuel', (cs ++ t).length ≤ fuel' →
      leadingDashes flags fuel' cls (cs ++ t) = (read.1, read.2 ++ t)) := by
  induction fuel generalizing cls cs with
  | zero =>
    obtain rfl : cs = [] := List.length_eq_zero_iff.mp (by omega)
    simp [leadingDashes]
  | succ fuel ih =>
    cases cs with
    | nil => simp [leadingDashes]
    | cons c cs =>
      by_cases hc : c = '-'
      · have hskip := skip_suffix flags cs
        have hlength : (flags.skip cs).length ≤ fuel := by
          have := hskip.length_le
          rw [List.length_cons] at h
          omega
        obtain ⟨hsuffix, happend⟩ := ih (cls.add (.flat (.single '-'))) hlength
        rw [hc]
        refine ⟨(hsuffix.trans hskip).trans (List.suffix_cons '-' cs), ?_⟩
        intro hrest t fuel' hfuel'
        have hmore : flags.skip cs ≠ [] := by
          intro hnil
          rw [hnil, List.suffix_nil] at hsuffix
          exact hrest (by rw [leadingDashes, hnil]; exact hsuffix)
        rw [List.cons_append, List.length_cons] at hfuel'
        obtain ⟨fuel', rfl⟩ : ∃ n, fuel' = n + 1 := ⟨fuel' - 1, by omega⟩
        have hlength' : (flags.skip cs ++ t).length ≤ fuel' := by
          have := hskip.length_le
          rw [List.length_append] at hfuel' ⊢
          omega
        rw [List.cons_append, leadingDashes, skip_append hmore]
        exact happend hrest t fuel' hlength'
      · rw [leadingDashes_of_ne hc]
        refine ⟨List.suffix_refl _, ?_⟩
        intro _ t fuel' _
        exact leadingDashes_of_ne hc fuel' cls (cs ++ t)

theorem openItems_of_ne (negated : Bool) (h : cs.head? ≠ some ']') :
    let read := leadingDashes flags cs.length (.start negated) cs
    openItems flags negated cs = if read.2.isEmpty then .error .unclosedClass else .ok read := by
  unfold openItems
  split
  · simp at h
  · rfl

theorem isLocal_openItems (flags : Flags) (negated : Bool) :
    IsLocal fun _ => openItems flags negated := by
  apply IsLocal.of_exact
  intro cs cls rest h
  by_cases hbracket : cs.head? = some ']'
  · obtain ⟨more, rfl⟩ := List.head?_eq_some_iff.mp hbracket
    simp only [openItems] at h ⊢
    split at h
    · contradiction
    · next hmore =>
      have hskip : flags.skip more ≠ [] := by simpa using hmore
      obtain ⟨rfl, rfl⟩ := Prod.mk.inj (Except.ok.inj h)
      refine ⟨(skip_suffix flags more).trans (List.suffix_cons ']' more), ?_⟩
      intro t
      simp only [List.cons_append, skip_append hskip]
      rw [if_neg (by simp [hskip])]
  · rw [openItems_of_ne negated hbracket] at h
    split at h
    · contradiction
    · next hmore =>
      have hrest : (leadingDashes flags cs.length (.start negated) cs).2 ≠ [] := by
        simpa using hmore
      obtain ⟨hsuffix, happend⟩ :=
        leadingDashes_append (.start negated) (Nat.le_refl cs.length)
      rw [Except.ok.inj h] at hrest hsuffix happend
      refine ⟨hsuffix, ?_⟩
      intro t
      have hhead : (cs ++ t).head? ≠ some ']' := by
        rw [List.head?_append_of_ne_nil cs (hsuffix.ne_nil hrest)]
        exact hbracket
      rw [openItems_of_ne negated hhead, happend hrest t _ (Nat.le_refl _)]
      simp [hrest]

theorem isLocal_openClass (flags : Flags) : IsLocal fun _ => openClass flags := by
  apply IsLocal.branch flags (show '^' ≠ ')' by decide)
    ((isLocal_openItems flags true).skipping flags) (isLocal_openItems flags false)
  · intro k cs rest h
    unfold openClass
    rw [h]
    rfl
  · intro k cs h
    unfold openClass
    split
    · next hskip => simp [hskip] at h
    · rfl

theorem not_mem_of_named? {name : List Char} {cls : CharClass}
    (h : CharClass.named? (String.ofList name) = some cls) : ']' ∉ name := by
  have hname : ∀ {s : String}, String.ofList name = s → ']' ∉ s.toList → ']' ∉ name := by
    rintro s rfl hs
    simpa using hs
  unfold CharClass.named? at h
  split at h
  all_goals first
    | contradiction
    | exact hname ‹_› (by decide)

section ClassName

variable {name : List Char} (negated : Bool)

theorem className?_of_not_mem (h : ':' ∉ cs) : className? flags negated cs = none := by
  unfold className?
  rw [dropWhile_bne_of_not_mem h]

theorem className?_closed (h : ':' ∉ name) (more : List Char) :
    className? flags negated (name ++ ':' :: ']' :: more) =
      (CharClass.named? (String.ofList name)).map fun cls =>
        (if negated then .compl (flags.foldClass cls) else flags.foldClass cls, more) := by
  unfold className?
  rw [takeWhile_bne h, dropWhile_bne h]
  rfl

theorem className?_of_ne {rest : List Char} (h : ':' ∉ name) (hrest : rest.head? ≠ some ']') :
    className? flags negated (name ++ ':' :: rest) = none := by
  unfold className?
  rw [dropWhile_bne h]
  split
  · next heq =>
    obtain ⟨-, rfl⟩ := List.cons.inj heq
    simp at hrest
  · rfl

theorem className?_append (h : ']' ∈ cs) (t : List Char) :
    className? flags negated (cs ++ t) =
      (className? flags negated cs).map fun read => (read.1, read.2 ++ t) := by
  -- A name with a bracket in it names nothing, so a class is named before the bracket or not at
  -- all.
  have hunknown : ∀ name : List Char, ']' ∈ name → CharClass.named? (String.ofList name) = none := by
    intro name hname
    cases hcls : CharClass.named? (String.ofList name) with
    | none => rfl
    | some cls => exact absurd hname (not_mem_of_named? hcls)
  by_cases hcolon : ':' ∈ cs
  · obtain ⟨name, rest, rfl, hname⟩ := List.eq_append_cons_of_mem hcolon
    rw [List.append_assoc, List.cons_append]
    by_cases hrest : rest.head? = some ']'
    · obtain ⟨more, rfl⟩ := List.head?_eq_some_iff.mp hrest
      rw [List.cons_append, className?_closed negated hname, className?_closed negated hname,
        Option.map_map]
      rfl
    · rw [className?_of_ne negated hname hrest, Option.map_none]
      cases rest with
      | nil =>
        -- What is added can close the name, but then the bracket is in the name.
        have hbracket : ']' ∈ name := by simpa using h
        by_cases ht : t.head? = some ']'
        · obtain ⟨more, rfl⟩ := List.head?_eq_some_iff.mp ht
          rw [List.nil_append, className?_closed negated hname, hunknown name hbracket]
          rfl
        · exact className?_of_ne negated hname ht
      | cons c rest => exact className?_of_ne negated hname hrest
  · rw [className?_of_not_mem negated hcolon]
    by_cases hlater : ':' ∈ t
    · obtain ⟨name, rest, rfl, hname⟩ := List.eq_append_cons_of_mem hlater
      have hnone := hunknown (cs ++ name) (List.mem_append_left name h)
      have hboth : ':' ∉ cs ++ name := by simp [hcolon, hname]
      rw [← List.append_assoc]
      by_cases hrest : rest.head? = some ']'
      · obtain ⟨more, rfl⟩ := List.head?_eq_some_iff.mp hrest
        rw [className?_closed negated hboth, hnone]
        rfl
      · exact className?_of_ne negated hboth hrest
    · exact className?_of_not_mem negated (by simp [hcolon, hlater])

theorem suffix_of_className? {item : CharClass} {more : List Char}
    (h : className? flags negated cs = some (item, more)) : ']' :: more <:+ cs := by
  unfold className? at h
  split at h
  · next rest heq =>
    obtain ⟨cls, -, hread⟩ := Option.map_eq_some_iff.mp h
    rw [← (Prod.mk.inj hread).2]
    have hsuffix := List.dropWhile_suffix (l := cs) (· != ':')
    rw [heq] at hsuffix
    exact (List.suffix_cons ':' _).trans hsuffix
  · contradiction

end ClassName

theorem namedClass?_of_ne {c : Char} (hc : c ≠ ':') (cs : List Char) :
    namedClass? flags (c :: cs) = none := by
  unfold namedClass?
  split
  · next heq => exact absurd (List.cons.inj heq).1 hc
  · next heq => exact absurd (List.cons.inj heq).1 hc
  · rfl

theorem namedClass?_positive {d : Char} (hd : d ≠ '^') (cs : List Char) :
    namedClass? flags (':' :: d :: cs) = className? flags false (d :: cs) := by
  unfold namedClass?
  split
  · next heq =>
    obtain ⟨-, heq⟩ := List.cons.inj heq
    exact absurd (List.cons.inj heq).1 hd
  · next heq =>
    obtain ⟨-, rfl⟩ := List.cons.inj heq
    rfl
  · next hother => exact absurd rfl (hother _)

theorem namedClass?_append (h : ']' ∈ cs) (t : List Char) :
    namedClass? flags (cs ++ t) =
      (namedClass? flags cs).map fun read => (read.1, read.2 ++ t) := by
  cases cs with
  | nil => simp at h
  | cons c cs =>
    by_cases hc : c = ':'
    · rw [hc] at h ⊢
      have hmem : ']' ∈ cs := by simpa using h
      cases cs with
      | nil => simp at hmem
      | cons d cs =>
        by_cases hd : d = '^'
        · rw [hd] at hmem ⊢
          exact className?_append true (by simpa using hmem) t
        · rw [List.cons_append, List.cons_append, namedClass?_positive hd, namedClass?_positive hd]
          exact className?_append false hmem t
    · rw [List.cons_append, namedClass?_of_ne hc, namedClass?_of_ne hc]
      rfl

theorem suffix_of_namedClass? {item : CharClass} {more : List Char}
    (h : namedClass? flags cs = some (item, more)) : ']' :: more <:+ cs := by
  unfold namedClass? at h
  split at h
  · next rest =>
    exact ((suffix_of_className? true h).trans (List.suffix_cons '^' rest)).trans
      (List.suffix_cons ':' _)
  · next rest _ => exact (suffix_of_className? false h).trans (List.suffix_cons ':' rest)
  · contradiction

theorem classOp?_append (c d : Char) (rest t : List Char) :
    classOp? (c :: d :: rest ++ t) =
      (classOp? (c :: d :: rest)).map fun read => (read.1, read.2 ++ t) := by
  rw [List.cons_append, List.cons_append, classOp?, classOp?]
  split
  · rw [Option.map_map]
    rfl
  · rfl

theorem suffix_of_classOp? {op : ClassOp} {rest : List Char} (h : classOp? cs = some (op, rest)) :
    rest <:+ cs := by
  unfold classOp? at h
  split at h
  · next c d more =>
    split at h
    · obtain ⟨op', -, hread⟩ := Option.map_eq_some_iff.mp h
      rw [← (Prod.mk.inj hread).2]
      exact (List.suffix_cons d more).trans (List.suffix_cons c _)
    · contradiction
  · contradiction

variable [Engine]

theorem classPrimitive_of_ne {c : Char} (hc : c ≠ '\\') (rest : List Char) :
    classPrimitive flags (c :: rest) = .ok (.literal c false, rest) := by
  unfold classPrimitive
  split
  · contradiction
  · next heq => exact absurd (List.cons.inj heq).1 hc
  · next heq =>
    obtain ⟨rfl, rfl⟩ := List.cons.inj heq
    rfl

theorem isLocal_classPrimitive (flags : Flags) : IsLocal fun _ => classPrimitive flags := by
  apply IsLocal.uncons (by simp [classPrimitive])
  intro c
  by_cases hc : c = '\\'
  · rw [hc]
    exact isLocal_escape flags
  · simp only [classPrimitive_of_ne hc]
    exact .pure _

theorem isLocal_rangeAfter (flags : Flags) (first : Primitive) :
    IsLocal fun _ => rangeAfter flags first := by
  have hsingle : IsLocal fun _ rest => (classItem flags first).map fun cls => (cls, rest) := .lift _
  have hlast := (isLocal_classPrimitive flags).andThen fun last =>
    IsLocal.lift (rangeBetween flags first last)
  apply IsLocal.of_beyond flags
  intro cs x h
  left
  have hsuffix := skip_suffix flags cs
  cases hskip : flags.skip cs with
  | nil => simp [rangeAfter, hskip] at h
  | cons c rest =>
    rw [hskip] at hsuffix
    by_cases hc : c = '-'
    · rw [hc] at hskip hsuffix
      have hrest := (List.suffix_cons '-' rest).trans hsuffix
      cases hmore : flags.skip rest with
      | nil => simp [rangeAfter, hskip, hmore] at h
      | cons d more =>
        by_cases hd : d = ']' ∨ d = '-'
        · refine ⟨_, _, hsingle, hsuffix, ?_⟩
          intro k t
          rcases hd with rfl | rfl
          · simp only [rangeAfter, skip_cons_append hskip t, skip_cons_append hmore t]
            rfl
          · simp only [rangeAfter, skip_cons_append hskip t, skip_cons_append hmore t]
            rfl
        · rw [not_or] at hd
          have hmore' := (skip_suffix flags rest).trans hrest
          rw [hmore] at hmore'
          refine ⟨_, _, hlast, hmore', ?_⟩
          intro k t
          simp only [rangeAfter, skip_cons_append hskip t, skip_cons_append hmore t]
          split
          · contradiction
          · next heq => exact absurd (List.cons.inj heq).1 hd.1
          · next heq => exact absurd (List.cons.inj heq).1 hd.2
          · rw [List.cons_append]
            cases classPrimitive flags (d :: (more ++ t)) with
            | error e => rfl
            | ok last => rfl
    · refine ⟨_, _, hsingle, hsuffix, ?_⟩
      intro k t
      simp only [rangeAfter, skip_cons_append hskip t]
      split
      · contradiction
      · next heq => exact absurd (List.cons.inj heq).1 hc
      · rfl

theorem isLocal_classRange (flags : Flags) : IsLocal fun _ => classRange flags := by
  apply IsLocal.bind _ (isLocal_classPrimitive flags) ?_ ?_ (isLocal_rangeAfter flags)
  · intro k cs e h
    simp only [classRange, h]
  · intro k cs first rest h
    simp only [classRange, h]

theorem classRange_singleton (c : Char) (read : CharClass × List Char) :
    classRange flags [c] ≠ .ok read := by
  -- After an item there has to be more, because a bracket has to be closed.
  by_cases hc : c = '\\'
  · rw [hc]
    simp [classRange, classPrimitive, escape]
  · simp [classRange, classPrimitive_of_ne hc, rangeAfter, skip_nil]

theorem mem_of_classLoop {fuel : Nat} {outer : List OpenClass} {cls : OpenClass}
    {read : Nested CharClass × List Char} (h : classLoop flags fuel outer cls cs = .ok read) :
    ']' ∈ flags.skip cs := by
  -- The closing bracket is in what is left after the blanks.
  induction fuel generalizing outer cls cs with
  | zero => simp [classLoop] at h
  | succ fuel ih =>
    have hlater : ∀ {outer cls rest}, classLoop flags fuel outer cls rest = .ok read → ']' ∈ rest :=
      fun h => (skip_suffix flags _).subset (ih h)
    rw [classLoop] at h
    split at h
    · contradiction
    · next rest heq =>
      rw [heq]
      apply List.mem_cons_of_mem
      split at h
      · next item more hnamed => exact (suffix_of_namedClass? hnamed).subset List.mem_cons_self
      · split at h
        · contradiction
        · next inner more hopen => exact ((isLocal_openClass flags).suffix hopen).subset (hlater h)
    · next rest heq =>
      rw [heq]
      exact List.mem_cons_self
    · split at h
      · next op rest hop => exact (suffix_of_classOp? hop).subset (hlater h)
      · split at h
        · contradiction
        · next item rest hrange =>
          exact ((isLocal_classRange flags).suffix hrange).subset (hlater h)

section Rounds

variable {fuel : Nat} {outer : List OpenClass} {cls : OpenClass} {c : Char} {rest : List Char}
  {read : Nested CharClass × List Char}

theorem classLoop_inner (hskip : flags.skip cs = '[' :: rest) (hnamed : namedClass? flags rest = none) :
    classLoop flags (fuel + 1) outer cls cs =
      (openClass flags rest).bind fun inner =>
        classLoop flags fuel (cls :: outer) inner.1 inner.2 := by
  simp only [classLoop, hskip, hnamed]
  cases openClass flags rest with
  | error e => rfl
  | ok inner => rfl

theorem classLoop_of_ne (hopen : c ≠ '[') (hclose : c ≠ ']') (hskip : flags.skip cs = c :: rest) :
    classLoop flags (fuel + 1) outer cls cs =
      match classOp? (c :: rest) with
      | some (op, rest) => classLoop flags fuel outer (cls.operate flags op) rest
      | none =>
        (classRange flags (c :: rest)).bind fun item =>
          classLoop flags fuel outer (cls.add (.flat item.1)) item.2 := by
  simp only [classLoop, hskip]
  split
  · contradiction
  · next heq => exact absurd (List.cons.inj heq).1 hopen
  · next heq => exact absurd (List.cons.inj heq).1 hclose
  · cases classOp? (c :: rest) with
    | some read => rfl
    | none =>
      cases classRange flags (c :: rest) with
      | error e => rfl
      | ok item => rfl

-- What is left to read after a round is read with one round less.
variable (hlater : ∀ outer cls, IsLocal fun k => classLoop flags (fuel + k) outer cls)

include hlater

theorem beyond_classLoop_open (h : classLoop flags (fuel + 1) outer cls cs = .ok read)
    (hskip : flags.skip cs = '[' :: rest) :
    IsLocal.Beyond (fun k => classLoop flags (fuel + k + 1) outer cls) cs := by
  have hsuffix := skip_suffix flags cs
  rw [hskip] at hsuffix
  have hrest := (List.suffix_cons '[' rest).trans hsuffix
  have hbracket : ']' ∈ rest := by simpa [hskip] using mem_of_classLoop h
  cases hnamed : namedClass? flags rest with
  | some named =>
    obtain ⟨item, more⟩ := named
    have hmore := (List.suffix_cons ']' more).trans (suffix_of_namedClass? hnamed)
    simp only [classLoop, hskip, hnamed] at h
    split at h
    · next hascii =>
      refine ⟨_, more, hlater outer (cls.add (.flat item)), hmore.trans hrest, ?_⟩
      intro k t
      simp only [classLoop, skip_cons_append hskip t, namedClass?_append hbracket t, hnamed,
        Option.map_some, hascii, if_true]
    · contradiction
  | none =>
    refine ⟨_, rest, (isLocal_openClass flags).andThen (hlater (cls :: outer)), hrest, ?_⟩
    intro k t
    exact classLoop_inner (skip_cons_append hskip t) (by rw [namedClass?_append hbracket, hnamed]; rfl)

theorem beyond_classLoop_close (h : classLoop flags (fuel + 1) outer cls cs = .ok read)
    (hskip : flags.skip cs = ']' :: rest) :
    IsLocal.Beyond (fun k => classLoop flags (fuel + k + 1) outer cls) cs := by
  have hsuffix := skip_suffix flags cs
  rw [hskip] at hsuffix
  have hrest := (List.suffix_cons ']' rest).trans hsuffix
  simp only [classLoop, hskip] at h
  cases hclosed : cls.close flags with
  | error e => simp [hclosed] at h
  | ok closed =>
    cases outer with
    | nil =>
      refine ⟨_, rest, .pure closed, hrest, ?_⟩
      intro k t
      simp only [classLoop, skip_cons_append hskip t, hclosed]
    | cons around outer =>
      refine ⟨_, rest, hlater outer (around.add closed), hrest, ?_⟩
      intro k t
      simp only [classLoop, skip_cons_append hskip t, hclosed]

theorem beyond_classLoop_of_ne (h : classLoop flags (fuel + 1) outer cls cs = .ok read)
    (hopen : c ≠ '[') (hclose : c ≠ ']') (hskip : flags.skip cs = c :: rest) :
    IsLocal.Beyond (fun k => classLoop flags (fuel + k + 1) outer cls) cs := by
  have hsuffix := skip_suffix flags cs
  rw [hskip] at hsuffix
  rw [classLoop_of_ne hopen hclose hskip] at h
  cases rest with
  | nil =>
    -- The last character cannot be an item, because the bracket is not closed after it.
    cases hrange : classRange flags [c] with
    | error e => simp [classOp?, hrange, Except.bind] at h
    | ok item => exact absurd hrange (classRange_singleton c item)
  | cons d rest =>
    have happend := classOp?_append c d rest
    cases hop : classOp? (c :: d :: rest) with
    | some next =>
      refine ⟨_, next.2, hlater outer (cls.operate flags next.1),
        (suffix_of_classOp? hop).trans hsuffix, ?_⟩
      intro k t
      refine (classLoop_of_ne hopen hclose (skip_cons_append hskip t)).trans ?_
      rw [← List.cons_append, happend, hop]
      rfl
    | none =>
      refine ⟨_, _, (isLocal_classRange flags).andThen fun item => hlater outer (cls.add (.flat item)),
        hsuffix, ?_⟩
      intro k t
      refine (classLoop_of_ne hopen hclose (skip_cons_append hskip t)).trans ?_
      rw [← List.cons_append, happend, hop]
      rfl

end Rounds

theorem isLocal_classLoop (flags : Flags) (fuel : Nat) (outer : List OpenClass) (cls : OpenClass) :
    IsLocal fun k => classLoop flags (fuel + k) outer cls := by
  induction fuel generalizing outer cls with
  | zero => exact .of_error (by simp [classLoop])
  | succ fuel ih =>
    apply IsLocal.of_beyond flags
    intro cs x h
    left
    simp only [Nat.add_right_comm fuel 1, Nat.add_zero] at h ⊢
    cases hskip : flags.skip cs with
    | nil => simp [classLoop, hskip] at h
    | cons c rest =>
      by_cases hopen : c = '['
      · rw [hopen] at hskip
        exact beyond_classLoop_open ih h hskip
      · by_cases hclose : c = ']'
        · rw [hclose] at hskip
          exact beyond_classLoop_close ih h hskip
        · exact beyond_classLoop_of_ne ih h hopen hclose hskip

theorem isLocal_bracketed (flags : Flags) : IsLocal fun _ => bracketed flags := by
  apply IsLocal.bind _ (isLocal_openClass flags) ?_ ?_ fun cls =>
    IsLocal.byLength (fun fuel => classLoop flags fuel [] cls)
      fun fuel => isLocal_classLoop flags fuel [] cls
  · intro k cs e h
    simp only [bracketed, h]
  · intro k cs value rest h
    simp only [bracketed, h]

end Classes

section Groups

theorem isLocal_flagList (flags : Flags) (used : List Char) :
    IsLocal fun _ => flagList flags used := by
  apply IsLocal.of_exact
  intro cs a rest h
  induction cs generalizing flags used with
  | nil => simp [flagList] at h
  | cons c cs ih =>
    have hlater := List.suffix_cons c cs
    simp only [List.cons_append, flagList] at h ⊢
    split at h
    · next hend =>
      split at h
      · contradiction
      · next hdash =>
        obtain ⟨rfl, rfl⟩ := Prod.mk.inj (Except.ok.inj h)
        refine ⟨hlater, fun t => ?_⟩
        rw [if_pos hend, if_neg hdash]
    · next hend =>
      split at h
      · contradiction
      · next hused =>
        split at h
        · next hdash =>
          obtain ⟨hsuffix, happend⟩ := ih _ _ h
          refine ⟨hsuffix.trans hlater, fun t => ?_⟩
          rw [if_neg hend, if_neg hused, if_pos hdash, happend t]
        · next hdash =>
          split at h
          · next hflag =>
            obtain ⟨hsuffix, happend⟩ := ih _ _ h
            refine ⟨hsuffix.trans hlater, fun t => ?_⟩
            rw [if_neg hend, if_neg hused, if_neg hdash, if_pos hflag, happend t]
          · contradiction

theorem isLocal_groupName (names : List (List Char)) : IsLocal fun _ => groupName names := by
  apply IsLocal.of_exact
  intro cs name rest h
  by_cases hmem : '>' ∈ cs
  · obtain ⟨before, after, rfl, hbefore⟩ := List.eq_append_cons_of_mem hmem
    simp only [groupName, List.append_assoc, List.cons_append, takeWhile_bne hbefore,
      dropWhile_bne hbefore] at h ⊢
    cases before with
    | nil => contradiction
    | cons c more =>
      dsimp only at h ⊢
      split at h
      · next hvalid =>
        obtain ⟨rfl, rfl⟩ := Prod.mk.inj (Except.ok.inj h)
        refine ⟨(List.suffix_cons '>' _).trans (List.suffix_append _ _), fun t => ?_⟩
        rw [if_pos hvalid]
      · contradiction
  · simp [groupName, dropWhile_bne_of_not_mem hmem] at h

theorem isLocal_flagOpening (flags : Flags) : IsLocal fun _ => flagOpening flags := by
  apply IsLocal.bind (fun read _ rest =>
    match read with
    | (changed, _, .colon) => .ok (.group changed none, rest)
    | (changed, used, .parenthesis) =>
      if used.isEmpty then .error .nothingToRepeat else .ok (.setFlags changed, rest))
    (isLocal_flagList flags [])
  · intro k cs e h
    simp only [flagOpening, h]
  · intro k cs read rest h
    obtain ⟨changed, used, last⟩ := read
    cases last with
    | _ => simp only [flagOpening, h]
  · intro read
    obtain ⟨changed, used, last⟩ := read
    cases last with
    | colon => exact .pure _
    | parenthesis =>
      cases used with
      | nil => exact .error _
      | cons => exact .pure _

theorem isLocal_namedOpening (flags : Flags) (names : List (List Char)) :
    IsLocal fun _ => namedOpening flags names :=
  IsLocal.map (fun name => Opening.group flags (some name)) (isLocal_groupName names)

theorem markedOpening_name {d : Char} (heq : d ≠ '=') (hne : d ≠ '!') (flags : Flags)
    (names : List (List Char)) (rest : List Char) :
    markedOpening flags names ('<' :: d :: rest) = namedOpening flags names (d :: rest) := by
  simp [markedOpening, heq, hne]

theorem markedOpening_flags {c : Char} (h : c ∉ ['=', '!', '<', 'P']) (flags : Flags)
    (names : List (List Char)) (rest : List Char) :
    markedOpening flags names (c :: rest) = flagOpening flags (c :: rest) := by
  simp_all [markedOpening]

theorem isLocal_markedOpening (flags : Flags) (names : List (List Char)) :
    IsLocal fun _ => markedOpening flags names := by
  have hname := isLocal_namedOpening flags names
  apply IsLocal.of_beyond {}
  intro cs x h
  left
  cases cs with
  | nil => simp [markedOpening, flagOpening, flagList] at h
  | cons c rest =>
    by_cases hc : c ∈ ['=', '!', '<', 'P']
    · simp only [List.mem_cons, List.not_mem_nil, or_false] at hc
      obtain rfl | rfl | rfl | rfl := hc
      · contradiction
      · contradiction
      · cases rest with
        | nil => contradiction
        | cons d rest =>
          by_cases hd : d = '=' ∨ d = '!'
          · obtain rfl | rfl := hd
            · contradiction
            · contradiction
          · rw [not_or] at hd
            refine ⟨_, d :: rest, hname, List.suffix_cons '<' _, fun k t => ?_⟩
            exact markedOpening_name hd.1 hd.2 flags names (rest ++ t)
      · -- The letter is no flag, so it is the start of a name.
        obtain ⟨rest, rfl⟩ : ∃ more, rest = '<' :: more := by
          unfold markedOpening at h
          split at h
          all_goals simp_all [flagOpening, flagList, isFlag]
        refine ⟨_, rest, hname, ?_, fun k t => rfl⟩
        exact (List.suffix_cons '<' rest).trans (List.suffix_cons 'P' _)
    · refine ⟨_, _, isLocal_flagOpening flags, List.suffix_refl _, fun k t => ?_⟩
      exact markedOpening_flags hc flags names (rest ++ t)

theorem isLocal_opening (flags : Flags) (names : List (List Char)) :
    IsLocal fun _ => opening flags names := by
  apply IsLocal.branch flags (show '?' ≠ ')' by decide) (isLocal_markedOpening flags names)
    (.pure (.group flags none))
  · intro k cs rest h
    unfold opening
    rw [h]
    rfl
  · intro k cs h
    unfold opening
    split
    · next hskip => simp [hskip] at h
    · rfl

end Groups

section Counts

variable {flags : Flags} {cs : List Char}

theorem digits_of_not {c : Char} (hc : ¬ c.isDigit) (fuel : Nat) (read cs : List Char) :
    digits flags fuel read (c :: cs) = (read.reverse, c :: cs) := by
  cases fuel with
  | zero => rfl
  | succ fuel => rw [digits, if_neg hc]

theorem digits_append (flags : Flags) {fuel : Nat} (read : List Char) (h : cs.length ≤ fuel) :
    let found := digits flags fuel read cs
    found.2 <:+ cs ∧ (found.2 ≠ [] → ∀ t fuel', (cs ++ t).length ≤ fuel' →
      digits flags fuel' read (cs ++ t) = (found.1, found.2 ++ t)) := by
  induction fuel generalizing read cs with
  | zero =>
    obtain rfl : cs = [] := List.length_eq_zero_iff.mp (by omega)
    simp [digits]
  | succ fuel ih =>
    cases cs with
    | nil => simp [digits]
    | cons c cs =>
      by_cases hc : c.isDigit
      · have hskip := skip_suffix flags cs
        have hlength : (flags.skip cs).length ≤ fuel := by
          have := hskip.length_le
          rw [List.length_cons] at h
          omega
        obtain ⟨hsuffix, happend⟩ := ih (c :: read) hlength
        rw [digits, if_pos hc]
        refine ⟨(hsuffix.trans hskip).trans (List.suffix_cons c cs), ?_⟩
        intro hrest t fuel' hfuel'
        have hmore : flags.skip cs ≠ [] := hsuffix.ne_nil hrest
        rw [List.cons_append, List.length_cons] at hfuel'
        obtain ⟨fuel', rfl⟩ : ∃ n, fuel' = n + 1 := ⟨fuel' - 1, by omega⟩
        have hlength' : (flags.skip cs ++ t).length ≤ fuel' := by
          have := hskip.length_le
          rw [List.length_append] at hfuel' ⊢
          omega
        rw [List.cons_append, digits, if_pos hc, skip_append hmore]
        exact happend hrest t fuel' hlength'
      · rw [digits_of_not hc]
        refine ⟨List.suffix_refl _, ?_⟩
        intro _ t fuel' _
        exact digits_of_not hc fuel' read (cs ++ t)

theorem dropWhile_append_of_ne_nil {p : Char → Bool} (h : cs.dropWhile p ≠ []) (t : List Char) :
    (cs ++ t).dropWhile p = cs.dropWhile p ++ t := by
  rw [List.dropWhile_append, if_neg (by simpa using h)]

theorem decimal_append (flags : Flags) (cs : List Char) :
    (decimal flags cs).2 <:+ cs ∧ ((decimal flags cs).2 ≠ [] → ∀ t,
      decimal flags (cs ++ t) = ((decimal flags cs).1, (decimal flags cs).2 ++ t)) := by
  have hstart := List.dropWhile_suffix (l := cs) isBlank
  obtain ⟨hdigits, happend⟩ :=
    digits_append flags [] (Nat.le_refl (cs.dropWhile isBlank).length)
  have hblank := List.dropWhile_suffix (l := (digits flags (cs.dropWhile isBlank).length []
    (cs.dropWhile isBlank)).2) isBlank
  have hskip := skip_suffix flags ((digits flags (cs.dropWhile isBlank).length []
    (cs.dropWhile isBlank)).2.dropWhile isBlank)
  refine ⟨((hskip.trans hblank).trans hdigits).trans hstart, ?_⟩
  intro hrest t
  have hafter := hskip.ne_nil hrest
  have hread := hblank.ne_nil hafter
  have hcs := hdigits.ne_nil hread
  simp only [decimal, dropWhile_append_of_ne_nil hcs, happend hread t _ (Nat.le_refl _),
    dropWhile_append_of_ne_nil hafter, skip_append hrest]

theorem isLocal_writtenBound (flags : Flags) (least : Nat) :
    IsLocal fun _ => writtenBound flags least := by
  apply IsLocal.of_exact
  intro cs a rest h
  obtain ⟨hsuffix, happend⟩ := decimal_append flags cs
  unfold writtenBound at h ⊢
  split at h
  · next most after hread =>
    rw [hread] at hsuffix happend
    split at h
    · next hle =>
      obtain ⟨rfl, rfl⟩ := Prod.mk.inj (Except.ok.inj h)
      refine ⟨(List.suffix_cons _ after).trans hsuffix, fun t => ?_⟩
      rw [happend (List.cons_ne_nil _ after) t]
      exact if_pos hle
    · contradiction
  · contradiction

theorem isLocal_upperBound (flags : Flags) (least : Nat) :
    IsLocal fun _ => upperBound flags least := by
  apply IsLocal.branch flags (show '\x7d' ≠ ')' by decide) (.pure (least, none))
    (isLocal_writtenBound flags least)
  · intro k cs rest h
    unfold upperBound
    rw [h]
    rfl
  · intro k cs h
    unfold upperBound
    split
    · next hskip => simp [hskip] at h
    · rfl

theorem isLocal_bounds (flags : Flags) : IsLocal fun _ => bounds flags := by
  apply IsLocal.of_beyond {}
  intro cs a h
  left
  obtain ⟨hsuffix, happend⟩ := decimal_append flags (flags.skip cs)
  cases hread : decimal flags (flags.skip cs) with
  | mk least? after =>
    rw [hread] at hsuffix happend
    simp only [bounds, hread] at h
    cases least? with
    | none => contradiction
    | some least =>
      cases after with
      | nil => contradiction
      | cons c after =>
        have hskip : flags.skip cs ≠ [] := hsuffix.ne_nil (List.cons_ne_nil c after)
        have happend := happend (List.cons_ne_nil c after)
        have hafter := ((List.suffix_cons c after).trans hsuffix).trans (skip_suffix flags cs)
        by_cases hbrace : c = '\x7d'
        · rw [hbrace] at happend
          refine ⟨_, after, .pure (least, some least), hafter, fun k t => ?_⟩
          simp only [bounds, skip_append hskip, happend, List.cons_append]
        · by_cases hcomma : c = ','
          · rw [hcomma] at happend
            refine ⟨_, after, isLocal_upperBound flags least, hafter, fun k t => ?_⟩
            simp only [bounds, skip_append hskip, happend, List.cons_append]
          · simp [hbrace, hcomma] at h

theorem isLocal_skipLazy : IsLocal fun _ cs => (.ok ((), skipLazy cs) : Reader Unit) := by
  apply IsLocal.branch {} (show '?' ≠ ')' by decide) (.pure ()) (.pure ())
  · rintro k cs rest rfl
    rfl
  · intro k cs h
    unfold skipLazy
    split
    · simp [Flags.skip] at h
    · rfl

end Counts

end Pattern
end CursorQuery
