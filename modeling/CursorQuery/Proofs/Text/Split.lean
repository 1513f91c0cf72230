import CursorQuery.Text.Split
import Mathlib.Data.List.TakeWhile

/-!
This module contains how the parts of a scoped name follow from the texts that it is put together from:
at a `::` the parts of the text before it and of the text after it stand one after the other, and white
space around it makes no difference.
-/

namespace CursorQuery
namespace Text

open Character

theorem consHead_append {α : Type} (a : α) {parts : List (List α)} (h : parts ≠ [])
    (later : List (List α)) : consHead a (parts ++ later) = consHead a parts ++ later := by
  cases parts with
  | nil => contradiction
  | cons part rest => rfl

theorem splitColons_ne_nil (cs : List Char) : splitColons cs ≠ [] := by
  fun_cases splitColons cs with
  | case1 => exact List.cons_ne_nil _ _
  | case2 cs => exact List.cons_ne_nil _ _
  | case3 c cs =>
    unfold consHead
    split
    · exact List.cons_ne_nil _ _
    · exact List.cons_ne_nil _ _

theorem splitColons_cons {c : Char} {cs : List Char} (h : c = ':' → cs.head? ≠ some ':') :
    splitColons (c :: cs) = consHead c (splitColons cs) := by
  rw [splitColons]
  rintro cs' rfl rfl
  exact h rfl rfl

theorem splitColons_eq_singleton {cs : List Char} (h : ':' ∉ cs) : splitColons cs = [cs] := by
  induction cs with
  | nil => rfl
  | cons c cs ih =>
    rw [List.mem_cons, not_or] at h
    rw [splitColons_cons fun hc => absurd hc.symm h.1, ih h.2]
    rfl

theorem splitColons_append_colons {cs : List Char} (h : cs.getLast? ≠ some ':') (later : List Char) :
    splitColons (cs ++ ':' :: ':' :: later) = splitColons cs ++ splitColons later := by
  fun_induction splitColons cs with
  | case1 => rfl
  | case2 cs ih =>
    have hlast : cs.getLast? ≠ some ':' := by
      cases cs with
      | nil => exact absurd rfl h
      | cons c cs => simpa [List.getLast?_cons] using h
    rw [List.cons_append, List.cons_append, splitColons, ih hlast, List.cons_append]
  | case3 c cs hcolons ih =>
    cases cs with
    | nil =>
      have hc : c ≠ ':' := fun hc => h (by rw [hc]; rfl)
      rw [List.cons_append, splitColons_cons fun hc' => absurd hc' hc]
      rfl
    | cons d cs =>
      have hlast : (d :: cs).getLast? ≠ some ':' := by simpa [List.getLast?_cons] using h
      rw [List.cons_append, splitColons_cons, ih hlast, consHead_append c (splitColons_ne_nil _)]
      rintro rfl hd
      exact hcolons cs rfl (by rw [Option.some.inj hd])

theorem exists_splitColons_append (cs : List Char) {gap : List Char} (hgap : ':' ∉ gap) :
    ∃ before last, splitColons cs = before ++ [last]
      ∧ splitColons (cs ++ gap) = before ++ [last ++ gap] := by
  fun_induction splitColons cs with
  | case1 => exact ⟨[], [], rfl, splitColons_eq_singleton hgap⟩
  | case2 cs ih =>
    obtain ⟨before, last, hcs, hboth⟩ := ih
    refine ⟨[] :: before, last, by rw [hcs]; rfl, ?_⟩
    rw [List.cons_append, List.cons_append, splitColons, hboth]
    rfl
  | case3 c cs hcolons ih =>
    obtain ⟨before, last, hcs, hboth⟩ := ih
    have hcons : splitColons (c :: (cs ++ gap)) = consHead c (splitColons (cs ++ gap)) := by
      apply splitColons_cons
      rintro rfl hhead
      cases cs with
      | nil => exact hgap (List.mem_of_head? hhead)
      | cons d cs => exact hcolons cs rfl (by rw [Option.some.inj hhead])
    rw [List.cons_append, hcons, hcs, hboth]
    cases before with
    | nil => exact ⟨[], c :: last, rfl, rfl⟩
    | cons part before => exact ⟨(c :: part) :: before, last, rfl, rfl⟩

theorem ne_colon_of_isBlank {c : Char} (h : isBlank c) : c ≠ ':' := by
  rintro rfl
  revert h
  decide

theorem trimEndChars_append {gap : List Char} (h : ∀ c ∈ gap, isBlank c) (cs : List Char) :
    trimEndChars (cs ++ gap) = trimEndChars cs := by
  unfold trimEndChars
  rw [List.reverse_append, List.dropWhile_append_of_pos]
  simpa using h

theorem trimChars_append {gap : List Char} (h : ∀ c ∈ gap, isBlank c) (cs : List Char) :
    trimChars (cs ++ gap) = trimChars cs := by
  unfold trimChars
  rw [List.dropWhile_append]
  split
  · next hnone =>
    have hgap : gap.dropWhile isBlank = [] := List.dropWhile_eq_nil_iff.mpr h
    rw [hgap, List.isEmpty_iff.mp hnone]
  · exact trimEndChars_append h _

theorem trimChars_blank_append {gap : List Char} (h : ∀ c ∈ gap, isBlank c) (cs : List Char) :
    trimChars (gap ++ cs) = trimChars cs := by
  unfold trimChars
  rw [List.dropWhile_append_of_pos h]

theorem scopedParts_append_blank {gap : String} (h : ∀ c ∈ gap.toList, isBlank c) (s : String) :
    scopedParts (s ++ gap) = scopedParts s := by
  have hcolon : ':' ∉ gap.toList := fun hmem => ne_colon_of_isBlank (h _ hmem) rfl
  obtain ⟨before, last, hs, hboth⟩ := exists_splitColons_append s.toList hcolon
  unfold scopedParts
  rw [String.toList_append, hs, hboth]
  simp only [List.map_append, List.map_cons, List.map_nil, trimChars_append h]

theorem map_trimChars_consHead {c : Char} (h : isBlank c) {parts : List (List Char)}
    (hparts : parts ≠ []) : (consHead c parts).map trimChars = parts.map trimChars := by
  cases parts with
  | nil => contradiction
  | cons part rest =>
    have hgap : ∀ d ∈ [c], isBlank d := List.forall_mem_singleton.mpr h
    have hpart : trimChars (c :: part) = trimChars part := trimChars_blank_append hgap part
    rw [consHead, List.map_cons, List.map_cons, hpart]

theorem scopedParts_blank_append {gap : String} (h : ∀ c ∈ gap.toList, isBlank c) (s : String) :
    scopedParts (gap ++ s) = scopedParts s := by
  have hmap : (splitColons (gap.toList ++ s.toList)).map trimChars =
      (splitColons s.toList).map trimChars := by
    generalize gap.toList = cs at h
    induction cs with
    | nil => rfl
    | cons c cs ih =>
      rw [List.forall_mem_cons] at h
      rw [List.cons_append, splitColons_cons fun hc => absurd hc (ne_colon_of_isBlank h.1),
        map_trimChars_consHead h.1 (splitColons_ne_nil _), ih h.2]
  unfold scopedParts
  rw [String.toList_append, hmap]

theorem scopedParts_append_colons {s : String} (h : s.toList.getLast? ≠ some ':') (later : String) :
    scopedParts (s ++ "::" ++ later) = scopedParts s ++ scopedParts later := by
  have hsplit : splitColons (s ++ "::" ++ later).toList =
      splitColons s.toList ++ splitColons later.toList := by
    rw [String.toList_append, String.toList_append, List.append_assoc]
    exact splitColons_append_colons h later.toList
  unfold scopedParts
  rw [hsplit, List.map_append, List.filter_append, List.map_append]

section Characters

variable {c : Char}

theorem exists_mem_consHead {α : Type} {a b : α} (parts : List (List α)) :
    (∃ part ∈ consHead b parts, a ∈ part) ↔ a = b ∨ ∃ part ∈ parts, a ∈ part := by
  cases parts with
  | nil => simp [consHead]
  | cons part rest => simp [consHead, or_assoc]

theorem exists_mem_splitColons (hc : c ≠ ':') (cs : List Char) :
    (∃ part ∈ splitColons cs, c ∈ part) ↔ c ∈ cs := by
  fun_induction splitColons cs with
  | case1 => simp
  | case2 cs ih => simpa [hc] using ih
  | case3 d cs _ ih => rw [exists_mem_consHead, ih, List.mem_cons]

theorem mem_dropWhile_isBlank (hc : isBlank c = false) (cs : List Char) :
    c ∈ cs.dropWhile isBlank ↔ c ∈ cs := by
  induction cs with
  | nil => rfl
  | cons d cs ih =>
    rw [List.dropWhile_cons]
    split
    · next hd =>
      have hne : c ≠ d := by
        rintro rfl
        rw [hc] at hd
        contradiction
      rw [ih, List.mem_cons, or_iff_right hne]
    · rfl

theorem mem_trimChars (hc : isBlank c = false) (cs : List Char) : c ∈ trimChars cs ↔ c ∈ cs := by
  unfold trimChars trimEndChars
  rw [List.mem_reverse, mem_dropWhile_isBlank hc, List.mem_reverse, mem_dropWhile_isBlank hc]

theorem exists_mem_scopedParts (hcolon : c ≠ ':') (hblank : isBlank c = false) (s : String) :
    (∃ part ∈ scopedParts s, c ∈ part.toList) ↔ c ∈ s.toList := by
  rw [← exists_mem_splitColons hcolon]
  unfold scopedParts
  constructor
  · rintro ⟨part, hpart, hmem⟩
    obtain ⟨cs, hcs, rfl⟩ := List.mem_map.mp hpart
    obtain ⟨piece, hpiece, rfl⟩ := List.mem_map.mp (List.mem_filter.mp hcs).1
    exact ⟨piece, hpiece, (mem_trimChars hblank piece).mp (by simpa using hmem)⟩
  · rintro ⟨piece, hpiece, hmem⟩
    have htrimmed := (mem_trimChars hblank piece).mpr hmem
    refine ⟨String.ofList (trimChars piece), ?_, by simpa using htrimmed⟩
    refine List.mem_map_of_mem (List.mem_filter.mpr ⟨List.mem_map_of_mem hpiece, ?_⟩)
    simpa using List.ne_nil_of_mem htrimmed

end Characters

end Text
end CursorQuery
