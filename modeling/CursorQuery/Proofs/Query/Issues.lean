import Mathlib.Data.List.Forall2
import CursorQuery.Pattern.Standard
import CursorQuery.Proofs.Formula
import CursorQuery.Query.Issue

/-!
This module contains the exactness of validation. There is one issue for every leaf test with a value
that makes no sense, in the order of the query. The address of an issue leads from the top of the query
to its leaf test, and the text of an address can be read in one way only.
-/

namespace CursorQuery

section Display

variable {x y : List Char}

theorem takeWhile_toDigits (n : Nat) (x : List Char) :
    (Nat.toDigits 10 n ++ ']' :: x).takeWhile Char.isDigit = Nat.toDigits 10 n := by
  rw [List.takeWhile_append_of_pos]
  · simp
  · intro c hc
    exact Nat.isDigit_of_mem_toDigits (by omega) (by omega) hc

theorem toDigits_bracket_inj {i j : Nat}
    (h : Nat.toDigits 10 i ++ ']' :: x = Nat.toDigits 10 j ++ ']' :: y) : i = j ∧ x = y := by
  have hdigits : Nat.toDigits 10 i = Nat.toDigits 10 j := by
    rw [← takeWhile_toDigits i x, h, takeWhile_toDigits]
  rw [hdigits, List.append_cancel_left_eq, List.cons.injEq] at h
  refine ⟨?_, h.2⟩
  rw [← Nat.ofDigitChars_ten_toDigits (n := i), hdigits, Nat.ofDigitChars_ten_toDigits]

theorem Segment.display_append_inj {s t : Segment}
    (h : s.display.toList ++ x = t.display.toList ++ y) : s = t ∧ x = y := by
  cases s with
  | all i =>
    cases t with
    | all j =>
      obtain ⟨rfl, hrest⟩ : i = j ∧ x = y := toDigits_bracket_inj (by simpa [display] using h)
      exact ⟨rfl, hrest⟩
    | _ => simp [display] at h
  | any i =>
    cases t with
    | any j =>
      obtain ⟨rfl, hrest⟩ : i = j ∧ x = y := toDigits_bracket_inj (by simpa [display] using h)
      exact ⟨rfl, hrest⟩
    | _ => simp [display] at h
  | _ =>
    cases t with
    | _ => simp_all [display]

/-- How the way to a part of a query, or to the value of a leaf test, is written. -/
def Segment.written : Segment → String
  | all index => ".all[" ++ toString index ++ "]"
  | any index => ".any[" ++ toString index ++ "]"
  | not => ".not"
  | anyChild => ".any_child"
  | allChildren => ".all_children"
  | anyPredecessor => ".any_predecessor.matches"
  | allPredecessors => ".all_predecessors.matches"
  | name => ".name"
  | typename => ".typename"
  | inFile => ".in_file"

theorem Address.display_eq_written (address : Address) :
    address.display = "query" ++ String.join (address.map Segment.written) := by
  have hsegment : Segment.display = Segment.written := by
    funext s
    cases s with
    | _ => rfl
  rw [display, hsegment]

theorem Segment.display_ne_nil (s : Segment) : s.display.toList ≠ [] := by
  cases s with
  | _ => simp [display]

theorem Address.toList_display (address : Address) :
    address.display.toList = "query".toList ++ address.flatMap fun s => s.display.toList := by
  simp [display, String.toList_join, List.flatMap_map]

theorem Address.flatMap_display_injective {a b : Address}
    (h : a.flatMap (fun s => s.display.toList) = b.flatMap fun s => s.display.toList) : a = b := by
  induction a generalizing b with
  | nil =>
    cases b with
    | nil => rfl
    | cons t b => simp [t.display_ne_nil] at h
  | cons s a ih =>
    cases b with
    | nil => simp [s.display_ne_nil] at h
    | cons t b =>
      rw [List.flatMap_cons, List.flatMap_cons] at h
      obtain ⟨rfl, hrest⟩ := Segment.display_append_inj h
      rw [ih hrest]

theorem Address.display_injective : Function.Injective Address.display := by
  intro a b h
  apply flatMap_display_injective
  apply List.append_cancel_left
  rw [← toList_display, ← toList_display, h]

end Display

namespace Leaf

variable [Pattern.Engine]

/-- Whether a test has a value that makes no sense. -/
def Offends : Leaf String → Prop
  | name pattern => Text.isBlankText pattern ∨ ¬ Pattern.isValid pattern
  | typename spelling => Text.isBlankText spelling
  | inFile files => files = [] ∨ ∃ file ∈ files, Text.isBlankText file
  | isA _ | kind _ | access _ => False

instance : DecidablePred Offends
  | name _ => inferInstanceAs (Decidable (_ ∨ _))
  | typename _ => inferInstanceAs (Decidable (_ = _))
  | inFile _ => inferInstanceAs (Decidable (_ ∨ _))
  | isA _ | kind _ | access _ => inferInstanceAs (Decidable False)

end Leaf

namespace Issue

def within (path : Address) (issue : Issue) : Issue :=
  path.foldr under issue

theorem within_emptyValue (path address : Address) :
    (emptyValue address).within path = emptyValue (path ++ address) := by
  induction path with
  | nil => rfl
  | cons s path ih => rw [within, List.foldr_cons, ← within, ih, under, List.cons_append]

theorem within_invalidPattern (path address : Address) (pattern : String) :
    (invalidPattern address pattern).within path = invalidPattern (path ++ address) pattern := by
  induction path with
  | nil => rfl
  | cons s path ih => rw [within, List.foldr_cons, ← within, ih, under, List.cons_append]

end Issue

namespace Query

structure Occurrence where
  path : Address
  leaf : Leaf String

def Occurrence.under (segment : Segment) (o : Occurrence) : Occurrence where
  path := segment :: o.path
  leaf := o.leaf

mutual

def occurrences : Formula Step (Leaf String) → List Occurrence
  | .leaf leaf => [⟨[], leaf⟩]
  | .all parts => occurrencesOfList .all 0 parts
  | .any parts => occurrencesOfList .any 0 parts
  | .not part => (occurrences part).map (Occurrence.under .not)
  | .anyChild part => (occurrences part).map (Occurrence.under .anyChild)
  | .allChildren part => (occurrences part).map (Occurrence.under .allChildren)
  | .anyPredecessor _ part => (occurrences part).map (Occurrence.under .anyPredecessor)
  | .allPredecessors _ part => (occurrences part).map (Occurrence.under .allPredecessors)

def occurrencesOfList (segment : Nat → Segment) (index : Nat) :
    List (Formula Step (Leaf String)) → List Occurrence
  | [] => []
  | part :: parts =>
    (occurrences part).map (Occurrence.under (segment index))
      ++ occurrencesOfList segment (index + 1) parts

end

def part? : Query → Segment → Option Query
  | .all parts, .all index => parts[index]?
  | .any parts, .any index => parts[index]?
  | .not part, .not => some part
  | .anyChild part, .anyChild => some part
  | .allChildren part, .allChildren => some part
  | .anyPredecessor _ part, .anyPredecessor => some part
  | .allPredecessors _ part, .allPredecessors => some part
  | _, _ => none

/-- What an address leads to, read from the top of the query. -/
def follow? (query : Query) : Address → Option Query
  | [] => some query
  | segment :: path => (query.part? segment).bind fun part => part.follow? path

section Occurrences

variable {query part : Query} {parts : List Query} {segment : Nat → Segment} {start : Nat}
  {o : Occurrence}

theorem map_leaf_under (s : Segment) (os : List Occurrence) :
    (os.map (Occurrence.under s)).map Occurrence.leaf = os.map Occurrence.leaf := by
  simp [Function.comp_def, Occurrence.under]

theorem map_leaf_occurrencesOfList
    (h : ∀ part ∈ parts, (occurrences part).map Occurrence.leaf = part.leaves) :
    (occurrencesOfList segment start parts).map Occurrence.leaf = Formula.leavesOfList parts := by
  induction parts generalizing start with
  | nil => rfl
  | cons part parts ih =>
    rw [List.forall_mem_cons] at h
    rw [occurrencesOfList, Formula.leavesOfList, List.map_append, map_leaf_under, h.1, ih h.2]

theorem map_leaf_occurrences (query : Query) :
    (occurrences query).map Occurrence.leaf = query.leaves := by
  induction query using Formula.induct with
  | leaf test => rfl
  | all parts ih | any parts ih => exact map_leaf_occurrencesOfList ih
  | not part ih | anyChild part ih | allChildren part ih =>
    rw [occurrences, map_leaf_under, ih, Formula.leaves]
  | anyPredecessor step part ih | allPredecessors step part ih =>
    rw [occurrences, map_leaf_under, ih, Formula.leaves]

theorem mem_map_under {s : Segment} {os : List Occurrence} :
    o ∈ os.map (Occurrence.under s) ↔ ∃ path, o.path = s :: path ∧ ⟨path, o.leaf⟩ ∈ os := by
  rw [List.mem_map]
  constructor
  · rintro ⟨inner, hmem, rfl⟩
    exact ⟨inner.path, rfl, hmem⟩
  · rintro ⟨path, hpath, hmem⟩
    refine ⟨_, hmem, ?_⟩
    rw [Occurrence.under, ← hpath]

theorem mem_occurrencesOfList : o ∈ occurrencesOfList segment start parts ↔
    ∃ i part path, parts[i]? = some part ∧ o.path = segment (start + i) :: path
      ∧ ⟨path, o.leaf⟩ ∈ occurrences part := by
  induction parts generalizing start with
  | nil => simp [occurrencesOfList]
  | cons part parts ih =>
    rw [occurrencesOfList, List.mem_append, mem_map_under, ih]
    constructor
    · rintro (⟨path, hpath, hmem⟩ | ⟨i, part', path, hpart, hpath, hmem⟩)
      · exact ⟨0, part, path, rfl, hpath, hmem⟩
      · refine ⟨i + 1, part', path, hpart, ?_, hmem⟩
        rw [hpath, Nat.add_right_comm, Nat.add_assoc]
    · rintro ⟨i, part', path, hpart, hpath, hmem⟩
      cases i with
      | zero =>
        obtain rfl := Option.some.inj hpart
        exact .inl ⟨path, hpath, hmem⟩
      | succ i =>
        refine .inr ⟨i, part', path, hpart, ?_, hmem⟩
        rw [hpath, Nat.add_right_comm, Nat.add_assoc]

theorem mem_occurrences_nil {leaf : Leaf String} :
    ⟨[], leaf⟩ ∈ occurrences query ↔ query = .leaf leaf := by
  cases query with
  | leaf test => simp [occurrences, eq_comm]
  | all parts | any parts => simp [occurrences, mem_occurrencesOfList]
  | _ => simp [occurrences, mem_map_under]

theorem mem_occurrences_cons {s : Segment} {path : Address} {leaf : Leaf String} :
    ⟨s :: path, leaf⟩ ∈ occurrences query ↔
      ∃ part, query.part? s = some part ∧ ⟨path, leaf⟩ ∈ occurrences part := by
  cases query with
  | leaf test => simp [occurrences, part?]
  | all parts | any parts =>
    rw [occurrences, mem_occurrencesOfList]
    cases s with
    | _ => simp [part?]
  | _ =>
    rw [occurrences, mem_map_under]
    cases s with
    | _ => simp [part?]

theorem mem_occurrences_iff : o ∈ occurrences query ↔ query.follow? o.path = some (.leaf o.leaf) := by
  obtain ⟨path, leaf⟩ := o
  induction path generalizing query with
  | nil =>
    rw [mem_occurrences_nil, follow?]
    simp
  | cons s path ih =>
    rw [mem_occurrences_cons, follow?, Option.bind_eq_some_iff]
    simp [ih]

theorem pairwise_path_under {s : Segment} {os : List Occurrence}
    (h : os.Pairwise fun o o' => o.path ≠ o'.path) :
    (os.map (Occurrence.under s)).Pairwise fun o o' => o.path ≠ o'.path := by
  apply h.map
  intro o o' hne heq
  exact hne (List.cons.inj heq).2

theorem pairwise_path_occurrencesOfList (hsegment : Function.Injective segment)
    (h : ∀ part ∈ parts, (occurrences part).Pairwise fun o o' => o.path ≠ o'.path) :
    (occurrencesOfList segment start parts).Pairwise fun o o' => o.path ≠ o'.path := by
  induction parts generalizing start with
  | nil => exact .nil
  | cons part parts ih =>
    rw [List.forall_mem_cons] at h
    rw [occurrencesOfList, List.pairwise_append]
    refine ⟨pairwise_path_under h.1, ih h.2, ?_⟩
    intro o ho o' ho' heq
    -- The two differ in the index of the part that they are in.
    obtain ⟨path, hpath, -⟩ := mem_map_under.mp ho
    obtain ⟨i, part', path', -, hpath', -⟩ := mem_occurrencesOfList.mp ho'
    rw [hpath, hpath'] at heq
    have hindex : start = start + 1 + i := hsegment (List.cons.inj heq).1
    omega

theorem pairwise_path_occurrences (query : Query) :
    (occurrences query).Pairwise fun o o' => o.path ≠ o'.path := by
  induction query using Formula.induct with
  | leaf test => exact List.pairwise_singleton _ _
  | all parts ih =>
    apply pairwise_path_occurrencesOfList ?_ ih
    intro i j h
    exact Segment.all.inj h
  | any parts ih =>
    apply pairwise_path_occurrencesOfList ?_ ih
    intro i j h
    exact Segment.any.inj h
  | not part ih | anyChild part ih | allChildren part ih => exact pairwise_path_under ih
  | anyPredecessor step part ih | allPredecessors step part ih => exact pairwise_path_under ih

end Occurrences

theorem forall₂_filterMap {α β : Type} (f : α → Option β) (l : List α) :
    List.Forall₂ (fun a b => f a = some b) (l.filter fun a => (f a).isSome) (l.filterMap f) := by
  induction l with
  | nil => exact .nil
  | cons a l ih =>
    rw [List.filter_cons, List.filterMap_cons]
    cases h : f a with
    | none => simpa using ih
    | some b => simpa using And.intro h ih

section Reports

variable [Pattern.Engine]

/-- What an issue says about a leaf test. It has the address of the test, with the key of its value. -/
inductive Reports : Occurrence → Issue → Prop where
  | blankName {path : Address} {pattern : String} (h : Text.isBlankText pattern) :
    Reports ⟨path, .name pattern⟩ (.emptyValue (path ++ [.name]))
  | invalidName {path : Address} {pattern : String} (hblank : ¬ Text.isBlankText pattern)
    (h : ¬ Pattern.isValid pattern) :
    Reports ⟨path, .name pattern⟩ (.invalidPattern (path ++ [.name]) pattern)
  | blankTypename {path : Address} {spelling : String} (h : Text.isBlankText spelling) :
    Reports ⟨path, .typename spelling⟩ (.emptyValue (path ++ [.typename]))
  | noFile {path : Address} : Reports ⟨path, .inFile []⟩ (.emptyValue (path ++ [.inFile]))
  | blankFile {path : Address} {files : List String} {file : String} (hmem : file ∈ files)
    (h : Text.isBlankText file) :
    Reports ⟨path, .inFile files⟩ (.emptyValue (path ++ [.inFile]))

variable {parts : List Query} {segment : Nat → Segment} {start : Nat} {o : Occurrence}
  {issue : Issue}

def Occurrence.issue? (o : Occurrence) : Option Issue :=
  o.leaf.issue?.map (Issue.within o.path)

theorem filterMap_issue?_under (s : Segment) (os : List Occurrence) :
    (os.map (Occurrence.under s)).filterMap Occurrence.issue? =
      (os.filterMap Occurrence.issue?).map (Issue.under s) := by
  rw [List.filterMap_map, List.map_filterMap]
  apply congrArg (List.filterMap · os)
  funext o
  simp only [Occurrence.issue?, Occurrence.under, Function.comp_apply, Option.map_map]
  rfl

theorem issuesOfList_eq_filterMap
    (h : ∀ part ∈ parts, issues part = (occurrences part).filterMap Occurrence.issue?) :
    issuesOfList segment start parts =
      (occurrencesOfList segment start parts).filterMap Occurrence.issue? := by
  induction parts generalizing start with
  | nil => rfl
  | cons part parts ih =>
    rw [List.forall_mem_cons] at h
    rw [issuesOfList, occurrencesOfList, List.filterMap_append, filterMap_issue?_under, ← h.1, ih h.2]

theorem issues_eq_filterMap (query : Query) :
    issues query = (occurrences query).filterMap Occurrence.issue? := by
  induction query using Formula.induct with
  | leaf test =>
    rw [issues, occurrences]
    cases h : test.issue? with
    | none => simp [Occurrence.issue?, h]
    | some issue => simp [Occurrence.issue?, h, Issue.within]
  | all parts ih | any parts ih =>
    rw [issues, occurrences]
    exact issuesOfList_eq_filterMap ih
  | not part ih | anyChild part ih | allChildren part ih =>
    rw [issues, occurrences, filterMap_issue?_under, ih]
  | anyPredecessor step part ih | allPredecessors step part ih =>
    rw [issues, occurrences, filterMap_issue?_under, ih]

theorem Occurrence.reports_of_issue? (h : o.issue? = some issue) : Reports o issue := by
  obtain ⟨path, leaf⟩ := o
  obtain ⟨inner, hinner, rfl⟩ := Option.map_eq_some_iff.mp h
  cases leaf with
  | name pattern =>
    simp only [Leaf.issue?] at hinner
    split at hinner
    · next hblank =>
      obtain rfl := Option.some.inj hinner
      rw [Issue.within_emptyValue]
      exact .blankName hblank
    · next hblank =>
      split at hinner
      · contradiction
      · next hinvalid =>
        obtain rfl := Option.some.inj hinner
        rw [Issue.within_invalidPattern]
        exact .invalidName hblank hinvalid
  | typename spelling =>
    simp only [Leaf.issue?] at hinner
    split at hinner
    · next hblank =>
      obtain rfl := Option.some.inj hinner
      rw [Issue.within_emptyValue]
      exact .blankTypename hblank
    · contradiction
  | inFile files =>
    simp only [Leaf.issue?, Bool.or_eq_true] at hinner
    split at hinner
    · next hfiles =>
      obtain rfl := Option.some.inj hinner
      rw [Issue.within_emptyValue]
      cases hfiles with
      | inl hnone =>
        obtain rfl := List.isEmpty_iff.mp hnone
        exact .noFile
      | inr hblank =>
        obtain ⟨file, hmem, hfile⟩ := List.any_eq_true.mp hblank
        exact .blankFile hmem hfile
    · contradiction
  | _ => contradiction

theorem Occurrence.isSome_issue?_iff : o.issue?.isSome ↔ o.leaf.Offends := by
  obtain ⟨path, leaf⟩ := o
  rw [issue?, Option.isSome_map]
  cases leaf with
  | name pattern =>
    simp only [Leaf.issue?, Leaf.Offends]
    split
    · next hblank => simp [hblank]
    · next hblank =>
      split
      · next hvalid => simp [hblank, hvalid]
      · next hinvalid => simp [hinvalid]
  | typename spelling =>
    simp only [Leaf.issue?, Leaf.Offends]
    split
    · next hblank => simp [hblank]
    · next hblank => simp [hblank]
  | inFile files =>
    simp only [Leaf.issue?, Leaf.Offends]
    split
    · next hfiles => simpa using hfiles
    · next hfiles => simpa using hfiles
  | _ => simp [Leaf.issue?, Leaf.Offends]

theorem Reports.dropLast_address (h : Reports o issue) : issue.address.dropLast = o.path := by
  cases h with
  | _ => simp [Issue.address]

theorem forall₂_reports (query : Query) :
    List.Forall₂ Reports ((occurrences query).filter fun o => o.leaf.Offends) (issues query) := by
  have hoffends : ((occurrences query).filter fun o => o.leaf.Offends) =
      (occurrences query).filter fun o => o.issue?.isSome := by
    apply List.filter_congr
    intro o _
    rw [Bool.eq_iff_iff, decide_eq_true_iff, Occurrence.isSome_issue?_iff]
  rw [hoffends, issues_eq_filterMap]
  apply (forall₂_filterMap _ _).imp
  intro o issue h
  exact o.reports_of_issue? h

theorem pairwise_address_issues (query : Query) :
    (issues query).Pairwise fun issue issue' => issue.address ≠ issue'.address := by
  rw [issues_eq_filterMap]
  apply (pairwise_path_occurrences query).filterMap
  intro o o' hne issue hissue issue' hissue' heq
  apply hne
  rw [← (o.reports_of_issue? hissue).dropLast_address, heq,
    (o'.reports_of_issue? hissue').dropLast_address]

/--
Validation reports every leaf test with a value that makes no sense, one issue for each of them from
left to right, and nothing else. An issue has the path to its test, which leads to this test from the
top of the query, with the key of the test at its end. It is written segment by segment, and as texts the
addresses of two issues differ.
-/
theorem issues_exact (query : Query) :
    List.Forall₂ Reports ((occurrences query).filter fun o => o.leaf.Offends) (issues query)
    ∧ (occurrences query).map Occurrence.leaf = query.leaves
    ∧ (∀ o, o ∈ occurrences query ↔ query.follow? o.path = some (.leaf o.leaf))
    ∧ (∀ address : Address,
      address.display = "query" ++ String.join (address.map Segment.written))
    ∧ (issues query).Pairwise (fun issue issue' => issue.address.display ≠ issue'.address.display)
    ∧ Function.Injective Address.display := by
  refine ⟨forall₂_reports query, map_leaf_occurrences query, fun _ => mem_occurrences_iff,
    Address.display_eq_written, ?_, Address.display_injective⟩
  apply (pairwise_address_issues query).imp
  intro issue issue' hne hdisplay
  exact hne (Address.display_injective hdisplay)

end Reports

example : ((issues (.all [.leaf (.name " "), .anyChild (.leaf (.name "["))])).map
      fun issue => issue.address.display) = ["query.all[0].name", "query.all[1].any_child.name"] := by
  decide +kernel

end Query
end CursorQuery
