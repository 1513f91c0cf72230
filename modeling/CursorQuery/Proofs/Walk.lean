import Mathlib.Data.List.TakeWhile
import Mathlib.Logic.Function.Iterate
import CursorQuery.Model.Walk

/-!
This module contains the theory of walks. The specification is the listing of a node: the pre-order
of the tree that unfolds below it. Whatever a walk has done so far, what it has tested and the listing
of its agenda make up the listing of the root.
-/

namespace CursorQuery

namespace Tree

variable {α : Type}

mutual

theorem length_preorder (t : Tree α) : t.preorder.length = t.size := by
  cases t with
  | node a ts =>
    simp only [preorder, size, List.length_cons]
    rw [length_forestPreorder]

theorem length_forestPreorder (ts : List (Tree α)) : (forestPreorder ts).length = forestSize ts := by
  cases ts with
  | nil => rfl
  | cons t ts =>
    simp only [forestPreorder, forestSize, List.length_append]
    rw [length_preorder, length_forestPreorder]

end

end Tree

namespace Model

variable {ν : Type} (m : Model ν) (p : ν → Bool)

/-- The nodes below `v` in pre-order, `v` included. -/
def listing (v : ν) : List ν :=
  (m.tree v).preorder

def remaining (agenda : Agenda ν) : List ν :=
  agenda.nodes.flatMap m.listing

theorem forestPreorder_map_tree (vs : List ν) :
    Tree.forestPreorder (vs.map m.tree) = vs.flatMap m.listing := by
  induction vs with
  | nil => rfl
  | cons v vs ih =>
    simp only [List.map_cons, Tree.forestPreorder, List.flatMap_cons, listing]
    rw [ih]

theorem listing_eq (v : ν) : m.listing v = v :: (m.children v).flatMap m.listing := by
  unfold listing
  rw [tree_eq, Tree.preorder, forestPreorder_map_tree]
  rfl

theorem length_remaining (agenda : Agenda ν) :
    (m.remaining agenda).length = m.weight agenda := by
  unfold remaining weight
  rw [← forestPreorder_map_tree, Tree.length_forestPreorder]

theorem remaining_start (root : ν) : m.remaining (.start root) = m.listing root := by
  simp [remaining, Agenda.nodes, Agenda.start]

theorem remaining_finished : m.remaining (.finished : Agenda ν) = [] := by
  simp [remaining, Agenda.nodes, Agenda.finished]

theorem remaining_of_advance_eq_none {agenda : Agenda ν} (h : agenda.advance = none) :
    m.remaining agenda = [] := by
  unfold remaining
  rw [Agenda.advance_eq_none h]
  rfl

theorem remaining_of_advance_eq_some {agenda rest : Agenda ν} {v : ν}
    (h : agenda.advance = some (v, rest)) :
    m.remaining agenda = v :: m.remaining (rest.enter (m.children v)) := by
  obtain ⟨hnodes, hpending⟩ := Agenda.advance_eq_some h
  unfold remaining
  rw [hnodes, List.flatMap_cons, listing_eq]
  simp [Agenda.nodes, Agenda.enter, hpending]

theorem next_finished :
    m.next p .finished = { tested := [], found := none, agenda := .finished } := by
  unfold next
  rfl

theorem next_found (agenda : Agenda ν) :
    (m.next p agenda).found = (m.remaining agenda).find? p := by
  fun_induction m.next p agenda with
  | case1 agenda h => simp [remaining_of_advance_eq_none m h]
  | case2 agenda v rest h entered hv => simp [remaining_of_advance_eq_some m h, hv]
  | case3 agenda v rest h entered hv later ih =>
    rw [remaining_of_advance_eq_some m h, List.find?_cons_of_neg hv]
    exact ih

theorem next_tested (agenda : Agenda ν) :
    (m.next p agenda).tested =
      (m.remaining agenda).takeWhile (!p ·) ++ (m.next p agenda).found.toList := by
  fun_induction m.next p agenda with
  | case1 agenda h => simp [remaining_of_advance_eq_none m h]
  | case2 agenda v rest h entered hv => simp [remaining_of_advance_eq_some m h, hv]
  | case3 agenda v rest h entered hv later ih =>
    rw [remaining_of_advance_eq_some m h, List.takeWhile_cons_of_pos (by simpa using hv)]
    simpa using ih

theorem next_tested_append_remaining (agenda : Agenda ν) :
    (m.next p agenda).tested ++ m.remaining (m.next p agenda).agenda = m.remaining agenda := by
  fun_induction m.next p agenda with
  | case1 agenda h => simp [remaining_of_advance_eq_none m h, remaining_finished]
  | case2 agenda v rest h entered hv =>
    rw [remaining_of_advance_eq_some m h]
    rfl
  | case3 agenda v rest h entered hv later ih =>
    rw [remaining_of_advance_eq_some m h]
    simpa using ih

theorem next_agenda_of_found_eq_none {agenda : Agenda ν} (h : (m.next p agenda).found = none) :
    (m.next p agenda).agenda = .finished := by
  fun_induction m.next p agenda with
  | case1 => rfl
  | case2 => simp at h
  | case3 agenda v rest _ entered hv later ih => exact ih h

theorem filter_next_tested (agenda : Agenda ν) :
    (m.next p agenda).tested.filter p = (m.next p agenda).found.toList := by
  rw [next_tested, List.filter_append]
  have hrejected : ((m.remaining agenda).takeWhile (!p ·)).filter p = [] := by
    apply List.filter_eq_nil_iff.mpr
    intro v hv
    simpa using List.mem_takeWhile_imp hv
  have hfound : (m.next p agenda).found.toList.filter p = (m.next p agenda).found.toList := by
    rw [next_found]
    cases h : (m.remaining agenda).find? p with
    | none => rfl
    | some v => simp [List.find?_some h]
  rw [hrejected, hfound, List.nil_append]

theorem filter_remaining (agenda : Agenda ν) :
    (m.remaining agenda).filter p =
      (m.next p agenda).found.toList ++ (m.remaining (m.next p agenda).agenda).filter p := by
  rw [← next_tested_append_remaining m p agenda, List.filter_append, filter_next_tested]

theorem take_succ_of_found_eq_none {agenda : Agenda ν} (k : Nat)
    (h : (m.next p agenda).found = none) :
    m.take p (k + 1) agenda =
      { found := [], tested := (m.next p agenda).tested, agenda := .finished } := by
  rw [take]
  simp only [h, next_agenda_of_found_eq_none m p h]

theorem take_succ_of_found_eq_some {agenda : Agenda ν} {v : ν} (k : Nat)
    (h : (m.next p agenda).found = some v) :
    m.take p (k + 1) agenda =
      let later := m.take p k (m.next p agenda).agenda
      { found := v :: later.found
        tested := (m.next p agenda).tested ++ later.tested
        agenda := later.agenda } := by
  rw [take]
  simp only [h]

theorem take_found (k : Nat) (agenda : Agenda ν) :
    (m.take p k agenda).found = ((m.remaining agenda).filter p).take k := by
  induction k generalizing agenda with
  | zero => simp [take]
  | succ k ih =>
    rw [filter_remaining]
    cases h : (m.next p agenda).found with
    | none =>
      rw [take_succ_of_found_eq_none m p k h, next_agenda_of_found_eq_none m p h]
      simp [remaining_finished]
    | some v =>
      rw [take_succ_of_found_eq_some m p k h]
      simp [ih]

theorem take_tested_append_remaining (k : Nat) (agenda : Agenda ν) :
    (m.take p k agenda).tested ++ m.remaining (m.take p k agenda).agenda = m.remaining agenda := by
  induction k generalizing agenda with
  | zero => simp [take]
  | succ k ih =>
    have hnext := next_tested_append_remaining m p agenda
    cases h : (m.next p agenda).found with
    | none =>
      rw [take_succ_of_found_eq_none m p k h]
      rw [next_agenda_of_found_eq_none m p h] at hnext
      exact hnext
    | some v =>
      rw [take_succ_of_found_eq_some m p k h]
      simp only [List.append_assoc]
      rw [ih, hnext]

theorem filter_take_tested (k : Nat) (agenda : Agenda ν) :
    (m.take p k agenda).tested.filter p = (m.take p k agenda).found := by
  induction k generalizing agenda with
  | zero => simp [take]
  | succ k ih =>
    have hnext := filter_next_tested m p agenda
    cases h : (m.next p agenda).found with
    | none =>
      rw [take_succ_of_found_eq_none m p k h]
      simpa [h] using hnext
    | some v =>
      rw [take_succ_of_found_eq_some m p k h]
      simp [List.filter_append, hnext, h, ih]

theorem filter_remaining_take (k : Nat) (agenda : Agenda ν) :
    (m.remaining (m.take p k agenda).agenda).filter p = ((m.remaining agenda).filter p).drop k := by
  have hsplit : (m.take p k agenda).found ++ (m.remaining (m.take p k agenda).agenda).filter p
      = (m.remaining agenda).filter p := by
    rw [← filter_take_tested, ← List.filter_append, take_tested_append_remaining]
  rw [take_found] at hsplit
  apply List.append_cancel_left
  rw [hsplit, List.take_append_drop]

theorem take_agenda_of_lt {k : Nat} {agenda : Agenda ν}
    (h : ((m.remaining agenda).filter p).length < k) :
    (m.take p k agenda).agenda = .finished := by
  induction k generalizing agenda with
  | zero => simp at h
  | succ k ih =>
    cases hfound : (m.next p agenda).found with
    | none => rw [take_succ_of_found_eq_none m p k hfound]
    | some v =>
      rw [take_succ_of_found_eq_some m p k hfound]
      apply ih
      rw [filter_remaining, hfound] at h
      simpa using h

/--
`tested` is the shortest beginning of `nodes` in which `k` nodes satisfy `p`, and all of `nodes` if
there are fewer than `k`.
-/
structure IsSearchedFor (p : ν → Bool) (k : Nat) (nodes tested : List ν) : Prop where
  isPrefix : tested <+: nodes
  enough : k ≤ (nodes.filter p).length → (tested.filter p).length = k
  shortest : ∀ l, l <+: nodes → k ≤ (l.filter p).length → tested.length ≤ l.length
  exhaustive : (nodes.filter p).length < k → tested = nodes

theorem length_le_of_endsInMatch {nodes l before : List ν} {v : ν} (hv : p v)
    (hpre : before ++ [v] <+: nodes) (hl : l <+: nodes)
    (hcount : ((before ++ [v]).filter p).length ≤ (l.filter p).length) :
    (before ++ [v]).length ≤ l.length := by
  cases List.prefix_or_prefix_of_prefix hpre hl with
  | inl h => exact h.length_le
  | inr h =>
    cases List.prefix_concat_iff.mp h with
    | inl h => rw [h]
    | inr h =>
      -- Without the match at its end there is one match less.
      have := (h.filter p).length_le
      simp [List.filter_append, hv] at hcount
      omega

theorem next_tested_of_found_eq_some {agenda : Agenda ν} {v : ν}
    (h : (m.next p agenda).found = some v) :
    p v ∧ ∃ before, (m.next p agenda).tested = before ++ [v] := by
  refine ⟨?_, (m.remaining agenda).takeWhile (!p ·), ?_⟩
  · rw [next_found] at h
    exact List.find?_some h
  · rw [next_tested, h]
    rfl

theorem take_tested_endsInMatch {k : Nat} {agenda : Agenda ν}
    (h : k + 1 ≤ ((m.remaining agenda).filter p).length) :
    ∃ v before, p v ∧ (m.take p (k + 1) agenda).tested = before ++ [v] := by
  induction k generalizing agenda with
  | zero =>
    cases hfound : (m.next p agenda).found with
    | none =>
      rw [filter_remaining, hfound, next_agenda_of_found_eq_none m p hfound] at h
      simp [remaining_finished] at h
    | some v =>
      obtain ⟨hv, before, hbefore⟩ := next_tested_of_found_eq_some m p hfound
      refine ⟨v, before, hv, ?_⟩
      rw [take_succ_of_found_eq_some m p 0 hfound, ← hbefore]
      simp [take]
  | succ k ih =>
    rw [filter_remaining] at h
    cases hfound : (m.next p agenda).found with
    | none =>
      rw [hfound, next_agenda_of_found_eq_none m p hfound] at h
      simp [remaining_finished] at h
    | some v =>
      have hlater : k + 1 ≤ ((m.remaining (m.next p agenda).agenda).filter p).length := by
        simpa [hfound] using h
      obtain ⟨w, before, hw, hbefore⟩ := ih hlater
      refine ⟨w, (m.next p agenda).tested ++ before, hw, ?_⟩
      rw [take_succ_of_found_eq_some m p (k + 1) hfound]
      simp [hbefore]

theorem take_isSearchedFor (k : Nat) (agenda : Agenda ν) :
    IsSearchedFor p k (m.remaining agenda) (m.take p k agenda).tested := by
  have happend := take_tested_append_remaining m p k agenda
  have hpre : (m.take p k agenda).tested <+: m.remaining agenda := ⟨_, happend⟩
  have hcount : k ≤ ((m.remaining agenda).filter p).length →
      ((m.take p k agenda).tested.filter p).length = k := by
    intro h
    rw [filter_take_tested, take_found, List.length_take]
    omega
  constructor
  · exact hpre
  · exact hcount
  · intro l hl hk
    cases k with
    | zero => simp [take]
    | succ k =>
      -- If some beginning has `k + 1` matches, so has the listing, and the search ends in a match.
      have hall := Nat.le_trans hk (hl.filter p).length_le
      obtain ⟨v, before, hv, htested⟩ := take_tested_endsInMatch m p hall
      have := hcount hall
      rw [htested] at hpre this ⊢
      apply length_le_of_endsInMatch p hv hpre hl
      omega
  · intro h
    rw [take_agenda_of_lt m p h, remaining_finished, List.append_nil] at happend
    exact happend

theorem next_iterate_of_found_eq_none {agenda : Agenda ν} (h : (m.next p agenda).found = none)
    (n : Nat) :
    m.next p ((fun a => (m.next p a).agenda)^[n + 1] agenda) =
      { tested := [], found := none, agenda := .finished } := by
  -- A search that fails leaves an empty agenda, and so does every one after it.
  have hfinished : (fun a => (m.next p a).agenda)^[n + 1] agenda = .finished := by
    induction n with
    | zero => exact next_agenda_of_found_eq_none m p h
    | succ n ih => rw [Function.iterate_succ_apply', ih, next_finished]
  rw [hfinished, next_finished]

theorem takeAll_found (agenda : Agenda ν) :
    (m.takeAll p agenda).found = (m.remaining agenda).filter p := by
  unfold takeAll
  rw [take_found, ← length_remaining]
  apply List.take_of_length_le
  have := List.length_filter_le p (m.remaining agenda)
  omega

theorem takeAll_tested (agenda : Agenda ν) : (m.takeAll p agenda).tested = m.remaining agenda := by
  unfold takeAll
  apply (take_isSearchedFor m p _ agenda).exhaustive
  rw [← length_remaining]
  have := List.length_filter_le p (m.remaining agenda)
  omega

theorem take_add (j k : Nat) (agenda : Agenda ν) :
    m.take p (j + k) agenda =
      let first := m.take p j agenda
      let later := m.take p k first.agenda
      { found := first.found ++ later.found
        tested := first.tested ++ later.tested
        agenda := later.agenda } := by
  induction j generalizing agenda with
  | zero => simp [take]
  | succ j ih =>
    rw [Nat.succ_add_eq_add_succ, Nat.add_succ]
    cases h : (m.next p agenda).found with
    | none =>
      -- The walk is at its end, so the second go does nothing.
      rw [take_succ_of_found_eq_none m p _ h, take_succ_of_found_eq_none m p _ h]
      cases k with
      | zero => simp [take]
      | succ k => simp [take, next_finished]
    | some v =>
      rw [take_succ_of_found_eq_some m p _ h, take_succ_of_found_eq_some m p _ h, ih]
      simp

theorem descendants_eq_listing (root : ν) : m.descendants root = m.listing root := by
  unfold descendants walk
  dsimp only
  rw [takeAll_found, remaining_start]
  simp

/--
Taking `k` matches from a walk gives the first `k` matches of the root's listing and runs the
predicate on the shortest beginning of the listing that holds them. Taking more goes on from there, up
to the end of the listing, and a walk that has come to its end stays there.
-/
theorem walk_refines_listing (root : ν) (k : Nat) :
    let taken := m.walk p root (some k)
    let rest := m.takeAll p taken.agenda
    (taken.found = ((m.listing root).filter p).take k
      ∧ IsSearchedFor p k (m.listing root) taken.tested)
    ∧ (∀ j, let more := m.take p j taken.agenda
        more.found = (((m.listing root).filter p).drop k).take j
          ∧ IsSearchedFor p (k + j) (m.listing root) (taken.tested ++ more.tested))
    ∧ (rest.found = ((m.listing root).filter p).drop k
      ∧ taken.tested ++ rest.tested = m.listing root)
    ∧ ((m.next p taken.agenda).found = none → ∀ n,
        m.next p ((fun a => (m.next p a).agenda)^[n + 1] taken.agenda) =
          { tested := [], found := none, agenda := .finished }) := by
  intro taken rest
  have hsearched := take_isSearchedFor m p k (.start root)
  have hfound := take_found m p k (.start root)
  have happend := take_tested_append_remaining m p k (.start root)
  have hdrop : (m.remaining taken.agenda).filter p = _ := filter_remaining_take m p k (.start root)
  rw [remaining_start] at hsearched hfound happend hdrop
  refine ⟨⟨hfound, hsearched⟩, ?_, ⟨?_, ?_⟩, ?_⟩
  -- Going on is the same as having asked for more at the beginning.
  · intro j
    have hboth := take_isSearchedFor m p (k + j) (.start root)
    rw [remaining_start, take_add] at hboth
    refine ⟨?_, hboth⟩
    rw [← hdrop]
    exact take_found m p j taken.agenda
  · rw [← hdrop]
    exact takeAll_found m p taken.agenda
  · rw [← happend]
    exact congrArg _ (takeAll_tested m p taken.agenda)
  · intro h n
    exact next_iterate_of_found_eq_none m p h n

end Model
end CursorQuery
