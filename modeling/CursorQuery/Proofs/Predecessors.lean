import Mathlib.Data.Set.Finite.Basic
import Mathlib.Logic.Function.Iterate
import Mathlib.Logic.Relation
import CursorQuery.Formula

/-!
This module contains the theory of predecessors. They are exactly the nodes that can be reached by
steps, even if the steps run in a circle, and a climb yields them one after another. If the steps only
go to lower ranks, there is no circle and the predecessors are the whole way to the top.
-/

namespace CursorQuery

variable {ν : Type} {step : ν → Option ν} {nodes : List ν} {v w : ν}

def Reaches (step : ν → Option ν) : ν → ν → Prop :=
  Relation.TransGen fun v w => step v = some w

/-- The nodes on the way from a node to where no step is left. -/
inductive Climbs (step : ν → Option ν) : ν → List ν → Prop where
  | top {v : ν} (h : step v = none) : Climbs step v []
  | up {v w : ν} {rest : List ν} (h : step v = some w) (later : Climbs step w rest) :
      Climbs step v (w :: rest)

theorem Climbs.getLast? {chain : List ν} (h : Climbs step v chain) :
    ∃ top, (v :: chain).getLast? = some top ∧ step top = none := by
  induction h with
  | @top v h => exact ⟨v, rfl, h⟩
  | @up v w rest _ _ ih =>
    obtain ⟨top, hlast, htop⟩ := ih
    refine ⟨top, ?_, htop⟩
    rw [List.getLast?_cons_cons]
    exact hlast

namespace Climb

variable [DecidableEq ν] {climb : Climb ν}

theorem next_of_upcoming (hupcoming : climb.upcoming = some v) (hnew : v ∉ climb.passed) :
    climb.next step = (some v, climb.pass step v) := by
  simp [next, hupcoming, hnew]

theorem rest_of_upcoming (hupcoming : climb.upcoming = some v) (hnew : v ∉ climb.passed)
    (hv : v ∈ nodes) : climb.rest step nodes = v :: (climb.pass step v).rest step nodes := by
  rw [rest, next_of_upcoming hupcoming hnew]
  simp [hv]

theorem not_mem_passed_of_mem_rest (h : w ∈ climb.rest step nodes) : w ∉ climb.passed := by
  fun_induction rest step nodes climb with
  | case1 => simp at h
  | case2 climb v later hnext hv ih =>
    obtain ⟨-, hnew, rfl⟩ := next_eq_some hnext
    cases List.mem_cons.mp h with
    | inl h =>
      rw [h]
      exact hnew
    | inr h =>
      intro hpassed
      exact ih h (List.mem_cons_of_mem v hpassed)
  | case3 => simp at h

theorem nodup_rest (step : ν → Option ν) (nodes : List ν) (climb : Climb ν) :
    (climb.rest step nodes).Nodup := by
  fun_induction rest step nodes climb with
  | case1 => exact .nil
  | case2 climb v later hnext hv ih =>
    obtain ⟨-, -, rfl⟩ := next_eq_some hnext
    rw [List.nodup_cons]
    refine ⟨?_, ih⟩
    intro h
    exact not_mem_passed_of_mem_rest h List.mem_cons_self
  | case3 => exact .nil

theorem isChain_rest (hupcoming : climb.upcoming = step v) :
    (v :: climb.rest step nodes).IsChain fun v w => step v = some w := by
  fun_induction rest step nodes climb generalizing v with
  | case1 => exact .singleton v
  | case2 climb w later hnext hw ih =>
    obtain ⟨hw, -, rfl⟩ := next_eq_some hnext
    rw [List.isChain_cons_cons]
    exact ⟨by rw [← hupcoming, hw], ih rfl⟩
  | case3 => exact .singleton v

theorem reaches_of_mem_rest (hupcoming : climb.upcoming = step v)
    (h : w ∈ climb.rest step nodes) : Reaches step v w := by
  fun_induction rest step nodes climb generalizing v with
  | case1 => simp at h
  | case2 climb u later hnext hu ih =>
    obtain ⟨hu, -, rfl⟩ := next_eq_some hnext
    have hstep : step v = some u := by rw [← hupcoming, hu]
    cases List.mem_cons.mp h with
    | inl h =>
      rw [h]
      exact .single hstep
    | inr h => exact .head hstep (ih rfl h)
  | case3 => simp at h

theorem mem_rest_of_step (hv : v ∈ climb.rest step nodes) (hstep : step v = some w)
    (hw : w ∈ nodes) : w ∈ climb.rest step nodes ∨ w ∈ climb.passed := by
  fun_induction rest step nodes climb with
  | case1 => simp at hv
  | case2 climb first later hnext hfirst ih =>
    obtain ⟨-, -, rfl⟩ := next_eq_some hnext
    have hlater : w ∈ (climb.pass step first).rest step nodes ∨ w ∈ first :: climb.passed := by
      cases List.mem_cons.mp hv with
      | inl hv =>
        by_cases hpassed : w ∈ first :: climb.passed
        · exact .inr hpassed
        · have hupcoming : (climb.pass step first).upcoming = some w := by
            rw [← hv]
            exact hstep
          rw [rest_of_upcoming hupcoming hpassed hw]
          exact .inl List.mem_cons_self
      | inr hv => exact ih hv
    rw [List.mem_cons] at hlater ⊢
    rw [or_comm (a := w = first), or_assoc]
    exact hlater
  | case3 => simp at hv

/-- What the climb yields when it has been asked `count` times already. -/
def yield (step : ν → Option ν) (climb : Climb ν) (count : Nat) : Option ν :=
  (((fun climb => (climb.next step).2)^[count] climb).next step).1

theorem yield_succ (step : ν → Option ν) (climb : Climb ν) (count : Nat) :
    climb.yield step (count + 1) = (climb.next step).2.yield step count :=
  rfl

theorem yield_of_next_eq_none (h : (climb.next step).1 = none) (count : Nat) :
    climb.yield step count = none := by
  -- A climb that has ended stays where it is.
  induction count generalizing climb with
  | zero => exact h
  | succ count ih =>
    rw [yield_succ]
    apply ih
    unfold next at h ⊢
    split at h
    · next hupcoming => simp [hupcoming]
    · split at h
      · simp_all
      · simp at h

theorem yield_eq_getElem?_rest (hupcoming : climb.upcoming = step v)
    (hnodes : ∀ w, Reaches step v w → w ∈ nodes) (count : Nat) :
    climb.yield step count = (climb.rest step nodes)[count]? := by
  fun_induction rest step nodes climb generalizing v count with
  | case1 climb later hnext =>
    rw [yield_of_next_eq_none (by rw [hnext])]
    rfl
  | case2 climb w later hnext hw ih =>
    obtain ⟨hw, -, hlater⟩ := next_eq_some hnext
    have hstep : step v = some w := by rw [← hupcoming, hw]
    cases count with
    | zero => simp [yield, hnext]
    | succ count =>
      rw [yield_succ, hnext, List.getElem?_cons_succ]
      apply ih
      · rw [hlater]
        rfl
      · exact fun u hu => hnodes u (.head hstep hu)
  | case3 climb w later hnext hw =>
    obtain ⟨hnext, -, -⟩ := next_eq_some hnext
    exact absurd (hnodes w (.single (by rw [← hupcoming, hnext]))) hw

end Climb

variable [DecidableEq ν]

theorem mem_predecessorsIn (hnodes : ∀ w, Reaches step v w → w ∈ nodes) :
    w ∈ predecessorsIn nodes step v ↔ w ≠ v ∧ Reaches step v w := by
  unfold predecessorsIn
  constructor
  · intro h
    have hnew := Climb.not_mem_passed_of_mem_rest h
    exact ⟨by simpa [Climb.start] using hnew, Climb.reaches_of_mem_rest rfl h⟩
  · rintro ⟨hne, hreach⟩
    -- The start and what the climb yields together are closed under steps.
    have hstart : ∀ w, step v = some w → w = v ∨ w ∈ (Climb.start step v).rest step nodes := by
      intro w hw
      by_cases heq : w = v
      · exact .inl heq
      · rw [Climb.rest_of_upcoming hw (by simpa [Climb.start] using heq) (hnodes w (.single hw))]
        exact .inr List.mem_cons_self
    have hclosed : w = v ∨ w ∈ (Climb.start step v).rest step nodes := by
      induction hreach with
      | single hstep => exact hstart _ hstep
      | @tail u w hreach hstep ih =>
        by_cases hu : u = v
        · rw [hu] at hstep
          exact hstart w hstep
        · have hmem := (ih hu).resolve_left hu
          cases Climb.mem_rest_of_step hmem hstep (hnodes w (.tail hreach hstep)) with
          | inl h => exact .inr h
          | inr h => exact .inl (by simpa [Climb.start] using h)
    exact hclosed.resolve_left hne

theorem Climb.climbs_rest (rank : ν → Nat) {climb : Climb ν} (hupcoming : climb.upcoming = step v)
    (hnodes : ∀ v w, step v = some w → w ∈ nodes)
    (hrank : ∀ v w, step v = some w → rank w < rank v)
    (hpassed : ∀ w ∈ climb.passed, rank v ≤ rank w) : Climbs step v (climb.rest step nodes) := by
  fun_induction rest step nodes climb generalizing v with
  | case1 climb later hnext =>
    refine .top ?_
    cases hstep : step v with
    | none => rfl
    | some w =>
      rw [hstep] at hupcoming
      -- What has been passed has a higher rank than what comes.
      have hnew : w ∉ climb.passed := by
        intro hmem
        have := hpassed w hmem
        have := hrank v w hstep
        omega
      rw [next_of_upcoming hupcoming hnew] at hnext
      simp at hnext
  | case2 climb w later hnext hw ih =>
    obtain ⟨hw, -, rfl⟩ := next_eq_some hnext
    have hstep : step v = some w := by rw [← hupcoming, hw]
    refine .up hstep (ih rfl ?_)
    have hless := hrank v w hstep
    rw [show (climb.pass step w).passed = w :: climb.passed from rfl, List.forall_mem_cons]
    refine ⟨Nat.le_refl _, ?_⟩
    intro u hu
    have := hpassed u hu
    omega
  | case3 climb w later hnext hw =>
    obtain ⟨hnext, -, -⟩ := next_eq_some hnext
    exact absurd (hnodes v w (by rw [← hupcoming, hnext])) hw

theorem climbs_predecessorsIn (rank : ν → Nat) (hnodes : ∀ v w, step v = some w → w ∈ nodes)
    (hrank : ∀ v w, step v = some w → rank w < rank v) (v : ν) :
    Climbs step v (predecessorsIn nodes step v) := by
  apply Climb.climbs_rest rank rfl hnodes hrank
  simp [Climb.start]

theorem eval_allPredecessors {σ α : Type} {g : Graph ν} {follow : σ → ν → Option ν}
    {holds : α → ν → Bool} {way : σ} (part : Formula σ α)
    (habove : ∀ w, Reaches (follow way) v w → w ∈ g.above v) :
    (Formula.allPredecessors way part).eval g follow holds v ↔
      ∀ w, Relation.ReflTransGen (fun v w => follow way v = some w) v w →
        part.eval g follow holds w := by
  rw [Formula.eval, Bool.and_eq_true, List.all_eq_true]
  constructor
  · rintro ⟨hself, hpredecessors⟩ w hw
    rw [Relation.reflTransGen_iff_eq_or_transGen] at hw
    by_cases heq : w = v
    · rw [heq]
      exact hself
    · exact hpredecessors w ((mem_predecessorsIn habove).mpr ⟨heq, hw.resolve_left heq⟩)
  · intro h
    refine ⟨h v .refl, ?_⟩
    intro w hw
    exact h w ((mem_predecessorsIn habove).mp hw).2.to_reflTransGen

/--
From a node from which steps lead to finitely many others, a climb yields each of these once, in the
order in which the steps lead to them, and then nothing any more. What holds of some or of all
predecessors is what holds of some or of all nodes on the way.
-/
theorem climb_yields_predecessors (hfinite : {w | Reaches step v w}.Finite) :
    ∃ found : List ν,
      (∀ count, (Climb.start step v).yield step count = found[count]?)
      ∧ (v :: found).Nodup
      ∧ ((v :: found).IsChain fun v w => step v = some w)
      ∧ (∀ w, w ∈ found ↔ w ≠ v ∧ Reaches step v w)
      ∧ ∀ g : Graph ν, (∀ w, Reaches step v w → w ∈ g.above v) →
        g.predecessors step v = found
        ∧ ∀ (σ α : Type) (follow : σ → ν → Option ν) (holds : α → ν → Bool) (way : σ)
            (part : Formula σ α), follow way = step →
          ((Formula.anyPredecessor way part).eval g follow holds v ↔
            ∃ w, w ≠ v ∧ Reaches step v w ∧ part.eval g follow holds w)
          ∧ ((Formula.allPredecessors way part).eval g follow holds v ↔
            ∀ w, Relation.ReflTransGen (fun v w => step v = some w) v w →
              part.eval g follow holds w) := by
  obtain ⟨nodes, hmem⟩ := hfinite.exists_finset_coe
  have hnodes : ∀ w, Reaches step v w → w ∈ nodes.toList := by
    intro w hw
    rw [Finset.mem_toList, ← Finset.mem_coe, hmem]
    exact hw
  refine ⟨predecessorsIn nodes.toList step v, Climb.yield_eq_getElem?_rest rfl hnodes, ?_,
    Climb.isChain_rest rfl, fun w => mem_predecessorsIn hnodes, ?_⟩
  · rw [List.nodup_cons]
    refine ⟨?_, Climb.nodup_rest _ _ _⟩
    intro h
    exact ((mem_predecessorsIn hnodes).mp h).1 rfl
  · intro g habove
    constructor
    · -- Both lists are what the climb yields.
      apply List.ext_getElem?
      intro count
      exact (Climb.yield_eq_getElem?_rest rfl habove count).symm.trans
        (Climb.yield_eq_getElem?_rest rfl hnodes count)
    · intro σ α follow holds way part hfollow
      subst hfollow
      refine ⟨?_, eval_allPredecessors part habove⟩
      rw [Formula.eval, List.any_eq_true]
      simp only [Graph.predecessors, mem_predecessorsIn habove, and_assoc]

/-- Steps from 0 to a circle of 1 and 2. -/
theorem climb_yields_predecessors_circle :
    let step : Fin 3 → Option (Fin 3) := fun v => some (if v = 2 then 1 else v + 1)
    {w | Reaches step 0 w}.Finite ∧ ∀ count, (Climb.start step 0).yield step count = [1, 2][count]? := by
  intro step
  have hfinite : {w | Reaches step 0 w}.Finite := Set.toFinite _
  refine ⟨hfinite, ?_⟩
  obtain ⟨found, hyield, -⟩ := climb_yields_predecessors hfinite
  have hfound : found = [1, 2] := by
    have h₀ : found[0]? = some 1 := by rw [← hyield]; decide
    have h₁ : found[1]? = some 2 := by rw [← hyield]; decide
    have h₂ : found[2]? = none := by rw [← hyield]; decide
    match found with
    | [a, b] => simp_all
    | [] | [_] | _ :: _ :: _ :: _ => simp_all
  rw [hfound] at hyield
  exact hyield

end CursorQuery
