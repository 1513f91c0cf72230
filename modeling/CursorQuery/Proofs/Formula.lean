import Mathlib.Data.List.Forall2
import CursorQuery.Formula
import CursorQuery.Proofs.Predecessors

/-!
This module contains the theory of formulas: their meaning as propositions, their leaf tests from left
to right, what it takes to apply a function that can fail to all of these, and that tracing a formula
does not change its answer.
-/

namespace CursorQuery
namespace Formula

variable {σ α β ε ν : Type}

@[induction_eliminator]
theorem induct {motive : Formula σ α → Prop} (leaf : ∀ test, motive (.leaf test))
    (all : ∀ parts, (∀ part ∈ parts, motive part) → motive (.all parts))
    (any : ∀ parts, (∀ part ∈ parts, motive part) → motive (.any parts))
    (not : ∀ part, motive part → motive (.not part))
    (anyChild : ∀ part, motive part → motive (.anyChild part))
    (allChildren : ∀ part, motive part → motive (.allChildren part))
    (anyPredecessor : ∀ step part, motive part → motive (.anyPredecessor step part))
    (allPredecessors : ∀ step part, motive part → motive (.allPredecessors step part))
    (formula : Formula σ α) : motive formula := by
  -- The generated principle has a motive for lists of formulas. Here members take its place.
  have ih (part : Formula σ α) (_h : sizeOf part < sizeOf formula) : motive part :=
    induct leaf all any not anyChild allChildren anyPredecessor allPredecessors part
  match formula with
  | .leaf test => exact leaf test
  | .all parts =>
    apply all
    intro part hpart
    have := List.sizeOf_lt_of_mem hpart
    exact ih part (by simp only [Formula.all.sizeOf_spec]; omega)
  | .any parts =>
    apply any
    intro part hpart
    have := List.sizeOf_lt_of_mem hpart
    exact ih part (by simp only [Formula.any.sizeOf_spec]; omega)
  | .not part => exact not part (ih part (by simp))
  | .anyChild part => exact anyChild part (ih part (by simp))
  | .allChildren part => exact allChildren part (ih part (by simp))
  | .anyPredecessor step part => exact anyPredecessor step part (ih part (by simp))
  | .allPredecessors step part => exact allPredecessors step part (ih part (by simp))
termination_by sizeOf formula

mutual

def leaves : Formula σ α → List α
  | leaf test => [test]
  | all parts | any parts => leavesOfList parts
  | not part | anyChild part | allChildren part => leaves part
  | anyPredecessor _ part | allPredecessors _ part => leaves part

def leavesOfList : List (Formula σ α) → List α
  | [] => []
  | part :: parts => leaves part ++ leavesOfList parts

end

section MapLeaves

theorem map_eq_ok {γ : Type} {g : β → γ} {x : Except ε β} {c : γ} (h : x.map g = .ok c) :
    ∃ b, x = .ok b ∧ g b = c := by
  cases x with
  | error e => contradiction
  | ok b => exact ⟨b, rfl, Except.ok.inj h⟩

variable {f : α → Except ε β}

theorem map_leavesOfList_mapLeavesOfList {parts : List (Formula σ α)}
    (h : ∀ part ∈ parts, (part.mapLeaves f).map leaves = part.leaves.mapM f) :
    (mapLeavesOfList f parts).map leavesOfList = (leavesOfList parts).mapM f := by
  induction parts with
  | nil => rfl
  | cons part parts ih =>
    rw [List.forall_mem_cons] at h
    unfold mapLeavesOfList leavesOfList
    rw [List.mapM_append, ← h.1, ← ih h.2]
    cases mapLeaves f part with
    | error e => rfl
    | ok part' =>
      cases mapLeavesOfList f parts with
      | error e => rfl
      | ok parts' => rfl

theorem map_leaves_mapLeaves (f : α → Except ε β) (formula : Formula σ α) :
    (formula.mapLeaves f).map leaves = formula.leaves.mapM f := by
  induction formula with
  | leaf test =>
    unfold mapLeaves leaves
    rw [List.mapM_cons, List.mapM_nil]
    cases f test with
    | error e => rfl
    | ok test' => rfl
  | all parts ih | any parts ih =>
    unfold mapLeaves leaves
    rw [← map_leavesOfList_mapLeavesOfList ih]
    cases mapLeavesOfList f parts with
    | error e => rfl
    | ok parts' => rfl
  | not part ih | anyChild part ih | allChildren part ih =>
    unfold mapLeaves leaves
    rw [← ih]
    cases mapLeaves f part with
    | error e => rfl
    | ok part' => rfl
  | anyPredecessor step part ih | allPredecessors step part ih =>
    unfold mapLeaves leaves
    rw [← ih]
    cases mapLeaves f part with
    | error e => rfl
    | ok part' => rfl

def failure? (f : α → Except ε β) (a : α) : Option ε :=
  match f a with
  | .ok _ => none
  | .error e => some e

theorem failure?_of_ok {a : α} {b : β} (h : f a = .ok b) : failure? f a = none := by
  unfold failure?
  rw [h]

theorem failure?_of_error {a : α} {e : ε} (h : f a = .error e) : failure? f a = some e := by
  unfold failure?
  rw [h]

theorem mapM_eq_error_iff {l : List α} {e : ε} :
    l.mapM f = .error e ↔ l.findSome? (failure? f) = some e := by
  induction l with
  | nil =>
    constructor
    · intro h
      contradiction
    · intro h
      simp at h
  | cons a l ih =>
    rw [List.mapM_cons, List.findSome?_cons]
    cases h : f a with
    | error e' =>
      rw [failure?_of_error h]
      simp [bind, Except.bind]
    | ok b =>
      rw [failure?_of_ok h]
      dsimp only
      rw [← ih]
      cases l.mapM f with
      | error e' => simp [bind, Except.bind]
      | ok bs => simp [bind, Except.bind, pure, Except.pure]

theorem mapLeaves_eq_error_iff {formula : Formula σ α} {e : ε} :
    formula.mapLeaves f = .error e ↔ formula.leaves.findSome? (failure? f) = some e := by
  rw [← mapM_eq_error_iff, ← map_leaves_mapLeaves]
  cases formula.mapLeaves f with
  | error e' => simp [Except.map]
  | ok formula' => simp [Except.map]

theorem forall₂_of_mapLeavesOfList {parts : List (Formula σ α)} {parts' : List (Formula σ β)}
    (h : mapLeavesOfList f parts = .ok parts') :
    List.Forall₂ (fun part part' => part.mapLeaves f = .ok part') parts parts' := by
  induction parts generalizing parts' with
  | nil =>
    obtain rfl : [] = parts' := by simpa [mapLeavesOfList] using h
    exact .nil
  | cons part parts ih =>
    unfold mapLeavesOfList at h
    split at h
    · contradiction
    · next part' hpart =>
      obtain ⟨rest, hrest, rfl⟩ := map_eq_ok h
      exact .cons hpart (ih hrest)

end MapLeaves

section Denotes

variable (g : Graph ν) (follow : σ → ν → Option ν) (holds : α → ν → Prop)

/-- The meaning of a formula at a node. -/
def Denotes : Formula σ α → ν → Prop
  | leaf test, v => holds test v
  | all parts, v => ∀ part, part ∈ parts → Denotes part v
  | any parts, v => ∃ part, ∃ _ : part ∈ parts, Denotes part v
  | not part, v => ¬ Denotes part v
  | anyChild part, v => ∃ c ∈ g.children v, Denotes part c
  | allChildren part, v => ∀ c ∈ g.children v, Denotes part c
  | anyPredecessor step part, v => ∃ w, w ≠ v ∧ Reaches (follow step) v w ∧ Denotes part w
  | allPredecessors step part, v =>
    Denotes part v ∧ ∀ w, Reaches (follow step) v w → Denotes part w
termination_by formula => sizeOf formula

end Denotes

section Eval

variable [DecidableEq ν] {g : Graph ν} {follow : σ → ν → Option ν}

theorem evalAll_eq_all (holds : α → ν → Bool) (parts : List (Formula σ α)) (v : ν) :
    evalAll g follow holds parts v = parts.all fun part => part.eval g follow holds v := by
  induction parts with
  | nil => rfl
  | cons part parts ih =>
    rw [evalAll, ih, List.all_cons]

theorem evalAny_eq_any (holds : α → ν → Bool) (parts : List (Formula σ α)) (v : ν) :
    evalAny g follow holds parts v = parts.any fun part => part.eval g follow holds v := by
  induction parts with
  | nil => rfl
  | cons part parts ih =>
    rw [evalAny, ih, List.any_cons]

section Lists

variable {R : Formula σ α → Formula σ β → Prop} {p : Formula σ β → Bool} {P : Formula σ α → Prop}
  {parts : List (Formula σ α)} {parts' : List (Formula σ β)}

theorem all_iff_of_forall₂ (h : List.Forall₂ R parts parts')
    (hp : ∀ part ∈ parts, ∀ part', R part part' → (p part' = true ↔ P part)) :
    parts'.all p = true ↔ ∀ part ∈ parts, P part := by
  induction h with
  | nil => simp
  | cons hpart _ ih =>
    rw [List.forall_mem_cons] at hp
    rw [List.all_cons, Bool.and_eq_true, List.forall_mem_cons, hp.1 _ hpart, ih hp.2]

theorem any_iff_of_forall₂ (h : List.Forall₂ R parts parts')
    (hp : ∀ part ∈ parts, ∀ part', R part part' → (p part' = true ↔ P part)) :
    parts'.any p = true ↔ ∃ part ∈ parts, P part := by
  induction h with
  | nil => simp
  | cons hpart _ ih =>
    rw [List.forall_mem_cons] at hp
    rw [List.any_cons, Bool.or_eq_true, List.exists_mem_cons_iff, hp.1 _ hpart, ih hp.2]

end Lists

variable {f : α → Except ε β} {holds : β → ν → Bool} {means : α → ν → Prop}

theorem eval_mapLeaves (hsteps : ∀ step v w, w ∈ g.predecessors (follow step) v ↔
      w ≠ v ∧ Reaches (follow step) v w)
    (hleaves : ∀ test test', f test = .ok test' → ∀ v, holds test' v = true ↔ means test v)
    (formula : Formula σ α) {compiled : Formula σ β} (h : formula.mapLeaves f = .ok compiled)
    (v : ν) : compiled.eval g follow holds v = true ↔ formula.Denotes g follow means v := by
  induction formula generalizing compiled v with
  | leaf test =>
    obtain ⟨test', htest, rfl⟩ := map_eq_ok h
    rw [Denotes]
    exact hleaves test test' htest v
  | all parts ih =>
    obtain ⟨parts', hparts, rfl⟩ := map_eq_ok h
    rw [Denotes, eval, evalAll_eq_all]
    -- The compiled parts correspond to the parts one by one.
    apply all_iff_of_forall₂ (forall₂_of_mapLeavesOfList hparts)
    intro part hpart part' hmapped
    exact ih part hpart hmapped v
  | any parts ih =>
    obtain ⟨parts', hparts, rfl⟩ := map_eq_ok h
    rw [Denotes, eval, evalAny_eq_any]
    simp only [exists_prop]
    apply any_iff_of_forall₂ (forall₂_of_mapLeavesOfList hparts)
    intro part hpart part' hmapped
    exact ih part hpart hmapped v
  | not part ih =>
    obtain ⟨part', hpart, rfl⟩ := map_eq_ok h
    rw [Denotes, eval, ← ih hpart v]
    simp
  | anyChild part ih =>
    obtain ⟨part', hpart, rfl⟩ := map_eq_ok h
    rw [Denotes, eval, List.any_eq_true]
    simp only [ih hpart]
  | allChildren part ih =>
    obtain ⟨part', hpart, rfl⟩ := map_eq_ok h
    rw [Denotes, eval, List.all_eq_true]
    simp only [ih hpart]
  | anyPredecessor step part ih =>
    obtain ⟨part', hpart, rfl⟩ := map_eq_ok h
    rw [Denotes, eval, List.any_eq_true]
    simp only [ih hpart, hsteps, and_assoc]
  | allPredecessors step part ih =>
    obtain ⟨part', hpart, rfl⟩ := map_eq_ok h
    rw [Denotes, eval, Bool.and_eq_true, List.all_eq_true]
    simp only [ih hpart, hsteps]
    constructor
    · rintro ⟨hself, habove⟩
      refine ⟨hself, ?_⟩
      intro w hw
      -- In a circle the node reaches itself, which is not among its predecessors.
      by_cases heq : w = v
      · rw [heq]
        exact hself
      · exact habove w ⟨heq, hw⟩
    · rintro ⟨hself, habove⟩
      exact ⟨hself, fun w hw => habove w hw.2⟩

end Eval

section Trace

namespace Traced

theorem answer_orElse_true (first : Traced α ν) (second : Unit → Traced α ν) :
    (orElse true first second).answer = (first.answer || (second ()).answer) := by
  unfold orElse
  cases h : first.answer with
  | true => simp [h]
  | false => simp

theorem answer_orElse_false (first : Traced α ν) (second : Unit → Traced α ν) :
    (orElse false first second).answer = (first.answer && (second ()).answer) := by
  unfold orElse
  cases h : first.answer with
  | true => simp
  | false => simp [h]

theorem answer_untilAnswer_true (run : ν → Traced α ν) (nodes : List ν) :
    (untilAnswer true run nodes).answer = nodes.any fun v => (run v).answer := by
  induction nodes with
  | nil => rfl
  | cons v rest ih =>
    rw [untilAnswer, answer_orElse_true, ih, List.any_cons]

theorem answer_untilAnswer_false (run : ν → Traced α ν) (nodes : List ν) :
    (untilAnswer false run nodes).answer = nodes.all fun v => (run v).answer := by
  induction nodes with
  | nil => rfl
  | cons v rest ih =>
    rw [untilAnswer, answer_orElse_false, ih, List.all_cons]

end Traced

variable [DecidableEq ν] (g : Graph ν) (follow : σ → ν → Option ν) (holds : α → ν → Bool)

theorem answer_traceUntil_true (parts : List (Formula σ α)) (v : ν) :
    (traceUntil g follow holds true parts v).answer =
      parts.any fun part => (part.trace g follow holds v).answer := by
  induction parts with
  | nil => rfl
  | cons part parts ih =>
    rw [traceUntil, Traced.answer_orElse_true, ih, List.any_cons]

theorem answer_traceUntil_false (parts : List (Formula σ α)) (v : ν) :
    (traceUntil g follow holds false parts v).answer =
      parts.all fun part => (part.trace g follow holds v).answer := by
  induction parts with
  | nil => rfl
  | cons part parts ih =>
    rw [traceUntil, Traced.answer_orElse_false, ih, List.all_cons]

theorem answer_trace (formula : Formula σ α) (v : ν) :
    (formula.trace g follow holds v).answer = formula.eval g follow holds v := by
  induction formula generalizing v with
  | leaf test => rw [trace, eval]
  | all parts ih =>
    rw [trace, eval, answer_traceUntil_false, evalAll_eq_all]
    rw [Bool.eq_iff_iff, List.all_eq_true, List.all_eq_true]
    exact forall₂_congr fun part hpart => by rw [ih part hpart]
  | any parts ih =>
    rw [trace, eval, answer_traceUntil_true, evalAny_eq_any]
    rw [Bool.eq_iff_iff, List.any_eq_true, List.any_eq_true]
    exact exists_congr fun part => and_congr_right fun hpart => by rw [ih part hpart]
  | not part ih => rw [trace, eval, ih]
  | anyChild part ih =>
    rw [trace, eval, Traced.answer_untilAnswer_true]
    simp only [ih]
  | allChildren part ih =>
    rw [trace, eval, Traced.answer_untilAnswer_false]
    simp only [ih]
  | anyPredecessor step part ih =>
    rw [trace, eval, Traced.answer_untilAnswer_true]
    simp only [ih]
  | allPredecessors step part ih =>
    rw [trace, eval, Traced.answer_untilAnswer_false, List.all_cons]
    simp only [ih]

end Trace

end Formula
end CursorQuery
