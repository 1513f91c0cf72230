import CursorQuery.Model.Predecessors

/-!
This module contains formulas: predicates on the nodes of a graph that are built from leaf tests by
the boolean connectives and by looking at children and at predecessors. A formula can be evaluated,
and it can be traced, which also lists the leaf tests that were run.
-/

namespace CursorQuery

inductive Formula (σ α : Type) where
  | leaf (test : α)
  | all (parts : List (Formula σ α))
  | any (parts : List (Formula σ α))
  | not (part : Formula σ α)
  | anyChild (part : Formula σ α)
  | allChildren (part : Formula σ α)
  | anyPredecessor (step : σ) (part : Formula σ α)
  /-- The node itself and every predecessor satisfy the part. -/
  | allPredecessors (step : σ) (part : Formula σ α)

namespace Formula

variable {σ α β ε ν : Type}

section Eval

variable [DecidableEq ν] (g : Graph ν) (follow : σ → ν → Option ν) (holds : α → ν → Bool)

mutual

def eval : Formula σ α → ν → Bool
  | leaf test, v => holds test v
  | all parts, v => evalAll parts v
  | any parts, v => evalAny parts v
  | not part, v => !eval part v
  | anyChild part, v => (g.children v).any (eval part)
  | allChildren part, v => (g.children v).all (eval part)
  | anyPredecessor step part, v => (g.predecessors (follow step) v).any (eval part)
  | allPredecessors step part, v =>
    eval part v && (g.predecessors (follow step) v).all (eval part)

def evalAll : List (Formula σ α) → ν → Bool
  | [], _ => true
  | part :: parts, v => eval part v && evalAll parts v

def evalAny : List (Formula σ α) → ν → Bool
  | [], _ => false
  | part :: parts, v => eval part v || evalAny parts v

end

end Eval

structure Record (α ν : Type) where
  test : α
  node : ν
  answer : Bool

structure Traced (α ν : Type) where
  answer : Bool
  log : List (Record α ν)

namespace Traced

def orElse (decisive : Bool) (first : Traced α ν) (second : Unit → Traced α ν) : Traced α ν :=
  if first.answer == decisive then first
  else
    let later := second ()
    { later with log := first.log ++ later.log }

def untilAnswer (decisive : Bool) (run : ν → Traced α ν) : List ν → Traced α ν
  | [] => { answer := !decisive, log := [] }
  | v :: rest => orElse decisive (run v) fun _ => untilAnswer decisive run rest

end Traced

section Trace

variable [DecidableEq ν] (g : Graph ν) (follow : σ → ν → Option ν) (holds : α → ν → Bool)

mutual

/--
Evaluates a formula and lists the leaf tests that are run. Evaluation goes from left to right and
stops as soon as the answer is known.
-/
def trace : Formula σ α → ν → Traced α ν
  | leaf test, v =>
    let answer := holds test v
    { answer, log := [{ test, node := v, answer }] }
  | all parts, v => traceUntil false parts v
  | any parts, v => traceUntil true parts v
  | not part, v =>
    let inner := trace part v
    { inner with answer := !inner.answer }
  | anyChild part, v => Traced.untilAnswer true (trace part) (g.children v)
  | allChildren part, v => Traced.untilAnswer false (trace part) (g.children v)
  | anyPredecessor step part, v =>
    Traced.untilAnswer true (trace part) (g.predecessors (follow step) v)
  | allPredecessors step part, v =>
    Traced.untilAnswer false (trace part) (v :: g.predecessors (follow step) v)

def traceUntil (decisive : Bool) : List (Formula σ α) → ν → Traced α ν
  | [], _ => { answer := !decisive, log := [] }
  | part :: parts, v =>
    Traced.orElse decisive (trace part v) fun _ => traceUntil decisive parts v

end

end Trace

mutual

def mapLeaves (f : α → Except ε β) : Formula σ α → Except ε (Formula σ β)
  | leaf test => (f test).map leaf
  | all parts => (mapLeavesOfList f parts).map all
  | any parts => (mapLeavesOfList f parts).map any
  | not part => (mapLeaves f part).map not
  | anyChild part => (mapLeaves f part).map anyChild
  | allChildren part => (mapLeaves f part).map allChildren
  | anyPredecessor step part => (mapLeaves f part).map (anyPredecessor step)
  | allPredecessors step part => (mapLeaves f part).map (allPredecessors step)

def mapLeavesOfList (f : α → Except ε β) : List (Formula σ α) → Except ε (List (Formula σ β))
  | [] => .ok []
  | part :: parts =>
    match mapLeaves f part with
    | .error e => .error e
    | .ok part' => (mapLeavesOfList f parts).map (part' :: ·)

end

end Formula
end CursorQuery
