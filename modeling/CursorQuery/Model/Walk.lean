import CursorQuery.Model.Basic

/-!
This module contains the walk over a subtree in pre-order. A walk can be stopped after any number of
matches and taken up again; its state is the agenda of what is left to visit. Every step records the
nodes on which the predicate was run.
-/

namespace CursorQuery

structure Agenda (ν : Type) where
  pending : Option ν
  stack : List (List ν)

namespace Agenda

variable {ν : Type}

def start (root : ν) : Agenda ν where
  pending := some root
  stack := []

def finished : Agenda ν where
  pending := none
  stack := []

def nodes (agenda : Agenda ν) : List ν :=
  agenda.pending.toList ++ agenda.stack.flatten

def popStack : List (List ν) → Option (ν × List (List ν))
  | [] => none
  | [] :: stack => popStack stack
  | (v :: vs) :: stack => some (v, vs :: stack)

def advance (agenda : Agenda ν) : Option (ν × Agenda ν) :=
  match agenda.pending with
  | some v => some (v, { agenda with pending := none })
  | none => (popStack agenda.stack).map fun (v, stack) => (v, { pending := none, stack })

def enter (agenda : Agenda ν) (children : List ν) : Agenda ν :=
  { agenda with stack := children :: agenda.stack }

theorem popStack_eq_none {stack : List (List ν)} (h : popStack stack = none) :
    stack.flatten = [] := by
  fun_induction popStack stack with
  | case1 => rfl
  | case2 stack ih => simpa using ih h
  | case3 => simp at h

theorem popStack_eq_some {stack rest : List (List ν)} {v : ν} (h : popStack stack = some (v, rest)) :
    stack.flatten = v :: rest.flatten := by
  fun_induction popStack stack with
  | case1 => simp at h
  | case2 stack ih => simpa using ih h
  | case3 w vs stack =>
    obtain ⟨rfl, rfl⟩ := by simpa using h
    simp

theorem advance_eq_none {agenda : Agenda ν} (h : agenda.advance = none) : agenda.nodes = [] := by
  unfold advance at h
  split at h
  · simp at h
  · next hpending =>
    have hstack := popStack_eq_none (Option.map_eq_none_iff.mp h)
    simp [nodes, hpending, hstack]

theorem advance_eq_some {agenda rest : Agenda ν} {v : ν} (h : agenda.advance = some (v, rest)) :
    agenda.nodes = v :: rest.nodes ∧ rest.pending = none := by
  unfold advance at h
  split at h
  · next hpending =>
    obtain ⟨rfl, rfl⟩ := by simpa using h
    simp [nodes, hpending]
  · next hpending =>
    obtain ⟨⟨w, stack⟩, hstack, hrest⟩ := Option.map_eq_some_iff.mp h
    obtain ⟨rfl, rfl⟩ := by simpa using hrest
    simp [nodes, hpending, popStack_eq_some hstack]

end Agenda

namespace Model

variable {ν : Type}

def weight (m : Model ν) (agenda : Agenda ν) : Nat :=
  Tree.forestSize (agenda.nodes.map m.tree)

theorem weight_enter (m : Model ν) {agenda rest : Agenda ν} {v : ν}
    (h : agenda.advance = some (v, rest)) :
    m.weight agenda = m.weight (rest.enter (m.children v)) + 1 := by
  obtain ⟨hnodes, hpending⟩ := Agenda.advance_eq_some h
  have henter : (rest.enter (m.children v)).nodes = m.children v ++ rest.nodes := by
    simp [Agenda.nodes, Agenda.enter, hpending]
  simp only [weight, hnodes, henter, List.map_cons, List.map_append, Tree.forestSize,
    Tree.forestSize_append]
  rw [tree_eq, Tree.size]
  omega

structure Advance (ν : Type) where
  tested : List ν
  found : Option ν
  agenda : Agenda ν

/--
Searches the agenda for the next node that satisfies `p`. The children of a node are visited right
after it, whether it satisfies `p` or not.
-/
def next (m : Model ν) (p : ν → Bool) (agenda : Agenda ν) : Advance ν :=
  match _h : agenda.advance with
  | none => { tested := [], found := none, agenda := .finished }
  | some (v, rest) =>
    let entered := rest.enter (m.children v)
    if p v then
      { tested := [v], found := some v, agenda := entered }
    else
      let later := m.next p entered
      { later with tested := v :: later.tested }
termination_by m.weight agenda
decreasing_by simp [m.weight_enter _h]

structure Progress (ν : Type) where
  found : List ν
  tested : List ν
  agenda : Agenda ν

def take (m : Model ν) (p : ν → Bool) (count : Nat) (agenda : Agenda ν) : Progress ν :=
  match count with
  | 0 => { found := [], tested := [], agenda }
  | count + 1 =>
    let first := m.next p agenda
    match first.found with
    | none => { found := [], tested := first.tested, agenda := first.agenda }
    | some v =>
      let later := m.take p count first.agenda
      { later with found := v :: later.found, tested := first.tested ++ later.tested }

def takeAll (m : Model ν) (p : ν → Bool) (agenda : Agenda ν) : Progress ν :=
  m.take p (m.weight agenda + 1) agenda

def walk (m : Model ν) (p : ν → Bool) (root : ν) (limit : Option Nat := none) : Progress ν :=
  match limit with
  | some count => m.take p count (.start root)
  | none => m.takeAll p (.start root)

def search (m : Model ν) (p : ν → Bool) (root : ν) : List ν :=
  (m.walk p root).found

def descendants (m : Model ν) (root : ν) (limit : Option Nat := none) : List ν :=
  (m.walk (fun _ => true) root limit).found

end Model
end CursorQuery
