import CursorQuery.Model.Basic

/-!
This module contains predecessors: what is reached by following a step, such as the one to the parent,
again and again. A climb yields them one by one. It ends when there is no next node or when it would
come back to a node it has passed.
-/

namespace CursorQuery

variable {ν : Type} [DecidableEq ν]

structure Climb (ν : Type) where
  upcoming : Option ν
  passed : List ν

namespace Climb

def start (step : ν → Option ν) (v : ν) : Climb ν where
  upcoming := step v
  passed := [v]

def pass (climb : Climb ν) (step : ν → Option ν) (v : ν) : Climb ν where
  upcoming := step v
  passed := v :: climb.passed

def next (step : ν → Option ν) (climb : Climb ν) : Option ν × Climb ν :=
  match climb.upcoming with
  | none => (none, climb)
  | some v =>
    if v ∈ climb.passed then (none, { climb with upcoming := none })
    else (some v, climb.pass step v)

theorem next_eq_some {step : ν → Option ν} {climb later : Climb ν} {v : ν}
    (h : climb.next step = (some v, later)) :
    climb.upcoming = some v ∧ v ∉ climb.passed ∧ later = climb.pass step v := by
  unfold next at h
  split at h
  · simp at h
  · next w hupcoming =>
    split at h
    · simp at h
    · next hnew =>
      obtain ⟨rfl, rfl⟩ := by simpa using h
      exact ⟨hupcoming, hnew, rfl⟩

def ahead (nodes : List ν) (climb : Climb ν) : List ν :=
  nodes.filter fun w => w ∉ climb.passed

theorem length_ahead_pass_lt {nodes : List ν} {climb : Climb ν} {v : ν} (hv : v ∈ nodes)
    (hnew : v ∉ climb.passed) (step : ν → Option ν) :
    ((climb.pass step v).ahead nodes).length < (climb.ahead nodes).length := by
  have hless : (climb.pass step v).ahead nodes = (climb.ahead nodes).filter (· ≠ v) := by
    simp [ahead, pass, List.filter_filter]
  rw [hless]
  apply List.length_filter_lt_length_iff_exists.mpr
  exact ⟨v, by simp [ahead, hv, hnew], by simp⟩

def rest (step : ν → Option ν) (nodes : List ν) (climb : Climb ν) : List ν :=
  match _h : climb.next step with
  | (none, _) => []
  | (some v, later) => if v ∈ nodes then v :: rest step nodes later else []
termination_by (climb.ahead nodes).length
decreasing_by
  obtain ⟨-, hnew, rfl⟩ := next_eq_some _h
  exact length_ahead_pass_lt ‹_› hnew step

end Climb

def predecessorsIn (nodes : List ν) (step : ν → Option ν) (v : ν) : List ν :=
  (Climb.start step v).rest step nodes

namespace Graph

/-- The nodes above `v` that are reached by one or more steps, nearest first, without `v`. -/
def predecessors (g : Graph ν) (step : ν → Option ν) (v : ν) : List ν :=
  predecessorsIn (g.above v) step v

end Graph
end CursorQuery
