import Bbd.Lib.Runs
import Mathlib.Data.List.Induction
import Mathlib.Logic.Function.Basic

/-!
# Histories of assignments to a map

A map `κ → Option β` whose keys are fixed once and for all: `assign m (k, b)` overwrites the value
of a key that is present and leaves an absent key absent.  After a history of assignments a key
holds what was last assigned to it, or what it held at the start (`run_assign`).
-/

namespace Assignments

open Runs

variable {κ β : Type*} [DecidableEq κ]

/-- Assign the value `a.2` to the key `a.1`, where the key is present. -/
def assign (m : κ → Option β) (a : κ × β) : κ → Option β :=
  Function.update m a.1 ((m a.1).map fun _ => a.2)

/-- The value last assigned to `k` in a history, if any. -/
def lastAssigned (k : κ) (as : List (κ × β)) : Option β :=
  (as.filter fun a => a.1 = k).getLast?.map (·.2)

variable (m : κ → Option β) (a : κ × β) (as : List (κ × β)) (k : κ)

@[simp] theorem assign_self : assign m a a.1 = (m a.1).map fun _ => a.2 :=
  Function.update_self _ _ _

variable {a k} in
@[simp] theorem assign_of_ne (h : k ≠ a.1) : assign m a k = m k :=
  Function.update_of_ne h _ _

@[simp] theorem lastAssigned_nil : lastAssigned k ([] : List (κ × β)) = none := rfl

theorem lastAssigned_append_singleton :
    lastAssigned k (as ++ [a]) = if a.1 = k then some a.2 else lastAssigned k as := by
  unfold lastAssigned
  by_cases h : a.1 = k
  · simp [h]
  · simp [h]

/-- After a history a key holds what was last assigned to it, or what it held before; its presence
never changes. -/
theorem run_assign : run assign m as k = (m k).map fun b => (lastAssigned k as).getD b := by
  induction as using List.reverseRecOn with
  | nil => simp
  | append_singleton as a ih =>
    rw [run_append, run_cons, run_nil, lastAssigned_append_singleton]
    by_cases h : a.1 = k
    · subst h
      rw [assign_self, ih, if_pos rfl, Option.map_map]
      rfl
    · rw [assign_of_ne _ (Ne.symm h), ih, if_neg h]

end Assignments
