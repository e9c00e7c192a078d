import Bbd.Client.ValveManager
import Bbd.Lib.Assignments

/-!
# The valve map over a history of sets

What the valve manager is for is a map from valve ids to states whose keys are the ids it was
initialised with.  `vmRead` is the abstraction function: it takes the array, duplicates and all,
to that map, `vm_set_valve_state` to an assignment (`vmRead_set_eq_assign`), and so a history of
sets to a history of assignments (`vmRead_run_set`).
-/

namespace Bbd.Client

open Runs Assignments

/-- One call of `vm_set_valve_state` and the map it leaves. -/
def vmSet (map : ValvesMap) (call : UInt16 × ValveState) : ValvesMap :=
  (vmSetValveState call.1 call.2 map).2

/-- A set on the array is an assignment on the map it stands for. -/
theorem vmRead_set_eq_assign (map : ValvesMap) (call : UInt16 × ValveState) :
    vmRead (vmSet map call) = assign (vmRead map) call := by
  funext v
  by_cases h : v = call.1
  · subst h
    rw [assign_self]
    exact vmRead_set _ _ _
  · rw [assign_of_ne _ h]
    exact vmRead_set_of_ne h _ _

theorem vmRead_run_set (map : ValvesMap) (calls : List (UInt16 × ValveState)) :
    vmRead (run vmSet map calls) = run assign (vmRead map) calls := by
  induction calls generalizing map with
  | nil => rfl
  | cons call calls ih => rw [run_cons, run_cons, ih, vmRead_set_eq_assign]

theorem vmSetValveState_fst (v : UInt16) (st : ValveState) (map : ValvesMap) :
    (vmSetValveState v st map).1 = if (vmRead map v).isSome then 0 else 1 := by
  induction map with
  | nil => rfl
  | cons e es ih =>
    rw [vmSetValveState, vmRead_cons]
    by_cases h : e.vId = v <;> simp [h, ih]

/-- A set to an unknown id leaves the array itself as it was. -/
theorem vmSetValveState_of_unknown {v : UInt16} {map : ValvesMap} (h : vmRead map v = none)
    (st : ValveState) : vmSetValveState v st map = (1, map) := by
  induction map with
  | nil => rfl
  | cons e es ih =>
    rw [vmRead_cons] at h
    split_ifs at h with hid
    rw [vmSetValveState, ih h]
    simp [hid]

/-- After any history of sets the map reads, at the ids it was initialised with, the last state
set. -/
theorem vmRead_history (valveIds : List UInt16) (calls : List (UInt16 × ValveState)) (v : UInt16) :
    vmRead (run vmSet (vmInitSetValves valveIds) calls) v =
      if v ∈ valveIds then some ((lastAssigned v calls).getD .closed) else none := by
  rw [vmRead_run_set, run_assign, vmRead_init]
  split_ifs <;> rfl

/-- The valve map is a faithful finite map: whatever ids it is initialised with, duplicates
included, and whatever sets it has seen, a get finds the last state set (`CLOSED` if none) of an id
that is in the list and fails, its output untouched, for one that is not; a set of an unknown id
fails and changes nothing; and a set never changes what another id reads. -/
theorem valve_map_faithful (valveIds : List UInt16) (calls : List (UInt16 × ValveState)) :
    (∀ v out, vmGetValveState v out (run vmSet (vmInitSetValves valveIds) calls) =
      if v ∈ valveIds then (0, (lastAssigned v calls).getD .closed) else (1, out)) ∧
    (∀ v st, (vmSetValveState v st (run vmSet (vmInitSetValves valveIds) calls)).1 =
      if v ∈ valveIds then 0 else 1) ∧
    (∀ v st, v ∉ valveIds →
      vmSetValveState v st (run vmSet (vmInitSetValves valveIds) calls) =
        (1, run vmSet (vmInitSetValves valveIds) calls)) ∧
    ∀ v st w out, w ≠ v →
      vmGetValveState w out (vmSet (run vmSet (vmInitSetValves valveIds) calls) (v, st)) =
        vmGetValveState w out (run vmSet (vmInitSetValves valveIds) calls) := by
  have hread := vmRead_history valveIds calls
  refine ⟨fun v out => ?_, fun v st => ?_, fun v st hv => ?_, fun v st w out hw => ?_⟩
  · rw [vmGetValveState_eq, hread]
    split_ifs <;> rfl
  · rw [vmSetValveState_fst, hread]
    by_cases hv : v ∈ valveIds <;> simp [hv]
  · exact vmSetValveState_of_unknown (by rw [hread, if_neg hv]) st
  · rw [vmGetValveState_eq, vmGetValveState_eq, vmRead_set_eq_assign, assign_of_ne _ hw]

/-- Id 7 twice in the list: both sets and the get meet the first of the two entries. -/
example : vmGetValveState 7 .closed
    (run vmSet (vmInitSetValves [7, 3, 7]) [(7, .closed), (3, .closed), (7, .opened), (9, .closed)])
      = (0, .opened) := by decide

end Bbd.Client
