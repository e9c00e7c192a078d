import Mathlib.Data.List.Nodup
import Mathlib.Data.List.Sort
import Mathlib.Order.OrderDual

/-!
# Queries over the rows of a table

`ORDER BY` a key, ascending or descending, the parts of a table that `WHERE` cuts out for each value
of a column, and `LEFT OUTER JOIN`.  Where the keys are distinct there is one order
(`orderBy_eq_of_perm`), and the parts for distinct values are disjoint (`perm_flatMap_filter`).
-/

namespace Queries

variable {ρ κ : Type*}

section Order

variable [LinearOrder κ] (key : ρ → κ)

/-- `ORDER BY key ASC`. -/
def orderBy (rows : List ρ) : List ρ := rows.insertionSort fun r s => key r ≤ key s

/-- `ORDER BY key DESC`. -/
def orderByDesc (rows : List ρ) : List ρ := orderBy (fun r => OrderDual.toDual (key r)) rows

theorem perm_orderBy (rows : List ρ) : (orderBy key rows).Perm rows :=
  List.perm_insertionSort _ rows

theorem perm_orderByDesc (rows : List ρ) : (orderByDesc key rows).Perm rows :=
  perm_orderBy _ rows

theorem pairwise_orderBy (rows : List ρ) : (orderBy key rows).Pairwise fun r s => key r ≤ key s :=
  have : IsTrans ρ fun r s => key r ≤ key s := ⟨fun _ _ _ => le_trans⟩
  have : Std.Total fun r s : ρ => key r ≤ key s := ⟨fun _ _ => le_total _ _⟩
  List.pairwise_insertionSort _ rows

/-- Distinct keys have one order. -/
theorem orderBy_eq_of_perm {l rows : List ρ} (hperm : l.Perm rows)
    (hl : l.Pairwise fun r s => key r < key s) : orderBy key rows = l := by
  have hnodup : (l.map key).Nodup := (List.pairwise_map.2 hl).imp fun h => h.ne
  refine ((perm_orderBy key rows).trans hperm.symm).eq_of_pairwise ?_ (pairwise_orderBy key rows)
    (hl.imp fun h => h.le)
  intro r s hr hs hle hge
  have hmem : r ∈ l := hperm.mem_iff.2 ((perm_orderBy key rows).mem_iff.1 hr)
  exact List.inj_on_of_nodup_map hnodup hmem hs (le_antisymm hle hge)

theorem orderByDesc_eq_of_perm {l rows : List ρ} (hperm : l.Perm rows)
    (hl : l.Pairwise fun r s => key s < key r) : orderByDesc key rows = l :=
  orderBy_eq_of_perm _ hperm hl

theorem pairwise_orderByDesc {rows : List ρ} (hnodup : (rows.map key).Nodup) :
    (orderByDesc key rows).Pairwise fun r s => key s < key r := by
  have hne : (orderByDesc key rows).Pairwise fun r s => key r ≠ key s :=
    List.pairwise_map.1 (((perm_orderByDesc key rows).map key).nodup_iff.2 hnodup)
  have hle : (orderByDesc key rows).Pairwise fun r s => key s ≤ key r :=
    pairwise_orderBy (fun r => OrderDual.toDual (key r)) rows
  exact (hle.and hne).imp fun ⟨hle, hne⟩ => lt_of_le_of_ne hle hne.symm

end Order

section Parts

variable [DecidableEq κ] (col : ρ → κ)

theorem perm_flatMap_filter {values : List κ} (hvalues : values.Nodup) (rows : List ρ) :
    (values.flatMap fun v => rows.filter fun r => col r = v).Perm
      (rows.filter fun r => col r ∈ values) := by
  induction values with
  | nil => simp
  | cons v vs ih =>
    obtain ⟨hv, hvs⟩ := List.nodup_cons.1 hvalues
    have hsplit := List.filter_append_perm (fun r => decide (col r = v))
      (rows.filter fun r => col r ∈ v :: vs)
    have hfirst : (rows.filter fun r => col r ∈ v :: vs).filter (fun r => col r = v) =
        rows.filter fun r => col r = v := by
      rw [List.filter_filter]
      refine List.filter_congr fun r _ => ?_
      by_cases hr : col r = v <;> simp [hr]
    have hrest : (rows.filter fun r => col r ∈ v :: vs).filter (fun r => ! decide (col r = v)) =
        rows.filter fun r => col r ∈ vs := by
      rw [List.filter_filter]
      refine List.filter_congr fun r _ => ?_
      by_cases hr : col r = v <;> simp [hr, hv]
    rw [hfirst, hrest] at hsplit
    rw [List.flatMap_cons]
    exact (List.Perm.append_left _ (ih hvs)).trans hsplit

theorem flatMap_ite_eq {τ : Type*} {rows : List ρ} (hnodup : (rows.map col).Nodup) {r : ρ}
    (hr : r ∈ rows) (f : ρ → List τ) :
    (rows.flatMap fun s => if col s = col r then f s else []) = f r := by
  induction rows with
  | nil => exact absurd hr List.not_mem_nil
  | cons s ss ih =>
    rw [List.map_cons, List.nodup_cons] at hnodup
    rw [List.flatMap_cons]
    rcases List.mem_cons.1 hr with rfl | hr
    · have hnil : (ss.flatMap fun s => if col s = col r then f s else []) = [] := by
        refine List.flatMap_eq_nil_iff.2 fun s hs => if_neg fun h => hnodup.1 ?_
        exact h ▸ List.mem_map_of_mem hs
      rw [if_pos rfl, hnil, List.append_nil]
    · have hne : col s ≠ col r := fun h => hnodup.1 (h ▸ List.mem_map_of_mem hr)
      rw [if_neg hne, List.nil_append, ih hnodup.2 hr]

end Parts

section Join

variable {τ : Type*} (partners : ρ → List τ)

/-- A row with its partners, or with none. -/
def padded (r : ρ) : List τ → List (ρ × Option τ)
  | [] => [(r, none)]
  | t :: ts => (t :: ts).map fun t => (r, some t)

/-- `LEFT OUTER JOIN`: the rows, each with its partners. -/
def leftOuterJoin (rows : List ρ) : List (ρ × Option τ) :=
  rows.flatMap fun r => padded r (partners r)

theorem filterMap_padded (r : ρ) (ts : List τ) : (padded r ts).filterMap (·.2) = ts := by
  cases ts <;> simp [padded, List.filterMap_map]

theorem filterMap_group [DecidableEq κ] (col : ρ → κ) {rows : List ρ}
    (hnodup : (rows.map col).Nodup) {r : ρ} (hr : r ∈ rows) :
    ((leftOuterJoin partners rows).filter fun row => col row.1 = col r).filterMap (·.2) =
      partners r := by
  have hblock (s : ρ) :
      ((padded s (partners s)).filter fun row => col row.1 = col r).filterMap (·.2) =
        if col s = col r then partners s else [] := by
    have hfst : ∀ row ∈ padded s (partners s), row.1 = s := by
      cases partners s <;> simp [padded]
    split_ifs with hs
    · rw [List.filter_eq_self.2 fun row hrow => decide_eq_true (hfst row hrow ▸ hs),
        filterMap_padded]
    · rw [List.filter_eq_nil_iff.2 fun row hrow => by simpa [hfst row hrow] using hs]
      rfl
  rw [leftOuterJoin, List.filter_flatMap, List.filterMap_flatMap]
  simp only [hblock]
  exact flatMap_ite_eq col hnodup hr _

end Join

end Queries
