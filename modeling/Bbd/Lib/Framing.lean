import Bbd.Lib.Loops

/-!
# Frames that silence ends

A listener looks at a line again and again and takes what has come since its last look.  A frame
begins with the first item and is over once nothing has come for `gap` time units; if nothing comes
at all, the listener gives up after `start` time units.  `verdict` says this of the whole history
of looks, with a parameter for what the clock shows as the time between two readings.
-/

namespace Framing

open Loops

variable {α : Type*}

/-- One look: what it takes, when it looks, and when it checks how long the line has been silent. -/
structure Look (α : Type*) where
  taken : List α
  time : ℕ
  checked : ℕ

/-- All that the looks take. -/
def taken (looks : List (Look α)) : List α := looks.flatMap Look.taken

/-- When a look last took something. -/
def lastTime (looks : List (Look α)) : Option ℕ :=
  (looks.reverse.find? fun l => !l.taken.isEmpty).map Look.time

/-- How listening ends: nothing has come, or a frame. -/
inductive Verdict (α : Type*) where
  | silence
  | frame (items : List α)

/-- What has come. -/
def Verdict.items : Verdict α → List α
  | .silence => []
  | .frame items => items

/-- Whether listening ends with the look `l` after the looks `past`. -/
def verdict (elapsed : ℕ → ℕ → ℕ) (began start gap : ℕ) (past : List (Look α)) (l : Look α) :
    Option (Verdict α) :=
  match lastTime (past ++ [l]) with
  | none => if start ≤ elapsed began l.time then some .silence else none
  | some t => if gap ≤ elapsed t l.checked then some (.frame (taken (past ++ [l]))) else none

section Looks

variable {looks : List (Look α)} {l : Look α}

@[simp] theorem taken_nil : taken ([] : List (Look α)) = [] := rfl

@[simp] theorem taken_snoc : taken (looks ++ [l]) = taken looks ++ l.taken := by
  simp [taken]

@[simp] theorem lastTime_nil : lastTime ([] : List (Look α)) = none := rfl

theorem lastTime_snoc :
    lastTime (looks ++ [l]) = if l.taken = [] then lastTime looks else some l.time := by
  rw [lastTime, List.reverse_append, List.reverse_singleton, List.singleton_append,
    List.find?_cons]
  cases h : l.taken with
  | nil => simp [lastTime]
  | cons b bs => simp

theorem lastTime_eq_none_iff : lastTime looks = none ↔ taken looks = [] := by
  simp [lastTime, taken, List.flatMap_eq_nil_iff]

theorem items_of_verdict {elapsed : ℕ → ℕ → ℕ} {began start gap : ℕ} {v : Verdict α}
    (h : verdict elapsed began start gap looks l = some v) : v.items = taken (looks ++ [l]) := by
  rw [verdict] at h
  cases ht : lastTime (looks ++ [l]) with
  | none =>
    rw [lastTime_eq_none_iff.1 ht]
    simp only [ht, Option.ite_none_right_eq_some, Option.some.injEq] at h
    rw [← h.2, Verdict.items]
  | some t =>
    simp only [ht, Option.ite_none_right_eq_some, Option.some.injEq] at h
    rw [← h.2, Verdict.items]

theorem eq_silence_iff_of_verdict {elapsed : ℕ → ℕ → ℕ} {began start gap : ℕ} {v : Verdict α}
    (h : verdict elapsed began start gap looks l = some v) : v = .silence ↔ v.items = [] := by
  rw [items_of_verdict h, ← lastTime_eq_none_iff]
  rw [verdict] at h
  cases ht : lastTime (looks ++ [l]) <;>
    simp only [ht, Option.ite_none_right_eq_some, Option.some.injEq] at h <;> simp [← h.2]

end Looks

/-! ## A clock that wraps around -/

/-- The readings of the clock never go back, and from one look to the check of the next one less
than `slack` passes. -/
def Paced (began slack : ℕ) (past : List (Look α)) (l : Look α) : Prop :=
  l.time ≤ l.checked ∧
    match past.getLast? with
    | none => began ≤ l.time ∧ l.checked < began + slack
    | some q => q.checked ≤ l.time ∧ l.checked < q.time + slack

section Paced

variable {began slack start gap window : ℕ} {past : List (Look α)} {l : Look α}

theorem paced_snoc {q : Look α} : Paced began slack (past ++ [q]) l ↔
    l.time ≤ l.checked ∧ q.checked ≤ l.time ∧ l.checked < q.time + slack := by
  rw [Paced, List.getLast?_concat]

theorem le_of_paced (h : Throughout (Paced began slack) [] (past ++ [l])) :
    began ≤ l.time ∧ ∀ t ∈ lastTime (past ++ [l]), t ≤ l.checked := by
  induction past using List.reverseRecOn generalizing l with
  | nil =>
    obtain ⟨-, hl, hbegan, -⟩ := throughout_snoc.1 h
    refine ⟨hbegan, fun t ht => ?_⟩
    rw [lastTime_snoc] at ht
    split_ifs at ht
    · cases ht
    · cases ht
      exact hl
  | append_singleton past q ih =>
    obtain ⟨hpast, hlast⟩ := throughout_snoc.1 h
    rw [List.nil_append, paced_snoc] at hlast
    obtain ⟨hl, hql, -⟩ := hlast
    obtain ⟨hbegan, hlt⟩ := ih hpast
    have hq : q.time ≤ q.checked := (throughout_snoc.1 hpast).2.1
    refine ⟨by omega, fun t ht => ?_⟩
    rw [lastTime_snoc] at ht
    split_ifs at ht
    · have := hlt t ht
      omega
    · cases ht
      exact hl

/-- As long as listening has not ended, a clock that is right up to `window` shows the time that has
passed. -/
theorem verdict_of_paced {elapsed : ℕ → ℕ → ℕ}
    (hclock : ∀ s t, s ≤ t → t < s + window → elapsed s t = t - s)
    (hstart : start + slack ≤ window) (hgap : gap + slack ≤ window) (past : List (Look α))
    (l : Look α) (h : Throughout (Paced began slack) [] (past ++ [l]))
    (hpast : Undecided (verdict (fun s t => t - s) began start gap) past) :
    verdict elapsed began start gap past l =
      verdict (fun s t => t - s) began start gap past l := by
  obtain ⟨hbegan, hchecked⟩ := le_of_paced h
  have hlast := (throughout_snoc.1 h).2
  rw [List.nil_append] at hlast
  rw [verdict, verdict]
  cases ht : lastTime (past ++ [l]) with
  | none =>
    -- Nothing has come: the look before this one was less than `start` after the beginning.
    have hlt : l.time < began + window := by
      rcases List.eq_nil_or_concat past with rfl | ⟨past, q, rfl⟩
      · obtain ⟨hl, -, hlt⟩ := hlast
        omega
      · rw [List.concat_eq_append] at hlast hpast ht h
        have hq := (throughout_snoc.1 hpast).2
        have hnone : lastTime (past ++ [q]) = none := by
          rw [lastTime_eq_none_iff, taken_snoc, List.append_eq_nil_iff] at ht
          exact lastTime_eq_none_iff.2 ht.1
        rw [List.nil_append, verdict, hnone] at hq
        obtain ⟨hl, -, hlt⟩ := paced_snoc.1 hlast
        by_cases hle : start ≤ q.time - began
        · simp [hle] at hq
        · omega
    simp only [hclock _ _ hbegan hlt]
  | some t =>
    -- Something has come: either now, or less than `gap` before the check of the last look.
    have hlt : l.checked < t + window := by
      rcases List.eq_nil_or_concat past with rfl | ⟨past, q, rfl⟩
      · rw [lastTime_snoc] at ht
        split_ifs at ht
        · cases ht
        · cases ht
          obtain ⟨-, hbegan, hlt⟩ := hlast
          omega
      · rw [List.concat_eq_append] at hlast hpast ht h
        obtain ⟨hl, hql, hlt⟩ := paced_snoc.1 hlast
        have hq : q.time ≤ q.checked := (throughout_snoc.1 (throughout_snoc.1 h).1).2.1
        rw [lastTime_snoc] at ht
        split_ifs at ht
        · have hv := (throughout_snoc.1 hpast).2
          rw [List.nil_append, verdict, ht] at hv
          by_cases hle : gap ≤ q.checked - t
          · simp [hle] at hv
          · omega
        · cases ht
          omega
    simp only [hclock _ _ (hchecked t ht) hlt]

end Paced

end Framing
