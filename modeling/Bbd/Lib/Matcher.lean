import Mathlib.Data.List.Basic
import Mathlib.Data.List.Induction
import Mathlib.Data.List.Infix

/-!
# Looking for a text without going back

A matcher that counts the elements of a text it has seen in a row: on the one it wants next it goes
on, on any other it starts again, without asking whether that one could begin the text
(`Matcher.find`).  So it parses the stream into misses, each a beginning of the text and an element
that does not continue it, and finds the text only where a miss ends (`find_eq_some_iff`).  It finds
every occurrence in every stream exactly when the text repeats one element (`find_complete_iff`); of
a pair it misses an even number of the first element (`misses_replicate`).
-/

namespace Matcher

variable {α : Type*}

theorem take_append_of_getElem? {t : List α} {i : ℕ} {x : α} (hx : t[i]? = some x)
    (xs : List α) : t.take i ++ x :: xs = t.take (i + 1) ++ xs := by
  rw [List.take_add_one, hx, Option.toList_some, List.append_assoc, List.singleton_append]

/-- A beginning of the text, and an element that does not continue it. -/
def Miss (t b : List α) : Prop :=
  ∃ i x, i < t.length ∧ t[i]? ≠ some x ∧ b = t.take i ++ [x]

/-- One miss after the other. -/
inductive Misses (t : List α) : List α → Prop where
  | nil : Misses t []
  | append {b u : List α} (hb : Miss t b) (hu : Misses t u) : Misses t (b ++ u)

section Pair

variable {a b : α}

theorem miss_single {x : α} (hx : x ≠ a) : Miss [a, b] [x] :=
  ⟨0, x, by simp, fun h => hx (Option.some.inj h).symm, rfl⟩

theorem miss_pair {x : α} (hx : x ≠ b) : Miss [a, b] [a, x] :=
  ⟨1, x, by simp, fun h => hx (Option.some.inj h).symm, rfl⟩

theorem Misses.trans {t u v : List α} (hu : Misses t u) (hv : Misses t v) : Misses t (u ++ v) := by
  induction hu with
  | nil => exact hv
  | append hb _ ih =>
    rw [List.append_assoc]
    exact .append hb ih

theorem misses_of_forall_ne {u : List α} (h : ∀ x ∈ u, x ≠ a) : Misses [a, b] u := by
  induction u with
  | nil => exact .nil
  | cons x u ih =>
    rw [List.forall_mem_cons] at h
    exact .append (miss_single h.1) (ih h.2)

/-- An even number of its first element is missed two by two. -/
theorem misses_replicate (hab : a ≠ b) (k : ℕ) : Misses [a, b] (List.replicate (2 * k) a) := by
  induction k with
  | zero => exact .nil
  | succ k ih =>
    rw [Nat.mul_succ, Nat.add_comm, List.replicate_add]
    exact .append (miss_pair hab) ih

end Pair

variable [DecidableEq α]

/-- The number of elements that are matched behind one more. -/
def advance (t : List α) (i : ℕ) (x : α) : ℕ := if t[i]? = some x then i + 1 else 0

/-- The stream behind the point at which the text is matched, when `i` elements are already. -/
def find (t : List α) (i : ℕ) : List α → Option (List α)
  | [] => none
  | x :: xs => if t[i]? = some x ∧ i + 1 = t.length then some xs else find t (advance t i x) xs

theorem advance_lt {t : List α} {i : ℕ} {x : α} (hx : ¬ (t[i]? = some x ∧ i + 1 = t.length))
    (hi : i < t.length) : advance t i x < t.length := by
  rw [advance]
  split_ifs with h
  · have := mt (And.intro h) hx
    omega
  · omega

theorem find_nil (i : ℕ) (xs : List α) : find [] i xs = none := by
  induction xs generalizing i with
  | nil => rfl
  | cons x xs ih => rw [find, if_neg (by simp), ih]

section Parse

variable {t : List α} {i : ℕ} {x : α} {xs rest : List α}

theorem find_take (hi : i < t.length) (xs : List α) : find t 0 (t.take i ++ xs) = find t i xs := by
  induction i generalizing xs with
  | zero => rfl
  | succ i ih =>
    have hx : t[i]? = some t[i] := List.getElem?_eq_getElem (by omega)
    rw [← take_append_of_getElem? hx, ih (by omega), find, if_neg (by omega), advance, if_pos hx]

theorem find_of_miss {b : List α} (hb : Miss t b) (xs : List α) :
    find t 0 (b ++ xs) = find t 0 xs := by
  obtain ⟨i, x, hi, hx, rfl⟩ := hb
  rw [List.append_assoc, List.singleton_append, find_take hi, find, if_neg fun h => hx h.1,
    advance, if_neg hx]

theorem find_of_misses {u : List α} (hu : Misses t u) (xs : List α) :
    find t 0 (u ++ xs) = find t 0 xs := by
  induction hu with
  | nil => rfl
  | append hb _ ih => rw [List.append_assoc, find_of_miss hb, ih]

theorem find_self_append (ht : t ≠ []) (rest : List α) : find t 0 (t ++ rest) = some rest := by
  have hpos := List.length_pos_iff.2 ht
  have hlt : t.length - 1 < t.length := by omega
  have hx : t[t.length - 1]? = some t[t.length - 1] := List.getElem?_eq_getElem hlt
  have hsplit := take_append_of_getElem? hx rest
  rw [Nat.sub_add_cancel hpos, List.take_length] at hsplit
  rw [← hsplit, find_take hlt, find, if_pos ⟨hx, Nat.sub_add_cancel hpos⟩]

theorem exists_of_find (hi : i < t.length) (h : find t i xs = some rest) :
    ∃ u, Misses t u ∧ t.take i ++ xs = u ++ (t ++ rest) := by
  induction xs generalizing i with
  | nil => cases h
  | cons x xs ih =>
    rw [find] at h
    split_ifs at h with hfound
    · obtain ⟨hx, hlen⟩ := hfound
      obtain rfl := Option.some.inj h
      refine ⟨[], .nil, ?_⟩
      rw [take_append_of_getElem? hx, hlen, List.take_length, List.nil_append]
    · have hnext := advance_lt hfound hi
      by_cases hx : t[i]? = some x
      · rw [advance, if_pos hx] at h hnext
        obtain ⟨u, hu, hsplit⟩ := ih hnext h
        exact ⟨u, hu, (take_append_of_getElem? hx xs).trans hsplit⟩
      · rw [advance, if_neg hx] at h
        obtain ⟨u, hu, hsplit⟩ := ih (by omega) h
        refine ⟨t.take i ++ [x] ++ u, .append ⟨i, x, hi, hx, rfl⟩ hu, ?_⟩
        rw [List.take_zero, List.nil_append] at hsplit
        rw [hsplit, List.append_assoc, List.append_assoc, List.singleton_append]

/-- The text is found behind misses, and nowhere else. -/
theorem find_eq_some_iff (ht : t ≠ []) :
    find t 0 xs = some rest ↔ ∃ u, Misses t u ∧ xs = u ++ (t ++ rest) := by
  constructor
  · intro h
    exact exists_of_find (List.length_pos_iff.2 ht) h
  · rintro ⟨u, hu, rfl⟩
    rw [find_of_misses hu, find_self_append ht]

theorem length_le_of_find (hi : i < t.length) (h : find t i xs = some rest) :
    t.length ≤ i + xs.length := by
  obtain ⟨u, -, hsplit⟩ := exists_of_find hi h
  have := congrArg List.length hsplit
  simp only [List.length_append, List.length_take] at this
  omega

theorem length_lt_of_find (h : find t i xs = some rest) : rest.length < xs.length := by
  induction xs generalizing i with
  | nil => cases h
  | cons x xs ih =>
    rw [find] at h
    rw [List.length_cons]
    split_ifs at h
    · obtain rfl := Option.some.inj h
      omega
    · have := ih h
      omega

end Parse

/-! ## Which texts are always found -/

section Complete

variable {t : List α}

/-- In a text that repeats one element, whatever was matched is as good as the beginning. -/
theorem isSome_find_of_forall_eq (ht : t ≠ []) (hconst : ∀ x ∈ t, ∀ y ∈ t, x = y) {i : ℕ}
    (hi : i < t.length) (u rest : List α) : (find t i (u ++ (t ++ rest))).isSome := by
  induction u generalizing i with
  | nil =>
    obtain ⟨a, l, rfl⟩ := List.exists_cons_of_ne_nil ht
    have hrep : a :: l = List.replicate (a :: l).length a :=
      List.eq_replicate_iff.2 ⟨rfl, fun x hx => hconst x hx a List.mem_cons_self⟩
    have hswap : (a :: l).take i ++ ((a :: l) ++ rest) =
        (a :: l) ++ ((a :: l).take i ++ rest) := by
      rw [← List.append_assoc, ← List.append_assoc, hrep, List.take_replicate,
        List.replicate_append_replicate, List.replicate_append_replicate, Nat.add_comm]
    rw [List.nil_append, ← find_take hi, hswap, find_self_append ht]
    rfl
  | cons x u ih =>
    rw [List.cons_append, find]
    split_ifs with hfound
    · rfl
    · exact ih (advance_lt hfound hi)

theorem exists_take_eq_replicate {a : α} {l : List α} (h : ¬ ∀ x ∈ l, x = a) :
    ∃ i, i < l.length ∧ l[i]? ≠ some a ∧ l.take i = List.replicate i a := by
  induction l with
  | nil => exact absurd (fun _ hx => absurd hx List.not_mem_nil) h
  | cons b l ih =>
    by_cases hb : b = a
    · subst hb
      obtain ⟨i, hi, hne, htake⟩ := ih fun hl => h (List.forall_mem_cons.2 ⟨rfl, hl⟩)
      refine ⟨i + 1, by rw [List.length_cons]; omega, by rwa [List.getElem?_cons_succ], ?_⟩
      rw [List.take_succ_cons, htake, List.replicate_succ]
    · exact ⟨0, by simp, by simpa using hb, rfl⟩

/-- One more of the first element in front of any other text is a miss that ends within the text. -/
theorem exists_missed (ht : t ≠ []) (h : ¬ ∀ x ∈ t, ∀ y ∈ t, x = y) :
    ∃ a ∈ t, find t 0 (a :: t) = none := by
  obtain ⟨a, l, rfl⟩ := List.exists_cons_of_ne_nil ht
  have hother : ¬ ∀ x ∈ l, x = a := by
    intro hall
    have hmem (x : α) (hx : x ∈ a :: l) : x = a := (List.mem_cons.1 hx).elim id (hall x)
    exact h fun x hx y hy => (hmem x hx).trans (hmem y hy).symm
  obtain ⟨i, hi, hne, htake⟩ := exists_take_eq_replicate hother
  have hmiss : Miss (a :: l) (List.replicate (i + 1) a ++ [a]) := by
    refine ⟨i + 1, a, by rw [List.length_cons]; omega, by rwa [List.getElem?_cons_succ], ?_⟩
    rw [List.take_succ_cons, htake, List.replicate_succ]
  have hsplit : a :: (a :: l) = List.replicate (i + 1) a ++ [a] ++ l.drop i := by
    conv_lhs => rw [← List.take_append_drop i l, htake]
    rw [← List.replicate_succ', List.replicate_succ, List.replicate_succ]
    rfl
  refine ⟨a, List.mem_cons_self, ?_⟩
  rw [hsplit, find_of_miss hmiss]
  cases hrest : find (a :: l) 0 (l.drop i) with
  | none => rfl
  | some rest =>
    have := length_le_of_find (by simp) hrest
    rw [List.length_cons, List.length_drop] at this
    omega

/-- The text is found in every stream that contains it exactly when it repeats one element. -/
theorem find_complete_iff (ht : t ≠ []) :
    (∀ xs, t <:+: xs → (find t 0 xs).isSome) ↔ ∀ x ∈ t, ∀ y ∈ t, x = y := by
  constructor
  · intro h
    by_contra hother
    obtain ⟨a, -, hnone⟩ := exists_missed ht hother
    have hsome := h (a :: t) ⟨[a], [], by simp⟩
    rw [hnone] at hsome
    cases hsome
  · rintro hconst xs ⟨u, rest, rfl⟩
    rw [List.append_assoc]
    exact isSome_find_of_forall_eq ht hconst (List.length_pos_iff.2 ht) u rest

end Complete

end Matcher
