import Mathlib.Data.List.Basic
import Mathlib.Data.List.Pairwise

/-!
# Writing through the first match

A linear array searched from the front: `modifyFirst p f l` applies `f` to the first element that
satisfies `p` and leaves the rest alone, the way a search loop that writes and returns does.
Reading through `List.find?` afterwards sees the write, and a search for something else does not.
-/

namespace FirstMatch

variable {ρ : Type*}

/-- Apply `f` to the first element that satisfies `p`. -/
def modifyFirst (p : ρ → Bool) (f : ρ → ρ) : List ρ → List ρ
  | [] => []
  | x :: xs => if p x then f x :: xs else x :: modifyFirst p f xs

variable {p q : ρ → Bool} {f : ρ → ρ}

theorem find?_modifyFirst (hf : ∀ x, p x → p (f x)) (l : List ρ) :
    (modifyFirst p f l).find? p = (l.find? p).map f := by
  induction l with
  | nil => rfl
  | cons x xs ih =>
    by_cases hx : p x
    · simp [modifyFirst, hx, hf x hx]
    · simp [modifyFirst, hx, ih]

theorem find?_modifyFirst_of_disjoint (h : ∀ x, p x → q x = false ∧ q (f x) = false)
    (l : List ρ) : (modifyFirst p f l).find? q = l.find? q := by
  induction l with
  | nil => rfl
  | cons x xs ih =>
    by_cases hx : p x
    · simp [modifyFirst, hx, (h x hx).1, (h x hx).2]
    · by_cases hq : q x <;> simp [modifyFirst, hx, hq, ih]

theorem mem_modifyFirst {l : List ρ} {y : ρ} (hy : y ∈ modifyFirst p f l) :
    y ∈ l ∨ ∃ x ∈ l, p x ∧ y = f x := by
  induction l with
  | nil => exact Or.inl hy
  | cons x xs ih =>
    by_cases hx : p x
    · simp only [modifyFirst, hx, if_true, List.mem_cons] at hy
      rcases hy with rfl | hy
      · exact Or.inr ⟨x, List.mem_cons_self, hx, rfl⟩
      · exact Or.inl (List.mem_cons_of_mem _ hy)
    · simp only [modifyFirst, hx, if_false, List.mem_cons, Bool.false_eq_true] at hy
      rcases hy with rfl | hy
      · exact Or.inl List.mem_cons_self
      · rcases ih hy with hy | ⟨z, hz, hpz, rfl⟩
        · exact Or.inl (List.mem_cons_of_mem _ hy)
        · exact Or.inr ⟨z, List.mem_cons_of_mem _ hz, hpz, rfl⟩

/-- A relation between earlier and later elements that the written element keeps towards the
later ones, and cannot break towards the earlier ones, which do not match, survives the write. -/
theorem pairwise_modifyFirst {R : ρ → ρ → Prop} (hleft : ∀ x y, p x → R x y → R (f x) y)
    (hright : ∀ x y, p x = false → p y → R x (f y)) {l : List ρ} (h : l.Pairwise R) :
    (modifyFirst p f l).Pairwise R := by
  induction l with
  | nil => exact List.Pairwise.nil
  | cons x xs ih =>
    obtain ⟨hx, hxs⟩ := List.pairwise_cons.1 h
    by_cases hpx : p x
    · simp only [modifyFirst, hpx, if_true]
      exact List.pairwise_cons.2 ⟨fun y hy => hleft x y hpx (hx y hy), hxs⟩
    · simp only [modifyFirst, hpx, if_false, Bool.false_eq_true]
      refine List.pairwise_cons.2 ⟨fun y hy => ?_, ih hxs⟩
      rcases mem_modifyFirst hy with hy | ⟨z, hz, hpz, rfl⟩
      · exact hx y hy
      · exact hright x z (by simpa using hpx) hpz

end FirstMatch
