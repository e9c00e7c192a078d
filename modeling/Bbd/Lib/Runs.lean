import Mathlib.Data.List.Induction

/-!
# Runs of a deterministic system

A system is a step function `step : σ → ε → σ` on states and events; a run is the list of events
it takes.  `run step s es` is the state reached, `Along step P s es` says that `P` holds at every
step (of the state an event meets and of the event), and `count step p s es` counts the steps at
which `p` holds.  The rules are the usual ones: an invariant is checked on one step, and a number
that every counted step lowers bounds the count.
-/

namespace Runs

variable {σ ε : Type*} (step : σ → ε → σ)

/-- The state after the events `es`, in order. -/
def run (s : σ) (es : List ε) : σ := es.foldl step s

/-- `P` holds at every step of the run. -/
def Along (P : σ → ε → Prop) : σ → List ε → Prop
  | _, [] => True
  | s, e :: es => P s e ∧ Along P (step s e) es

/-- The number of steps of the run at which `p` holds. -/
def count (p : σ → ε → Bool) : σ → List ε → ℕ
  | _, [] => 0
  | s, e :: es => (p s e).toNat + count p (step s e) es

section Basic

variable {step} {P : σ → ε → Prop} {s : σ}

@[simp] theorem run_nil : run step s [] = s := rfl

@[simp] theorem run_cons (e : ε) (es : List ε) : run step s (e :: es) = run step (step s e) es :=
  rfl

@[simp] theorem run_append (es₁ es₂ : List ε) :
    run step s (es₁ ++ es₂) = run step (run step s es₁) es₂ :=
  List.foldl_append

@[simp] theorem along_nil : Along step P s [] := trivial

@[simp] theorem along_cons (e : ε) (es : List ε) :
    Along step P s (e :: es) ↔ P s e ∧ Along step P (step s e) es :=
  Iff.rfl

theorem along_append (es₁ es₂ : List ε) :
    Along step P s (es₁ ++ es₂) ↔ Along step P s es₁ ∧ Along step P (run step s es₁) es₂ := by
  induction es₁ generalizing s with
  | nil => simp
  | cons e es ih => simp [ih, and_assoc]

/-- A run property is a property of every event together with the events before it. -/
theorem along_iff_split (es : List ε) :
    Along step P s es ↔ ∀ pre e post, es = pre ++ e :: post → P (run step s pre) e := by
  constructor
  · rintro h pre e post rfl
    rw [along_append] at h
    exact h.2.1
  · intro h
    induction es generalizing s with
    | nil => trivial
    | cons e es ih =>
      refine ⟨h [] e es rfl, ih fun pre e' post hes => ?_⟩
      have := h (e :: pre) e' post (by rw [hes]; rfl)
      rwa [run_cons] at this

theorem Along.and {Q : σ → ε → Prop} {es : List ε} (hP : Along step P s es)
    (hQ : Along step Q s es) : Along step (fun s e => P s e ∧ Q s e) s es := by
  induction es generalizing s with
  | nil => trivial
  | cons e es ih => exact ⟨⟨hP.1, hQ.1⟩, ih hP.2 hQ.2⟩

theorem Along.mono {Q : σ → ε → Prop} {es : List ε} (hP : Along step P s es)
    (h : ∀ s e, P s e → Q s e) : Along step Q s es := by
  induction es generalizing s with
  | nil => trivial
  | cons e es ih => exact ⟨h _ _ hP.1, ih hP.2⟩

theorem along_of_forall {es : List ε} (h : ∀ s, ∀ e ∈ es, P s e) : Along step P s es := by
  induction es generalizing s with
  | nil => trivial
  | cons e es ih =>
    exact ⟨h _ _ List.mem_cons_self, ih fun s e' he' => h s e' (List.mem_cons_of_mem _ he')⟩

end Basic

/-! ## Invariants -/

section Invariant

variable {step} {A G : σ → ε → Prop} {I : σ → Prop} {s : σ}

/-- What every admitted step keeps, every run of admitted steps keeps. -/
theorem Along.run_invariant {es : List ε} (hA : Along step A s es)
    (hstep : ∀ s e, I s → A s e → I (step s e)) (hs : I s) : I (run step s es) := by
  induction es generalizing s with
  | nil => exact hs
  | cons e es ih => exact ih hA.2 (hstep _ _ hs hA.1)

/-- What every step keeps, every run keeps. -/
theorem run_invariant (hstep : ∀ s e, I s → I (step s e)) (hs : I s) (es : List ε) :
    I (run step s es) :=
  (along_of_forall (P := fun _ _ => True) fun _ _ _ => trivial).run_invariant
    (fun s e h _ => hstep s e h) hs

/-- A guarantee that the invariant and the assumption of one step give, every run gives. -/
theorem Along.of_invariant {es : List ε} (hA : Along step A s es)
    (hstep : ∀ s e, I s → A s e → G s e ∧ I (step s e)) (hs : I s) : Along step G s es := by
  induction es generalizing s with
  | nil => trivial
  | cons e es ih =>
    obtain ⟨hG, hI⟩ := hstep _ _ hs hA.1
    exact ⟨hG, ih hA.2 hI⟩

/-- Two step properties that agree as long as the invariant holds, and either of which keeps it,
hold along the same runs. -/
theorem along_congr_of_invariant {P Q : σ → ε → Prop} (es : List ε)
    (hPQ : ∀ s e, I s → (P s e ↔ Q s e)) (hstep : ∀ s e, I s → P s e → I (step s e)) (hs : I s) :
    Along step P s es ↔ Along step Q s es := by
  induction es generalizing s with
  | nil => exact Iff.rfl
  | cons e es ih =>
    rw [along_cons, along_cons, hPQ s e hs]
    exact and_congr_right fun hQ => ih (hstep _ _ hs ((hPQ s e hs).2 hQ))

theorem forall_prefix_iff_along (es : List ε) :
    (∀ pre, pre <+: es → I (run step s pre)) ↔
      I s ∧ Along step (fun s e => I (step s e)) s es := by
  induction es generalizing s with
  | nil => simp
  | cons e es ih =>
    rw [along_cons, ← ih]
    constructor
    · intro h
      refine ⟨h [] List.nil_prefix, fun pre hpre => ?_⟩
      exact h (e :: pre) (List.prefix_cons_inj e |>.2 hpre)
    · rintro ⟨hs, h⟩ pre hpre
      rcases pre with - | ⟨e', pre⟩
      · exact hs
      · obtain ⟨rfl, htail⟩ := List.cons_prefix_cons.1 hpre
        exact h pre htail

/-- A condition that decides, at a good state, whether the step leads to a good one, decides it
for all states of the run. -/
theorem forall_prefix_iff_of_step (hstep : ∀ s e, I s → (I (step s e) ↔ A s e)) (hs : I s)
    (es : List ε) : (∀ pre, pre <+: es → I (run step s pre)) ↔ Along step A s es := by
  rw [forall_prefix_iff_along, and_iff_right hs]
  exact along_congr_of_invariant es hstep (fun _ _ _ h => h) hs

/-- A number that no admitted step raises, and every counted one lowers, bounds the count. -/
theorem Along.count_le {p : σ → ε → Bool} {es : List ε} (hA : Along step A s es) (μ : σ → ℕ)
    (hstep : ∀ s e, I s → A s e → μ (step s e) + (p s e).toNat ≤ μ s ∧ I (step s e)) (hs : I s) :
    count step p s es ≤ μ s := by
  induction es generalizing s with
  | nil => exact Nat.zero_le _
  | cons e es ih =>
    obtain ⟨hμ, hI⟩ := hstep _ _ hs hA.1
    have hrest := ih hA.2 hI
    rw [count]
    omega

end Invariant

/-! ## Properties that some events decide -/

section Decided

variable {step} {s : σ}

theorem snoc_eq_append_cons_iff {es pre post : List ε} {e e' : ε} :
    es ++ [e] = pre ++ e' :: post ↔
      (pre = es ∧ e' = e ∧ post = []) ∨ ∃ post', post = post' ++ [e] ∧ es = pre ++ e' :: post' := by
  constructor
  · intro h
    rcases List.eq_nil_or_concat post with rfl | ⟨post, last, rfl⟩
    · obtain ⟨rfl, he⟩ := List.append_inj' h rfl
      exact Or.inl ⟨rfl, (List.singleton_inj.1 he).symm, rfl⟩
    · rw [List.concat_eq_append, ← List.cons_append, ← List.append_assoc] at h
      obtain ⟨hes, he⟩ := List.append_inj' h rfl
      exact Or.inr ⟨post, by rw [List.concat_eq_append, he], hes⟩
  · rintro (⟨rfl, rfl, rfl⟩ | ⟨post', rfl, rfl⟩) <;> simp

/-- A property that each event either decides or leaves alone holds after a run exactly when the
last event that decides it makes it hold. -/
theorem run_iff_last (B : σ → Prop) (decides : ε → Prop)
    (hkeep : ∀ s e, ¬ decides e → (B (step s e) ↔ B s)) (hs : ¬ B s)
    (es : List ε) : B (run step s es) ↔ ∃ pre e post, es = pre ++ e :: post ∧ decides e ∧
      B (step (run step s pre) e) ∧ ∀ e' ∈ post, ¬ decides e' := by
  induction es using List.reverseRecOn with
  | nil => simp [hs]
  | append_singleton es e ih =>
    rw [run_append, run_cons, run_nil]
    by_cases hd : decides e
    · constructor
      · exact fun hB => ⟨es, e, [], rfl, hd, hB, by simp⟩
      · rintro ⟨pre, e', post, hsplit, -, hB, hpost⟩
        rcases snoc_eq_append_cons_iff.1 hsplit with ⟨rfl, rfl, rfl⟩ | ⟨post', rfl, -⟩
        · exact hB
        · exact absurd hd (hpost e (by simp))
    · rw [hkeep _ _ hd, ih]
      constructor
      · rintro ⟨pre, e', post, rfl, hd', hB, hpost⟩
        refine ⟨pre, e', post ++ [e], by simp, hd', hB, fun e'' he'' => ?_⟩
        rcases List.mem_append.1 he'' with he'' | he''
        · exact hpost e'' he''
        · rwa [List.mem_singleton.1 he'']
      · rintro ⟨pre, e', post, hsplit, hd', hB, hpost⟩
        rcases snoc_eq_append_cons_iff.1 hsplit with ⟨rfl, rfl, rfl⟩ | ⟨post', rfl, rfl⟩
        · exact absurd hd' hd
        · exact ⟨pre, e', post', rfl, hd', hB, fun e'' he'' => hpost e'' (by simp [he''])⟩

end Decided

/-! ## Simulation -/

section Simulation

variable {τ δ : Type*} {step' : τ → δ → τ} {A : σ → ε → Prop} {I : σ → Prop} {s : σ}

/-- The events that a run emits, where each step emits some. -/
def emitted (emit : σ → ε → List δ) : σ → List ε → List δ
  | _, [] => []
  | s, e :: es => emit s e ++ emitted emit (step s e) es

variable {step}

/-- Where every admitted step does to the view what the events that it emits do, so does every run
of admitted steps. -/
theorem Along.view_run {es : List ε} (hA : Along step A s es) (view : σ → τ)
    (emit : σ → ε → List δ)
    (hstep : ∀ s e, I s → A s e → view (step s e) = run step' (view s) (emit s e) ∧ I (step s e))
    (hs : I s) : view (run step s es) = run step' (view s) (emitted step emit s es) := by
  induction es generalizing s with
  | nil => rfl
  | cons e es ih =>
    obtain ⟨hview, hI⟩ := hstep s e hs hA.1
    rw [run_cons, ih hA.2 hI, hview, emitted, run_append]

theorem run_filterMap (view : σ → τ) (seen : ε → Option δ)
    (hstep : ∀ s e, view (step s e) = run step' (view s) (seen e).toList) (es : List ε) :
    view (run step s es) = run step' (view s) (es.filterMap seen) := by
  have hemitted : emitted step (fun _ e => (seen e).toList) s es = es.filterMap seen := by
    induction es generalizing s with
    | nil => rfl
    | cons e es ih =>
      rw [emitted, ih]
      cases h : seen e with
      | none => rw [List.filterMap_cons_none h, Option.toList_none, List.nil_append]
      | some e' => rw [List.filterMap_cons_some h, Option.toList_some, List.singleton_append]
  rw [← hemitted]
  exact (along_of_forall (P := fun _ _ => True) fun _ _ _ => trivial).view_run
    (I := fun _ => True) view _ (fun s e _ _ => ⟨hstep s e, trivial⟩) trivial

theorem Along.filterMap {B : τ → δ → Prop} {es : List ε} (hA : Along step A s es) (view : σ → τ)
    (seen : ε → Option δ) (hstep : ∀ s e, view (step s e) = run step' (view s) (seen e).toList)
    (hseen : ∀ s e, A s e → ∀ e' ∈ seen e, B (view s) e') :
    Along step' B (view s) (es.filterMap seen) := by
  induction es generalizing s with
  | nil => trivial
  | cons e es ih =>
    have hrest := ih hA.2
    rw [hstep] at hrest
    cases h : seen e with
    | none =>
      rw [h] at hrest
      rwa [List.filterMap_cons_none h]
    | some e' =>
      rw [h] at hrest
      rw [List.filterMap_cons_some h]
      exact ⟨hseen s e hA.1 e' h, hrest⟩

theorem run_overwrite (x : τ) (xs : List τ) : run (fun _ y => y) x xs = xs.getLast?.getD x := by
  induction xs generalizing x with
  | nil => rfl
  | cons y ys ih => rw [run_cons, ih, List.getLast?_cons, Option.getD_some]

/-- Where every step assigns to the view what it writes, if it writes anything, the view is what was
written last. -/
theorem run_getLast (view : σ → τ) (writes : σ → ε → Option τ)
    (hstep : ∀ s e, view (step s e) = (writes s e).getD (view s)) (s : σ) (es : List ε) :
    view (run step s es) =
      (emitted step (fun s e => (writes s e).toList) s es).getLast?.getD (view s) := by
  rw [← run_overwrite]
  refine (along_of_forall (P := fun _ _ => True) fun _ _ _ => trivial).view_run
    (I := fun _ => True) view _ (fun s e _ _ => ⟨?_, trivial⟩) trivial
  rw [hstep]
  cases writes s e <;> rfl

theorem mem_emitted_iff_of_iff {emit : σ → ε → List δ} {d : δ} {p : ε → Prop}
    (hemit : ∀ s e, d ∈ emit s e ↔ p e) {es : List ε} :
    d ∈ emitted step emit s es ↔ ∃ e ∈ es, p e := by
  induction es generalizing s with
  | nil => simp [emitted]
  | cons e es ih => simp [emitted, hemit, ih]

end Simulation

end Runs
