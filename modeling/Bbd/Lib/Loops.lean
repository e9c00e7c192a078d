import Bbd.Lib.Runs
import Mathlib.Data.List.Induction

/-!
# Loops that are left early

`runUntil body s es` runs a loop on the inputs `es`: an iteration leads to the next state, or
leaves the loop with a value.  The rules speak about the inputs taken so far, its history: an
invariant that ties the state to the history holds where the loop asks for more, and gives its
conclusion where the loop is left (`runUntil_invariant`); and a body that leaves exactly when a
predicate on the history decides leaves the loop at the first input on which it does
(`runUntil_verdict`).
-/

namespace Loops

open Runs

variable {σ ε γ β : Type*}

/-- The state in which the loop asks for more inputs, or the value it is left with, and the inputs
that it has not taken. -/
def runUntil (body : σ → ε → σ ⊕ γ) (s : σ) : List ε → σ ⊕ (γ × List ε)
  | [] => .inl s
  | e :: es =>
    match body s e with
    | .inl s => runUntil body s es
    | .inr c => .inr (c, es)

/-- `A` holds of every input of `es` together with the inputs before it, `past` in front of all:
the run whose state is its own history. -/
def Throughout (A : List ε → ε → Prop) (past es : List ε) : Prop :=
  Along (fun past e => past ++ [e]) A past es

section Throughout

variable {A : List ε → ε → Prop} {past : List ε}

@[simp] theorem run_history (past es : List ε) :
    run (fun past e => past ++ [e]) past es = past ++ es := by
  induction es generalizing past with
  | nil => simp
  | cons e es ih => simp [ih]

theorem throughout_nil : Throughout A past [] := trivial

theorem throughout_snoc {es : List ε} {e : ε} :
    Throughout A past (es ++ [e]) ↔ Throughout A past es ∧ A (past ++ es) e := by
  rw [Throughout, along_append, run_history]
  exact and_congr_right fun _ => and_iff_left trivial

theorem throughout_map {ι : Type*} (f : ι → ε) (past es : List ι) :
    Throughout A (past.map f) (es.map f) ↔
      Throughout (fun past e => A (past.map f) (f e)) past es := by
  induction es generalizing past with
  | nil => exact Iff.rfl
  | cons e es ih =>
    rw [List.map_cons, Throughout, along_cons, Throughout, along_cons, ← Throughout, ← Throughout,
      ← ih, List.map_append, List.map_singleton]

end Throughout

/-- `v` decides on no input of `es`. -/
def Undecided (v : List ε → ε → Option β) (es : List ε) : Prop :=
  Throughout (fun past e => v past e = none) [] es

theorem undecided_congr {A : List ε → ε → Prop} {v w : List ε → ε → Option β}
    (h : ∀ past e, Throughout A [] (past ++ [e]) → Undecided w past → v past e = w past e)
    {es : List ε} (hes : Throughout A [] es) : Undecided v es ↔ Undecided w es := by
  induction es using List.reverseRecOn with
  | nil => exact Iff.rfl
  | append_singleton es e ih =>
    rw [Undecided, Undecided, throughout_snoc, throughout_snoc]
    refine Iff.trans (and_congr_left' (ih (throughout_snoc.1 hes).1)) ?_
    exact and_congr_right fun hw => by rw [List.nil_append, h es e hes hw]

section Rules

variable {body : σ → ε → σ ⊕ γ} (R : List ε → σ → Prop)

/-- An invariant of the state and the inputs so far, and what it gives where the loop is left. -/
theorem runUntil_invariant (Q : List ε → ε → γ → Prop) {past : List ε} {s : σ} {es : List ε}
    (hgo : ∀ past e s s', R past s → body s e = .inl s' → R (past ++ [e]) s')
    (hleave : ∀ past e s c, R past s → body s e = .inr c → Q past e c)
    (hs : R past s) :
    (∃ s', runUntil body s es = .inl s' ∧ R (past ++ es) s') ∨
      ∃ pre e post c, es = pre ++ e :: post ∧ runUntil body s es = .inr (c, post) ∧
        Q (past ++ pre) e c := by
  induction es generalizing past s with
  | nil => exact Or.inl ⟨s, rfl, by simpa using hs⟩
  | cons e es ih =>
    cases hbody : body s e with
    | inl s' =>
      rcases ih (hgo past e s s' hs hbody) with
        ⟨t, hrun, ht⟩ | ⟨pre, e', post, c, rfl, hrun, hc⟩
      · exact Or.inl ⟨t, by simp only [runUntil, hbody, hrun], by simpa using ht⟩
      · exact Or.inr
          ⟨e :: pre, e', post, c, rfl, by simp only [runUntil, hbody, hrun], by simpa using hc⟩
    | inr c =>
      exact Or.inr ⟨[], e, es, c, rfl, by simp only [runUntil, hbody],
        by simpa using hleave past e s c hs hbody⟩

/-- A body that leaves the loop exactly when `v` decides, on the inputs so far and the one at hand,
leaves it at the first input on which it does. -/
theorem runUntil_verdict (v : List ε → ε → Option β) (Q : List ε → ε → β → γ → Prop) {s : σ}
    {es : List ε}
    (hgo : ∀ past e s, R past s → v past e = none →
      ∃ s', body s e = .inl s' ∧ R (past ++ [e]) s')
    (hleave : ∀ past e s b, R past s → v past e = some b →
      ∃ c, body s e = .inr c ∧ Q past e b c)
    (hs : R [] s) :
    (∃ s', runUntil body s es = .inl s' ∧ Undecided v es ∧ R es s') ∨
      ∃ pre e post b c, es = pre ++ e :: post ∧ Undecided v pre ∧ v pre e = some b ∧
        runUntil body s es = .inr (c, post) ∧ Q pre e b c := by
  -- Where the loop goes on, nothing has been decided yet.
  have hgo' : ∀ past e s s', Undecided v past ∧ R past s → body s e = .inl s' →
      Undecided v (past ++ [e]) ∧ R (past ++ [e]) s' := by
    rintro past e s s' ⟨hv, hR⟩ hbody
    cases hd : v past e with
    | none =>
      obtain ⟨t, hbody', ht⟩ := hgo past e s hR hd
      cases hbody.symm.trans hbody'
      exact ⟨throughout_snoc.2 ⟨hv, hd⟩, ht⟩
    | some b =>
      obtain ⟨c, hbody', -⟩ := hleave past e s b hR hd
      cases hbody.symm.trans hbody'
  have hleave' : ∀ past e s c, Undecided v past ∧ R past s → body s e = .inr c →
      Undecided v past ∧ ∃ b, v past e = some b ∧ Q past e b c := by
    rintro past e s c ⟨hv, hR⟩ hbody
    cases hd : v past e with
    | none =>
      obtain ⟨t, hbody', -⟩ := hgo past e s hR hd
      cases hbody.symm.trans hbody'
    | some b =>
      obtain ⟨c', hbody', hQ⟩ := hleave past e s b hR hd
      cases hbody.symm.trans hbody'
      exact ⟨hv, b, rfl, hQ⟩
  rcases runUntil_invariant (fun past s => Undecided v past ∧ R past s)
      (fun past e c => Undecided v past ∧ ∃ b, v past e = some b ∧ Q past e b c)
      hgo' hleave' ⟨throughout_nil, hs⟩ with
    ⟨s', hrun, hv, hR⟩ | ⟨pre, e, post, c, hsplit, hrun, hv, b, hb, hQ⟩
  · exact Or.inl ⟨s', hrun, hv, hR⟩
  · exact Or.inr ⟨pre, e, post, b, c, hsplit, hv, hb, hrun, hQ⟩

end Rules

end Loops
