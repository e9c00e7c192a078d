import Mathlib.Data.List.Basic

/-!
# Talking to a peer

A program acts on a line to a peer: its actions write text, and at some of them it listens.  A
`Peer` has a state of its own; whenever the program listens, it answers the text that was written
since it answered last, which may change its state.  `Hears` says that what the program gets to hear
is what a peer answers, and `after` is the peer behind the actions.
-/

namespace Dialogue

variable {α χ β σ : Type*}

/-- A party that answers text: its next state, and its answer. -/
structure Peer (σ χ β : Type*) where
  next : σ → List χ → σ
  answer : σ → List χ → β

section Talk

variable (text : α → List χ) (listens : α → Bool) (peer : Peer σ χ β)

/-- The actions get to hear `answers`, in order, from the peer in state `s`, to which `unread` was
written since it answered last. -/
def Hears (s : σ) (unread : List χ) (answers : ℕ → β) : List α → Prop
  | [] => True
  | a :: acts =>
    if listens a then
      answers 0 = peer.answer s unread ∧
        Hears (peer.next s unread) [] (fun n => answers (n + 1)) acts
    else Hears s (unread ++ text a) answers acts

/-- The peer behind the actions, and what was written since it answered last. -/
def after (s : σ) (unread : List χ) : List α → σ × List χ
  | [] => (s, unread)
  | a :: acts =>
    if listens a then after (peer.next s unread) [] acts else after s (unread ++ text a) acts

instance Hears.decidable [DecidableEq β] :
    ∀ s unread answers acts, Decidable (Hears text listens peer s unread answers acts)
  | _, _, _, [] => isTrue trivial
  | s, unread, answers, a :: acts =>
    have := Hears.decidable (peer.next s unread) [] (fun n => answers (n + 1)) acts
    have := Hears.decidable s (unread ++ text a) answers acts
    inferInstanceAs (Decidable (if listens a then _ ∧ _ else _))

variable {text listens peer} {s : σ} {unread : List χ} {answers : ℕ → β}

theorem hears_append (xs ys : List α) :
    Hears text listens peer s unread answers (xs ++ ys) ↔
      Hears text listens peer s unread answers xs ∧
        Hears text listens peer (after text listens peer s unread xs).1
          (after text listens peer s unread xs).2 (fun n => answers (n + xs.countP listens))
          ys := by
  induction xs generalizing s unread answers with
  | nil => simp [Hears, after]
  | cons a xs ih =>
    rw [List.cons_append, Hears, Hears, after]
    by_cases ha : listens a
    · simp only [if_pos ha, ih, List.countP_cons_of_pos ha, and_assoc]
      simp only [Nat.add_assoc]
    · simp only [if_neg ha, ih, List.countP_cons_of_neg ha]

/-! ### Exchanges

An exchange writes and then listens, once. -/

section Exchange

variable {writes : List α} {w : α}

theorem countP_exchange (hwrites : ∀ a ∈ writes, ¬ listens a) (hw : listens w) :
    (writes ++ [w]).countP listens = 1 := by
  rw [List.countP_append, List.countP_eq_zero.2 hwrites, List.countP_cons_of_pos hw,
    List.countP_nil]

theorem hears_exchange (hwrites : ∀ a ∈ writes, ¬ listens a) (hw : listens w) (acts : List α) :
    Hears text listens peer s unread answers (writes ++ [w] ++ acts) ↔
      answers 0 = peer.answer s (unread ++ writes.flatMap text) ∧
        Hears text listens peer (peer.next s (unread ++ writes.flatMap text)) []
          (fun n => answers (n + 1)) acts := by
  induction writes generalizing unread with
  | nil => simp [Hears, hw]
  | cons a writes ih =>
    rw [List.forall_mem_cons] at hwrites
    rw [List.cons_append, List.cons_append, Hears, if_neg hwrites.1, ih hwrites.2,
      List.flatMap_cons, List.append_assoc]

theorem after_exchange (hwrites : ∀ a ∈ writes, ¬ listens a) (hw : listens w) (acts : List α) :
    after text listens peer s unread (writes ++ [w] ++ acts) =
      after text listens peer (peer.next s (unread ++ writes.flatMap text)) [] acts := by
  induction writes generalizing unread with
  | nil => simp [after, hw]
  | cons a writes ih =>
    rw [List.forall_mem_cons] at hwrites
    rw [List.cons_append, List.cons_append, after, if_neg hwrites.1, ih hwrites.2,
      List.flatMap_cons, List.append_assoc]

end Exchange

end Talk

end Dialogue
