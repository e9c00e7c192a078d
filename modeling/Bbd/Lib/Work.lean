import Mathlib.Logic.Basic

/-!
# Transactions that roll back

A work holds the state everybody sees (`stored`) and the state as its own statements have left it
(`own`).  `commit` makes the two equal and closes the work: a statement on a closed work throws, and
so does one that the server or the connection fails (`fails`).  A work that is destroyed leaves
`stored`, so whatever was not committed is rolled back.  A throwing call is `none`.
-/

/-- A transaction on a state of type `σ`. -/
structure Work (σ : Type*) where
  stored : σ
  own : σ
  committed : Bool

namespace Work

variable {σ ρ : Type*}

/-- A new transaction. -/
def begin (s : σ) : Work σ := ⟨s, s, false⟩

/-- A statement: its result and the work after it. -/
def exec (fails : Bool) (stmt : σ → ρ × σ) (w : Work σ) : Option (ρ × Work σ) :=
  if w.committed || fails then none
  else some ((stmt w.own).1, { w with own := (stmt w.own).2 })

/-- `commit()`; a second one is accepted and does nothing. -/
def commit (fails : Bool) (w : Work σ) : Option (Work σ) :=
  if w.committed then some w
  else if fails then none
  else some ⟨w.own, w.own, true⟩

theorem exec_of_committed {w : Work σ} (h : w.committed = true) (fails : Bool)
    (stmt : σ → ρ × σ) : w.exec fails stmt = none := by
  simp [exec, h]

theorem exec_begin (s : σ) (fails : Bool) (stmt : σ → ρ × σ) :
    (begin s).exec fails stmt =
      if fails then none else some ((stmt s).1, ⟨s, (stmt s).2, false⟩) := by
  simp [exec, begin]

theorem commit_of_open (s own : σ) (fails : Bool) :
    (⟨s, own, false⟩ : Work σ).commit fails = if fails then none else some ⟨own, own, true⟩ := by
  simp [commit]

end Work
