import Mathlib.Data.Int.Notation
import Mathlib.Logic.Basic
import Mathlib.Tactic.Common

/-!
# `atoi` on a buffer

C's `atoi` reads the text at an address: white space, a sign, and digits up to the first character
that is none.  It is not told where the buffer ends.  Here it is given the bytes of the buffer from
the address on, and yields `none` where the numeral does not end within them, or where its value is
not an `int`: the behaviour is undefined then.  `Numeral` says what the text is that it reads
(`read_eq_some_iff`).
-/

namespace Atoi

/-- `isspace`. -/
def isSpace (b : UInt8) : Bool := b = 32 || 9 ≤ b && b ≤ 13

/-- `isdigit`. -/
def isDigit (b : UInt8) : Bool := 48 ≤ b && b ≤ 57

/-- The digits in front, behind others of the value `v`. -/
def readDigits : ℕ → List UInt8 → Option ℕ
  | _, [] => none
  | v, b :: bs => if isDigit b then readDigits (10 * v + (b.toNat - 48)) bs else some v

/-- The number in front. -/
def read : List UInt8 → Option ℤ
  | [] => none
  | b :: bs =>
    if isSpace b then read bs
    else if b = 43 then (readDigits 0 bs).map fun n : ℕ => (n : ℤ)
    else if b = 45 then (readDigits 0 bs).map fun n : ℕ => -(n : ℤ)
    else (readDigits 0 (b :: bs)).map fun n : ℕ => (n : ℤ)

/-- `atoi`, for the given `INT_MAX`. -/
def atoi (intMax : ℕ) (buf : List UInt8) : Option ℤ :=
  (read buf).filter fun n => -(intMax : ℤ) - 1 ≤ n ∧ n ≤ intMax

/-! ## What it reads -/

/-- The value of digits behind others of the value `v`. -/
def value (v : ℕ) (ds : List UInt8) : ℕ := ds.foldl (fun v d => 10 * v + (d.toNat - 48)) v

/-- The text begins with digits of the value `n`, none or more, and goes on with something else. -/
def Digits (buf : List UInt8) (n : ℕ) : Prop :=
  ∃ ds c rest, buf = ds ++ c :: rest ∧ (∀ d ∈ ds, isDigit d) ∧ ¬ isDigit c ∧ value 0 ds = n

/-- The text begins with a numeral of the value `n`: white space, a sign or none, and digits that
something else ends. -/
inductive Numeral : List UInt8 → ℤ → Prop
  | space {b : UInt8} {buf : List UInt8} {n : ℤ} (hb : isSpace b) (h : Numeral buf n) :
      Numeral (b :: buf) n
  | plus {buf : List UInt8} {n : ℕ} (h : Digits buf n) : Numeral (43 :: buf) n
  | minus {buf : List UInt8} {n : ℕ} (h : Digits buf n) : Numeral (45 :: buf) (-n)
  | plain {b : UInt8} {buf : List UInt8} {n : ℕ} (hb : ¬ isSpace b) (hplus : b ≠ 43)
      (hminus : b ≠ 45) (h : Digits (b :: buf) n) : Numeral (b :: buf) n

/-- The bytes are a decimal number and nothing else. -/
def Decimal (bs : List UInt8) (n : ℕ) : Prop :=
  bs ≠ [] ∧ (∀ d ∈ bs, isDigit d) ∧ value 0 bs = n

instance (bs : List UInt8) (n : ℕ) : Decidable (Decimal bs n) :=
  decidable_of_iff (bs ≠ [] ∧ bs.all isDigit = true ∧ value 0 bs = n) (by
    rw [Decimal, List.all_eq_true])

theorem readDigits_append {ds : List UInt8} (hds : ∀ d ∈ ds, isDigit d) {c : UInt8}
    (hc : ¬ isDigit c) (v : ℕ) (rest : List UInt8) :
    readDigits v (ds ++ c :: rest) = some (value v ds) := by
  induction ds generalizing v with
  | nil => simp [readDigits, hc, value]
  | cons d ds ih =>
    obtain ⟨hd, hds⟩ := List.forall_mem_cons.1 hds
    rw [List.cons_append, readDigits, if_pos hd, ih hds]
    rfl

theorem exists_of_readDigits {v : ℕ} {buf : List UInt8} {n : ℕ} (h : readDigits v buf = some n) :
    ∃ ds c rest, buf = ds ++ c :: rest ∧ (∀ d ∈ ds, isDigit d) ∧ ¬ isDigit c ∧ value v ds = n := by
  induction buf generalizing v with
  | nil => cases h
  | cons b bs ih =>
    rw [readDigits] at h
    split_ifs at h with hb
    · obtain ⟨ds, c, rest, rfl, hds, hc, hn⟩ := ih h
      exact ⟨b :: ds, c, rest, rfl, List.forall_mem_cons.2 ⟨hb, hds⟩, hc, hn⟩
    · exact ⟨[], b, bs, rfl, by simp, hb, Option.some.inj h⟩

theorem readDigits_eq_some_iff (buf : List UInt8) (n : ℕ) :
    readDigits 0 buf = some n ↔ Digits buf n := by
  refine ⟨exists_of_readDigits, ?_⟩
  rintro ⟨ds, c, rest, rfl, hds, hc, rfl⟩
  exact readDigits_append hds hc 0 rest

theorem read_eq_some_iff (buf : List UInt8) (n : ℤ) : read buf = some n ↔ Numeral buf n := by
  constructor
  · intro h
    induction buf with
    | nil => cases h
    | cons b bs ih =>
      rw [read] at h
      split_ifs at h with hspace hplus hminus
      · exact .space hspace (ih h)
      all_goals
        obtain ⟨k, hk, rfl⟩ := Option.map_eq_some_iff.1 h
        rw [readDigits_eq_some_iff] at hk
      · exact hplus ▸ .plus hk
      · exact hminus ▸ .minus hk
      · exact .plain hspace hplus hminus hk
  · intro h
    induction h with
    | space hb _ ih => rw [read, if_pos hb, ih]
    | plus h =>
      rw [read, if_neg (by decide), if_pos rfl, (readDigits_eq_some_iff _ _).2 h, Option.map_some]
    | minus h =>
      rw [read, if_neg (by decide), if_neg (by decide), if_pos rfl,
        (readDigits_eq_some_iff _ _).2 h, Option.map_some]
    | plain hb hplus hminus h =>
      rw [read, if_neg hb, if_neg hplus, if_neg hminus, (readDigits_eq_some_iff _ _).2 h,
        Option.map_some]

theorem atoi_eq_some_iff (intMax : ℕ) (buf : List UInt8) (n : ℤ) :
    atoi intMax buf = some n ↔ Numeral buf n ∧ -(intMax : ℤ) - 1 ≤ n ∧ n ≤ intMax := by
  rw [atoi, Option.filter_eq_some_iff, read_eq_some_iff, decide_eq_true_eq]

theorem le_value (v : ℕ) (ds : List UInt8) : v ≤ value v ds := by
  induction ds generalizing v with
  | nil => exact Nat.le_refl v
  | cons d ds ih => exact Nat.le_trans (by omega) (ih (10 * v + (d.toNat - 48)))

theorem isDigit_cases {b : UInt8} (h : isDigit b) : ¬ isSpace b ∧ b ≠ 43 ∧ b ≠ 45 := by
  simp only [isDigit, Bool.and_eq_true, decide_eq_true_eq] at h
  refine ⟨?_, ?_, ?_⟩
  · simp only [isSpace, Bool.or_eq_true, Bool.and_eq_true, decide_eq_true_eq]
    rintro (rfl | hb)
    · exact absurd h.1 (by decide)
    · exact absurd (UInt8.le_trans h.1 hb.2) (by decide)
  · rintro rfl
    exact absurd h.1 (by decide)
  · rintro rfl
    exact absurd h.1 (by decide)

/-- A decimal number that something else ends is read as it stands. -/
theorem Decimal.numeral {bs : List UInt8} {n : ℕ} (h : Decimal bs n) {c : UInt8}
    (hc : ¬ isDigit c) (rest : List UInt8) : Numeral (bs ++ c :: rest) n := by
  obtain ⟨hne, hds, hn⟩ := h
  obtain ⟨d, ds, rfl⟩ := List.exists_cons_of_ne_nil hne
  obtain ⟨hspace, hplus, hminus⟩ := isDigit_cases (hds d List.mem_cons_self)
  exact .plain hspace hplus hminus ⟨d :: ds, c, rest, rfl, hds, hc, hn⟩

end Atoi
