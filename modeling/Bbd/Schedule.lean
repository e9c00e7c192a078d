import Mathlib.Data.Int.Notation
import Mathlib.Logic.Basic
import Mathlib.Tactic.Common

/-!
# The wire-level schedule

`struct schedule` is declared alike in the daemon of the device and in the receiver: four 16-bit
fields, with times in minutes of the day.
-/

namespace Bbd

/-- `struct schedule`. -/
structure Schedule where
  scheduleId : UInt16
  valveId : UInt16
  start : UInt16
  stop : UInt16
  deriving DecidableEq, Repr, Inhabited

/-- The schedule's interval contains the minute `m`. -/
def Schedule.covers (s : Schedule) (m : UInt16) : Prop := s.start ≤ m ∧ m ≤ s.stop

instance (s : Schedule) (m : UInt16) : Decidable (s.covers m) :=
  inferInstanceAs (Decidable (_ ∧ _))

theorem Schedule.not_covers_iff (s : Schedule) (m : UInt16) :
    ¬ s.covers m ↔ m < s.start ∨ s.stop < m := by
  simp only [Schedule.covers, not_and_or, UInt16.not_le]

/-- Which schedule it is, on which valve, when: what a record of the wire shares with a row of the
database. -/
structure Item where
  scheduleID : ℤ
  valveID : ℤ
  start : ℤ
  stop : ℤ
  deriving DecidableEq, Repr

/-- What a record says of its schedule. -/
def Schedule.item (s : Schedule) : Item :=
  ⟨s.scheduleId.toNat, s.valveId.toNat, s.start.toNat, s.stop.toNat⟩

theorem Schedule.item_injective : Function.Injective Schedule.item := by
  rintro ⟨i, v, a, b⟩ ⟨i', v', a', b'⟩ h
  simp only [Schedule.item, Item.mk.injEq, Int.natCast_inj, UInt16.toNat_inj] at h
  obtain ⟨rfl, rfl, rfl, rfl⟩ := h
  rfl

/-- The four values fit the 16-bit fields of a record. -/
def Item.Fits (i : Item) : Prop :=
  (0 ≤ i.scheduleID ∧ i.scheduleID < 65536) ∧ (0 ≤ i.valveID ∧ i.valveID < 65536) ∧
    (0 ≤ i.start ∧ i.start < 65536) ∧ (0 ≤ i.stop ∧ i.stop < 65536)

instance (i : Item) : Decidable i.Fits := inferInstanceAs (Decidable (_ ∧ _))

theorem exists_toNat_eq_iff (n : ℤ) : (∃ u : UInt16, (u.toNat : ℤ) = n) ↔ 0 ≤ n ∧ n < 65536 := by
  constructor
  · rintro ⟨u, rfl⟩
    have := u.toNat_lt
    omega
  · rintro ⟨hpos, hlt⟩
    refine ⟨UInt16.ofNat n.toNat, ?_⟩
    rw [UInt16.toNat_ofNat']
    omega

theorem exists_item_iff (i : Item) : (∃ s : Schedule, s.item = i) ↔ i.Fits := by
  simp only [Item.Fits, ← exists_toNat_eq_iff]
  constructor
  · rintro ⟨s, rfl⟩
    exact ⟨⟨_, rfl⟩, ⟨_, rfl⟩, ⟨_, rfl⟩, ⟨_, rfl⟩⟩
  · rintro ⟨⟨a, ha⟩, ⟨v, hv⟩, ⟨b, hb⟩, ⟨c, hc⟩⟩
    refine ⟨⟨a, v, b, c⟩, ?_⟩
    simp only [Schedule.item, ha, hv, hb, hc]

end Bbd
