import Bbd.Client.Watering
import Bbd.Web.Forms
import Bbd.Web.Stored

/-!
# Accepted schedules on the device

The site accepts combined minutes from 0 to 1440 without comparing them; the scheduler activates an
entry at a minute of the day, which is at most 23 * 60 + 59, within its interval.  So an accepted
schedule is ever activated exactly when its start is not after its stop and is not the minute 1440
(`accepted_activated_iff`).
-/

namespace Bbd

open Client Server Web

/-- The pass at the minute `m` activates the entry of `s`: it is inactive before, the iteration for
it opens its valve, and it is active after. -/
def Client.Device.Activates (c : Device) (m : UInt16) (s : Schedule) : Prop :=
  ⟨s, false⟩ ∈ c.sm.ss ∧ activateGuard m ⟨s, false⟩ ∧ command m ⟨s, false⟩ = some .opened ∧
    ⟨s, true⟩ ∈ (c.pass m).sm.ss

/-- `tm_hour*60+tm_min`. -/
def minuteOfDay (hour minute : ℕ) : UInt16 := UInt16.ofNat (hour * 60 + minute)

/-- Once installed, a schedule is activated at the minutes that it covers. -/
theorem activates_installed_iff (c : Device) {sches : List Schedule} {s : Schedule}
    (hs : s ∈ sches) (m : UInt16) : (c.setNewSchedules sches).Activates m s ↔ s.covers m := by
  have hinactive : (⟨s, false⟩ : ScheduleStatus) ∈ (c.setNewSchedules sches).sm.ss := by
    rw [Device.setNewSchedules_ss]
    exact List.mem_map_of_mem hs
  constructor
  · rintro ⟨-, hguard, -⟩
    exact ((activateGuard_iff m _).1 hguard).2
  · intro hc
    refine ⟨hinactive, (activateGuard_iff m _).2 ⟨by simp, hc⟩,
      (Device.command_eq_opened_iff _).2 ⟨by simp, hc⟩, ?_⟩
    rw [Device.pass_ss, List.mem_map]
    exact ⟨_, hinactive, by simp [refresh, hc]⟩

theorem exists_covers_iff (s : Schedule) :
    (∃ hour minute : ℕ, hour ≤ 23 ∧ minute ≤ 59 ∧ s.covers (minuteOfDay hour minute)) ↔
      s.start.toNat ≤ s.stop.toNat ∧ s.start.toNat ≤ 1439 := by
  constructor
  · rintro ⟨hour, minute, hhour, hminute, hstart, hstop⟩
    rw [UInt16.le_iff_toNat_le] at hstart hstop
    have hm : (minuteOfDay hour minute).toNat = hour * 60 + minute := by
      rw [minuteOfDay, UInt16.toNat_ofNat']
      omega
    omega
  · rintro ⟨hle, hday⟩
    -- The minute of the start itself.
    have hm : minuteOfDay (s.start.toNat / 60) (s.start.toNat % 60) = s.start := by
      rw [minuteOfDay, Nat.div_add_mod', UInt16.ofNat_toNat]
    refine ⟨s.start.toNat / 60, s.start.toNat % 60, by omega, by omega, ?_⟩
    rw [hm]
    exact ⟨UInt16.le_refl _, UInt16.le_iff_toNat_le.2 hle⟩

theorem exists_activates_iff (c : Device) {sches : List Schedule} {s : Schedule} (hs : s ∈ sches) :
    (∃ hour minute : ℕ, hour ≤ 23 ∧ minute ≤ 59 ∧
      (c.setNewSchedules sches).Activates (minuteOfDay hour minute) s) ↔
        s.start.toNat ≤ s.stop.toNat ∧ s.start.toNat ≤ 1439 := by
  simp only [activates_installed_iff c hs]
  exact exists_covers_iff s

/-- A schedule that the site accepts, installed on a device with the times that were stored, is
activated at some minute of the day exactly when its start is not after its stop and is before
24:00. -/
theorem accepted_activated_iff {int : String → Option ℤ} {form : CreateForm} {db : Db} {t : Times}
    (hgives : Gives int form db t) {stored : Create}
    (haccepted : createNewSchedule int form db = some stored) {s : Schedule}
    (hstart : (s.start.toNat : ℤ) = stored.startTime)
    (hstop : (s.stop.toNat : ℤ) = stored.stopTime) (c : Device) {sches : List Schedule}
    (hs : s ∈ sches) :
    (∃ hour minute : ℕ, hour ≤ 23 ∧ minute ≤ 59 ∧
      (c.setNewSchedules sches).Activates (minuteOfDay hour minute) s) ↔
        t.startHour * 60 + t.startMin ≤ t.stopHour * 60 + t.stopMin ∧
          t.startHour * 60 + t.startMin ≤ 1439 := by
  obtain ⟨v, d, -, -, hview⟩ := createNewSchedule_of_gives hgives
  rw [haccepted, Option.some_eq_ite_none_right] at hview
  obtain ⟨-, hstored⟩ := hview
  obtain rfl := Option.some.inj hstored
  rw [exists_activates_iff c hs]
  change (s.start.toNat : ℤ) = t.startHour * 60 + t.startMin at hstart
  change (s.stop.toNat : ℤ) = t.stopHour * 60 + t.stopMin at hstop
  omega

theorem createNewSchedule_morning :
    createNewSchedule intOfDigits morningForm Db.garden = some ⟨1, "morning", 490, 560⟩ := by
  decide

/-- The schedule from 8:10 to 9:20. -/
theorem accepted_activated_iff_morning :
    ∃ hour minute : ℕ, hour ≤ 23 ∧ minute ≤ 59 ∧
      ((Device.start [1]).setNewSchedules [⟨1, 1, 490, 560⟩]).Activates (minuteOfDay hour minute)
        ⟨1, 1, 490, 560⟩ :=
  (accepted_activated_iff gives_morningForm createNewSchedule_morning (by decide) (by decide)
    (Device.start [1]) (List.mem_singleton_self _)).2 (by decide)

/-- The request for a schedule at 24:00. -/
def midnightForm : CreateForm :=
  ⟨some "1", some "midnight", some "24", some "0", some "24", some "0"⟩

/-- The request for a schedule from 22:00 to 6:00. -/
def overnightForm : CreateForm :=
  ⟨some "1", some "overnight", some "22", some "0", some "6", some "0"⟩

/-- Schedules at 24:00 and from 22:00 to 6:00 are accepted, and no minute of the day activates
them. -/
theorem not_activated_midnight_overnight :
    ((createNewSchedule intOfDigits midnightForm Db.garden =
        some ⟨1, "midnight", 1440, 1440⟩) ∧
      ¬ ∃ hour minute : ℕ, hour ≤ 23 ∧ minute ≤ 59 ∧
        ((Device.start [1]).setNewSchedules [⟨1, 1, 1440, 1440⟩]).Activates
          (minuteOfDay hour minute) ⟨1, 1, 1440, 1440⟩) ∧
    ((createNewSchedule intOfDigits overnightForm Db.garden =
        some ⟨1, "overnight", 1320, 360⟩) ∧
      ¬ ∃ hour minute : ℕ, hour ≤ 23 ∧ minute ≤ 59 ∧
        ((Device.start [1]).setNewSchedules [⟨1, 1, 1320, 360⟩]).Activates
          (minuteOfDay hour minute) ⟨1, 1, 1320, 360⟩) := by
  refine ⟨⟨by decide, ?_⟩, by decide, ?_⟩
  · rw [exists_activates_iff _ (List.mem_singleton_self _)]
    decide
  · rw [exists_activates_iff _ (List.mem_singleton_self _)]
    decide

end Bbd
