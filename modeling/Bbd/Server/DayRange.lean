import Bbd.Server.Growth

/-!
# Times of the day in the schedule table

Which times the table lets in by itself, whatever calls of `bbd.web_create_new_schedule` are made.
The `CHECK` of the column `stop_time` is written for `start_time` once more, so the table refuses
every start outside the day and no stop: the rows are in range exactly as long as the calls that
the table accepts bring a stop that is (`timesHold_iff_stops`).
-/

namespace Bbd.Server

open Runs

/-- The arguments of a call of `bbd.web_create_new_schedule`, and when it is made. -/
structure CreateCall where
  valveIDfI : ℤ
  descriptionI : Option String
  startTimeI : Int16
  stopTimeIs : Int16
  now : Timestamp
  deriving DecidableEq, Repr

/-- The database after the call. -/
def CreateCall.apply (db : Db) (c : CreateCall) : Db :=
  (webCreateNewSchedule c.valveIDfI c.descriptionI c.startTimeI c.stopTimeIs c.now db).2

/-- What the columns of a row should hold: times from 0 to 1440, which the receiver converts to
`uint16_t` unchanged. -/
structure TimesHold (r : ScheduleRow) : Prop where
  start : 0 ≤ r.startTime ∧ r.startTime ≤ 1440
  stop : 0 ≤ r.stopTime ∧ r.stopTime ≤ 1440
  converts : ∃ start stop : UInt16, asUint16 r.startTime = some start ∧
    asUint16 r.stopTime = some stop ∧ (start.toNat : ℤ) = r.startTime ∧
      (stop.toNat : ℤ) = r.stopTime

/-- The table takes the row of the call: the start is in range, the valve exists, the description
fits its column and the sequence has a value left. -/
def CreateCall.Accepted (c : CreateCall) (db : Db) : Prop :=
  (0 ≤ c.startTimeI.toInt ∧ c.startTimeI.toInt ≤ 1440) ∧
    (∃ v ∈ db.valve.rows, v.valveID = c.valveIDfI) ∧ (toVarchar100 c.descriptionI).isSome ∧
      db.scheduleSeq < 2147483647

/-- The call brings a stop in range, or the table refuses it for another reason. -/
def CreateCall.StopInRange (db : Db) (c : CreateCall) : Prop :=
  c.Accepted db → 0 ≤ c.stopTimeIs.toInt ∧ c.stopTimeIs.toInt ≤ 1440

theorem exists_asUint16 {n : ℤ} (h : 0 ≤ n ∧ n ≤ 1440) :
    ∃ u : UInt16, asUint16 n = some u ∧ (u.toNat : ℤ) = n := by
  have hfits : 0 ≤ n ∧ n < 65536 := by omega
  refine ⟨UInt16.ofNat n.toNat, if_pos hfits, ?_⟩
  rw [UInt16.toNat_ofNat']
  omega

theorem timesHold_iff {r : ScheduleRow} (hstart : 0 ≤ r.startTime ∧ r.startTime ≤ 1440) :
    TimesHold r ↔ 0 ≤ r.stopTime ∧ r.stopTime ≤ 1440 := by
  refine ⟨fun h => h.stop, fun hstop => ⟨hstart, hstop, ?_⟩⟩
  obtain ⟨start, hs, hs'⟩ := exists_asUint16 hstart
  obtain ⟨stop, ht, ht'⟩ := exists_asUint16 hstop
  exact ⟨start, stop, hs, ht, hs', ht'⟩

section Step

variable {db : Db} {c : CreateCall}

theorem rows_createCall_apply (db : Db) (c : CreateCall) :
    (c.apply db).schedule.rows = db.schedule.rows ++
      (db.created c.valveIDfI c.descriptionI c.startTimeI c.stopTimeIs c.now).toList :=
  (webCreateNewSchedule_snd _ _ _ _ _ db).2.2.1

theorem Db.Issued.createCall (h : db.Issued) (c : CreateCall) : (c.apply db).Issued :=
  h.web (.create c.valveIDfI c.descriptionI c.startTimeI c.stopTimeIs c.now)

theorem CreateCall.Accepted.exists_created (h : c.Accepted db) (hissued : db.Issued) :
    ∃ r ∈ (c.apply db).schedule.rows, r.stopTime = c.stopTimeIs.toInt := by
  obtain ⟨hstart, hv, hd, hseq⟩ := h
  obtain ⟨description, hd⟩ := Option.isSome_iff_exists.1 hd
  rw [rows_createCall_apply, created_of_issued hissued hseq hv hd hstart]
  exact ⟨_, List.mem_append_right _ List.mem_cons_self, rfl⟩

theorem accepted_of_created {r : ScheduleRow}
    (h : db.created c.valveIDfI c.descriptionI c.startTimeI c.stopTimeIs c.now = some r) :
    c.Accepted db ∧ r.stopTime = c.stopTimeIs.toInt := by
  obtain ⟨hseq, description, hd, ⟨⟨hstart, hv⟩, -⟩, rfl⟩ := created_eq_some_iff.1 h
  exact ⟨⟨hstart, hv, by rw [hd]; rfl, hseq⟩, rfl⟩

/-- One call keeps the rows in range exactly when its stop is, or the table refuses it. -/
theorem timesHold_createCall_iff (h : ∀ r ∈ db.schedule.rows, TimesHold r)
    (hissued : db.Issued) (c : CreateCall) :
    (∀ r ∈ (c.apply db).schedule.rows, TimesHold r) ↔ c.StopInRange db := by
  constructor
  · intro hrows haccepted
    obtain ⟨r, hr, hstop⟩ := haccepted.exists_created hissued
    rw [← hstop]
    exact (hrows r hr).stop
  · intro hstop r hr
    have hstart := (c.apply db).checkStartTime r hr
    rw [rows_createCall_apply, List.mem_append, Option.mem_toList] at hr
    rcases hr with hr | hr
    · exact h r hr
    · obtain ⟨haccepted, heq⟩ := accepted_of_created hr
      rw [timesHold_iff hstart, heq]
      exact hstop haccepted

end Step

/-- In every state that calls lead to from an empty table every row is in range, exactly when every
call that the table accepts brings a stop in range. -/
theorem timesHold_iff_stops (db : Db) (hempty : db.schedule.rows = []) (calls : List CreateCall) :
    (∀ pre, pre <+: calls →
      ∀ r ∈ (run CreateCall.apply db pre).schedule.rows, TimesHold r) ↔
      Along CreateCall.apply CreateCall.StopInRange db calls := by
  have hno (r : ScheduleRow) : r ∉ db.schedule.rows := hempty ▸ List.not_mem_nil
  rw [forall_prefix_iff_along (I := fun db : Db => ∀ r ∈ db.schedule.rows, TimesHold r),
    and_iff_right fun r hr => absurd hr (hno r)]
  refine along_congr_of_invariant
    (I := fun db : Db => (∀ r ∈ db.schedule.rows, TimesHold r) ∧ db.Issued) calls
    (fun db c h => timesHold_createCall_iff h.1 h.2 c)
    (fun db c h hrows => ⟨hrows, h.2.createCall c⟩)
    ⟨fun r hr => absurd hr (hno r), fun r hr => absurd hr (hno r)⟩

/-- A schedule over the whole day, in the garden. -/
theorem timesHold_iff_stops_whole_day :
    Db.garden.schedule.rows = [] ∧
      ∀ pre, pre <+: [⟨1, none, 0, 1440, 0⟩] →
        ∀ r ∈ (run CreateCall.apply Db.garden pre).schedule.rows, TimesHold r :=
  ⟨rfl, (timesHold_iff_stops Db.garden rfl [⟨1, none, 0, 1440, 0⟩]).2
    ⟨fun _ => by decide, trivial⟩⟩

/-- The table takes a stop of -5, and the schedules of the device are not read any more. -/
theorem not_timesHold_negative_stop :
    ¬ (∀ r ∈ (run CreateCall.apply Db.garden [⟨1, none, 5, -5, 0⟩]).schedule.rows, TimesHold r) ∧
      dbGetActiveSchedules .none (.asListed _) 1
        (run CreateCall.apply Db.garden [⟨1, none, 5, -5, 0⟩]) = none := by
  refine ⟨fun h => ?_, by decide⟩
  have hrow := h ⟨1, 1, none, 0, 5, -5, false, none, true, none⟩ (by decide)
  exact absurd hrow.stop.1 (by decide)

end Bbd.Server
