import Bbd.Lib.KeyedTable
import Bbd.Lib.Runs
import Mathlib.Data.Int.Notation
import Mathlib.Tactic.Common

/-!
# The database

The tables of `bbd.sql` and the functions that the receiver and the web site call on them.  A
database value carries its constraints: the primary keys (through `KeyedTable`), the two foreign
keys, and the `CHECK` on `start_time`, which the script writes twice, so that `stop_time` has none.

Nothing but the four calls of `SqlCall` ever writes a schedule, and each of them rewrites the rows
one by one and at most adds one (`rows_apply`).
-/

namespace Bbd.Server

/-- A value of `CURRENT_TIMESTAMP`. -/
abbrev Timestamp := ℕ

/-- `bbd.device`. -/
structure DeviceRow where
  deviceID : ℤ
  description : Option String
  deriving DecidableEq, Repr

/-- `bbd.valve`. -/
structure ValveRow where
  valveID : ℤ
  description : Option String
  deviceIDf : ℤ
  deriving DecidableEq, Repr

/-- `bbd.schedule`. -/
structure ScheduleRow where
  scheduleID : ℤ
  valveIDf : ℤ
  description : Option String
  createdOn : Timestamp
  startTime : ℤ
  stopTime : ℤ
  sent : Bool
  sentOn : Option Timestamp
  active : Bool
  deactivatedOn : Option Timestamp
  deriving DecidableEq, Repr

/-- The database, with the last value of the sequence behind `scheduleID SERIAL`. -/
@[ext]
structure Db where
  device : KeyedTable DeviceRow ℤ (·.deviceID)
  valve : KeyedTable ValveRow ℤ (·.valveID)
  schedule : KeyedTable ScheduleRow ℤ (·.scheduleID)
  scheduleSeq : ℕ
  fkDevice : ∀ v ∈ valve.rows, ∃ d ∈ device.rows, d.deviceID = v.deviceIDf
  fkValve : ∀ s ∈ schedule.rows, ∃ v ∈ valve.rows, v.valveID = s.valveIDf
  checkStartTime : ∀ s ∈ schedule.rows, 0 ≤ s.startTime ∧ s.startTime ≤ 1440

/-- The columns that no `UPDATE` of the script writes. -/
structure KeepsIdentity (f : ScheduleRow → ScheduleRow) : Prop where
  scheduleID : ∀ r, (f r).scheduleID = r.scheduleID
  valveIDf : ∀ r, (f r).valveIDf = r.valveIDf
  description : ∀ r, (f r).description = r.description
  createdOn : ∀ r, (f r).createdOn = r.createdOn
  startTime : ∀ r, (f r).startTime = r.startTime
  stopTime : ∀ r, (f r).stopTime = r.stopTime

/-- `UPDATE bbd.schedule SET f WHERE p`. -/
def Db.updateSchedule (db : Db) (p : ScheduleRow → Bool) (f : ScheduleRow → ScheduleRow)
    (hf : KeepsIdentity f) : Db where
  device := db.device
  valve := db.valve
  schedule := db.schedule.update p f hf.scheduleID
  scheduleSeq := db.scheduleSeq
  fkDevice := db.fkDevice
  fkValve := by
    intro s hs
    rw [KeyedTable.rows_update, List.mem_map] at hs
    obtain ⟨r, hr, rfl⟩ := hs
    obtain ⟨v, hv, hid⟩ := db.fkValve r hr
    refine ⟨v, hv, ?_⟩
    split_ifs
    · rw [hf.valveIDf, hid]
    · exact hid
  checkStartTime := by
    intro s hs
    rw [KeyedTable.rows_update, List.mem_map] at hs
    obtain ⟨r, hr, rfl⟩ := hs
    have := db.checkStartTime r hr
    split_ifs
    · rwa [hf.startTime]
    · exact this

theorem Db.updateSchedule_of_forall_not {db : Db} {p : ScheduleRow → Bool}
    {f : ScheduleRow → ScheduleRow} (hf : KeepsIdentity f)
    (h : ∀ r ∈ db.schedule.rows, ¬ p r) : db.updateSchedule p f hf = db :=
  Db.ext rfl rfl (KeyedTable.ext (db.schedule.rows_update_of_forall_not p f hf.scheduleID h)) rfl

/-! ## The functions of the receiver -/

/-- `bbd.rcv_get_device_valves`. -/
def rcvGetDeviceValves (deviceId : ℤ) (db : Db) : List ℤ :=
  (db.valve.rows.filter fun v => v.deviceIDf = deviceId).map (·.valveID)

/-- A row of `bbd.rcv_get_active_schedules`. -/
structure ActiveRow where
  scheduleIDo : ℤ
  valveIDo : ℤ
  startTimeO : ℤ
  stopTimeO : ℤ
  sentO : Bool
  deriving DecidableEq, Repr

/-- `bbd.rcv_get_active_schedules`: the schedules joined with the valves of the device. -/
def rcvGetActiveSchedules (deviceId : ℤ) (db : Db) : List ActiveRow :=
  let t1 := rcvGetDeviceValves deviceId db
  let joined := db.schedule.rows.flatMap fun s =>
    (t1.filter fun v => s.valveIDf = v).map fun v => (s, v)
  (joined.filter fun sv => sv.1.active = true).map
    fun sv => ⟨sv.1.scheduleID, sv.2, sv.1.startTime, sv.1.stopTime, sv.1.sent⟩

/-- `SET sent=TRUE, sent_on=CURRENT_TIMESTAMP`. -/
def ScheduleRow.setSent (now : Timestamp) (r : ScheduleRow) : ScheduleRow :=
  { r with sent := true, sentOn := some now }

/-- `SET deactivated_on=CURRENT_TIMESTAMP`. -/
def ScheduleRow.setDeactivated (now : Timestamp) (r : ScheduleRow) : ScheduleRow :=
  { r with deactivatedOn := some now }

/-- `SET active=FALSE`. -/
def ScheduleRow.setInactive (r : ScheduleRow) : ScheduleRow := { r with active := false }

theorem keepsIdentity_setSent (now : Timestamp) : KeepsIdentity (ScheduleRow.setSent now) :=
  ⟨fun _ => rfl, fun _ => rfl, fun _ => rfl, fun _ => rfl, fun _ => rfl, fun _ => rfl⟩

theorem keepsIdentity_setDeactivated (now : Timestamp) :
    KeepsIdentity (ScheduleRow.setDeactivated now) :=
  ⟨fun _ => rfl, fun _ => rfl, fun _ => rfl, fun _ => rfl, fun _ => rfl, fun _ => rfl⟩

theorem keepsIdentity_setInactive : KeepsIdentity ScheduleRow.setInactive :=
  ⟨fun _ => rfl, fun _ => rfl, fun _ => rfl, fun _ => rfl, fun _ => rfl, fun _ => rfl⟩

/-- The row that `rcv_set_schedule_sent` looks for. -/
def ScheduleRow.unsentWithId (scheduleId : ℤ) (r : ScheduleRow) : Bool :=
  r.scheduleID = scheduleId && !r.sent

/-- A row whose deactivation was requested and is not recorded as done. -/
def ScheduleRow.pending (r : ScheduleRow) : Bool := !r.active && r.deactivatedOn.isNone

/-- `bbd.rcv_set_schedule_sent`: whether a row was updated, and the database after it. -/
def rcvSetScheduleSent (now : Timestamp) (scheduleId : ℤ) (db : Db) : Bool × Db :=
  let n := db.schedule.rowCount (·.unsentWithId scheduleId)
  (decide (n > 0),
    db.updateSchedule (·.unsentWithId scheduleId) (·.setSent now) (keepsIdentity_setSent now))

/-- `bbd.deactivation_requests_done`: the ids it returns, and the database after it. -/
def deactivationRequestsDoneSql (now : Timestamp) (db : Db) : List ℤ × Db :=
  ((db.schedule.rows.filter (·.pending)).map (·.scheduleID),
    db.updateSchedule (·.pending) (·.setDeactivated now) (keepsIdentity_setDeactivated now))

/-! ## The functions of the web site -/

/-- The assignment of a `TEXT` value to a `VARCHAR(100)` column: what is beyond 100 characters must
be spaces, which are cut off. -/
def toVarchar100 : Option String → Option (Option String)
  | none => some none
  | some s =>
    if s.toList.length ≤ 100 then some (some s)
    else if (s.toList.drop 100).all (· == ' ') then some (some (String.ofList (s.toList.take 100)))
    else none

/-- `bbd.web_create_new_schedule`: whether the insertion took place, and the database after it.  The
sequence is advanced before the row is checked, and stays advanced when the row is refused. -/
def webCreateNewSchedule (valveIDfI : ℤ) (descriptionI : Option String)
    (startTimeI stopTimeIs : Int16) (now : Timestamp) (db : Db) : Bool × Db :=
  if 2147483647 ≤ db.scheduleSeq then (false, db)
  else
    let db' : Db := { db with scheduleSeq := db.scheduleSeq + 1 }
    match toVarchar100 descriptionI with
    | none => (false, db')
    | some description =>
      let row : ScheduleRow := {
        scheduleID := db.scheduleSeq + 1
        valveIDf := valveIDfI
        description := description
        createdOn := now
        startTime := startTimeI.toInt
        stopTime := stopTimeIs.toInt
        sent := false
        sentOn := none
        active := true
        deactivatedOn := none }
      if hrow : (0 ≤ row.startTime ∧ row.startTime ≤ 1440) ∧
          ∃ v ∈ db.valve.rows, v.valveID = row.valveIDf then
        match hins : db.schedule.insert? row with
        | none => (false, db')
        | some schedule => (true, { db' with
            schedule := schedule
            fkValve := by
              intro s hs
              rw [KeyedTable.rows_insert? hins, List.mem_append, List.mem_singleton] at hs
              rcases hs with hs | rfl
              · exact db.fkValve s hs
              · exact hrow.2
            checkStartTime := by
              intro s hs
              rw [KeyedTable.rows_insert? hins, List.mem_append, List.mem_singleton] at hs
              rcases hs with hs | rfl
              · exact db.checkStartTime s hs
              · exact hrow.1 })
      else (false, db')

/-- `bbd.web_deactivate_schedule_request`. -/
def webDeactivateScheduleRequest (scheduleId : ℤ) (db : Db) : Db :=
  db.updateSchedule (fun r => r.scheduleID = scheduleId) (·.setInactive) keepsIdentity_setInactive

/-! ## The calls that write -/

/-- A call of the web site that writes. -/
inductive WebCall where
  | create (valveIDfI : ℤ) (descriptionI : Option String) (startTimeI stopTimeIs : Int16)
      (now : Timestamp)
  | deactivate (scheduleId : ℤ)
  deriving DecidableEq, Repr

/-- A call of either side that writes. -/
inductive SqlCall where
  | web (call : WebCall)
  | setScheduleSent (now : Timestamp) (scheduleId : ℤ)
  | deactivationRequestsDone (now : Timestamp)
  deriving DecidableEq, Repr

def WebCall.apply (db : Db) : WebCall → Db
  | .create v d start stop now => (webCreateNewSchedule v d start stop now db).2
  | .deactivate id => webDeactivateScheduleRequest id db

def SqlCall.apply (db : Db) : SqlCall → Db
  | .web call => call.apply db
  | .setScheduleSent now id => (rcvSetScheduleSent now id db).2
  | .deactivationRequestsDone now => (deactivationRequestsDoneSql now db).2

/-- What a call does to a row that is there. -/
def SqlCall.touch : SqlCall → ScheduleRow → ScheduleRow
  | .web (.create ..), r => r
  | .web (.deactivate id), r => if r.scheduleID = id then r.setInactive else r
  | .setScheduleSent now id, r => if r.unsentWithId id then r.setSent now else r
  | .deactivationRequestsDone now, r => if r.pending then r.setDeactivated now else r

/-- The rows that a call may add. -/
def SqlCall.Creates : SqlCall → ScheduleRow → Prop
  | .web (.create v _ start stop now), r =>
    r.valveIDf = v ∧ r.startTime = start.toInt ∧ r.stopTime = stop.toInt ∧ r.createdOn = now ∧
      r.sent = false ∧ r.sentOn = none ∧ r.active = true ∧ r.deactivatedOn = none
  | _, _ => False

theorem keepsIdentity_touch (c : SqlCall) : KeepsIdentity c.touch := by
  constructor <;> intro r <;> rcases c with (_ | _) | _ | _ <;>
    simp only [SqlCall.touch] <;> (try split_ifs) <;> rfl

/-- The row that `web_create_new_schedule` inserts, if it inserts one. -/
def Db.created (db : Db) (v : ℤ) (description : Option String) (start stop : Int16)
    (now : Timestamp) : Option ScheduleRow :=
  if 2147483647 ≤ db.scheduleSeq then none
  else
    (toVarchar100 description).bind fun description =>
      if ((0 ≤ start.toInt ∧ start.toInt ≤ 1440) ∧ ∃ x ∈ db.valve.rows, x.valveID = v) ∧
          (db.scheduleSeq + 1 : ℤ) ∉ db.schedule.rows.map (·.scheduleID) then
        some ⟨db.scheduleSeq + 1, v, description, now, start.toInt, stop.toInt, false, none, true,
          none⟩
      else none

theorem webCreateNewSchedule_snd (v : ℤ) (description : Option String) (start stop : Int16)
    (now : Timestamp) (db : Db) :
    (webCreateNewSchedule v description start stop now db).2.device = db.device ∧
      (webCreateNewSchedule v description start stop now db).2.valve = db.valve ∧
      (webCreateNewSchedule v description start stop now db).2.schedule.rows =
        db.schedule.rows ++ (db.created v description start stop now).toList ∧
      (webCreateNewSchedule v description start stop now db).2.scheduleSeq =
        if 2147483647 ≤ db.scheduleSeq then db.scheduleSeq else db.scheduleSeq + 1 := by
  unfold webCreateNewSchedule Db.created
  by_cases hseq : 2147483647 ≤ db.scheduleSeq
  · simp [hseq]
  · rw [if_neg hseq, if_neg hseq, if_neg hseq]
    cases toVarchar100 description with
    | none => simp
    | some description =>
      dsimp only [Option.bind_some]
      split_ifs with hrow hnew hnew
      · split
        · rename_i hins
          exact absurd (KeyedTable.insert?_eq_none_iff.1 hins) hnew.2
        · rename_i hins
          exact ⟨rfl, rfl, KeyedTable.rows_insert? hins, rfl⟩
      · split
        · exact ⟨rfl, rfl, (List.append_nil _).symm, rfl⟩
        · rename_i hins
          refine absurd ⟨hrow, fun hmem => ?_⟩ hnew
          rw [KeyedTable.insert?_eq_none_iff.2 hmem] at hins
          cases hins
      · exact absurd hnew.1 hrow
      · exact ⟨rfl, rfl, (List.append_nil _).symm, rfl⟩

theorem created_eq_some_iff {db : Db} {v : ℤ} {description : Option String} {start stop : Int16}
    {now : Timestamp} {r : ScheduleRow} :
    db.created v description start stop now = some r ↔
      db.scheduleSeq < 2147483647 ∧ ∃ description', toVarchar100 description = some description' ∧
        (((0 ≤ start.toInt ∧ start.toInt ≤ 1440) ∧ ∃ x ∈ db.valve.rows, x.valveID = v) ∧
          (db.scheduleSeq + 1 : ℤ) ∉ db.schedule.rows.map (·.scheduleID)) ∧
        r = ⟨db.scheduleSeq + 1, v, description', now, start.toInt, stop.toInt, false, none, true,
          none⟩ := by
  unfold Db.created
  by_cases hseq : 2147483647 ≤ db.scheduleSeq
  · rw [if_pos hseq]
    exact iff_of_false (by simp) fun h => absurd h.1 (Nat.not_lt.2 hseq)
  · rw [if_neg hseq, Option.bind_eq_some_iff]
    simp only [Option.ite_none_right_eq_some, Option.some_inj, Nat.lt_of_not_le hseq, true_and,
      eq_comm (a := r)]

theorem creates_of_created {db : Db} {v : ℤ} {description : Option String} {start stop : Int16}
    {now : Timestamp} {r : ScheduleRow} (h : db.created v description start stop now = some r) :
    (SqlCall.web (.create v description start stop now)).Creates r := by
  obtain ⟨-, description', -, -, rfl⟩ := created_eq_some_iff.1 h
  exact ⟨rfl, rfl, rfl, rfl, rfl, rfl, rfl, rfl⟩

/-- Every call rewrites the rows one by one, and at most adds some. -/
theorem rows_apply (db : Db) (c : SqlCall) :
    ∃ new, (c.apply db).schedule.rows = db.schedule.rows.map c.touch ++ new ∧
      ∀ r ∈ new, c.Creates r := by
  cases c with
  | web call =>
    cases call with
    | create v description start stop now =>
      have htouch : (SqlCall.web (.create v description start stop now)).touch = id :=
        funext fun _ => rfl
      rw [htouch, List.map_id]
      exact ⟨_, (webCreateNewSchedule_snd v description start stop now db).2.2.1,
        fun r hr => creates_of_created (Option.mem_toList.1 hr)⟩
    | deactivate id =>
      refine ⟨[], ?_, by simp⟩
      rw [List.append_nil]
      exact List.map_congr_left fun r _ => by simp [SqlCall.touch]
  | setScheduleSent now id => exact ⟨[], by rw [List.append_nil]; rfl, by simp⟩
  | deactivationRequestsDone now => exact ⟨[], by rw [List.append_nil]; rfl, by simp⟩

@[simp] theorem valve_apply (db : Db) (c : SqlCall) : (c.apply db).valve = db.valve := by
  rcases c with (⟨v, description, start, stop, now⟩ | id) | _ | _
  · exact (webCreateNewSchedule_snd v description start stop now db).2.1
  all_goals rfl

theorem rows_apply_of_not_creates (db : Db) {c : SqlCall} (h : ∀ r, ¬ c.Creates r) :
    (c.apply db).schedule.rows = db.schedule.rows.map c.touch := by
  obtain ⟨new, hrows, hnew⟩ := rows_apply db c
  cases new with
  | nil => rw [hrows, List.append_nil]
  | cons r rs => exact absurd (hnew r List.mem_cons_self) (h r)

/-! ## The active schedules of a device -/

/-- The row's valve belongs to the device. -/
def Db.owns (db : Db) (deviceId : ℤ) (r : ScheduleRow) : Bool :=
  r.valveIDf ∈ rcvGetDeviceValves deviceId db

/-- What `rcv_get_active_schedules` shows of a row. -/
def ScheduleRow.activeRow (r : ScheduleRow) : ActiveRow :=
  ⟨r.scheduleID, r.valveIDf, r.startTime, r.stopTime, r.sent⟩

theorem nodup_rcvGetDeviceValves (deviceId : ℤ) (db : Db) :
    (rcvGetDeviceValves deviceId db).Nodup :=
  db.valve.nodup.sublist (List.filter_sublist.map _)

theorem owns_iff (db : Db) (deviceId : ℤ) (r : ScheduleRow) :
    db.owns deviceId r ↔ ∃ v ∈ db.valve.rows, v.valveID = r.valveIDf ∧ v.deviceIDf = deviceId := by
  rw [Db.owns, decide_eq_true_eq, rcvGetDeviceValves, List.mem_map]
  simp only [List.mem_filter, decide_eq_true_eq, and_assoc]
  exact exists_congr fun v => and_congr_right fun _ => and_comm

theorem owns_unique {db : Db} {d e : ℤ} {r : ScheduleRow} (hd : db.owns d r) (he : db.owns e r) :
    d = e := by
  obtain ⟨v, hv, hvid, rfl⟩ := (owns_iff db d r).1 hd
  obtain ⟨w, hw, hwid, rfl⟩ := (owns_iff db e r).1 he
  rw [db.valve.eq_of_key_eq hv hw (hvid.trans hwid.symm)]

@[simp] theorem rcvGetDeviceValves_apply (deviceId : ℤ) (db : Db) (c : SqlCall) :
    rcvGetDeviceValves deviceId (c.apply db) = rcvGetDeviceValves deviceId db := by
  rw [rcvGetDeviceValves, valve_apply, rcvGetDeviceValves]

@[simp] theorem owns_apply (deviceId : ℤ) (db : Db) (c : SqlCall) (r : ScheduleRow) :
    (c.apply db).owns deviceId r = db.owns deviceId r := by
  simp [Db.owns]

/-- The join returns each active schedule on a valve of the device once. -/
theorem rcvGetActiveSchedules_eq (deviceId : ℤ) (db : Db) :
    rcvGetActiveSchedules deviceId db =
      (db.schedule.rows.filter fun r => db.owns deviceId r && r.active).map
        ScheduleRow.activeRow := by
  have hjoin (s : ScheduleRow) :
      ((rcvGetDeviceValves deviceId db).filter fun v => s.valveIDf = v).map (fun v => (s, v)) =
        if db.owns deviceId s then [(s, s.valveIDf)] else [] := by
    have hcomm : (fun v => decide (s.valveIDf = v)) = fun v => decide (v = s.valveIDf) :=
      funext fun v => decide_eq_decide.2 eq_comm
    rw [hcomm, List.filter_eq]
    by_cases h : s.valveIDf ∈ rcvGetDeviceValves deviceId db
    · rw [List.count_eq_one_of_mem (nodup_rcvGetDeviceValves deviceId db) h]
      simp [Db.owns, h]
    · rw [List.count_eq_zero_of_not_mem h]
      simp [Db.owns, h]
  unfold rcvGetActiveSchedules
  simp only [hjoin]
  induction db.schedule.rows with
  | nil => rfl
  | cons s ss ih =>
    rw [List.flatMap_cons, List.filter_append, List.map_append, ih, List.filter_cons]
    by_cases ho : db.owns deviceId s <;> by_cases ha : s.active <;>
      simp [ho, ha, ScheduleRow.activeRow]

theorem mem_rcvGetActiveSchedules {deviceId : ℤ} {db : Db} {a : ActiveRow} :
    a ∈ rcvGetActiveSchedules deviceId db ↔
      ∃ r ∈ db.schedule.rows, db.owns deviceId r ∧ r.active ∧ r.activeRow = a := by
  simp only [rcvGetActiveSchedules_eq, List.mem_map, List.mem_filter, Bool.and_eq_true, and_assoc]

theorem nodup_rcvGetActiveSchedules (deviceId : ℤ) (db : Db) :
    ((rcvGetActiveSchedules deviceId db).map (·.scheduleIDo)).Nodup := by
  rw [rcvGetActiveSchedules_eq, List.map_map]
  exact db.schedule.nodup.sublist (List.filter_sublist.map _)

end Bbd.Server
