import Bbd.Lib.Queries
import Bbd.Server.Growth
import Bbd.Server.History
import Mathlib.Data.List.Perm.Basic

/-!
# What the web site lists

The functions of `bbd.sql` that the pages of the web site select from.  The pages list each valve
under its device and each schedule under its valve, and the schedules that they show as active under
the valves of a device are those that the receiver serves it (`listings_agree`).  The list of all
schedules only grows, and at its head (`schedule_list_run`).
-/

namespace Bbd.Server

open Queries Runs

/-! ## The listing functions -/

/-- A row of `bbd.web_get_devices`. -/
structure DeviceEntry where
  id : ℤ
  description : Option String
  nValves : ℕ
  deriving DecidableEq, Repr

/-- The valves of a device. -/
def valvesOf (db : Db) (d : DeviceRow) : List ValveRow :=
  db.valve.rows.filter fun v => v.deviceIDf = d.deviceID

/-- `bbd.web_get_devices`.  The key of a device makes its group; `count(valveID)` does not count the
row of a device without valves. -/
def webGetDevices (db : Db) : List DeviceEntry :=
  let joined := leftOuterJoin (valvesOf db) db.device.rows
  orderBy (·.id) (db.device.rows.map fun d =>
    ⟨d.deviceID, d.description,
      ((joined.filter fun row => row.1.deviceID = d.deviceID).filterMap (·.2)).length⟩)

/-- `bbd.web_get_valves()`.  The `id` that it orders by is no column of the table but the result
column of the function, which is null, so the rows come in any order. -/
def webGetValves (order : RowOrder ValveRow) (db : Db) : List ValveRow := order.order db.valve.rows

/-- `bbd.web_get_valves(device_id)`, ordered by `id` like the other. -/
def webGetValvesOf (order : RowOrder ValveRow) (deviceId : ℤ) (db : Db) : List ValveRow :=
  order.order (db.valve.rows.filter fun v => v.deviceIDf = deviceId)

/-- `bbd.web_get_schedules()`. -/
def webGetSchedules (db : Db) : List ScheduleRow := orderByDesc (·.scheduleID) db.schedule.rows

/-- `bbd.web_get_schedules(valveid)`. -/
def webGetSchedulesOf (valveid : ℤ) (db : Db) : List ScheduleRow :=
  orderByDesc (·.scheduleID) (db.schedule.rows.filter fun r => r.valveIDf = valveid)

/-! ## Each row once -/

section Agree

variable (db : Db) (order : RowOrder ValveRow)

theorem mem_webGetDevices {entry : DeviceEntry} (h : entry ∈ webGetDevices db) :
    ∃ d ∈ db.device.rows, entry = ⟨d.deviceID, d.description, (valvesOf db d).length⟩ := by
  obtain ⟨d, hd, rfl⟩ := List.mem_map.1 ((perm_orderBy _ _).mem_iff.1 h)
  exact ⟨d, hd, by rw [filterMap_group _ (·.deviceID) db.device.nodup hd]⟩

theorem perm_ids_webGetDevices :
    ((webGetDevices db).map (·.id)).Perm (db.device.rows.map (·.deviceID)) := by
  refine ((perm_orderBy _ _).map _).trans (List.Perm.of_eq ?_)
  rw [List.map_map]
  rfl

theorem perm_schedules_of_valves {valves : List ℤ} (hvalves : valves.Nodup) :
    (valves.flatMap fun v => webGetSchedulesOf v db).Perm
      (db.schedule.rows.filter fun r => r.valveIDf ∈ valves) := by
  refine List.Perm.trans ?_ (perm_flatMap_filter ScheduleRow.valveIDf hvalves _)
  exact List.Perm.flatMap_left _ fun v _ => perm_orderByDesc _ _

theorem perm_webGetValvesOf (deviceId : ℤ) :
    ((webGetValvesOf order deviceId db).map (·.valveID)).Perm (rcvGetDeviceValves deviceId db) :=
  (order.perm _).map _

/-- For every database: each valve is listed under the device it belongs to, and counted there; each
schedule is listed under its valve; and of the schedules listed under the valves of a device, those
shown as active are what the receiver serves the device, each once. -/
theorem listings_agree :
    (((webGetDevices db).flatMap fun entry => webGetValvesOf order entry.id db).Perm
        (webGetValves order db) ∧
      ∀ entry ∈ webGetDevices db, entry.nValves = (webGetValvesOf order entry.id db).length) ∧
    ((webGetValves order db).flatMap fun v => webGetSchedulesOf v.valveID db).Perm
      (webGetSchedules db) ∧
    ∀ deviceId, ((((webGetValvesOf order deviceId db).flatMap fun v =>
        webGetSchedulesOf v.valveID db).filter (·.active)).map ScheduleRow.activeRow).Perm
      (rcvGetActiveSchedules deviceId db) := by
  refine ⟨⟨?_, ?_⟩, ?_, fun deviceId => ?_⟩
  · have hids := perm_ids_webGetDevices db
    have hall : (db.valve.rows.filter fun v => v.deviceIDf ∈ (webGetDevices db).map (·.id)) =
        db.valve.rows := by
      refine List.filter_eq_self.2 fun v hv => decide_eq_true (hids.mem_iff.2 ?_)
      obtain ⟨d, hd, hid⟩ := db.fkDevice v hv
      exact hid ▸ List.mem_map_of_mem hd
    have hparts := perm_flatMap_filter ValveRow.deviceIDf (hids.nodup_iff.2 db.device.nodup)
      db.valve.rows
    rw [hall, List.flatMap_map] at hparts
    refine List.Perm.trans ?_ (hparts.trans (order.perm _).symm)
    exact List.Perm.flatMap_left _ fun entry _ => order.perm _
  · intro entry hentry
    obtain ⟨d, hd, rfl⟩ := mem_webGetDevices db hentry
    exact (order.perm _).length_eq.symm
  · have hids : ((webGetValves order db).map (·.valveID)).Perm (db.valve.rows.map (·.valveID)) :=
      (order.perm _).map _
    have hparts := perm_schedules_of_valves db (hids.nodup_iff.2 db.valve.nodup)
    rw [List.flatMap_map] at hparts
    refine hparts.trans (List.Perm.trans (List.Perm.of_eq ?_) (perm_orderByDesc _ _).symm)
    refine List.filter_eq_self.2 fun r hr => decide_eq_true (hids.mem_iff.2 ?_)
    obtain ⟨v, hv, hid⟩ := db.fkValve r hr
    exact hid ▸ List.mem_map_of_mem hv
  · have hids := perm_webGetValvesOf db order deviceId
    have hparts := perm_schedules_of_valves db
      (hids.nodup_iff.2 (nodup_rcvGetDeviceValves deviceId db))
    rw [List.flatMap_map] at hparts
    rw [rcvGetActiveSchedules_eq]
    refine ((hparts.filter _).trans (List.Perm.of_eq ?_)).map _
    rw [List.filter_filter]
    refine List.filter_congr fun r _ => ?_
    rw [Bool.and_comm, Db.owns, decide_eq_decide.2 hids.mem_iff]

end Agree

/-! ## The list over a run -/

/-- The row that a call adds, if it adds one. -/
def added (db : Db) : SqlCall → List ScheduleRow
  | .web (.create v description start stop now) => (db.created v description start stop now).toList
  | .web (.deactivate _) | .setScheduleSent _ _ | .deactivationRequestsDone _ => []

theorem rows_apply_added (db : Db) (c : SqlCall) :
    (c.apply db).schedule.rows = db.schedule.rows.map c.touch ++ added db c := by
  cases c with
  | web call =>
    cases call with
    | create v description start stop now =>
      have htouch : (SqlCall.web (.create v description start stop now)).touch = id :=
        funext fun _ => rfl
      rw [htouch, List.map_id]
      exact (webCreateNewSchedule_snd v description start stop now db).2.2.1
    | deactivate id =>
      rw [added, List.append_nil]
      exact rows_apply_of_not_creates db (by simp [SqlCall.Creates])
  | setScheduleSent now id =>
    rw [added, List.append_nil]
    exact rows_apply_of_not_creates db (by simp [SqlCall.Creates])
  | deactivationRequestsDone now =>
    rw [added, List.append_nil]
    exact rows_apply_of_not_creates db (by simp [SqlCall.Creates])

theorem scheduleSeq_apply (db : Db) (c : SqlCall) :
    db.scheduleSeq ≤ (c.apply db).scheduleSeq ∧ ∀ r ∈ added db c,
      r.scheduleID = db.scheduleSeq + 1 ∧ (c.apply db).scheduleSeq = db.scheduleSeq + 1 := by
  rcases c with (⟨v, description, start, stop, now⟩ | id) | ⟨now, id⟩ | now
  · obtain ⟨-, -, -, hseq⟩ := webCreateNewSchedule_snd v description start stop now db
    have happly : ((SqlCall.web (.create v description start stop now)).apply db).scheduleSeq =
        if 2147483647 ≤ db.scheduleSeq then db.scheduleSeq else db.scheduleSeq + 1 := hseq
    refine ⟨?_, fun r hr => ?_⟩
    · rw [happly]
      split_ifs <;> omega
    · obtain ⟨hlt, hid⟩ := scheduleID_of_created (Option.mem_toList.1 hr)
      exact ⟨hid, by rw [happly, if_neg (by omega)]⟩
  all_goals exact ⟨le_rfl, fun r hr => absurd hr List.not_mem_nil⟩

theorem pairwise_added (db : Db) (calls : List SqlCall) :
    (emitted SqlCall.apply added db calls).Pairwise (fun r s => r.scheduleID < s.scheduleID) ∧
      ∀ r ∈ emitted SqlCall.apply added db calls, (db.scheduleSeq : ℤ) < r.scheduleID := by
  induction calls generalizing db with
  | nil => exact ⟨List.Pairwise.nil, fun r hr => absurd hr List.not_mem_nil⟩
  | cons c cs ih =>
    obtain ⟨hle, hadded⟩ := scheduleSeq_apply db c
    obtain ⟨hpair, hlater⟩ := ih (c.apply db)
    have hone : (added db c).Pairwise fun r s => r.scheduleID < s.scheduleID := by
      rcases c with (⟨v, description, start, stop, now⟩ | id) | ⟨now, id⟩ | now
      · rw [added]
        cases db.created v description start stop now <;> simp
      all_goals exact List.Pairwise.nil
    rw [emitted]
    refine ⟨List.pairwise_append.2 ⟨hone, hpair, fun r hr s hs => ?_⟩, fun r hr => ?_⟩
    · have := hlater s hs
      obtain ⟨hid, hseq⟩ := hadded r hr
      omega
    · rcases List.mem_append.1 hr with hr | hr
      · have := (hadded r hr).1
        omega
      · have := hlater r hr
        omega

/-- The rows after a run: those that were there and those added, as the calls left them. -/
theorem rows_run_added (db : Db) (calls : List SqlCall) :
    ∃ new, (run SqlCall.apply db calls).schedule.rows =
        db.schedule.rows.map (SqlCall.touchAll calls) ++ new ∧
      new.map (·.scheduleID) =
        (emitted SqlCall.apply added db calls).map (·.scheduleID) := by
  induction calls generalizing db with
  | nil => exact ⟨[], by rw [run_nil, List.append_nil]; exact (List.map_id' _).symm, rfl⟩
  | cons c cs ih =>
    obtain ⟨new, hrows, hids⟩ := ih (c.apply db)
    refine ⟨(added db c).map (SqlCall.touchAll cs) ++ new, ?_, ?_⟩
    · rw [run_cons, hrows, rows_apply_added, List.map_append, List.map_map, List.append_assoc]
      rfl
    · rw [List.map_append, hids, emitted, List.map_append, List.map_map]
      congr 1
      exact List.map_congr_left fun r _ => SqlCall.scheduleID_touchAll cs r

/-- Over any run of calls, the list of schedules keeps what it lists, in order, each row as the
calls left it, under the rows that the run has added, of which the last is the first. -/
theorem schedule_list_run (db : Db) (hissued : db.Issued) (calls : List SqlCall) :
    ∃ new, webGetSchedules (run SqlCall.apply db calls) =
        new ++ (webGetSchedules db).map (SqlCall.touchAll calls) ∧
      new.map (·.scheduleID) =
        ((emitted SqlCall.apply added db calls).map (·.scheduleID)).reverse := by
  obtain ⟨new, hrows, hids⟩ := rows_run_added db calls
  refine ⟨new.reverse, orderByDesc_eq_of_perm _ ?_ ?_, by rw [List.map_reverse, hids]⟩
  · rw [hrows]
    refine List.Perm.trans ?_ List.perm_append_comm
    exact (List.reverse_perm new).append ((perm_orderByDesc _ _).map _)
  · obtain ⟨hpair, hbeyond⟩ := pairwise_added db calls
    have hnew : new.Pairwise fun r s => r.scheduleID < s.scheduleID := by
      have hsorted := List.pairwise_map.2 hpair
      rw [← hids] at hsorted
      exact List.pairwise_map.1 hsorted
    refine List.pairwise_append.2 ⟨List.pairwise_reverse.2 hnew, ?_, fun r hr s hs => ?_⟩
    · rw [List.pairwise_map]
      simp only [SqlCall.scheduleID_touchAll]
      exact pairwise_orderByDesc _ db.schedule.nodup
    · obtain ⟨s₀, hs₀, rfl⟩ := List.mem_map.1 hs
      have hold := (hissued s₀ ((perm_orderByDesc _ _).mem_iff.1 hs₀)).2
      have hmem : r.scheduleID ∈ (emitted SqlCall.apply added db calls).map (·.scheduleID) := by
        rw [← hids]
        exact List.mem_map_of_mem (List.mem_reverse.1 hr)
      obtain ⟨r₀, hr₀, hid⟩ := List.mem_map.1 hmem
      have := hbeyond r₀ hr₀
      rw [SqlCall.scheduleID_touchAll]
      omega

/-- The garden with a schedule, which is marked as sent and then gets a newer one above it. -/
theorem schedule_list_run_two :
    ∃ new, webGetSchedules (run SqlCall.apply
        (SqlCall.apply Db.garden (.web (.create 1 none 5 7 0)))
        [.setScheduleSent 3 1, .web (.create 2 none 5 7 0)]) =
        new ++ (webGetSchedules (SqlCall.apply Db.garden (.web (.create 1 none 5 7 0)))).map
          (SqlCall.touchAll [.setScheduleSent 3 1, .web (.create 2 none 5 7 0)]) ∧
      new.map (·.scheduleID) = [2] ∧
      (webGetSchedules (SqlCall.apply Db.garden (.web (.create 1 none 5 7 0)))).map
        (fun r => (r.scheduleID, r.sent)) = [(1, false)] := by
  have hgarden : Db.garden.Issued := fun r hr => absurd hr List.not_mem_nil
  obtain ⟨new, hlist, hids⟩ :=
    schedule_list_run (SqlCall.apply Db.garden (.web (.create 1 none 5 7 0)))
      (hgarden.web (.create 1 none 5 7 0)) [.setScheduleSent 3 1, .web (.create 2 none 5 7 0)]
  exact ⟨new, hlist, hids.trans (by decide), by decide⟩

end Bbd.Server
