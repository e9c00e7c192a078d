import Bbd.Server.Requests

/-!
# Devices side by side

A device sees the database through two queries, its active schedules and its valves, and every
answer it gets is a function of what they return (`reply_congr`).  The calls that a request writes
by carry bare schedule ids or no device at all; that they leave the view of every other device alone
follows from the join over the owner of a valve and the primary keys (`view_of_makes`).
-/

namespace Bbd.Server

open Runs

/-- The view of a device: what the two queries return for it. -/
def Db.view (db : Db) (deviceId : ℤ) : List ActiveRow × List ℤ :=
  (rcvGetActiveSchedules deviceId db, rcvGetDeviceValves deviceId db)

theorem view_eq_iff {db db' : Db} {deviceId : ℤ} :
    db.view deviceId = db'.view deviceId ↔
      rcvGetActiveSchedules deviceId db = rcvGetActiveSchedules deviceId db' ∧
        rcvGetDeviceValves deviceId db = rcvGetDeviceValves deviceId db' := by
  rw [Db.view, Db.view, Prod.mk.injEq]

/-- The answer to a device depends on its view alone. -/
theorem reply_congr (server : Endian) (env : Env) (deviceId : UInt8) {db db' : Db}
    (h : db.view deviceId.toNat = db'.view deviceId.toNat) (type : RequestType) :
    (serveRequest server env deviceId db type).reply =
      (serveRequest server env deviceId db' type).reply := by
  obtain ⟨hactive, hvalves⟩ := view_eq_iff.1 h
  cases hlists : type.listsSchedules with
  | false =>
    cases type with
    | getDeviceValvesMsg =>
      have hread : dbGetDeviceValves env.read env.valveOrder deviceId.toUInt16 db =
          dbGetDeviceValves env.read env.valveOrder deviceId.toUInt16 db' := by
        simp only [dbGetDeviceValves, Work.exec_begin, UInt8.toNat_toUInt16, hvalves]
        split_ifs <;> rfl
      simp only [serveRequest, requestHandler, serveGetDeviceValves, Handler.served, hread]
      cases dbGetDeviceValves env.read env.valveOrder deviceId.toUInt16 db' <;> rfl
    | _ => cases hlists
  | true =>
    have hread : env.fetch deviceId db = env.fetch deviceId db' := by
      simp only [Env.fetch, dbGetActiveSchedules, Work.exec_begin, UInt8.toNat_toUInt16, hactive]
      split_ifs <;> rfl
    rw [reply_eq hlists, reply_eq hlists, hread]

theorem active_touchAll {calls : List SqlCall} (h : ∀ c ∈ calls, ∀ w, c ≠ .web w)
    (r : ScheduleRow) : (SqlCall.touchAll calls r).active = r.active := by
  induction calls generalizing r with
  | nil => rfl
  | cons c cs ih =>
    obtain ⟨hc, hcs⟩ := List.forall_mem_cons.1 h
    rw [SqlCall.touchAll_cons, ih hcs]
    rcases c with w | ⟨now, id⟩ | now
    · exact absurd rfl (hc w)
    all_goals
      simp only [SqlCall.touch]
      split_ifs <;> rfl

theorem rows_run_of_forall_ne_web (db : Db) {calls : List SqlCall}
    (h : ∀ c ∈ calls, ∀ w, c ≠ .web w) :
    (run SqlCall.apply db calls).schedule.rows =
      db.schedule.rows.map (SqlCall.touchAll calls) := by
  obtain ⟨new, hrows, hnew⟩ := rows_run db calls
  obtain rfl : new = [] := by
    refine List.eq_nil_iff_forall_not_mem.2 fun r hr => ?_
    obtain ⟨pre, c, post, r₀, rfl, hc, -⟩ := hnew r hr
    rcases c with w | _ | _
    · exact h (.web w) (by simp) w rfl
    all_goals exact hc
  rw [hrows, List.append_nil]

/-- No row of another device is marked: the id of a mark is that of a row of the requester. -/
theorem sent_touchAll_of_makes {env : Env} {e : UInt8} {db : Db} {type : RequestType}
    {calls : List SqlCall} (hcalls : ∀ c ∈ calls, env.Makes e db type c) {d : ℤ}
    (hd : d ≠ e.toNat) {r : ScheduleRow} (hr : r ∈ db.schedule.rows) (ho : db.owns d r) :
    (SqlCall.touchAll calls r).sent = r.sent := by
  rw [SqlCall.sent_touchAll, Bool.or_eq_left_iff_imp, List.any_eq_true]
  rintro ⟨c, hc, hid⟩
  rcases c with w | ⟨now, id⟩ | now
  · cases hid
  · obtain ⟨r', hr', hid', ho', -⟩ := hcalls _ hc
    rw [db.schedule.eq_of_key_eq hr' hr (hid'.trans (of_decide_eq_true hid))] at ho'
    exact absurd (owns_unique ho ho') hd
  · cases hid

theorem view_of_makes {env : Env} {e : UInt8} {db : Db} {type : RequestType} {calls : List SqlCall}
    (hcalls : ∀ c ∈ calls, env.Makes e db type c) (hweb : env.webCalls = []) {d : ℤ}
    (hd : d ≠ e.toNat) : (run SqlCall.apply db calls).view d = db.view d := by
  have hnoweb : ∀ c ∈ calls, ∀ w, c ≠ .web w := by
    rintro _ hc w rfl
    have := hcalls _ hc
    rw [Env.Makes, hweb] at this
    cases this
  refine view_eq_iff.2 ⟨?_, rcvGetDeviceValves_run d db calls⟩
  simp only [rcvGetActiveSchedules_eq, owns_run, rows_run_of_forall_ne_web db hnoweb]
  refine List.map_filter_map_congr (fun r _ => ?_) fun r hr hq => ?_
  · rw [owns_touchAll, active_touchAll hnoweb]
  · rw [Bool.and_eq_true] at hq
    simp only [ScheduleRow.activeRow, SqlCall.scheduleID_touchAll, SqlCall.valveIDf_touchAll,
      (SqlCall.keepsIdentity_touchAll calls).startTime,
      (SqlCall.keepsIdentity_touchAll calls).stopTime, sent_touchAll_of_makes hcalls hd hr hq.1]

theorem view_serveHeader (server : Endian) (env : Env) (header : Header) (db : Db)
    (hweb : env.webCalls = []) {d : ℤ} (hd : d ≠ header.deviceId.toNat) :
    (serveHeader server env header db).db.view d = db.view d := by
  rw [serveHeader_eq]
  cases header.request with
  | none => rfl
  | some type =>
    obtain ⟨calls, hdb, hcalls⟩ := exists_makes server env header.deviceId db type
    simp only [hdb]
    exact view_of_makes hcalls hweb hd

/-- A request of one device changes nothing for another: neither what the two queries return for it
nor the answer to its next request.  And what a device sees are the active schedules on the valves
it owns, each once. -/
theorem other_device_undisturbed (server : Endian) (env : Env) (header : Header) (db : Db)
    (hweb : env.webCalls = []) (d : UInt8) (hd : d ≠ header.deviceId) :
    (rcvGetActiveSchedules d.toNat (serveHeader server env header db).db =
        rcvGetActiveSchedules d.toNat db ∧
      rcvGetDeviceValves d.toNat (serveHeader server env header db).db =
        rcvGetDeviceValves d.toNat db) ∧
    (∀ env' type, (serveRequest server env' d (serveHeader server env header db).db type).reply =
      (serveRequest server env' d db type).reply) ∧
    (∀ a, a ∈ rcvGetActiveSchedules d.toNat db ↔
      ∃ r ∈ db.schedule.rows,
        (∃ v ∈ db.valve.rows, v.valveID = r.valveIDf ∧ v.deviceIDf = d.toNat) ∧
          r.active = true ∧ r.activeRow = a) ∧
    ((rcvGetActiveSchedules d.toNat db).map (·.scheduleIDo)).Nodup := by
  have hd' : (d.toNat : ℤ) ≠ header.deviceId.toNat := by
    rwa [ne_eq, Int.natCast_inj, UInt8.toNat_inj]
  have hview := view_serveHeader server env header db hweb hd'
  refine ⟨view_eq_iff.1 hview, fun env' type => reply_congr server env' d hview type, fun a => ?_,
    nodup_rcvGetActiveSchedules _ _⟩
  simp only [mem_rcvGetActiveSchedules, owns_iff]

/-- Device 1 fetches its schedule; device 2 still has its own to fetch. -/
theorem other_device_undisturbed_two :
    Env.calm.webCalls = [] ∧
      rcvGetActiveSchedules 2 (serveHeader .little .calm ⟨38017, 1, 2, 0⟩
        (Db.garden.afterWeb [.create 1 none 5 7 0, .create 2 none 9 10 0])).db =
          [⟨2, 2, 9, 10, false⟩] :=
  ⟨rfl, (other_device_undisturbed .little .calm ⟨38017, 1, 2, 0⟩
    (Db.garden.afterWeb [.create 1 none 5 7 0, .create 2 none 9 10 0]) rfl 2
    (by decide)).1.1.trans (by decide)⟩

end Bbd.Server
