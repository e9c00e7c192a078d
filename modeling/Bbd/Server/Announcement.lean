import Bbd.Server.Isolation
import Bbd.Server.Polling

/-!
# Every schedule is announced

A request for schedules marks one active schedule of its device, and only one, as long as some is
unsent.  So while nothing is created or deactivated for a device, and the database does not fail its
requests, the requests of the device are counted down exactly: `k` unsent schedules take `k`
requests, and after these every active one is marked (`every_schedule_announced`).  What else goes
on at the receiver does not matter, and neither does whether the replies arrive.
-/

namespace Bbd.Server

open Runs

/-- None of the web calls deactivates a schedule of the device. -/
def NoDeactivateFor (d : ℤ) (db : Db) (calls : List WebCall) : Prop :=
  ∀ id, .deactivate id ∈ calls → ∀ r ∈ db.schedule.rows, r.scheduleID = id → db.owns d r = false

/-- The active schedules of the device fit the wire: a reply has room for all of them, and for the
values of each. -/
def FitsWire (d : UInt8) (db : Db) : Prop :=
  (rcvGetActiveSchedules d.toNat db).length ≤ 8191 ∧
    ∀ r ∈ db.schedule.rows, db.owns d.toNat r → r.active → r.item.Fits

instance (d : UInt8) (db : Db) : Decidable (FitsWire d db) :=
  inferInstanceAs (Decidable (_ ∧ ∀ r ∈ db.schedule.rows, _))

namespace ServerEvent

/-- The event is a request of the device for its schedules. -/
def asks (d : UInt8) : ServerEvent → Bool
  | .web _ => false
  | .request deviceId msgType _ => deviceId = d && msgType.listsSchedules

/-- What a run admits in which the schedules of the device are only announced: none is created or
deactivated for it, and the database does not fail its requests. -/
def Announces (d : UInt8) (db : Db) (e : ServerEvent) : Prop :=
  NoCreateFor d.toNat db e.webCalls ∧ NoDeactivateFor d.toNat db e.webCalls ∧
    ∀ type env, e = .request d type env → type.listsSchedules →
      env.read = .none ∧ env.mark = .none

end ServerEvent

/-! ## One event -/

section Step

variable {server : Endian} {d : UInt8} {db : Db} {e : ServerEvent}

theorem active_touchAll_of_not_deactivated {calls : List SqlCall} {r : ScheduleRow}
    (h : .web (.deactivate r.scheduleID) ∉ calls) :
    (SqlCall.touchAll calls r).active = r.active := by
  induction calls generalizing r with
  | nil => rfl
  | cons c cs ih =>
    rw [List.mem_cons, not_or] at h
    have hid := (keepsIdentity_touch c).scheduleID r
    rw [SqlCall.touchAll_cons, ih (by rw [hid]; exact h.2)]
    rcases c with (_ | id) | ⟨now, id⟩ | now
    · rfl
    · have hne : r.scheduleID ≠ id := by
        rintro rfl
        exact h.1 rfl
      simp only [SqlCall.touch, if_neg hne]
    all_goals
      simp only [SqlCall.touch]
      split_ifs <;> rfl

theorem active_touchAll_of_owns {calls : List SqlCall}
    (hcalls : ∀ w, .web w ∈ calls → w ∈ e.webCalls) (h : e.Announces d db) {r : ScheduleRow}
    (hr : r ∈ db.schedule.rows) (ho : db.owns d.toNat r) :
    (SqlCall.touchAll calls r).active = r.active := by
  refine active_touchAll_of_not_deactivated fun hmem => ?_
  have := h.2.1 r.scheduleID (hcalls _ hmem) r hr rfl
  rw [ho] at this
  cases this

theorem exists_calls_of_not_asks (server : Endian) (db : Db) (h : e.asks d = false) :
    ∃ calls, e.step server db = run SqlCall.apply db calls ∧
      (∀ w, .web w ∈ calls → w ∈ e.webCalls) ∧
      ∀ r ∈ db.schedule.rows, db.owns d.toNat r → (SqlCall.touchAll calls r).sent = r.sent := by
  cases e with
  | web call =>
    exact ⟨[.web call], rfl, fun w hw => by simpa [ServerEvent.webCalls] using hw,
      fun r _ _ => sent_touchAll_web [call] r⟩
  | request deviceId type env =>
    by_cases hd : deviceId = d
    · subst hd
      have htype : type.listsSchedules = false := by simpa [ServerEvent.asks] using h
      cases type with
      | getDeviceValvesMsg =>
        obtain ⟨calls, hcalls, hdb⟩ := serveRequest_getDeviceValves_db server env deviceId db
        refine ⟨calls.map .web, by rw [run_web, ← hdb]; rfl, fun w hw => ?_,
          fun r _ _ => sent_touchAll_web calls r⟩
        obtain ⟨w', hw', heq⟩ := List.mem_map.1 hw
        cases heq
        exact hcalls w hw'
      | _ => cases htype
    · obtain ⟨calls, hdb, hcalls⟩ := exists_makes server env deviceId db type
      refine ⟨calls, hdb, fun w hw => hcalls _ hw, fun r hr ho => ?_⟩
      refine sent_touchAll_of_makes hcalls ?_ hr ho
      rw [ne_eq, Int.natCast_inj, UInt8.toNat_inj]
      exact fun heq => hd heq.symm

theorem FitsWire.step (hfits : FitsWire d db) (h : e.Announces d db) :
    FitsWire d (e.step server db) := by
  obtain ⟨calls, hstep, hcalls⟩ := e.exists_calls server db
  refine ⟨Nat.le_trans (length_active_step_le h.1) hfits.1, fun r' hr' ho ha => ?_⟩
  rw [hstep] at hr' ho
  rw [owns_run] at ho
  obtain ⟨r, hr, rfl⟩ := exists_touchAll_of_owns hcalls h.1 hr' ho
  rw [owns_touchAll] at ho
  rw [item_touchAll]
  exact hfits.2 r hr ho (SqlCall.active_of_touchAll _ _ ha)

/-- A request of the device for its schedules takes one unsent schedule away, if there is one. -/
theorem unsentActive_step_of_asks (hfits : FitsWire d db) (h : e.Announces d db)
    (hasks : e.asks d = true) :
    (e.step server db).unsentActive d.toNat = db.unsentActive d.toNat - 1 := by
  obtain ⟨type, env, rfl, htype⟩ :
      ∃ type env, e = .request d type env ∧ type.listsSchedules = true := by
    cases e with
    | web call => cases hasks
    | request deviceId type env =>
      rw [ServerEvent.asks, Bool.and_eq_true, decide_eq_true_eq] at hasks
      exact ⟨type, env, by rw [hasks.1], hasks.2⟩
  obtain ⟨hread, hmarkOk⟩ := h.2.2 type env rfl htype
  obtain ⟨⟨sches, sents⟩, hfetch⟩ := exists_fetch hread fun r hr ho ha =>
    (exists_item_iff _).2 (hfits.2 r hr ho ha)
  obtain ⟨mark, hmark, hserve⟩ := serveRequest_of_fetch server htype hfetch
  have hcalls : ∀ w, .web w ∈ env.calls mark (env.recording type) → w ∈ env.webCalls :=
    fun w hw => makes_of_mem_calls hfetch hmark hw
  have hcount := countP_run (p := fun r => !r.sent && (db.owns d.toNat r && r.active)) hcalls h.1
    fun r hr => (Bool.and_eq_true_iff.1 (Bool.and_eq_true_iff.1 hr).2).1
  simp only [unsentActive_eq, ServerEvent.step, hserve, owns_run]
  rw [hcount]
  by_cases hunsent : ∃ s ∈ sches, db.unsent s.scheduleId.toNat = true
  · obtain ⟨pre, s, post, hm⟩ := exists_marks hunsent
    rw [← hmarkOk] at hm
    obtain ⟨r, hr, ho, ha, hitem⟩ := exists_row_of_fetch hfetch (s := s) (by rw [hm.split]; simp)
    have hu : r.sent = false := by simpa [unsent_eq_of_item hr hitem] using hm.unsent
    have hdrop := db.schedule.countP_of_drop
      (q := (fun r => !r.sent && (db.owns d.toNat r && r.active)) ∘
        SqlCall.touchAll (env.calls mark (env.recording type)))
      (p := fun r => !r.sent && (db.owns d.toNat r && r.active)) hr (by simp [hu, ho, ha])
      (by simp [sent_of_marks hmark hm hitem]) fun r' hr' hne => ?_
    · omega
    -- Only the row of the schedule that gets marked changes.
    have hsent : (SqlCall.touchAll (env.calls mark (env.recording type)) r').sent = r'.sent := by
      rw [SqlCall.sent_touchAll, Bool.or_eq_left_iff_imp, List.any_eq_true]
      rintro ⟨c, hc, hid⟩
      obtain ⟨pre', s', post', hm', hs'⟩ := marks_of_mem_calls hmark hc hid
      obtain rfl := hm.unique hm'
      exact absurd (hs'.symm.trans (scheduleID_eq_of_item hitem).symm) hne
    simp only [Function.comp_apply, owns_touchAll, hsent]
    cases ho' : db.owns d.toNat r' with
    | false => simp
    | true => rw [active_touchAll_of_owns hcalls h hr' ho']
  · -- Nothing is unsent, so there is nothing to take away.
    have hzero : db.schedule.rows.countP
        (fun r => !r.sent && (db.owns d.toNat r && r.active)) = 0 := by
      rw [List.countP_eq_zero]
      intro r hr hp
      simp only [Bool.and_eq_true, Bool.not_eq_true'] at hp
      obtain ⟨s, hs, hitem⟩ := (mem_fetch_iff hfetch).2 ⟨r, hr, hp.2.1, hp.2.2, rfl⟩
      refine hunsent ⟨s, hs, ?_⟩
      rw [unsent_eq_of_item hr hitem.symm, hp.1]
      rfl
    have hzero' : db.schedule.rows.countP
        ((fun r => !r.sent && (db.owns d.toNat r && r.active)) ∘
          SqlCall.touchAll (env.calls mark (env.recording type))) = 0 := by
      rw [List.countP_eq_zero] at hzero ⊢
      exact fun r hr hp => hzero r hr (unsentActive_of_touchAll hp)
    rw [hzero, hzero']

/-- Every event of such a run, counted. -/
theorem unsentActive_step (hfits : FitsWire d db) (h : e.Announces d db) :
    (e.step server db).unsentActive d.toNat =
      db.unsentActive d.toNat - (e.asks d).toNat := by
  cases hasks : e.asks d with
  | true => exact unsentActive_step_of_asks hfits h hasks
  | false =>
    obtain ⟨calls, hstep, hcalls, hsent⟩ := exists_calls_of_not_asks server db hasks
    have hcount := countP_run (p := fun r => !r.sent && (db.owns d.toNat r && r.active)) hcalls h.1
      fun r hr => (Bool.and_eq_true_iff.1 (Bool.and_eq_true_iff.1 hr).2).1
    simp only [unsentActive_eq, hstep, owns_run, Bool.toNat_false, Nat.sub_zero]
    rw [hcount]
    refine List.countP_congr fun r hr => ?_
    simp only [Function.comp_apply, owns_touchAll]
    cases ho : db.owns d.toNat r with
    | false => simp
    | true => rw [hsent r hr ho, active_touchAll_of_owns hcalls h hr ho]

end Step

/-! ## Runs -/

/-- While nothing is created or deactivated for a device, its schedules fit the wire and the
database does not fail its requests, each request of it for schedules marks exactly one of its
unsent active schedules until none is left, whatever else is served in between; so after as many
requests as there were unsent ones, every active schedule of the device is marked as sent. -/
theorem every_schedule_announced (server : Endian) (d : UInt8) (db : Db) (es : List ServerEvent)
    (hfits : FitsWire d db)
    (hes : Along (ServerEvent.step server) (fun db e => e.Announces d db) db es) :
    (run (ServerEvent.step server) db es).unsentActive d.toNat =
        db.unsentActive d.toNat - es.countP (·.asks d) ∧
      (db.unsentActive d.toNat ≤ es.countP (·.asks d) →
        ∀ r ∈ (run (ServerEvent.step server) db es).schedule.rows,
          (run (ServerEvent.step server) db es).owns d.toNat r → r.active = true →
            r.sent = true) := by
  have hcount : (run (ServerEvent.step server) db es).unsentActive d.toNat =
      db.unsentActive d.toNat - es.countP (·.asks d) := by
    induction es generalizing db with
    | nil => rfl
    | cons e es ih =>
      rw [run_cons, ih _ (hfits.step hes.1) hes.2, unsentActive_step hfits hes.1, List.countP_cons]
      cases e.asks d
      · simp
      · simp only [Bool.toNat_true, if_true]
        omega
  refine ⟨hcount, fun hle r hr ho ha => ?_⟩
  rw [Nat.sub_eq_zero_of_le hle, unsentActive_eq, List.countP_eq_zero] at hcount
  by_contra hsent
  exact hcount r hr (by simp [ho, ha, Bool.not_eq_true _ ▸ hsent])

/-- Two schedules of device 1, announced one by one while device 2 is served. -/
theorem every_schedule_announced_two :
    ((run (ServerEvent.step .little)
      (Db.garden.afterWeb [.create 1 none 5 7 0, .create 1 none 8 9 0])
      [.request 1 .getActiveSchesMsg .calm, .request 2 .checkNewSchedulesMsg .calm,
        .request 1 .checkNewSchedulesMsg .calm]).schedule.rows.all
          fun r => !r.active || r.sent) = true := by
  have hcalm (db : Db) (e : UInt8) (type : RequestType) :
      (ServerEvent.request e type .calm).Announces 1 db := by
    refine ⟨fun v description start stop now h => ?_, fun id h => ?_, fun type env h _ => ?_⟩
    · cases h
    · cases h
    · cases h
      exact ⟨rfl, rfl⟩
  have hall := (every_schedule_announced .little 1
    (Db.garden.afterWeb [.create 1 none 5 7 0, .create 1 none 8 9 0])
    [.request 1 .getActiveSchesMsg .calm, .request 2 .checkNewSchedulesMsg .calm,
      .request 1 .checkNewSchedulesMsg .calm] (by decide)
    ⟨hcalm _ _ _, hcalm _ _ _, hcalm _ _ _, trivial⟩).2 (by decide)
  refine List.all_eq_true.2 fun r hr => ?_
  rw [Bool.or_eq_true, Bool.not_eq_true', ← Bool.not_eq_true]
  exact not_or_of_imp (hall r hr (by revert r; decide))

end Bbd.Server
