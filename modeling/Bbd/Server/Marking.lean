import Bbd.Server.Requests
import Bbd.Wire

/-!
# The `sent` flag

`set_schedules_sent` is meant to mark a delivered list, but it commits inside its loop: it is all or
nothing only where the first unsent listed schedule is the last of the list (`allOrNothing_iff`).
The handlers call it whether or not the reply was sent, so a mark tells the truth only where the
send succeeded and the reply reached as far as the marked schedule (`sentTruthfully_iff`).
-/

namespace Bbd.Server

open Runs

/-! ## All or nothing -/

/-- The call returned 0 and every listed row is sent, or it did not and no row has changed. -/
def AllOrNothing (faults : PqxxFaults) (now : Timestamp) (sches : List Schedule) (db : Db) : Prop :=
  let r := setSchedulesSent faults now sches db
  (r.1 = 0 ∧ ∀ s ∈ sches, ∀ row ∈ r.2.schedule.rows,
      row.scheduleID = s.scheduleId.toNat → row.sent = true) ∨
    (r.1 ≠ 0 ∧ r.2.schedule.rows = db.schedule.rows)

theorem unsent_eq_false_iff {db : Db} {id : ℤ} :
    db.unsent id = false ↔ ∀ row ∈ db.schedule.rows, row.scheduleID = id → row.sent = true := by
  simp only [Db.unsent, List.any_eq_false, ScheduleRow.unsentWithId, Bool.and_eq_true,
    decide_eq_true_eq, Bool.not_eq_true', not_and, Bool.not_eq_false]

theorem unsent_setScheduleSent (db : Db) (now : Timestamp) {id id' : ℤ}
    (h : id' = id ∨ db.unsent id' = false) :
    (SqlCall.apply db (.setScheduleSent now id)).unsent id' = false := by
  rw [unsent_eq_false_iff]
  intro row hrow hid
  rw [rows_apply_of_not_creates db (by simp [SqlCall.Creates]), List.mem_map] at hrow
  obtain ⟨r, hr, rfl⟩ := hrow
  rw [(keepsIdentity_touch _).scheduleID] at hid
  rw [SqlCall.sent_touch, Bool.or_eq_true]
  rcases h with rfl | h
  · exact Or.inr (by simp [SqlCall.marks, hid])
  · exact Or.inl (unsent_eq_false_iff.1 h r hr hid)

theorem unsent_congr {db db' : Db} (h : db'.schedule.rows = db.schedule.rows) (id : ℤ) :
    db'.unsent id = db.unsent id := by
  rw [Db.unsent, h, Db.unsent]

/-- Marking a list is all or nothing exactly when no listed schedule stands behind the one that gets
marked. -/
theorem allOrNothing_iff (faults : PqxxFaults) (now : Timestamp) (sches : List Schedule) (db : Db) :
    AllOrNothing faults now sches db ↔
      ∀ pre s post, Marks faults sches db pre s post → post = [] := by
  constructor
  · intro h pre s post hm
    by_contra hpost
    rw [AllOrNothing, hm.setSchedulesSent, if_neg (by simpa using hpost)] at h
    rcases h with ⟨h, -⟩ | ⟨-, hrows⟩
    · exact absurd h Nat.one_ne_zero
    · have hmarked : (rcvSetScheduleSent now s.scheduleId.toNat db).2.unsent s.scheduleId.toNat =
          false := unsent_setScheduleSent db now (Or.inl rfl)
      rw [unsent_congr hrows, hm.unsent] at hmarked
      cases hmarked
  · intro h
    by_cases hm : ∃ pre s post, Marks faults sches db pre s post
    · obtain ⟨pre, s, post, hm⟩ := hm
      obtain rfl := h pre s post hm
      refine Or.inl ⟨by rw [hm.setSchedulesSent]; rfl, fun x hx => ?_⟩
      rw [hm.setSchedulesSent, ← unsent_eq_false_iff]
      refine unsent_setScheduleSent db now ?_
      rw [hm.split, List.mem_append, List.mem_singleton] at hx
      rcases hx with hx | rfl
      · exact Or.inr (hm.before x hx)
      · exact Or.inl rfl
    · push Not at hm
      obtain ⟨hdb, hsent⟩ := setSchedulesSent_of_not_marks hm now
      by_cases hr : (setSchedulesSent faults now sches db).1 = 0
      · refine Or.inl ⟨hr, fun x hx => ?_⟩
        rw [hdb, ← unsent_eq_false_iff]
        exact hsent hr x hx
      · exact Or.inr ⟨hr, by rw [hdb]⟩

/-- Of two unsent schedules the first gets marked, and the call reports an error. -/
theorem not_allOrNothing_two_unsent :
    ¬ AllOrNothing .none 9 [⟨1, 1, 5, 7⟩, ⟨2, 1, 9, 10⟩]
      (Db.garden.afterWeb [.create 1 none 5 7 0, .create 1 none 9 10 0]) := by
  unfold AllOrNothing
  decide

/-! ## A mark and its reply -/

/-- Every schedule that is sent after the request and was not before is in a reply that was sent. -/
def SentTruthfully (client : Endian) (env : Env) (db : Db) (served : Served) : Prop :=
  ∀ r' ∈ served.db.schedule.rows, r'.sent = true →
    (∀ r ∈ db.schedule.rows, r.scheduleID = r'.scheduleID → r.sent = false) →
      env.sendFails = false ∧
        ∃ reply, served.reply = some reply ∧ ∃ s ∈ replySchedules client reply, s.item = r'.item

theorem sentTruthfully_of_sent_before {client : Endian} {env : Env} {db : Db} {served : Served}
    (h : ∀ r' ∈ served.db.schedule.rows, r'.sent = true →
      ∃ r ∈ db.schedule.rows, r.scheduleID = r'.scheduleID ∧ r.sent = true) :
    SentTruthfully client env db served := by
  intro r' hr' hsent hnew
  obtain ⟨r, hr, hid, hs⟩ := h r' hr' hsent
  rw [hnew r hr hid] at hs
  cases hs

theorem sentTruthfully_iff_of_fetch (server client : Endian) {env : Env} {deviceId : UInt8}
    {db : Db} {type : RequestType} (hlists : type.listsSchedules) {sches : List Schedule}
    {sents : List Bool} (hfetch : env.fetch deviceId db = some (sches, sents)) :
    SentTruthfully client env db (serveRequest server env deviceId db type) ↔
      ∀ pre s post, Marks env.mark sches db pre s post →
        env.sendFails = false ∧ pre.length < sches.length % 8192 := by
  obtain ⟨mark, hmark, hserve⟩ := serveRequest_of_fetch server hlists hfetch
  rw [hserve]
  constructor
  · intro h pre s post hm
    obtain ⟨r, hr, -, -, hitem⟩ := exists_row_of_fetch hfetch (s := s) (by rw [hm.split]; simp)
    have hunsent : r.sent = false := by
      simpa [unsent_eq_of_item hr hitem] using hm.unsent
    -- The marked row is new as a sent one, so its schedule has to be in the reply.
    obtain ⟨hsend, reply, hreply, s', hs', hitem'⟩ :=
      h _ (mem_run_of_mem hr _) (sent_of_marks hmark hm hitem) fun r₁ hr₁ hid₁ => by
        rw [SqlCall.scheduleID_touchAll] at hid₁
        rw [db.schedule.eq_of_key_eq hr₁ hr hid₁, hunsent]
    rw [← Option.some.inj hreply, replySchedules_scheduleReply, hm.answer_eq hfetch] at hs'
    rw [item_touchAll, hitem] at hitem'
    rw [Schedule.item_injective hitem'] at hs'
    exact ⟨hsend, (hm.mem_take_iff _).1 hs'⟩
  · intro h r' hr' hsent hnew
    rcases sent_of_mem_run_calls hfetch hmark hr' hsent with
      ⟨r, hr, hid, hs⟩ | ⟨pre, s, post, hm, hitem⟩
    · rw [hnew r hr hid] at hs
      cases hs
    · obtain ⟨hsend, hlt⟩ := h pre s post hm
      refine ⟨hsend, _, rfl, s, ?_, hitem⟩
      rw [replySchedules_scheduleReply, hm.answer_eq hfetch]
      exact (hm.mem_take_iff _).2 hlt

/-- The marks of a request tell the truth exactly when, if its list has a schedule that gets marked,
the send succeeds and the place of that schedule is one the reply has room for. -/
theorem sentTruthfully_iff (server client : Endian) (env : Env) (deviceId : UInt8) (db : Db)
    (type : RequestType) :
    SentTruthfully client env db (serveRequest server env deviceId db type) ↔
      (type.listsSchedules → ∀ sches sents pre s post,
        env.fetch deviceId db = some (sches, sents) → Marks env.mark sches db pre s post →
          env.sendFails = false ∧ pre.length < sches.length % 8192) := by
  cases hlists : type.listsSchedules with
  | false =>
    refine ⟨fun _ h => absurd h Bool.false_ne_true, fun _ => ?_⟩
    cases type with
    | getDeviceValvesMsg =>
      obtain ⟨calls, -, hdb⟩ := serveRequest_getDeviceValves_db server env deviceId db
      refine sentTruthfully_of_sent_before fun r' hr' hsent => ?_
      rw [hdb] at hr'
      exact exists_sent_of_afterWeb hr' hsent
    | _ => cases hlists
  | true =>
    cases hfetch : env.fetch deviceId db with
    | none =>
      rw [serveRequest_of_fetch_none hlists hfetch]
      refine ⟨fun _ _ sches sents pre s post h => absurd h (by simp), fun _ => ?_⟩
      exact sentTruthfully_of_sent_before fun r' hr' hsent => ⟨r', hr', rfl, hsent⟩
    | some read =>
      obtain ⟨sches, sents⟩ := read
      rw [sentTruthfully_iff_of_fetch server client hlists hfetch]
      constructor
      · rintro h - _ _ pre s post hread hm
        obtain ⟨rfl, rfl⟩ := Prod.mk.inj (Option.some.inj hread)
        exact h pre s post hm
      · intro h pre s post hm
        exact h rfl sches sents pre s post rfl hm

/-- A schedule of device 1 is marked although the reply that carries it could not be sent. -/
theorem not_sentTruthfully_send_fails :
    ¬ SentTruthfully .little { Env.calm with sendFails := true }
      (Db.garden.afterWeb [.create 1 none 5 7 0])
      (serveRequest .little { Env.calm with sendFails := true } 1
        (Db.garden.afterWeb [.create 1 none 5 7 0]) .checkNewSchedulesMsg) := by
  intro h
  have hsend := (h ⟨1, 1, none, 0, 5, 7, true, some 0, true, none⟩ (by decide) rfl (by decide)).1
  exact absurd hsend (by decide)

end Bbd.Server
