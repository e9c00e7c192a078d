import Bbd.Server.ServerRun
import Bbd.Wire

/-!
# Polling

A device that polls with `CHECK_NEW_SCHEDULES_MSG` gets its list as long as some active schedule of
it is unsent, and each such answer comes with the mark of one of them.  So without new schedules the
number of active unsent ones bounds the number of lists it gets, and from the first empty answer on
all are empty (`polling_goes_quiet`).
-/

namespace Bbd.Server

open Runs

/-- The number of active schedules of the device that are unsent. -/
def Db.unsentActive (db : Db) (d : ℤ) : ℕ :=
  (rcvGetActiveSchedules d db).countP fun a => !a.sentO

theorem unsentActive_eq (db : Db) (d : ℤ) :
    db.unsentActive d =
      db.schedule.rows.countP fun r => !r.sent && (db.owns d r && r.active) := by
  rw [Db.unsentActive, rcvGetActiveSchedules_eq, List.countP_map, List.countP_filter]
  rfl

theorem length_rcvGetActiveSchedules (db : Db) (d : ℤ) :
    (rcvGetActiveSchedules d db).length =
      db.schedule.rows.countP fun r => db.owns d r && r.active := by
  rw [rcvGetActiveSchedules_eq, List.length_map, List.countP_eq_length_filter]

namespace ServerEvent

/-- The event is a `CHECK_NEW_SCHEDULES_MSG` of the device. -/
def checks (d : UInt8) : ServerEvent → Bool
  | .request deviceId .checkNewSchedulesMsg _ => deviceId = d
  | _ => false

theorem exists_env_of_checks {d : UInt8} {e : ServerEvent} (h : e.checks d) :
    ∃ env, e = .request d .checkNewSchedulesMsg env := by
  cases e with
  | web call => cases h
  | request deviceId type env =>
    cases type with
    | checkNewSchedulesMsg => exact ⟨env, by rw [of_decide_eq_true h]⟩
    | _ => cases h

/-- The event is a `CHECK_NEW_SCHEDULES_MSG` of the device, and its answer is not the empty one. -/
def getsList (server : Endian) (d : UInt8) (db : Db) (e : ServerEvent) : Bool :=
  e.checks d && (e.reply server db).any (· ≠ emptyReply)

/-- What a polling run admits: no schedule is created for the device, and the database does not fail
the polls of the device. -/
def Polling (d : UInt8) (db : Db) (e : ServerEvent) : Prop :=
  NoCreateFor d.toNat db e.webCalls ∧
    ∀ env, e = .request d .checkNewSchedulesMsg env → env.read = .none ∧ env.mark = .none

end ServerEvent

section Poll

variable {server : Endian} {d : UInt8} {db : Db} {e : ServerEvent}

theorem length_active_step_le (h : NoCreateFor d.toNat db e.webCalls) :
    (rcvGetActiveSchedules d.toNat (e.step server db)).length ≤
      (rcvGetActiveSchedules d.toNat db).length := by
  obtain ⟨calls, hstep, hcalls⟩ := e.exists_calls server db
  simp only [length_rcvGetActiveSchedules, hstep, owns_run]
  refine countP_run_le hcalls h (fun r hr => (Bool.and_eq_true_iff.1 hr).1) fun r hr => ?_
  rw [owns_touchAll, Bool.and_eq_true] at hr
  rw [Bool.and_eq_true]
  exact ⟨hr.1, SqlCall.active_of_touchAll _ _ hr.2⟩

theorem unsentActive_of_touchAll {calls : List SqlCall} {r : ScheduleRow}
    (h : (!(SqlCall.touchAll calls r).sent && (db.owns d.toNat (SqlCall.touchAll calls r) &&
      (SqlCall.touchAll calls r).active)) = true) :
    (!r.sent && (db.owns d.toNat r && r.active)) = true := by
  simp only [Bool.and_eq_true, Bool.not_eq_true', owns_touchAll, SqlCall.sent_touchAll,
    Bool.or_eq_false_iff] at h ⊢
  exact ⟨h.1.1, h.2.1, SqlCall.active_of_touchAll _ _ h.2.2⟩

/-- The answer to a poll is the list exactly when some active schedule of the device is unsent. -/
theorem answer_check_eq_nil_iff {env : Env} {sches : List Schedule} {sents : List Bool}
    (hfetch : env.fetch d db = some (sches, sents)) :
    RequestType.checkNewSchedulesMsg.answer sches sents = [] ↔
      ∀ s ∈ sches, db.unsent s.scheduleId.toNat = false := by
  have hneed := needUpdate_of_fetch hfetch
  rw [RequestType.answer]
  split_ifs with h
  · obtain ⟨s, hs, hu⟩ := hneed.1 h
    refine ⟨fun hnil => ?_, fun hall => ?_⟩
    · rw [hnil] at hs
      cases hs
    · rw [hall s hs] at hu
      cases hu
  · refine ⟨fun _ s hs => ?_, fun _ => rfl⟩
    rw [← Bool.not_eq_true]
    exact fun hu => h (hneed.2 ⟨s, hs, hu⟩)

/-- A list of at most 8191 schedules makes an empty reply only where there is nothing to answer. -/
theorem reply_check_eq_emptyReply_iff (server : Endian) {env : Env} {sches : List Schedule}
    {sents : List Bool} (hfetch : env.fetch d db = some (sches, sents))
    (hlen : (rcvGetActiveSchedules d.toNat db).length ≤ 8191) :
    (serveRequest server env d db .checkNewSchedulesMsg).reply = some emptyReply ↔
      ∀ s ∈ sches, db.unsent s.scheduleId.toNat = false := by
  have hle : (RequestType.checkNewSchedulesMsg.answer sches sents).length ≤ 8191 := by
    rw [← length_of_fetch hfetch] at hlen
    rw [RequestType.answer]
    split_ifs
    · exact hlen
    · exact Nat.zero_le _
  rw [reply_eq rfl, hfetch, Option.map_some, Option.some_inj, scheduleReply_eq_emptyReply_iff,
    ← answer_check_eq_nil_iff hfetch, ← List.length_eq_zero_iff]
  dsimp only
  omega

theorem unsentActive_step_le (h : e.Polling d db) :
    (e.step server db).unsentActive d.toNat ≤ db.unsentActive d.toNat := by
  obtain ⟨calls, hstep, hcalls⟩ := e.exists_calls server db
  simp only [unsentActive_eq, hstep, owns_run]
  exact countP_run_le hcalls h.1
    (fun r hr => (Bool.and_eq_true_iff.1 (Bool.and_eq_true_iff.1 hr).2).1)
    fun r hr => unsentActive_of_touchAll hr

/-- A poll that gets a list takes one away. -/
theorem unsentActive_step_lt (h : e.Polling d db)
    (hlen : (rcvGetActiveSchedules d.toNat db).length ≤ 8191) (hlist : e.getsList server d db) :
    (e.step server db).unsentActive d.toNat < db.unsentActive d.toNat := by
  rw [ServerEvent.getsList, Bool.and_eq_true] at hlist
  obtain ⟨hcheck, hreply⟩ := hlist
  obtain ⟨env, rfl⟩ := ServerEvent.exists_env_of_checks hcheck
  cases hfetch : env.fetch d db with
  | none =>
    rw [ServerEvent.reply, reply_eq rfl, hfetch] at hreply
    cases hreply
  | some read =>
    obtain ⟨sches, sents⟩ := read
    have hunsent : ∃ s ∈ sches, db.unsent s.scheduleId.toNat = true := by
      by_contra hnone
      push Not at hnone
      have := (reply_check_eq_emptyReply_iff server hfetch hlen).2
        fun s hs => by simpa using hnone s hs
      rw [ServerEvent.reply, this] at hreply
      simp at hreply
    have hlists : RequestType.checkNewSchedulesMsg.listsSchedules := rfl
    obtain ⟨mark, hmark, hserve⟩ := serveRequest_of_fetch server hlists hfetch
    have hcalls : ∀ w, .web w ∈ env.calls mark (env.recording .checkNewSchedulesMsg) →
        w ∈ env.webCalls := fun w hw => makes_of_mem_calls hfetch hmark hw
    obtain ⟨pre, s, post, hm⟩ := exists_marks hunsent
    rw [← (h.2 env rfl).2] at hm
    obtain ⟨r, hr, ho, ha, hitem⟩ := exists_row_of_fetch hfetch (s := s) (by rw [hm.split]; simp)
    have hu : r.sent = false := by simpa [unsent_eq_of_item hr hitem] using hm.unsent
    simp only [unsentActive_eq, ServerEvent.step, hserve, owns_run]
    refine countP_run_lt hcalls h.1
      (fun r hr => (Bool.and_eq_true_iff.1 (Bool.and_eq_true_iff.1 hr).2).1)
      (fun r hr => unsentActive_of_touchAll hr) ⟨r, hr, by simp [hu, ho, ha], ?_⟩
    simp [sent_of_marks hmark hm hitem]

end Poll

/-! ## Silence -/

/-- The device has nothing to be told: its active schedules are sent, and they fit the wire. -/
def Quiet (d : UInt8) (db : Db) : Prop :=
  ∀ r ∈ db.schedule.rows, db.owns d.toNat r → r.active →
    r.sent = true ∧ ∃ s : Schedule, s.item = r.item

theorem Quiet.step {server : Endian} {d : UInt8} {db : Db} {e : ServerEvent} (hq : Quiet d db)
    (h : e.Polling d db) : Quiet d (e.step server db) := by
  obtain ⟨calls, hstep, hcalls⟩ := e.exists_calls server db
  intro r' hr' ho ha
  rw [hstep] at hr' ho
  rw [owns_run] at ho
  obtain ⟨r, hr, rfl⟩ := exists_touchAll_of_owns hcalls h.1 hr' ho
  rw [owns_touchAll] at ho
  obtain ⟨hsent, s, hs⟩ := hq r hr ho (SqlCall.active_of_touchAll _ _ ha)
  exact ⟨by rw [SqlCall.sent_touchAll, hsent, Bool.true_or], s, by rw [item_touchAll, hs]⟩

theorem Quiet.reply {server : Endian} {d : UInt8} {db : Db} {env : Env} (hq : Quiet d db)
    (hlen : (rcvGetActiveSchedules d.toNat db).length ≤ 8191) (hread : env.read = .none) :
    (serveRequest server env d db .checkNewSchedulesMsg).reply = some emptyReply := by
  obtain ⟨⟨sches, sents⟩, hfetch⟩ := exists_fetch hread fun r hr ho ha => (hq r hr ho ha).2
  refine (reply_check_eq_emptyReply_iff server hfetch hlen).2 fun s hs => ?_
  obtain ⟨r, hr, ho, ha, hitem⟩ := exists_row_of_fetch hfetch hs
  rw [unsent_eq_of_item hr hitem, (hq r hr ho ha).1, Bool.not_true]

/-- An empty answer is a sign of silence. -/
theorem quiet_of_reply {server : Endian} {d : UInt8} {db : Db} {env : Env}
    (hlen : (rcvGetActiveSchedules d.toNat db).length ≤ 8191)
    (h : (serveRequest server env d db .checkNewSchedulesMsg).reply = some emptyReply) :
    Quiet d db := by
  cases hfetch : env.fetch d db with
  | none =>
    rw [reply_eq rfl, hfetch] at h
    cases h
  | some read =>
    obtain ⟨sches, sents⟩ := read
    intro r hr ho ha
    obtain ⟨s, hs, hitem⟩ := (mem_fetch_iff hfetch).2 ⟨r, hr, ho, ha, rfl⟩
    have := (reply_check_eq_emptyReply_iff server hfetch hlen).1 h s hs
    rw [unsent_eq_of_item hr hitem.symm, Bool.not_eq_false'] at this
    exact ⟨this, s, hitem⟩

/-! ## Runs -/

section Run

variable {server : Endian} {d : UInt8} {db : Db} {es : List ServerEvent}

theorem length_active_run_le
    (hes : Along (ServerEvent.step server) (fun db e => e.Polling d db) db es)
    (hlen : (rcvGetActiveSchedules d.toNat db).length ≤ 8191) :
    (rcvGetActiveSchedules d.toNat (run (ServerEvent.step server) db es)).length ≤ 8191 :=
  hes.run_invariant (I := fun db => (rcvGetActiveSchedules d.toNat db).length ≤ 8191)
    (fun _ _ hlen h => Nat.le_trans (length_active_step_le h.1) hlen) hlen

theorem Quiet.run (hq : Quiet d db)
    (hes : Along (ServerEvent.step server) (fun db e => e.Polling d db) db es) :
    Quiet d (Runs.run (ServerEvent.step server) db es) :=
  hes.run_invariant (I := Quiet d) (fun _ _ hq h => hq.step h) hq

end Run

/-- Without new schedules for the device, at most as many of its polls get a list as it has active
unsent schedules, and once one gets the empty answer, every later one does. -/
theorem polling_goes_quiet (server : Endian) (d : UInt8) (db : Db) (es : List ServerEvent)
    (hlen : (rcvGetActiveSchedules d.toNat db).length ≤ 8191)
    (hes : Along (ServerEvent.step server) (fun db e => e.Polling d db) db es) :
    count (ServerEvent.step server) (fun db e => e.getsList server d db) db es ≤
        db.unsentActive d.toNat ∧
      ∀ pre e mid e' post, es = pre ++ e :: mid ++ e' :: post → e.checks d → e'.checks d →
        e.reply server (run (ServerEvent.step server) db pre) = some emptyReply →
          e'.reply server (run (ServerEvent.step server) db (pre ++ e :: mid)) =
            some emptyReply := by
  constructor
  · refine hes.count_le (I := fun db => (rcvGetActiveSchedules d.toNat db).length ≤ 8191)
      (fun db => db.unsentActive d.toNat) (fun db e hlen h => ?_) hlen
    refine ⟨?_, Nat.le_trans (length_active_step_le h.1) hlen⟩
    cases hlist : e.getsList server d db with
    | false => exact unsentActive_step_le h
    | true => exact unsentActive_step_lt h hlen hlist
  · rintro pre e mid e' post rfl he he' hreply
    rw [along_append, along_cons] at hes
    obtain ⟨hbefore, hpoll', -⟩ := hes
    obtain ⟨hpre, hrest⟩ := (along_append _ _).1 hbefore
    -- The empty answer shows silence, which the events up to the later poll keep.
    have hquiet : Quiet d (run (ServerEvent.step server) db pre) := by
      obtain ⟨env, rfl⟩ := ServerEvent.exists_env_of_checks he
      exact quiet_of_reply (length_active_run_le hpre hlen) hreply
    have hquiet' : Quiet d (run (ServerEvent.step server) db (pre ++ e :: mid)) := by
      rw [run_append]
      exact hquiet.run hrest
    obtain ⟨env', rfl⟩ := ServerEvent.exists_env_of_checks he'
    exact hquiet'.reply (length_active_run_le hbefore hlen) (hpoll'.2 env' rfl).1

/-- Device 1 has one new schedule and polls twice. -/
theorem polling_goes_quiet_one :
    count (ServerEvent.step .little) (fun db e => e.getsList .little 1 db)
        (Db.garden.afterWeb [.create 1 none 5 7 0])
        [.request 1 .checkNewSchedulesMsg .calm, .request 1 .checkNewSchedulesMsg .calm] ≤
      (Db.garden.afterWeb [.create 1 none 5 7 0]).unsentActive 1 := by
  have hpoll (db : Db) : (ServerEvent.request 1 .checkNewSchedulesMsg .calm).Polling 1 db := by
    refine ⟨fun v description start stop now h => ?_, fun env h => ?_⟩
    · cases h
    · cases h
      exact ⟨rfl, rfl⟩
  exact (polling_goes_quiet .little 1 (Db.garden.afterWeb [.create 1 none 5 7 0])
    [.request 1 .checkNewSchedulesMsg .calm, .request 1 .checkNewSchedulesMsg .calm] (by decide)
    ⟨hpoll _, hpoll _, trivial⟩).1

end Bbd.Server
