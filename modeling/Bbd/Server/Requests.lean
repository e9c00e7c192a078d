import Bbd.Server.RunServer
import Bbd.Server.History

/-!
# What a schedule request does

A request that cannot read the schedules changes nothing and gets no answer.  One that can answers
with the list it read, and changes the database by the calls `Env.calls` alone: the web calls around
it, the mark of at most one listed schedule, and, for `GET_ACTIVE_SCHES_MSG`, the recording of
deactivations (`serveRequest_of_fetch`).
-/

namespace Bbd.Server

open Runs

/-! ## The list that was read -/

/-- The list a request reads; `none` is a failed read. -/
def Env.fetch (env : Env) (deviceId : UInt8) (db : Db) : Option (List Schedule × List Bool) :=
  dbGetActiveSchedules env.read env.order deviceId.toUInt16 db

section Fetch

variable {env : Env} {deviceId : UInt8} {db : Db} {sches : List Schedule} {sents : List Bool}

theorem fetch_eq_some (h : env.fetch deviceId db = some (sches, sents)) :
    sches.map Schedule.item =
        (env.order.order (rcvGetActiveSchedules deviceId.toNat db)).map ActiveRow.item ∧
      sents = (env.order.order (rcvGetActiveSchedules deviceId.toNat db)).map (·.sentO) := by
  have := dbGetActiveSchedules_eq_some h
  rwa [UInt8.toNat_toUInt16] at this

theorem exists_fetch (hread : env.read = .none)
    (hfit : ∀ r ∈ db.schedule.rows, db.owns deviceId.toNat r → r.active →
      ∃ s : Schedule, s.item = r.item) :
    ∃ read, env.fetch deviceId db = some read := by
  simp only [Env.fetch, dbGetActiveSchedules, hread, PqxxFaults.none, Work.exec_begin,
    UInt8.toNat_toUInt16, Bool.false_eq_true, if_false]
  refine exists_fetchActiveSchedules fun a ha => ?_
  rw [(env.order.perm _).mem_iff, mem_rcvGetActiveSchedules] at ha
  obtain ⟨r, hr, ho, hact, rfl⟩ := ha
  exact hfit r hr ho hact

theorem length_of_fetch (h : env.fetch deviceId db = some (sches, sents)) :
    sches.length = (rcvGetActiveSchedules deviceId.toNat db).length := by
  have := congrArg List.length (fetch_eq_some h).1
  rwa [List.length_map, List.length_map, (env.order.perm _).length_eq] at this

theorem mem_fetch_iff (h : env.fetch deviceId db = some (sches, sents))
    {i : Item} :
    (∃ s ∈ sches, s.item = i) ↔
      ∃ r ∈ db.schedule.rows, db.owns deviceId.toNat r ∧ r.active ∧ r.item = i := by
  rw [← List.mem_map, (fetch_eq_some h).1, List.mem_map]
  simp only [(env.order.perm _).mem_iff, mem_rcvGetActiveSchedules]
  constructor
  · rintro ⟨a, ⟨r, hr, ho, ha, rfl⟩, rfl⟩
    exact ⟨r, hr, ho, ha, rfl⟩
  · rintro ⟨r, hr, ho, ha, rfl⟩
    exact ⟨r.activeRow, ⟨r, hr, ho, ha, rfl⟩, rfl⟩

theorem exists_row_of_fetch (h : env.fetch deviceId db = some (sches, sents))
    {s : Schedule} (hs : s ∈ sches) :
    ∃ r ∈ db.schedule.rows, db.owns deviceId.toNat r ∧ r.active ∧ r.item = s.item :=
  (mem_fetch_iff h).1 ⟨s, hs, rfl⟩

theorem Db.unsent_eq_of_mem {db : Db} {r : ScheduleRow} (hr : r ∈ db.schedule.rows) :
    db.unsent r.scheduleID = !r.sent := by
  rw [Bool.eq_iff_iff, Db.unsent, List.any_eq_true]
  constructor
  · rintro ⟨r', hr', hu⟩
    simp only [ScheduleRow.unsentWithId, Bool.and_eq_true, decide_eq_true_eq] at hu
    rw [← db.schedule.eq_of_key_eq hr' hr hu.1]
    exact hu.2
  · intro hs
    exact ⟨r, hr, by simpa [ScheduleRow.unsentWithId] using hs⟩

theorem scheduleID_eq_of_item {r : ScheduleRow} {s : Schedule} (h : r.item = s.item) :
    r.scheduleID = s.scheduleId.toNat :=
  congrArg Item.scheduleID h

theorem unsent_eq_of_item {r : ScheduleRow} (hr : r ∈ db.schedule.rows) {s : Schedule}
    (h : r.item = s.item) : db.unsent s.scheduleId.toNat = !r.sent := by
  rw [← scheduleID_eq_of_item h, Db.unsent_eq_of_mem hr]

theorem sents_of_fetch (h : env.fetch deviceId db = some (sches, sents)) :
    sents = sches.map fun s => !db.unsent s.scheduleId.toNat := by
  obtain ⟨hitems, rfl⟩ := fetch_eq_some h
  have hids : sches.map (fun s => (s.scheduleId.toNat : ℤ)) =
      (env.order.order (rcvGetActiveSchedules deviceId.toNat db)).map (·.scheduleIDo) := by
    have := congrArg (List.map Item.scheduleID) hitems
    rwa [List.map_map, List.map_map] at this
  show _ = sches.map ((fun id => !db.unsent id) ∘ fun s => (s.scheduleId.toNat : ℤ))
  rw [← List.map_map, hids, List.map_map]
  refine List.map_congr_left fun a ha => ?_
  rw [(env.order.perm _).mem_iff, mem_rcvGetActiveSchedules] at ha
  obtain ⟨r, hr, -, -, rfl⟩ := ha
  show r.sent = !db.unsent r.scheduleID
  rw [Db.unsent_eq_of_mem hr, Bool.not_not]

theorem needUpdate_iff (sents : List Bool) : needUpdate sents ↔ false ∈ sents := by
  have hfold (b : Bool) : sents.foldl (fun nu sent => if !sent then true else nu) b =
      (b || !sents.all id) := by
    induction sents generalizing b with
    | nil => simp
    | cons s ss ih => rw [List.foldl_cons, ih]; cases s <;> simp
  rw [needUpdate, hfold]
  simp

/-- An update is needed exactly when some listed schedule is unsent. -/
theorem needUpdate_of_fetch (h : env.fetch deviceId db = some (sches, sents)) :
    needUpdate sents ↔ ∃ s ∈ sches, db.unsent s.scheduleId.toNat = true := by
  rw [needUpdate_iff, sents_of_fetch h, List.mem_map]
  simp only [Bool.not_eq_false']

end Fetch

@[simp] theorem item_touchAll (calls : List SqlCall) (r : ScheduleRow) :
    (SqlCall.touchAll calls r).item = r.item := by
  simp only [ScheduleRow.item, SqlCall.scheduleID_touchAll, SqlCall.valveIDf_touchAll,
    (SqlCall.keepsIdentity_touchAll calls).startTime,
    (SqlCall.keepsIdentity_touchAll calls).stopTime]

/-! ## Marking behind web calls -/

theorem run_web (db : Db) (calls : List WebCall) :
    run SqlCall.apply db (calls.map .web) = db.afterWeb calls := by
  rw [run, List.foldl_map]
  rfl

theorem sent_touchAll_web (calls : List WebCall) (r : ScheduleRow) :
    (SqlCall.touchAll (calls.map .web) r).sent = r.sent := by
  rw [SqlCall.sent_touchAll, List.any_map]
  have : (SqlCall.marks r.scheduleID ∘ SqlCall.web) = fun _ => false := rfl
  simp [this]

theorem exists_sent_of_afterWeb {db : Db} {calls : List WebCall} {r' : ScheduleRow}
    (h : r' ∈ (db.afterWeb calls).schedule.rows) (hsent : r'.sent = true) :
    ∃ r ∈ db.schedule.rows, r.scheduleID = r'.scheduleID ∧ r.sent = true := by
  rw [← run_web] at h
  rcases mem_run_cases h with ⟨r, hr, rfl⟩ | ⟨-, pre, c, post, r₀, hsplit, hcr, rfl⟩
  · rw [sent_touchAll_web] at hsent
    exact ⟨r, hr, (SqlCall.scheduleID_touchAll _ r).symm, hsent⟩
  · obtain ⟨pre', rest, -, -, hrest⟩ := List.map_eq_append_iff.1 hsplit
    obtain ⟨w, post', -, -, rfl⟩ := List.map_eq_cons_iff.1 hrest
    rw [sent_touchAll_web, hcr.flags.1] at hsent
    cases hsent

theorem unsent_afterWeb {db : Db} {r : ScheduleRow} (hr : r ∈ db.schedule.rows)
    (calls : List WebCall) : (db.afterWeb calls).unsent r.scheduleID = db.unsent r.scheduleID := by
  have hmem := mem_run_of_mem hr (calls.map .web)
  rw [run_web] at hmem
  have := Db.unsent_eq_of_mem hmem
  rwa [SqlCall.scheduleID_touchAll, sent_touchAll_web, ← Db.unsent_eq_of_mem hr] at this

/-- What gets marked behind web calls was already settled before them. -/
theorem marks_afterWeb_iff {faults : PqxxFaults} {sches : List Schedule} {db : Db}
    (hsches : ∀ s ∈ sches, ∃ r ∈ db.schedule.rows, r.item = s.item) (calls : List WebCall)
    (pre : List Schedule) (s : Schedule) (post : List Schedule) :
    Marks faults sches (db.afterWeb calls) pre s post ↔ Marks faults sches db pre s post := by
  have hunsent : ∀ x ∈ sches,
      (db.afterWeb calls).unsent x.scheduleId.toNat = db.unsent x.scheduleId.toNat := by
    intro x hx
    obtain ⟨r, hr, hitem⟩ := hsches x hx
    rw [← scheduleID_eq_of_item hitem, unsent_afterWeb hr]
  constructor
  · rintro ⟨rfl, hpre, hs, hthrough⟩
    refine ⟨rfl, fun x hx => ?_, ?_, hthrough⟩
    · rw [← hunsent x (by simp [hx])]
      exact hpre x hx
    · rw [← hunsent s (by simp)]
      exact hs
  · rintro ⟨rfl, hpre, hs, hthrough⟩
    refine ⟨rfl, fun x hx => ?_, ?_, hthrough⟩
    · rw [hunsent x (by simp [hx])]
      exact hpre x hx
    · rw [hunsent s (by simp)]
      exact hs

/-! ## The calls of a request -/

/-- The calls by which a request marks: none, or the mark of a listed schedule. -/
def MarkCalls (env : Env) (sches : List Schedule) (db : Db) (mark : List SqlCall) : Prop :=
  (mark = [] ∧ ∀ pre s post, ¬ Marks env.mark sches db pre s post) ∨
    ∃ pre s post, Marks env.mark sches db pre s post ∧
      mark = [.setScheduleSent env.markNow s.scheduleId.toNat]

theorem exists_markCalls (env : Env) (sches : List Schedule) (db : Db) :
    ∃ mark, MarkCalls env sches db mark ∧
      (setSchedulesSent env.mark env.markNow sches db).2 = run SqlCall.apply db mark := by
  by_cases h : ∃ pre s post, Marks env.mark sches db pre s post
  · obtain ⟨pre, s, post, hm⟩ := h
    exact ⟨_, Or.inr ⟨pre, s, post, hm, rfl⟩, by rw [hm.setSchedulesSent]; rfl⟩
  · push Not at h
    exact ⟨[], Or.inl ⟨rfl, h⟩, (setSchedulesSent_of_not_marks h _).1⟩

/-- A request that asks for schedules. -/
def RequestType.listsSchedules : RequestType → Bool
  | .getDeviceValvesMsg => false
  | _ => true

/-- The database lets the recording of deactivations through. -/
def Env.Records (env : Env) : Prop :=
  (env.deact.connect || env.deact.exec 0 || env.deact.commit) = false

instance (env : Env) : Decidable env.Records := inferInstanceAs (Decidable (_ = _))

/-- The calls by which a request records deactivations. -/
def Env.recording (env : Env) : RequestType → List SqlCall
  | .getActiveSchesMsg => if env.Records then [.deactivationRequestsDone env.deactNow] else []
  | .getDeviceValvesMsg | .checkNewSchedulesMsg => []

/-- The calls up to the recording, of the request and of the web site around it, in their order. -/
def Env.callsBefore (env : Env) (mark : List SqlCall) : List SqlCall :=
  (env.afterRead ++ env.afterSend).map .web ++ mark ++ env.afterMark.map .web

/-- All the calls. -/
def Env.calls (env : Env) (mark recording : List SqlCall) : List SqlCall :=
  env.callsBefore mark ++ recording

/-- The schedules in the answer to a request for which `sches` and `sents` were read. -/
def RequestType.answer (sches : List Schedule) (sents : List Bool) : RequestType → List Schedule
  | .checkNewSchedulesMsg => if needUpdate sents then sches else []
  | .getDeviceValvesMsg | .getActiveSchesMsg => sches

section Serve

variable {e : Endian} {env : Env} {deviceId : UInt8} {db : Db} {type : RequestType}

theorem serveRequest_of_fetch_none (htype : type.listsSchedules)
    (h : env.fetch deviceId db = none) :
    serveRequest e env deviceId db type = ⟨db, none⟩ := by
  rw [Env.fetch] at h
  cases type
  · cases htype
  · simp only [serveRequest, requestHandler, serveGetActiveSches, Handler.served, h]
  · simp only [serveRequest, requestHandler, serveCheckNewSchedules, Handler.served, h]

/-- What a request does that could read the schedules. -/
theorem serveRequest_of_fetch (e : Endian) (htype : type.listsSchedules) {sches : List Schedule}
    {sents : List Bool} (h : env.fetch deviceId db = some (sches, sents)) :
    ∃ mark, MarkCalls env sches db mark ∧
      serveRequest e env deviceId db type =
        ⟨run SqlCall.apply db (env.calls mark (env.recording type)),
          some (scheduleReply e (type.answer sches sents))⟩ := by
  have hweb : (db.afterWeb env.afterRead).afterWeb env.afterSend =
      db.afterWeb (env.afterRead ++ env.afterSend) := (run_append _ _).symm
  obtain ⟨mark, hmark, hdb⟩ :=
    exists_markCalls env sches (db.afterWeb (env.afterRead ++ env.afterSend))
  refine ⟨mark, ?_, ?_⟩
  · have hsches : ∀ s ∈ sches, ∃ r ∈ db.schedule.rows, r.item = s.item := by
      intro s hs
      obtain ⟨r, hr, -, -, hitem⟩ := exists_row_of_fetch h hs
      exact ⟨r, hr, hitem⟩
    simpa only [MarkCalls, marks_afterWeb_iff hsches] using hmark
  · rw [Env.fetch] at h
    cases type with
    | getDeviceValvesMsg => cases htype
    | getActiveSchesMsg =>
      simp only [serveRequest, requestHandler, serveGetActiveSches, Handler.served, h, hweb, hdb,
        deactivationRequestsDone_snd]
      rw [Env.calls, Env.callsBefore, run_append, run_append, run_append, run_web, run_web,
        Env.recording]
      by_cases hrec : env.Records
      · rw [if_pos hrec, show (env.deact.connect || env.deact.exec 0 || env.deact.commit) = false
          from hrec]
        rfl
      · rw [if_neg hrec, eq_true_of_ne_false hrec]
        rfl
    | checkNewSchedulesMsg =>
      simp only [serveRequest, requestHandler, serveCheckNewSchedules, Handler.served, h, hweb, hdb]
      rw [Env.calls, Env.callsBefore, run_append, run_append, run_append, run_web, run_web,
        Env.recording, run_nil, RequestType.answer]
      split_ifs <;> rfl

theorem marks_of_mem_calls {sches : List Schedule} {mark : List SqlCall} {c : SqlCall} {id : ℤ}
    (hmark : MarkCalls env sches db mark) (hc : c ∈ env.calls mark (env.recording type))
    (hid : c.marks id) :
    ∃ pre s post, Marks env.mark sches db pre s post ∧ (s.scheduleId.toNat : ℤ) = id := by
  have hc : c ∈ mark := by
    simp only [Env.calls, Env.callsBefore, List.mem_append, List.mem_map] at hc
    rcases hc with ((⟨w, -, rfl⟩ | hc) | ⟨w, -, rfl⟩) | hc
    · cases hid
    · exact hc
    · cases hid
    · cases type <;> simp only [Env.recording, List.not_mem_nil] at hc
      split_ifs at hc
      · rw [List.mem_singleton.1 hc] at hid
        cases hid
      · cases hc
  rcases hmark with ⟨rfl, -⟩ | ⟨pre, s, post, hm, rfl⟩
  · cases hc
  · rw [List.mem_singleton.1 hc] at hid
    exact ⟨pre, s, post, hm, of_decide_eq_true hid⟩

/-- Where something gets marked, the whole list is in the answer, to either schedule request. -/
theorem Marks.answer_eq {sches : List Schedule} {sents : List Bool} {pre : List Schedule}
    {s : Schedule} {post : List Schedule} (h : Marks env.mark sches db pre s post)
    (hfetch : env.fetch deviceId db = some (sches, sents)) : type.answer sches sents = sches := by
  have hneed : needUpdate sents :=
    (needUpdate_of_fetch hfetch).2 ⟨s, by rw [h.split]; simp, h.unsent⟩
  cases type
  · rfl
  · rfl
  · rw [RequestType.answer, if_pos hneed]

theorem sent_of_marks {sches : List Schedule} {mark recording : List SqlCall} {pre : List Schedule}
    {s : Schedule} {post : List Schedule} {r : ScheduleRow} (hmark : MarkCalls env sches db mark)
    (hm : Marks env.mark sches db pre s post) (hitem : r.item = s.item) :
    (SqlCall.touchAll (env.calls mark recording) r).sent = true := by
  rw [SqlCall.sent_touchAll, Bool.or_eq_true, List.any_eq_true]
  rcases hmark with ⟨-, hnone⟩ | ⟨pre', s', post', hm', rfl⟩
  · exact absurd hm (hnone pre s post)
  · obtain rfl := hm.unique hm'
    refine Or.inr ⟨.setScheduleSent env.markNow s.scheduleId.toNat,
      by simp [Env.calls, Env.callsBefore], ?_⟩
    exact decide_eq_true (scheduleID_eq_of_item hitem).symm

theorem sent_of_mem_run_calls {sches : List Schedule} {sents : List Bool} {mark : List SqlCall}
    (hfetch : env.fetch deviceId db = some (sches, sents)) (hmark : MarkCalls env sches db mark)
    {r' : ScheduleRow}
    (hr' : r' ∈ (run SqlCall.apply db (env.calls mark (env.recording type))).schedule.rows)
    (hsent : r'.sent = true) :
    (∃ r ∈ db.schedule.rows, r.scheduleID = r'.scheduleID ∧ r.sent = true) ∨
      ∃ pre s post, Marks env.mark sches db pre s post ∧ s.item = r'.item := by
  rcases mem_run_cases hr' with ⟨r, hr, rfl⟩ | ⟨hfresh, pre, c, post, r₀, hsplit, hcr, rfl⟩
  · rw [SqlCall.sent_touchAll, Bool.or_eq_true, List.any_eq_true] at hsent
    rcases hsent with hsent | ⟨c, hc, hid⟩
    · exact Or.inl ⟨r, hr, (SqlCall.scheduleID_touchAll _ r).symm, hsent⟩
    · obtain ⟨pre, s, post, hm, hs⟩ := marks_of_mem_calls hmark hc hid
      obtain ⟨r₁, hr₁, -, -, hitem₁⟩ :=
        exists_row_of_fetch hfetch (s := s) (by rw [hm.split]; simp)
      have : r₁ = r := db.schedule.eq_of_key_eq hr₁ hr ((scheduleID_eq_of_item hitem₁).trans hs)
      exact Or.inr ⟨pre, s, post, hm, by rw [item_touchAll, ← this, hitem₁]⟩
  · -- A row that was created on the way is not in the list, so nothing marks it.
    rw [SqlCall.sent_touchAll, hcr.flags.1, Bool.false_or, List.any_eq_true] at hsent
    obtain ⟨c', hc', hid⟩ := hsent
    obtain ⟨_, s, _, hm, hs⟩ := marks_of_mem_calls hmark (by rw [hsplit]; simp [hc']) hid
    obtain ⟨r₁, hr₁, -, -, hitem₁⟩ := exists_row_of_fetch hfetch (s := s) (by rw [hm.split]; simp)
    refine absurd ?_ (hfresh r₁ hr₁)
    rw [SqlCall.scheduleID_touchAll]
    exact (scheduleID_eq_of_item hitem₁).trans hs

theorem serveRequest_getDeviceValves_db (e : Endian) (env : Env) (deviceId : UInt8) (db : Db) :
    ∃ calls : List WebCall, (∀ w ∈ calls, w ∈ env.webCalls) ∧
      (serveRequest e env deviceId db .getDeviceValvesMsg).db = db.afterWeb calls := by
  simp only [serveRequest, requestHandler, serveGetDeviceValves, Handler.served]
  cases dbGetDeviceValves env.read env.valveOrder deviceId.toUInt16 db with
  | none => exact ⟨[], by simp, rfl⟩
  | some _ => exact ⟨env.afterRead, fun w hw => by simp [Env.webCalls, hw], rfl⟩

/-- The calls that a request of a device may come to: a web call around it, the mark of an active
schedule of the device, the recording of deactivations. -/
def Env.Makes (env : Env) (deviceId : UInt8) (db : Db) (type : RequestType) : SqlCall → Prop
  | .web w => w ∈ env.webCalls
  | .setScheduleSent _ id =>
    ∃ r ∈ db.schedule.rows, r.scheduleID = id ∧ db.owns deviceId.toNat r ∧ r.active
  | .deactivationRequestsDone _ => type = .getActiveSchesMsg

theorem makes_of_mem_calls {sches : List Schedule} {sents : List Bool} {mark : List SqlCall}
    (hfetch : env.fetch deviceId db = some (sches, sents)) (hmark : MarkCalls env sches db mark)
    {c : SqlCall} (hc : c ∈ env.calls mark (env.recording type)) :
    env.Makes deviceId db type c := by
  simp only [Env.calls, Env.callsBefore, List.mem_append, List.mem_map] at hc
  rcases hc with ((⟨w, hw, rfl⟩ | hc) | ⟨w, hw, rfl⟩) | hc
  · rw [Env.Makes, Env.webCalls]
    exact List.mem_append_left _ (List.mem_append.2 hw)
  · rcases hmark with ⟨rfl, -⟩ | ⟨pre, s, post, hm, rfl⟩
    · cases hc
    · obtain ⟨r, hr, ho, ha, hitem⟩ := exists_row_of_fetch hfetch (s := s) (by rw [hm.split]; simp)
      rw [List.mem_singleton.1 hc]
      exact ⟨r, hr, scheduleID_eq_of_item hitem, ho, ha⟩
  · rw [Env.Makes, Env.webCalls]
    exact List.mem_append_right _ hw
  · cases type <;> simp only [Env.recording, List.not_mem_nil] at hc
    split_ifs at hc
    · rw [List.mem_singleton.1 hc]
      rfl
    · cases hc

/-- Any request changes the database by such calls alone. -/
theorem exists_makes (e : Endian) (env : Env) (deviceId : UInt8) (db : Db) (type : RequestType) :
    ∃ calls, (serveRequest e env deviceId db type).db = run SqlCall.apply db calls ∧
      ∀ c ∈ calls, env.Makes deviceId db type c := by
  cases hlists : type.listsSchedules with
  | false =>
    cases type with
    | getDeviceValvesMsg =>
      obtain ⟨calls, hcalls, hdb⟩ := serveRequest_getDeviceValves_db e env deviceId db
      refine ⟨calls.map .web, by rw [run_web, hdb], fun c hc => ?_⟩
      obtain ⟨w, hw, rfl⟩ := List.mem_map.1 hc
      exact hcalls w hw
    | _ => cases hlists
  | true =>
    cases hfetch : env.fetch deviceId db with
    | none =>
      exact ⟨[], by rw [serveRequest_of_fetch_none hlists hfetch]; rfl, fun c hc => by cases hc⟩
    | some read =>
      obtain ⟨mark, hmark, hserve⟩ := serveRequest_of_fetch e hlists hfetch
      exact ⟨_, by rw [hserve], fun c hc => makes_of_mem_calls hfetch hmark hc⟩

theorem reply_eq (htype : type.listsSchedules) :
    (serveRequest e env deviceId db type).reply =
      (env.fetch deviceId db).map fun read => scheduleReply e (type.answer read.1 read.2) := by
  cases hfetch : env.fetch deviceId db with
  | none => rw [serveRequest_of_fetch_none htype hfetch, Option.map_none]
  | some read =>
    obtain ⟨mark, -, hserve⟩ := serveRequest_of_fetch e htype hfetch
    rw [hserve, Option.map_some]

end Serve

end Bbd.Server
