import Bbd.Server.ServerRun
import Bbd.Wire

/-!
# Recording deactivations

The recording at the end of a `GET_ACTIVE_SCHES_MSG` is one update of the whole table: it takes
every inactive row that is not recorded yet, whoever owns it and whether or not the reply was sent.
So a row is recorded only after its device was told where each recording finds nothing but rows of
the requester that the reply of the same request left out (`recordedOnlyIfTold_of_recordsOwn`).
-/

namespace Bbd.Server

open Runs

/-- The event tells the device of the schedule that it is gone: it is a `GET_ACTIVE_SCHES_MSG` of
the owner whose reply is sent without the schedule, after the schedule has become inactive. -/
def Told (server client : Endian) (db : Db) (id : ℤ) : ServerEvent → Prop
  | .request d .getActiveSchesMsg env =>
    env.sendFails = false ∧
      (∃ reply, (serveRequest server env d db .getActiveSchesMsg).reply = some reply ∧
        ∀ s ∈ replySchedules client reply, (s.scheduleId.toNat : ℤ) ≠ id) ∧
      ∃ r ∈ (db.afterWeb env.afterRead).schedule.rows,
        r.scheduleID = id ∧ r.active = false ∧ db.owns d.toNat r
  | _ => False

/-- Whenever `deactivated_on` of a row is set, the device of the row has been told. -/
def RecordedOnlyIfTold (server client : Endian) (db : Db) (es : List ServerEvent) : Prop :=
  ∀ pre e post, es = pre ++ e :: post →
    ∀ r' ∈ (e.step server (run (ServerEvent.step server) db pre)).schedule.rows,
      r'.deactivatedOn.isSome →
      (∀ r ∈ (run (ServerEvent.step server) db pre).schedule.rows,
        r.scheduleID = r'.scheduleID → r.deactivatedOn = none) →
      ∃ pre' e' post', pre ++ [e] = pre' ++ e' :: post' ∧
        Told server client (run (ServerEvent.step server) db pre') r'.scheduleID e'

/-- A recording finds nothing but rows of the requester that were inactive when the reply was sent
and are not among the schedules of the reply, which was sent. -/
def RecordsOwn (db : Db) : ServerEvent → Prop
  | .request d .getActiveSchesMsg env =>
    ∀ sches sents, env.fetch d db = some (sches, sents) → env.Records →
      ∀ r ∈ (db.afterWeb env.webCalls).schedule.rows, r.pending →
        env.sendFails = false ∧
          (∀ s ∈ sches.take (sches.length % 8192), (s.scheduleId.toNat : ℤ) ≠ r.scheduleID) ∧
          ∃ r₁ ∈ (db.afterWeb env.afterRead).schedule.rows,
            r₁.scheduleID = r.scheduleID ∧ r₁.active = false ∧ db.owns d.toNat r₁
  | _ => True

section Step

variable {server client : Endian} {db : Db} {d : UInt8} {env : Env} {sches : List Schedule}
  {sents : List Bool}

theorem told_iff (hfetch : env.fetch d db = some (sches, sents)) (id : ℤ) :
    Told server client db id (.request d .getActiveSchesMsg env) ↔
      env.sendFails = false ∧
        (∀ s ∈ sches.take (sches.length % 8192), (s.scheduleId.toNat : ℤ) ≠ id) ∧
        ∃ r ∈ (db.afterWeb env.afterRead).schedule.rows,
          r.scheduleID = id ∧ r.active = false ∧ db.owns d.toNat r := by
  have hreply : (serveRequest server env d db .getActiveSchesMsg).reply =
      some (scheduleReply server sches) := by
    rw [reply_eq rfl, hfetch]
    rfl
  simp only [Told, hreply, Option.some_inj, exists_eq_left', replySchedules_scheduleReply]

theorem Told.exists_request {id : ℤ} {e : ServerEvent} (h : Told server client db id e) :
    ∃ d env sches sents, e = .request d .getActiveSchesMsg env ∧
      env.fetch d db = some (sches, sents) := by
  cases e with
  | web call => exact h.elim
  | request d type env =>
    cases type with
    | getActiveSchesMsg =>
      obtain ⟨-, ⟨reply, hreply, -⟩, -⟩ := h
      rw [reply_eq rfl, Option.map_eq_some_iff] at hreply
      obtain ⟨⟨sches, sents⟩, hfetch, -⟩ := hreply
      exact ⟨d, env, sches, sents, rfl, hfetch⟩
    | _ => exact h.elim

/-- Up to its recording, a request does to `active` and `deactivated_on` what the web calls do. -/
theorem forgetSent_callsBefore {mark : List SqlCall} (hmark : MarkCalls env sches db mark) :
    (run SqlCall.apply db (env.callsBefore mark)).forgetSent =
      (db.afterWeb env.webCalls).forgetSent := by
  have hweb (db : Db) (calls : List WebCall) :
      (db.afterWeb calls).forgetSent = db.forgetSent.afterWeb calls := by
    induction calls generalizing db with
    | nil => rfl
    | cons w ws ih =>
      show ((w.apply db).afterWeb ws).forgetSent = (w.apply db.forgetSent).afterWeb ws
      rw [ih, forgetSent_web]
  have hm (db : Db) : (run SqlCall.apply db mark).forgetSent = db.forgetSent := by
    rcases hmark with ⟨rfl, -⟩ | ⟨_, s, _, -, rfl⟩
    · rfl
    · exact forgetSent_setScheduleSent db _ _
  have happend (db : Db) (ws ws' : List WebCall) :
      (db.afterWeb ws).afterWeb ws' = db.afterWeb (ws ++ ws') := (run_append _ _).symm
  rw [Env.callsBefore, run_append, run_append, run_web, run_web, hweb, hm, ← hweb, happend,
    Env.webCalls]

theorem records_callsBefore {mark : List SqlCall} (hmark : MarkCalls env sches db mark) :
    ∀ c ∈ env.callsBefore mark, c.records = false := by
  intro c hc
  simp only [Env.callsBefore, List.mem_append, List.mem_map] at hc
  rcases hc with (⟨w, -, rfl⟩ | hc) | ⟨w, -, rfl⟩
  · rfl
  · rcases hmark with ⟨rfl, -⟩ | ⟨_, s, _, -, rfl⟩
    · cases hc
    · rw [List.mem_singleton.1 hc]
      rfl
  · rfl

theorem rows_step_of_records (server : Endian) (hfetch : env.fetch d db = some (sches, sents))
    (hrec : env.Records) :
    ∃ mark, MarkCalls env sches db mark ∧
      ((ServerEvent.request d .getActiveSchesMsg env).step server db).schedule.rows =
        (run SqlCall.apply db (env.callsBefore mark)).schedule.rows.map fun r =>
          if r.pending then r.setDeactivated env.deactNow else r := by
  have hlists : RequestType.getActiveSchesMsg.listsSchedules := rfl
  obtain ⟨mark, hmark, hserve⟩ := serveRequest_of_fetch server hlists hfetch
  refine ⟨mark, hmark, ?_⟩
  rw [ServerEvent.step, hserve, Env.calls, Env.recording, if_pos hrec, run_append]
  rfl

theorem ServerEvent.records_cases (server : Endian) (e : ServerEvent) (db : Db) :
    (∃ calls, e.step server db = run SqlCall.apply db calls ∧ ∀ c ∈ calls, c.records = false) ∨
      ∃ d env sches sents, e = .request d .getActiveSchesMsg env ∧
        env.fetch d db = some (sches, sents) ∧ env.Records := by
  cases e with
  | web call => exact Or.inl ⟨[.web call], rfl, by simp [SqlCall.records]⟩
  | request d type env =>
    by_cases htype : type = .getActiveSchesMsg
    · subst htype
      have hlists : RequestType.getActiveSchesMsg.listsSchedules := rfl
      cases hfetch : env.fetch d db with
      | none =>
        refine Or.inl ⟨[], ?_, by simp⟩
        rw [ServerEvent.step, serveRequest_of_fetch_none hlists hfetch]
        rfl
      | some read =>
        obtain ⟨sches, sents⟩ := read
        by_cases hrec : env.Records
        · exact Or.inr ⟨d, env, sches, sents, rfl, hfetch, hrec⟩
        · obtain ⟨mark, hmark, hserve⟩ := serveRequest_of_fetch server hlists hfetch
          refine Or.inl ⟨env.callsBefore mark, ?_, records_callsBefore hmark⟩
          rw [ServerEvent.step, hserve, Env.calls, Env.recording, if_neg hrec, List.append_nil]
    · obtain ⟨calls, hdb, hcalls⟩ := exists_makes server env d db type
      refine Or.inl ⟨calls, hdb, fun c hc => ?_⟩
      rcases c with _ | _ | now
      · rfl
      · rfl
      · exact absurd (hcalls _ hc) htype

/-- How a row comes to be recorded: it was before, or a `GET_ACTIVE_SCHES_MSG` found it pending. -/
theorem recorded_cases {e : ServerEvent} {r' : ScheduleRow}
    (hr' : r' ∈ (e.step server db).schedule.rows) (h : r'.deactivatedOn.isSome) :
    (∃ r ∈ db.schedule.rows, r.scheduleID = r'.scheduleID ∧ r.deactivatedOn.isSome) ∨
      ∃ d env sches sents, e = .request d .getActiveSchesMsg env ∧
        env.fetch d db = some (sches, sents) ∧ env.Records ∧
        ∃ r ∈ (db.afterWeb env.webCalls).schedule.rows,
          r.scheduleID = r'.scheduleID ∧ r.pending := by
  rcases e.records_cases server db with
    ⟨calls, hstep, hcalls⟩ | ⟨d, env, sches, sents, rfl, hfetch, hrec⟩
  · exact Or.inl (exists_recorded_of_run hcalls (hstep ▸ hr') h)
  · obtain ⟨mark, hmark, hrows⟩ := rows_step_of_records server hfetch hrec
    rw [hrows, List.mem_map] at hr'
    obtain ⟨r, hr, rfl⟩ := hr'
    split_ifs at h ⊢ with hp
    · obtain ⟨r₂, hr₂, hid, hpend⟩ := exists_pending_eq (forgetSent_callsBefore hmark) hr
      exact Or.inr ⟨d, env, sches, sents, rfl, hfetch, hrec, r₂, hr₂, hid, hpend.trans hp⟩
    · exact Or.inl (exists_recorded_of_run (records_callsBefore hmark) hr h)

theorem RecordsOwn.told {e : ServerEvent} (h : RecordsOwn db e) {r' : ScheduleRow}
    (hr' : r' ∈ (e.step server db).schedule.rows) (hrec : r'.deactivatedOn.isSome)
    (hnew : ∀ r ∈ db.schedule.rows, r.scheduleID = r'.scheduleID → r.deactivatedOn = none) :
    Told server client db r'.scheduleID e := by
  rcases recorded_cases hr' hrec with
    ⟨r, hr, hid, hsome⟩ | ⟨d, env, sches, sents, rfl, hfetch, hrecords, r, hr, hid, hp⟩
  · rw [hnew r hr hid] at hsome
    cases hsome
  · rw [told_iff hfetch, ← hid]
    exact h sches sents hfetch hrecords r hr hp

theorem exists_recorded_of_pending (server : Endian) (hfetch : env.fetch d db = some (sches, sents))
    (hrec : env.Records) {r : ScheduleRow} (hr : r ∈ (db.afterWeb env.webCalls).schedule.rows)
    (hp : r.pending) :
    (∃ r' ∈ ((ServerEvent.request d .getActiveSchesMsg env).step server db).schedule.rows,
      r'.scheduleID = r.scheduleID ∧ r'.deactivatedOn.isSome) ∧
    ∀ r₀ ∈ db.schedule.rows, r₀.scheduleID = r.scheduleID → r₀.deactivatedOn = none := by
  obtain ⟨mark, hmark, hrows⟩ := rows_step_of_records server hfetch hrec
  obtain ⟨r₂, hr₂, hid, hpend⟩ := exists_pending_eq (forgetSent_callsBefore hmark).symm hr
  have hp₂ : r₂.pending = true := hpend.trans hp
  refine ⟨⟨r₂.setDeactivated env.deactNow, ?_, hid, rfl⟩, fun r₀ hr₀ hid₀ => ?_⟩
  · rw [hrows, List.mem_map]
    exact ⟨r₂, hr₂, if_pos hp₂⟩
  · by_contra hsome
    have := SqlCall.deactivatedOn_touchAll_of_isSome (env.callsBefore mark) r₀
      (Option.isSome_iff_ne_none.2 hsome)
    rw [← eq_touchAll_of_mem_run hr₀ hr₂ (hid.trans hid₀.symm)] at this
    rw [ScheduleRow.pending, Bool.and_eq_true] at hp₂
    simp [Option.isNone_iff_eq_none.1 hp₂.2] at this

theorem Told.exists_recorded {id : ℤ}
    (h : Told server client db id (.request d .getActiveSchesMsg env))
    (hfetch : env.fetch d db = some (sches, sents)) (hrec : env.Records) :
    ∃ r' ∈ ((ServerEvent.request d .getActiveSchesMsg env).step server db).schedule.rows,
      r'.scheduleID = id ∧ r'.deactivatedOn.isSome := by
  obtain ⟨-, -, r₁, hr₁, hid, hinactive, -⟩ := (told_iff hfetch id).1 h
  obtain ⟨mark, -, hrows⟩ := rows_step_of_records server hfetch hrec
  -- The row is still there and still inactive when the recording comes.
  have hmem := mem_run_of_mem hr₁ (env.afterSend.map .web ++ mark ++ env.afterMark.map .web)
  rw [← run_web, ← run_append, ← List.append_assoc, ← List.append_assoc, ← List.map_append] at hmem
  set r₂ := SqlCall.touchAll (env.afterSend.map .web ++ mark ++ env.afterMark.map .web) r₁ with hr₂
  have hid₂ : r₂.scheduleID = id := by rw [hr₂, SqlCall.scheduleID_touchAll, hid]
  have hinactive₂ : r₂.active = false := by
    rw [← Bool.not_eq_true]
    intro hactive
    rw [SqlCall.active_of_touchAll _ _ hactive] at hinactive
    cases hinactive
  refine ⟨_, by rw [hrows]; exact List.mem_map_of_mem hmem, ?_, ?_⟩
  · split_ifs <;> exact hid₂
  · split_ifs with hp
    · rfl
    · rw [ScheduleRow.pending, hinactive₂, Bool.not_false, Bool.true_and,
        Option.isNone_iff_eq_none, ← ne_eq, ← Option.isSome_iff_ne_none] at hp
      exact hp

end Step

/-! ## Runs -/

section Run

variable {server client : Endian}

theorem exists_recorded_run (server : Endian) {db : Db} {id : ℤ}
    (h : ∃ r ∈ db.schedule.rows, r.scheduleID = id ∧ r.deactivatedOn.isSome)
    (es : List ServerEvent) :
    ∃ r ∈ (run (ServerEvent.step server) db es).schedule.rows,
      r.scheduleID = id ∧ r.deactivatedOn.isSome := by
  refine run_invariant
    (I := fun db : Db => ∃ r ∈ db.schedule.rows, r.scheduleID = id ∧ r.deactivatedOn.isSome)
    ?_ h es
  rintro db e ⟨r, hr, hid, hsome⟩
  obtain ⟨calls, hstep, -⟩ := e.exists_calls server db
  rw [hstep]
  exact ⟨_, mem_run_of_mem hr calls, by rw [SqlCall.scheduleID_touchAll, hid],
    SqlCall.deactivatedOn_touchAll_of_isSome calls r hsome⟩

/-- A row that a request tells of is recorded from then on, if the recording goes through. -/
theorem Told.exists_recorded_run {db : Db} {id : ℤ} {e : ServerEvent}
    (h : Told server client db id e)
    (hrec : ∀ d env, e = .request d .getActiveSchesMsg env → env.Records) (es : List ServerEvent) :
    ∃ r ∈ (run (ServerEvent.step server) db (e :: es)).schedule.rows,
      r.scheduleID = id ∧ r.deactivatedOn.isSome := by
  obtain ⟨d, env, sches, sents, rfl, hfetch⟩ := h.exists_request
  exact Bbd.Server.exists_recorded_run server (h.exists_recorded hfetch (hrec d env rfl)) es

/-- In every run whose recordings find only what their own request tells, a row is recorded only
after its device was told; and where the database lets all recordings through, in no other. -/
theorem recordedOnlyIfTold_of_recordsOwn (server client : Endian) (db : Db)
    (es : List ServerEvent) :
    (Along (ServerEvent.step server) RecordsOwn db es → RecordedOnlyIfTold server client db es) ∧
      ((∀ d env, .request d .getActiveSchesMsg env ∈ es → env.Records) →
        RecordedOnlyIfTold server client db es →
          Along (ServerEvent.step server) RecordsOwn db es) := by
  constructor
  · rintro h pre e post rfl r' hr' hsome hnew
    have hown := (along_iff_split _).1 h pre e post rfl
    exact ⟨pre, e, [], rfl, hown.told hr' hsome hnew⟩
  · intro hrecords h
    rw [along_iff_split]
    rintro pre e post rfl
    cases e with
    | web call => trivial
    | request d type env =>
      cases type with
      | getActiveSchesMsg =>
        intro sches sents hfetch hrec r hr hp
        obtain ⟨⟨r', hr', hid, hsome⟩, hnone⟩ :=
          exists_recorded_of_pending server hfetch hrec hr hp
        obtain ⟨pre', e', post', hsplit, htold⟩ := h pre _ post rfl r' hr' hsome
          fun r₀ hr₀ hid₀ => hnone r₀ hr₀ (hid₀.trans hid)
        rcases List.eq_nil_or_concat post' with rfl | ⟨post₂, x, rfl⟩
        · obtain ⟨rfl, heq⟩ := List.append_inj' hsplit rfl
          rw [← List.head_eq_of_cons_eq heq, hid] at htold
          exact (told_iff hfetch _).1 htold
        · -- Told by an earlier request, the row would have been recorded by that one.
          rw [List.concat_eq_append, ← List.cons_append, ← List.append_assoc] at hsplit
          obtain ⟨rfl, -⟩ := List.append_inj' hsplit rfl
          obtain ⟨r₀, hr₀, hid₀, hsome₀⟩ := htold.exists_recorded_run
            (fun d' env' he' => hrecords d' env' (by simp [he'])) post₂
          rw [hid] at hid₀
          rw [run_append] at hnone
          rw [hnone r₀ hr₀ hid₀] at hsome₀
          cases hsome₀
      | _ => trivial

/-- The deactivation of a schedule of device 1 is recorded when device 1 has fetched its schedules.
-/
theorem recordedOnlyIfTold_of_recordsOwn_one :
    RecordedOnlyIfTold .little .little Db.garden
      [.web (.create 1 none 5 7 0), .web (.deactivate 1), .request 1 .getActiveSchesMsg .calm] := by
  refine (recordedOnlyIfTold_of_recordsOwn .little .little Db.garden _).1
    ⟨trivial, trivial, ?_, trivial⟩
  intro sches sents hfetch _ r hr _
  have hread : Env.calm.fetch 1 (Db.garden.afterWeb [.create 1 none 5 7 0, .deactivate 1]) =
      some ([], []) := by decide
  obtain ⟨rfl, rfl⟩ := Prod.mk.inj (Option.some.inj (hread.symm.trans hfetch))
  refine ⟨rfl, by simp, r, hr, rfl, ?_⟩
  revert r
  decide

/-- Device 2 fetches its schedules, and the deactivation of a schedule of device 1 is recorded. -/
theorem not_recordedOnlyIfTold_other_device :
    ¬ RecordedOnlyIfTold .little .little Db.garden
      [.web (.create 1 none 5 7 0), .web (.deactivate 1), .request 2 .getActiveSchesMsg .calm] := by
  intro h
  obtain ⟨pre', e', post', hsplit, htold⟩ := h [.web (.create 1 none 5 7 0), .web (.deactivate 1)]
    (.request 2 .getActiveSchesMsg .calm) [] rfl
    ⟨1, 1, none, 0, 5, 7, false, none, false, some 0⟩ (by decide) rfl (by decide)
  obtain ⟨d, env, sches, sents, rfl, -⟩ := htold.exists_request
  rcases pre' with _ | ⟨a, _ | ⟨b, _ | ⟨c, pre'⟩⟩⟩
  · simp at hsplit
  · simp at hsplit
  · -- The only request of the run is one of device 2, which does not own the schedule.
    simp only [List.cons_append, List.nil_append, List.cons.injEq, ServerEvent.request.injEq,
      List.nil_eq, true_and] at hsplit
    obtain ⟨rfl, rfl, ⟨rfl, rfl⟩, rfl⟩ := hsplit
    exact absurd htold.2.2 (by decide)
  · simp at hsplit

end Run

end Bbd.Server
