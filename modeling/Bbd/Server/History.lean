import Bbd.Server.Database

/-!
# The history of a schedule row

What a sequence of calls does to the rows that are there (`SqlCall.touchAll`), and which rows it
adds (`rows_run`).  From one call to the next a row keeps its identity, `active` only falls, `sent`
rises by a mark of its id alone (`sent_touchAll`), and `deactivated_on` is written by a recording
alone.
-/

namespace Bbd.Server

open Runs

/-! ## What one call does to the flags of a row -/

/-- The call is a mark of this id. -/
def SqlCall.marks (id : ℤ) : SqlCall → Bool
  | .setScheduleSent _ id' => id' = id
  | _ => false

/-- The call records deactivations. -/
def SqlCall.records : SqlCall → Bool
  | .deactivationRequestsDone _ => true
  | _ => false

namespace SqlCall

variable (c : SqlCall) (r : ScheduleRow)

theorem sent_touch : (c.touch r).sent = (r.sent || c.marks r.scheduleID) := by
  rcases c with (_ | id) | ⟨now, id⟩ | now
  · simp [touch, marks]
  · simp only [touch, marks, Bool.or_false]
    split_ifs <;> rfl
  · by_cases hid : r.scheduleID = id
    · cases hs : r.sent <;>
        simp [touch, marks, ScheduleRow.unsentWithId, ScheduleRow.setSent, hid, hs]
    · simp [touch, marks, ScheduleRow.unsentWithId, hid, Ne.symm hid]
  · simp only [touch, marks, Bool.or_false]
    split_ifs <;> rfl

theorem active_of_touch (h : (c.touch r).active = true) : r.active = true := by
  rcases c with (_ | id) | ⟨now, id⟩ | now
  · exact h
  · simp only [touch] at h
    split_ifs at h
    · exact absurd h Bool.false_ne_true
    · exact h
  all_goals
    simp only [touch] at h
    split_ifs at h <;> exact h

theorem deactivatedOn_touch (h : (c.touch r).deactivatedOn.isSome) :
    r.deactivatedOn.isSome ∨ c.records ∧ r.pending := by
  rcases c with (_ | id) | ⟨now, id⟩ | now
  · exact Or.inl h
  · simp only [touch] at h
    split_ifs at h <;> exact Or.inl h
  · simp only [touch] at h
    split_ifs at h <;> exact Or.inl h
  · simp only [touch] at h
    split_ifs at h with hp
    · exact Or.inr ⟨rfl, hp⟩
    · exact Or.inl h

theorem deactivatedOn_touch_of_isSome (h : r.deactivatedOn.isSome) :
    (c.touch r).deactivatedOn.isSome := by
  rcases c with (_ | id) | ⟨now, id⟩ | now <;> simp only [touch]
  · exact h
  all_goals
    split_ifs
    · first | exact h | rfl
    · exact h

end SqlCall

/-! ## What a sequence of calls does -/

/-- What some calls, in order, make of a row that is there. -/
def SqlCall.touchAll (calls : List SqlCall) (r : ScheduleRow) : ScheduleRow :=
  run (fun r c => SqlCall.touch c r) r calls

theorem KeepsIdentity.comp {f g : ScheduleRow → ScheduleRow} (hf : KeepsIdentity f)
    (hg : KeepsIdentity g) : KeepsIdentity (f ∘ g) where
  scheduleID r := (hf.scheduleID _).trans (hg.scheduleID r)
  valveIDf r := (hf.valveIDf _).trans (hg.valveIDf r)
  description r := (hf.description _).trans (hg.description r)
  createdOn r := (hf.createdOn _).trans (hg.createdOn r)
  startTime r := (hf.startTime _).trans (hg.startTime r)
  stopTime r := (hf.stopTime _).trans (hg.stopTime r)

namespace SqlCall

variable (calls : List SqlCall) (r : ScheduleRow)

@[simp] theorem touchAll_nil : touchAll [] r = r := rfl

@[simp] theorem touchAll_cons (c : SqlCall) :
    touchAll (c :: calls) r = touchAll calls (c.touch r) := rfl

theorem keepsIdentity_touchAll : KeepsIdentity (touchAll calls) := by
  induction calls with
  | nil => constructor <;> exact fun _ => rfl
  | cons c cs ih => exact ih.comp (keepsIdentity_touch c)

@[simp] theorem scheduleID_touchAll : (touchAll calls r).scheduleID = r.scheduleID :=
  (keepsIdentity_touchAll calls).scheduleID r

@[simp] theorem valveIDf_touchAll : (touchAll calls r).valveIDf = r.valveIDf :=
  (keepsIdentity_touchAll calls).valveIDf r

theorem sent_touchAll :
    (touchAll calls r).sent = (r.sent || calls.any (marks r.scheduleID)) := by
  induction calls generalizing r with
  | nil => simp
  | cons c cs ih =>
    rw [touchAll_cons, ih, sent_touch, (keepsIdentity_touch c).scheduleID, List.any_cons,
      Bool.or_assoc]

theorem active_of_touchAll (h : (touchAll calls r).active = true) : r.active = true := by
  induction calls generalizing r with
  | nil => exact h
  | cons c cs ih => exact c.active_of_touch r (ih _ h)

theorem deactivatedOn_touchAll_of_isSome (h : r.deactivatedOn.isSome) :
    (touchAll calls r).deactivatedOn.isSome := by
  induction calls generalizing r with
  | nil => exact h
  | cons c cs ih => exact ih _ (c.deactivatedOn_touch_of_isSome r h)

theorem deactivatedOn_of_touchAll (hcalls : ∀ c ∈ calls, c.records = false)
    (h : (touchAll calls r).deactivatedOn.isSome) : r.deactivatedOn.isSome := by
  induction calls generalizing r with
  | nil => exact h
  | cons c cs ih =>
    obtain ⟨hc, hcs⟩ := List.forall_mem_cons.1 hcalls
    rcases c.deactivatedOn_touch r (ih _ hcs h) with h | ⟨hr, -⟩
    · exact h
    · rw [hc] at hr
      exact absurd hr Bool.false_ne_true

end SqlCall

/-- Some calls rewrite the rows one by one, and add rows; an added row comes from a create among
them and went through the calls behind it. -/
theorem rows_run (db : Db) (calls : List SqlCall) :
    ∃ new, (run SqlCall.apply db calls).schedule.rows =
        db.schedule.rows.map (SqlCall.touchAll calls) ++ new ∧
      ∀ r ∈ new, ∃ pre c post r₀, calls = pre ++ c :: post ∧ c.Creates r₀ ∧
        r = SqlCall.touchAll post r₀ := by
  induction calls generalizing db with
  | nil =>
    refine ⟨[], ?_, by simp⟩
    rw [run_nil, List.append_nil]
    exact (List.map_id' db.schedule.rows).symm
  | cons c cs ih =>
    obtain ⟨new₁, hrows₁, hnew₁⟩ := rows_apply db c
    obtain ⟨new₂, hrows₂, hnew₂⟩ := ih (c.apply db)
    refine ⟨new₁.map (SqlCall.touchAll cs) ++ new₂, ?_, ?_⟩
    · rw [run_cons, hrows₂, hrows₁, List.map_append, List.map_map, List.append_assoc]
      rfl
    · intro r hr
      rcases List.mem_append.1 hr with hr | hr
      · obtain ⟨r₀, hr₀, rfl⟩ := List.mem_map.1 hr
        exact ⟨[], c, cs, r₀, rfl, hnew₁ r₀ hr₀, rfl⟩
      · obtain ⟨pre, c', post, r₀, rfl, hc', rfl⟩ := hnew₂ r hr
        exact ⟨c :: pre, c', post, r₀, rfl, hc', rfl⟩

@[simp] theorem valve_run (db : Db) (calls : List SqlCall) :
    (run SqlCall.apply db calls).valve = db.valve :=
  run_invariant (I := fun db' : Db => db'.valve = db.valve)
    (fun db' c h => (valve_apply db' c).trans h) rfl calls

@[simp] theorem rcvGetDeviceValves_run (deviceId : ℤ) (db : Db) (calls : List SqlCall) :
    rcvGetDeviceValves deviceId (run SqlCall.apply db calls) = rcvGetDeviceValves deviceId db := by
  rw [rcvGetDeviceValves, valve_run, rcvGetDeviceValves]

@[simp] theorem owns_run (deviceId : ℤ) (db : Db) (calls : List SqlCall) (r : ScheduleRow) :
    (run SqlCall.apply db calls).owns deviceId r = db.owns deviceId r := by
  simp [Db.owns]

@[simp] theorem owns_touchAll (db : Db) (deviceId : ℤ) (calls : List SqlCall) (r : ScheduleRow) :
    db.owns deviceId (SqlCall.touchAll calls r) = db.owns deviceId r := by
  simp [Db.owns]

theorem mem_run_of_mem {db : Db} {r : ScheduleRow} (h : r ∈ db.schedule.rows)
    (calls : List SqlCall) :
    SqlCall.touchAll calls r ∈ (run SqlCall.apply db calls).schedule.rows := by
  obtain ⟨new, hrows, -⟩ := rows_run db calls
  rw [hrows]
  exact List.mem_append_left _ (List.mem_map_of_mem h)

/-- A row after some calls was there before, or no row of its id was. -/
theorem mem_run_cases {db : Db} {calls : List SqlCall} {r' : ScheduleRow}
    (h : r' ∈ (run SqlCall.apply db calls).schedule.rows) :
    (∃ r ∈ db.schedule.rows, r' = SqlCall.touchAll calls r) ∨
      (∀ r ∈ db.schedule.rows, r.scheduleID ≠ r'.scheduleID) ∧
        ∃ pre c post r₀, calls = pre ++ c :: post ∧ c.Creates r₀ ∧
          r' = SqlCall.touchAll post r₀ := by
  by_cases hold : ∃ r ∈ db.schedule.rows, r.scheduleID = r'.scheduleID
  · obtain ⟨r, hr, hid⟩ := hold
    refine Or.inl ⟨r, hr, ?_⟩
    refine (run SqlCall.apply db calls).schedule.eq_of_key_eq h (mem_run_of_mem hr calls) ?_
    rw [SqlCall.scheduleID_touchAll, hid]
  · push Not at hold
    refine Or.inr ⟨hold, ?_⟩
    obtain ⟨new, hrows, hnew⟩ := rows_run db calls
    rw [hrows] at h
    rcases List.mem_append.1 h with h | h
    · obtain ⟨r, hr, rfl⟩ := List.mem_map.1 h
      exact absurd (SqlCall.scheduleID_touchAll calls r).symm (hold r hr)
    · exact hnew r' h

theorem eq_touchAll_of_mem_run {db : Db} {calls : List SqlCall} {r r' : ScheduleRow}
    (hr : r ∈ db.schedule.rows) (h : r' ∈ (run SqlCall.apply db calls).schedule.rows)
    (hid : r'.scheduleID = r.scheduleID) : r' = SqlCall.touchAll calls r :=
  (run SqlCall.apply db calls).schedule.eq_of_key_eq h (mem_run_of_mem hr calls)
    (hid.trans (SqlCall.scheduleID_touchAll calls r).symm)

/-! ## The rows but for their marks -/

/-- The row without what a mark writes. -/
def ScheduleRow.forgetSent (r : ScheduleRow) : ScheduleRow :=
  { r with sent := false, sentOn := none }

theorem keepsIdentity_forgetSent : KeepsIdentity ScheduleRow.forgetSent :=
  ⟨fun _ => rfl, fun _ => rfl, fun _ => rfl, fun _ => rfl, fun _ => rfl, fun _ => rfl⟩

/-- The database without what the marks write. -/
def Db.forgetSent (db : Db) : Db :=
  db.updateSchedule (fun _ => true) ScheduleRow.forgetSent keepsIdentity_forgetSent

theorem rows_forgetSent (db : Db) :
    db.forgetSent.schedule.rows = db.schedule.rows.map ScheduleRow.forgetSent :=
  List.map_congr_left fun _ _ => if_pos rfl

theorem forgetSent_setScheduleSent (db : Db) (now : Timestamp) (id : ℤ) :
    (SqlCall.apply db (.setScheduleSent now id)).forgetSent = db.forgetSent := by
  refine Db.ext rfl rfl (KeyedTable.ext ?_) rfl
  rw [rows_forgetSent, rows_forgetSent, rows_apply_of_not_creates db (by simp [SqlCall.Creates]),
    List.map_map]
  refine List.map_congr_left fun r _ => ?_
  simp only [Function.comp_apply, SqlCall.touch]
  split_ifs <;> rfl

theorem scheduleIDs_forgetSent (db : Db) :
    db.forgetSent.schedule.rows.map (·.scheduleID) = db.schedule.rows.map (·.scheduleID) := by
  rw [rows_forgetSent, List.map_map]
  rfl

theorem forgetSent_web (db : Db) (w : WebCall) :
    (w.apply db).forgetSent = w.apply db.forgetSent := by
  cases w with
  | deactivate id =>
    refine Db.ext rfl rfl (KeyedTable.ext ?_) rfl
    rw [rows_forgetSent]
    simp only [WebCall.apply, webDeactivateScheduleRequest, Db.updateSchedule,
      KeyedTable.rows_update, rows_forgetSent, List.map_map]
    refine List.map_congr_left fun r _ => ?_
    by_cases h : r.scheduleID = id <;> simp [ScheduleRow.forgetSent, ScheduleRow.setInactive, h]
  | create v description start stop now =>
    have hcreated : db.forgetSent.created v description start stop now =
        db.created v description start stop now := by
      simp only [Db.created, scheduleIDs_forgetSent]
      rfl
    obtain ⟨hdevice, hvalve, hrows, hseq⟩ :=
      webCreateNewSchedule_snd v description start stop now db
    obtain ⟨hdevice', hvalve', hrows', hseq'⟩ :=
      webCreateNewSchedule_snd v description start stop now db.forgetSent
    refine Db.ext (hdevice.trans hdevice'.symm) (hvalve.trans hvalve'.symm) (KeyedTable.ext ?_)
      (hseq.trans hseq'.symm)
    rw [rows_forgetSent]
    simp only [WebCall.apply]
    rw [hrows, hrows', hcreated, List.map_append, rows_forgetSent]
    congr 1
    cases hnew : db.created v description start stop now with
    | none => rfl
    | some r =>
      obtain ⟨-, -, -, -, hsent, hsentOn, -⟩ := creates_of_created hnew
      cases r
      cases hsent
      cases hsentOn
      rfl

/-- Two databases that agree but for the marks have the same pending rows. -/
theorem exists_pending_eq {db db' : Db} (h : db.forgetSent = db'.forgetSent) {r : ScheduleRow}
    (hr : r ∈ db.schedule.rows) :
    ∃ r' ∈ db'.schedule.rows, r'.scheduleID = r.scheduleID ∧ r'.pending = r.pending := by
  have hmem : r.forgetSent ∈ db'.schedule.rows.map ScheduleRow.forgetSent := by
    rw [← rows_forgetSent, ← h, rows_forgetSent]
    exact List.mem_map_of_mem hr
  obtain ⟨r', hr', heq⟩ := List.mem_map.1 hmem
  have hid : r'.forgetSent.scheduleID = r.forgetSent.scheduleID := by rw [heq]
  have hp : r'.forgetSent.pending = r.forgetSent.pending := by rw [heq]
  exact ⟨r', hr', hid, hp⟩

/-! ## Rows that are created and rows that are recorded -/

theorem SqlCall.Creates.flags {c : SqlCall} {r : ScheduleRow} (h : c.Creates r) :
    r.sent = false ∧ r.active = true ∧ r.deactivatedOn = none := by
  rcases c with (_ | _) | _ | _
  · exact ⟨h.2.2.2.2.1, h.2.2.2.2.2.2.1, h.2.2.2.2.2.2.2⟩
  all_goals exact h.elim

theorem exists_recorded_of_run {db : Db} {calls : List SqlCall}
    (hcalls : ∀ c ∈ calls, c.records = false) {r' : ScheduleRow}
    (hr' : r' ∈ (run SqlCall.apply db calls).schedule.rows) (h : r'.deactivatedOn.isSome) :
    ∃ r ∈ db.schedule.rows, r.scheduleID = r'.scheduleID ∧ r.deactivatedOn.isSome := by
  rcases mem_run_cases hr' with ⟨r, hr, rfl⟩ | ⟨-, pre, c, post, r₀, rfl, hc, rfl⟩
  · exact ⟨r, hr, (SqlCall.scheduleID_touchAll _ r).symm,
      SqlCall.deactivatedOn_of_touchAll calls r hcalls h⟩
  · have hpost : ∀ x ∈ post, x.records = false := fun x hx => hcalls x (by simp [hx])
    have := SqlCall.deactivatedOn_of_touchAll post r₀ hpost h
    rw [hc.flags.2.2] at this
    cases this

end Bbd.Server
