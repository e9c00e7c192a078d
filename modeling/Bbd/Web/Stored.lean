import Bbd.Server.Growth
import Bbd.Web.Injection

/-!
# Serving what the web site stores

What the requests to the web site leave in the schedule table, and whether the receiver can read it.
The site takes any valve that exists and any time of the day, all of which fit the receiver's 16-bit
fields; the id comes from the 32-bit sequence, and does not.  So the receiver reads the schedules of
every device exactly as long as no active schedule has an id beyond 65535 (`servesAll_iff`), which
holds while every create meets a sequence that has given out fewer than 65535 values.
-/

namespace Bbd.Web

open Sql Server Runs

/-! ## Requests that write -/

/-- A request to one of the two views that write. -/
inductive Post where
  | createNewSchedule (form : CreateForm)
  | deactivateSchedule (scheduleId : Option String)
  deriving DecidableEq, Repr

/-- The text that the view executes, if it gets that far. -/
def Post.sql (int : String → Option ℤ) (db : Db) : Post → Option String
  | .createNewSchedule form => (Web.createNewSchedule int form db).map Create.sql
  | .deactivateSchedule scheduleId => Web.deactivateSchedule scheduleId

/-- The database after a request, which is answered at a time. -/
def Post.apply (int : String → Option ℤ) (other : List Char → Db → Db) (db : Db)
    (e : Timestamp × Post) : Db :=
  match e.2.sql int db with
  | some sql => execute other e.1 sql db
  | none => db

/-- The stop time of a create, which no check of the table covers, is not negative. -/
def Statement.Timely : Statement → Prop
  | .create c => 0 ≤ c.stopTime
  | .deactivate _ => True

/-- PostgreSQL refuses the text of the request, or reads it as a statement that the views mean to
run. -/
def Post.Understood (int : String → Option ℤ) (db : Db) (e : Timestamp × Post) : Prop :=
  ∀ sql ∈ e.2.sql int db, ∀ ts, lex (received sql) = some ts →
    ∃ st, Statement.ofTokens ts = some st ∧ st.Timely

/-- A text that is read as a create meets a sequence whose next value fits 16 bits. -/
def Post.HasRoom (int : String → Option ℤ) (db : Db) (e : Timestamp × Post) : Prop :=
  ∀ sql ∈ e.2.sql int db, ∀ ts, lex (received sql) = some ts →
    ∀ c, Statement.ofTokens ts = some (.create c) → db.scheduleSeq < 65535

/-- The request, as one of those that put a field into a text. -/
def Post.request : Post → Request
  | .createNewSchedule form => .createNewSchedule form
  | .deactivateSchedule scheduleId => .deactivateSchedule scheduleId

theorem understood_of_harmless {int : String → Option ℤ} {db : Db} {e : Timestamp × Post}
    (h : e.2.request.Harmless int db) : Post.Understood int db e := by
  obtain ⟨now, post⟩ := e
  intro sql hsql ts hts
  cases post with
  | createNewSchedule form =>
    obtain ⟨c, hc, rfl⟩ := Option.map_eq_some_iff.1 (Option.mem_def.1 hsql)
    obtain ⟨hstr, -, -, htime⟩ := createNewSchedule_eq_some hc
    have hdescription : '\'' ∉ c.description.toList ∧ '\x00' ∉ c.description.toList := by
      cases hform : form.description with
      | none =>
        rw [hform] at hstr
        rw [← Option.some.inj hstr]
        decide
      | some param =>
        rw [hform] at hstr
        rw [str_some hstr]
        exact (h param hform c hc).1
    rw [Create.lex_received hdescription.1 hdescription.2] at hts
    obtain rfl := Option.some.inj hts
    exact ⟨.create c, ofTokens_create c, htime.1⟩
  | deactivateSchedule scheduleId =>
    obtain ⟨param, hparam, rfl⟩ := Option.map_eq_some_iff.1 (Option.mem_def.1 hsql)
    rw [NumericContext.lex_received (by decide) (h param hparam)] at hts
    obtain rfl := Option.some.inj hts
    exact ⟨.deactivate param.toList, ofTokens_deactivate _, trivial⟩

/-! ## What a request stores -/

section Rows

variable {db : Db} {r : ScheduleRow}

theorem mem_rows_webCall {call : WebCall} (hr : r ∈ (call.apply db).schedule.rows) :
    (∃ r₀ ∈ db.schedule.rows, r.scheduleID = r₀.scheduleID ∧ r.stopTime = r₀.stopTime) ∨
      (SqlCall.web call).Creates r ∧ r.scheduleID = db.scheduleSeq + 1 := by
  cases call with
  | create v description start stop now =>
    obtain ⟨-, -, hrows, -⟩ := webCreateNewSchedule_snd v description start stop now db
    rw [WebCall.apply, hrows, List.mem_append, Option.mem_toList] at hr
    rcases hr with hr | hr
    · exact Or.inl ⟨r, hr, rfl, rfl⟩
    · exact Or.inr ⟨creates_of_created hr, (scheduleID_of_created hr).2⟩
  | deactivate id =>
    have hrows := rows_apply_of_not_creates db (c := .web (.deactivate id)) fun _ h => h
    rw [show (WebCall.deactivate id).apply db = (SqlCall.web (.deactivate id)).apply db from rfl,
      hrows, List.mem_map] at hr
    obtain ⟨r₀, hr₀, rfl⟩ := hr
    have hkeeps := keepsIdentity_touch (.web (.deactivate id))
    exact Or.inl ⟨r₀, hr₀, hkeeps.scheduleID r₀, hkeeps.stopTime r₀⟩

theorem Statement.apply_cases (now : Timestamp) (db : Db) (st : Statement) :
    st.apply now db = db ∨ ∃ call : WebCall, st.apply now db = call.apply db ∧
      ∀ r, (SqlCall.web call).Creates r →
        ∃ c, st = .create c ∧ r.stopTime = c.stopTime ∧ c.stopTime ≤ 32767 := by
  cases st with
  | create c =>
    rw [Statement.apply]
    split_ifs with h
    · obtain ⟨-, -, hlo, hhi⟩ := h
      refine Or.inr ⟨.create c.valveIDf (some c.description) (Int16.ofInt c.startTime)
        (Int16.ofInt c.stopTime) now, rfl, fun r hr => ⟨c, rfl, ?_, hhi⟩⟩
      rw [hr.2.2.1, Int16.toInt_ofInt_of_le (by omega) (by omega)]
    · exact Or.inl rfl
  | deactivate s =>
    rw [Statement.apply]
    split_ifs
    · exact Or.inr ⟨.deactivate (Nat.ofDigitChars 10 s 0 : ℕ), rfl, fun r hr => hr.elim⟩
    · exact Or.inl rfl

end Rows

section Step

variable {int : String → Option ℤ} {db : Db} {e : Timestamp × Post}

/-- A request that is understood does nothing, or is a call that creates rows with a stop time that
fits 16 bits, and with a fitting id if there is room. -/
theorem Post.apply_cases (h : Post.Understood int db e) (other : List Char → Db → Db) :
    Post.apply int other db e = db ∨
      ∃ call : WebCall, Post.apply int other db e = call.apply db ∧
        ∀ r, (SqlCall.web call).Creates r →
          (0 ≤ r.stopTime ∧ r.stopTime ≤ 32767) ∧
            (Post.HasRoom int db e → db.scheduleSeq < 65535) := by
  unfold Post.apply
  cases hsql : e.2.sql int db with
  | none => exact Or.inl rfl
  | some sql =>
    cases hlex : lex (received sql) with
    | none => exact Or.inl (by simp only [execute, hlex])
    | some ts =>
      obtain ⟨st, hst, htimely⟩ := h sql hsql ts hlex
      have hexecute : execute other e.1 sql db = st.apply e.1 db := by
        simp only [execute, hlex, hst]
      rcases st.apply_cases e.1 db with hnothing | ⟨call, hcall, hcreates⟩
      · exact Or.inl (hexecute.trans hnothing)
      · refine Or.inr ⟨call, hexecute.trans hcall, fun r hr => ?_⟩
        obtain ⟨c, rfl, hstop, hle⟩ := hcreates r hr
        rw [hstop]
        exact ⟨⟨htimely, hle⟩, fun hroom => hroom sql hsql ts hlex c hst⟩

/-- What holds of the database along every run of requests that are understood. -/
structure Sound (db₀ db : Db) : Prop where
  valve : db.valve = db₀.valve
  issued : db.Issued
  stop : ∀ r ∈ db.schedule.rows, 0 ≤ r.stopTime ∧ r.stopTime ≤ 32767

theorem Sound.apply {db₀ : Db} (h : Sound db₀ db) (he : Post.Understood int db e)
    (other : List Char → Db → Db) : Sound db₀ (Post.apply int other db e) := by
  rcases Post.apply_cases he other with heq | ⟨call, heq, hcreates⟩
  · rwa [heq]
  · rw [heq]
    refine ⟨(valve_apply db (.web call)).trans h.valve, h.issued.web call, fun r hr => ?_⟩
    rcases mem_rows_webCall hr with ⟨r₀, hr₀, -, hstop⟩ | ⟨hnew, -⟩
    · rw [hstop]
      exact h.stop r₀ hr₀
    · exact (hcreates r hnew).1

/-- Every id fits 16 bits. -/
def SmallIds (db : Db) : Prop := ∀ r ∈ db.schedule.rows, r.scheduleID ≤ 65535

theorem SmallIds.apply (h : SmallIds db) (he : Post.Understood int db e)
    (hroom : Post.HasRoom int db e) (other : List Char → Db → Db) :
    SmallIds (Post.apply int other db e) := by
  rcases Post.apply_cases he other with heq | ⟨call, heq, hcreates⟩
  · rwa [heq]
  · rw [heq]
    intro r hr
    rcases mem_rows_webCall hr with ⟨r₀, hr₀, hid, -⟩ | ⟨hnew, hid⟩
    · rw [hid]
      exact h r₀ hr₀
    · have := (hcreates r hnew).2 hroom
      omega

end Step

/-! ## What the receiver reads -/

/-- The ids of the valves and of their devices fit 16 bits. -/
def IdsFit (db : Db) : Prop :=
  ∀ v ∈ db.valve.rows,
    (0 ≤ v.valveID ∧ v.valveID ≤ 65535) ∧ 0 ≤ v.deviceIDf ∧ v.deviceIDf ≤ 65535

instance (db : Db) : Decidable (IdsFit db) :=
  inferInstanceAs (Decidable (∀ v ∈ db.valve.rows, _))

/-- On a database that does not fail, `db_get_active_schedules` returns 0 for every device and
yields its active rows with their ids, valves and times, in some order. -/
def ServesAll (db : Db) : Prop :=
  ∀ (deviceId : UInt16) (order : RowOrder ActiveRow), ∃ sches sents,
    dbGetActiveSchedules .none order deviceId db = some (sches, sents) ∧
      (sches.map Schedule.item).Perm
        ((db.schedule.rows.filter fun r => db.owns deviceId.toNat r && r.active).map
          ScheduleRow.item)

theorem exists_toNat_eq {n : ℤ} (h : 0 ≤ n ∧ n ≤ 65535) : ∃ u : UInt16, (u.toNat : ℤ) = n := by
  refine ⟨UInt16.ofNat n.toNat, ?_⟩
  rw [UInt16.toNat_ofNat']
  omega

theorem exists_item_eq {r : ScheduleRow} (hid : 0 ≤ r.scheduleID ∧ r.scheduleID ≤ 65535)
    (hvalve : 0 ≤ r.valveIDf ∧ r.valveIDf ≤ 65535) (hstart : 0 ≤ r.startTime ∧ r.startTime ≤ 65535)
    (hstop : 0 ≤ r.stopTime ∧ r.stopTime ≤ 65535) : ∃ s : Schedule, s.item = r.item := by
  obtain ⟨scheduleId, hid⟩ := exists_toNat_eq hid
  obtain ⟨valveId, hvalve⟩ := exists_toNat_eq hvalve
  obtain ⟨start, hstart⟩ := exists_toNat_eq hstart
  obtain ⟨stop, hstop⟩ := exists_toNat_eq hstop
  refine ⟨⟨scheduleId, valveId, start, stop⟩, ?_⟩
  simp only [Schedule.item, ScheduleRow.item, hid, hvalve, hstart, hstop]

theorem scheduleID_le_of_servesAll {db : Db} (h : ServesAll db) (hids : IdsFit db)
    {r : ScheduleRow} (hr : r ∈ db.schedule.rows) (hactive : r.active) : r.scheduleID ≤ 65535 := by
  obtain ⟨v, hv, hvalve⟩ := db.fkValve r hr
  obtain ⟨deviceId, hdevice⟩ := exists_toNat_eq (hids v hv).2
  obtain ⟨sches, sents, -, hperm⟩ := h deviceId (.asListed _)
  have howns : db.owns deviceId.toNat r := by
    rw [hdevice]
    exact (owns_iff db v.deviceIDf r).2 ⟨v, hv, hvalve, rfl⟩
  have hmem : r.item ∈ sches.map Schedule.item := by
    refine hperm.mem_iff.2 (List.mem_map_of_mem (List.mem_filter.2 ⟨hr, ?_⟩))
    rw [howns, hactive]
    rfl
  obtain ⟨s, -, hs⟩ := List.mem_map.1 hmem
  have hid : (s.scheduleId.toNat : ℤ) = r.scheduleID := congrArg Item.scheduleID hs
  have := s.scheduleId.toNat_lt
  omega

/-- The schedules of every device are read exactly when no active one has an id that does not
fit. -/
theorem servesAll_iff {db₀ db : Db} (h : Sound db₀ db) (hids : IdsFit db) :
    ServesAll db ↔ ∀ r ∈ db.schedule.rows, r.active → r.scheduleID ≤ 65535 := by
  refine ⟨fun hserves r hr hactive => scheduleID_le_of_servesAll hserves hids hr hactive,
    fun hsmall deviceId order => ?_⟩
  have hitem (r : ScheduleRow) (hr : r ∈ db.schedule.rows) (hactive : r.active) :
      ∃ s : Schedule, s.item = r.item := by
    obtain ⟨v, hv, hvalve⟩ := db.fkValve r hr
    have hid := (h.issued r hr).1
    have hstart := db.checkStartTime r hr
    have hstop := h.stop r hr
    exact exists_item_eq ⟨by omega, hsmall r hr hactive⟩ (hvalve ▸ (hids v hv).1) (by omega)
      (by omega)
  have hread : dbGetActiveSchedules .none order deviceId db =
      fetchActiveSchedules (order.order (rcvGetActiveSchedules deviceId.toNat db)) := rfl
  obtain ⟨⟨sches, sents⟩, hfetch⟩ : ∃ read,
      fetchActiveSchedules (order.order (rcvGetActiveSchedules deviceId.toNat db)) = some read := by
    refine exists_fetchActiveSchedules fun a ha => ?_
    rw [(order.perm _).mem_iff, mem_rcvGetActiveSchedules] at ha
    obtain ⟨r, hr, -, hactive, rfl⟩ := ha
    exact hitem r hr hactive
  refine ⟨sches, sents, hread.trans hfetch, ?_⟩
  rw [(fetchActiveSchedules_eq_some hfetch).1]
  refine ((order.perm _).map _).trans ?_
  rw [rcvGetActiveSchedules_eq, List.map_map]
  exact List.Perm.refl _

/-- After any requests that are understood, on an empty schedule table: the schedules of every
device are read exactly when no active one has an id beyond 65535, and that is so if every create
met a sequence that had given out fewer than 65535 values. -/
theorem stored_schedules_served (int : String → Option ℤ) (other : List Char → Db → Db) (db : Db)
    (hempty : db.schedule.rows = []) (hids : IdsFit db) (posts : List (Timestamp × Post))
    (hposts : Along (Post.apply int other) (Post.Understood int) db posts) :
    (ServesAll (run (Post.apply int other) db posts) ↔
        ∀ r ∈ (run (Post.apply int other) db posts).schedule.rows,
          r.active → r.scheduleID ≤ 65535) ∧
      (Along (Post.apply int other) (Post.HasRoom int) db posts →
        ServesAll (run (Post.apply int other) db posts)) := by
  have hno (r : ScheduleRow) : r ∉ db.schedule.rows := hempty ▸ List.not_mem_nil
  have hsound : Sound db (run (Post.apply int other) db posts) :=
    hposts.run_invariant (I := Sound db) (fun _ _ h he => h.apply he other)
      ⟨rfl, fun r hr => absurd hr (hno r), fun r hr => absurd hr (hno r)⟩
  have hiff := servesAll_iff hsound (fun v hv => hids v (hsound.valve ▸ hv))
  refine ⟨hiff, fun hroom => hiff.2 fun r hr _ => ?_⟩
  exact (hposts.and hroom).run_invariant (I := SmallIds) (fun _ _ h he => h.apply he.1 he.2 other)
    (fun r hr => absurd hr (hno r)) r hr

/-! ## One request again and again -/

/-- A schedule for valve 1, from 0:05 to 0:07. -/
def earlyForm : CreateForm := ⟨some "1", some "early", some "0", some "5", some "0", some "7"⟩

theorem createNewSchedule_early {db : Db} (h : db.valve = Db.garden.valve) :
    createNewSchedule intOfDigits earlyForm db = some ⟨1, "early", 5, 7⟩ := by
  have hint : intOfDigits "0" = some 0 ∧ intOfDigits "1" = some 1 ∧ intOfDigits "5" = some 5 ∧
      intOfDigits "7" = some 7 := by decide
  have hstr : str (some "early") = some "early" := by decide
  obtain ⟨h0, h1, h5, h7⟩ := hint
  simp only [createNewSchedule, earlyForm, Option.bind_eq_bind, Option.bind_some, h0, h1, h5, h7,
    hstr, h]
  decide

/-- A schedule is stored in the garden, and served. -/
theorem stored_schedules_served_early :
    ServesAll (run (Post.apply intOfDigits fun _ db => db) Db.garden
      [(0, .createNewSchedule earlyForm)]) := by
  have hharmless : Request.Harmless intOfDigits Db.garden (.createNewSchedule earlyForm) := by
    intro param hparam c hc
    obtain rfl := Option.some.inj hparam
    obtain rfl := Option.some.inj ((createNewSchedule_early rfl).symm.trans hc)
    exact ⟨by decide, by decide⟩
  refine (stored_schedules_served intOfDigits (fun _ db => db) Db.garden rfl (by decide)
    [(0, .createNewSchedule earlyForm)] ⟨understood_of_harmless hharmless, trivial⟩).2 ⟨?_, trivial⟩
  exact fun _ _ _ _ _ _ => by decide

theorem apply_early (other : List Char → Db → Db) {db : Db} (h : db.valve = Db.garden.valve) :
    Post.apply intOfDigits other db (0, .createNewSchedule earlyForm) =
      WebCall.apply db (.create 1 (some "early") 5 7 0) := by
  have hc := createNewSchedule_early h
  simp only [Post.apply, Post.sql, hc, Option.map_some]
  exact (Create.execute_eq other 0 db (by decide) (by decide)).trans
    (apply_create hc (by decide) 0)

theorem run_replicate_early (other : List Char → Db → Db) (n : ℕ) {db : Db}
    (h : db.valve = Db.garden.valve) :
    run (Post.apply intOfDigits other) db (List.replicate n (0, .createNewSchedule earlyForm)) =
      db.afterWeb (List.replicate n (.create 1 (some "early") 5 7 0)) := by
  induction n generalizing db with
  | zero => rfl
  | succ n ih =>
    rw [List.replicate_succ, run_cons, apply_early other h, ih, List.replicate_succ]
    · rfl
    · exact (valve_apply db (.web (.create 1 (some "early") 5 7 0))).trans h

theorem dbGetActiveSchedules_replicate_early {n : ℕ} (hn : 65536 ≤ n) (hseq : n ≤ 2147483647) :
    dbGetActiveSchedules .none (.asListed _) 1 (run (Post.apply intOfDigits fun _ db => db)
      Db.garden (List.replicate n (0, .createNewSchedule earlyForm))) = none := by
  rw [run_replicate_early (fun _ db => db) n rfl]
  obtain ⟨hvalve, hrows⟩ := afterWeb_garden (some "early") rfl hseq
  generalize Db.garden.afterWeb
    (List.replicate n (.create 1 (some "early") 5 7 0)) = db at hvalve hrows ⊢
  obtain ⟨r, hr, hid, howns, hactive⟩ : ∃ r ∈ db.schedule.rows,
      r.scheduleID = 65536 ∧ db.owns 1 r ∧ r.active := by
    have hmem : 65535 ∈ List.range n := List.mem_range.2 (by omega)
    rw [hrows]
    refine ⟨_, List.mem_map_of_mem hmem, rfl, ?_, rfl⟩
    rw [owns_iff, hvalve]
    exact ⟨⟨1, none, 1⟩, by decide, rfl, rfl⟩
  cases hfetch : dbGetActiveSchedules .none (.asListed _) 1 db with
  | none => rfl
  | some read =>
    have hitems : read.1.map Schedule.item = (rcvGetActiveSchedules 1 db).map ActiveRow.item :=
      (dbGetActiveSchedules_eq_some hfetch).1
    have hmem : r.activeRow ∈ rcvGetActiveSchedules 1 db :=
      mem_rcvGetActiveSchedules.2 ⟨r, hr, howns, hactive, rfl⟩
    obtain ⟨s, -, hs⟩ := List.mem_map.1 (hitems ▸ List.mem_map_of_mem hmem)
    have hsid : (s.scheduleId.toNat : ℤ) = r.scheduleID := congrArg Item.scheduleID hs
    have := s.scheduleId.toNat_lt
    omega

/-- The 65536th schedule is stored, and the schedules of its device are not read any more. -/
theorem not_servesAll_replicate :
    IdsFit Db.garden ∧
      dbGetActiveSchedules .none (.asListed _) 1 (run (Post.apply intOfDigits fun _ db => db)
        Db.garden (List.replicate 65536 (0, .createNewSchedule earlyForm))) = none ∧
      ¬ ServesAll (run (Post.apply intOfDigits fun _ db => db) Db.garden
        (List.replicate 65536 (0, .createNewSchedule earlyForm))) := by
  have hnone := dbGetActiveSchedules_replicate_early (n := 65536) (Nat.le_refl _) (by decide)
  refine ⟨by decide, hnone, fun hserves => ?_⟩
  obtain ⟨sches, sents, hsome, -⟩ := hserves 1 (.asListed _)
  rw [hnone] at hsome
  cases hsome

end Bbd.Web
