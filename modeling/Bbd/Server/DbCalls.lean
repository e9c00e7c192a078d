import Bbd.Server.Database
import Bbd.Lib.Work
import Bbd.Schedule

/-!
# The database calls of the receiver

`db.cpp`: each call opens a connection and one `pqxx::work` on it, and answers any exception with
the return value 1.  `set_schedules_sent` commits inside its loop, as soon as one statement has
updated a row; the next statement then finds the work closed and throws.  So a call marks at most
one row: the first listed one that is unsent (`Marks`, `Marks.setSchedulesSent`, `Marks.unique`).
`deactivation_requests_done` reads the returned ids as truth values after its commit, and reports a
failure of that too (`reportsTruthfully_iff`).
-/

namespace Bbd.Server

/-- The libpqxx operations of one call that fail: connecting, each statement, the commit. -/
structure PqxxFaults where
  connect : Bool
  exec : ℕ → Bool
  commit : Bool

/-- No operation fails. -/
def PqxxFaults.none : PqxxFaults := ⟨false, fun _ => false, false⟩

/-- `as<uint16_t>()`: the value if it fits, otherwise an exception. -/
def asUint16 (n : ℤ) : Option UInt16 :=
  if 0 ≤ n ∧ n < 65536 then some (UInt16.ofNat n.toNat) else none

/-- `as<bool>()` on the text of an integer. -/
def asBool (n : ℤ) : Option Bool :=
  if n = 0 then some false else if n = 1 then some true else none

/-- The loop of `db_get_device_valves`. -/
def fetchDeviceValves : List ℤ → Option (List UInt16)
  | [] => some []
  | row :: rows => do
    let valveId ← asUint16 row
    let valveIds ← fetchDeviceValves rows
    some (valveId :: valveIds)

/-- `db_get_device_valves`; `none` is the return value 1. -/
def dbGetDeviceValves (faults : PqxxFaults) (order : RowOrder ℤ) (deviceId : UInt16) (db : Db) :
    Option (List UInt16) :=
  if faults.connect then none
  else
    match (Work.begin db).exec (faults.exec 0)
        fun db => (order.order (rcvGetDeviceValves deviceId.toNat db), db) with
    | none => none
    | some (res, _) => fetchDeviceValves res

/-- The loop of `db_get_active_schedules`. -/
def fetchActiveSchedules : List ActiveRow → Option (List Schedule × List Bool)
  | [] => some ([], [])
  | row :: rows => do
    let scheduleId ← asUint16 row.scheduleIDo
    let valveId ← asUint16 row.valveIDo
    let start ← asUint16 row.startTimeO
    let stop ← asUint16 row.stopTimeO
    let (sches, sents) ← fetchActiveSchedules rows
    some (⟨scheduleId, valveId, start, stop⟩ :: sches, row.sentO :: sents)

/-- `db_get_active_schedules`; `none` is the return value 1. -/
def dbGetActiveSchedules (faults : PqxxFaults) (order : RowOrder ActiveRow) (deviceId : UInt16)
    (db : Db) : Option (List Schedule × List Bool) :=
  if faults.connect then none
  else
    match (Work.begin db).exec (faults.exec 0)
        fun db => (order.order (rcvGetActiveSchedules deviceId.toNat db), db) with
    | none => none
    | some (res, _) => fetchActiveSchedules res

/-- The loop of `set_schedules_sent` from its `i`-th statement on: whether it ends without an
exception, and the work it leaves. -/
def setSchedulesSentLoop (faults : PqxxFaults) (now : Timestamp) :
    ℕ → List Schedule → Work Db → Bool × Work Db
  | _, [], txn => (true, txn)
  | i, s :: ss, txn =>
    match txn.exec (faults.exec i) (rcvSetScheduleSent now s.scheduleId.toNat) with
    | none => (false, txn)
    | some (res, txn) =>
      if res then
        match txn.commit faults.commit with
        | none => (false, txn)
        | some txn => setSchedulesSentLoop faults now (i + 1) ss txn
      else setSchedulesSentLoop faults now (i + 1) ss txn

/-- `set_schedules_sent`: the return value and the database.  Its argument `device_id` is unused. -/
def setSchedulesSent (faults : PqxxFaults) (now : Timestamp) (sches : List Schedule) (db : Db) :
    ℕ × Db :=
  if faults.connect then (1, db)
  else
    let r := setSchedulesSentLoop faults now 0 sches (Work.begin db)
    (if r.1 then 0 else 1, r.2.stored)

/-- `deactivation_requests_done`: the return value and the database.  The ids are converted, to log
them, after the commit. -/
def deactivationRequestsDone (faults : PqxxFaults) (now : Timestamp) (db : Db) : ℕ × Db :=
  if faults.connect then (1, db)
  else
    match (Work.begin db).exec (faults.exec 0) (deactivationRequestsDoneSql now) with
    | none => (1, db)
    | some (res, txn) =>
      match txn.commit faults.commit with
      | none => (1, txn.stored)
      | some txn => (if res.all fun id => (asBool id).isSome then 0 else 1, txn.stored)

/-! ## Fetching -/

theorem asUint16_eq_some_iff {n : ℤ} {u : UInt16} : asUint16 n = some u ↔ (u.toNat : ℤ) = n := by
  have hu := u.toNat_lt
  unfold asUint16
  split_ifs with h
  · rw [Option.some_inj, ← UInt16.toNat_inj, UInt16.toNat_ofNat']
    omega
  · simp only [false_iff]
    omega

/-- What a returned row says of its schedule. -/
def ActiveRow.item (a : ActiveRow) : Item := ⟨a.scheduleIDo, a.valveIDo, a.startTimeO, a.stopTimeO⟩

/-- What a row says of its schedule. -/
def ScheduleRow.item (r : ScheduleRow) : Item :=
  ⟨r.scheduleID, r.valveIDf, r.startTime, r.stopTime⟩

@[simp] theorem item_activeRow (r : ScheduleRow) : r.activeRow.item = r.item := rfl

theorem fetchActiveSchedules_eq_some {rows : List ActiveRow} {sches : List Schedule}
    {sents : List Bool} (h : fetchActiveSchedules rows = some (sches, sents)) :
    sches.map Schedule.item = rows.map ActiveRow.item ∧ sents = rows.map (·.sentO) := by
  induction rows generalizing sches sents with
  | nil =>
    obtain ⟨rfl, rfl⟩ := Prod.mk.inj (Option.some.inj h)
    exact ⟨rfl, rfl⟩
  | cons row rows ih =>
    simp only [fetchActiveSchedules, Option.bind_eq_bind, Option.bind_eq_some_iff,
      Option.some_inj, Prod.mk.injEq] at h
    obtain ⟨i, hi, v, hv, a, ha, b, hb, ⟨ss, bs⟩, hrest, rfl, rfl⟩ := h
    obtain ⟨hss, hbs⟩ := ih hrest
    rw [asUint16_eq_some_iff] at hi hv ha hb
    refine ⟨?_, by rw [List.map_cons, ← hbs]⟩
    rw [List.map_cons, List.map_cons, ← hss]
    simp only [Schedule.item, ActiveRow.item, hi, hv, ha, hb]

theorem exists_fetchActiveSchedules {rows : List ActiveRow}
    (h : ∀ a ∈ rows, ∃ s : Schedule, s.item = a.item) :
    ∃ read, fetchActiveSchedules rows = some read := by
  induction rows with
  | nil => exact ⟨_, rfl⟩
  | cons row rows ih =>
    obtain ⟨⟨s, hs⟩, hrows⟩ := List.forall_mem_cons.1 h
    obtain ⟨read, hread⟩ := ih hrows
    simp only [Schedule.item, ActiveRow.item, Item.mk.injEq, ← asUint16_eq_some_iff] at hs
    obtain ⟨hid, hvalve, hstart, hstop⟩ := hs
    exact ⟨_, by simp only [fetchActiveSchedules, hid, hvalve, hstart, hstop, hread]; rfl⟩

theorem dbGetActiveSchedules_eq_some {faults : PqxxFaults} {order : RowOrder ActiveRow}
    {deviceId : UInt16} {db : Db} {sches : List Schedule} {sents : List Bool}
    (h : dbGetActiveSchedules faults order deviceId db = some (sches, sents)) :
    sches.map Schedule.item =
        (order.order (rcvGetActiveSchedules deviceId.toNat db)).map ActiveRow.item ∧
      sents = (order.order (rcvGetActiveSchedules deviceId.toNat db)).map (·.sentO) := by
  unfold dbGetActiveSchedules at h
  rw [Work.exec_begin] at h
  split_ifs at h
  exact fetchActiveSchedules_eq_some h

/-! ## Marking -/

/-- Some row of this id is unsent. -/
def Db.unsent (db : Db) (scheduleId : ℤ) : Bool :=
  db.schedule.rows.any (·.unsentWithId scheduleId)

/-- The libpqxx operations up to the `k`-th statement and the commit behind it go through. -/
def PqxxFaults.LetsThrough (faults : PqxxFaults) (k : ℕ) : Prop :=
  faults.connect = false ∧ (∀ j ≤ k, faults.exec j = false) ∧ faults.commit = false

/-- The call gets to mark `s`: it is the first listed schedule that is unsent, and the database does
not fail before its commit. -/
structure Marks (faults : PqxxFaults) (sches : List Schedule) (db : Db) (pre : List Schedule)
    (s : Schedule) (post : List Schedule) : Prop where
  split : sches = pre ++ s :: post
  before : ∀ x ∈ pre, db.unsent x.scheduleId.toNat = false
  unsent : db.unsent s.scheduleId.toNat = true
  through : faults.LetsThrough pre.length

theorem exists_marks {sches : List Schedule} {db : Db}
    (h : ∃ s ∈ sches, db.unsent s.scheduleId.toNat = true) :
    ∃ pre s post, Marks .none sches db pre s post := by
  cases hfind : sches.find? fun s => db.unsent s.scheduleId.toNat with
  | none =>
    obtain ⟨s, hs, hu⟩ := h
    exact absurd hu (List.find?_eq_none.1 hfind s hs)
  | some s =>
    obtain ⟨hu, pre, post, hsplit, hpre⟩ := List.find?_eq_some_iff_append.1 hfind
    exact ⟨pre, s, post, hsplit, fun x hx => by simpa using hpre x hx, hu, rfl, fun _ _ => rfl, rfl⟩

theorem rcvSetScheduleSent_fst (now : Timestamp) (id : ℤ) (db : Db) :
    (rcvSetScheduleSent now id db).1 = db.unsent id := by
  rw [rcvSetScheduleSent, Bool.eq_iff_iff, decide_eq_true_eq, gt_iff_lt,
    KeyedTable.rowCount_pos_iff, Db.unsent, List.any_eq_true]

theorem rcvSetScheduleSent_of_not_unsent {now : Timestamp} {id : ℤ} {db : Db}
    (h : db.unsent id = false) : rcvSetScheduleSent now id db = (false, db) := by
  refine Prod.ext ((rcvSetScheduleSent_fst now id db).trans h) ?_
  refine Db.updateSchedule_of_forall_not (keepsIdentity_setSent now) fun r hr => ?_
  rw [Db.unsent, List.any_eq_false] at h
  exact h r hr

/-- A closed work ends the loop at the next statement. -/
theorem setSchedulesSentLoop_of_committed (faults : PqxxFaults) (now : Timestamp) (i : ℕ)
    (sches : List Schedule) {txn : Work Db} (h : txn.committed = true) :
    setSchedulesSentLoop faults now i sches txn = (sches.isEmpty, txn) := by
  cases sches with
  | nil => rfl
  | cons s ss => rw [setSchedulesSentLoop, Work.exec_of_committed h]; rfl

/-- The loop passes over the schedules that are sent, marks the first one that is not, and throws on
the schedule behind it. -/
theorem setSchedulesSentLoop_of_split {faults : PqxxFaults} {now : Timestamp} {db : Db}
    {pre : List Schedule} {s : Schedule} {post : List Schedule} {i : ℕ}
    (hpre : ∀ x ∈ pre, db.unsent x.scheduleId.toNat = false)
    (hs : db.unsent s.scheduleId.toNat = true)
    (hexec : ∀ j ≤ pre.length, faults.exec (i + j) = false) (hcommit : faults.commit = false) :
    setSchedulesSentLoop faults now i (pre ++ s :: post) (Work.begin db) =
      (post.isEmpty, ⟨(rcvSetScheduleSent now s.scheduleId.toNat db).2,
        (rcvSetScheduleSent now s.scheduleId.toNat db).2, true⟩) := by
  induction pre generalizing i with
  | nil =>
    have hi : faults.exec i = false := hexec 0 (Nat.zero_le _)
    simp only [List.nil_append, setSchedulesSentLoop, Work.exec_begin, hi, rcvSetScheduleSent_fst,
      hs, Work.commit_of_open, hcommit, if_true, if_false, Bool.false_eq_true]
    exact setSchedulesSentLoop_of_committed faults now (i + 1) post rfl
  | cons x pre ih =>
    obtain ⟨hx, hpre⟩ := List.forall_mem_cons.1 hpre
    have hi : faults.exec i = false := hexec 0 (Nat.zero_le _)
    simp only [List.cons_append, setSchedulesSentLoop, Work.exec_begin, hi,
      rcvSetScheduleSent_of_not_unsent hx, if_false, Bool.false_eq_true]
    refine ih hpre fun j hj => ?_
    have := hexec (j + 1) (by rw [List.length_cons]; omega)
    rwa [← Nat.add_assoc, Nat.add_right_comm] at this

/-- Where nothing gets marked, the loop leaves the stored database alone, and it ends without an
exception only when nothing was unsent. -/
theorem setSchedulesSentLoop_of_no_split {faults : PqxxFaults} (now : Timestamp) {db : Db}
    {sches : List Schedule} {i : ℕ}
    (h : ∀ pre s post, sches = pre ++ s :: post →
      (∀ x ∈ pre, db.unsent x.scheduleId.toNat = false) → db.unsent s.scheduleId.toNat = true →
        (∀ j ≤ pre.length, faults.exec (i + j) = false) → faults.commit = true) :
    (setSchedulesSentLoop faults now i sches (Work.begin db)).2.stored = db ∧
      ((setSchedulesSentLoop faults now i sches (Work.begin db)).1 = true →
        ∀ x ∈ sches, db.unsent x.scheduleId.toNat = false) := by
  induction sches generalizing i with
  | nil => exact ⟨rfl, fun _ x hx => by cases hx⟩
  | cons x xs ih =>
    simp only [setSchedulesSentLoop, Work.exec_begin]
    by_cases hi : faults.exec i = true
    · simp [hi, Work.begin]
    rw [Bool.not_eq_true] at hi
    cases hx : db.unsent x.scheduleId.toNat with
    | true =>
      have hcommit := h [] x xs rfl (by simp) hx (by simpa using hi)
      simp [hi, rcvSetScheduleSent_fst, hx, Work.commit_of_open, hcommit]
    | false =>
      simp only [hi, rcvSetScheduleSent_of_not_unsent hx, if_false, Bool.false_eq_true]
      obtain ⟨hstored, hsent⟩ := ih (i := i + 1) fun pre s post hxs hpre hs hexec =>
        h (x :: pre) s post (by rw [hxs]; rfl) (List.forall_mem_cons.2 ⟨hx, hpre⟩) hs
          fun j hj => by
            cases j with
            | zero => exact hi
            | succ j =>
              have := hexec j (by rw [List.length_cons] at hj; omega)
              rwa [Nat.add_right_comm] at this
      exact ⟨hstored, fun hr => List.forall_mem_cons.2 ⟨hx, hsent hr⟩⟩

theorem Marks.setSchedulesSent {faults : PqxxFaults} {sches : List Schedule} {db : Db}
    {pre : List Schedule} {s : Schedule} {post : List Schedule}
    (h : Marks faults sches db pre s post) (now : Timestamp) :
    setSchedulesSent faults now sches db =
      (if post.isEmpty then 0 else 1, (rcvSetScheduleSent now s.scheduleId.toNat db).2) := by
  obtain ⟨hconnect, hexec, hcommit⟩ := h.through
  rw [Server.setSchedulesSent, hconnect, if_neg Bool.false_ne_true, h.split,
    setSchedulesSentLoop_of_split h.before h.unsent (fun j hj => by simpa using hexec j hj) hcommit]

theorem setSchedulesSent_of_not_marks {faults : PqxxFaults} {sches : List Schedule} {db : Db}
    (h : ∀ pre s post, ¬ Marks faults sches db pre s post) (now : Timestamp) :
    (setSchedulesSent faults now sches db).2 = db ∧
      ((setSchedulesSent faults now sches db).1 = 0 →
        ∀ x ∈ sches, db.unsent x.scheduleId.toNat = false) := by
  unfold setSchedulesSent
  by_cases hconnect : faults.connect = true
  · simp [hconnect]
  rw [if_neg hconnect]
  obtain ⟨hstored, hsent⟩ := setSchedulesSentLoop_of_no_split (i := 0) now
    fun pre s post hsplit hpre hs hexec => by
      by_contra hcommit
      exact h pre s post ⟨hsplit, hpre, hs, by simpa using hconnect,
        fun j hj => by simpa using hexec j hj, by simpa using hcommit⟩
  refine ⟨hstored, fun hr => hsent ?_⟩
  by_contra hf
  simp [hf] at hr

theorem Marks.mem_take_iff {faults : PqxxFaults} {sches : List Schedule} {db : Db}
    {pre : List Schedule} {s : Schedule} {post : List Schedule}
    (h : Marks faults sches db pre s post) (n : ℕ) :
    s ∈ sches.take n ↔ pre.length < n := by
  rw [h.split]
  constructor
  · intro hs
    by_contra hn
    rw [List.take_append_of_le_length (Nat.le_of_not_lt hn)] at hs
    have := h.before s (List.mem_of_mem_take hs)
    rw [h.unsent] at this
    cases this
  · intro hn
    rw [List.take_append, List.mem_append]
    obtain ⟨k, hk⟩ := Nat.exists_eq_add_of_lt hn
    refine Or.inr ?_
    rw [show n - pre.length = k + 1 by omega, List.take_succ_cons]
    exact List.mem_cons_self

theorem Marks.unique {faults : PqxxFaults} {sches : List Schedule} {db : Db}
    {pre pre' : List Schedule} {s s' : Schedule} {post post' : List Schedule}
    (h : Marks faults sches db pre s post) (h' : Marks faults sches db pre' s' post') : s = s' := by
  have hle {pre pre' : List Schedule} {s s' : Schedule} {post post' : List Schedule}
      (h : Marks faults sches db pre s post) (h' : Marks faults sches db pre' s' post') :
      pre'.length ≤ pre.length := by
    by_contra hlt
    have hs := (h.mem_take_iff pre'.length).2 (Nat.lt_of_not_le hlt)
    rw [h'.split, List.take_left] at hs
    have := h'.before s hs
    rw [h.unsent] at this
    cases this
  have hsplit := h.split.symm.trans h'.split
  exact (List.cons.inj (List.append_inj hsplit (Nat.le_antisymm (hle h' h) (hle h h'))).2).1

/-! ## Recording deactivations -/

theorem deactivationRequestsDone_snd (faults : PqxxFaults) (now : Timestamp) (db : Db) :
    (deactivationRequestsDone faults now db).2 =
      if faults.connect || faults.exec 0 || faults.commit then db
      else SqlCall.apply db (.deactivationRequestsDone now) := by
  simp only [deactivationRequestsDone, Work.exec_begin]
  cases faults.connect <;> cases faults.exec 0 <;> cases faults.commit <;>
    simp [Work.commit_of_open, SqlCall.apply]

/-- The return value tells a failure before the commit, and one of the conversions after it. -/
theorem deactivationRequestsDone_fst (faults : PqxxFaults) (now : Timestamp) (db : Db) :
    (deactivationRequestsDone faults now db).1 =
      if (faults.connect || faults.exec 0 || faults.commit) = false ∧
        ∀ r ∈ db.schedule.rows, r.pending → (asBool r.scheduleID).isSome then 0 else 1 := by
  have hall : (deactivationRequestsDoneSql now db).1.all (fun id => (asBool id).isSome) ↔
      ∀ r ∈ db.schedule.rows, r.pending → (asBool r.scheduleID).isSome := by
    simp only [deactivationRequestsDoneSql, List.all_eq_true, List.mem_map, List.mem_filter]
    constructor
    · intro h r hr hp
      exact h _ ⟨r, ⟨hr, hp⟩, rfl⟩
    · rintro h _ ⟨r, ⟨hr, hp⟩, rfl⟩
      exact h r hr hp
  simp only [← hall, deactivationRequestsDone, Work.exec_begin]
  cases faults.connect <;> cases faults.exec 0 <;> cases faults.commit <;>
    simp [Work.commit_of_open]

theorem asBool_isSome_iff (n : ℤ) : (asBool n).isSome ↔ n = 0 ∨ n = 1 := by
  unfold asBool
  split_ifs with h0 h1
  · simp [h0]
  · simp [h1]
  · simp [h0, h1]

/-- The return value of `deactivation_requests_done` tells what it has done: where it is not 0, no
`deactivated_on` has changed, and where it is 0, every row whose deactivation was pending has
one. -/
structure ReportsTruthfully (faults : PqxxFaults) (now : Timestamp) (db : Db) : Prop where
  failure : (deactivationRequestsDone faults now db).1 ≠ 0 →
    ((deactivationRequestsDone faults now db).2.schedule.rows.map fun r =>
        (r.scheduleID, r.deactivatedOn)) =
      db.schedule.rows.map fun r => (r.scheduleID, r.deactivatedOn)
  success : (deactivationRequestsDone faults now db).1 = 0 →
    ∀ r ∈ db.schedule.rows, r.pending →
      ∃ r' ∈ (deactivationRequestsDone faults now db).2.schedule.rows,
        r'.scheduleID = r.scheduleID ∧ r'.deactivatedOn.isSome

theorem map_deactivatedOn_recorded_iff (now : Timestamp) (db : Db) :
    ((SqlCall.apply db (.deactivationRequestsDone now)).schedule.rows.map fun r =>
        (r.scheduleID, r.deactivatedOn)) =
      (db.schedule.rows.map fun r => (r.scheduleID, r.deactivatedOn)) ↔
        ∀ r ∈ db.schedule.rows, ¬ r.pending := by
  rw [rows_apply_of_not_creates db (c := .deactivationRequestsDone now) fun _ h => h,
    List.map_map, List.map_inj_left]
  refine forall₂_congr fun r _ => ?_
  rw [Function.comp_apply, SqlCall.touch]
  split_ifs with hp
  · have hnone : r.deactivatedOn = none := by
      rw [ScheduleRow.pending, Bool.and_eq_true] at hp
      simpa using hp.2
    simp [ScheduleRow.setDeactivated, hnone, hp]
  · simp [hp]

/-- The return value tells what was done exactly when the call fails before its commit, or every
pending row has an id that reads as a truth value. -/
theorem reportsTruthfully_iff (faults : PqxxFaults) (now : Timestamp) (db : Db) :
    ReportsTruthfully faults now db ↔
      (faults.connect || faults.exec 0 || faults.commit) = true ∨
        ∀ r ∈ db.schedule.rows, r.pending → r.scheduleID = 0 ∨ r.scheduleID = 1 := by
  simp only [← asBool_isSome_iff]
  have hfst := deactivationRequestsDone_fst faults now db
  have hsnd := deactivationRequestsDone_snd faults now db
  cases hfault : (faults.connect || faults.exec 0 || faults.commit) with
  | true =>
    rw [hfault, if_pos rfl] at hsnd
    rw [hfault, if_neg (by simp)] at hfst
    refine iff_of_true ⟨fun _ => by rw [hsnd], fun h0 => ?_⟩ (Or.inl rfl)
    rw [hfst] at h0
    cases h0
  | false =>
    rw [hfault, if_neg Bool.false_ne_true] at hsnd
    rw [hfault] at hfst
    simp only [true_and] at hfst
    simp only [Bool.false_eq_true, false_or]
    constructor
    · intro h
      by_contra hids
      -- A conversion throws, so some row is pending, and the commit has recorded it.
      rw [if_neg hids] at hfst
      have hkept := h.failure (by rw [hfst]; exact Nat.one_ne_zero)
      rw [hsnd, map_deactivatedOn_recorded_iff] at hkept
      exact hids fun r hr hp => absurd hp (hkept r hr)
    · intro hids
      rw [if_pos hids] at hfst
      refine ⟨fun h0 => absurd hfst h0, fun _ r hr hp => ?_⟩
      rw [hsnd, rows_apply_of_not_creates db (c := .deactivationRequestsDone now) fun _ h => h]
      refine ⟨_, List.mem_map_of_mem hr, ?_⟩
      simp only [SqlCall.touch, if_pos hp]
      exact ⟨rfl, rfl⟩

/-- Schedule 2 is waiting for its deactivation to be recorded. -/
def Db.pendingTwo : Db where
  device := ⟨[⟨1, none⟩], by decide⟩
  valve := ⟨[⟨1, none, 1⟩], by decide⟩
  schedule := ⟨[⟨2, 1, none, 0, 5, 7, true, some 0, false, none⟩], by decide⟩
  scheduleSeq := 2
  fkDevice := by decide
  fkValve := by decide
  checkStartTime := by decide

/-- The deactivation of schedule 2 is recorded, and the call returns 1. -/
theorem not_reportsTruthfully_pendingTwo :
    (deactivationRequestsDone .none 8 Db.pendingTwo).1 = 1 ∧
      ¬ ReportsTruthfully .none 8 Db.pendingTwo :=
  ⟨by decide, fun h => absurd (h.failure (by decide)) (by decide)⟩

end Bbd.Server
