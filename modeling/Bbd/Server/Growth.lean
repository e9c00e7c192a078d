import Bbd.Server.DbCalls
import Bbd.Server.RunServer

/-!
# The growth of the schedule table

`scheduleID` is a `SERIAL`: every row takes the next value of the sequence, which nothing ever
lowers, so the ids in the table are values that were given out (`Db.Issued`) and the next value is
never taken.  Accepted calls of `web_create_new_schedule` therefore add their rows one by one
(`afterWeb_replicate_create`), with no bound before the 32-bit sequence runs out; the receiver reads
all of them into one vector, as long as their ids fit 16 bits (`fetch_crowded`).
-/

namespace Bbd.Server

open Runs

/-- Every id in the table is a value that the sequence has given out. -/
def Db.Issued (db : Db) : Prop :=
  ∀ r ∈ db.schedule.rows, 0 < r.scheduleID ∧ r.scheduleID ≤ db.scheduleSeq

theorem scheduleID_of_created {db : Db} {v : ℤ} {description : Option String} {start stop : Int16}
    {now : Timestamp} {r : ScheduleRow} (h : db.created v description start stop now = some r) :
    db.scheduleSeq < 2147483647 ∧ r.scheduleID = db.scheduleSeq + 1 := by
  obtain ⟨hseq, description', -, -, rfl⟩ := created_eq_some_iff.1 h
  exact ⟨hseq, rfl⟩

theorem Db.Issued.web {db : Db} (h : db.Issued) (call : WebCall) : (call.apply db).Issued := by
  cases call with
  | deactivate id =>
    intro r hr
    rw [WebCall.apply, webDeactivateScheduleRequest, Db.updateSchedule, KeyedTable.rows_update,
      List.mem_map] at hr
    obtain ⟨r₀, hr₀, rfl⟩ := hr
    have := h r₀ hr₀
    split_ifs <;> exact this
  | create v description start stop now =>
    obtain ⟨-, -, hrows, hseq⟩ := webCreateNewSchedule_snd v description start stop now db
    intro r hr
    show 0 < r.scheduleID ∧
      r.scheduleID ≤ (webCreateNewSchedule v description start stop now db).2.scheduleSeq
    rw [WebCall.apply, hrows, List.mem_append, Option.mem_toList] at hr
    rw [hseq]
    rcases hr with hr | hr
    · obtain ⟨hpos, hle⟩ := h r hr
      refine ⟨hpos, ?_⟩
      split_ifs <;> omega
    · obtain ⟨hlt, hid⟩ := scheduleID_of_created hr
      rw [if_neg (by omega), hid]
      omega

theorem Db.Issued.afterWeb {db : Db} (h : db.Issued) (calls : List WebCall) :
    (db.afterWeb calls).Issued :=
  run_invariant (I := Db.Issued) (fun _ call h => h.web call) h calls

/-- A call with a description that fits, a time of the day and a valve that exists creates its row,
as long as the sequence has a value left. -/
theorem created_of_issued {db : Db} (h : db.Issued) (hseq : db.scheduleSeq < 2147483647) {v : ℤ}
    (hv : ∃ x ∈ db.valve.rows, x.valveID = v) {description description' : Option String}
    (hd : toVarchar100 description = some description') {start : Int16}
    (hstart : 0 ≤ start.toInt ∧ start.toInt ≤ 1440) (stop : Int16) (now : Timestamp) :
    db.created v description start stop now =
      some ⟨db.scheduleSeq + 1, v, description', now, start.toInt, stop.toInt, false, none, true,
        none⟩ := by
  have hnew : (db.scheduleSeq + 1 : ℤ) ∉ db.schedule.rows.map (·.scheduleID) := by
    intro hmem
    obtain ⟨r, hr, hid⟩ := List.mem_map.1 hmem
    have := (h r hr).2
    omega
  exact created_eq_some_iff.2 ⟨hseq, description', hd, ⟨⟨hstart, hv⟩, hnew⟩, rfl⟩

theorem afterWeb_replicate_create {db : Db} (h : db.Issued) {v : ℤ}
    (hv : ∃ x ∈ db.valve.rows, x.valveID = v) {description description' : Option String}
    (hd : toVarchar100 description = some description') {start : Int16}
    (hstart : 0 ≤ start.toInt ∧ start.toInt ≤ 1440) (stop : Int16) (now : Timestamp) (n : ℕ)
    (hn : db.scheduleSeq + n ≤ 2147483647) :
    (db.afterWeb (List.replicate n (.create v description start stop now))).valve = db.valve ∧
      (db.afterWeb (List.replicate n (.create v description start stop now))).scheduleSeq =
        db.scheduleSeq + n ∧
      (db.afterWeb (List.replicate n (.create v description start stop now))).schedule.rows =
        db.schedule.rows ++ (List.range n).map fun i =>
          ⟨(db.scheduleSeq + i : ℕ) + 1, v, description', now, start.toInt, stop.toInt, false, none,
            true, none⟩ := by
  induction n with
  | zero => exact ⟨rfl, rfl, (List.append_nil _).symm⟩
  | succ n ih =>
    obtain ⟨hvalve, hseq, hrows⟩ := ih (by omega)
    have hissued := h.afterWeb (List.replicate n (.create v description start stop now))
    have hstep : db.afterWeb (List.replicate (n + 1) (.create v description start stop now)) =
        (webCreateNewSchedule v description start stop now
          (db.afterWeb (List.replicate n (.create v description start stop now)))).2 := by
      rw [List.replicate_succ', Db.afterWeb, run_append]
      rfl
    obtain ⟨-, hvalve', hrows', hseq'⟩ := webCreateNewSchedule_snd v description start stop now
      (db.afterWeb (List.replicate n (.create v description start stop now)))
    rw [hstep, hvalve', hseq', hrows', hvalve, hseq,
      created_of_issued hissued (by omega) (hvalve.symm ▸ hv) hd hstart stop now, hrows, hseq,
      if_neg (by omega), Option.toList_some, List.range_succ, List.map_append, List.append_assoc]
    exact ⟨rfl, rfl, rfl⟩

/-! ## A crowded garden -/

theorem afterWeb_garden (description : Option String)
    (hd : toVarchar100 description = some description) {n : ℕ} (hn : n ≤ 2147483647) :
    (Db.garden.afterWeb (List.replicate n (.create 1 description 5 7 0))).valve =
        Db.garden.valve ∧
      (Db.garden.afterWeb (List.replicate n (.create 1 description 5 7 0))).schedule.rows =
        (List.range n).map fun i =>
          ⟨(i : ℤ) + 1, 1, description, 0, 5, 7, false, none, true, none⟩ := by
  have hissued : Db.garden.Issued := fun r hr => absurd hr List.not_mem_nil
  have hvalve : ∃ x ∈ Db.garden.valve.rows, x.valveID = 1 := ⟨⟨1, none, 1⟩, by decide⟩
  have hstart : 0 ≤ (5 : Int16).toInt ∧ (5 : Int16).toInt ≤ 1440 := by decide
  have hseq : Db.garden.scheduleSeq + n ≤ 2147483647 := by
    show 0 + n ≤ _
    omega
  obtain ⟨hvalve', -, hrows⟩ := afterWeb_replicate_create hissued hvalve hd hstart 7 0 n hseq
  refine ⟨hvalve', hrows.trans ((List.nil_append _).trans (List.map_congr_left fun i _ => ?_))⟩
  show ScheduleRow.mk ((0 + i : ℕ) + 1) 1 description 0 5 7 false none true none = _
  rw [Nat.zero_add]

/-- The garden after `n` schedules for valve 1. -/
def Db.crowded (n : ℕ) : Db := Db.garden.afterWeb (List.replicate n (.create 1 none 5 7 0))

theorem rcvGetActiveSchedules_crowded {n : ℕ} (hn : n ≤ 2147483647) :
    rcvGetActiveSchedules 1 (Db.crowded n) =
      (List.range n).map fun i => ⟨(i : ℤ) + 1, 1, 5, 7, false⟩ := by
  obtain ⟨hvalve, hrows⟩ := afterWeb_garden none rfl hn
  have howns (r : ScheduleRow) : (Db.crowded n).owns 1 r = decide (r.valveIDf = 1) := by
    rw [Db.owns, rcvGetDeviceValves, Db.crowded, hvalve]
    exact decide_eq_decide.2 List.mem_singleton
  rw [rcvGetActiveSchedules_eq]
  simp only [howns]
  rw [Db.crowded, hrows, List.filter_eq_self.2, List.map_map]
  · exact List.map_congr_left fun i _ => rfl
  · intro r hr
    obtain ⟨i, -, rfl⟩ := List.mem_map.1 hr
    rfl

/-- The receiver reads the crowded garden as long as the ids fit 16 bits. -/
theorem fetch_crowded {n : ℕ} (hn : n ≤ 65535) :
    ∃ sches sents, dbGetActiveSchedules .none (.asListed _) 1 (Db.crowded n) =
      some (sches, sents) ∧ sches.length = n := by
  have hrows := rcvGetActiveSchedules_crowded (n := n) (by omega)
  have hread : dbGetActiveSchedules .none (.asListed _) 1 (Db.crowded n) =
      fetchActiveSchedules (rcvGetActiveSchedules 1 (Db.crowded n)) := rfl
  obtain ⟨⟨sches, sents⟩, hfetch⟩ :
      ∃ read, fetchActiveSchedules (rcvGetActiveSchedules 1 (Db.crowded n)) = some read := by
    refine exists_fetchActiveSchedules fun a ha => ?_
    rw [hrows, List.mem_map] at ha
    obtain ⟨i, hi, rfl⟩ := ha
    rw [List.mem_range] at hi
    refine ⟨⟨UInt16.ofNat (i + 1), 1, 5, 7⟩, ?_⟩
    have hid : ((UInt16.ofNat (i + 1)).toNat : ℤ) = i + 1 := by
      rw [UInt16.toNat_ofNat']
      omega
    simp only [Schedule.item, ActiveRow.item, hid]
    rfl
  refine ⟨sches, sents, hread.trans hfetch, ?_⟩
  have := congrArg List.length (fetchActiveSchedules_eq_some hfetch).1
  rwa [hrows, List.length_map, List.length_map, List.length_map, List.length_range] at this

end Bbd.Server
