import Bbd.Server.History
import Bbd.Server.RunServer

/-!
# The life of a schedule row

The four functions that write a schedule touch its flags one at a time, some of them guarded and
some not.  Together they keep a row coherent: `sent_on` is set with `sent` and never again, and
`deactivated_on` is set on a row that is inactive for good (`Coherent.touch`).  From a coherent row
every call leads to a later state of the same row (`Coherent.later_touch`).
-/

namespace Bbd.Server

open Runs

namespace ScheduleRow

/-- The flags of a row agree with its timestamps. -/
structure Coherent (r : ScheduleRow) : Prop where
  sent_iff : r.sent = true ↔ r.sentOn.isSome
  inactive : r.deactivatedOn.isSome → r.active = false

/-- A state `r'` that the row `r` may come to: it is the same schedule, `active` has not risen,
`sent` has not fallen, and a timestamp that was there is there unchanged. -/
structure Later (r r' : ScheduleRow) : Prop where
  scheduleID : r'.scheduleID = r.scheduleID
  valveIDf : r'.valveIDf = r.valveIDf
  startTime : r'.startTime = r.startTime
  stopTime : r'.stopTime = r.stopTime
  description : r'.description = r.description
  createdOn : r'.createdOn = r.createdOn
  active : r'.active = true → r.active = true
  sent : r.sent = true → r'.sent = true
  sentOn : r.sentOn.isSome → r'.sentOn = r.sentOn
  deactivatedOn : r.deactivatedOn.isSome → r'.deactivatedOn = r.deactivatedOn

end ScheduleRow

open ScheduleRow

/-! ## One call on one row -/

theorem SqlCall.Creates.coherent {c : SqlCall} {r : ScheduleRow} (h : c.Creates r) :
    r.Coherent := by
  rcases c with (_ | _) | _ | _
  · obtain ⟨-, -, -, -, hsent, hsentOn, -, hdeactivatedOn⟩ := h
    refine ⟨?_, fun hd => ?_⟩
    · rw [hsent, hsentOn]
      decide
    · rw [hdeactivatedOn] at hd
      cases hd
  all_goals exact h.elim

namespace ScheduleRow.Coherent

variable {r : ScheduleRow}

/-- A timestamp of a delivery stays: a mark writes it on unsent rows only. -/
theorem sentOn_touch (h : r.Coherent) (c : SqlCall) (hs : r.sentOn.isSome) :
    (c.touch r).sentOn = r.sentOn := by
  have hsent := h.sent_iff.2 hs
  rcases c with (_ | id) | ⟨now, id⟩ | now <;> simp only [SqlCall.touch]
  · split_ifs <;> rfl
  · rw [if_neg]
    simp [unsentWithId, hsent]
  · split_ifs <;> rfl

theorem deactivatedOn_touch (h : r.Coherent) (c : SqlCall) (hd : r.deactivatedOn.isSome) :
    (c.touch r).deactivatedOn = r.deactivatedOn := by
  have hactive := h.inactive hd
  rcases c with (_ | id) | ⟨now, id⟩ | now <;> simp only [SqlCall.touch]
  · split_ifs <;> rfl
  · split_ifs <;> rfl
  · rw [if_neg]
    rw [pending, Option.isNone_eq_false_iff.2 hd]
    simp

/-- Every call leads from a coherent row to a later state of it. -/
theorem later_touch (h : r.Coherent) (c : SqlCall) : r.Later (c.touch r) where
  scheduleID := (keepsIdentity_touch c).scheduleID r
  valveIDf := (keepsIdentity_touch c).valveIDf r
  startTime := (keepsIdentity_touch c).startTime r
  stopTime := (keepsIdentity_touch c).stopTime r
  description := (keepsIdentity_touch c).description r
  createdOn := (keepsIdentity_touch c).createdOn r
  active := c.active_of_touch r
  sent hs := by rw [c.sent_touch r, hs, Bool.true_or]
  sentOn := h.sentOn_touch c
  deactivatedOn := h.deactivatedOn_touch c

theorem touch (h : r.Coherent) (c : SqlCall) : (c.touch r).Coherent := by
  rcases c with (_ | id) | ⟨now, id⟩ | now <;> simp only [SqlCall.touch]
  · exact h
  · split_ifs
    · exact ⟨h.sent_iff, fun _ => rfl⟩
    · exact h
  · split_ifs
    · exact ⟨iff_of_true rfl rfl, h.inactive⟩
    · exact h
  · split_ifs with hp
    · refine ⟨h.sent_iff, fun _ => ?_⟩
      simp only [pending, Bool.and_eq_true, Bool.not_eq_true'] at hp
      exact hp.1
    · exact h

end ScheduleRow.Coherent

/-! ## A call, and a run of calls, on the table -/

/-- Every row of the table is coherent. -/
def Db.Coherent (db : Db) : Prop := ∀ r ∈ db.schedule.rows, r.Coherent

/-- No row is lost, and every row that is there is in the table after the call in a later state. -/
def Db.KeepsRows (db : Db) (c : SqlCall) : Prop :=
  ∀ r ∈ db.schedule.rows, ∃ r' ∈ (c.apply db).schedule.rows, r.Later r'

theorem Db.Coherent.apply {db : Db} (h : db.Coherent) (c : SqlCall) : (c.apply db).Coherent := by
  obtain ⟨new, hrows, hnew⟩ := rows_apply db c
  intro r hr
  rw [hrows, List.mem_append, List.mem_map] at hr
  rcases hr with ⟨r₀, hr₀, rfl⟩ | hr
  · exact (h r₀ hr₀).touch c
  · exact (hnew r hr).coherent

theorem Db.Coherent.keepsRows {db : Db} (h : db.Coherent) (c : SqlCall) : db.KeepsRows c := by
  obtain ⟨new, hrows, -⟩ := rows_apply db c
  intro r hr
  refine ⟨c.touch r, ?_, (h r hr).later_touch c⟩
  rw [hrows]
  exact List.mem_append_left _ (List.mem_map_of_mem hr)

/-- From an empty schedule table, whatever is called: the ids are distinct, every row is coherent,
and each call on the way has kept every row and has moved it forward only. -/
theorem schedule_life_cycle (db : Db) (hempty : db.schedule.rows = []) (calls : List SqlCall) :
    ((run SqlCall.apply db calls).schedule.rows.map (·.scheduleID)).Nodup ∧
      (∀ r ∈ (run SqlCall.apply db calls).schedule.rows, r.Coherent) ∧
      Along SqlCall.apply Db.KeepsRows db calls := by
  have hcoherent : db.Coherent := fun r hr => absurd hr (hempty ▸ List.not_mem_nil)
  refine ⟨(run SqlCall.apply db calls).schedule.nodup,
    run_invariant (I := Db.Coherent) (fun _ c h => h.apply c) hcoherent calls, ?_⟩
  exact (along_of_forall (P := fun _ _ => True) fun _ _ _ => trivial).of_invariant
    (fun _ c h _ => ⟨h.keepsRows c, h.apply c⟩) hcoherent

/-- A schedule is created, marked, deactivated and recorded. -/
theorem schedule_life_cycle_one :
    ((run SqlCall.apply Db.garden [.web (.create 1 none 5 7 0), .setScheduleSent 1 1,
        .web (.deactivate 1), .deactivationRequestsDone 2]).schedule.rows =
      [⟨1, 1, none, 0, 5, 7, true, some 1, false, some 2⟩]) ∧
      Along SqlCall.apply Db.KeepsRows Db.garden [.web (.create 1 none 5 7 0),
        .setScheduleSent 1 1, .web (.deactivate 1), .deactivationRequestsDone 2] :=
  ⟨by decide, (schedule_life_cycle Db.garden rfl _).2.2⟩

end Bbd.Server
