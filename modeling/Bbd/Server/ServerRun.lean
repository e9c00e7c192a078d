import Bbd.Server.Requests

/-!
# Runs of the server

What happens to the database in the long run: calls of the web site, and requests of the devices,
one after the other.  The valves and their owners never change, so a device's schedules are added to
only by web calls that create on its valves (`NoCreateFor`).
-/

namespace Bbd.Server

open Runs

/-- A call of the web site between two requests, or a request with what happens around it. -/
inductive ServerEvent where
  | web (call : WebCall)
  | request (deviceId : UInt8) (msgType : RequestType) (env : Env)

namespace ServerEvent

/-- The web calls that fall into the event. -/
def webCalls : ServerEvent → List WebCall
  | .web call => [call]
  | .request _ _ env => env.webCalls

/-- The database after the event. -/
def step (server : Endian) (db : Db) : ServerEvent → Db
  | .web call => call.apply db
  | .request deviceId msgType env => (serveRequest server env deviceId db msgType).db

/-- The bytes that the event hands to `send`. -/
def reply (server : Endian) (db : Db) : ServerEvent → Option (List UInt8)
  | .web _ => none
  | .request deviceId msgType env => (serveRequest server env deviceId db msgType).reply

theorem exists_calls (server : Endian) (db : Db) (e : ServerEvent) :
    ∃ calls, e.step server db = run SqlCall.apply db calls ∧
      ∀ w, .web w ∈ calls → w ∈ e.webCalls := by
  cases e with
  | web call => exact ⟨[.web call], rfl, fun w hw => by simpa [webCalls] using hw⟩
  | request deviceId msgType env =>
    obtain ⟨calls, hdb, hcalls⟩ := exists_makes server env deviceId db msgType
    exact ⟨calls, hdb, fun w hw => hcalls _ hw⟩

@[simp] theorem rcvGetDeviceValves_step (server : Endian) (db : Db) (e : ServerEvent) (d : ℤ) :
    rcvGetDeviceValves d (e.step server db) = rcvGetDeviceValves d db := by
  obtain ⟨calls, hstep, -⟩ := e.exists_calls server db
  rw [hstep, rcvGetDeviceValves_run]

end ServerEvent

/-- None of the web calls creates a schedule on a valve of the device. -/
def NoCreateFor (d : ℤ) (db : Db) (calls : List WebCall) : Prop :=
  ∀ v description start stop now, .create v description start stop now ∈ calls →
    v ∉ rcvGetDeviceValves d db

section NoCreate

variable {d : ℤ} {db : Db} {calls : List SqlCall} {webs : List WebCall}

theorem rows_run_of_noCreateFor (hcalls : ∀ w, .web w ∈ calls → w ∈ webs)
    (hwebs : NoCreateFor d db webs) :
    ∃ new, (run SqlCall.apply db calls).schedule.rows =
        db.schedule.rows.map (SqlCall.touchAll calls) ++ new ∧ ∀ r ∈ new, db.owns d r = false := by
  obtain ⟨new, hrows, hnew⟩ := rows_run db calls
  refine ⟨new, hrows, fun r hr => ?_⟩
  obtain ⟨pre, c, post, r₀, rfl, hc, rfl⟩ := hnew r hr
  rcases c with (⟨v, description, start, stop, now⟩ | _) | _ | _
  · rw [owns_touchAll, Db.owns, decide_eq_false_iff_not, hc.1]
    exact hwebs v description start stop now (hcalls _ (by simp))
  all_goals exact hc.elim

/-- Without creates for a device, every row of it was there before. -/
theorem exists_touchAll_of_owns (hcalls : ∀ w, .web w ∈ calls → w ∈ webs)
    (hwebs : NoCreateFor d db webs) {r' : ScheduleRow}
    (hr' : r' ∈ (run SqlCall.apply db calls).schedule.rows) (ho : db.owns d r') :
    ∃ r ∈ db.schedule.rows, SqlCall.touchAll calls r = r' := by
  obtain ⟨new, hrows, hnew⟩ := rows_run_of_noCreateFor hcalls hwebs
  rw [hrows, List.mem_append, List.mem_map] at hr'
  rcases hr' with h | h
  · exact h
  · rw [hnew r' h] at ho
    cases ho

variable {p : ScheduleRow → Bool}

theorem countP_run (hcalls : ∀ w, .web w ∈ calls → w ∈ webs) (hwebs : NoCreateFor d db webs)
    (hown : ∀ r, p r → db.owns d r) :
    (run SqlCall.apply db calls).schedule.rows.countP p =
      db.schedule.rows.countP (p ∘ SqlCall.touchAll calls) := by
  obtain ⟨new, hrows, hnew⟩ := rows_run_of_noCreateFor hcalls hwebs
  have : new.countP p = 0 := by
    rw [List.countP_eq_zero]
    intro r hr hp
    have := hown r hp
    rw [hnew r hr] at this
    cases this
  rw [hrows, List.countP_append, List.countP_map, this, Nat.add_zero]

/-- A kind of row that no call creates of a row of another kind does not become more frequent. -/
theorem countP_run_le (hcalls : ∀ w, .web w ∈ calls → w ∈ webs) (hwebs : NoCreateFor d db webs)
    (hown : ∀ r, p r → db.owns d r) (hp : ∀ r, p (SqlCall.touchAll calls r) → p r) :
    (run SqlCall.apply db calls).schedule.rows.countP p ≤ db.schedule.rows.countP p := by
  rw [countP_run hcalls hwebs hown]
  exact List.countP_mono_left fun r _ h => hp r h

theorem countP_run_lt (hcalls : ∀ w, .web w ∈ calls → w ∈ webs) (hwebs : NoCreateFor d db webs)
    (hown : ∀ r, p r → db.owns d r) (hp : ∀ r, p (SqlCall.touchAll calls r) → p r)
    (hdrop : ∃ r ∈ db.schedule.rows, p r ∧ ¬ p (SqlCall.touchAll calls r)) :
    (run SqlCall.apply db calls).schedule.rows.countP p < db.schedule.rows.countP p := by
  rw [countP_run hcalls hwebs hown]
  exact List.countP_lt_of_imp (fun r _ h => hp r h) hdrop

end NoCreate

end Bbd.Server
