import Bbd.System.Deactivated
import Bbd.System.Startup

/-!
# From the database to the water

What becomes of a schedule that the receiver has not sent yet.  Nobody but its own device gets it
marked, and its device only in an exchange that completes (`unsent_run`); so the first of these
brings the table that the schedule is in, and the passes behind it open the valve
(`unsent_schedule_waters`).
-/

namespace Bbd

open Server Client Runs

/-! ## Until the exchange -/

/-- The event is an exchange for schedules that completes. -/
def SystemEvent.Completes (p : Setup) (sys : System) : SystemEvent → Prop
  | .exchange type x => type.listsSchedules ∧ (sys.exchange p x type).1 = 0
  | _ => False

/-- The device has a schedule that is not marked as sent. -/
def System.Waiting (p : Setup) (i : Item) (sys : System) : Prop :=
  ∃ r ∈ sys.db.schedule.rows, sys.db.owns p.deviceId.toNat r ∧ r.item = i ∧ r.sent = false

section Waiting

variable {p : Setup} {i : Item} {sys : System}

theorem System.Waiting.run (h : sys.Waiting p i) (calls : List SqlCall)
    (hcalls : ∀ c ∈ calls, c.marks i.scheduleID = false) (client : Device) :
    System.Waiting p i ⟨run SqlCall.apply sys.db calls, client⟩ := by
  obtain ⟨r, hr, ho, rfl, hsent⟩ := h
  refine ⟨_, mem_run_of_mem hr calls, by rwa [owns_run, owns_touchAll], item_touchAll calls r, ?_⟩
  rw [SqlCall.sent_touchAll, hsent, Bool.false_or, List.any_eq_false]
  exact fun c hc => Bool.not_eq_true _ ▸ hcalls c hc

theorem marks_web (call : WebCall) (id : ℤ) : (SqlCall.web call).marks id = false := rfl

theorem marks_of_other {e : UInt8} {type : RequestType} {env : Env} {c : SqlCall}
    (he : e ≠ p.deviceId) (h : sys.Waiting p i) (hc : env.Makes e sys.db type c) :
    c.marks i.scheduleID = false := by
  rw [← Bool.not_eq_true]
  intro hmarks
  obtain ⟨r, hr, ho, rfl, -⟩ := h
  obtain ⟨r', hr', hid, ho'⟩ := marks_of_makes hc hmarks
  rw [sys.db.schedule.eq_of_key_eq hr' hr hid] at ho'
  have := owns_unique ho' ho
  rw [Int.natCast_inj, UInt8.toNat_inj] at this
  exact he this

/-- Whatever happens but a completed exchange for schedules leaves it waiting. -/
theorem System.Waiting.step (h : sys.Waiting p i) {e : SystemEvent} (he : e.Admitted p sys)
    (hfails : ¬ e.Completes p sys) : (sys.step p e).Waiting p i := by
  cases e with
  | web call => exact h.run [.web call] (by simp [marks_web]) _
  | pass m => exact h
  | other e type env =>
    obtain ⟨calls, hdb, hcalls⟩ := exists_makes p.server env e sys.db type
    rw [System.step, hdb]
    exact h.run calls (fun c hc => marks_of_other he h (hcalls c hc)) _
  | exchange type x =>
    cases hlists : type.listsSchedules with
    | true =>
      have hdb : (sys.exchange p x type).2.db = sys.db := by
        rcases System.exchange_cases p sys he.1.2 hlists with ⟨-, -, hdb⟩ | ⟨sches, sents, -, hex⟩
        · exact hdb he.1.1
        · exact absurd ⟨hlists, by rw [hex]⟩ hfails
      obtain ⟨r, hr, ho, hitem, hsent⟩ := h
      exact ⟨r, hdb ▸ hr, hdb ▸ ho, hitem, hsent⟩
    | false =>
      cases type with
      | getDeviceValvesMsg =>
        have hweb : ∃ calls : List WebCall,
            (sys.exchange p x .getDeviceValvesMsg).2.db = sys.db.afterWeb calls := by
          rw [System.exchange_db]
          split_ifs
          · obtain ⟨calls, -, hdb⟩ :=
              serveRequest_getDeviceValves_db p.server x.env p.deviceId sys.db
            exact ⟨calls, hdb⟩
          · exact ⟨[], rfl⟩
        obtain ⟨calls, hdb⟩ := hweb
        have hrun := h.run (calls.map .web) (by simp [marks_web])
          (sys.exchange p x .getDeviceValvesMsg).2.client
        rwa [run_web, ← hdb] at hrun
      | _ => cases hlists

/-- A schedule that is not marked stays so until an exchange of its device completes. -/
theorem unsent_run (h : sys.Waiting p i) {es : List SystemEvent}
    (hes : Along (System.step p) (fun sys e => e.Admitted p sys ∧ ¬ e.Completes p sys) sys es) :
    (run (System.step p) sys es).Waiting p i :=
  hes.run_invariant (I := fun sys : System => sys.Waiting p i)
    (fun _ _ h he => h.step he.1 he.2) h

end Waiting

theorem whole_of_admitted {p : Setup} {sys : System} {es : List SystemEvent}
    (hvalves : (rcvGetDeviceValves p.deviceId.toNat sys.db).length ≤ 32766)
    (hes : Along (System.step p) (fun sys e => e.Admitted p sys) sys es) :
    Along (System.step p) (fun sys e => e.Whole p sys) sys es := by
  refine hes.of_invariant
    (I := fun sys => (rcvGetDeviceValves p.deviceId.toNat sys.db).length ≤ 32766)
    (fun sys e hvalves he => ⟨?_, ?_⟩) hvalves
  · cases e with
    | exchange type x => exact ⟨he.1.2, hvalves, he.2⟩
    | _ => trivial
  · rwa [System.rcvGetDeviceValves_step]

/-! ## Behind the exchange -/

theorem client_run_of_no_exchange (p : Setup) (sys : System) {es : List SystemEvent}
    (hes : ∀ e ∈ es, ∀ type x, e ≠ .exchange type x) :
    (run (System.step p) sys es).client =
      run Device.pass sys.client (es.filterMap SystemEvent.passMinute) := by
  induction es generalizing sys with
  | nil => rfl
  | cons e es ih =>
    rw [run_cons, ih _ fun e' he' => hes e' (List.mem_cons_of_mem _ he')]
    cases e with
    | exchange type x => exact absurd rfl (hes _ List.mem_cons_self type x)
    | _ => rfl

/-- A schedule that the receiver has not marked as sent, on a device that has all its valves: the
first exchange for schedules that completes while it is active delivers it, whatever the web site
and the other devices do up to then.  From there to the next exchange of the device, a pass within
its times leaves its valve open if it is the first one, or if no other active schedule is for the
valve. -/
theorem unsent_schedule_waters (p : Setup) (sys : System) (hequipped : sys.Equipped p)
    (hvalves : (rcvGetDeviceValves p.deviceId.toNat sys.db).length ≤ 32766)
    (r : ScheduleRow) (hr : r ∈ sys.db.schedule.rows) (ho : sys.db.owns p.deviceId.toNat r)
    (hsent : r.sent = false) (mid : List SystemEvent)
    (hmid : Along (System.step p) (fun sys e => e.Admitted p sys ∧ ¬ e.Completes p sys) sys mid)
    (type : RequestType) (x : Exchange)
    (hx : (SystemEvent.exchange type x).Admitted p (run (System.step p) sys mid) ∧
      (SystemEvent.exchange type x).Completes p (run (System.step p) sys mid))
    (hactive : ∀ r' ∈ (run (System.step p) sys mid).db.schedule.rows,
      r'.scheduleID = r.scheduleID → r'.active = true)
    (tail : List SystemEvent) (htail : ∀ e ∈ tail, ∀ type x, e ≠ .exchange type x) (m : UInt16)
    (hsole : tail.filterMap SystemEvent.passMinute = [] ∨
      ∀ r' ∈ (run (System.step p) sys mid).db.schedule.rows,
        r'.active = true → r'.valveIDf = r.valveIDf → r'.scheduleID = r.scheduleID)
    (htimes : r.startTime ≤ m.toNat ∧ (m.toNat : ℤ) ≤ r.stopTime) :
    ∃ v ∈ (run (System.step p) sys
        (mid ++ .exchange type x :: (tail ++ [.pass m]))).client.valvesMap,
      r.valveIDf = v.vId.toNat ∧ v.vState = .opened := by
  obtain ⟨r', hr', ho', hitem, hsent'⟩ := unsent_run ⟨r, hr, ho, rfl, hsent⟩ hmid
  have hequipped' :=
    hequipped.run (whole_of_admitted hvalves (hmid.mono fun _ _ he => he.1))
  rw [run_append, run_cons, run_append, run_cons, run_nil]
  generalize run (System.step p) sys mid = sys' at *
  have ha' := hactive r' hr' (congrArg Item.scheduleID hitem)
  obtain ⟨sches, hclient, hlive⟩ :=
    client_of_bringsList hx.1 ⟨hx.2.1, hx.2.2, r', hr', ho', ha', fun _ => hsent'⟩
  obtain ⟨s, hs, hsitem⟩ : ∃ s ∈ sches, s.item = r.item := by
    have hmem : r.item ∈ sys'.db.live p.deviceId.toNat := ⟨r', hr', ho', ha', hitem⟩
    rwa [hlive] at hmem
  have hvalve : r.valveIDf = s.valveId.toNat := (congrArg Item.valveID hsitem).symm
  have hmap : (vmRead sys'.client.valvesMap s.valveId).isSome := by
    refine hequipped' s.valveId ?_
    rwa [Db.owns, decide_eq_true_eq, show r'.valveIDf = _ from congrArg Item.valveID hitem,
      show r.item.valveID = _ from hvalve] at ho'
  have hcovers : s.covers m := by
    rw [covers_iff_item, hsitem]
    exact htimes
  -- Where no other row is for the valve, no other schedule of the list is.
  have hsole' : tail.filterMap SystemEvent.passMinute = [] ∨
      ∀ s' ∈ sches, s'.valveId = s.valveId → s' = s := by
    refine hsole.imp_right fun hrows s' hs' hv => ?_
    have hmem : s'.item ∈ sys'.db.live p.deviceId.toNat := by
      rw [hlive]
      exact ⟨s', hs', rfl⟩
    obtain ⟨r₂, hr₂, -, ha₂, hitem₂⟩ := hmem
    have hv₂ : r₂.valveIDf = s'.valveId.toNat := congrArg Item.valveID hitem₂
    have hid := hrows r₂ hr₂ ha₂ (by rw [hv₂, hv, hvalve])
    have hsame : r₂ = r' :=
      sys'.db.schedule.eq_of_key_eq hr₂ hr' (hid.trans (congrArg Item.scheduleID hitem).symm)
    exact Schedule.item_injective (by rw [← hitem₂, hsame, hitem, hsitem])
  have hread := Device.read_run_pass (c := sys'.client) hs hmap hsole' hcovers
  rw [← hclient] at hread
  have htailclient :=
    client_run_of_no_exchange p (sys'.step p (.exchange type x)) htail
  refine ⟨⟨s.valveId, .opened⟩, exists_mem_of_vmRead ?_, hvalve, rfl⟩
  show vmRead ((run (System.step p) (sys'.step p (.exchange type x)) tail).client.pass m).valvesMap
    s.valveId = _
  rw [htailclient]
  exact hread

/-- Device 1 polls after its schedule was created and device 2 was served, and makes two passes. -/
theorem unsent_schedule_waters_polled :
    ∃ v ∈ (run (System.step ⟨.little, .big, 1⟩)
        ⟨Db.garden.afterWeb [.create 1 none 5 7 0], Device.start [1]⟩
        ([.other 2 .getActiveSchesMsg .calm] ++ .exchange .checkNewSchedulesMsg .calm ::
          ([.pass 4] ++ [.pass 6]))).client.valvesMap,
      1 = (v.vId.toNat : ℤ) ∧ v.vState = .opened := by
  have hequipped : System.Equipped ⟨.little, .big, 1⟩
      ⟨Db.garden.afterWeb [.create 1 none 5 7 0], Device.start [1]⟩ := by
    intro id hid
    have hvalves : rcvGetDeviceValves 1 (Db.garden.afterWeb [.create 1 none 5 7 0]) = [1] := by
      decide
    have hone : (id.toNat : ℤ) = 1 := List.mem_singleton.1 (hvalves ▸ hid)
    obtain rfl : id = 1 := UInt16.toNat_inj.1 (Int.natCast_inj.1 hone)
    rfl
  exact unsent_schedule_waters ⟨.little, .big, 1⟩
    ⟨Db.garden.afterWeb [.create 1 none 5 7 0], Device.start [1]⟩ hequipped (by decide)
    ⟨1, 1, none, 0, 5, 7, false, none, true, none⟩ (by decide) (by decide) rfl
    [.other 2 .getActiveSchesMsg .calm]
    ⟨⟨(by decide : (2 : UInt8) ≠ 1), id⟩, trivial⟩ .checkNewSchedulesMsg .calm
    ⟨⟨by decide, by decide⟩, rfl, by decide⟩ (by decide) [.pass 4]
    (fun e he type x h => by rw [List.mem_singleton.1 he] at h; cases h) 6
    (Or.inr (by decide)) (by decide)

end Bbd
