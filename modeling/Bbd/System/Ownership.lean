import Bbd.System.Exchange
import Bbd.System.Replies

/-!
# Where the schedules and the valves of a device come from

As long as no reply is cut short on its way, nor longer than the buffers on both sides
(`SystemEvent.Whole`), the table of the device holds schedules of the database on valves of that
device, its map holds valves of that device, and the pass of a scheduler that opened a valve met
such a schedule at a minute within its interval (`System.Rooted`, `System.Accounted`).  Exchanges
may fail otherwise: one that does installs nothing.
-/

namespace Bbd

open Server Client Runs

/-! ## An exchange for valves -/

namespace Server

theorem fetchDeviceValves_eq_some {rows : List ℤ} {valveIds : List UInt16}
    (h : fetchDeviceValves rows = some valveIds) :
    valveIds.map (fun id => (id.toNat : ℤ)) = rows := by
  induction rows generalizing valveIds with
  | nil =>
    obtain rfl := Option.some.inj h
    rfl
  | cons row rows ih =>
    simp only [fetchDeviceValves, Option.bind_eq_bind, Option.bind_eq_some_iff,
      Option.some_inj] at h
    obtain ⟨id, hid, ids, hrest, rfl⟩ := h
    rw [List.map_cons, ih hrest, asUint16_eq_some_iff.1 hid]

theorem fetchValves_eq_some {env : Env} {deviceId : UInt8} {db : Db} {valveIds : List UInt16}
    (h : env.fetchValves deviceId db = some valveIds) :
    valveIds.map (fun id => (id.toNat : ℤ)) =
      env.valveOrder.order (rcvGetDeviceValves deviceId.toNat db) := by
  rw [Env.fetchValves, dbGetDeviceValves, Work.exec_begin, UInt8.toNat_toUInt16] at h
  split_ifs at h
  exact fetchDeviceValves_eq_some h

theorem mem_fetchValves_iff {env : Env} {deviceId : UInt8} {db : Db} {valveIds : List UInt16}
    (h : env.fetchValves deviceId db = some valveIds) {id : UInt16} :
    id ∈ valveIds ↔ (id.toNat : ℤ) ∈ rcvGetDeviceValves deviceId.toNat db := by
  rw [← (env.valveOrder.perm _).mem_iff, ← fetchValves_eq_some h, List.mem_map]
  constructor
  · intro hid
    exact ⟨id, hid, rfl⟩
  · rintro ⟨id', hid', heq⟩
    rw [Int.natCast_inj, UInt16.toNat_inj] at heq
    rwa [← heq]

theorem length_of_fetchValves {env : Env} {deviceId : UInt8} {db : Db}
    {valveIds : List UInt16}
    (h : env.fetchValves deviceId db = some valveIds) :
    valveIds.length = (rcvGetDeviceValves deviceId.toNat db).length := by
  have := congrArg List.length (fetchValves_eq_some h)
  rwa [List.length_map, (env.valveOrder.perm _).length_eq] at this

end Server

namespace System

variable {x : Exchange}

/-- Every fetch of valves, with no reply that is cut short or too long: it fails and leaves the
device alone, or it completes and installs the valves that the receiver read, all closed. -/
theorem exchange_getDeviceValves_cases (p : Setup) (sys : System) (hwhole : x.lost = 0)
    (hvalves : (rcvGetDeviceValves p.deviceId.toNat sys.db).length ≤ 32766) :
    ((sys.exchange p x .getDeviceValvesMsg).1 ≠ 0 ∧
        (sys.exchange p x .getDeviceValvesMsg).2.client = sys.client) ∨
      ∃ valveIds, x.env.fetchValves p.deviceId sys.db = some valveIds ∧
        (sys.exchange p x .getDeviceValvesMsg).1 = 0 ∧
        (sys.exchange p x .getDeviceValvesMsg).2.client =
          { sys.client with valvesMap := vmInitSetValves valveIds } := by
  have hnil (timesOut : Bool) :
      ccSetValveInfo p.client x.stale (some ⟨[], timesOut⟩) sys.client = (3, sys.client) := by
    cases timesOut <;> rfl
  simp only [exchange, Device.fetch, Exchange.arriving_of_whole hwhole]
  by_cases hconnects : x.connects = true
  · simp only [if_pos hconnects, served_eq, reply_getDeviceValves]
    cases hsend : x.env.sendFails with
    | true =>
      simp only [if_true, hnil]
      exact Or.inl ⟨Nat.succ_ne_zero 2, trivial⟩
    | false =>
      rw [if_neg Bool.false_ne_true]
      cases hfetch : x.env.fetchValves p.deviceId sys.db with
      | none =>
        simp only [Option.map_none, Option.getD_none, hnil]
        exact Or.inl ⟨Nat.succ_ne_zero 2, trivial⟩
      | some valveIds =>
        rw [← length_of_fetchValves hfetch] at hvalves
        rw [Option.map_some, Option.getD_some, ccSetValveInfo_deviceValvesReply p.server hvalves]
        split_ifs
        · exact Or.inl ⟨Nat.succ_ne_zero 3, rfl⟩
        · exact Or.inr ⟨valveIds, rfl, rfl, rfl⟩
  · simp only [if_neg hconnects, ccSetValveInfo]
    exact Or.inl ⟨Nat.one_ne_zero, trivial⟩

end System

/-! ## What the device holds -/

/-- The lists of the device fit the buffers for their replies, and its table. -/
def Server.Db.FitsBuffers (db : Db) (deviceId : UInt8) : Prop :=
  (rcvGetDeviceValves deviceId.toNat db).length ≤ 32766 ∧
    (rcvGetActiveSchedules deviceId.toNat db).length ≤ 6553

instance (db : Db) (deviceId : UInt8) : Decidable (db.FitsBuffers deviceId) :=
  inferInstanceAs (Decidable (_ ∧ _))

/-- The event is no exchange whose reply arrives in part, or is longer than its buffers. -/
def SystemEvent.Whole (p : Setup) (sys : System) : SystemEvent → Prop
  | .exchange _ x => x.lost = 0 ∧ sys.db.FitsBuffers p.deviceId
  | .web _ | .other _ _ _ | .pass _ => True

/-- The minute of a pass. -/
def SystemEvent.passMinute : SystemEvent → Option UInt16
  | .pass m => some m
  | _ => none

namespace System

variable {p : Setup} {sys : System}

/-- The schedules in the table of the device are rows on its valves, and the valves in its map are
its own. -/
structure Rooted (p : Setup) (sys : System) : Prop where
  table : ∀ s ∈ sys.client.table,
    ∃ r ∈ sys.db.schedule.rows, sys.db.owns p.deviceId.toNat r ∧ r.item = s.item
  valves : ∀ v ∈ sys.client.valvesMap,
    (v.vId.toNat : ℤ) ∈ rcvGetDeviceValves p.deviceId.toNat sys.db

theorem exists_calls (p : Setup) (sys : System) (e : SystemEvent) :
    ∃ calls, (sys.step p e).db = run SqlCall.apply sys.db calls := by
  cases e with
  | web call => exact ⟨[.web call], rfl⟩
  | other deviceId type env =>
    obtain ⟨calls, hdb, -⟩ := exists_makes p.server env deviceId sys.db type
    exact ⟨calls, hdb⟩
  | exchange type x =>
    rw [step, exchange_db]
    split_ifs
    · obtain ⟨calls, hdb, -⟩ := exists_makes p.server x.env p.deviceId sys.db type
      exact ⟨calls, hdb⟩
    · exact ⟨[], rfl⟩
  | pass m => exact ⟨[], rfl⟩

@[simp] theorem rcvGetDeviceValves_step (e : SystemEvent) (d : ℤ) :
    rcvGetDeviceValves d (sys.step p e).db = rcvGetDeviceValves d sys.db := by
  obtain ⟨calls, hdb⟩ := exists_calls p sys e
  rw [hdb, Server.rcvGetDeviceValves_run]

theorem rcvGetDeviceValves_run (es : List SystemEvent) (d : ℤ) :
    rcvGetDeviceValves d (run (System.step p) sys es).db = rcvGetDeviceValves d sys.db :=
  run_invariant
    (I := fun sys' : System => rcvGetDeviceValves d sys'.db = rcvGetDeviceValves d sys.db)
    (fun _ e h => (rcvGetDeviceValves_step e d).trans h) rfl es

theorem valvesMap_exchange {type : RequestType} (htype : type.listsSchedules) {x : Exchange} :
    (sys.exchange p x type).2.client.valvesMap = sys.client.valvesMap := by
  have hmap (sockfd : Option Inbound) :
      (sys.client.fetch p.client x.stale sockfd type).2.valvesMap = sys.client.valvesMap := by
    cases type with
    | getDeviceValvesMsg => cases htype
    | getActiveSchesMsg => exact valvesMap_fetchSchedules sockfd
    | checkNewSchedulesMsg => exact valvesMap_fetchSchedules sockfd
  unfold exchange
  split_ifs <;> exact hmap _

/-- A schedule in the table after an event was there, or is an active row of the device. -/
theorem mem_table_step {e : SystemEvent} (he : e.Whole p sys) {s : Schedule}
    (hs : s ∈ (sys.step p e).client.table) :
    s ∈ sys.client.table ∨ ∃ r ∈ sys.db.schedule.rows,
      sys.db.owns p.deviceId.toNat r ∧ r.active ∧ r.item = s.item := by
  cases e with
  | web call => exact Or.inl hs
  | other deviceId type env => exact Or.inl hs
  | pass m =>
    rw [step, Device.table_pass] at hs
    exact Or.inl hs
  | exchange type x =>
    cases htype : type.listsSchedules with
    | false =>
      cases type with
      | getDeviceValvesMsg =>
        rw [step, table_exchange_getDeviceValves] at hs
        exact Or.inl hs
      | _ => cases htype
    | true =>
      rcases exchange_cases p sys he.1 htype with ⟨-, hclient, -⟩ | ⟨sches, sents, hfetch, hex⟩
      · rw [step, hclient] at hs
        exact Or.inl hs
      · rw [step, hex] at hs
        dsimp only at hs
        split_ifs at hs with hnil
        · exact Or.inl hs
        · rw [Device.table_setNewSchedules] at hs
          refine Or.inr (exists_row_of_fetch hfetch ?_)
          have hans := List.mem_of_mem_take hs
          cases type with
          | checkNewSchedulesMsg =>
            rw [RequestType.answer] at hans
            split_ifs at hans
            · exact hans
            · cases hans
          | _ => exact hans

/-- A valve in the map after an event has the id of one that was there, or belongs to the device; if
it is open it was open, or a pass met a schedule of it. -/
theorem mem_valvesMap_step {e : SystemEvent} (he : e.Whole p sys) {v : ValveMapEntry}
    (hv : v ∈ (sys.step p e).client.valvesMap) :
    ((∃ u ∈ sys.client.valvesMap, u.vId = v.vId) ∨
        (v.vId.toNat : ℤ) ∈ rcvGetDeviceValves p.deviceId.toNat sys.db) ∧
      (v.vState = .opened → v ∈ sys.client.valvesMap ∨
        ∃ m, e = .pass m ∧ ∃ s ∈ sys.client.table, s.valveId = v.vId ∧ s.covers m) := by
  cases e with
  | web call => exact ⟨Or.inl ⟨v, hv, rfl⟩, fun _ => Or.inl hv⟩
  | other deviceId type env => exact ⟨Or.inl ⟨v, hv, rfl⟩, fun _ => Or.inl hv⟩
  | pass m =>
    rcases Device.mem_of_mem_pass hv with hold | ⟨hid, e, he, hvalve, hcmd⟩
    · exact ⟨Or.inl ⟨v, hold, rfl⟩, fun _ => Or.inl hold⟩
    · refine ⟨Or.inl hid, fun hopen => Or.inr ⟨m, rfl, e.sche, List.mem_map_of_mem he, hvalve, ?_⟩⟩
      rw [hopen] at hcmd
      exact ((Device.command_eq_opened_iff e).1 hcmd).2
  | exchange type x =>
    cases htype : type.listsSchedules with
    | true =>
      rw [step, valvesMap_exchange htype] at hv
      exact ⟨Or.inl ⟨v, hv, rfl⟩, fun _ => Or.inl hv⟩
    | false =>
      cases type with
      | getDeviceValvesMsg =>
        rcases exchange_getDeviceValves_cases p sys he.1 he.2.1 with
          ⟨-, hclient⟩ | ⟨valveIds, hfetch, -, hclient⟩
        · rw [step, hclient] at hv
          exact ⟨Or.inl ⟨v, hv, rfl⟩, fun _ => Or.inl hv⟩
        · rw [step, hclient] at hv
          refine ⟨Or.inr ?_, fun hopen => ?_⟩
          · obtain ⟨id, hid, rfl⟩ := List.mem_map.1 hv
            exact (mem_fetchValves_iff hfetch).1 hid
          · rw [closed_of_mem_init hv] at hopen
            cases hopen
      | _ => cases htype

/-- Every event keeps what the device holds its own. -/
theorem Rooted.step (h : sys.Rooted p) {e : SystemEvent} (he : e.Whole p sys) :
    (sys.step p e).Rooted p := by
  obtain ⟨calls, hdb⟩ := exists_calls p sys e
  constructor
  · intro s hs
    have hrow : ∃ r ∈ sys.db.schedule.rows,
        sys.db.owns p.deviceId.toNat r ∧ r.item = s.item := by
      rcases mem_table_step he hs with hold | ⟨r, hr, ho, -, hitem⟩
      · exact h.table s hold
      · exact ⟨r, hr, ho, hitem⟩
    obtain ⟨r, hr, ho, hitem⟩ := hrow
    rw [hdb]
    exact ⟨_, mem_run_of_mem hr calls, by rwa [owns_run, owns_touchAll],
      (item_touchAll calls r).trans hitem⟩
  · intro v hv
    rw [rcvGetDeviceValves_step]
    rcases (mem_valvesMap_step he hv).1 with ⟨u, hu, hid⟩ | hown
    · rw [← hid]
      exact h.valves u hu
    · exact hown

theorem Rooted.run (h : sys.Rooted p) {es : List SystemEvent}
    (hes : Along (System.step p) (fun sys e => e.Whole p sys) sys es) :
    (run (System.step p) sys es).Rooted p :=
  hes.run_invariant (I := fun sys : System => sys.Rooted p) (fun _ _ h he => h.step he) h

theorem rooted_of_unset (p : Setup) (db : Db) : Rooted p ⟨db, ⟨[], .unset⟩⟩ :=
  ⟨fun _ hs => (List.not_mem_nil hs).elim, fun _ hv => (List.not_mem_nil hv).elim⟩

theorem times_of_covers {r : ScheduleRow} {s : Schedule} (hitem : r.item = s.item) {m : UInt16}
    (hc : s.covers m) : r.startTime ≤ m.toNat ∧ (m.toNat : ℤ) ≤ r.stopTime := by
  have hstart : r.startTime = s.start.toNat := congrArg Item.start hitem
  have hstop : r.stopTime = s.stop.toNat := congrArg Item.stop hitem
  obtain ⟨h₁, h₂⟩ := hc
  rw [UInt16.le_iff_toNat_le] at h₁ h₂
  omega

/-- The valve is open on account of a stored schedule: one of the passes made at the minutes
`minutes` was within its interval. -/
def Accounted (p : Setup) (minutes : List UInt16) (sys : System) (v : ValveMapEntry) : Prop :=
  ∃ m ∈ minutes, ∃ r ∈ sys.db.schedule.rows, sys.db.owns p.deviceId.toNat r ∧
    r.valveIDf = v.vId.toNat ∧ r.startTime ≤ m.toNat ∧ (m.toNat : ℤ) ≤ r.stopTime

/-- Rows stay, so what accounts for an open valve does. -/
theorem Accounted.step {minutes : List UInt16} {v : ValveMapEntry}
    (h : sys.Accounted p minutes v) (e : SystemEvent) : (sys.step p e).Accounted p minutes v := by
  obtain ⟨m, hm, r, hr, ho, hvalve, hstart, hstop⟩ := h
  obtain ⟨calls, hdb⟩ := exists_calls p sys e
  have hkeeps := SqlCall.keepsIdentity_touchAll calls
  refine ⟨m, hm, SqlCall.touchAll calls r, ?_, ?_, ?_, ?_, ?_⟩
  · rw [hdb]
    exact mem_run_of_mem hr calls
  · rwa [hdb, owns_run, owns_touchAll]
  · rw [hkeeps.valveIDf, hvalve]
  · rwa [hkeeps.startTime]
  · rwa [hkeeps.stopTime]

/-- After a run of a device that held nothing but its own, and had no valve open, every open valve
is accounted for by a pass of the run. -/
theorem Rooted.accounted_run (h : sys.Rooted p)
    (hclosed : ∀ v ∈ sys.client.valvesMap, v.vState = .closed) {es : List SystemEvent}
    (hes : Along (System.step p) (fun sys e => e.Whole p sys) sys es) :
    ∀ v ∈ (Runs.run (System.step p) sys es).client.valvesMap, v.vState = .opened →
      (Runs.run (System.step p) sys es).Accounted p (es.filterMap SystemEvent.passMinute) v := by
  induction es using List.reverseRecOn with
  | nil =>
    intro v hv hopen
    rw [run_nil] at hv
    rw [hclosed v hv] at hopen
    cases hopen
  | append_singleton es e ih =>
    intro v hv hopen
    rw [run_append, run_cons, run_nil] at hv ⊢
    obtain ⟨hes, he, -⟩ := (along_append _ _).1 hes
    have hrooted := h.run hes
    rcases (mem_valvesMap_step he hv).2 hopen with hold | ⟨m, rfl, s, hs, hid, hc⟩
    · obtain ⟨m, hm, hrow⟩ := (ih hes v hold hopen).step e
      exact ⟨m, by simp [List.filterMap_append, hm], hrow⟩
    · obtain ⟨r, hr, ho, hitem⟩ := hrooted.table s hs
      have hvalve : r.valveIDf = s.valveId.toNat := congrArg Item.valveID hitem
      exact ⟨m, by simp [List.filterMap_append, SystemEvent.passMinute], r, hr, ho,
        by rw [hvalve, hid], times_of_covers hitem hc⟩

end System

end Bbd
