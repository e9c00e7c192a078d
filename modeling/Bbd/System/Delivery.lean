import Bbd.System.Exchange
import Bbd.Lib.Board

/-!
# What reaches the device

Seen from the device the database is a board: its active schedules are the live items, its sent ones
the announced items, and the schedule table of the device is the reader's copy.  The receiver marks
one schedule at a time, and only from the list it has just answered with, so the board stays sound
from the first completed `GET_ACTIVE_SCHES_MSG` on: a sent and active schedule is in the table.
That is why an empty answer is harmless (`no_schedule_missed`).  A deactivation, on the other hand,
is not announced: it reaches the device with the next list (`deactivation_comes_with_next_list`).
-/

namespace Bbd

open Server Client Runs

namespace Server.Db

variable (db : Db) (d : ℤ)

/-- The active schedules of a device. -/
def live : Set Item :=
  { i | ∃ r ∈ db.schedule.rows, db.owns d r = true ∧ r.active = true ∧ r.item = i }

/-- The sent schedules of a device. -/
def announced : Set Item :=
  { i | ∃ r ∈ db.schedule.rows, db.owns d r = true ∧ r.sent = true ∧ r.item = i }

/-- The schedules of a device that some of the calls mark. -/
def marked (calls : List SqlCall) : Set Item :=
  { i | ∃ r ∈ db.schedule.rows, db.owns d r = true ∧
    calls.any (SqlCall.marks r.scheduleID) = true ∧ r.item = i }

end Server.Db

/-- The board of the device. -/
def System.board (p : Setup) (sys : System) : Board Item where
  live := sys.db.live p.deviceId.toNat
  announced := sys.db.announced p.deviceId.toNat
  held := sys.held

/-! ## The moves of the receiver and the web site -/

section Moves

variable {db : Db} {calls : List SqlCall} {d : ℤ}

theorem sent_of_new
    (hmarks : ∀ c ∈ calls, ∀ id, c.marks id → ∃ r ∈ db.schedule.rows, r.scheduleID = id)
    {r' : ScheduleRow} (hr' : r' ∈ (run SqlCall.apply db calls).schedule.rows)
    (hnew : ∀ r ∈ db.schedule.rows, r.scheduleID ≠ r'.scheduleID) : r'.sent = false := by
  rcases mem_run_cases hr' with ⟨r, hr, rfl⟩ | ⟨-, pre, c, post, r₀, rfl, hc, rfl⟩
  · exact absurd (SqlCall.scheduleID_touchAll calls r).symm (hnew r hr)
  · rw [SqlCall.sent_touchAll, hc.flags.1, Bool.false_or, ← Bool.not_eq_true, List.any_eq_true]
    rintro ⟨c', hc', hid⟩
    obtain ⟨r, hr, hid'⟩ := hmarks c' (by simp [hc']) _ hid
    exact hnew r hr (hid'.trans (SqlCall.scheduleID_touchAll post r₀).symm)

/-- Calls that mark only rows that are there move the board of a device: they announce what they
mark. -/
theorem moves_run (held : Set Item)
    (hmarks : ∀ c ∈ calls, ∀ id, c.marks id → ∃ r ∈ db.schedule.rows, r.scheduleID = id) :
    Board.Moves (db.marked d calls) ⟨db.live d, db.announced d, held⟩
      ⟨(run SqlCall.apply db calls).live d, (run SqlCall.apply db calls).announced d, held⟩ where
  held := rfl
  announced := by
    rintro _ ⟨r', hr', ho, hsent, rfl⟩
    rw [owns_run] at ho
    rcases mem_run_cases hr' with ⟨r, hr, rfl⟩ | ⟨hnew, -⟩
    · rw [owns_touchAll] at ho
      rw [SqlCall.sent_touchAll, Bool.or_eq_true] at hsent
      rcases hsent with hsent | hmarked
      · exact Or.inl ⟨r, hr, ho, hsent, (item_touchAll calls r).symm⟩
      · exact Or.inr ⟨r, hr, ho, hmarked, (item_touchAll calls r).symm⟩
    · rw [sent_of_new hmarks hr' hnew] at hsent
      cases hsent
  live := by
    rintro _ ⟨r', hr', ho, hactive, rfl⟩
    rw [owns_run] at ho
    rcases mem_run_cases hr' with ⟨r, hr, rfl⟩ | ⟨hnew, -⟩
    · rw [owns_touchAll] at ho
      exact Or.inl ⟨r, hr, ho, SqlCall.active_of_touchAll _ _ hactive, (item_touchAll calls r).symm⟩
    · refine Or.inr ?_
      rintro ⟨r₂, hr₂, -, hsent₂, hitem⟩
      have hid : r₂.scheduleID = r'.scheduleID := congrArg Item.scheduleID hitem
      rw [(run SqlCall.apply db calls).schedule.eq_of_key_eq hr₂ hr' hid,
        sent_of_new hmarks hr' hnew] at hsent₂
      cases hsent₂

theorem marks_of_makes {env : Env} {e : UInt8} {type : RequestType} {c : SqlCall} {id : ℤ}
    (h : env.Makes e db type c) (hid : c.marks id) :
    ∃ r ∈ db.schedule.rows, r.scheduleID = id ∧ db.owns e.toNat r := by
  rcases c with _ | ⟨now, id'⟩ | _
  · cases hid
  · obtain ⟨r, hr, hr_id, ho, -⟩ := h
    exact ⟨r, hr, hr_id.trans (of_decide_eq_true hid), ho⟩
  · cases hid

theorem marked_of_makes {env : Env} {e : UInt8} {type : RequestType} (hd : d ≠ e.toNat)
    (h : ∀ c ∈ calls, env.Makes e db type c) : db.marked d calls = ∅ := by
  rw [Set.eq_empty_iff_forall_notMem]
  rintro _ ⟨r, hr, ho, hany, -⟩
  obtain ⟨c, hc, hid⟩ := List.any_eq_true.1 hany
  obtain ⟨r', hr', hid', ho'⟩ := marks_of_makes (h c hc) hid
  rw [db.schedule.eq_of_key_eq hr' hr hid'] at ho'
  exact hd (owns_unique ho ho')

end Moves

section Sound

variable {p : Setup} {sys : System}

theorem sound_afterWeb {db : Db} {d : ℤ} {held : Set Item}
    (h : Board.Sound ⟨db.live d, db.announced d, held⟩) (calls : List WebCall) :
    Board.Sound ⟨(db.afterWeb calls).live d, (db.afterWeb calls).announced d, held⟩ := by
  rw [← run_web]
  refine h.moves (moves_run held ?_) ?_
  · rintro c hc id hid
    obtain ⟨w, -, rfl⟩ := List.mem_map.1 hc
    cases hid
  · rintro _ ⟨r, -, -, hany, -⟩
    obtain ⟨c, hc, hid⟩ := List.any_eq_true.1 hany
    obtain ⟨w, -, rfl⟩ := List.mem_map.1 hc
    cases hid

theorem sound_other (h : (sys.board p).Sound) {e : UInt8} (he : e ≠ p.deviceId)
    (type : RequestType) (env : Env) : ((sys.step p (.other e type env)).board p).Sound := by
  obtain ⟨calls, hdb, hcalls⟩ := exists_makes p.server env e sys.db type
  have hd : (p.deviceId.toNat : ℤ) ≠ e.toNat := by
    rw [ne_eq, Int.natCast_inj, UInt8.toNat_inj]
    exact he.symm
  simp only [System.step, System.board, hdb]
  refine h.moves (moves_run sys.held fun c hc id hid => ?_) ?_
  · obtain ⟨r, hr, hr_id, -⟩ := marks_of_makes (hcalls c hc) hid
    exact ⟨r, hr, hr_id⟩
  · rw [marked_of_makes hd hcalls]
    exact Set.empty_subset _

variable {x : Exchange} {type : RequestType} {sches : List Schedule} {sents : List Bool}

theorem live_eq_of_fetch (hfetch : x.env.fetch p.deviceId sys.db = some (sches, sents)) :
    sys.db.live p.deviceId.toNat = { i | ∃ s ∈ sches, s.item = i } := by
  ext i
  exact (mem_fetch_iff hfetch).symm

/-- The answer to a request for schedules: the list, or nothing because there is nothing new in it.
-/
theorem answer_cases (htype : type.listsSchedules)
    (hfetch : x.env.fetch p.deviceId sys.db = some (sches, sents)) :
    type.answer sches sents = sches ∨
      type = .checkNewSchedulesMsg ∧ type.answer sches sents = [] ∧
        sys.db.live p.deviceId.toNat ⊆ sys.db.announced p.deviceId.toNat := by
  cases type with
  | getDeviceValvesMsg => cases htype
  | getActiveSchesMsg => exact Or.inl rfl
  | checkNewSchedulesMsg =>
    rw [RequestType.answer]
    split_ifs with hneed
    · exact Or.inl rfl
    · refine Or.inr ⟨rfl, rfl, ?_⟩
      rintro _ ⟨r, hr, ho, ha, rfl⟩
      obtain ⟨s, hs, hitem⟩ := (mem_fetch_iff hfetch).2 ⟨r, hr, ho, ha, rfl⟩
      refine ⟨r, hr, ho, ?_, rfl⟩
      by_contra hsent
      refine hneed ((needUpdate_of_fetch hfetch).2 ⟨s, hs, ?_⟩)
      rw [unsent_eq_of_item hr hitem.symm, Bool.not_eq_true', ← Bool.not_eq_true]
      exact hsent

/-- A completed exchange on a list that the reply has room for: the device installs the answer,
unless that is empty. -/
theorem exchange_of_completes (htype : type.listsSchedules) (hrc : (sys.exchange p x type).1 = 0)
    (hwhole : x.lost = 0)
    (hlen : (rcvGetActiveSchedules p.deviceId.toNat sys.db).length ≤ 6553) :
    ∃ sches sents, x.env.fetch p.deviceId sys.db = some (sches, sents) ∧
      (sys.exchange p x type).2 =
        ⟨(serveRequest p.server x.env p.deviceId sys.db type).db,
          if type.answer sches sents = [] then sys.client
          else sys.client.setNewSchedules (type.answer sches sents)⟩ := by
  rcases System.exchange_cases p sys hwhole htype with
    ⟨hne, -⟩ | ⟨sches, sents, hfetch, hex⟩
  · exact absurd hrc hne
  · refine ⟨sches, sents, hfetch, ?_⟩
    have hle : (type.answer sches sents).length ≤ 6553 := by
      rw [← length_of_fetch hfetch] at hlen
      rcases answer_cases htype hfetch with hans | ⟨-, hans, -⟩
      · rwa [hans]
      · rw [hans]
        exact Nat.zero_le _
    have hmod : (type.answer sches sents).length % 8192 = (type.answer sches sents).length :=
      Nat.mod_eq_of_lt (by omega)
    rw [hex, hmod, List.take_length]
    simp only [List.length_eq_zero_iff]

theorem marked_subset_answer (type : RequestType) {mark : List SqlCall}
    (hfetch : x.env.fetch p.deviceId sys.db = some (sches, sents))
    (hmark : MarkCalls x.env sches sys.db mark) (d : ℤ) :
    sys.db.marked d (x.env.calls mark (x.env.recording type)) ⊆
      { i | ∃ s ∈ type.answer sches sents, s.item = i } := by
  rintro _ ⟨r, hr, -, hany, rfl⟩
  obtain ⟨c, hc, hid⟩ := List.any_eq_true.1 hany
  obtain ⟨pre, s, post, hm, hs⟩ := marks_of_mem_calls hmark hc hid
  have hmem : s ∈ sches := by rw [hm.split]; simp
  obtain ⟨r', hr', -, -, hitem⟩ := exists_row_of_fetch hfetch hmem
  rw [sys.db.schedule.eq_of_key_eq hr' hr ((scheduleID_eq_of_item hitem).trans hs)] at hitem
  exact ⟨s, by rwa [hm.answer_eq hfetch], hitem.symm⟩

/-- A request that could read its list moves the board: it announces what is in its answer. -/
theorem moves_calls (type : RequestType) {mark : List SqlCall} (held : Set Item)
    (hfetch : x.env.fetch p.deviceId sys.db = some (sches, sents))
    (hmark : MarkCalls x.env sches sys.db mark) (d : ℤ) :
    Board.Moves { i | ∃ s ∈ type.answer sches sents, s.item = i }
      ⟨sys.db.live d, sys.db.announced d, held⟩
      ⟨(run SqlCall.apply sys.db (x.env.calls mark (x.env.recording type))).live d,
        (run SqlCall.apply sys.db (x.env.calls mark (x.env.recording type))).announced d,
        held⟩ := by
  refine (moves_run held fun c hc id hid => ?_).mono (marked_subset_answer type hfetch hmark d)
  obtain ⟨r, hr, hr_id, -⟩ := marks_of_makes (makes_of_mem_calls hfetch hmark hc) hid
  exact ⟨r, hr, hr_id⟩

theorem held_of_completes {db : Db} {l : List Schedule} :
    System.held ⟨db, if l = [] then sys.client else sys.client.setNewSchedules l⟩ =
      if l = [] then sys.held else { i | ∃ s ∈ l, s.item = i } := by
  split_ifs
  · rfl
  · simp only [System.held, Device.table_setNewSchedules]

/-- A completed exchange leaves the device with all schedules that were active when the receiver
read them, and the board sound; a `GET_ACTIVE_SCHES_MSG` does so from any state. -/
theorem exchange_sound (htype : type.listsSchedules) (hrc : (sys.exchange p x type).1 = 0)
    (hwhole : x.lost = 0)
    (hlen : (rcvGetActiveSchedules p.deviceId.toNat sys.db).length ≤ 6553)
    (h : type = .getActiveSchesMsg ∨ (sys.board p).Sound) :
    sys.db.live p.deviceId.toNat ⊆ (sys.exchange p x type).2.held ∧
      ((sys.exchange p x type).2.board p).Sound := by
  obtain ⟨sches, sents, hfetch, hex⟩ := exchange_of_completes htype hrc hwhole hlen
  obtain ⟨mark, hmark, hserve⟩ := serveRequest_of_fetch p.server htype hfetch
  have hlive := live_eq_of_fetch hfetch
  rw [hserve] at hex
  rw [hex, System.board, held_of_completes]
  -- The copy is brought up to date first; the receiver's calls then announce what is in it.
  have hmoves (held' : Set Item) := moves_calls type held' hfetch hmark p.deviceId.toNat
  rcases answer_cases htype hfetch with hans | ⟨hcheck, hans, hall⟩
  · rw [hans, ← hlive] at hmoves
    rw [hans]
    by_cases hnil : sches = []
    · have hempty : sys.db.live p.deviceId.toNat = ∅ := by rw [hlive, hnil]; simp
      have hnone : sys.db.live p.deviceId.toNat ⊆ sys.held := hempty ▸ Set.empty_subset _
      rw [if_pos hnil]
      exact ⟨hnone, (Board.sound_of_live_eq_empty hempty).moves (hmoves _) hnone⟩
    · rw [if_neg hnil, ← hlive]
      exact ⟨subset_rfl, (Board.sound_deliver (sys.board p)).moves (hmoves _) subset_rfl⟩
  · rw [hans] at hmoves ⊢
    have hsound : (sys.board p).Sound := h.resolve_left (by rw [hcheck]; decide)
    rw [if_pos rfl]
    exact ⟨hsound.live_subset_held hall, hsound.moves (hmoves _) (by simp)⟩

end Sound

/-! ## Runs -/

/-- What a run admits: one client per device id, replies that are delivered in full, and no more
active schedules than the table of the device has room for. -/
def SystemEvent.Admitted (p : Setup) (sys : System) : SystemEvent → Prop
  | .other deviceId _ _ => deviceId ≠ p.deviceId
  | .exchange _ x => x.Delivers ∧
    (rcvGetActiveSchedules p.deviceId.toNat sys.db).length ≤ 6553
  | .web _ | .pass _ => True

section Run

variable {p : Setup} {sys : System}

/-- Every event of a run keeps the board of the device sound. -/
theorem sound_step {e : SystemEvent} (h : (sys.board p).Sound) (he : e.Admitted p sys) :
    ((sys.step p e).board p).Sound := by
  cases e with
  | web call => exact sound_afterWeb h [call]
  | other deviceId type env => exact sound_other h he type env
  | pass m =>
    have hheld : (sys.step p (.pass m)).held = sys.held := by
      simp only [System.step, System.held, Device.table_pass]
    rw [System.board, hheld]
    exact h
  | exchange type x =>
    cases hlists : type.listsSchedules with
    | false =>
      cases type with
      | getDeviceValvesMsg =>
        have hheld : (sys.step p (.exchange .getDeviceValvesMsg x)).held = sys.held := by
          simp only [System.step, System.held, System.table_exchange_getDeviceValves]
        rw [System.board, hheld, System.step, System.exchange_db]
        split_ifs
        · obtain ⟨calls, -, hdb⟩ :=
            serveRequest_getDeviceValves_db p.server x.env p.deviceId sys.db
          rw [hdb]
          exact sound_afterWeb h calls
        · exact h
      | _ => cases hlists
    | true =>
      by_cases hrc : (sys.exchange p x type).1 = 0
      · exact (exchange_sound hlists hrc he.1.2 he.2 (Or.inr h)).2
      · rcases System.exchange_cases p sys he.1.2 hlists with
          ⟨-, hclient, hdb⟩ | ⟨sches, sents, -, hex⟩
        · rw [System.board, System.held, System.step, hclient, hdb he.1.1]
          exact h
        · rw [hex] at hrc
          exact absurd rfl hrc

end Run

/-- A device that starts with a completed `GET_ACTIVE_SCHES_MSG` (without one, `_start` gives up)
misses no schedule: after every completed exchange, each schedule of it that was active when the
receiver read the database is in its table. -/
theorem no_schedule_missed (p : Setup) (sys : System) (x₀ : Exchange) (es : List SystemEvent)
    (hstart : (sys.exchange p x₀ .getActiveSchesMsg).1 = 0)
    (hes : Along (System.step p) (fun sys e => e.Admitted p sys) sys
      (.exchange .getActiveSchesMsg x₀ :: es)) :
    ∀ pre type x post, .exchange .getActiveSchesMsg x₀ :: es = pre ++ .exchange type x :: post →
      type.listsSchedules → ((run (System.step p) sys pre).exchange p x type).1 = 0 →
        ∀ r ∈ (run (System.step p) sys pre).db.schedule.rows,
          (run (System.step p) sys pre).db.owns p.deviceId.toNat r → r.active = true →
            ∃ s ∈ ((run (System.step p) sys pre).exchange p x type).2.client.table,
              s.item = r.item := by
  intro pre type x post hsplit htype hrc r hr ho ha
  have hadm := (along_iff_split _).1 hes pre _ post hsplit
  suffices h : type = .getActiveSchesMsg ∨ ((run (System.step p) sys pre).board p).Sound from
    (exchange_sound htype hrc hadm.1.2 hadm.2 h).1 ⟨r, hr, ho, ha, rfl⟩
  cases pre with
  | nil =>
    simp only [List.nil_append, List.cons.injEq, SystemEvent.exchange.injEq] at hsplit
    exact Or.inl hsplit.1.1.symm
  | cons e pre =>
    -- The start makes the board sound, and the events since then have kept it so.
    rw [List.cons_append, List.cons.injEq] at hsplit
    obtain ⟨rfl, rfl⟩ := hsplit
    have hfirst := (exchange_sound rfl hstart hes.1.1.2 hes.1.2 (Or.inl rfl)).2
    refine Or.inr ?_
    rw [run_cons]
    exact ((along_append _ _).1 hes.2).1.run_invariant
      (I := fun sys : System => (sys.board p).Sound) (fun sys e h he => sound_step h he) hfirst

/-- Device 1 fetches one schedule at its start, and polls after another one was created. -/
theorem no_schedule_missed_two :
    ∃ s ∈ ((run (System.step ⟨.little, .big, 1⟩)
        ⟨Db.garden.afterWeb [.create 1 none 5 7 0], Device.start [1]⟩
        [.exchange .getActiveSchesMsg .calm, .web (.create 1 none 9 10 0)]).exchange
          ⟨.little, .big, 1⟩ .calm .checkNewSchedulesMsg).2.client.table,
      s.item = ⟨2, 1, 9, 10⟩ :=
  no_schedule_missed ⟨.little, .big, 1⟩
    ⟨Db.garden.afterWeb [.create 1 none 5 7 0], Device.start [1]⟩ .calm
    [.web (.create 1 none 9 10 0), .exchange .checkNewSchedulesMsg .calm] (by decide)
    ⟨⟨by decide, by decide⟩, trivial, ⟨by decide, by decide⟩, trivial⟩
    [.exchange .getActiveSchesMsg .calm, .web (.create 1 none 9 10 0)] .checkNewSchedulesMsg .calm
    [] rfl rfl (by decide) ⟨2, 1, none, 0, 9, 10, false, none, true, none⟩ (by decide) (by decide)
    rfl

end Bbd
