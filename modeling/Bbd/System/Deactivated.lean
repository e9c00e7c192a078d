import Bbd.Server.Polling
import Bbd.System.Delivery

/-!
# Deactivated schedules on the device

A deactivation alone does not change the answer to `CHECK_NEW_SCHEDULES_MSG`: the receiver sends the
list only when some active schedule is unsent, and the device takes an empty answer for "no change".
So the table of the device is, after each completed exchange, the list that was active when the last
exchange that brought a list was served (`deactivation_comes_with_next_list`), and it keeps a
schedule that was deactivated since (`not_checksLeaveLive`).
-/

namespace Bbd

open Server Client Runs

/-- Right after each completed `cc_check_new_schedules` of the run, every schedule in the table of
the device is one that was active when the receiver read the database. -/
def ChecksLeaveLive (p : Setup) (sys : System) (es : List SystemEvent) : Prop :=
  ∀ pre x post, es = pre ++ .exchange .checkNewSchedulesMsg x :: post →
    ((run (System.step p) sys pre).exchange p x .checkNewSchedulesMsg).1 = 0 →
      ((run (System.step p) sys pre).exchange p x .checkNewSchedulesMsg).2.held ⊆
        (run (System.step p) sys pre).db.live p.deviceId.toNat

/-- The event is a completed exchange whose answer is a list: there is an active schedule, and for a
`CHECK_NEW_SCHEDULES_MSG` an unsent one. -/
def SystemEvent.BringsList (p : Setup) (sys : System) : SystemEvent → Prop
  | .exchange type x =>
    type.listsSchedules ∧ (sys.exchange p x type).1 = 0 ∧
      ∃ r ∈ sys.db.schedule.rows, sys.db.owns p.deviceId.toNat r ∧ r.active = true ∧
        (type = .checkNewSchedulesMsg → r.sent = false)
  | _ => False

section Exchange

variable {p : Setup} {sys : System} {e : SystemEvent}

theorem client_of_bringsList {type : RequestType} {x : Exchange}
    (he : (SystemEvent.exchange type x).Admitted p sys)
    (h : (SystemEvent.exchange type x).BringsList p sys) :
    ∃ sches, (sys.exchange p x type).2.client = sys.client.setNewSchedules sches ∧
      sys.db.live p.deviceId.toNat = { i | ∃ s ∈ sches, s.item = i } := by
  obtain ⟨htype, hrc, r, hr, ho, ha, hsent⟩ := h
  obtain ⟨sches, sents, hfetch, hex⟩ := exchange_of_completes htype hrc he.1.2 he.2
  have hlive := live_eq_of_fetch hfetch
  have hmem : r.item ∈ sys.db.live p.deviceId.toNat := ⟨r, hr, ho, ha, rfl⟩
  have hans : type.answer sches sents = sches := by
    rcases answer_cases htype hfetch with hans | ⟨hcheck, -, hall⟩
    · exact hans
    · obtain ⟨r', hr', -, hsent', hitem⟩ := hall hmem
      rw [sys.db.schedule.eq_of_key_eq hr' hr (congrArg Item.scheduleID hitem),
        hsent hcheck] at hsent'
      cases hsent'
  have hne : sches ≠ [] := by
    rintro rfl
    rw [hlive] at hmem
    obtain ⟨s, hs, -⟩ := hmem
    cases hs
  refine ⟨sches, ?_, hlive⟩
  rw [hex, hans]
  exact if_neg hne

theorem held_of_bringsList (he : e.Admitted p sys) (h : e.BringsList p sys) :
    (sys.step p e).held = sys.db.live p.deviceId.toNat := by
  cases e with
  | exchange type x =>
    obtain ⟨sches, hclient, hlive⟩ := client_of_bringsList he h
    rw [System.step, System.held, hclient, Device.table_setNewSchedules, hlive]
  | _ => exact h.elim

/-- An answer that is a list comes from an active schedule, and for a `CHECK_NEW_SCHEDULES_MSG` from
an unsent one. -/
theorem exists_row_of_answer {x : Exchange} {type : RequestType} {sches : List Schedule}
    {sents : List Bool} (hfetch : x.env.fetch p.deviceId sys.db = some (sches, sents))
    (hne : type.answer sches sents ≠ []) :
    ∃ r ∈ sys.db.schedule.rows, sys.db.owns p.deviceId.toNat r ∧ r.active = true ∧
      (type = .checkNewSchedulesMsg → r.sent = false) := by
  by_cases hcheck : type = .checkNewSchedulesMsg
  · subst hcheck
    rw [ne_eq, answer_check_eq_nil_iff hfetch] at hne
    push Not at hne
    obtain ⟨s, hs, hu⟩ := hne
    obtain ⟨r, hr, ho, ha, hitem⟩ := exists_row_of_fetch hfetch hs
    exact ⟨r, hr, ho, ha, fun _ => by simpa [unsent_eq_of_item hr hitem] using hu⟩
  · have hsches : sches ≠ [] := by
      cases type with
      | checkNewSchedulesMsg => exact absurd rfl hcheck
      | _ => exact hne
    obtain ⟨s, hs⟩ := List.exists_mem_of_ne_nil _ hsches
    obtain ⟨r, hr, ho, ha, -⟩ := exists_row_of_fetch hfetch hs
    exact ⟨r, hr, ho, ha, fun h => absurd h hcheck⟩

theorem table_of_not_bringsList (he : e.Admitted p sys) (h : ¬ e.BringsList p sys) :
    (sys.step p e).client.table = sys.client.table := by
  cases e with
  | web call => rfl
  | other deviceId type env => rfl
  | pass m => exact Device.table_pass
  | exchange type x =>
    cases hlists : type.listsSchedules with
    | false =>
      cases type with
      | getDeviceValvesMsg => exact System.table_exchange_getDeviceValves
      | _ => cases hlists
    | true =>
      by_cases hrc : (sys.exchange p x type).1 = 0
      · obtain ⟨sches, sents, hfetch, hex⟩ := exchange_of_completes hlists hrc he.1.2 he.2
        have hans : type.answer sches sents = [] := by
          by_contra hne
          obtain ⟨r, hr, ho, ha, hsent⟩ := exists_row_of_answer hfetch hne
          exact h ⟨hlists, hrc, r, hr, ho, ha, hsent⟩
        rw [System.step, hex, if_pos hans]
      · rcases System.exchange_cases p sys he.1.2 hlists with
          ⟨-, hclient, -⟩ | ⟨sches, sents, -, hex⟩
        · rw [System.step, hclient]
        · rw [hex] at hrc
          exact absurd rfl hrc

end Exchange

/-! ## Runs -/

section Run

variable {p : Setup} {sys : System}

/-- The table after a run: as it was at the start, or the schedules that were active when the last
exchange that brought a list was served. -/
theorem held_run {es : List SystemEvent}
    (hes : Along (System.step p) (fun sys e => e.Admitted p sys) sys es) :
    (run (System.step p) sys es).held = sys.held ∨
      ∃ pre e mid, es = pre ++ e :: mid ∧ e.BringsList p (run (System.step p) sys pre) ∧
        Along (System.step p) (fun sys e => ¬ e.BringsList p sys)
          (run (System.step p) sys (pre ++ [e])) mid ∧
        (run (System.step p) sys es).held =
          (run (System.step p) sys pre).db.live p.deviceId.toNat := by
  induction es using List.reverseRecOn with
  | nil => exact Or.inl rfl
  | append_singleton es e ih =>
    obtain ⟨hes, he, -⟩ := (along_append _ _).1 hes
    rw [run_append, run_cons, run_nil]
    by_cases hb : e.BringsList p (run (System.step p) sys es)
    · exact Or.inr ⟨es, e, [], rfl, hb, trivial, held_of_bringsList he hb⟩
    · have hheld : ((run (System.step p) sys es).step p e).held =
          (run (System.step p) sys es).held := by
        rw [System.held, table_of_not_bringsList he hb, System.held]
      rw [hheld]
      rcases ih hes with hstart | ⟨pre, e₁, mid, rfl, hb₁, hmid, hheld₁⟩
      · exact Or.inl hstart
      · refine Or.inr ⟨pre, e₁, mid ++ [e], by simp, hb₁, ?_, hheld₁⟩
        rw [along_append, ← run_append, List.append_assoc, List.singleton_append]
        exact ⟨hmid, hb, trivial⟩

end Run

/-- After each completed `cc_check_new_schedules` at which some active schedule was unsent, the
schedules in the table of the device are those that were active when the receiver read the database.
After any other the table is what it was: as at the start, or the schedules that were active when
the last exchange that brought a list was served. -/
theorem deactivation_comes_with_next_list (p : Setup) (sys : System) (es : List SystemEvent)
    (hes : Along (System.step p) (fun sys e => e.Admitted p sys) sys es) :
    ∀ pre x post, es = pre ++ .exchange .checkNewSchedulesMsg x :: post →
      ((run (System.step p) sys pre).exchange p x .checkNewSchedulesMsg).1 = 0 →
        ((∃ r ∈ (run (System.step p) sys pre).db.schedule.rows,
            (run (System.step p) sys pre).db.owns p.deviceId.toNat r ∧ r.active = true ∧
              r.sent = false) →
          ((run (System.step p) sys pre).exchange p x .checkNewSchedulesMsg).2.held =
            (run (System.step p) sys pre).db.live p.deviceId.toNat) ∧
        ((∀ r ∈ (run (System.step p) sys pre).db.schedule.rows,
            (run (System.step p) sys pre).db.owns p.deviceId.toNat r → r.active = true →
              r.sent = true) →
          ((run (System.step p) sys pre).exchange p x .checkNewSchedulesMsg).2.client.table =
              (run (System.step p) sys pre).client.table ∧
            (((run (System.step p) sys pre).exchange p x .checkNewSchedulesMsg).2.held = sys.held ∨
              ∃ pre' e mid, pre = pre' ++ e :: mid ∧ e.BringsList p (run (System.step p) sys pre') ∧
                Along (System.step p) (fun sys e => ¬ e.BringsList p sys)
                  (run (System.step p) sys (pre' ++ [e])) mid ∧
                ((run (System.step p) sys pre).exchange p x .checkNewSchedulesMsg).2.held =
                  (run (System.step p) sys pre').db.live p.deviceId.toNat)) := by
  rintro pre x post rfl hrc
  obtain ⟨hpre, hadm, -⟩ := (along_append _ _).1 hes
  constructor
  · rintro ⟨r, hr, ho, ha, hsent⟩
    exact held_of_bringsList hadm ⟨rfl, hrc, r, hr, ho, ha, fun _ => hsent⟩
  · intro hall
    have hb : ¬ SystemEvent.BringsList p (run (System.step p) sys pre)
        (.exchange .checkNewSchedulesMsg x) := by
      rintro ⟨-, -, r, hr, ho, ha, hsent⟩
      rw [hall r hr ho ha] at hsent
      exact absurd (hsent rfl) (by decide)
    have htable := table_of_not_bringsList hadm hb
    have hheld : ((run (System.step p) sys pre).exchange p x .checkNewSchedulesMsg).2.held =
        (run (System.step p) sys pre).held := by
      rw [System.held, System.held]
      exact congrArg (fun t => { i | ∃ s ∈ t, Schedule.item s = i }) htable
    rw [hheld]
    exact ⟨htable, held_run hpre⟩

/-- A schedule is deactivated and another one created: the next poll brings the new table. -/
theorem deactivation_comes_with_next_list_two :
    ((run (System.step ⟨.little, .big, 1⟩) ⟨Db.garden, Device.start [1]⟩
        [.web (.create 1 none 5 7 0), .exchange .getActiveSchesMsg .calm, .web (.deactivate 1),
          .web (.create 1 none 9 10 0)]).exchange ⟨.little, .big, 1⟩ .calm
            .checkNewSchedulesMsg).2.held =
      (run (System.step ⟨.little, .big, 1⟩) ⟨Db.garden, Device.start [1]⟩
        [.web (.create 1 none 5 7 0), .exchange .getActiveSchesMsg .calm, .web (.deactivate 1),
          .web (.create 1 none 9 10 0)]).db.live 1 :=
  (deactivation_comes_with_next_list ⟨.little, .big, 1⟩ ⟨Db.garden, Device.start [1]⟩
    [.web (.create 1 none 5 7 0), .exchange .getActiveSchesMsg .calm, .web (.deactivate 1),
      .web (.create 1 none 9 10 0), .exchange .checkNewSchedulesMsg .calm]
    ⟨trivial, ⟨by decide, by decide⟩, trivial, trivial, ⟨by decide, by decide⟩, trivial⟩
    [.web (.create 1 none 5 7 0), .exchange .getActiveSchesMsg .calm, .web (.deactivate 1),
      .web (.create 1 none 9 10 0)] .calm [] rfl (by decide)).1
    ⟨⟨2, 1, none, 0, 9, 10, false, none, true, none⟩, by decide, by decide, rfl, rfl⟩

/-- A device fetches its schedule, the schedule is deactivated, and the device polls: the answer is
the empty one, and the schedule stays in the table. -/
theorem not_checksLeaveLive :
    ¬ ∀ p sys es, Along (System.step p) (fun sys e => SystemEvent.Admitted p sys e) sys es →
      ChecksLeaveLive p sys es := by
  intro h
  have hlive := h ⟨.little, .little, 1⟩ ⟨Db.garden, Device.start [1]⟩
    [.web (.create 1 none 5 7 0), .exchange .getActiveSchesMsg .calm, .web (.deactivate 1),
      .exchange .checkNewSchedulesMsg .calm]
    ⟨trivial, ⟨by decide, by decide⟩, trivial, ⟨by decide, by decide⟩, trivial⟩
    [.web (.create 1 none 5 7 0), .exchange .getActiveSchesMsg .calm, .web (.deactivate 1)] .calm []
    rfl (by decide)
  have hmem : (⟨1, 1, 5, 7⟩ : Item) ∈ _ := hlive ⟨⟨1, 1, 5, 7⟩, by decide, rfl⟩
  obtain ⟨r, hr, -, ha, -⟩ := hmem
  revert r
  decide

end Bbd
