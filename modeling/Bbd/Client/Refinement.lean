import Bbd.Client.Interleaving

/-!
# The two threads as replacements and passes

When the table is replaced only while the scheduler is about to read the clock, the two threads do
nothing but replacements and whole passes: `Daemon.finish` maps a daemon in the middle of a pass to
the device at the end of that pass, every step but the reading of the clock leaves it alone, and the
reading of the clock is there the whole pass (`threads_refine_passes`).  So what is proved of runs
of replacements and passes holds of the device whenever the scheduler is about to read the clock.
-/

namespace Bbd.Client

open Runs

namespace Daemon

/-- The device once the loop has gone over the entries from the `k`-th on, at the minute `m`. -/
def loopFrom (m : UInt16) (k : ℕ) (c : Device) : Device where
  valvesMap := (smRunScheduler m c.valvesMap (c.sm.ss.drop k)).1
  sm := { c.sm with ss := c.sm.ss.take k ++ (smRunScheduler m c.valvesMap (c.sm.ss.drop k)).2 }

/-- The device once the iteration that the scheduler is in, and the rest of its loop, are done: the
blocks that are still to come act on the entry `e` as it is now. -/
def finishIteration (d : Daemon) (r : ValvesMap × ScheduleStatus) : Device :=
  loopFrom d.currMins (d.i.toNat + 1) (d.withEntry r d.loc).device

/-- The device at the end of the pass that the scheduler is in. -/
def finish (d : Daemon) : Device :=
  match d.loc, d.current with
  | .boundTest, _ => loopFrom d.currMins d.i.toNat d.device
  | .activateGuard, some e =>
    let a := activateSchedule d.currMins d.device.valvesMap e
    d.finishIteration (deactivateSchedule d.currMins a.1 a.2)
  | .activateBlock, some e =>
    d.finishIteration (deactivateSchedule d.currMins
      (vmSetValveState e.sche.valveId .opened d.device.valvesMap).2 { e with isActive := true })
  | .deactivateGuard, some e =>
    d.finishIteration (deactivateSchedule d.currMins d.device.valvesMap e)
  | .deactivateBlock, some e =>
    d.finishIteration
      ((vmSetValveState e.sche.valveId .closed d.device.valvesMap).2, { e with isActive := false })
  | .sleep, some _ => loopFrom d.currMins (d.i.toNat + 1) d.device
  | _, _ => d.device

/-- The scheduler is inside the table, which a 16-bit index can reach all of. -/
structure Inside (d : Daemon) : Prop where
  length_le : d.device.sm.ss.length ≤ 65535
  not_lost : d.loc ≠ .lost
  current : d.loc ≠ .readMinute → d.loc ≠ .boundTest → ∃ e, d.current = some e

/-- What a turn is for the device, seen at the ends of the passes: the reading of the clock is the
pass that it begins, and a replacement is a replacement. -/
def emit (d : Daemon) (t : Turn) : List Event :=
  match d.loc, t with
  | .readMinute, .scheduler minute => [.pass minute]
  | .readMinute, .setNewSchedules sches => [.setNewSchedules sches]
  | _, _ => []

/-- A replacement waits for the scheduler to be about to read the clock, and brings a table that a
16-bit index can reach all of. -/
def Waits (d : Daemon) : Turn → Prop
  | .scheduler _ => True
  | .setNewSchedules sches => d.loc = .readMinute ∧ sches.length ≤ 65535

/-! ## The loop -/

section Loop

variable {m : UInt16} {k : ℕ} {c : Device}

theorem loopFrom_zero : loopFrom m 0 c = c.pass m := by
  simp only [loopFrom, List.drop_zero, List.take_zero, List.nil_append]
  rfl

theorem loopFrom_of_length_le (h : c.sm.ss.length ≤ k) : loopFrom m k c = c := by
  simp only [loopFrom, List.drop_eq_nil_of_le h, List.take_of_length_le h, smRunScheduler,
    List.append_nil]

theorem loopFrom_of_lt (h : k < c.sm.ss.length) :
    loopFrom m k c =
      loopFrom m (k + 1)
        ⟨issue c.valvesMap c.sm.ss[k].sche.valveId (command m c.sm.ss[k]),
          { c.sm with ss := c.sm.ss.set k (refresh m c.sm.ss[k]) }⟩ := by
  have hdrop : (c.sm.ss.set k (refresh m c.sm.ss[k])).drop (k + 1) = c.sm.ss.drop (k + 1) :=
    List.drop_set_of_lt (Nat.lt_succ_self k)
  have htake : (c.sm.ss.set k (refresh m c.sm.ss[k])).take (k + 1) =
      c.sm.ss.take k ++ [refresh m c.sm.ss[k]] := by
    rw [List.take_succ_eq_append_getElem (by rwa [List.length_set]), List.getElem_set_self,
      List.take_set_of_le (Nat.le_refl k)]
  simp only [loopFrom, hdrop, htake, List.drop_eq_getElem_cons h, smRunScheduler_cons,
    List.append_assoc, List.singleton_append]

end Loop

/-! ## Steps -/

variable {d : Daemon} {e : ScheduleStatus}

theorem emit_of_ne (hloc : d.loc ≠ .readMinute) (t : Turn) : d.emit t = [] := by
  unfold emit
  split
  · exact absurd ‹_› hloc
  · exact absurd ‹_› hloc
  · rfl

theorem finishIteration_withEntry (r r' : ValvesMap × ScheduleStatus) (loc : Location) :
    (d.withEntry r loc).finishIteration r' = d.finishIteration r' := by
  unfold finishIteration
  rw [withEntry_withEntry]
  rfl

theorem finish_boundTest (h : d.Inside) (hloc : d.loc = .boundTest) (minute : UInt16) :
    (d.advance minute).finish = d.finish ∧ (d.advance minute).Inside := by
  obtain ⟨c, loc, m, i⟩ := d
  cases hloc
  by_cases hi : i.toNat < c.sm.ss.length
  · have he : (⟨c, .activateGuard, m, i⟩ : Daemon).current = some c.sm.ss[i.toNat] :=
      List.getElem?_eq_getElem hi
    simp only [advance, if_pos hi]
    refine ⟨?_, h.length_le, by simp, fun _ _ => ⟨_, he⟩⟩
    simp only [finish, he]
    rw [loopFrom_of_lt hi, iteration_eq]
    rfl
  · simp only [advance, if_neg hi]
    refine ⟨?_, h.length_le, by simp, fun hne => absurd rfl hne⟩
    exact (loopFrom_of_length_le (Nat.not_lt.1 hi)).symm

theorem finish_guards (h : d.Inside) (hloc : d.loc = .activateGuard ∨ d.loc = .deactivateGuard)
    (minute : UInt16) : (d.advance minute).finish = d.finish ∧ (d.advance minute).Inside := by
  obtain ⟨c, loc, m, i⟩ := d
  obtain ⟨e, he⟩ := h.current (by rcases hloc with rfl | rfl <;> simp)
    (by rcases hloc with rfl | rfl <;> simp)
  have he' (loc' : Location) : (⟨c, loc', m, i⟩ : Daemon).current = some e := he
  rcases hloc with hloc | hloc <;> cases hloc
  · simp only [advance, he]
    split_ifs with hg
    · have hact : activateSchedule m c.valvesMap e =
          ((vmSetValveState e.sche.valveId .opened c.valvesMap).2, { e with isActive := true }) :=
        (activateSchedule_eq_ite m c.valvesMap e).trans (if_pos hg)
      refine ⟨?_, h.length_le, by simp, fun _ _ => ⟨e, he' _⟩⟩
      simp only [finish, he', hact]
      rfl
    · have hact : activateSchedule m c.valvesMap e = (c.valvesMap, e) :=
        (activateSchedule_eq_ite m c.valvesMap e).trans (if_neg hg)
      refine ⟨?_, h.length_le, by simp, fun _ _ => ⟨e, he' _⟩⟩
      simp only [finish, he', hact]
      rfl
  · simp only [advance, he]
    split_ifs with hg
    · have hdeact : deactivateSchedule m c.valvesMap e =
          ((vmSetValveState e.sche.valveId .closed c.valvesMap).2, { e with isActive := false }) :=
        (deactivateSchedule_eq_ite m c.valvesMap e).trans (if_pos hg)
      refine ⟨?_, h.length_le, by simp, fun _ _ => ⟨e, he' _⟩⟩
      simp only [finish, he', hdeact]
      rfl
    · have hdeact : deactivateSchedule m c.valvesMap e = (c.valvesMap, e) :=
        (deactivateSchedule_eq_ite m c.valvesMap e).trans (if_neg hg)
      refine ⟨?_, h.length_le, by simp, fun _ _ => ⟨e, he' _⟩⟩
      simp only [finish, he', hdeact, finishIteration]
      exact congrArg (fun d' : Daemon => loopFrom m (i.toNat + 1) d'.device)
        (withEntry_self he .deactivateGuard).symm

theorem finish_blocks (h : d.Inside) (hloc : d.loc = .activateBlock ∨ d.loc = .deactivateBlock)
    (minute : UInt16) : (d.advance minute).finish = d.finish ∧ (d.advance minute).Inside := by
  obtain ⟨c, loc, m, i⟩ := d
  obtain ⟨e, he⟩ := h.current (by rcases hloc with rfl | rfl <;> simp)
    (by rcases hloc with rfl | rfl <;> simp)
  have hlen (e' : ScheduleStatus) : (c.sm.ss.set i.toNat e').length ≤ 65535 := by
    rw [List.length_set]
    exact h.length_le
  rcases hloc with hloc | hloc <;> cases hloc
  · have hstep : (⟨c, .activateBlock, m, i⟩ : Daemon).advance minute =
        (⟨c, .activateBlock, m, i⟩ : Daemon).withEntry
          ((vmSetValveState e.sche.valveId .opened c.valvesMap).2, { e with isActive := true })
          .deactivateGuard := by
      simp only [advance, he]
      rfl
    have hcurrent := current_withEntry he
      ((vmSetValveState e.sche.valveId .opened c.valvesMap).2, { e with isActive := true })
      .deactivateGuard
    rw [hstep]
    refine ⟨?_, hlen _, by simp [withEntry], fun _ _ => ⟨_, hcurrent⟩⟩
    have hloc' : ((⟨c, .activateBlock, m, i⟩ : Daemon).withEntry
        ((vmSetValveState e.sche.valveId .opened c.valvesMap).2, { e with isActive := true })
        .deactivateGuard).loc = .deactivateGuard := rfl
    rw [finish, hloc', hcurrent]
    simp only [finish, he, finishIteration_withEntry]
    rfl
  · have hstep : (⟨c, .deactivateBlock, m, i⟩ : Daemon).advance minute =
        (⟨c, .deactivateBlock, m, i⟩ : Daemon).withEntry
          ((vmSetValveState e.sche.valveId .closed c.valvesMap).2, { e with isActive := false })
          .sleep := by
      simp only [advance, he]
      rfl
    have hcurrent := current_withEntry he
      ((vmSetValveState e.sche.valveId .closed c.valvesMap).2, { e with isActive := false }) .sleep
    rw [hstep]
    refine ⟨?_, hlen _, by simp [withEntry], fun _ _ => ⟨_, hcurrent⟩⟩
    simp only [finish, he]
    rw [show ((⟨c, .deactivateBlock, m, i⟩ : Daemon).withEntry
        ((vmSetValveState e.sche.valveId .closed c.valvesMap).2, { e with isActive := false })
        .sleep).current = _ from hcurrent]
    rfl

/-- The end of an iteration: the index goes up by one, and does not wrap. -/
theorem finish_sleep (h : d.Inside) (hloc : d.loc = .sleep) (minute : UInt16) :
    (d.advance minute).finish = d.finish ∧ (d.advance minute).Inside := by
  obtain ⟨c, loc, m, i⟩ := d
  cases hloc
  obtain ⟨e, he⟩ := h.current (by simp) (by simp)
  have hlt := lt_of_current he
  have hnext : (i + 1).toNat = i.toNat + 1 := by
    have := h.length_le
    rw [UInt16.toNat_add]
    exact Nat.mod_eq_of_lt (Nat.lt_of_le_of_lt hlt (by omega))
  refine ⟨?_, h.length_le, by simp [advance], fun _ hne => absurd rfl hne⟩
  simp only [advance, finish, he, hnext]

/-- The scheduler alone: every step leaves the end of the pass alone, but the reading of the clock,
which begins the next one. -/
theorem finish_advance (h : d.Inside) (minute : UInt16) :
    (d.advance minute).finish = run Device.step d.finish (d.emit (.scheduler minute)) ∧
      (d.advance minute).Inside := by
  cases hloc : d.loc with
  | readMinute =>
    obtain ⟨c, loc, m, i⟩ := d
    cases hloc
    refine ⟨?_, h.length_le, by simp [advance], fun _ hne => absurd rfl hne⟩
    exact loopFrom_zero
  | boundTest =>
    rw [emit_of_ne (by rw [hloc]; decide)]
    exact finish_boundTest h hloc minute
  | activateGuard =>
    rw [emit_of_ne (by rw [hloc]; decide)]
    exact finish_guards h (Or.inl hloc) minute
  | activateBlock =>
    rw [emit_of_ne (by rw [hloc]; decide)]
    exact finish_blocks h (Or.inl hloc) minute
  | deactivateGuard =>
    rw [emit_of_ne (by rw [hloc]; decide)]
    exact finish_guards h (Or.inr hloc) minute
  | deactivateBlock =>
    rw [emit_of_ne (by rw [hloc]; decide)]
    exact finish_blocks h (Or.inr hloc) minute
  | sleep =>
    rw [emit_of_ne (by rw [hloc]; decide)]
    exact finish_sleep h hloc minute
  | lost => exact absurd hloc h.not_lost

theorem finish_step (h : d.Inside) {t : Turn} (ht : d.Waits t) :
    (d.step t).finish = run Device.step d.finish (d.emit t) ∧ (d.step t).Inside := by
  cases t with
  | scheduler minute => exact finish_advance h minute
  | setNewSchedules sches =>
    obtain ⟨hloc, hlen⟩ := ht
    obtain ⟨c, loc, m, i⟩ := d
    cases hloc
    refine ⟨rfl, ?_, by simp [step], fun hne => absurd rfl hne⟩
    show (sches.map _).length ≤ 65535
    rwa [List.length_map]

end Daemon

/-- When replacements wait for the scheduler to be about to read the clock, the two threads do
replacements and whole passes: at every point of every run, the device as the pass under way will
leave it is the device that the replacements and the readings of the clock so far lead to, each
reading being a pass; and between two passes that is the device itself. -/
theorem threads_refine_passes (device : Device) (hlen : device.sm.ss.length ≤ 65535)
    (turns : List Turn) (hturns : Along Daemon.step Daemon.Waits (.start device) turns) :
    (run Daemon.step (.start device) turns).finish =
        run Device.step device (emitted Daemon.step Daemon.emit (.start device) turns) ∧
      ((run Daemon.step (.start device) turns).loc = .readMinute →
        (run Daemon.step (.start device) turns).device =
          run Device.step device (emitted Daemon.step Daemon.emit (.start device) turns)) := by
  have hinside : (Daemon.start device).Inside :=
    ⟨hlen, by simp [Daemon.start], fun hne => absurd rfl hne⟩
  have hfinish := hturns.view_run Daemon.finish Daemon.emit
    (fun d t h ht => Daemon.finish_step h ht) hinside
  refine ⟨hfinish, fun hloc => ?_⟩
  rw [Daemon.finish, hloc] at hfinish
  exact hfinish

/-- A table with one schedule; the scheduler reads minute 6 and stops in front of its locked block.
-/
theorem threads_refine_passes_one :
    (run Daemon.step (.start (Device.start [1])) [.setNewSchedules [⟨1, 1, 5, 7⟩], .scheduler 6,
        .scheduler 6, .scheduler 6]).finish =
      run Device.step (Device.start [1]) [.setNewSchedules [⟨1, 1, 5, 7⟩], .pass 6] :=
  (threads_refine_passes (Device.start [1]) (by decide) [.setNewSchedules [⟨1, 1, 5, 7⟩],
    .scheduler 6, .scheduler 6, .scheduler 6] ⟨⟨rfl, by decide⟩, trivial, trivial, trivial,
      trivial⟩).1

end Bbd.Client
