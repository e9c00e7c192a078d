import Bbd.Client.Watering

/-!
# The scheduler thread and the thread that replaces the table

`_sm_run_scheduler_thread` evaluates its loop bound and its two guards without the mutex and takes
the mutex only for what the guards decided; `sm_set_new_schedules` may replace the table at any
point in between.  Here the scheduler makes one step for each reading of the clock, bound test,
guard and locked block (`Daemon.advance`), and a replacement is one step.

* Left alone, the steps from one reading of the clock to the next are a pass
  (`Daemon.advances_pass`), the step of the coarser model.
* In every reachable state the scheduler's next access is right (`Daemon.Safe`), exactly when no
  replacement of the run takes away what the scheduler has checked (`safe_iff_admitted`).
-/

namespace Bbd.Client

open Runs

/-- What the scheduler thread does next. -/
inductive Location where
  | readMinute
  | boundTest
  | activateGuard
  | activateBlock
  | deactivateGuard
  | deactivateBlock
  | sleep
  /-- The thread has accessed `_ss` beyond its table; nothing is known of what it does. -/
  | lost
  deriving DecidableEq, Repr

/-- The device and the scheduler thread: its place in the loop, `curr_mins` and `i`. -/
structure Daemon where
  device : Device
  loc : Location
  currMins : UInt16
  i : UInt16
  deriving DecidableEq, Repr

/-- A turn of the scheduler thread, with what the clock shows, or a call of
`sm_set_new_schedules`. -/
inductive Turn where
  | scheduler (minute : UInt16)
  | setNewSchedules (sches : List Schedule)
  deriving DecidableEq, Repr

namespace Daemon

/-- The thread as `sm_start_scheduler` creates it. -/
def start (device : Device) : Daemon := ⟨device, .readMinute, 0, 0⟩

/-- `_ss[i]`, where the table reaches that far. -/
def current (d : Daemon) : Option ScheduleStatus := d.device.sm.ss[d.i.toNat]?

/-- The locked block of an iteration: a call of `vm_set_valve_state` and the new flag. -/
def lockedBlock (d : Daemon) (e : ScheduleStatus) (st : ValveState) (isActive : Bool) : Device where
  valvesMap := (vmSetValveState e.sche.valveId st d.device.valvesMap).2
  sm := { d.device.sm with ss := d.device.sm.ss.set d.i.toNat { e with isActive := isActive } }

/-- One step of `_sm_run_scheduler_thread`. -/
def advance (d : Daemon) (minute : UInt16) : Daemon :=
  match d.loc with
  | .readMinute => { d with loc := .boundTest, currMins := minute, i := 0 }
  | .boundTest =>
    if d.i.toNat < d.device.sm.ss.length then { d with loc := .activateGuard }
    else { d with loc := .readMinute }
  | .activateGuard =>
    match d.current with
    | none => { d with loc := .lost }
    | some e =>
      if Client.activateGuard d.currMins e then { d with loc := .activateBlock }
      else { d with loc := .deactivateGuard }
  | .activateBlock =>
    match d.current with
    | none => { d with loc := .lost }
    | some e => { d with device := d.lockedBlock e .opened true, loc := .deactivateGuard }
  | .deactivateGuard =>
    match d.current with
    | none => { d with loc := .lost }
    | some e =>
      if Client.deactivateGuard d.currMins e then { d with loc := .deactivateBlock }
      else { d with loc := .sleep }
  | .deactivateBlock =>
    match d.current with
    | none => { d with loc := .lost }
    | some e => { d with device := d.lockedBlock e .closed false, loc := .sleep }
  | .sleep => { d with loc := .boundTest, i := d.i + 1 }
  | .lost => d

def step (d : Daemon) : Turn → Daemon
  | .scheduler minute => d.advance minute
  | .setNewSchedules sches => { d with device := d.device.setNewSchedules sches }

/-- What the scheduler's next step does to `_ss[i]` is right: `i` is below the length of the
installed table, the activation block opens the valve of an entry that covers `curr_mins`, and the
deactivation block acts on an active entry. -/
def SafeAt (d : Daemon) : Location → Prop
  | .readMinute | .boundTest | .sleep => True
  | .activateGuard | .deactivateGuard => d.i.toNat < d.device.sm.ss.length
  | .activateBlock => ∃ e ∈ d.current, e.sche.covers d.currMins
  | .deactivateBlock => ∃ e ∈ d.current, e.isActive
  | .lost => False

instance (d : Daemon) : (loc : Location) → Decidable (d.SafeAt loc)
  | .readMinute | .boundTest | .sleep => inferInstanceAs (Decidable True)
  | .activateGuard | .deactivateGuard => inferInstanceAs (Decidable (_ < _))
  | .activateBlock => inferInstanceAs (Decidable (∃ e ∈ d.current, e.sche.covers d.currMins))
  | .deactivateBlock => inferInstanceAs (Decidable (∃ e ∈ d.current, _))
  | .lost => inferInstanceAs (Decidable False)

def Safe (d : Daemon) : Prop := d.SafeAt d.loc

instance (d : Daemon) : Decidable d.Safe := inferInstanceAs (Decidable (d.SafeAt _))

/-- A replacement leaves what the scheduler has checked: past the bound test the new list has the
index, past the activation guard its schedule there covers `curr_mins` too, and past the
deactivation guard there is none. -/
def Admitted (d : Daemon) : Turn → Prop
  | .scheduler _ => True
  | .setNewSchedules sches =>
    match d.loc with
    | .readMinute | .boundTest | .sleep => True
    | .activateGuard | .deactivateGuard => d.i.toNat < sches.length
    | .activateBlock => ∃ s ∈ sches[d.i.toNat]?, s.covers d.currMins
    | .deactivateBlock | .lost => False

variable {d : Daemon} {e : ScheduleStatus}

theorem exists_current (h : d.i.toNat < d.device.sm.ss.length) : ∃ e, d.current = some e :=
  ⟨_, List.getElem?_eq_getElem h⟩

theorem lt_of_current (h : d.current = some e) : d.i.toNat < d.device.sm.ss.length :=
  (List.getElem?_eq_some_iff.1 h).1

theorem current_replaced (sches : List Schedule) :
    (d.step (.setNewSchedules sches)).current = (sches[d.i.toNat]?).map fun s => ⟨s, false⟩ :=
  List.getElem?_map

/-! ## Safety -/

/-- The scheduler's own steps are right: what it has checked stays true until it acts. -/
theorem Safe.advance (h : d.Safe) (minute : UInt16) : (d.advance minute).Safe := by
  obtain ⟨dev, loc, m, i⟩ := d
  cases loc with
  | readMinute => trivial
  | boundTest =>
    unfold Daemon.advance
    split_ifs with hi
    · exact hi
    · trivial
  | activateGuard =>
    obtain ⟨e, he⟩ := exists_current h
    simp only [Daemon.advance, he]
    split_ifs with hg
    · exact ⟨e, he, ((activateGuard_iff m e).1 hg).2⟩
    · exact h
  | activateBlock =>
    obtain ⟨e, he, -⟩ := h
    rw [Option.mem_def] at he
    simp only [Daemon.advance, he]
    show i.toNat < (dev.sm.ss.set i.toNat _).length
    rw [List.length_set]
    exact lt_of_current he
  | deactivateGuard =>
    obtain ⟨e, he⟩ := exists_current h
    simp only [Daemon.advance, he]
    split_ifs with hg
    · exact ⟨e, he, ((deactivateGuard_iff m e).1 hg).1⟩
    · trivial
  | deactivateBlock =>
    obtain ⟨e, he, -⟩ := h
    rw [Option.mem_def] at he
    simp only [Daemon.advance, he]
    trivial
  | sleep => trivial
  | lost => exact h.elim

theorem Safe.replaced_iff (h : d.Safe) (sches : List Schedule) :
    (d.step (.setNewSchedules sches)).Safe ↔ d.Admitted (.setNewSchedules sches) := by
  obtain ⟨dev, loc, m, i⟩ := d
  cases loc with
  | readMinute | boundTest | sleep => exact Iff.rfl
  | activateGuard | deactivateGuard =>
    show i.toNat < (sches.map _).length ↔ i.toNat < sches.length
    rw [List.length_map]
  | activateBlock =>
    show (∃ e ∈ (step ⟨dev, _, m, i⟩ (.setNewSchedules sches)).current, e.sche.covers m) ↔ _
    rw [current_replaced]
    simp [Admitted]
  | deactivateBlock =>
    show (∃ e ∈ (step ⟨dev, _, m, i⟩ (.setNewSchedules sches)).current, e.isActive) ↔ _
    rw [current_replaced]
    simp [Admitted]
  | lost => exact h.elim

theorem Safe.step_iff (h : d.Safe) (t : Turn) : (d.step t).Safe ↔ d.Admitted t := by
  cases t with
  | scheduler minute => exact iff_of_true (h.advance minute) trivial
  | setNewSchedules sches => exact h.replaced_iff sches

/-! ## A pass without replacement -/

/-- The scheduler, left alone, comes from `d` to `d'`. -/
def Advances (m : UInt16) (d d' : Daemon) : Prop :=
  ∃ n, run step d (List.replicate n (.scheduler m)) = d'

theorem Advances.refl (m : UInt16) (d : Daemon) : Advances m d d := ⟨0, rfl⟩

theorem Advances.trans {m : UInt16} {d₁ d₂ d₃ : Daemon} (h₁ : Advances m d₁ d₂)
    (h₂ : Advances m d₂ d₃) : Advances m d₁ d₃ := by
  obtain ⟨n₁, rfl⟩ := h₁
  obtain ⟨n₂, rfl⟩ := h₂
  exact ⟨n₁ + n₂, by rw [← List.replicate_append_replicate, run_append]⟩

theorem Advances.head {m : UInt16} {d d' : Daemon} (h : Advances m (d.advance m) d') :
    Advances m d d' := by
  obtain ⟨n, rfl⟩ := h
  exact ⟨n + 1, rfl⟩

/-- The daemon with the valve map `r.1` and, in place of `_ss[i]`, the entry `r.2`. -/
def withEntry (d : Daemon) (r : ValvesMap × ScheduleStatus) (loc : Location) : Daemon :=
  { d with
    device := ⟨r.1, { d.device.sm with ss := d.device.sm.ss.set d.i.toNat r.2 }⟩
    loc := loc }

theorem withEntry_self (he : d.current = some e) (loc : Location) :
    d.withEntry (d.device.valvesMap, e) loc = { d with loc := loc } := by
  have hlt := lt_of_current he
  have hget : d.device.sm.ss[d.i.toNat] = e := (List.getElem?_eq_some_iff.1 he).2
  unfold withEntry
  rw [← hget, List.set_getElem_self]

theorem current_withEntry (he : d.current = some e) (r : ValvesMap × ScheduleStatus)
    (loc : Location) : (d.withEntry r loc).current = some r.2 :=
  List.getElem?_set_self (lt_of_current he)

theorem withEntry_withEntry (r r' : ValvesMap × ScheduleStatus) (loc loc' : Location) :
    (d.withEntry r loc).withEntry r' loc' = d.withEntry r' loc' := by
  unfold withEntry
  simp only [List.set_set]

/-- A guard and its locked block: where the guard is true the block finds the entry that the guard
has seen, where it is not the entry stays as it is. -/
theorem Advances.guarded {m : UInt16} {g : Prop} [Decidable g] (block : Location) {next : Location}
    {r : ValvesMap × ScheduleStatus} (he : d.current = some e)
    (hguard : d.advance m = { d with loc := if g then block else next })
    (hblock : ({ d with loc := block } : Daemon).advance m = d.withEntry r next) :
    Advances m d (d.withEntry (if g then r else (d.device.valvesMap, e)) next) := by
  refine Advances.head ?_
  rw [hguard]
  split_ifs with hg
  · refine Advances.head ?_
    rw [hblock]
    exact Advances.refl _ _
  · rw [withEntry_self he]
    exact Advances.refl _ _

theorem advances_activate (m : UInt16) (hloc : d.loc = .activateGuard) (he : d.current = some e) :
    Advances m d (d.withEntry (activateSchedule d.currMins d.device.valvesMap e)
      .deactivateGuard) := by
  have hcurrent : ({ d with loc := .activateBlock } : Daemon).current = some e := he
  rw [activateSchedule_eq_ite]
  refine Advances.guarded (g := Client.activateGuard d.currMins e) .activateBlock he ?_ ?_
  · simp only [advance, hloc, he]
    split_ifs <;> rfl
  · simp only [advance, hcurrent]
    rfl

theorem advances_deactivate (m : UInt16) (hloc : d.loc = .deactivateGuard)
    (he : d.current = some e) :
    Advances m d (d.withEntry (deactivateSchedule d.currMins d.device.valvesMap e) .sleep) := by
  have hcurrent : ({ d with loc := .deactivateBlock } : Daemon).current = some e := he
  rw [deactivateSchedule_eq_ite]
  refine Advances.guarded (g := Client.deactivateGuard d.currMins e) .deactivateBlock he ?_ ?_
  · simp only [advance, hloc, he]
    split_ifs <;> rfl
  · simp only [advance, hcurrent]
    rfl

theorem advances_iteration (m : UInt16) (hloc : d.loc = .boundTest) (he : d.current = some e) :
    Advances m d { d.withEntry (issue d.device.valvesMap e.sche.valveId (command d.currMins e),
      refresh d.currMins e) .boundTest with i := d.i + 1 } := by
  refine Advances.head ?_
  simp only [advance, hloc, if_pos (lt_of_current he)]
  set d₁ : Daemon := { d with loc := .activateGuard }
  have he₁ : d₁.current = some e := he
  refine (advances_activate m rfl he₁).trans ?_
  set a := activateSchedule d₁.currMins d₁.device.valvesMap e
  refine (advances_deactivate m rfl (current_withEntry he₁ a _)).trans (Advances.head ?_)
  rw [withEntry_withEntry]
  have hiter : deactivateSchedule d.currMins a.1 a.2 =
      (issue d.device.valvesMap e.sche.valveId (command d.currMins e), refresh d.currMins e) :=
    iteration_eq _ _ _
  show Advances m { d₁.withEntry (deactivateSchedule d.currMins a.1 a.2) .boundTest with
    i := d.i + 1 } _
  rw [hiter]
  exact Advances.refl _ _

/-- From the bound test for the first entry of `rest` to the next reading of the clock the steps
are the loop over `rest`. -/
theorem advances_loop (m : UInt16) (hloc : d.loc = .boundTest) (done rest : List ScheduleStatus)
    (hss : d.device.sm.ss = done ++ rest) (hi : d.i.toNat = done.length)
    (hlen : (done ++ rest).length ≤ 65535) :
    ∃ i, Advances m d
      ⟨⟨(smRunScheduler d.currMins d.device.valvesMap rest).1, { d.device.sm with
        ss := done ++ (smRunScheduler d.currMins d.device.valvesMap rest).2 }⟩,
        .readMinute, d.currMins, i⟩ := by
  induction rest generalizing d done with
  | nil =>
    refine ⟨d.i, Advances.head ?_⟩
    have hend : ¬ d.i.toNat < d.device.sm.ss.length := by
      rw [hss, hi, List.append_nil]
      exact Nat.lt_irrefl _
    simp only [advance, hloc, if_neg hend, smRunScheduler, ← hss]
    exact Advances.refl _ _
  | cons e rest ih =>
    have he : d.current = some e := by
      unfold current
      rw [hss, hi, List.getElem?_append_right (Nat.le_refl _), Nat.sub_self]
      rfl
    set d' : Daemon := { d.withEntry (issue d.device.valvesMap e.sche.valveId
      (command d.currMins e), refresh d.currMins e) .boundTest with i := d.i + 1 }
    have hss' : d'.device.sm.ss = (done ++ [refresh d.currMins e]) ++ rest := by
      show d.device.sm.ss.set d.i.toNat _ = _
      rw [hss, hi, List.set_append_right _ _ (Nat.le_refl _), Nat.sub_self, List.set_cons_zero,
        List.append_assoc]
      rfl
    have hi' : d'.i.toNat = (done ++ [refresh d.currMins e]).length := by
      -- The index does not wrap: the table has at most 65535 entries.
      rw [List.length_append, List.length_cons] at hlen
      show (d.i + 1).toNat = _
      rw [UInt16.toNat_add, hi, List.length_append, List.length_singleton]
      show (done.length + 1) % 65536 = _
      omega
    obtain ⟨i, hrest⟩ := ih (d := d') rfl _ hss' hi' (by simpa using hlen)
    rw [List.append_assoc] at hrest
    rw [smRunScheduler_cons]
    exact ⟨i, (advances_iteration m hloc he).trans hrest⟩

/-- Left alone, the scheduler goes from one reading of the clock to the next by a pass over the
table. -/
theorem advances_pass (m : UInt16) (hloc : d.loc = .readMinute)
    (hlen : d.device.sm.ss.length ≤ 65535) :
    ∃ i, Advances m d ⟨d.device.pass m, .readMinute, m, i⟩ := by
  have hread : d.advance m = { d with loc := .boundTest, currMins := m, i := 0 } := by
    simp only [advance, hloc]
  obtain ⟨i, h⟩ := advances_loop (d := d.advance m) m (by rw [hread]) [] d.device.sm.ss
    (by rw [hread]; rfl) (by rw [hread]; rfl) hlen
  rw [hread] at h
  exact ⟨i, Advances.head (by rw [hread]; exact h)⟩

end Daemon

/-- In every state that a run of the two threads reaches the scheduler's next access is right,
exactly when no replacement of the run takes away what the scheduler has checked. -/
theorem safe_iff_admitted (device : Device) (turns : List Turn) :
    (∀ pre, pre <+: turns → (run Daemon.step (.start device) pre).Safe) ↔
      Along Daemon.step Daemon.Admitted (.start device) turns :=
  have hstart : (Daemon.start device).Safe := trivial
  forall_prefix_iff_of_step (fun _ t h => h.step_iff t) hstart turns

/-- A run in which the table is replaced only between two iterations is safe. -/
theorem safe_of_replaced_between (device : Device) {turns : List Turn}
    (h : Along Daemon.step (fun d t => ∀ sches, t = .setNewSchedules sches →
      d.loc = .readMinute ∨ d.loc = .boundTest ∨ d.loc = .sleep) (.start device) turns) :
    ∀ pre, pre <+: turns → (run Daemon.step (.start device) pre).Safe := by
  rw [safe_iff_admitted]
  refine h.of_invariant (I := fun _ => True) (fun d t _ hd => ⟨?_, trivial⟩) trivial
  cases t with
  | scheduler minute => trivial
  | setNewSchedules sches =>
    obtain ⟨dev, loc, m, i⟩ := d
    rcases hd sches rfl with h | h | h <;> cases h <;> trivial

/-- The table shrinks between the bound test and the guard, another schedule takes the place of the
one whose guard was true, and a fresh entry takes the place of the active one whose interval is
over: the scheduler reads beyond the table, opens a valve outside its schedule, and closes a valve
for an entry that is not active. -/
theorem not_safe_replaced_between_guard_and_block :
    ¬ (run Daemon.step (.start (Device.start [1, 2]))
      [.setNewSchedules [⟨1, 1, 5, 7⟩], .scheduler 6, .scheduler 6, .setNewSchedules []]).Safe ∧
    ¬ (run Daemon.step (.start (Device.start [1, 2]))
      [.setNewSchedules [⟨1, 1, 5, 7⟩], .scheduler 6, .scheduler 6, .scheduler 6,
        .setNewSchedules [⟨2, 2, 9, 10⟩]]).Safe ∧
    ¬ (run Daemon.step (.start (Device.start [1, 2]))
      [.setNewSchedules [⟨1, 1, 5, 7⟩], .scheduler 6, .scheduler 6, .scheduler 6, .scheduler 6,
        .scheduler 6, .scheduler 8, .scheduler 8, .scheduler 8, .scheduler 8, .scheduler 8,
        .scheduler 8, .setNewSchedules [⟨1, 1, 5, 7⟩]]).Safe := by
  decide

end Bbd.Client
