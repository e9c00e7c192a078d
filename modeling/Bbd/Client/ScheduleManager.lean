import Bbd.Client.ValveManager
import Bbd.Lib.Runs

/-!
# The schedule manager of the device

`schedule_manager.c` holds the schedule table `_ss` and runs one thread that walks it: an entry
whose interval the clock has entered opens its valve and becomes active, an entry whose interval
the clock has left closes its valve and becomes inactive.  `sm_set_new_schedules` replaces the
table.  Here a pass of the thread over the whole table is one step; its effect on the table is to
set every flag to the coverage of the entry (`pass_ss`), and its effect on a valve is the last
command the pass issued for it (`vmRead_pass`).
-/

namespace Bbd.Client

/-- `struct schedule_status`. -/
structure ScheduleStatus where
  sche : Schedule
  isActive : Bool
  deriving DecidableEq, Repr

/-- The variables of `schedule_manager.c`: the table `_ss` (`_ss_len` entries), the size given to
the `malloc` of its buffer, and `_schedules_set`. -/
structure ScheduleManager where
  ss : List ScheduleStatus
  ssBytesize : UInt16
  schedulesSet : Bool
  deriving DecidableEq, Repr

/-- The state of the daemon: the valve map and the schedule manager. -/
structure Device where
  valvesMap : ValvesMap
  sm : ScheduleManager
  deriving DecidableEq, Repr

/-- The static variables of `schedule_manager.c` before the first table is set. -/
def ScheduleManager.unset : ScheduleManager := ⟨[], 0, false⟩

/-- `sm_set_new_schedules`.  The entry size is `sizeof(struct schedule_status) = 10`, and the
product is stored in a `uint16_t`: beyond 6553 entries it wraps, and the copy runs over the buffer
that was allocated.  The table holds all the entries here; `ScheduleManager.Room` says when they
have the room. -/
def smSetNewSchedules (sches : List Schedule) : ScheduleManager where
  ss := sches.map fun s => ⟨s, false⟩
  ssBytesize := UInt16.ofNat (10 * sches.length)
  schedulesSet := true

/-- The guard of the `//activate schedule` block. -/
def activateGuard (currMins : UInt16) (e : ScheduleStatus) : Bool :=
  !e.isActive && e.sche.start ≤ currMins && e.sche.stop ≥ currMins

/-- The guard of the `//deactivate schedule` block. -/
def deactivateGuard (currMins : UInt16) (e : ScheduleStatus) : Bool :=
  e.isActive && (currMins < e.sche.start || currMins > e.sche.stop)

/-- The `//activate schedule` block of one iteration: the calls of `vm_set_valve_state` that it
makes for the valve of the entry, and the entry as it leaves it. -/
def activateBlock (currMins : UInt16) (e : ScheduleStatus) : List ValveState × ScheduleStatus :=
  if activateGuard currMins e then ([.opened], { e with isActive := true }) else ([], e)

/-- The `//deactivate schedule` block of one iteration, likewise. -/
def deactivateBlock (currMins : UInt16) (e : ScheduleStatus) : List ValveState × ScheduleStatus :=
  if deactivateGuard currMins e then ([.closed], { e with isActive := false }) else ([], e)

/-- The calls of `vm_set_valve_state` for one valve, carried out in order. -/
def carryOut (valveId : UInt16) (map : ValvesMap) (calls : List ValveState) : ValvesMap :=
  calls.foldl (fun map st => (vmSetValveState valveId st map).2) map

/-- What the `//activate schedule` block does to the valve map and to its entry. -/
def activateSchedule (currMins : UInt16) (map : ValvesMap) (e : ScheduleStatus) :
    ValvesMap × ScheduleStatus :=
  let block := activateBlock currMins e
  (carryOut e.sche.valveId map block.1, block.2)

/-- What the `//deactivate schedule` block does to the valve map and to its entry. -/
def deactivateSchedule (currMins : UInt16) (map : ValvesMap) (e : ScheduleStatus) :
    ValvesMap × ScheduleStatus :=
  let block := deactivateBlock currMins e
  (carryOut e.sche.valveId map block.1, block.2)

/-- The loop of `_sm_run_scheduler_thread` over the table, at one reading of the clock. -/
def smRunScheduler (currMins : UInt16) : ValvesMap → List ScheduleStatus →
    ValvesMap × List ScheduleStatus
  | map, [] => (map, [])
  | map, e :: es =>
    let a := activateSchedule currMins map e
    let d := deactivateSchedule currMins a.1 a.2
    let r := smRunScheduler currMins d.1 es
    (r.1, d.2 :: r.2)

namespace Device

/-- The device after `vm_init_set_valves`, before any schedule table. -/
def start (valveIds : List UInt16) : Device := ⟨vmInitSetValves valveIds, .unset⟩

/-- `sm_set_new_schedules` on the state of the device. -/
def setNewSchedules (c : Device) (sches : List Schedule) : Device :=
  { c with sm := smSetNewSchedules sches }

/-- One complete pass of the scheduler thread. -/
def pass (c : Device) (currMins : UInt16) : Device :=
  let r := smRunScheduler currMins c.valvesMap c.sm.ss
  { c with valvesMap := r.1, sm := { c.sm with ss := r.2 } }

end Device

/-! ## One iteration -/

/-- The command that one iteration issues for its entry, if any. -/
def command (m : UInt16) (e : ScheduleStatus) : Option ValveState :=
  if e.isActive then if e.sche.covers m then none else some .closed
  else if e.sche.covers m then some .opened else none

/-- A command carried out on the valve map. -/
def issue (map : ValvesMap) (v : UInt16) : Option ValveState → ValvesMap
  | none => map
  | some st => (vmSetValveState v st map).2

/-- The flag of an entry once the pass has been over it. -/
def refresh (m : UInt16) (e : ScheduleStatus) : ScheduleStatus :=
  { e with isActive := decide (e.sche.covers m) }

@[simp] theorem refresh_sche (m : UInt16) (e : ScheduleStatus) : (refresh m e).sche = e.sche := rfl

@[simp] theorem refresh_isActive (m : UInt16) (e : ScheduleStatus) :
    (refresh m e).isActive = decide (e.sche.covers m) := rfl

theorem activateGuard_iff (m : UInt16) (e : ScheduleStatus) :
    activateGuard m e ↔ ¬ e.isActive ∧ e.sche.covers m := by
  simp only [activateGuard, Schedule.covers, ge_iff_le, Bool.and_eq_true, Bool.not_eq_true',
    decide_eq_true_eq, Bool.not_eq_true, and_assoc]

theorem deactivateGuard_iff (m : UInt16) (e : ScheduleStatus) :
    deactivateGuard m e ↔ e.isActive ∧ ¬ e.sche.covers m := by
  simp only [deactivateGuard, Schedule.not_covers_iff, gt_iff_lt, Bool.and_eq_true,
    Bool.or_eq_true, decide_eq_true_eq]

theorem activateSchedule_eq_ite (m : UInt16) (map : ValvesMap) (e : ScheduleStatus) :
    activateSchedule m map e =
      if activateGuard m e then
        ((vmSetValveState e.sche.valveId .opened map).2, { e with isActive := true })
      else (map, e) := by
  unfold activateSchedule activateBlock
  split_ifs <;> rfl

theorem deactivateSchedule_eq_ite (m : UInt16) (map : ValvesMap) (e : ScheduleStatus) :
    deactivateSchedule m map e =
      if deactivateGuard m e then
        ((vmSetValveState e.sche.valveId .closed map).2, { e with isActive := false })
      else (map, e) := by
  unfold deactivateSchedule deactivateBlock
  split_ifs <;> rfl

theorem activateSchedule_eq (m : UInt16) (map : ValvesMap) (e : ScheduleStatus) :
    activateSchedule m map e =
      if ¬ e.isActive ∧ e.sche.covers m then
        ((vmSetValveState e.sche.valveId .opened map).2, { e with isActive := true })
      else (map, e) :=
  (activateSchedule_eq_ite m map e).trans (if_congr (activateGuard_iff m e) rfl rfl)

theorem deactivateSchedule_eq (m : UInt16) (map : ValvesMap) (e : ScheduleStatus) :
    deactivateSchedule m map e =
      if e.isActive ∧ ¬ e.sche.covers m then
        ((vmSetValveState e.sche.valveId .closed map).2, { e with isActive := false })
      else (map, e) :=
  (deactivateSchedule_eq_ite m map e).trans (if_congr (deactivateGuard_iff m e) rfl rfl)

/-- The two blocks never both fire: together they issue the command and refresh the flag. -/
theorem iteration_eq (m : UInt16) (map : ValvesMap) (e : ScheduleStatus) :
    deactivateSchedule m (activateSchedule m map e).1 (activateSchedule m map e).2 =
      (issue map e.sche.valveId (command m e), refresh m e) := by
  rw [activateSchedule_eq]
  obtain ⟨s, act⟩ := e
  by_cases hc : s.covers m <;> cases act <;>
    simp [deactivateSchedule_eq, command, refresh, issue, hc]

theorem smRunScheduler_cons (m : UInt16) (map : ValvesMap) (e : ScheduleStatus)
    (es : List ScheduleStatus) :
    smRunScheduler m map (e :: es) =
      ((smRunScheduler m (issue map e.sche.valveId (command m e)) es).1,
        refresh m e :: (smRunScheduler m (issue map e.sche.valveId (command m e)) es).2) := by
  simp only [smRunScheduler, iteration_eq]

/-! ## A whole pass -/

/-- The last command that a pass over the table issues for the valve `v`. -/
def lastCommand (m : UInt16) (v : UInt16) : List ScheduleStatus → Option ValveState
  | [] => none
  | e :: es => (lastCommand m v es).or (if e.sche.valveId = v then command m e else none)

theorem smRunScheduler_snd (m : UInt16) (map : ValvesMap) (es : List ScheduleStatus) :
    (smRunScheduler m map es).2 = es.map (refresh m) := by
  induction es generalizing map with
  | nil => rfl
  | cons e es ih => rw [smRunScheduler_cons, ih, List.map_cons]

theorem vmRead_issue (map : ValvesMap) (v w : UInt16) (cmd : Option ValveState) :
    vmRead (issue map v cmd) w =
      (vmRead map w).map fun st => (if v = w then cmd else none).getD st := by
  cases cmd with
  | none => simp [issue]
  | some st =>
    rw [issue]
    by_cases h : v = w
    · subst h
      simp [vmRead_set]
    · simp [h, vmRead_set_of_ne (Ne.symm h)]

/-- A pass leaves a valve in the state of the last command for it, or as it was. -/
theorem vmRead_smRunScheduler (m : UInt16) (map : ValvesMap) (es : List ScheduleStatus)
    (v : UInt16) :
    vmRead (smRunScheduler m map es).1 v =
      (vmRead map v).map fun st => (lastCommand m v es).getD st := by
  induction es generalizing map with
  | nil => simp [smRunScheduler, lastCommand]
  | cons e es ih =>
    rw [smRunScheduler_cons, ih, vmRead_issue, Option.map_map]
    congr 1
    funext st
    simp only [Function.comp_apply, lastCommand]
    cases lastCommand m v es <;> rfl

theorem shadowed_issue {map : ValvesMap} (h : Shadowed map) (v : UInt16)
    (cmd : Option ValveState) : Shadowed (issue map v cmd) := by
  cases cmd with
  | none => exact h
  | some st => exact h.set v st

theorem shadowed_smRunScheduler {map : ValvesMap} (h : Shadowed map) (m : UInt16)
    (es : List ScheduleStatus) : Shadowed (smRunScheduler m map es).1 := by
  induction es generalizing map with
  | nil => exact h
  | cons e es ih =>
    rw [smRunScheduler_cons]
    exact ih (shadowed_issue h _ _)

theorem mem_of_mem_smRunScheduler {m : UInt16} {map : ValvesMap} {es : List ScheduleStatus}
    {y : ValveMapEntry} (hy : y ∈ (smRunScheduler m map es).1) :
    y ∈ map ∨ (∃ x ∈ map, x.vId = y.vId) ∧
      ∃ e ∈ es, e.sche.valveId = y.vId ∧ command m e = some y.vState := by
  induction es generalizing map with
  | nil => exact Or.inl hy
  | cons e es ih =>
    rw [smRunScheduler_cons] at hy
    have hissue : ∀ z ∈ issue map e.sche.valveId (command m e), z ∈ map ∨
        (∃ x ∈ map, x.vId = z.vId) ∧ e.sche.valveId = z.vId ∧ command m e = some z.vState := by
      intro z hz
      cases hcmd : command m e with
      | none =>
        rw [hcmd] at hz
        exact Or.inl hz
      | some st =>
        rw [hcmd] at hz
        rcases mem_of_mem_set hz with hold | ⟨rfl, hx⟩
        · exact Or.inl hold
        · exact Or.inr ⟨hx, rfl, rfl⟩
    rcases ih hy with hz | ⟨⟨x, hx, hid⟩, e', he', hv, hcmd⟩
    · rcases hissue y hz with hold | ⟨hx, hv, hcmd⟩
      · exact Or.inl hold
      · exact Or.inr ⟨hx, e, List.mem_cons_self, hv, hcmd⟩
    · refine Or.inr ⟨?_, e', List.mem_cons_of_mem _ he', hv, hcmd⟩
      rcases hissue x hx with hold | ⟨⟨x', hx', hid'⟩, -⟩
      · exact ⟨x, hold, hid⟩
      · exact ⟨x', hx', hid'.trans hid⟩

theorem lastCommand_eq_none_iff (m v : UInt16) (es : List ScheduleStatus) :
    lastCommand m v es = none ↔ ∀ e ∈ es, e.sche.valveId = v → command m e = none := by
  induction es with
  | nil => simp [lastCommand]
  | cons e es ih =>
    rw [lastCommand, Option.or_eq_none_iff, ih, List.forall_mem_cons]
    split_ifs with h <;> simp [h, and_comm]

theorem lastCommand_append (m v : UInt16) (es₁ es₂ : List ScheduleStatus) :
    lastCommand m v (es₁ ++ es₂) = (lastCommand m v es₂).or (lastCommand m v es₁) := by
  induction es₁ with
  | nil => simp [lastCommand]
  | cons e es ih => rw [List.cons_append, lastCommand, ih, lastCommand, Option.or_assoc]

theorem exists_split_of_lastCommand {m v : UInt16} {es : List ScheduleStatus} {st : ValveState}
    (h : lastCommand m v es = some st) :
    ∃ pre e post, es = pre ++ e :: post ∧ e.sche.valveId = v ∧ command m e = some st ∧
      ∀ e' ∈ post, e'.sche.valveId = v → command m e' = none := by
  induction es with
  | nil => cases h
  | cons e es ih =>
    rw [lastCommand] at h
    cases hes : lastCommand m v es with
    | some st' =>
      rw [hes, Option.some_or] at h
      obtain ⟨pre, e', post, rfl, hv, hc, hpost⟩ := ih (hes.trans h)
      exact ⟨e :: pre, e', post, rfl, hv, hc, hpost⟩
    | none =>
      rw [hes, Option.none_or] at h
      split_ifs at h with hv
      exact ⟨[], e, es, rfl, hv, h, (lastCommand_eq_none_iff m v es).1 hes⟩

theorem exists_mem_of_lastCommand {m v : UInt16} {es : List ScheduleStatus} {st : ValveState}
    (h : lastCommand m v es = some st) :
    ∃ e ∈ es, e.sche.valveId = v ∧ command m e = some st := by
  obtain ⟨pre, e, post, rfl, hv, hc, -⟩ := exists_split_of_lastCommand h
  exact ⟨e, by simp, hv, hc⟩

/-! ## The pass on the state of the device -/

namespace Device

variable (c : Device) (m : UInt16)

theorem pass_ss : (c.pass m).sm.ss = c.sm.ss.map (refresh m) := smRunScheduler_snd _ _ _

theorem vmRead_pass (v : UInt16) :
    vmRead (c.pass m).valvesMap v =
      (vmRead c.valvesMap v).map fun st => (lastCommand m v c.sm.ss).getD st :=
  vmRead_smRunScheduler _ _ _ _

theorem mem_of_mem_pass {c : Device} {m : UInt16} {y : ValveMapEntry}
    (hy : y ∈ (c.pass m).valvesMap) :
    y ∈ c.valvesMap ∨ (∃ x ∈ c.valvesMap, x.vId = y.vId) ∧
      ∃ e ∈ c.sm.ss, e.sche.valveId = y.vId ∧ command m e = some y.vState :=
  mem_of_mem_smRunScheduler hy

theorem shadowed_pass {c : Device} (h : Shadowed c.valvesMap) :
    Shadowed (c.pass m).valvesMap :=
  shadowed_smRunScheduler h m _

@[simp] theorem setNewSchedules_valvesMap (sches : List Schedule) :
    (c.setNewSchedules sches).valvesMap = c.valvesMap := rfl

@[simp] theorem setNewSchedules_ss (sches : List Schedule) :
    (c.setNewSchedules sches).sm.ss = sches.map fun s => ⟨s, false⟩ := rfl

end Device

end Bbd.Client
