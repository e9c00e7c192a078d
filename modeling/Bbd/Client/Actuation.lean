import Bbd.Client.ValveMap
import Bbd.Client.Watering
import Mathlib.Data.List.Forall2

/-!
# The commands issued for an entry

The device is watched together with the calls of `vm_set_valve_state` that the scheduler makes for
each entry of the installed table, in order, since the table was installed (`Observed`).  The calls
are those of the two blocks of an iteration (`smCalls`); carried out one after another they are
what the pass does to the valve map (`smRunScheduler_eq_carryOut`).

Whatever replacements and passes came before, the calls for an entry alternate, `OPEN` first, and
the last one tells its flag (`actuation_law`).
-/

namespace Bbd.Client

open Runs

/-! ## The calls of a pass -/

/-- The calls of `vm_set_valve_state` that the loop makes, entry by entry: for each entry those of
its two blocks, the second of which meets the entry as the first one leaves it. -/
def smCalls (currMins : UInt16) (es : List ScheduleStatus) : List (List ValveState) :=
  es.map fun e =>
    let a := activateBlock currMins e
    let d := deactivateBlock currMins a.2
    a.1 ++ d.1

theorem activateBlock_sche (m : UInt16) (e : ScheduleStatus) :
    (activateBlock m e).2.sche = e.sche := by
  unfold activateBlock
  split_ifs <;> rfl

/-- The valve map after a pass is the one that its calls, in table order, make of it. -/
theorem smRunScheduler_eq_carryOut (m : UInt16) (map : ValvesMap) (es : List ScheduleStatus) :
    (smRunScheduler m map es).1 =
      (es.zip (smCalls m es)).foldl (fun map p => carryOut p.1.sche.valveId map p.2) map := by
  induction es generalizing map with
  | nil => rfl
  | cons e es ih =>
    have hblocks : (deactivateSchedule m (activateSchedule m map e).1
        (activateSchedule m map e).2).1 =
        carryOut e.sche.valveId map
          ((activateBlock m e).1 ++ (deactivateBlock m (activateBlock m e).2).1) := by
      rw [carryOut, List.foldl_append]
      show carryOut (activateBlock m e).2.sche.valveId _ _ = _
      rw [activateBlock_sche]
      rfl
    simp only [smRunScheduler, smCalls, List.map_cons, List.zip_cons_cons, List.foldl_cons]
    rw [ih, hblocks]
    rfl

/-- The two blocks make at most one call between them: the command of the iteration. -/
theorem smCalls_eq (m : UInt16) (es : List ScheduleStatus) :
    smCalls m es = es.map fun e => (command m e).toList := by
  refine List.map_congr_left fun e _ => ?_
  simp only [activateBlock, deactivateBlock, activateGuard_iff, deactivateGuard_iff]
  obtain ⟨s, act⟩ := e
  by_cases hc : s.covers m <;> cases act <;> simp [command, hc]

/-- The calls of `vm_set_valve_state` that the pass at the minute `m` makes, in their order. -/
def Device.passCalls (c : Device) (m : UInt16) : List (UInt16 × ValveState) :=
  (c.sm.ss.zip (smCalls m c.sm.ss)).flatMap fun p =>
    p.2.map fun st => (p.1.sche.valveId, st)

/-- Carried out one after the other, the calls are what the pass does to the valve map. -/
theorem Device.pass_valvesMap_eq_run (c : Device) (m : UInt16) :
    (c.pass m).valvesMap = run vmSet c.valvesMap (c.passCalls m) := by
  show (smRunScheduler m c.valvesMap c.sm.ss).1 = _
  rw [smRunScheduler_eq_carryOut, Device.passCalls, run, List.foldl_flatMap]
  congr 1
  funext map p
  rw [List.foldl_map]
  rfl

theorem Device.mem_passCalls_iff {c : Device} {m : UInt16} {call : UInt16 × ValveState} :
    call ∈ c.passCalls m ↔ ∃ e ∈ c.sm.ss, e.sche.valveId = call.1 ∧ command m e = some call.2 := by
  obtain ⟨v, st⟩ := call
  rw [Device.passCalls, smCalls_eq, ← List.map_prod_left_eq_zip]
  simp only [List.mem_flatMap, List.mem_map, Prod.mk.injEq]
  constructor
  · rintro ⟨_, ⟨e, he, rfl⟩, _, hcmd, rfl, rfl⟩
    exact ⟨e, he, rfl, Option.mem_toList.1 hcmd⟩
  · rintro ⟨e, he, hv, hcmd⟩
    exact ⟨_, ⟨e, he, rfl⟩, st, Option.mem_toList.2 hcmd, hv, rfl⟩

/-! ## The commands since the installation -/

/-- The device, and for each entry of its table the commands issued for it since the table was
installed. -/
structure Observed where
  device : Device
  issued : List (List ValveState)
  deriving DecidableEq, Repr

namespace Observed

/-- A device with no table yet, whatever the state of its valves. -/
def start (valvesMap : ValvesMap) : Observed := ⟨⟨valvesMap, .unset⟩, []⟩

/-- A replacement starts the record anew, a pass adds its calls to it. -/
def step (o : Observed) : Event → Observed
  | .setNewSchedules sches => ⟨o.device.setNewSchedules sches, sches.map fun _ => []⟩
  | .pass m =>
    ⟨o.device.pass m, o.issued.zipWith (· ++ ·) (smCalls m o.device.sm.ss)⟩

/-- Watching does not disturb the device. -/
theorem run_device (o : Observed) (es : List Event) :
    (run step o es).device = run Device.step o.device es := by
  induction es generalizing o with
  | nil => rfl
  | cons e es ih =>
    rw [run_cons, run_cons, ih]
    cases e <;> rfl

end Observed

/-- The commands `OPEN`, `CLOSED`, `OPEN`, … in turn, the last of which is `OPEN` exactly when the
entry is active. -/
structure Lawful (e : ScheduleStatus) (cmds : List ValveState) : Prop where
  alternates : ∀ i (h : i < cmds.length), cmds[i] = if i % 2 = 0 then .opened else .closed
  last_opened_iff : cmds.getLast? = some .opened ↔ e.isActive

theorem lawful_nil (s : Schedule) : Lawful ⟨s, false⟩ [] :=
  ⟨fun _ h => absurd h (Nat.not_lt_zero _), by simp⟩

theorem Lawful.isActive_iff {e : ScheduleStatus} {cmds : List ValveState} (h : Lawful e cmds) :
    e.isActive ↔ cmds.length % 2 = 1 := by
  rw [← h.last_opened_iff, List.getLast?_eq_getElem?]
  rcases Nat.eq_zero_or_pos cmds.length with h0 | hpos
  · rw [List.getElem?_eq_none (by omega)]
    simp [h0]
  · rw [List.getElem?_eq_getElem (by omega), h.alternates]
    split_ifs with hp <;> simp <;> omega

theorem Lawful.append {e e' : ScheduleStatus} {cmds : List ValveState} {cmd : ValveState}
    (h : Lawful e cmds) (hcmd : cmd = if cmds.length % 2 = 0 then .opened else .closed)
    (he : e'.isActive ↔ cmd = .opened) : Lawful e' (cmds ++ [cmd]) := by
  refine ⟨fun i hi => ?_, by simp [he]⟩
  by_cases hlt : i < cmds.length
  · rw [List.getElem_append_left hlt]
    exact h.alternates i hlt
  · have hlen : i = cmds.length := by
      rw [List.length_append, List.length_singleton] at hi
      omega
    subst hlen
    simpa using hcmd

theorem Lawful.iteration {e : ScheduleStatus} {cmds : List ValveState} (h : Lawful e cmds)
    (m : UInt16) : Lawful (refresh m e) (cmds ++ (command m e).toList) := by
  have hpar := h.isActive_iff
  cases hcmd : command m e with
  | none =>
    rw [Device.command_eq_none_iff] at hcmd
    rw [Option.toList_none, List.append_nil]
    refine ⟨h.alternates, ?_⟩
    rw [h.last_opened_iff, refresh_isActive, decide_eq_true_eq, hcmd]
  | some cmd =>
    refine h.append ?_ ?_
    · cases cmd with
      | opened =>
        have hact := ((Device.command_eq_opened_iff e).1 hcmd).1
        rw [hpar] at hact
        rw [if_pos (by omega)]
      | closed =>
        have hact := ((Device.command_eq_closed_iff e).1 hcmd).1
        rw [hpar] at hact
        rw [if_neg (by omega)]
    · rw [refresh_isActive, decide_eq_true_eq]
      cases cmd with
      | opened => simp [((Device.command_eq_opened_iff e).1 hcmd).2]
      | closed => simp [((Device.command_eq_closed_iff e).1 hcmd).2]

theorem forall₂_lawful_pass {ss : List ScheduleStatus} {issued : List (List ValveState)}
    (h : List.Forall₂ Lawful ss issued) (m : UInt16) :
    List.Forall₂ Lawful (ss.map (refresh m))
      (issued.zipWith (· ++ ·) (ss.map fun e => (command m e).toList)) := by
  induction h with
  | nil => exact List.Forall₂.nil
  | cons he _ ih => exact List.Forall₂.cons (he.iteration m) ih

theorem forall₂_issued_pass {ss : List ScheduleStatus} {issued : List (List ValveState)}
    (h : List.Forall₂ Lawful ss issued) (m : UInt16) :
    List.Forall₂ (fun before after => ∃ new, after = before ++ new ∧ new.length ≤ 1) issued
      (issued.zipWith (· ++ ·) (ss.map fun e => (command m e).toList)) := by
  induction h with
  | nil => exact List.Forall₂.nil
  | @cons e _ _ _ _ _ ih =>
    refine List.Forall₂.cons ⟨_, rfl, ?_⟩ ih
    cases command m e <;> simp

namespace Observed

/-- Every entry's commands are lawful. -/
def Law (o : Observed) : Prop := List.Forall₂ Lawful o.device.sm.ss o.issued

theorem Law.step {o : Observed} (h : o.Law) (ev : Event) : (o.step ev).Law := by
  cases ev with
  | setNewSchedules sches =>
    show List.Forall₂ Lawful (sches.map fun s => ⟨s, false⟩) (sches.map fun _ => [])
    rw [List.forall₂_map_left_iff, List.forall₂_map_right_iff]
    exact List.forall₂_same.2 fun s _ => lawful_nil s
  | pass m =>
    show List.Forall₂ Lawful (o.device.pass m).sm.ss
      (o.issued.zipWith (· ++ ·) (smCalls m o.device.sm.ss))
    rw [Device.pass_ss, smCalls_eq]
    exact forall₂_lawful_pass h m

theorem law_run (valvesMap : ValvesMap) (es : List Event) :
    (run step (start valvesMap) es).Law :=
  have hstart : (start valvesMap).Law := List.Forall₂.nil
  run_invariant (I := Law) (fun _ ev h => h.step ev) hstart es

end Observed

/-- The flag and actuation law, at every state that replacements and complete passes lead to:
the commands issued for each entry since the installation of the table are lawful, and a further
pass at any minute `m` sets every flag to `start ≤ m ≤ stop` and adds at most one command for each
entry. -/
theorem actuation_law (valvesMap : ValvesMap) (es : List Event) :
    List.Forall₂ Lawful (run Observed.step (.start valvesMap) es).device.sm.ss
      (run Observed.step (.start valvesMap) es).issued ∧
    ∀ m,
      (∀ e ∈ (run Observed.step (.start valvesMap) (es ++ [.pass m])).device.sm.ss,
        e.isActive ↔ e.sche.start ≤ m ∧ m ≤ e.sche.stop) ∧
      List.Forall₂ (fun before after => ∃ new, after = before ++ new ∧ new.length ≤ 1)
        (run Observed.step (.start valvesMap) es).issued
        (run Observed.step (.start valvesMap) (es ++ [.pass m])).issued := by
  have hlaw := Observed.law_run valvesMap es
  refine ⟨hlaw, fun m => ?_⟩
  rw [run_append, run_cons, run_nil]
  set o := run Observed.step (.start valvesMap) es
  constructor
  · intro e he
    change e ∈ (o.device.pass m).sm.ss at he
    rw [Device.pass_ss, List.mem_map] at he
    obtain ⟨e, -, rfl⟩ := he
    rw [refresh_isActive, refresh_sche, decide_eq_true_eq]
    exact Iff.rfl
  · show List.Forall₂ _ o.issued
      (o.issued.zipWith (· ++ ·) (smCalls m o.device.sm.ss))
    rw [smCalls_eq]
    exact forall₂_issued_pass hlaw m

end Bbd.Client
