import Bbd.Client.ScheduleManager
import Mathlib.Data.List.Induction

/-!
# Which valves water, and when

The scheduler is there to keep open exactly the valves that some entry of the table demands at the
current minute (`Demanded`).  Two halves of that: an open valve is demanded (`Attended`) and a
demanded valve is open (`Watered`).

* While the table is fixed every pass leaves the device attended, whatever the clock does
  (`attended_of_fixed_table`).  The invariant is `Tended`: an open valve has an active entry.
* Replacing the table forgets the active flags but not the open valves, so the next pass leaves
  the device attended exactly when the new list demands every valve that was open
  (`attended_after_replacement_iff`).
* A pass acts on each change of an entry in table order, so a demanded valve ends up closed when
  the last entry of it that changes is one that ends (`watered_iff_noLateClose`).
-/

namespace Bbd.Client

open Runs

/-- Some schedule of the list is for the valve `v` and contains the minute `m`. -/
def Demanded (sches : List Schedule) (m v : UInt16) : Prop :=
  ∃ s ∈ sches, s.valveId = v ∧ s.covers m

instance (sches : List Schedule) (m v : UInt16) : Decidable (Demanded sches m v) :=
  inferInstanceAs (Decidable (∃ s ∈ sches, _))

namespace Device

/-- The schedules of the installed table. -/
def table (c : Device) : List Schedule := c.sm.ss.map (·.sche)

/-- Every valve whose state is `OPEN` is demanded at the minute `m` by the installed table. -/
def Attended (m : UInt16) (c : Device) : Prop :=
  ∀ x ∈ c.valvesMap, x.vState = .opened → Demanded c.table m x.vId

instance (m : UInt16) (c : Device) : Decidable (c.Attended m) :=
  inferInstanceAs (Decidable (∀ x ∈ c.valvesMap, _))

/-- Every valve that some entry of the table covers at the minute `m` reads `OPEN`. -/
def Watered (m : UInt16) (c : Device) : Prop :=
  ∀ e ∈ c.sm.ss, e.sche.covers m →
    vmGetValveState e.sche.valveId .closed c.valvesMap = (0, .opened)

instance (m : UInt16) (c : Device) : Decidable (c.Watered m) :=
  inferInstanceAs (Decidable (∀ e ∈ c.sm.ss, _))

/-- Every open valve has an active entry. -/
def Tended (c : Device) : Prop :=
  ∀ v, vmRead c.valvesMap v = some .opened → ∃ e ∈ c.sm.ss, e.sche.valveId = v ∧ e.isActive

variable {c : Device} {m : UInt16}

@[simp] theorem table_pass : (c.pass m).table = c.table := by
  simp [table, pass_ss, Function.comp_def]

@[simp] theorem table_setNewSchedules (sches : List Schedule) :
    (c.setNewSchedules sches).table = sches := by
  simp [table, Function.comp_def]

theorem demanded_table_iff (v : UInt16) :
    Demanded c.table m v ↔ ∃ e ∈ c.sm.ss, e.sche.valveId = v ∧ e.sche.covers m := by
  simp [Demanded, table]

theorem watered_iff : c.Watered m ↔
    ∀ e ∈ c.sm.ss, e.sche.covers m → vmRead c.valvesMap e.sche.valveId = some .opened := by
  refine forall₃_congr fun e _ _ => ?_
  rw [vmGetValveState_eq]
  cases vmRead c.valvesMap e.sche.valveId <;> simp

theorem attended_iff (h : Shadowed c.valvesMap) :
    c.Attended m ↔ ∀ v, vmRead c.valvesMap v = some .opened → Demanded c.table m v := by
  constructor
  · intro hc v hv
    exact hc _ (exists_mem_of_vmRead hv) rfl
  · intro hc x hx ho
    exact hc _ (h.read_eq_opened hx ho)

/-! ## What a pass opens and closes -/

theorem command_eq_opened_iff (e : ScheduleStatus) :
    command m e = some .opened ↔ ¬ e.isActive ∧ e.sche.covers m := by
  by_cases hc : e.sche.covers m <;> cases h : e.isActive <;> simp [command, hc, h]

theorem command_eq_closed_iff (e : ScheduleStatus) :
    command m e = some .closed ↔ e.isActive ∧ ¬ e.sche.covers m := by
  by_cases hc : e.sche.covers m <;> cases h : e.isActive <;> simp [command, hc, h]

theorem command_eq_none_iff (e : ScheduleStatus) :
    command m e = none ↔ (e.isActive ↔ e.sche.covers m) := by
  by_cases hc : e.sche.covers m <;> cases h : e.isActive <;> simp [command, hc, h]

/-- A valve that is open after a pass is demanded, or was open and had no active entry. -/
theorem demanded_of_read_pass {v : UInt16}
    (h : vmRead (c.pass m).valvesMap v = some .opened) :
    Demanded c.table m v ∨ vmRead c.valvesMap v = some .opened ∧
      ∀ e ∈ c.sm.ss, e.sche.valveId = v → ¬ e.isActive := by
  rw [vmRead_pass, Option.map_eq_some_iff] at h
  obtain ⟨st, hst, hlast⟩ := h
  rw [demanded_table_iff]
  cases hcmd : lastCommand m v c.sm.ss with
  | some st' =>
    -- The last command opened the valve, so its entry covers the minute.
    rw [hcmd, Option.getD_some] at hlast
    subst hlast
    obtain ⟨e, he, hv, hopen⟩ := exists_mem_of_lastCommand hcmd
    exact Or.inl ⟨e, he, hv, ((command_eq_opened_iff e).1 hopen).2⟩
  | none =>
    -- No entry of the valve changed: an active one still covers the minute.
    rw [hcmd, Option.getD_none] at hlast
    subst hlast
    have hnone := (lastCommand_eq_none_iff m v c.sm.ss).1 hcmd
    by_cases hact : ∃ e ∈ c.sm.ss, e.sche.valveId = v ∧ e.isActive
    · obtain ⟨e, he, hv, ha⟩ := hact
      exact Or.inl ⟨e, he, hv, ((command_eq_none_iff e).1 (hnone e he hv)).1 ha⟩
    · exact Or.inr ⟨hst, fun e he hv ha => hact ⟨e, he, hv, ha⟩⟩

theorem Attended.tended (hs : Shadowed c.valvesMap) (h : (c.pass m).Attended m) :
    (c.pass m).Tended := by
  intro v hv
  have hdem := (attended_iff (shadowed_pass m hs)).1 h v hv
  rw [demanded_table_iff] at hdem
  obtain ⟨e, he, hv, hcov⟩ := hdem
  refine ⟨e, he, hv, ?_⟩
  rw [pass_ss, List.mem_map] at he
  obtain ⟨e, -, rfl⟩ := he
  simpa using hcov

theorem Tended.attended_pass (hs : Shadowed c.valvesMap) (h : c.Tended) (m : UInt16) :
    (c.pass m).Attended m := by
  rw [attended_iff (shadowed_pass m hs), table_pass]
  intro v hv
  rcases demanded_of_read_pass hv with hdem | ⟨hopen, hno⟩
  · exact hdem
  · obtain ⟨e, he, hev, ha⟩ := h v hopen
    exact absurd ha (hno e he hev)

theorem tended_of_closed (h : ∀ x ∈ c.valvesMap, x.vState = .closed) : c.Tended := by
  intro v hv
  have := h _ (exists_mem_of_vmRead hv)
  cases this

end Device

/-! ## A fixed table -/

theorem closed_of_mem_init {ids : List UInt16} {x : ValveMapEntry}
    (hx : x ∈ vmInitSetValves ids) : x.vState = .closed := by
  rw [vmInitSetValves, List.mem_map] at hx
  obtain ⟨id, -, rfl⟩ := hx
  rfl

/-- No watering outside a schedule: with a fixed table, started with all valves closed and all
entries inactive, every pass leaves only demanded valves open. -/
theorem attended_of_fixed_table (valveIds : List UInt16) (sches : List Schedule)
    (minutes : List UInt16) :
    Along Device.pass (fun c m => (c.pass m).Attended m)
      ((Device.start valveIds).setNewSchedules sches) minutes := by
  have hclosed : ∀ x ∈ ((Device.start valveIds).setNewSchedules sches).valvesMap,
      x.vState = .closed := fun x hx => closed_of_mem_init hx
  refine (along_of_forall (P := fun _ _ => True) fun _ _ _ => trivial).of_invariant
    (I := fun c => Shadowed c.valvesMap ∧ c.Tended) ?_
    ⟨shadowed_of_closed hclosed, Device.tended_of_closed hclosed⟩
  rintro c m ⟨hs, ht⟩ -
  have hatt := ht.attended_pass hs m
  exact ⟨hatt, Device.shadowed_pass m hs, hatt.tended hs⟩

/-! ## Replacing the table -/

/-- What happens to a running device: its table is replaced, or the scheduler makes a pass. -/
inductive Event where
  | setNewSchedules (sches : List Schedule)
  | pass (currMins : UInt16)
  deriving DecidableEq, Repr

namespace Device

def step (c : Device) : Event → Device
  | .setNewSchedules sches => c.setNewSchedules sches
  | .pass m => c.pass m

theorem shadowed_step {c : Device} (e : Event) (h : Shadowed c.valvesMap) :
    Shadowed (c.step e).valvesMap := by
  cases e with
  | setNewSchedules sches => exact h
  | pass m => exact shadowed_pass m h

/-- The first pass over a new table closes nothing: it leaves open what was open, and opens what
the new list demands. -/
theorem read_pass_setNewSchedules (c : Device) (sches : List Schedule) (m v : UInt16) :
    vmRead ((c.setNewSchedules sches).pass m).valvesMap v =
      (vmRead c.valvesMap v).map fun st => if Demanded sches m v then .opened else st := by
  rw [vmRead_pass, setNewSchedules_valvesMap]
  congr 1
  funext st
  have hmem : ∀ e ∈ (c.setNewSchedules sches).sm.ss, ¬ e.isActive := by
    intro e he
    rw [setNewSchedules_ss, List.mem_map] at he
    obtain ⟨s, -, rfl⟩ := he
    simp
  have hdem : Demanded sches m v ↔
      ∃ e ∈ (c.setNewSchedules sches).sm.ss, e.sche.valveId = v ∧ e.sche.covers m := by
    rw [← demanded_table_iff, table_setNewSchedules]
  cases hcmd : lastCommand m v (c.setNewSchedules sches).sm.ss with
  | some st' =>
    obtain ⟨e, he, hv, hc⟩ := exists_mem_of_lastCommand hcmd
    cases st' with
    | opened =>
      rw [if_pos (hdem.2 ⟨e, he, hv, ((command_eq_opened_iff e).1 hc).2⟩), Option.getD_some]
    | closed => exact absurd ((command_eq_closed_iff e).1 hc).1 (hmem e he)
  | none =>
    have hnone := (lastCommand_eq_none_iff m v _).1 hcmd
    rw [if_neg, Option.getD_none]
    rw [hdem]
    rintro ⟨e, he, hv, hc⟩
    exact hmem e he (((command_eq_none_iff e).1 (hnone e he hv)).2 hc)

theorem attended_pass_setNewSchedules_iff {c : Device} (hs : Shadowed c.valvesMap)
    (sches : List Schedule) (m : UInt16) :
    ((c.setNewSchedules sches).pass m).Attended m ↔
      ∀ x ∈ c.valvesMap, x.vState = .opened → Demanded sches m x.vId := by
  have hs' : Shadowed ((c.setNewSchedules sches).pass m).valvesMap := shadowed_pass m hs
  rw [attended_iff hs', table_pass, table_setNewSchedules]
  constructor
  · intro h x hx ho
    refine h _ ?_
    rw [read_pass_setNewSchedules, hs.read_eq_opened hx ho, Option.map_some]
    split_ifs <;> rfl
  · intro h v hv
    rw [read_pass_setNewSchedules, Option.map_eq_some_iff] at hv
    obtain ⟨st, hst, hv⟩ := hv
    split_ifs at hv with hdem
    · exact hdem
    · subst hv
      exact h _ (exists_mem_of_vmRead hst) rfl

end Device

/-- At every pass of the run the device ends up attended, exactly when every replacement that a
pass follows is of a list that demands all the valves open at that moment. -/
theorem run_attended_iff {c₀ : Device} (hclosed : ∀ x ∈ c₀.valvesMap, x.vState = .closed)
    (es : List Event) :
    (∀ pre m post, es = pre ++ .pass m :: post → ((run Device.step c₀ pre).pass m).Attended m) ↔
      ∀ pre sches m post, es = pre ++ .setNewSchedules sches :: .pass m :: post →
        ∀ x ∈ (run Device.step c₀ pre).valvesMap, x.vState = .opened →
          Demanded sches m x.vId := by
  have hshadow (pre : List Event) : Shadowed (run Device.step c₀ pre).valvesMap :=
    run_invariant (I := fun c : Device => Shadowed c.valvesMap)
      (fun _ e h => Device.shadowed_step e h) (shadowed_of_closed hclosed) pre
  constructor
  · intro h pre sches m post hes
    rw [← Device.attended_pass_setNewSchedules_iff (hshadow pre)]
    have := h (pre ++ [.setNewSchedules sches]) m post (by rw [hes]; simp)
    rwa [run_append] at this
  · intro h pre
    -- A pass after a pass finds the valves tended, a pass after a replacement meets its condition.
    induction pre using List.reverseRecOn with
    | nil =>
      intro m post _
      exact (Device.tended_of_closed hclosed).attended_pass (shadowed_of_closed hclosed) m
    | append_singleton pre e ih =>
      intro m post hes
      rw [run_append, run_cons, run_nil]
      cases e with
      | setNewSchedules sches =>
        exact (Device.attended_pass_setNewSchedules_iff (hshadow pre) sches m).2
          (h pre sches m post (by rw [hes]; simp))
      | pass m' =>
        have hatt := ih m' (.pass m :: post) (by rw [hes]; simp)
        exact (hatt.tended (hshadow pre)).attended_pass
          (Device.shadowed_pass m' (hshadow pre)) m

/-- Replacing the table is safe exactly when the new list still demands every open valve: at every
state reachable from all valves closed, and so at every pass of every run. -/
theorem attended_after_replacement_iff (c₀ : Device)
    (hclosed : ∀ x ∈ c₀.valvesMap, x.vState = .closed) (es : List Event) :
    (∀ sches m, (((run Device.step c₀ es).setNewSchedules sches).pass m).Attended m ↔
      ∀ x ∈ (run Device.step c₀ es).valvesMap, x.vState = .opened → Demanded sches m x.vId) ∧
    ((∀ pre m post, es = pre ++ .pass m :: post →
        ((run Device.step c₀ pre).pass m).Attended m) ↔
      ∀ pre sches m post, es = pre ++ .setNewSchedules sches :: .pass m :: post →
        ∀ x ∈ (run Device.step c₀ pre).valvesMap, x.vState = .opened →
          Demanded sches m x.vId) :=
  ⟨fun sches m => Device.attended_pass_setNewSchedules_iff
      (run_invariant (I := fun c : Device => Shadowed c.valvesMap)
        (fun _ e h => Device.shadowed_step e h) (shadowed_of_closed hclosed) es) sches m,
    run_attended_iff hclosed es⟩

/-- The condition on a run that waters valve 1 from minute 5 to 7 and replaces the table in
between by a list that keeps the schedule. -/
theorem attended_after_replacement_iff_valve_one :
    (∀ x ∈ (vmInitSetValves [1]), x.vState = .closed) ∧
      (((run Device.step (Device.start [1])
        [.setNewSchedules [⟨1, 1, 5, 7⟩], .pass 5]).setNewSchedules [⟨1, 1, 5, 7⟩]).pass
          6).Attended 6 :=
  ⟨by decide, ((attended_after_replacement_iff (Device.start [1]) (by decide)
    [.setNewSchedules [⟨1, 1, 5, 7⟩], .pass 5]).1 [⟨1, 1, 5, 7⟩] 6).2 (by decide)⟩

/-- Dropping the schedule that is watering valve 1 leaves the valve open with nothing to close it.
-/
theorem not_attended_after_dropped_schedule :
    ¬ (((run Device.step (Device.start [1])
      [.setNewSchedules [⟨1, 1, 5, 7⟩], .pass 5]).setNewSchedules []).pass 6).Attended 6 := by
  decide

/-! ## Demanded valves -/

namespace Device

/-- Where a valve stays demanded at the minute `m`, no entry of it that ends comes after every entry
of it that begins: each one that ends is followed in the table by one that begins. -/
def NoLateClose (m : UInt16) (c : Device) : Prop :=
  ∀ pre e post, c.sm.ss = pre ++ e :: post → e.isActive → ¬ e.sche.covers m →
    Demanded c.table m e.sche.valveId →
      ∃ e' ∈ post, e'.sche.valveId = e.sche.valveId ∧ ¬ e'.isActive ∧ e'.sche.covers m

/-- An active entry's valve is in the map and reads `OPEN`. -/
def Opened (c : Device) : Prop :=
  ∀ e ∈ c.sm.ss, ∃ st, vmRead c.valvesMap e.sche.valveId = some st ∧ (e.isActive → st = .opened)

variable {c : Device} {m : UInt16}

theorem Watered.opened_pass (ho : c.Opened) (h : (c.pass m).Watered m) : (c.pass m).Opened := by
  rw [watered_iff] at h
  intro e he
  have hmem := he
  rw [pass_ss, List.mem_map] at he
  obtain ⟨e₀, he₀, rfl⟩ := he
  obtain ⟨st, hst, -⟩ := ho e₀ he₀
  have hread : vmRead (c.pass m).valvesMap (refresh m e₀).sche.valveId =
      some ((lastCommand m e₀.sche.valveId c.sm.ss).getD st) := by
    rw [refresh_sche, vmRead_pass, hst, Option.map_some]
  refine ⟨_, hread, fun hact => ?_⟩
  have := h _ hmem (by simpa using hact)
  rwa [hread, Option.some_inj] at this

/-- An entry that closes a demanded valve with no later one to open it again leaves it closed. -/
theorem Watered.noLateClose (h : (c.pass m).Watered m) : c.NoLateClose m := by
  rw [watered_iff] at h
  intro pre e post hss ha hc hdem
  rw [demanded_table_iff] at hdem
  obtain ⟨e₁, he₁, hv₁, hc₁⟩ := hdem
  by_contra hno
  -- With no later entry that begins, the valve's last command is a `CLOSED` one.
  have hclose : lastCommand m e.sche.valveId c.sm.ss = some .closed := by
    rw [hss, lastCommand_append, lastCommand, if_pos rfl, (command_eq_closed_iff e).2 ⟨ha, hc⟩]
    cases hpost : lastCommand m e.sche.valveId post with
    | none => rfl
    | some st =>
      obtain ⟨e', he', hv', hcmd⟩ := exists_mem_of_lastCommand hpost
      cases st with
      | closed => rfl
      | opened => exact absurd ⟨e', he', hv', (command_eq_opened_iff e').1 hcmd⟩ hno
  have hopen := h (refresh m e₁) (by rw [pass_ss]; exact List.mem_map_of_mem he₁)
    (by simpa using hc₁)
  rw [refresh_sche, hv₁, vmRead_pass, hclose, Option.map_eq_some_iff] at hopen
  obtain ⟨st, -, hst⟩ := hopen
  cases hst

/-- Where no entry closes a valve too late, the last command for a demanded valve opens it, or there
is none and the valve was open. -/
theorem NoLateClose.watered (ho : c.Opened) (h : c.NoLateClose m) : (c.pass m).Watered m := by
  rw [watered_iff]
  intro e he hc
  rw [pass_ss, List.mem_map] at he
  obtain ⟨e₀, he₀, rfl⟩ := he
  rw [refresh_sche] at hc ⊢
  obtain ⟨st, hst, hopen⟩ := ho e₀ he₀
  rw [vmRead_pass, hst, Option.map_some, Option.some_inj]
  cases hlast : lastCommand m e₀.sche.valveId c.sm.ss with
  | none =>
    -- Nothing changed for the valve, so the covering entry was active before.
    have hnone := (lastCommand_eq_none_iff m _ c.sm.ss).1 hlast e₀ he₀ rfl
    exact hopen (((command_eq_none_iff e₀).1 hnone).2 hc)
  | some cmd =>
    cases cmd with
    | opened => rfl
    | closed =>
      obtain ⟨pre, e, post, hss, hv, hcmd, hpost⟩ := exists_split_of_lastCommand hlast
      obtain ⟨ha, hnc⟩ := (command_eq_closed_iff e).1 hcmd
      obtain ⟨e', he', hv', hbegin⟩ := h pre e post hss ha hnc
        ((demanded_table_iff _).2 ⟨e₀, he₀, hv.symm, hc⟩)
      have := hpost e' he' (hv'.trans hv)
      rw [(command_eq_opened_iff e').2 hbegin] at this
      cases this

end Device

/-- A scheduled valve is watering after every pass of the run, exactly when at no pass of the run an
entry closes a valve too late. -/
theorem watered_iff_noLateClose (valveIds : List UInt16) (sches : List Schedule)
    (hids : ∀ s ∈ sches, s.valveId ∈ valveIds) (minutes : List UInt16) :
    Along Device.pass (fun c m => (c.pass m).Watered m)
        ((Device.start valveIds).setNewSchedules sches) minutes ↔
      Along Device.pass (fun c m => c.NoLateClose m)
        ((Device.start valveIds).setNewSchedules sches) minutes := by
  refine along_congr_of_invariant (I := Device.Opened) minutes
    (fun c m ho => ⟨fun h => h.noLateClose, fun h => h.watered ho⟩)
    (fun c m ho h => h.opened_pass ho) ?_
  intro e he
  rw [Device.setNewSchedules_ss, List.mem_map] at he
  obtain ⟨s, hs, rfl⟩ := he
  refine ⟨.closed, ?_, fun h => absurd h (by simp)⟩
  show vmRead (vmInitSetValves valveIds) s.valveId = _
  rw [vmRead_init, if_pos (hids s hs)]

/-- The condition on two schedules of one valve that do not meet. -/
theorem watered_iff_noLateClose_two :
    (∀ s ∈ ([⟨1, 1, 5, 7⟩, ⟨2, 1, 9, 10⟩] : List Schedule), s.valveId ∈ ([1] : List UInt16)) ∧
      (Along Device.pass (fun c m => (c.pass m).Watered m)
          ((Device.start [1]).setNewSchedules [⟨1, 1, 5, 7⟩, ⟨2, 1, 9, 10⟩]) [6, 9] ↔
        Along Device.pass (fun c m => c.NoLateClose m)
          ((Device.start [1]).setNewSchedules [⟨1, 1, 5, 7⟩, ⟨2, 1, 9, 10⟩]) [6, 9]) :=
  ⟨by decide, watered_iff_noLateClose [1] [⟨1, 1, 5, 7⟩, ⟨2, 1, 9, 10⟩] (by decide) [6, 9]⟩

/-- Valve 1 is scheduled from 0 to 20 and from 5 to 10; at minute 11 the second schedule ends and
closes the valve under the first. -/
theorem not_watered_overlapping :
    ¬ Along Device.pass (fun c m => (c.pass m).Watered m)
      ((Device.start [1]).setNewSchedules [⟨1, 1, 0, 20⟩, ⟨2, 1, 5, 10⟩]) [7, 11] := by
  simp only [along_cons, along_nil]
  decide

/-! ## A valve with one schedule -/

namespace Device

/-- Every entry for the valve of the schedule `s` is an entry of `s`, and the valve is in the map
and reads `OPEN` while such an entry is active. -/
structure Follows (s : Schedule) (c : Device) : Prop where
  entry : ∀ e ∈ c.sm.ss, e.sche.valveId = s.valveId →
    e.sche = s ∧ (e.isActive → vmRead c.valvesMap s.valveId = some .opened)
  inMap : (vmRead c.valvesMap s.valveId).isSome

variable {c : Device} {s : Schedule} {m : UInt16}

theorem Follows.read_pass (h : c.Follows s) (hs : s ∈ c.table) (hc : s.covers m) :
    vmRead (c.pass m).valvesMap s.valveId = some .opened := by
  obtain ⟨e, he, rfl⟩ := List.mem_map.1 hs
  obtain ⟨st, hst⟩ := Option.isSome_iff_exists.1 h.inMap
  rw [vmRead_pass, hst, Option.map_some, Option.some_inj]
  cases hcmd : lastCommand m e.sche.valveId c.sm.ss with
  | none =>
    -- Nothing changed for the valve, so its entry was active.
    have hnone := (lastCommand_eq_none_iff m _ c.sm.ss).1 hcmd e he rfl
    have hopen := (h.entry e he rfl).2 (((command_eq_none_iff e).1 hnone).2 hc)
    rwa [hst, Option.some_inj] at hopen
  | some cmd =>
    obtain ⟨e', he', hv, hcmd'⟩ := exists_mem_of_lastCommand hcmd
    cases cmd with
    | opened => rfl
    | closed =>
      -- A schedule of the valve that ends is `s`, which goes on.
      refine absurd hc ?_
      rw [← (h.entry e' he' hv).1]
      exact ((command_eq_closed_iff e').1 hcmd').2

theorem Follows.pass (h : c.Follows s) (m : UInt16) : (c.pass m).Follows s := by
  refine ⟨fun e he hv => ?_, ?_⟩
  · rw [pass_ss, List.mem_map] at he
    obtain ⟨e, he, rfl⟩ := he
    rw [refresh_sche] at hv ⊢
    have hsame := (h.entry e he hv).1
    refine ⟨hsame, fun hact => h.read_pass (hsame ▸ List.mem_map_of_mem he) ?_⟩
    rw [refresh_isActive, decide_eq_true_eq, hsame] at hact
    exact hact
  · rw [vmRead_pass, Option.isSome_map]
    exact h.inMap

theorem follows_setNewSchedules {sches : List Schedule}
    (hsole : ∀ s' ∈ sches, s'.valveId = s.valveId → s' = s)
    (hmap : (vmRead c.valvesMap s.valveId).isSome) : (c.setNewSchedules sches).Follows s := by
  refine ⟨fun e he hv => ?_, hmap⟩
  rw [setNewSchedules_ss, List.mem_map] at he
  obtain ⟨s', hs', rfl⟩ := he
  exact ⟨hsole s' hs' hv, fun h => absurd h Bool.false_ne_true⟩

@[simp] theorem table_run_pass (c : Device) (minutes : List UInt16) :
    (run pass c minutes).table = c.table :=
  run_invariant (I := fun c' : Device => c'.table = c.table) (fun _ _ h => table_pass.trans h) rfl
    minutes

/-- Over a new table, a schedule opens its valve at the first pass, and at every pass within it if
no other schedule is for the valve. -/
theorem read_run_pass {sches : List Schedule} (hs : s ∈ sches)
    (hmap : (vmRead c.valvesMap s.valveId).isSome) {minutes : List UInt16}
    (hsole : minutes = [] ∨ ∀ s' ∈ sches, s'.valveId = s.valveId → s' = s) (hc : s.covers m) :
    vmRead ((run pass (c.setNewSchedules sches) minutes).pass m).valvesMap s.valveId =
      some .opened := by
  rcases hsole with rfl | hsole
  · obtain ⟨st, hst⟩ := Option.isSome_iff_exists.1 hmap
    rw [run_nil, read_pass_setNewSchedules, hst, Option.map_some, if_pos ⟨s, hs, rfl, hc⟩]
  · have hfollows : (run pass (c.setNewSchedules sches) minutes).Follows s :=
      run_invariant (I := fun c : Device => c.Follows s) (fun _ m h => h.pass m)
        (follows_setNewSchedules hsole hmap) minutes
    refine hfollows.read_pass ?_ hc
    rwa [table_run_pass, table_setNewSchedules]

end Device

end Bbd.Client
