import Bbd.Schedule
import Bbd.Lib.FirstMatch

/-!
# The valve manager of the device

`valve_manager.c` keeps the valves in an array that both the setter and the getter search from the
front.  Two entries may carry the same id; only the first one is ever read or written, so an entry
behind another of its id stays `CLOSED` (`Shadowed`).
-/

namespace Bbd.Client

open FirstMatch

/-- `enum valve_state`. -/
inductive ValveState where
  | closed
  | opened
  deriving DecidableEq, Repr, Inhabited

/-- `struct valve_map_entry`. -/
structure ValveMapEntry where
  vId : UInt16
  vState : ValveState
  deriving DecidableEq, Repr

/-- `_valves_map`, `_n_valves` entries long. -/
abbrev ValvesMap := List ValveMapEntry

/-- `vm_init_set_valves`. -/
def vmInitSetValves (valveIds : List UInt16) : ValvesMap :=
  valveIds.map fun id => ⟨id, .closed⟩

/-- `vm_set_valve_state`: the return code and the map it leaves. -/
def vmSetValveState (valveId : UInt16) (newstate : ValveState) : ValvesMap → ℕ × ValvesMap
  | [] => (1, [])
  | e :: es =>
    if e.vId == valveId then (0, { e with vState := newstate } :: es)
    else
      let r := vmSetValveState valveId newstate es
      (r.1, e :: r.2)

/-- `vm_get_valve_state`: the return code and the output variable, which held `out` before. -/
def vmGetValveState (valveId : UInt16) (out : ValveState) : ValvesMap → ℕ × ValveState
  | [] => (1, out)
  | e :: es => if e.vId == valveId then (0, e.vState) else vmGetValveState valveId out es

/-! ## The map as it reads -/

/-- The state a search for `v` finds, if any. -/
def vmRead (map : ValvesMap) (v : UInt16) : Option ValveState :=
  (map.find? fun e => e.vId == v).map (·.vState)

@[simp] theorem vmRead_nil (v : UInt16) : vmRead [] v = none := rfl

theorem vmRead_cons (e : ValveMapEntry) (es : ValvesMap) (v : UInt16) :
    vmRead (e :: es) v = if e.vId = v then some e.vState else vmRead es v := by
  by_cases h : e.vId = v <;> simp [vmRead, h]

theorem vmGetValveState_eq (v : UInt16) (out : ValveState) (map : ValvesMap) :
    vmGetValveState v out map =
      match vmRead map v with
      | some st => (0, st)
      | none => (1, out) := by
  induction map with
  | nil => rfl
  | cons e es ih =>
    rw [vmGetValveState, vmRead_cons]
    by_cases h : e.vId = v <;> simp [h, ih]

theorem vmSetValveState_snd (v : UInt16) (st : ValveState) (map : ValvesMap) :
    (vmSetValveState v st map).2 =
      modifyFirst (fun e => e.vId == v) (fun e => { e with vState := st }) map := by
  induction map with
  | nil => rfl
  | cons e es ih =>
    rw [vmSetValveState, modifyFirst]
    by_cases h : e.vId = v <;> simp [h, ih]

/-- A set is read back by a get of the same id, where the id is in the map at all. -/
theorem vmRead_set (v : UInt16) (st : ValveState) (map : ValvesMap) :
    vmRead (vmSetValveState v st map).2 v = (vmRead map v).map fun _ => st := by
  have hkey : ∀ x : ValveMapEntry, (x.vId == v) = true →
      (({ x with vState := st } : ValveMapEntry).vId == v) = true := fun x hx => hx
  rw [vmSetValveState_snd, vmRead, find?_modifyFirst hkey, vmRead, Option.map_map, Option.map_map]
  rfl

theorem vmRead_set_of_ne {v w : UInt16} (h : w ≠ v) (st : ValveState) (map : ValvesMap) :
    vmRead (vmSetValveState v st map).2 w = vmRead map w := by
  rw [vmSetValveState_snd, vmRead, find?_modifyFirst_of_disjoint, vmRead]
  intro x hx
  rw [beq_iff_eq] at hx
  simp [hx, h.symm]

theorem mem_of_mem_set {v : UInt16} {st : ValveState} {map : ValvesMap} {y : ValveMapEntry}
    (hy : y ∈ (vmSetValveState v st map).2) :
    y ∈ map ∨ y = ⟨v, st⟩ ∧ ∃ x ∈ map, x.vId = v := by
  rw [vmSetValveState_snd] at hy
  rcases mem_modifyFirst hy with hold | ⟨x, hx, hid, rfl⟩
  · exact Or.inl hold
  · rw [beq_iff_eq] at hid
    exact Or.inr ⟨by rw [← hid], x, hx, hid⟩

theorem vmRead_init (ids : List UInt16) (v : UInt16) :
    vmRead (vmInitSetValves ids) v = if v ∈ ids then some .closed else none := by
  induction ids with
  | nil => rfl
  | cons i is ih =>
    rw [vmInitSetValves, List.map_cons, vmRead_cons]
    show (if i = v then _ else vmRead (vmInitSetValves is) v) = _
    rw [ih]
    by_cases h : i = v
    · simp [h]
    · simp [h, Ne.symm h]

/-! ## Entries behind another of their id -/

/-- An entry behind another of its id is closed. -/
def Shadowed (map : ValvesMap) : Prop :=
  map.Pairwise fun a b => a.vId = b.vId → b.vState = .closed

theorem shadowed_of_closed {map : ValvesMap} (h : ∀ x ∈ map, x.vState = .closed) :
    Shadowed map :=
  List.Pairwise.imp_of_mem (fun _ hb _ _ => h _ hb)
    (List.pairwise_of_forall (R := fun _ _ => True) fun _ _ => trivial)

theorem Shadowed.set {map : ValvesMap} (h : Shadowed map) (v : UInt16) (st : ValveState) :
    Shadowed (vmSetValveState v st map).2 := by
  unfold Shadowed
  rw [vmSetValveState_snd]
  refine pairwise_modifyFirst ?_ ?_ h
  · intro x y _ hxy
    exact hxy
  · -- An entry in front of the written one has another id.
    intro x y hx hy hxy
    rw [beq_iff_eq] at hy
    exact absurd (hxy.trans hy) (by simpa using hx)

/-- An open entry is the one that is read. -/
theorem Shadowed.read_eq_opened {map : ValvesMap} (h : Shadowed map) {x : ValveMapEntry}
    (hx : x ∈ map) (ho : x.vState = .opened) : vmRead map x.vId = some .opened := by
  induction map with
  | nil => cases hx
  | cons e es ih =>
    obtain ⟨he, hes⟩ := List.pairwise_cons.1 h
    rw [vmRead_cons]
    rcases List.mem_cons.1 hx with rfl | hx
    · simp [ho]
    · split_ifs with hid
      · exact absurd ((he x hx hid).symm.trans ho) (by decide)
      · exact ih hes hx

theorem exists_mem_of_vmRead {map : ValvesMap} {v : UInt16} {st : ValveState}
    (h : vmRead map v = some st) : (⟨v, st⟩ : ValveMapEntry) ∈ map := by
  rw [vmRead, Option.map_eq_some_iff] at h
  obtain ⟨e, he, rfl⟩ := h
  have hid : e.vId = v := by simpa using List.find?_some he
  subst hid
  exact List.mem_of_find?_eq_some he

end Bbd.Client
