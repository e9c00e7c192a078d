import Bbd.Server.Growth
import Bbd.System.Exchange

/-!
# The buffers of the device

The accesses that a fetch of schedules and a pass of the scheduler make to the buffers `rsp`,
`rsp_sches` and `_ss`, each with the size that its buffer was given.  A record has 8 bytes on the
wire and 10 in the table, so the 16-bit size of the table wraps from 6554 schedules on, where the
length of the reply does not: the accesses stay inside exactly below that (`buffersHold_iff`).
-/

namespace Bbd.Client

open Server

/-- An access to a buffer: the size given to its `malloc`, the offset, and the number of bytes. -/
structure Access where
  size : ℕ
  offset : ℕ
  width : ℕ
  deriving DecidableEq, Repr

/-- The access lies inside the buffer. -/
def Access.Inside (a : Access) : Prop := a.offset + a.width ≤ a.size

/-- The decode loop: `sd_decode_schedule` reads four fields of `rsp` and writes a record of
`rsp_sches`, both of `rsp_len` bytes. -/
def decodeAccesses (rspLen : UInt16) : List Access :=
  (List.range (rspLen / 8).toNat).flatMap fun i =>
    [⟨rspLen.toNat, i * 8, 2⟩, ⟨rspLen.toNat, i * 8 + 2, 2⟩, ⟨rspLen.toNat, i * 8 + 4, 2⟩,
      ⟨rspLen.toNat, i * 8 + 6, 2⟩, ⟨rspLen.toNat, 8 * i, 8⟩]

/-- The copy loop of `sm_set_new_schedules`: a read of `sches`, and the writes of `_ss[i].sche` and
`_ss[i].is_active`. -/
def copyAccesses (rspLen : UInt16) (sches : List Schedule) : List Access :=
  (List.range sches.length).flatMap fun i =>
    [⟨rspLen.toNat, 8 * i, 8⟩, ⟨(smSetNewSchedules sches).ssBytesize.toNat, 10 * i, 8⟩,
      ⟨(smSetNewSchedules sches).ssBytesize.toNat, 10 * i + 8, 1⟩]

/-- What `cc_set_active_schedules` and `cc_check_new_schedules` do with a reply of length `rsp_len`.
-/
def fetchAccesses (e : Endian) (rspLen : UInt16) (body : List UInt8) : List Access :=
  if rspLen > 0 then
    decodeAccesses rspLen ++ copyAccesses rspLen (decodeSchedules e (rspLen / 8).toNat body)
  else []

/-- The `//activate schedule` block for `_ss[i]`: its condition reads `is_active`, `start` and
`stop` as far as it needs to, its body reads `valve_id` and writes `is_active`. -/
def activateAccesses (currMins : UInt16) (size i : ℕ) (e : ScheduleStatus) : List Access :=
  ⟨size, 10 * i + 8, 1⟩ ::
    if e.isActive then []
    else ⟨size, 10 * i + 4, 2⟩ ::
      if e.sche.start ≤ currMins then ⟨size, 10 * i + 6, 2⟩ ::
        if e.sche.stop ≥ currMins then [⟨size, 10 * i + 2, 2⟩, ⟨size, 10 * i + 8, 1⟩] else []
      else []

/-- The `//deactivate schedule` block for `_ss[i]`. -/
def deactivateAccesses (currMins : UInt16) (size i : ℕ) (e : ScheduleStatus) : List Access :=
  ⟨size, 10 * i + 8, 1⟩ ::
    if e.isActive then ⟨size, 10 * i + 4, 2⟩ ::
      if currMins < e.sche.start then [⟨size, 10 * i + 2, 2⟩, ⟨size, 10 * i + 8, 1⟩]
      else ⟨size, 10 * i + 6, 2⟩ ::
        if currMins > e.sche.stop then [⟨size, 10 * i + 2, 2⟩, ⟨size, 10 * i + 8, 1⟩] else []
    else []

/-- The loop of `_sm_run_scheduler_thread` from the `i`-th entry on. -/
def passAccesses (currMins : UInt16) (size : ℕ) : ℕ → ValvesMap → List ScheduleStatus → List Access
  | _, _, [] => []
  | i, map, e :: es =>
    let a := activateSchedule currMins map e
    let d := deactivateSchedule currMins a.1 a.2
    activateAccesses currMins size i e ++ deactivateAccesses currMins size i a.2 ++
      passAccesses currMins size (i + 1) d.1 es

/-- The accesses of a pass over the table of the device. -/
def Device.passAccesses (c : Device) (currMins : UInt16) : List Access :=
  Client.passAccesses currMins c.sm.ssBytesize.toNat 0 c.valvesMap c.sm.ss

/-- The buffer of the table holds every entry, up to its flag. -/
def ScheduleManager.Room (sm : ScheduleManager) : Prop :=
  ∀ i < sm.ss.length, 10 * i + 9 ≤ sm.ssBytesize.toNat

/-! ## The accesses of the loops -/

section Loops

variable (currMins : UInt16) (size i : ℕ) (e : ScheduleStatus)

theorem activateAccesses_inside_iff :
    (∀ a ∈ activateAccesses currMins size i e, a.Inside) ↔ 10 * i + 9 ≤ size := by
  unfold activateAccesses
  split_ifs <;>
    simp only [List.forall_mem_cons, List.not_mem_nil, false_imp_iff, implies_true, and_true,
      Access.Inside] <;>
    omega

theorem deactivateAccesses_inside_iff :
    (∀ a ∈ deactivateAccesses currMins size i e, a.Inside) ↔ 10 * i + 9 ≤ size := by
  unfold deactivateAccesses
  split_ifs <;>
    simp only [List.forall_mem_cons, List.not_mem_nil, false_imp_iff, implies_true, and_true,
      Access.Inside] <;>
    omega

theorem passAccesses_inside_iff (map : ValvesMap) (es : List ScheduleStatus) :
    (∀ a ∈ passAccesses currMins size i map es, a.Inside) ↔
      ∀ j < es.length, 10 * (i + j) + 9 ≤ size := by
  induction es generalizing i map with
  | nil => simp [passAccesses]
  | cons e es ih =>
    simp only [passAccesses, List.forall_mem_append, activateAccesses_inside_iff,
      deactivateAccesses_inside_iff, and_self, ih]
    constructor
    · rintro ⟨hfirst, hrest⟩ j hj
      cases j with
      | zero => exact hfirst
      | succ j =>
        have := hrest j (by rw [List.length_cons] at hj; omega)
        omega
    · intro h
      refine ⟨h 0 (Nat.succ_pos _), fun j hj => ?_⟩
      have := h (j + 1) (by rw [List.length_cons]; omega)
      omega

end Loops

theorem Device.passAccesses_inside_iff (c : Device) (currMins : UInt16) :
    (∀ a ∈ c.passAccesses currMins, a.Inside) ↔ c.sm.Room := by
  rw [Device.passAccesses, Client.passAccesses_inside_iff]
  simp only [Nat.zero_add, ScheduleManager.Room]

/-- The decode loop stays inside `rsp` and `rsp_sches`, whatever the length. -/
theorem decodeAccesses_inside (rspLen : UInt16) : ∀ a ∈ decodeAccesses rspLen, a.Inside := by
  intro a ha
  obtain ⟨i, hi, ha⟩ := List.mem_flatMap.1 ha
  rw [List.mem_range, UInt16.toNat_div] at hi
  have hi : i < rspLen.toNat / 8 := hi
  simp only [List.mem_cons, List.not_mem_nil, or_false] at ha
  rcases ha with rfl | rfl | rfl | rfl | rfl <;> simp only [Access.Inside] <;> omega

theorem copyAccesses_inside_iff {rspLen : UInt16} {sches : List Schedule}
    (hlen : sches.length = (rspLen / 8).toNat) :
    (∀ a ∈ copyAccesses rspLen sches, a.Inside) ↔ (smSetNewSchedules sches).Room := by
  have hn : sches.length = rspLen.toNat / 8 := hlen.trans (UInt16.toNat_div _ _)
  have hss : (smSetNewSchedules sches).ss.length = sches.length := List.length_map _
  simp only [copyAccesses, List.forall_mem_flatMap, List.mem_range, List.forall_mem_cons,
    List.not_mem_nil, false_imp_iff, implies_true, and_true, Access.Inside, ScheduleManager.Room,
    hss]
  constructor
  · intro h i hi
    have := (h i hi).2.2
    omega
  · intro h i hi
    have := h i hi
    omega

theorem toNat_ssBytesize (sches : List Schedule) :
    (smSetNewSchedules sches).ssBytesize.toNat = 10 * sches.length % 65536 :=
  UInt16.toNat_ofNat'

/-- The table of `n` schedules has room exactly when `10 * n` does not wrap. -/
theorem room_setNewSchedules_iff {sches : List Schedule} (hlen : sches.length ≤ 8191) :
    (smSetNewSchedules sches).Room ↔ sches.length ≤ 6553 := by
  have hss : (smSetNewSchedules sches).ss.length = sches.length := List.length_map _
  rw [ScheduleManager.Room, hss, toNat_ssBytesize]
  constructor
  · intro h
    by_contra hlt
    have := h (sches.length - 1) (by omega)
    omega
  · intro h i hi
    omega

end Bbd.Client

namespace Bbd

open Server Client

/-- The buffers of a device hold the reply `rsp_len`, `body` that it has fetched, with the state `c`
behind it, and the next pass of the scheduler: every access lies inside, and a new table has 10
bytes for every schedule. -/
structure BuffersHold (e : Endian) (rspLen : UInt16) (body : List UInt8) (currMins : UInt16)
    (c : Device) : Prop where
  fetch : ∀ a ∈ fetchAccesses e rspLen body, a.Inside
  pass : ∀ a ∈ c.passAccesses currMins, a.Inside
  malloc : rspLen > 0 → (rspLen / 8).toNat * 10 ≤ c.sm.ssBytesize.toNat

theorem length_decodeSchedules (e : Endian) (n : ℕ) (rsp : List UInt8) :
    (decodeSchedules e n rsp).length = n := by
  rw [decodeSchedules, List.length_map, List.length_range]

theorem fetch_of_length (server client : Endian) (stale : Stale) (c : Device) {type : RequestType}
    (htype : type.listsSchedules) {rspLen : UInt16} {body : List UInt8}
    (hbody : body.length = rspLen.toNat) (timesOut : Bool) :
    (c.fetch client stale (some ⟨prepToSend16 server rspLen ++ body, timesOut⟩) type).2 =
      if rspLen = 0 then c
      else c.setNewSchedules (decodeSchedules client (rspLen / 8).toNat body) := by
  have hfetch : fetchSchedules client stale
      (some ⟨prepToSend16 server rspLen ++ body, timesOut⟩) c = _ :=
    fetchSchedules_of_length server hbody timesOut
  cases type with
  | getDeviceValvesMsg => cases htype
  | getActiveSchesMsg => exact congrArg Prod.snd hfetch
  | checkNewSchedulesMsg => exact congrArg Prod.snd hfetch

/-- The buffers hold a reply exactly up to 6553 schedules, and an empty one if they held the table
that stays in place. -/
theorem buffersHold_iff (server client : Endian) (stale : Stale) (c : Device) (type : RequestType)
    (htype : type.listsSchedules) (rspLen : UInt16) (body : List UInt8)
    (hbody : body.length = rspLen.toNat) (timesOut : Bool) (currMins : UInt16) :
    BuffersHold client rspLen body currMins (c.fetch client stale
        (some ⟨prepToSend16 server rspLen ++ body, timesOut⟩) type).2 ↔
      rspLen.toNat / 8 ≤ 6553 ∧ (rspLen = 0 → c.sm.Room) := by
  rw [fetch_of_length server client stale c htype hbody timesOut]
  by_cases hzero : rspLen = 0
  · subst hzero
    constructor
    · intro h
      exact ⟨Nat.zero_le _, fun _ => (c.passAccesses_inside_iff currMins).1 h.pass⟩
    · rintro ⟨-, hroom⟩
      refine ⟨?_, (c.passAccesses_inside_iff currMins).2 (hroom rfl), fun h => absurd h (by decide)⟩
      intro a ha
      cases ha
  · have hpos : rspLen > 0 := UInt16.pos_iff_ne_zero.2 hzero
    have hdiv : (rspLen / 8).toNat = rspLen.toNat / 8 := UInt16.toNat_div _ _
    have hlen := length_decodeSchedules client (rspLen / 8).toNat body
    have hlt := rspLen.toNat_lt
    have hle : (decodeSchedules client (rspLen / 8).toNat body).length ≤ 8191 := by
      rw [hlen, hdiv]
      omega
    have hroom := room_setNewSchedules_iff hle
    rw [hlen] at hroom
    rw [if_neg hzero, and_iff_left (fun h => absurd h hzero), ← hdiv, ← hroom]
    constructor
    · intro h
      exact (Device.passAccesses_inside_iff _ currMins).1 h.pass
    · intro h
      refine ⟨?_, (Device.passAccesses_inside_iff _ currMins).2 h, fun _ => ?_⟩
      · rw [fetchAccesses, if_pos hpos, List.forall_mem_append]
        exact ⟨decodeAccesses_inside rspLen, (copyAccesses_inside_iff hlen).2 h⟩
      · have hsize := toNat_ssBytesize (decodeSchedules client (rspLen / 8).toNat body)
        have := hroom.1 h
        rw [hlen] at hsize
        show (rspLen / 8).toNat * 10 ≤ (smSetNewSchedules _).ssBytesize.toNat
        rw [hsize]
        omega

/-- A reply with one schedule, and the pass at minute 6, which opens its valve. -/
theorem buffersHold_iff_one :
    BuffersHold .big 8 [0, 1, 0, 1, 0, 5, 0, 7] 6 ((Device.start [1]).fetch .big
      ⟨fun _ => 0, fun _ => 0⟩ (some ⟨prepToSend16 .little 8 ++ [0, 1, 0, 1, 0, 5, 0, 7], false⟩)
        .checkNewSchedulesMsg).2 :=
  (buffersHold_iff .little .big ⟨fun _ => 0, fun _ => 0⟩ (Device.start [1]) .checkNewSchedulesMsg
    rfl 8 [0, 1, 0, 1, 0, 5, 0, 7] rfl false 6).2 ⟨by decide, fun h => absurd h (by decide)⟩

/-- The receiver answers with 6554 schedules, and the device allocates a table of 4 bytes for them.
-/
theorem not_buffersHold_crowded :
    ∃ body, body.length = 52432 ∧
      (serveRequest .little .calm 1 (Db.crowded 6554) .getActiveSchesMsg).reply =
        some (prepToSend16 .little 52432 ++ body) ∧
      ((Device.start [1]).fetch .little ⟨fun _ => 0, fun _ => 0⟩
        (some ⟨prepToSend16 .little 52432 ++ body, false⟩) .getActiveSchesMsg).2.sm.ssBytesize = 4 ∧
      ¬ BuffersHold .little 52432 body 0 ((Device.start [1]).fetch .little
        ⟨fun _ => 0, fun _ => 0⟩ (some ⟨prepToSend16 .little 52432 ++ body, false⟩)
          .getActiveSchesMsg).2 := by
  obtain ⟨sches, sents, hfetch, hlen⟩ := fetch_crowded (n := 6554) (by decide)
  have hmod : sches.length % 8192 = 6554 := by rw [hlen]
  have hbody : ((scheduleCodec .little .little).encodeAll (sches.take 6554)).length = 52432 := by
    rw [RecordCodec.length_encodeAll, List.length_take, hlen]
    rfl
  have hreply : scheduleReply .little sches =
      prepToSend16 .little 52432 ++
        (scheduleCodec .little .little).encodeAll (sches.take 6554) := by
    rw [scheduleReply_eq .little .little, hmod]
    rfl
  have hsize : ((Device.start [1]).fetch .little ⟨fun _ => 0, fun _ => 0⟩
      (some ⟨scheduleReply .little sches, false⟩) .getActiveSchesMsg).2.sm.ssBytesize = 4 := by
    have : fetchSchedules .little ⟨fun _ => 0, fun _ => 0⟩
        (some ⟨scheduleReply .little sches, false⟩) (Device.start [1]) = _ :=
      fetchSchedules_scheduleReply .little sches false
    rw [hmod, if_neg (by decide)] at this
    show (fetchSchedules .little _ _ _).2.sm.ssBytesize = 4
    rw [this]
    show UInt16.ofNat (10 * (sches.take 6554).length) = 4
    rw [List.length_take, hlen]
    rfl
  rw [hreply] at hsize
  refine ⟨_, hbody, ?_, hsize, fun h => ?_⟩
  · rw [reply_eq rfl, ← hreply]
    exact congrArg (Option.map _) hfetch
  · have := h.malloc (by decide)
    rw [hsize] at this
    exact absurd this (by decide)

end Bbd
