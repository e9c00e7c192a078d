import Bbd.System.Exchange

/-!
# Replies on their way

What the fetches of the device make of a reply that arrives in full, and of one that does not.  A
reply in full is consumed to its last byte and decoded to the list it was crafted from
(`reply_round_trip`).  At the start of the device that installs the list, except that neither fetch
installs an empty one: the fetch of valves fails on it, and the fetch of schedules keeps the table
it finds (`startup_installs_iff`).  The helpers that receive test only whether `recv` returned a
byte at all, so a reply that is cut inside its body is installed with what the heap held in place of
the rest (`truncated_notInstalled_iff`).
-/

namespace Bbd

open Server Client

/-! ## Receiving -/

namespace Client

variable {e : Endian} {c : Device}

theorem sdRecvRspLen_eq_none_iff (stack : ℕ → UInt8) (sockfd : Inbound) :
    sdRecvRspLen e stack sockfd = none ↔ sockfd.incoming = [] := by
  have h := sockfd.recv_le_zero_iff (malloc stack 2)
  rw [length_malloc] at h
  simp only [sdRecvRspLen]
  split_ifs with hrecv
  · simpa using h.1 hrecv
  · simpa using fun hnil => hrecv (h.2 (Or.inr hnil))

theorem sdRecvRspMsg_eq_none_iff (heap : ℕ → UInt8) (sockfd : Inbound) (rspLen : UInt16) :
    sdRecvRspMsg heap sockfd rspLen = none ↔ rspLen = 0 ∨ sockfd.incoming = [] := by
  have h := sockfd.recv_le_zero_iff (malloc heap rspLen.toNat)
  rw [length_malloc] at h
  have hzero : rspLen = 0 ↔ rspLen.toNat = 0 := UInt16.toNat_inj.symm
  rw [hzero, ← h, sdRecvRspMsg]
  split_ifs with hrecv <;> simp [hrecv]

theorem ccSetValveInfo_of_length {stale : Stale} (server : Endian) {rspLen : UInt16}
    {body : List UInt8} (hlen : body.length = rspLen.toNat) (timesOut : Bool) :
    ccSetValveInfo e stale (some ⟨prepToSend16 server rspLen ++ body, timesOut⟩) c =
      if rspLen = 0 then (4, c)
      else (0, { c with
        valvesMap := vmInitSetValves (decodeValveIds e (rspLen / 2).toNat body) }) := by
  simp only [ccSetValveInfo, sdRecvRspLen_prepToSend16]
  by_cases hzero : rspLen = 0
  · rw [(sdRecvRspMsg_eq_none_iff _ _ _).2 (Or.inl hzero), if_pos hzero]
  · rw [sdRecvRspMsg_of_ne_zero hzero hlen, if_neg hzero]

/-! ## Round trips -/

theorem scheduleReply_of_length_le (server client : Endian) {sches : List Schedule}
    (h : sches.length ≤ 8191) :
    scheduleReply server sches =
      prepToSend16 server (UInt16.ofNat ((scheduleCodec server client).width * sches.length)) ++
        (scheduleCodec server client).encodeAll sches := by
  rw [scheduleReply_eq server client, Nat.mod_eq_of_lt (by omega), List.take_length,
    width_scheduleCodec]

theorem deviceValvesReply_of_length_le (server client : Endian) {valveIds : List UInt16}
    (h : valveIds.length ≤ 32766) :
    deviceValvesReply server valveIds =
      prepToSend16 server (UInt16.ofNat ((valveIdCodec server client).width * valveIds.length)) ++
        (valveIdCodec server client).encodeAll valveIds :=
  deviceValvesReply_eq server h

/-- A reply of records, length in front, is read to its last byte and decoded to the list it was
crafted from; what comes after it is left alone. -/
theorem recv_records {α : Type*} (codec : RecordCodec α) {l : List α}
    (hl : codec.width * l.length < 65536) (server : Endian) (stack heap : ℕ → UInt8)
    (more : List UInt8) (timesOut : Bool) :
    (UInt16.ofNat (codec.width * l.length)).toNat = codec.width * l.length ∧
      sdRecvRspLen e stack ⟨prepToSend16 server (UInt16.ofNat (codec.width * l.length)) ++
          codec.encodeAll l ++ more, timesOut⟩ =
        some (UInt16.ofNat (codec.width * l.length), ⟨codec.encodeAll l ++ more, timesOut⟩) ∧
      (0 < codec.width * l.length →
        sdRecvRspMsg heap ⟨codec.encodeAll l ++ more, timesOut⟩
            (UInt16.ofNat (codec.width * l.length)) =
          some (codec.encodeAll l, ⟨more, timesOut⟩)) ∧
      (0 < codec.width →
        codec.decodeAll ((UInt16.ofNat (codec.width * l.length)).toNat / codec.width)
          (codec.encodeAll l) = l) := by
  have hnat : (UInt16.ofNat (codec.width * l.length)).toNat = codec.width * l.length := by
    rw [UInt16.toNat_ofNat', Nat.mod_eq_of_lt hl]
  refine ⟨hnat, ?_, fun hpos => ?_, fun hwidth => ?_⟩
  · rw [List.append_assoc, sdRecvRspLen_prepToSend16]
  · refine sdRecvRspMsg_of_length (by omega) ?_ more timesOut
    rw [RecordCodec.length_encodeAll, hnat, Nat.mul_comm]
  · have := codec.decodeAll_encodeAll l []
    rwa [List.append_nil, ← Nat.mul_div_cancel_left l.length hwidth, ← hnat] at this

end Client

/-- Whatever the two hosts, the device reads a reply to its last byte and decodes the list that the
receiver crafted it from. -/
theorem reply_round_trip (server client : Endian) (stack heap : ℕ → UInt8) (more : List UInt8)
    (timesOut : Bool) :
    (∀ sches : List Schedule, sches.length ≤ 8191 →
      ∃ rspLen body, rspLen.toNat = 8 * sches.length ∧
        sdRecvRspLen client stack ⟨scheduleReply server sches ++ more, timesOut⟩ =
          some (rspLen, ⟨body ++ more, timesOut⟩) ∧
        (sches = [] → rspLen = 0 ∧ body = []) ∧
        (sches ≠ [] → sdRecvRspMsg heap ⟨body ++ more, timesOut⟩ rspLen =
          some (body, ⟨more, timesOut⟩)) ∧
        decodeSchedules client (rspLen / 8).toNat body = sches) ∧
    (∀ valveIds : List UInt16, 1 ≤ valveIds.length → valveIds.length ≤ 32766 →
      ∃ rspLen body, rspLen.toNat = 2 * valveIds.length ∧
        sdRecvRspLen client stack ⟨deviceValvesReply server valveIds ++ more, timesOut⟩ =
          some (rspLen, ⟨body ++ more, timesOut⟩) ∧
        sdRecvRspMsg heap ⟨body ++ more, timesOut⟩ rspLen = some (body, ⟨more, timesOut⟩) ∧
        decodeValveIds client (rspLen / 2).toNat body = valveIds) := by
  constructor
  · intro sches hle
    obtain ⟨hnat, hrecvLen, hrecvMsg, hdecode⟩ := recv_records (e := client)
      (scheduleCodec server client) (l := sches) (by rw [width_scheduleCodec]; omega) server stack
      heap more timesOut
    rw [← scheduleReply_of_length_le server client hle] at hrecvLen
    refine ⟨_, _, hnat, hrecvLen, ?_, fun hne => hrecvMsg ?_, ?_⟩
    · rintro rfl
      exact ⟨rfl, rfl⟩
    · have := List.length_pos_of_ne_nil hne
      rw [width_scheduleCodec]
      omega
    · rw [UInt16.toNat_div]
      exact hdecode (Nat.succ_pos _)
  · intro valveIds hpos hle
    obtain ⟨hnat, hrecvLen, hrecvMsg, hdecode⟩ := recv_records (e := client)
      (valveIdCodec server client) (l := valveIds) (by rw [width_valveIdCodec]; omega) server stack
      heap more timesOut
    rw [← deviceValvesReply_of_length_le server client hle] at hrecvLen
    refine ⟨_, _, hnat, hrecvLen, hrecvMsg (by rw [width_valveIdCodec]; omega), ?_⟩
    rw [UInt16.toNat_div]
    exact hdecode (Nat.succ_pos _)

/-- The round trip of a list of two schedules and of a list of two valve ids. -/
theorem reply_round_trip_two :
    (∃ rspLen body, rspLen.toNat = 16 ∧
      sdRecvRspLen .big (fun _ => 0)
          ⟨scheduleReply .little [⟨1, 1, 5, 7⟩, ⟨258, 2, 0, 1440⟩] ++ [9], false⟩ =
        some (rspLen, ⟨body ++ [9], false⟩) ∧
      decodeSchedules .big (rspLen / 8).toNat body = [⟨1, 1, 5, 7⟩, ⟨258, 2, 0, 1440⟩]) ∧
    ∃ rspLen body, rspLen.toNat = 4 ∧
      sdRecvRspLen .big (fun _ => 0) ⟨deviceValvesReply .little [258, 258] ++ [9], false⟩ =
        some (rspLen, ⟨body ++ [9], false⟩) ∧
      decodeValveIds .big (rspLen / 2).toNat body = [258, 258] := by
  have h := reply_round_trip .little .big (fun _ => 0) (fun _ => 0) [9] false
  obtain ⟨rspLen, body, hlen, hrecvLen, -, -, hdecode⟩ :=
    h.1 [⟨1, 1, 5, 7⟩, ⟨258, 2, 0, 1440⟩] (by decide)
  obtain ⟨rspLen', body', hlen', hrecvLen', -, hdecode'⟩ := h.2 [258, 258] (by decide) (by decide)
  exact ⟨⟨rspLen, body, hlen, hrecvLen, hdecode⟩, ⟨rspLen', body', hlen', hrecvLen', hdecode'⟩⟩

/-! ## Replies that are cut short -/

/-- A fetch that fails and leaves the device as it was. -/
def NotInstalled (r : ℕ × Device) (c : Device) : Prop := r.1 ≠ 0 ∧ r.2 = c

instance (r : ℕ × Device) (c : Device) : Decidable (NotInstalled r c) :=
  inferInstanceAs (Decidable (_ ∧ _))

section Truncated

variable {e : Endian} {stale : Stale} {c : Device} {type : RequestType} {sockfd sockfd' : Inbound}
  {rspLen : UInt16}

theorem notInstalled_iff (connection : Option Inbound) :
    NotInstalled (c.fetch e stale connection type) c ↔ (c.fetch e stale connection type).1 ≠ 0 := by
  have hvalves : (ccSetValveInfo e stale connection c).1 ≠ 0 →
      (ccSetValveInfo e stale connection c).2 = c := by
    unfold ccSetValveInfo
    split
    · exact fun _ => rfl
    · split
      · exact fun _ => rfl
      · split
        · exact fun _ => rfl
        · exact fun h => absurd rfl h
  have hschedules : (fetchSchedules e stale connection c).1 ≠ 0 →
      (fetchSchedules e stale connection c).2 = c := by
    unfold fetchSchedules
    split
    · exact fun _ => rfl
    · split
      · exact fun _ => rfl
      · split_ifs
        · split
          · exact fun _ => rfl
          · exact fun h => absurd rfl h
        · exact fun _ => rfl
  refine and_iff_left_of_imp ?_
  cases type with
  | getDeviceValvesMsg => exact hvalves
  | getActiveSchesMsg => exact hschedules
  | checkNewSchedulesMsg => exact hschedules

theorem fetch_ne_zero_of_recvRspLen_eq_none (h : sdRecvRspLen e stale.stack sockfd = none) :
    (c.fetch e stale (some sockfd) type).1 ≠ 0 := by
  cases type <;>
    simp only [Device.fetch, ccSetValveInfo, ccSetActiveSchedules, ccCheckNewSchedules,
      fetchSchedules, h] <;>
    exact Nat.succ_ne_zero _

theorem fetch_nil_ne_zero (timesOut : Bool) :
    (c.fetch e stale (some ⟨[], timesOut⟩) type).1 ≠ 0 :=
  fetch_ne_zero_of_recvRspLen_eq_none ((sdRecvRspLen_eq_none_iff stale.stack _).2 rfl)

theorem fetch_none_ne_zero : (c.fetch e stale none type).1 ≠ 0 := by
  cases type <;> exact Nat.succ_ne_zero _

/-- A fetch that gets a length completes when a byte of a body follows and the length promises one;
a fetch of schedules also when the length promises none. -/
theorem fetch_eq_zero_iff_of_recvRspLen
    (h : sdRecvRspLen e stale.stack sockfd = some (rspLen, sockfd')) :
    (c.fetch e stale (some sockfd) type).1 = 0 ↔
      if type.listsSchedules then rspLen = 0 ∨ sockfd'.incoming ≠ []
      else rspLen ≠ 0 ∧ sockfd'.incoming ≠ [] := by
  have hmsg := sdRecvRspMsg_eq_none_iff stale.heap sockfd' rspLen
  have hschedules : (fetchSchedules e stale (some sockfd) c).1 = 0 ↔
      rspLen = 0 ∨ sockfd'.incoming ≠ [] := by
    have hpos : rspLen > 0 ↔ rspLen ≠ 0 := UInt16.pos_iff_ne_zero
    simp only [fetchSchedules, h, hpos]
    by_cases hzero : rspLen = 0
    · simp [hzero]
    · cases hrecv : sdRecvRspMsg stale.heap sockfd' rspLen with
      | none => simp [hzero, (hmsg.1 hrecv).resolve_left hzero]
      | some r =>
        have hne : sockfd'.incoming ≠ [] := fun hnil => by simp [hmsg.2 (Or.inr hnil)] at hrecv
        simp [hzero, hne]
  cases type with
  | getDeviceValvesMsg =>
    simp only [Device.fetch, ccSetValveInfo, h, RequestType.listsSchedules, Bool.false_eq_true,
      if_false, ← not_or, ← hmsg]
    cases hrecv : sdRecvRspMsg stale.heap sockfd' rspLen <;> simp
  | getActiveSchesMsg => exact hschedules
  | checkNewSchedulesMsg => exact hschedules

/-- One byte of the length: the other is what the stack held. -/
theorem sdRecvRspLen_take_one (server : Endian) (stack : ℕ → UInt8) (x : UInt16)
    (body : List UInt8) (timesOut : Bool) :
    sdRecvRspLen e stack ⟨(prepToSend16 server x ++ body).take 1, timesOut⟩ =
      some (Endian.join (Endian.hi x) (stack 1), ⟨[], timesOut⟩) := by
  have htake : (prepToSend16 server x ++ body).take 1 = [Endian.hi x] := by
    simp [prepToSend16, Endian.store16_hton16]
  have hdrop : (malloc stack 2).drop 1 = [stack 1] := rfl
  rw [htake, sdRecvRspLen, Inbound.recv_of_lt (by simp) (by simp)]
  simp only [List.length_singleton, hdrop]
  rw [if_neg (by decide), sdPrepRecved16, List.singleton_append, Endian.hton16_load16]

/-- A fetch completes on the first `k` bytes of a reply exactly when one of the body is among them;
or, if it is for schedules, when the length reads 0, whole or with what the stack holds. -/
theorem fetch_take_eq_zero_iff (server : Endian) {body : List UInt8}
    (hbody : body.length = rspLen.toNat) {k : ℕ} (hk : k ≤ 2 + rspLen.toNat) (timesOut : Bool) :
    (c.fetch e stale (some ⟨(prepToSend16 server rspLen ++ body).take k, timesOut⟩) type).1 = 0 ↔
      2 < k ∨ type.listsSchedules ∧
        (k = 2 ∧ rspLen = 0 ∨ k = 1 ∧ rspLen.toNat < 256 ∧ stale.stack 1 = 0) := by
  match k with
  | 0 =>
    have hnil : (c.fetch e stale (some ⟨[], timesOut⟩) type).1 ≠ 0 := fetch_nil_ne_zero timesOut
    simpa using hnil
  | 1 =>
    rw [fetch_eq_zero_iff_of_recvRspLen (sdRecvRspLen_take_one server stale.stack rspLen body _),
      Endian.join_eq_zero_iff, Endian.hi_eq_zero_iff]
    cases type.listsSchedules <;> simp
  | k + 2 =>
    have htake : (prepToSend16 server rspLen ++ body).take (k + 2) =
        prepToSend16 server rspLen ++ body.take k := by
      rw [Nat.add_comm, ← length_prepToSend16 server rspLen, List.take_length_add_append]
    have hnil : body.take k = [] ↔ k = 0 := by
      rw [← List.length_eq_zero_iff, List.length_take, hbody]
      omega
    have hzero : rspLen = 0 → k = 0 := by
      rintro rfl
      have : (0 : UInt16).toNat = 0 := rfl
      omega
    rw [htake, fetch_eq_zero_iff_of_recvRspLen (sdRecvRspLen_prepToSend16 ..)]
    simp only [ne_eq, hnil]
    cases type.listsSchedules
    · simpa [Nat.pos_iff_ne_zero] using fun hk h => hk (hzero h)
    · by_cases hk : k = 0 <;> simp [hk, Nat.pos_iff_ne_zero]

end Truncated

/-- Of a reply that breaks off before its last byte, a fetch installs nothing exactly when the reply
breaks off before the first byte of the body, and not, for a fetch of schedules, in a length that
reads 0 with what the stack holds. -/
theorem truncated_notInstalled_iff (server client : Endian) (stale : Stale) (c : Device)
    (type : RequestType) (rspLen : UInt16) (body : List UInt8) (hbody : body.length = rspLen.toNat)
    (k : ℕ) (hk : k < 2 + rspLen.toNat) (timesOut : Bool) :
    NotInstalled (c.fetch client stale
        (some ⟨(prepToSend16 server rspLen ++ body).take k, timesOut⟩) type) c ↔
      k ≤ 2 ∧ ¬ (k = 1 ∧ type.listsSchedules ∧ rspLen.toNat < 256 ∧ stale.stack 1 = 0) := by
  have hwhole : ¬ (k = 2 ∧ rspLen = 0) := by
    rintro ⟨rfl, rfl⟩
    exact absurd hk (by decide)
  rw [notInstalled_iff, ne_eq, fetch_take_eq_zero_iff server hbody (Nat.le_of_lt hk),
    or_iff_right hwhole, not_or, Nat.not_lt, and_left_comm]

/-- A reply that breaks off right behind its length is not installed. -/
theorem truncated_notInstalled_iff_two :
    NotInstalled ((Device.start [1]).fetch .big ⟨fun _ => 0, fun _ => 0⟩
      (some ⟨(prepToSend16 .little 8 ++ [0, 1, 0, 1, 0, 5, 0, 7]).take 2, false⟩)
        .getActiveSchesMsg) (Device.start [1]) :=
  (truncated_notInstalled_iff .little .big ⟨fun _ => 0, fun _ => 0⟩ (Device.start [1])
    .getActiveSchesMsg 8 [0, 1, 0, 1, 0, 5, 0, 7] rfl 2 (by decide) false).2 (by decide)

/-- The reply with one schedule breaks off in its valve id, and the device installs it all the same.
-/
theorem not_notInstalled_cut_body :
    ∃ reply, (serveRequest .little .calm 1 (Db.garden.afterWeb [.create 1 none 5 7 0])
        .getActiveSchesMsg).reply = some reply ∧ reply.length = 2 + 8 ∧
      ¬ NotInstalled ((Device.start [1]).fetch .little ⟨fun _ => 0, fun _ => 0⟩
        (some ⟨reply.take 5, false⟩) .getActiveSchesMsg) (Device.start [1]) :=
  ⟨[0, 8, 0, 1, 0, 1, 0, 5, 0, 7], by decide⟩

/-! ## The start of the device -/

/-- The valve ids that a request reads. -/
def Server.Env.fetchValves (env : Env) (deviceId : UInt8) (db : Db) : Option (List UInt16) :=
  dbGetDeviceValves env.read env.valveOrder deviceId.toUInt16 db

section Startup

variable {p : Setup} {x : Exchange} {sys : System}

theorem reply_getDeviceValves (e : Endian) (env : Env) (deviceId : UInt8) (db : Db) :
    (serveRequest e env deviceId db .getDeviceValvesMsg).reply =
      (env.fetchValves deviceId db).map (deviceValvesReply e) := by
  rw [Env.fetchValves]
  simp only [serveRequest, requestHandler, serveGetDeviceValves, Handler.served]
  cases dbGetDeviceValves env.read env.valveOrder deviceId.toUInt16 db <;> rfl

theorem ccSetValveInfo_deviceValvesReply {e : Endian} {stale : Stale} {c : Device}
    (server : Endian) {valveIds : List UInt16} (hlen : valveIds.length ≤ 32766) (timesOut : Bool) :
    ccSetValveInfo e stale (some ⟨deviceValvesReply server valveIds, timesOut⟩) c =
      if valveIds = [] then (4, c) else (0, { c with valvesMap := vmInitSetValves valveIds }) := by
  have hnat := toNat_valvesLength hlen
  have hbody : (valveIds.flatMap (prepToSend16 server)).length =
      (UInt16.ofNat (2 * valveIds.length)).toNat := by
    rw [hnat, Nat.mul_comm]
    exact (valveIdCodec server e).length_encodeAll valveIds
  have hzero : UInt16.ofNat (2 * valveIds.length) = 0 ↔ valveIds = [] := by
    rw [← UInt16.toNat_inj, hnat, ← List.length_eq_zero_iff]
    show _ = 0 ↔ _
    omega
  have hdiv : (UInt16.ofNat (2 * valveIds.length) / 2).toNat = valveIds.length := by
    rw [UInt16.toNat_div, hnat]
    exact Nat.mul_div_cancel_left _ (by decide)
  have hdecode := decodeValveIds_prepToSend16 server e valveIds []
  rw [List.append_nil, ← hdiv] at hdecode
  rw [deviceValvesReply_eq server hlen, ccSetValveInfo_of_length server hbody, hdecode]
  simp only [hzero]

theorem exchange_getDeviceValves (hconnects : x.connects = true) (hdelivers : x.Delivers)
    {valveIds : List UInt16} (hfetch : x.env.fetchValves p.deviceId sys.db = some valveIds)
    (hlen : valveIds.length ≤ 32766) :
    (sys.exchange p x .getDeviceValvesMsg).1 = (if valveIds = [] then 4 else 0) ∧
      (sys.exchange p x .getDeviceValvesMsg).2.client.valvesMap =
        if valveIds = [] then sys.client.valvesMap else vmInitSetValves valveIds := by
  simp only [System.exchange, if_pos hconnects, System.served_eq,
    Exchange.arriving_of_whole hdelivers.2, reply_getDeviceValves, hfetch, hdelivers.1,
    Option.map_some, Option.getD_some, if_false, Bool.false_eq_true, Device.fetch,
    ccSetValveInfo_deviceValvesReply p.server hlen]
  split_ifs <;> exact ⟨rfl, rfl⟩

theorem exchange_getActiveSches (hconnects : x.connects = true) (hdelivers : x.Delivers)
    {sches : List Schedule} {sents : List Bool}
    (hfetch : x.env.fetch p.deviceId sys.db = some (sches, sents)) (hlen : sches.length ≤ 6553) :
    (sys.exchange p x .getActiveSchesMsg).1 = 0 ∧
      (sys.exchange p x .getActiveSchesMsg).2.client =
        if sches = [] then sys.client else sys.client.setNewSchedules sches := by
  have hmod : sches.length % 8192 = sches.length := Nat.mod_eq_of_lt (by omega)
  have hreply : (serveRequest p.server x.env p.deviceId sys.db .getActiveSchesMsg).reply =
      some (scheduleReply p.server sches) := by
    rw [reply_eq rfl, hfetch]
    rfl
  simp only [System.exchange, if_pos hconnects, System.served_eq,
    Exchange.arriving_of_whole hdelivers.2, hreply, hdelivers.1, Option.getD_some, if_false,
    Bool.false_eq_true, Device.fetch, ccSetActiveSchedules, fetchSchedules_scheduleReply, hmod,
    List.take_length, List.length_eq_zero_iff, and_self]

end Startup

/-- The two fetches of `_start` install what the receiver holds, with every valve closed and every
entry inactive, exactly when that is not the empty list; or, for schedules, when the table is empty
already. -/
theorem startup_installs_iff (p : Setup) (x : Exchange) (sys : System)
    (hconnects : x.connects = true) (hdelivers : x.Delivers) :
    (∀ valveIds, x.env.fetchValves p.deviceId sys.db = some valveIds → valveIds.length ≤ 32766 →
      ((sys.exchange p x .getDeviceValvesMsg).1 = 0 ∧
          (sys.exchange p x .getDeviceValvesMsg).2.client.valvesMap =
            valveIds.map (fun id => ⟨id, .closed⟩) ↔
        valveIds ≠ [])) ∧
    (∀ sches sents, x.env.fetch p.deviceId sys.db = some (sches, sents) → sches.length ≤ 6553 →
      ((sys.exchange p x .getActiveSchesMsg).1 = 0 ∧
          (sys.exchange p x .getActiveSchesMsg).2.client.sm.ss =
            sches.map (fun s => ⟨s, false⟩) ↔
        sches ≠ [] ∨ sys.client.sm.ss = [])) := by
  constructor
  · intro valveIds hfetch hlen
    obtain ⟨hrc, hmap⟩ := exchange_getDeviceValves hconnects hdelivers hfetch hlen
    rw [hrc, hmap]
    by_cases hnil : valveIds = []
    · simp [hnil]
    · simp [hnil, vmInitSetValves]
  · intro sches sents hfetch hlen
    obtain ⟨hrc, hclient⟩ := exchange_getActiveSches hconnects hdelivers hfetch hlen
    rw [hrc, hclient]
    by_cases hnil : sches = []
    · simp [hnil]
    · simp [hnil, Device.setNewSchedules, smSetNewSchedules]

/-- Device 1 starts: it has valve 1 and one schedule. -/
theorem startup_installs_iff_one :
    ((System.exchange ⟨.little, .big, 1⟩ .calm
        ⟨Db.garden.afterWeb [.create 1 none 5 7 0], ⟨[], .unset⟩⟩ .getDeviceValvesMsg).1 = 0 ∧
      (System.exchange ⟨.little, .big, 1⟩ .calm ⟨Db.garden.afterWeb [.create 1 none 5 7 0],
        ⟨[], .unset⟩⟩ .getDeviceValvesMsg).2.client.valvesMap = [⟨1, .closed⟩]) ∧
    (System.exchange ⟨.little, .big, 1⟩ .calm
        ⟨Db.garden.afterWeb [.create 1 none 5 7 0], ⟨[], .unset⟩⟩ .getActiveSchesMsg).1 = 0 ∧
      (System.exchange ⟨.little, .big, 1⟩ .calm ⟨Db.garden.afterWeb [.create 1 none 5 7 0],
        ⟨[], .unset⟩⟩ .getActiveSchesMsg).2.client.sm.ss = [⟨⟨1, 1, 5, 7⟩, false⟩] := by
  have h := startup_installs_iff ⟨.little, .big, 1⟩ .calm
    ⟨Db.garden.afterWeb [.create 1 none 5 7 0], ⟨[], .unset⟩⟩ rfl (by decide)
  exact ⟨(h.1 [1] (by decide) (by decide)).2 (by decide),
    (h.2 [⟨1, 1, 5, 7⟩] [false] (by decide) (by decide)).2 (Or.inl (by decide))⟩

/-- A device without valves cannot start. -/
theorem not_startup_installs_no_valves :
    Env.calm.fetchValves 3 Db.garden = some [] ∧
      ¬ ((System.exchange ⟨.little, .little, 3⟩ .calm ⟨Db.garden, ⟨[], .unset⟩⟩
          .getDeviceValvesMsg).1 = 0 ∧
        (System.exchange ⟨.little, .little, 3⟩ .calm ⟨Db.garden, ⟨[], .unset⟩⟩
          .getDeviceValvesMsg).2.client.valvesMap = []) := by
  decide

end Bbd
