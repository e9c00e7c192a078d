import Bbd.Wire
import Bbd.Client.Watering
import Bbd.Server.ServerRun

/-!
# Exchanges of a device with the receiver

The two programs side by side: the database of the receiver and the state of one device.  In an
exchange the device connects and sends its header, the receiver gets it whole and serves the
connection, and the device reads what arrives; a reply that could not be sent does not arrive, one
that is sent may be cut short on its way, and without a reply the connection just ends.  Between the
exchanges the web site is used, other devices are served, and the scheduler of the device makes its
passes.
-/

namespace Bbd

open Server Client Runs

/-- The database of the receiver and the state of the device. -/
structure System where
  db : Db
  client : Device

/-- What surrounds an exchange: the receiver's side of it, the uninitialised memory on both sides,
whether `sd_send_request` succeeds, how many bytes at the end of a reply that is sent are lost, and
whether the connection ends in a timeout. -/
structure Exchange where
  env : Env
  heap : ℕ → UInt8
  stale : Stale
  connects : Bool
  lost : ℕ
  timesOut : Bool

/-- Nothing fails and nobody interferes. -/
def Exchange.calm : Exchange where
  env := .calm
  heap := fun _ => 0
  stale := ⟨fun _ => 0, fun _ => 0⟩
  connects := true
  lost := 0
  timesOut := false

/-- Every reply is delivered in full. -/
def Exchange.Delivers (x : Exchange) : Prop := x.env.sendFails = false ∧ x.lost = 0

instance (x : Exchange) : Decidable x.Delivers := inferInstanceAs (Decidable (_ ∧ _))

/-- What arrives of the reply. -/
def Exchange.arriving (x : Exchange) (served : Served) : List UInt8 :=
  let reply := if x.env.sendFails then [] else served.reply.getD []
  reply.take (reply.length - x.lost)

theorem Exchange.arriving_of_whole {x : Exchange} (h : x.lost = 0) (served : Served) :
    x.arriving served = if x.env.sendFails then [] else served.reply.getD [] := by
  rw [arriving, h, Nat.sub_zero, List.take_length]

/-- The fetch of the device for a request type. -/
def Client.Device.fetch (e : Endian) (stale : Stale) (sockfd : Option Inbound) (c : Device) :
    RequestType → ℕ × Device
  | .getDeviceValvesMsg => ccSetValveInfo e stale sockfd c
  | .getActiveSchesMsg => ccSetActiveSchedules e stale sockfd c
  | .checkNewSchedulesMsg => ccCheckNewSchedules e stale sockfd c

/-- The hosts of the receiver and of the device, and `DEVICE_ID`. -/
structure Setup where
  server : Endian
  client : Endian
  deviceId : UInt8

namespace System

variable (p : Setup)

/-- The receiver's part of an exchange, for a request that arrives whole. -/
def served (x : Exchange) (sys : System) (type : RequestType) : Served :=
  runServer p.server x.heap x.env
    ⟨sdSendSocketHeader p.client MAGIC_NUMER p.deviceId type.code 0, false⟩ sys.db

/-- An exchange: the return value of the fetch, and the state after it. -/
def exchange (x : Exchange) (sys : System) (type : RequestType) : ℕ × System :=
  if x.connects then
    let served := sys.served p x type
    let r := sys.client.fetch p.client x.stale (some ⟨x.arriving served, x.timesOut⟩) type
    (r.1, ⟨served.db, r.2⟩)
  else
    let r := sys.client.fetch p.client x.stale none type
    (r.1, ⟨sys.db, r.2⟩)

/-- The items of the schedule table of the device. -/
def held (sys : System) : Set Item := { i | ∃ s ∈ sys.client.table, s.item = i }

end System

/-- What happens to the system. -/
inductive SystemEvent where
  | web (call : WebCall)
  | other (deviceId : UInt8) (msgType : RequestType) (env : Env)
  | exchange (msgType : RequestType) (x : Exchange)
  | pass (currMins : UInt16)

/-- The state after an event. -/
def System.step (p : Setup) (sys : System) : SystemEvent → System
  | .web call => { sys with db := call.apply sys.db }
  | .other deviceId msgType env =>
    { sys with db := (serveRequest p.server env deviceId sys.db msgType).db }
  | .exchange msgType x => (sys.exchange p x msgType).2
  | .pass m => { sys with client := sys.client.pass m }

/-! ## What the device makes of a reply -/

namespace Client

variable {e : Endian} {stale : Stale} {c : Device}

theorem fetchSchedules_nil (timesOut : Bool) :
    fetchSchedules e stale (some ⟨[], timesOut⟩) c = (3, c) := by
  have hrecv : sdRecvRspLen e stale.stack ⟨[], timesOut⟩ = none := by
    cases timesOut <;> rfl
  simp only [fetchSchedules, hrecv]

theorem sdRecvRspLen_prepToSend16 (server : Endian) (stack : ℕ → UInt8) (x : UInt16)
    (body : List UInt8) (timesOut : Bool) :
    sdRecvRspLen e stack ⟨prepToSend16 server x ++ body, timesOut⟩ =
      some (x, ⟨body, timesOut⟩) := by
  rw [sdRecvRspLen, Inbound.recv_of_le (by simp) (by simp)]
  have hx := sdPrepRecved16_prepToSend16 server e x []
  rw [List.append_nil] at hx
  simp only [length_malloc]
  rw [if_neg (by decide), List.take_left' (length_prepToSend16 server x),
    List.drop_left' (length_prepToSend16 server x), hx]

theorem sdRecvRspMsg_of_length {heap : ℕ → UInt8} {body : List UInt8} {rspLen : UInt16}
    (hpos : 0 < rspLen.toNat) (hlen : body.length = rspLen.toNat) (rest : List UInt8)
    (timesOut : Bool) :
    sdRecvRspMsg heap ⟨body ++ rest, timesOut⟩ rspLen = some (body, ⟨rest, timesOut⟩) := by
  rw [sdRecvRspMsg, Inbound.recv_of_le (by simpa using hpos) (by simp [hlen])]
  simp only [length_malloc, List.take_left' hlen, List.drop_left' hlen]
  rw [if_neg (by omega)]

theorem sdRecvRspMsg_of_ne_zero {heap : ℕ → UInt8} {body : List UInt8} {rspLen : UInt16}
    (hne : rspLen ≠ 0) (hlen : body.length = rspLen.toNat) (timesOut : Bool) :
    sdRecvRspMsg heap ⟨body, timesOut⟩ rspLen = some (body, ⟨[], timesOut⟩) := by
  have hpos : 0 < rspLen.toNat := UInt16.lt_iff_toNat_lt.1 (UInt16.pos_iff_ne_zero.2 hne)
  calc sdRecvRspMsg heap ⟨body, timesOut⟩ rspLen
      = sdRecvRspMsg heap ⟨body ++ [], timesOut⟩ rspLen := by rw [List.append_nil]
    _ = some (body, ⟨[], timesOut⟩) := sdRecvRspMsg_of_length hpos hlen [] timesOut

/-- The device installs what it decodes from a reply that arrives in full, unless the reply is the
empty one. -/
theorem fetchSchedules_of_length (server : Endian) {rspLen : UInt16} {body : List UInt8}
    (hlen : body.length = rspLen.toNat) (timesOut : Bool) :
    fetchSchedules e stale (some ⟨prepToSend16 server rspLen ++ body, timesOut⟩) c =
      (0, if rspLen = 0 then c
        else c.setNewSchedules (decodeSchedules e (rspLen / 8).toNat body)) := by
  simp only [fetchSchedules, sdRecvRspLen_prepToSend16]
  by_cases hzero : rspLen = 0
  · simp [hzero]
  · have hgt : rspLen > 0 := UInt16.pos_iff_ne_zero.2 hzero
    rw [if_pos hgt, sdRecvRspMsg_of_ne_zero hzero hlen, if_neg hzero]

theorem fetchSchedules_scheduleReply (server : Endian) (sches : List Schedule) (timesOut : Bool) :
    fetchSchedules e stale (some ⟨scheduleReply server sches, timesOut⟩) c =
      (0, if sches.length % 8192 = 0 then c
        else c.setNewSchedules (sches.take (sches.length % 8192))) := by
  have hnat := toNat_replyLength sches.length
  have hlen : ((scheduleCodec server e).encodeAll (sches.take (sches.length % 8192))).length =
      (UInt16.ofNat (8 * (sches.length % 8192))).toNat := by
    rw [RecordCodec.length_encodeAll, List.length_take, hnat, width_scheduleCodec]
    omega
  have hzero : UInt16.ofNat (8 * (sches.length % 8192)) = 0 ↔ sches.length % 8192 = 0 := by
    rw [← UInt16.toNat_inj, hnat]
    show _ = 0 ↔ _
    omega
  have hdiv : (UInt16.ofNat (8 * (sches.length % 8192)) / 8).toNat =
      (sches.take (sches.length % 8192)).length := by
    rw [UInt16.toNat_div, hnat, List.length_take]
    show sches.length % 8192 * 8 / 8 = _
    omega
  have hdecode := (scheduleCodec server e).decodeAll_encodeAll
    (sches.take (sches.length % 8192)) []
  rw [List.append_nil, ← hdiv] at hdecode
  have hinstalled : decodeSchedules e (UInt16.ofNat (8 * (sches.length % 8192)) / 8).toNat
      ((scheduleCodec server e).encodeAll (sches.take (sches.length % 8192))) =
        sches.take (sches.length % 8192) := hdecode
  rw [scheduleReply_eq server e, fetchSchedules_of_length server hlen, hinstalled]
  simp only [hzero]

theorem valvesMap_fetchSchedules (sockfd : Option Inbound) :
    (fetchSchedules e stale sockfd c).2.valvesMap = c.valvesMap := by
  unfold fetchSchedules
  split
  · rfl
  · split
    · rfl
    · split_ifs
      · split <;> rfl
      · rfl

end Client

/-! ## Exchanges -/

namespace System

variable {p : Setup} {x : Exchange} {sys : System} {type : RequestType}

theorem served_eq : sys.served p x type = serveRequest p.server x.env p.deviceId sys.db type := by
  rw [served, runServer_eq, recvSocketHeader_sdSendSocketHeader]
  simp only [serveHeader_eq, Header.request, ne_eq, not_true_eq_false, if_false,
    RequestType.ofCode_code]

theorem table_exchange_getDeviceValves :
    (sys.exchange p x .getDeviceValvesMsg).2.client.table = sys.client.table := by
  have htable (sockfd : Option Inbound) :
      (ccSetValveInfo p.client x.stale sockfd sys.client).2.table = sys.client.table := by
    unfold ccSetValveInfo
    split
    · rfl
    · split
      · rfl
      · split <;> rfl
  unfold exchange
  split_ifs <;> exact htable _

/-- Every fetch of schedules, with no reply that is cut short: it fails and leaves the device alone,
and the database too if no send failed; or it completes, and then the receiver could read the list
and the device installs the answer, unless that is empty. -/
theorem exchange_cases (p : Setup) (sys : System) (hwhole : x.lost = 0)
    (htype : type.listsSchedules) :
    ((sys.exchange p x type).1 ≠ 0 ∧ (sys.exchange p x type).2.client = sys.client ∧
        (x.env.sendFails = false → (sys.exchange p x type).2.db = sys.db)) ∨
      ∃ sches sents, x.env.fetch p.deviceId sys.db = some (sches, sents) ∧
        sys.exchange p x type = (0,
          ⟨(serveRequest p.server x.env p.deviceId sys.db type).db,
            if (type.answer sches sents).length % 8192 = 0 then sys.client
            else sys.client.setNewSchedules ((type.answer sches sents).take
              ((type.answer sches sents).length % 8192))⟩) := by
  have hfetch (sockfd : Option Inbound) : sys.client.fetch p.client x.stale sockfd type =
      fetchSchedules p.client x.stale sockfd sys.client := by
    cases type
    · cases htype
    · rfl
    · rfl
  simp only [exchange, hfetch, served_eq, Exchange.arriving_of_whole hwhole]
  by_cases hconnects : x.connects = true
  · simp only [if_pos hconnects]
    cases hsend : x.env.sendFails with
    | true =>
      simp only [if_true, fetchSchedules_nil]
      exact Or.inl ⟨by decide, trivial, fun h => absurd h (by decide)⟩
    | false =>
      rw [if_neg Bool.false_ne_true, reply_eq htype]
      cases hread : x.env.fetch p.deviceId sys.db with
      | none =>
        simp only [Option.map_none, Option.getD_none, fetchSchedules_nil,
          serveRequest_of_fetch_none htype hread]
        exact Or.inl ⟨by decide, trivial, fun _ => trivial⟩
      | some read =>
        simp only [Option.map_some, Option.getD_some, fetchSchedules_scheduleReply]
        exact Or.inr ⟨read.1, read.2, rfl, rfl⟩
  · simp only [if_neg hconnects, fetchSchedules]
    exact Or.inl ⟨by decide, trivial, fun _ => trivial⟩

/-- The database after an exchange: the receiver served the request, or never got it. -/
theorem exchange_db :
    (sys.exchange p x type).2.db =
      if x.connects then (serveRequest p.server x.env p.deviceId sys.db type).db else sys.db := by
  by_cases hconnects : x.connects = true
  · rw [exchange, if_pos hconnects, if_pos hconnects]
    exact congrArg Served.db served_eq
  · rw [exchange, if_neg hconnects, if_neg hconnects]

end System

end Bbd
