import Bbd.Client.ClientController
import Bbd.Server.SocketData

/-!
# The two ends of the wire

What the receiver writes, the device reads, whatever the byte orders of the two hosts: the request
header (`recvSocketHeader_sdSendSocketHeader`) and the replies.  The length of a reply is computed
in 16 bits, so a reply for `n` schedules carries the first `n % 8192` of them (`scheduleReply_eq`).
-/

namespace Bbd

open Server Client

@[simp] theorem length_prepToSend16 (e : Endian) (x : UInt16) : (prepToSend16 e x).length = 2 := by
  simp [prepToSend16, Endian.store16_hton16]

theorem sdPrepRecved16_prepToSend16 (server client : Endian) (x : UInt16) (rest : List UInt8) :
    sdPrepRecved16 client (prepToSend16 server x ++ rest) = x := by
  simp [sdPrepRecved16, prepToSend16, Endian.store16_hton16, Endian.hton16_load16]

/-- The record of a schedule, as the receiver writes and the device reads it. -/
def scheduleCodec (server client : Endian) : RecordCodec Schedule where
  width := 8
  encode := encodeSchedule server
  decode := sdDecodeSchedule client
  length_encode a := by simp [encodeSchedule]
  decode_encode a rest := by
    simp [encodeSchedule, prepToSend16, Endian.store16_hton16, sdDecodeSchedule, sdPrepRecved16,
      Endian.hton16_load16]

/-- The record of a valve id. -/
def valveIdCodec (server client : Endian) : RecordCodec UInt16 where
  width := 2
  encode := prepToSend16 server
  decode := sdDecodeValveId client
  length_encode := length_prepToSend16 server
  decode_encode := sdPrepRecved16_prepToSend16 server client

@[simp] theorem width_scheduleCodec (server client : Endian) :
    (scheduleCodec server client).width = 8 :=
  rfl

@[simp] theorem width_valveIdCodec (server client : Endian) :
    (valveIdCodec server client).width = 2 :=
  rfl

theorem decodeValveIds_prepToSend16 (server client : Endian) (valveIds : List UInt16)
    (rest : List UInt8) :
    decodeValveIds client valveIds.length (valveIds.flatMap (prepToSend16 server) ++ rest) =
      valveIds :=
  (valveIdCodec server client).decodeAll_encodeAll valveIds rest

theorem recvSocketHeader_sdSendSocketHeader (server client : Endian) (heap : ℕ → UInt8)
    (magicNumber : UInt16) (deviceId msgType : UInt8) (msgSize : UInt16) (timesOut : Bool) :
    recvSocketHeader server heap
        ⟨sdSendSocketHeader client magicNumber deviceId msgType msgSize, timesOut⟩ =
      some ⟨magicNumber, deviceId, msgType, msgSize⟩ := by
  rw [recvSocketHeader, Inbound.recv_of_le (by simp)
    (by simp [sdSendSocketHeader, sdPrepToSend16, sdPrepToSend8, Endian.store16_hton16])]
  simp [sdSendSocketHeader, sdPrepToSend16, sdPrepToSend8, Endian.store16_hton16, prepRecved16,
    prepRecved8, Endian.hton16_load16]

/-! ## Replies with schedules -/

/-- The list that the device decodes from a reply with its length in front. -/
def replySchedules (client : Endian) (reply : List UInt8) : List Schedule :=
  decodeSchedules client ((sdPrepRecved16 client reply).toNat / 8) (reply.drop 2)

/-- A message whose size leaves room for the length in front is sent in full. -/
theorem sendRspMsg_eq (e : Endian) (replyMsg : List UInt8) {replyMsgSize : UInt16}
    (h : replyMsgSize.toNat ≤ 65533) :
    sendRspMsg e replyMsg replyMsgSize =
      prepToSend16 e replyMsgSize ++ replyMsg.take replyMsgSize.toNat := by
  have htotal : (2 + replyMsgSize : UInt16).toNat = 2 + replyMsgSize.toNat := by
    rw [UInt16.toNat_add]
    show (2 + replyMsgSize.toNat) % 65536 = _
    omega
  rw [sendRspMsg, totalReplyMsg, htotal]
  refine List.take_of_length_le ?_
  rw [List.length_append, length_prepToSend16, List.length_take]
  omega

theorem toNat_replyLength (n : ℕ) : (UInt16.ofNat (8 * (n % 8192))).toNat = n % 8192 * 8 := by
  rw [UInt16.toNat_ofNat']
  omega

theorem scheduleReply_eq (server client : Endian) (sches : List Schedule) :
    scheduleReply server sches =
      prepToSend16 server (UInt16.ofNat (8 * (sches.length % 8192))) ++
        (scheduleCodec server client).encodeAll (sches.take (sches.length % 8192)) := by
  have hlen : UInt16.ofNat (8 * sches.length) = UInt16.ofNat (8 * (sches.length % 8192)) := by
    apply UInt16.toNat_inj.1
    simp only [UInt16.toNat_ofNat']
    omega
  have hbody : (craftActiveSchedulesRsp server sches).bytes =
      (scheduleCodec server client).encodeAll (sches.take (sches.length % 65536)) := by
    simp only [craftActiveSchedulesRsp, UInt16.toNat_ofNat']
    rfl
  have htake : ((scheduleCodec server client).encodeAll (sches.take (sches.length % 65536))).take
      (sches.length % 8192 * 8) =
        (scheduleCodec server client).encodeAll (sches.take (sches.length % 8192)) := by
    have := (scheduleCodec server client).take_encodeAll (sches.take (sches.length % 65536))
      (sches.length % 8192)
    rw [List.take_take, Nat.min_eq_left (by omega)] at this
    exact this
  rw [scheduleReply, hlen, sendRspMsg_eq _ _ (by rw [toNat_replyLength]; omega), hbody,
    toNat_replyLength, htake]

/-- The two bytes of a reply of length 0. -/
def emptyReply : List UInt8 := [0, 0]

/-- The reply for a list is the empty one exactly when the 16-bit length of the list wraps to 0. -/
theorem scheduleReply_eq_emptyReply_iff (server : Endian) (sches : List Schedule) :
    scheduleReply server sches = emptyReply ↔ sches.length % 8192 = 0 := by
  rw [scheduleReply_eq server server]
  constructor
  · intro h
    have := congrArg List.length h
    rw [List.length_append, length_prepToSend16, RecordCodec.length_encodeAll, List.length_take,
      width_scheduleCodec] at this
    simp only [emptyReply, List.length_cons, List.length_nil] at this
    omega
  · intro h
    rw [h, prepToSend16, Endian.store16_hton16]
    rfl

theorem replySchedules_scheduleReply (server client : Endian) (sches : List Schedule) :
    replySchedules client (scheduleReply server sches) =
      sches.take (sches.length % 8192) := by
  rw [scheduleReply_eq server client, replySchedules, sdPrepRecved16_prepToSend16]
  have hdrop : ∀ x (rest : List UInt8), (prepToSend16 server x ++ rest).drop 2 = rest :=
    fun x rest => List.drop_left' (length_prepToSend16 server x)
  have hlen : (UInt16.ofNat (8 * (sches.length % 8192))).toNat / 8 =
      (sches.take (sches.length % 8192)).length := by
    rw [toNat_replyLength, List.length_take]
    omega
  rw [hdrop, hlen]
  have := (scheduleCodec server client).decodeAll_encodeAll
    (sches.take (sches.length % 8192)) []
  rwa [List.append_nil] at this

/-! ## Replies with valve ids -/

/-- The message that answers with a list of valve ids. -/
def deviceValvesReply (server : Endian) (valveIds : List UInt16) : List UInt8 :=
  sendRspMsg server (craftDeviceValvesRsp server valveIds).bytes
    (UInt16.ofNat (2 * valveIds.length))

theorem toNat_valvesLength {n : ℕ} (h : n ≤ 32766) : (UInt16.ofNat (2 * n)).toNat = 2 * n := by
  rw [UInt16.toNat_ofNat']
  omega

theorem deviceValvesReply_eq (server : Endian) {valveIds : List UInt16}
    (h : valveIds.length ≤ 32766) :
    deviceValvesReply server valveIds =
      prepToSend16 server (UInt16.ofNat (2 * valveIds.length)) ++
        valveIds.flatMap (prepToSend16 server) := by
  have hnat := toNat_valvesLength h
  have hbytes : (craftDeviceValvesRsp server valveIds).bytes =
      valveIds.flatMap (prepToSend16 server) := by
    simp only [craftDeviceValvesRsp, UInt16.toNat_ofNat']
    rw [List.take_of_length_le (by omega)]
  have hlen := (valveIdCodec server server).length_encodeAll valveIds
  rw [deviceValvesReply, sendRspMsg_eq _ _ (by omega), hbytes, hnat, List.take_of_length_le]
  exact Nat.le_of_eq (hlen.trans (Nat.mul_comm _ _))

end Bbd
