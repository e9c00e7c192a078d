import Bbd.Schedule
import Bbd.Lib.ByteOrder
import Bbd.Lib.Inbound

/-!
# The messages of the receiver

`socket_data.cpp`: the request header, and the replies with their 16-bit length in front.  Every
size here is computed in `uint16_t`, as the source does.
-/

namespace Bbd.Server

/-- `_prep_to_send_16`. -/
def prepToSend16 (e : Endian) (inData : UInt16) : List UInt8 := e.store16 (e.hton16 inData)

/-- `_prep_recved_8`. -/
def prepRecved8 (inData : List UInt8) : UInt8 := inData.getD 0 0

/-- `_prep_recved_16`. -/
def prepRecved16 (e : Endian) (inData : List UInt8) : UInt16 := e.hton16 (e.load16 inData)

/-- What `recv_socket_header` stores through its pointers. -/
structure Header where
  magicNumber : UInt16
  deviceId : UInt8
  msgType : UInt8
  msgSize : UInt16
  deriving DecidableEq, Repr

/-- `recv_socket_header`, on a heap with the content `heap`; `none` is the return value 1. -/
def recvSocketHeader (e : Endian) (heap : ℕ → UInt8) (sockfd : Inbound) : Option Header :=
  let r := sockfd.recv (malloc heap 6)
  if r.1 ≤ 0 then none
  else some ⟨prepRecved16 e r.2.1, prepRecved8 (r.2.1.drop 2), prepRecved8 (r.2.1.drop 3),
    prepRecved16 e (r.2.1.drop 4)⟩

/-- A message buffer: the size given to `malloc`, and the bytes written from its start on. -/
structure Buffer where
  size : UInt16
  bytes : List UInt8
  deriving DecidableEq, Repr

/-- `encode_schedule`. -/
def encodeSchedule (e : Endian) (sche : Schedule) : List UInt8 :=
  prepToSend16 e sche.scheduleId ++ prepToSend16 e sche.valveId ++ prepToSend16 e sche.start ++
    prepToSend16 e sche.stop

/-- `craft_active_schedules_rsp`. -/
def craftActiveSchedulesRsp (e : Endian) (sches : List Schedule) : Buffer :=
  let schesSize : UInt16 := UInt16.ofNat sches.length
  let msgLen : UInt16 := 8 * schesSize
  ⟨msgLen, (sches.take schesSize.toNat).flatMap (encodeSchedule e)⟩

/-- `craft_device_valves_rsp`. -/
def craftDeviceValvesRsp (e : Endian) (valveIds : List UInt16) : Buffer :=
  let valveIdsSize : UInt16 := UInt16.ofNat valveIds.length
  let msgLen : UInt16 := 2 * valveIdsSize
  ⟨msgLen, (valveIds.take valveIdsSize.toNat).flatMap (prepToSend16 e)⟩

/-- The buffer that `send_rsp_msg` allocates and fills. -/
def totalReplyMsg (e : Endian) (replyMsg : List UInt8) (replyMsgSize : UInt16) : Buffer :=
  let totalReplyMsgSize : UInt16 := 2 + replyMsgSize
  ⟨totalReplyMsgSize, prepToSend16 e replyMsgSize ++ replyMsg.take replyMsgSize.toNat⟩

/-- The message that `send_rsp_msg` hands to `send`: as many bytes of the buffer as were allocated
for it. -/
def sendRspMsg (e : Endian) (replyMsg : List UInt8) (replyMsgSize : UInt16) : List UInt8 :=
  let total := totalReplyMsg e replyMsg replyMsgSize
  total.bytes.take total.size.toNat

/-- The message that answers with a list of schedules. -/
def scheduleReply (server : Endian) (sches : List Schedule) : List UInt8 :=
  sendRspMsg server (craftActiveSchedulesRsp server sches).bytes
    (UInt16.ofNat (8 * sches.length))

end Bbd.Server
