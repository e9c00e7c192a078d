import Bbd.Schedule
import Bbd.Lib.ByteOrder
import Bbd.Lib.Inbound

/-!
# The messages of the device

`socket_data.c` of the daemon: the request header it sends and the reply it receives.
-/

namespace Bbd.Client

/-- `_sd_prep_to_send_8`. -/
def sdPrepToSend8 (inData : UInt8) : List UInt8 := [inData]

/-- `_sd_prep_to_send_16`. -/
def sdPrepToSend16 (e : Endian) (inData : UInt16) : List UInt8 := e.store16 (e.hton16 inData)

/-- `_sd_prep_recved_16`. -/
def sdPrepRecved16 (e : Endian) (inData : List UInt8) : UInt16 := e.hton16 (e.load16 inData)

/-- The six bytes that `_sd_send_socket_header` sends. -/
def sdSendSocketHeader (e : Endian) (magicNumber : UInt16) (deviceId msgType : UInt8)
    (msgSize : UInt16) : List UInt8 :=
  sdPrepToSend16 e magicNumber ++ sdPrepToSend8 deviceId ++ sdPrepToSend8 msgType ++
    sdPrepToSend16 e msgSize

/-- `sd_recv_rsp_len`, with the content `stack` of its variable `tmp`; `none` is the return value
1. -/
def sdRecvRspLen (e : Endian) (stack : ℕ → UInt8) (sockfd : Inbound) : Option (UInt16 × Inbound) :=
  let r := sockfd.recv (malloc stack 2)
  if r.1 ≤ 0 then none else some (sdPrepRecved16 e r.2.1, r.2.2)

/-- `sd_recv_rsp_msg` into a buffer of `rspLen` bytes; `none` is the return value 1. -/
def sdRecvRspMsg (heap : ℕ → UInt8) (sockfd : Inbound) (rspLen : UInt16) :
    Option (List UInt8 × Inbound) :=
  let r := sockfd.recv (malloc heap rspLen.toNat)
  if r.1 ≤ 0 then none else some r.2

/-- `sd_decode_schedule`. -/
def sdDecodeSchedule (e : Endian) (msg : List UInt8) : Schedule where
  scheduleId := sdPrepRecved16 e msg
  valveId := sdPrepRecved16 e (msg.drop 2)
  start := sdPrepRecved16 e (msg.drop 4)
  stop := sdPrepRecved16 e (msg.drop 6)

/-- `sd_decode_valve_id`. -/
def sdDecodeValveId (e : Endian) (msg : List UInt8) : UInt16 := sdPrepRecved16 e msg

end Bbd.Client
