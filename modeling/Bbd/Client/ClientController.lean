import Bbd.Client.ScheduleManager
import Bbd.Client.SocketData

/-!
# The fetches of the device

`client_controller.c`: each fetch sends a request, reads the length of the reply, reads the reply
and installs what it decodes.  The connection is `none` when `sd_send_request` failed.
-/

namespace Bbd.Client

/-- What uninitialised memory holds during a fetch: the variable `tmp` of `sd_recv_rsp_len` and the
buffer `rsp`. -/
structure Stale where
  stack : ℕ → UInt8
  heap : ℕ → UInt8

/-- The decode loop over `rsp`: records of `sizeof(struct schedule) = 8` bytes. -/
def decodeSchedules (e : Endian) (schesLen : ℕ) (rsp : List UInt8) : List Schedule :=
  (List.range schesLen).map fun i => sdDecodeSchedule e (rsp.drop (i * 8))

/-- The decode loop of `cc_set_valve_info`. -/
def decodeValveIds (e : Endian) (valveIdsLen : ℕ) (rsp : List UInt8) : List UInt16 :=
  (List.range valveIdsLen).map fun i => sdDecodeValveId e (rsp.drop (i * 2))

/-- `cc_set_valve_info`: the return value and the state of the device. -/
def ccSetValveInfo (e : Endian) (stale : Stale) (sockfd : Option Inbound) (c : Device) :
    ℕ × Device :=
  match sockfd with
  | none => (1, c)
  | some sockfd =>
    match sdRecvRspLen e stale.stack sockfd with
    | none => (3, c)
    | some (rspLen, sockfd) =>
      match sdRecvRspMsg stale.heap sockfd rspLen with
      | none => (4, c)
      | some (rsp, _) =>
        let valveIdsLen := rspLen / 2
        let valveIds := decodeValveIds e valveIdsLen.toNat rsp
        (0, { c with valvesMap := vmInitSetValves valveIds })

/-- The body that `cc_set_active_schedules` and `cc_check_new_schedules` share after the request. -/
def fetchSchedules (e : Endian) (stale : Stale) (sockfd : Option Inbound) (c : Device) :
    ℕ × Device :=
  match sockfd with
  | none => (1, c)
  | some sockfd =>
    match sdRecvRspLen e stale.stack sockfd with
    | none => (3, c)
    | some (rspLen, sockfd) =>
      if rspLen > 0 then
        match sdRecvRspMsg stale.heap sockfd rspLen with
        | none => (4, c)
        | some (rsp, _) =>
          let schesLen := rspLen / 8
          let rspSches := decodeSchedules e schesLen.toNat rsp
          (0, c.setNewSchedules rspSches)
      else (0, c)

/-- `cc_set_active_schedules`. -/
def ccSetActiveSchedules (e : Endian) (stale : Stale) (sockfd : Option Inbound) (c : Device) :
    ℕ × Device :=
  fetchSchedules e stale sockfd c

/-- `cc_check_new_schedules`. -/
def ccCheckNewSchedules (e : Endian) (stale : Stale) (sockfd : Option Inbound) (c : Device) :
    ℕ × Device :=
  fetchSchedules e stale sockfd c

end Bbd.Client
