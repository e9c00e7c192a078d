import Bbd.Server.SocketData
import Bbd.Server.DbCalls

/-!
# Serving one connection

One turn of the loop of `_run_server`: the header is received, and one of three handlers reads the
database, sends a reply and, for the two schedule requests, calls the database again.  The receiver
is the only process that serves connections, one after the other, but the web site works on the same
database meanwhile: `Env` gives the web calls that fall between the steps of the handler, next to
the outcome of every step.
-/

namespace Bbd.Server

/-- `MAGIC_NUMER`. -/
def MAGIC_NUMER : UInt16 := 38017

/-- `enum request_type`. -/
inductive RequestType where
  | getDeviceValvesMsg
  | getActiveSchesMsg
  | checkNewSchedulesMsg
  deriving DecidableEq, Repr

/-- The byte of a request type on the wire. -/
def RequestType.code : RequestType → UInt8
  | .getDeviceValvesMsg => 0x1
  | .getActiveSchesMsg => 0x2
  | .checkNewSchedulesMsg => 0x3

/-- The cases of the `switch`; `none` is its `default`. -/
def RequestType.ofCode (msgType : UInt8) : Option RequestType :=
  if msgType = 0x1 then some .getDeviceValvesMsg
  else if msgType = 0x2 then some .getActiveSchesMsg
  else if msgType = 0x3 then some .checkNewSchedulesMsg
  else none

/-- What happens around one request: the failures of its database calls, the order in which the rows
come, whether the send fails, the values of the clock, and the calls of the web site that fall
between reading and sending, between sending and marking, and between marking and recording. -/
structure Env where
  read : PqxxFaults
  order : RowOrder ActiveRow
  valveOrder : RowOrder ℤ
  afterRead : List WebCall
  sendFails : Bool
  afterSend : List WebCall
  mark : PqxxFaults
  markNow : Timestamp
  afterMark : List WebCall
  deact : PqxxFaults
  deactNow : Timestamp

/-- Nothing fails and nobody interferes. -/
def Env.calm : Env where
  read := .none
  order := .asListed _
  valveOrder := .asListed _
  afterRead := []
  sendFails := false
  afterSend := []
  mark := .none
  markNow := 0
  afterMark := []
  deact := .none
  deactNow := 0

/-- The web calls that fall into the request. -/
def Env.webCalls (env : Env) : List WebCall := env.afterRead ++ env.afterSend ++ env.afterMark

/-- The database after some calls of the web site. -/
def Db.afterWeb (db : Db) (calls : List WebCall) : Db := Runs.run WebCall.apply db calls

/-- Device 1 with valve 1 and device 2 with valve 2, and no schedule. -/
def Db.garden : Db where
  device := ⟨[⟨1, none⟩, ⟨2, none⟩], by decide⟩
  valve := ⟨[⟨1, none, 1⟩, ⟨2, none, 2⟩], by decide⟩
  schedule := .empty
  scheduleSeq := 0
  fkDevice := by decide
  fkValve := by decide
  checkStartTime := by decide

/-- What is left of a request: the database, and the bytes handed to `send`, if it was called. -/
structure Served where
  db : Db
  reply : Option (List UInt8)

/-- A handler, as the calls by which it reaches outside: each call of the database that reads goes
with what is done for its result. -/
inductive Handler where
  | dbGetDeviceValves (deviceId : UInt16) (next : Option (List UInt16) → Handler)
  | dbGetActiveSchedules (deviceId : UInt16)
      (next : Option (List Schedule × List Bool) → Handler)
  | sendRspMsg (totalReplyMsg : List UInt8) (next : Handler)
  | setSchedulesSent (sches : List Schedule) (deviceId : UInt16) (next : Handler)
  | deactivationRequestsDone (next : Handler)
  | done

/-- What a handler leaves.  The result of the send and those of the last two calls are logged, and
no more. -/
def Handler.served (env : Env) (db : Db) : Handler → Served
  | .dbGetDeviceValves deviceId next =>
    (next (Server.dbGetDeviceValves env.read env.valveOrder deviceId db)).served env db
  | .dbGetActiveSchedules deviceId next =>
    (next (Server.dbGetActiveSchedules env.read env.order deviceId db)).served env db
  | .sendRspMsg totalReplyMsg next =>
    let db := db.afterWeb env.afterRead
    ⟨(next.served env db).db, some totalReplyMsg⟩
  | .setSchedulesSent sches _ next =>
    let db := db.afterWeb env.afterSend
    let db := (Server.setSchedulesSent env.mark env.markNow sches db).2
    let db := db.afterWeb env.afterMark
    next.served env db
  | .deactivationRequestsDone next =>
    let db := (Server.deactivationRequestsDone env.deact env.deactNow db).2
    next.served env db
  | .done => ⟨db, none⟩

/-- `case GET_DEVICE_VALVES_MSG`. -/
def serveGetDeviceValves (e : Endian) (deviceId : UInt8) : Handler :=
  .dbGetDeviceValves deviceId.toUInt16 fun
    | none => .done
    | some valveIds =>
      let rsp := craftDeviceValvesRsp e valveIds
      let rspLen : UInt16 := UInt16.ofNat (2 * valveIds.length)
      .sendRspMsg (sendRspMsg e rsp.bytes rspLen) .done

/-- `case GET_ACTIVE_SCHES_MSG`. -/
def serveGetActiveSches (e : Endian) (deviceId : UInt8) : Handler :=
  .dbGetActiveSchedules deviceId.toUInt16 fun
    | none => .done
    | some (sches, _) =>
      let rspLen : UInt16 := UInt16.ofNat (8 * sches.length)
      let rsp := craftActiveSchedulesRsp e sches
      .sendRspMsg (sendRspMsg e rsp.bytes rspLen) <|
        .setSchedulesSent sches deviceId.toUInt16 <|
          .deactivationRequestsDone .done

/-- The loop that computes `need_update`. -/
def needUpdate (sents : List Bool) : Bool :=
  sents.foldl (fun needUpdate sent => if !sent then true else needUpdate) false

/-- `case CHECK_NEW_SCHEDULES_MSG`. -/
def serveCheckNewSchedules (e : Endian) (deviceId : UInt8) : Handler :=
  .dbGetActiveSchedules deviceId.toUInt16 fun
    | none => .done
    | some (sches, sents) =>
      let rspLen : UInt16 := if needUpdate sents then UInt16.ofNat (8 * sches.length) else 0
      let rsp : List UInt8 :=
        if needUpdate sents then (craftActiveSchedulesRsp e sches).bytes else []
      .sendRspMsg (sendRspMsg e rsp rspLen) <|
        .setSchedulesSent sches deviceId.toUInt16 .done

/-- The handler of a request type. -/
def requestHandler (e : Endian) (deviceId : UInt8) : RequestType → Handler
  | .getDeviceValvesMsg => serveGetDeviceValves e deviceId
  | .getActiveSchesMsg => serveGetActiveSches e deviceId
  | .checkNewSchedulesMsg => serveCheckNewSchedules e deviceId

/-- What is done for a received header. -/
def headerHandler (e : Endian) (header : Header) : Handler :=
  if header.magicNumber ≠ MAGIC_NUMER then .done
  else
    match RequestType.ofCode header.msgType with
    | none => .done
    | some msgType => requestHandler e header.deviceId msgType

/-- What is done for the connection that was accepted. -/
def connectionHandler (e : Endian) (heap : ℕ → UInt8) (newsockfd : Inbound) : Handler :=
  match recvSocketHeader e heap newsockfd with
  | none => .done
  | some header => headerHandler e header

/-- What a request leaves. -/
def serveRequest (e : Endian) (env : Env) (deviceId : UInt8) (db : Db) (type : RequestType) :
    Served :=
  (requestHandler e deviceId type).served env db

/-- What a header leaves. -/
def serveHeader (e : Endian) (env : Env) (header : Header) (db : Db) : Served :=
  (headerHandler e header).served env db

/-- One turn of the loop of `_run_server`, on the connection that was accepted. -/
def runServer (e : Endian) (heap : ℕ → UInt8) (env : Env) (newsockfd : Inbound) (db : Db) :
    Served :=
  (connectionHandler e heap newsockfd).served env db

/-! ## Connections -/

/-- A header that is a request: the magic number and one of the three types. -/
def Header.request (header : Header) : Option RequestType :=
  if header.magicNumber ≠ MAGIC_NUMER then none else RequestType.ofCode header.msgType

/-- A header that is no request changes nothing and gets no answer. -/
theorem serveHeader_eq (e : Endian) (env : Env) (header : Header) (db : Db) :
    serveHeader e env header db =
      match header.request with
      | none => ⟨db, none⟩
      | some msgType => serveRequest e env header.deviceId db msgType := by
  rw [serveHeader, headerHandler, Header.request]
  split_ifs
  · rfl
  · cases RequestType.ofCode header.msgType <;> rfl

theorem runServer_eq (e : Endian) (heap : ℕ → UInt8) (env : Env) (newsockfd : Inbound) (db : Db) :
    runServer e heap env newsockfd db =
      match recvSocketHeader e heap newsockfd with
      | none => ⟨db, none⟩
      | some header => serveHeader e env header db := by
  rw [runServer, connectionHandler]
  cases recvSocketHeader e heap newsockfd <;> rfl

@[simp] theorem RequestType.ofCode_code (t : RequestType) : RequestType.ofCode t.code = some t := by
  cases t <;> rfl

end Bbd.Server
