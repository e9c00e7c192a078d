import Bbd.Server.RunServer
import Bbd.Wire

/-!
# What a connection makes the receiver do

The calls by which one turn of the loop of `_run_server` reaches outside: the four calls of the
database and the send, in their order.  They are read off the handlers (`Handler.calls`), and they
account for all that is left of a connection (`runServer_eq_of_calls`).  A header of six bytes is
decoded to the values it was encoded from, and to calls it leads only with the magic number and one
of the three types, which then read for the device in it (`request_path_agreement`).  A connection
that ends inside its header is served as well, on the bytes that the heap held
(`incomplete_not_served_iff`).
-/

namespace Bbd.Server

open Client Runs

/-- A call of a handler that reaches outside the receiver. -/
inductive ServerCall where
  | dbGetDeviceValves (deviceId : UInt16)
  | dbGetActiveSchedules (deviceId : UInt16)
  | sendRspMsg (totalReplyMsg : List UInt8)
  | setSchedulesSent (sches : List Schedule) (deviceId : UInt16)
  | deactivationRequestsDone
  deriving DecidableEq, Repr

namespace ServerCall

/-- The device that a call reads the database for. -/
def readsFor : ServerCall → Option UInt16
  | .dbGetDeviceValves deviceId | .dbGetActiveSchedules deviceId => some deviceId
  | _ => none

/-- The bytes that a call hands to `send`. -/
def sent : ServerCall → Option (List UInt8)
  | .sendRspMsg totalReplyMsg => some totalReplyMsg
  | _ => none

/-- What a call, with the web calls around it, does to the database. -/
def apply (env : Env) (db : Db) : ServerCall → Db
  | .dbGetDeviceValves _ | .dbGetActiveSchedules _ => db
  | .sendRspMsg _ => db.afterWeb env.afterRead
  | .setSchedulesSent sches _ =>
    (Server.setSchedulesSent env.mark env.markNow sches (db.afterWeb env.afterSend)).2.afterWeb
      env.afterMark
  | .deactivationRequestsDone => (Server.deactivationRequestsDone env.deact env.deactNow db).2

end ServerCall

/-- The calls of a handler, in their order. -/
def Handler.calls (env : Env) (db : Db) : Handler → List ServerCall
  | .dbGetDeviceValves deviceId next =>
    .dbGetDeviceValves deviceId ::
      (next (Server.dbGetDeviceValves env.read env.valveOrder deviceId db)).calls env db
  | .dbGetActiveSchedules deviceId next =>
    .dbGetActiveSchedules deviceId ::
      (next (Server.dbGetActiveSchedules env.read env.order deviceId db)).calls env db
  | .sendRspMsg totalReplyMsg next =>
    let call : ServerCall := .sendRspMsg totalReplyMsg
    call :: next.calls env (call.apply env db)
  | .setSchedulesSent sches deviceId next =>
    let call : ServerCall := .setSchedulesSent sches deviceId
    call :: next.calls env (call.apply env db)
  | .deactivationRequestsDone next =>
    let call : ServerCall := .deactivationRequestsDone
    call :: next.calls env (call.apply env db)
  | .done => []

/-- The calls of one turn of the loop of `_run_server`. -/
def runServerCalls (e : Endian) (heap : ℕ → UInt8) (env : Env) (newsockfd : Inbound) (db : Db) :
    List ServerCall :=
  (connectionHandler e heap newsockfd).calls env db

/-! ## The calls account for the request -/

namespace Handler

/-- The database and the reply that a handler leaves are those of its calls. -/
theorem served_eq_of_calls (env : Env) (db : Db) (handler : Handler) :
    handler.served env db =
      ⟨run (ServerCall.apply env) db (handler.calls env db),
        (handler.calls env db).findSome? ServerCall.sent⟩ := by
  induction handler generalizing db with
  | dbGetDeviceValves deviceId next ih => exact ih _ db
  | dbGetActiveSchedules deviceId next ih => exact ih _ db
  | sendRspMsg totalReplyMsg next ih =>
    show Served.mk (next.served env _).db _ = _
    rw [ih]
    rfl
  | setSchedulesSent sches deviceId next ih => exact ih _
  | deactivationRequestsDone next ih => exact ih _
  | done => rfl

/-- Whatever its reads bring, the handler reads for the device `d` alone. -/
def ReadsOnly (d : UInt16) : Handler → Prop
  | .dbGetDeviceValves deviceId next => deviceId = d ∧ ∀ read, (next read).ReadsOnly d
  | .dbGetActiveSchedules deviceId next => deviceId = d ∧ ∀ read, (next read).ReadsOnly d
  | .sendRspMsg _ next | .setSchedulesSent _ _ next | .deactivationRequestsDone next =>
    next.ReadsOnly d
  | .done => True

theorem ReadsOnly.eq_of_mem_calls {env : Env} {db : Db} {handler : Handler} {d d' : UInt16}
    (h : handler.ReadsOnly d) {call : ServerCall} (hcall : call ∈ handler.calls env db)
    (hd' : call.readsFor = some d') : d' = d := by
  induction handler generalizing db with
  | dbGetDeviceValves deviceId next ih =>
    rcases List.mem_cons.1 hcall with rfl | hcall
    · exact (Option.some.inj hd').symm.trans h.1
    · exact ih _ (h.2 _) hcall
  | dbGetActiveSchedules deviceId next ih =>
    rcases List.mem_cons.1 hcall with rfl | hcall
    · exact (Option.some.inj hd').symm.trans h.1
    · exact ih _ (h.2 _) hcall
  | sendRspMsg _ next ih | setSchedulesSent _ _ next ih | deactivationRequestsDone next ih =>
    rcases List.mem_cons.1 hcall with rfl | hcall
    · cases hd'
    · exact ih h hcall
  | done => cases hcall

end Handler

/-- What is left of a connection is what its calls leave. -/
theorem runServer_eq_of_calls (e : Endian) (heap : ℕ → UInt8) (env : Env) (newsockfd : Inbound)
    (db : Db) :
    runServer e heap env newsockfd db =
      ⟨run (ServerCall.apply env) db (runServerCalls e heap env newsockfd db),
        (runServerCalls e heap env newsockfd db).findSome? ServerCall.sent⟩ :=
  Handler.served_eq_of_calls env db _

/-- A request reads the database for its own device, and for no other. -/
theorem readsOnly_requestHandler (e : Endian) (deviceId : UInt8) (type : RequestType) :
    (requestHandler e deviceId type).ReadsOnly deviceId.toUInt16 := by
  cases type <;> refine ⟨rfl, fun read => ?_⟩ <;> cases read <;> exact trivial

/-! ## Headers -/

section Header

variable {server client : Endian} {heap : ℕ → UInt8} {timesOut : Bool}

theorem recvSocketHeader_six (a b c d e f : UInt8) (rest : List UInt8) :
    recvSocketHeader server heap ⟨a :: b :: c :: d :: e :: f :: rest, timesOut⟩ =
      some ⟨Endian.join a b, c, d, Endian.join e f⟩ := by
  rw [recvSocketHeader, Inbound.recv_of_le (by simp) (by simp)]
  simp [prepRecved16, prepRecved8, Endian.hton16_load16]

theorem sdSendSocketHeader_eq (magicNumber : UInt16) (deviceId msgType : UInt8) (msgSize : UInt16) :
    sdSendSocketHeader client magicNumber deviceId msgType msgSize =
      [Endian.hi magicNumber, Endian.lo magicNumber, deviceId, msgType, Endian.hi msgSize,
        Endian.lo msgSize] := by
  simp [sdSendSocketHeader, sdPrepToSend16, sdPrepToSend8, Endian.store16_hton16]

theorem recvSocketHeader_eq_none_iff (newsockfd : Inbound) :
    recvSocketHeader server heap newsockfd = none ↔ newsockfd.incoming = [] := by
  have h := newsockfd.recv_le_zero_iff (malloc heap 6)
  rw [length_malloc] at h
  simp only [recvSocketHeader]
  split_ifs with hrecv
  · simpa using h.1 hrecv
  · simpa using fun hnil => hrecv (h.2 (Or.inr hnil))

theorem request_of_calls {e : Endian} {env : Env} {header : Header} {db : Db}
    (h : (headerHandler e header).calls env db ≠ []) :
    header.magicNumber = MAGIC_NUMER ∧
      (header.msgType = 1 ∨ header.msgType = 2 ∨ header.msgType = 3) := by
  rw [headerHandler] at h
  split_ifs at h with hmagic
  · exact absurd rfl h
  · refine ⟨not_not.1 hmagic, ?_⟩
    cases htype : RequestType.ofCode header.msgType with
    | none =>
      rw [htype] at h
      exact absurd rfl h
    | some type =>
      rw [RequestType.ofCode] at htype
      split_ifs at htype with h₁ h₂ h₃
      · exact Or.inl h₁
      · exact Or.inr (Or.inl h₂)
      · exact Or.inr (Or.inr h₃)

theorem readsOnly_headerHandler (e : Endian) (header : Header) :
    (headerHandler e header).ReadsOnly header.deviceId.toUInt16 := by
  rw [headerHandler]
  split_ifs
  · exact trivial
  · cases RequestType.ofCode header.msgType with
    | none => exact trivial
    | some type => exact readsOnly_requestHandler e header.deviceId type

end Header

/-- The header that a device sends is the one that the receiver decodes, and every six bytes are
what they decode to; they lead to calls only with the magic number and a request type, and the
database is read for the device in the header. -/
theorem request_path_agreement (server client : Endian) (heap : ℕ → UInt8) (rest : List UInt8)
    (timesOut : Bool) :
    (∀ magicNumber deviceId msgType msgSize,
      recvSocketHeader server heap
          ⟨sdSendSocketHeader client magicNumber deviceId msgType msgSize ++ rest, timesOut⟩ =
        some ⟨magicNumber, deviceId, msgType, msgSize⟩) ∧
    (∀ msg : List UInt8, msg.length = 6 →
      ∃ header, recvSocketHeader server heap ⟨msg ++ rest, timesOut⟩ = some header ∧
        sdSendSocketHeader client header.magicNumber header.deviceId header.msgType
          header.msgSize = msg ∧
        ∀ env db,
          (runServerCalls server heap env ⟨msg ++ rest, timesOut⟩ db ≠ [] →
            header.magicNumber = 38017 ∧
              (header.msgType = 1 ∨ header.msgType = 2 ∨ header.msgType = 3)) ∧
          ∀ call ∈ runServerCalls server heap env ⟨msg ++ rest, timesOut⟩ db, ∀ d,
            call.readsFor = some d → d = header.deviceId.toUInt16) := by
  constructor
  · intro magicNumber deviceId msgType msgSize
    rw [sdSendSocketHeader_eq]
    simpa using @recvSocketHeader_six server heap timesOut (Endian.hi magicNumber)
      (Endian.lo magicNumber) deviceId msgType (Endian.hi msgSize) (Endian.lo msgSize) rest
  · intro msg hmsg
    obtain ⟨a, b, c, d, e, f, rfl⟩ : ∃ a b c d e f, msg = [a, b, c, d, e, f] := by
      match msg, hmsg with
      | [a, b, c, d, e, f], _ => exact ⟨a, b, c, d, e, f, rfl⟩
    have hrecv : recvSocketHeader server heap ⟨[a, b, c, d, e, f] ++ rest, timesOut⟩ =
        some ⟨Endian.join a b, c, d, Endian.join e f⟩ := recvSocketHeader_six a b c d e f rest
    refine ⟨_, hrecv, by simp [sdSendSocketHeader_eq], fun env db => ?_⟩
    have hhandler : connectionHandler server heap ⟨[a, b, c, d, e, f] ++ rest, timesOut⟩ =
        headerHandler server ⟨Endian.join a b, c, d, Endian.join e f⟩ := by
      rw [connectionHandler, hrecv]
    rw [runServerCalls, hhandler]
    exact ⟨request_of_calls, fun call hcall d hd =>
      (readsOnly_headerHandler server _).eq_of_mem_calls hcall hd⟩

/-- The six bytes of a `GET_ACTIVE_SCHES_MSG` of device 7. -/
theorem request_path_agreement_seven :
    ∃ header, recvSocketHeader .big (fun _ => 0) ⟨[148, 129, 7, 2, 0, 0] ++ [], false⟩ =
        some header ∧
      sdSendSocketHeader .little header.magicNumber header.deviceId header.msgType
        header.msgSize = [148, 129, 7, 2, 0, 0] := by
  obtain ⟨header, hrecv, hsend, -⟩ :=
    (request_path_agreement .big .little (fun _ => 0) [] false).2 [148, 129, 7, 2, 0, 0] rfl
  exact ⟨header, hrecv, hsend⟩

/-- A header that breaks off before its last byte is not served exactly when not even its first byte
arrives. -/
theorem incomplete_not_served_iff (e : Endian) (heap : ℕ → UInt8) (msg : List UInt8)
    (hmsg : msg.length = 6) (k : ℕ) (hk : k < 6) (timesOut : Bool) :
    (recvSocketHeader e heap ⟨msg.take k, timesOut⟩ = none ∧
        ∀ env db, runServerCalls e heap env ⟨msg.take k, timesOut⟩ db = []) ↔
      k = 0 := by
  have hnil : msg.take k = [] ↔ k = 0 := by
    rw [← List.length_eq_zero_iff, List.length_take]
    omega
  rw [recvSocketHeader_eq_none_iff, hnil, and_iff_left_of_imp]
  intro hzero env db
  rw [runServerCalls, connectionHandler, (recvSocketHeader_eq_none_iff _).2 (hnil.2 hzero)]
  rfl

/-- A connection without a byte is not served. -/
theorem incomplete_not_served_iff_zero :
    recvSocketHeader .little (fun _ => 148) ⟨[], true⟩ = none :=
  ((incomplete_not_served_iff .little (fun _ => 148) [148, 129, 7, 2, 0, 0] rfl 0 (by decide)
    true).2 rfl).1

/-- The first byte of a header, completed on the heap by the header of device 7: the receiver
serves device 7. -/
theorem not_incomplete_not_served_one :
    ¬ (recvSocketHeader .little (fun i => [148, 129, 7, 2, 0, 0].getD i 0) ⟨[148], true⟩ = none ∧
        ∀ env db, runServerCalls .little (fun i => [148, 129, 7, 2, 0, 0].getD i 0) env
          ⟨[148], true⟩ db = []) ∧
      runServerCalls .little (fun i => [148, 129, 7, 2, 0, 0].getD i 0) .calm ⟨[148], true⟩
          Db.garden =
        [.dbGetActiveSchedules 7, .sendRspMsg [0, 0], .setSchedulesSent [] 7,
          .deactivationRequestsDone] := by
  refine ⟨fun h => ?_, by decide⟩
  exact absurd h.1 (by decide)

end Bbd.Server
