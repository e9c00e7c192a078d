import Bbd.Modem.InetGsm

/-!
# The status of the module

`begin`, `configureGPRS`, `dettachGPRS`, `attachGPRS`, `disconnectTCP` and `connectedClient` write
the status, and three of them read it; `setStatus` writes whatever it is told.  Over every run of
calls the status is what was written last (`status_run`): `TCPCONNECTEDCLIENT`, which
`disconnectTCP` asks for, is written by `setStatus` only.
-/

namespace Bbd.Modem

open Runs

namespace Gsm

/-- A call of a method of `GSM` or `InetGSM`; where it reads from the modem, with what is left to
read. -/
inductive InetCall where
  | gsm (c : Call)
  | httpGET (server : String) (port : ℤ) (path : String) (rsp stream : List UInt8)
  | httpPOST (server : String) (port : ℤ) (path parameters : String) (result : List UInt8)
      (resultlength : ℤ) (stream : List UInt8)
  | configureGPRS (domain dom1 dom2 : String)
  | dettachGPRS
  | attachGPRS
  | connectTCP (server : String) (port : ℤ)
  | disconnectTCP
  | connectTCPServer (port : ℤ)
  | connectedClient

/-- The line after a call that returns; there is none after one that does not, which is left out of
the run. -/
def lineAfter {α : Type*} (l : Line) : Except Stuck (ℤ × Line × α) → Line
  | .ok (_, l', _) => l'
  | .error _ => l

/-- The state after a call. -/
def inetStep (g : Gsm) : InetCall → Gsm
  | .gsm c => g.step c
  | .httpGET server port path rsp stream =>
    let returned := g.line.httpGET server port path rsp stream
    { g with line := lineAfter g.line returned }
  | .httpPOST server port path parameters result resultlength stream =>
    let returned := g.line.httpPOST server port path parameters result resultlength stream
    { g with line := lineAfter g.line returned }
  | .configureGPRS domain dom1 dom2 => (g.configureGPRS domain dom1 dom2).2
  | .dettachGPRS => g.dettachGPRS.2
  | .attachGPRS => g.attachGPRS.2
  | .connectTCP server port => { g with line := (g.line.connectTCP server port).2 }
  | .disconnectTCP => g.disconnectTCP.2
  | .connectTCPServer port => { g with line := (g.line.connectTCPServer port).2 }
  | .connectedClient => g.connectedClient.2

/-- The modem has no address, and `configureGPRS` gets it one. -/
def getsAddress (l : Line) : Prop :=
  accepted "ERROR" (l.answers 1) ∧ accepted "SHUT OK" (l.answers 2) ∧ accepted "OK" (l.answers 3) ∧
    accepted "OK" (l.answers 4) ∧ ¬ accepted "ERROR" (l.answers 5)

instance (l : Line) : Decidable (getsAddress l) := inferInstanceAs (Decidable (_ ∧ _))

/-- What `dettachGPRS` and `attachGPRS` make the status. -/
def writesAttachment (g : Gsm) : Option Status :=
  if g.status = .idle then none
  else if accepted "OK" (g.line.answers 0) then some .ready else some .error

/-- What a call makes the status, if it does anything to it. -/
def writes (g : Gsm) : InetCall → Option Status
  | .gsm (.setStatus status) => some status
  | .gsm (.begin baudRate) => some (if (g.begin baudRate).1 = 1 then .ready else .idle)
  | .gsm (.setCommLineStatus _) => none
  | .gsm (.initParam _) | .gsm (.echo _) | .gsm .checkRegistration => none
  | .gsm (.waitResp _ _) | .gsm (.waitRespFor _ _ _) => none
  | .gsm (.sendATCmd _ _ _ _ _) | .gsm (.sendFlashCmd _ _ _ _ _) => none
  | .configureGPRS _ _ _ => if getsAddress g.line then some .attached else none
  | .dettachGPRS | .attachGPRS => g.writesAttachment
  | .httpGET _ _ _ _ _ | .httpPOST _ _ _ _ _ _ _ => none
  | .connectTCP _ _ | .connectTCPServer _ => none
  | .disconnectTCP => some (if g.status = .tcpConnectedClient then .attached else .tcpServerWait)
  | .connectedClient =>
    if accepted "CONNECT OK" (g.line.answers 0) then none else some .tcpConnectedServer

section Spec

variable (g : Gsm)

/-- `configureGPRS` also succeeds when the modem says nothing, as if it had an address. -/
theorem configureGPRS_spec (domain dom1 dom2 : String) :
    ((g.configureGPRS domain dom1 dom2).1 = 1 ↔
      ¬ accepted "ERROR" (g.line.answers 1) ∨ getsAddress g.line) ∧
    (g.configureGPRS domain dom1 dom2).2.status =
      if getsAddress g.line then .attached else g.status := by
  simp only [configureGPRS, waitRespFor_eq, ofAnswer_ne_iff, getsAddress]
  simp only [answers_print, answers_println, answers_delay, answers_waitResp, answers_wait,
    Nat.reduceAdd]
  by_cases h₁ : accepted "ERROR" (g.line.answers 1)
  · by_cases h₂ : accepted "SHUT OK" (g.line.answers 2)
    · by_cases h₃ : accepted "OK" (g.line.answers 3)
      · by_cases h₄ : accepted "OK" (g.line.answers 4)
        · by_cases h₅ : accepted "ERROR" (g.line.answers 5) <;> simp [h₁, h₂, h₃, h₄, h₅]
        · simp [h₁, h₂, h₃, h₄]
      · simp [h₁, h₂, h₃]
    · simp [h₁, h₂]
  · simp [h₁]

theorem setAttachment_spec (command : String) :
    ((g.setAttachment command).1 = -1 ↔ g.status = .idle) ∧
      (g.setAttachment command).2.status = g.writesAttachment.getD g.status := by
  rw [setAttachment, writesAttachment]
  by_cases hidle : g.status = .idle
  · simp [hidle]
  · simp only [if_neg hidle, waitRespFor_eq, ofAnswer_ne_iff]
    simp only [answers_println]
    by_cases hok : accepted "OK" (g.line.answers 0) <;> simp [hok, hidle]

theorem connectedClient_status :
    g.connectedClient.2.status =
      if accepted "CONNECT OK" (g.line.answers 0) then g.status else .tcpConnectedServer := by
  simp only [connectedClient, waitRespFor_eq, ofAnswer_ne_iff]
  simp only [answers_println]
  by_cases hconnect : accepted "CONNECT OK" (g.line.answers 0) <;> simp [hconnect]

theorem begin_status (baudRate : ℤ) :
    (g.begin baudRate).2.status = if (g.begin baudRate).1 = 1 then .ready else .idle := by
  obtain ⟨line, h⟩ := g.begin_spec baudRate
  rw [h]
  split_ifs <;> simp_all

theorem checkRegistration_status : g.checkRegistration.2.status = g.status := by
  by_cases hfree : g.commLineStatus = .free
  · rcases g.checkRegistration_cases hfree with
      ⟨line, h, -⟩ | ⟨line, h, -⟩ | ⟨line, h, -⟩ | ⟨line, h, -⟩ <;> rw [h]
  · rw [g.checkRegistration_of_busy hfree]

theorem initParam_status (group : UInt8) : (g.initParam group).status = g.status := by
  by_cases h : group = 0 ∨ group = 1
  · rw [g.initParam_eq group h]
  · rw [not_or] at h
    rw [g.initParam_of_ne h.1 h.2]

theorem echo_status (state : UInt8) : (g.echo state).status = g.status := by
  by_cases h : state = 0 ∨ state = 1
  · rw [g.echo_eq state h]
  · rw [not_or] at h
    rw [g.echo_of_ne h.1 h.2]

theorem writes_eq_client_iff (c : InetCall) :
    g.writes c = some .tcpConnectedClient ↔ c = .gsm (.setStatus .tcpConnectedClient) := by
  have hattachment : g.writesAttachment ≠ some .tcpConnectedClient := by
    rw [writesAttachment]
    split_ifs <;> simp
  cases c with
  | gsm c =>
    cases c with
    | begin baudRate =>
      rw [writes]
      split_ifs <;> simp
    | _ => simp [writes]
  | configureGPRS domain dom1 dom2 =>
    rw [writes]
    split_ifs <;> simp
  | dettachGPRS => exact iff_of_false hattachment (by simp)
  | attachGPRS => exact iff_of_false hattachment (by simp)
  | disconnectTCP =>
    rw [writes]
    split_ifs <;> simp
  | connectedClient =>
    rw [writes]
    split_ifs <;> simp
  | _ => simp [writes]

/-- A call makes the status what it writes, if it writes anything. -/
theorem inetStep_status (c : InetCall) : (g.inetStep c).status = (g.writes c).getD g.status := by
  cases c with
  | gsm c =>
    cases c with
    | begin baudRate => rw [inetStep, step, g.begin_status, writes, Option.getD_some]
    | initParam group => rw [inetStep, step, g.initParam_status, writes, Option.getD_none]
    | echo state => rw [inetStep, step, g.echo_status, writes, Option.getD_none]
    | checkRegistration =>
      rw [inetStep, step, g.checkRegistration_status, writes, Option.getD_none]
    | setStatus status => rw [inetStep, step, writes, Option.getD_some]
    | _ => rw [inetStep, step, writes, Option.getD_none]
  | configureGPRS domain dom1 dom2 =>
    rw [inetStep, (g.configureGPRS_spec domain dom1 dom2).2, writes]
    split_ifs <;> rfl
  | dettachGPRS => exact (g.setAttachment_spec _).2
  | attachGPRS => exact (g.setAttachment_spec _).2
  | disconnectTCP => rfl
  | connectedClient =>
    rw [inetStep, g.connectedClient_status, writes]
    split_ifs <;> rfl
  | _ => rw [inetStep, writes, Option.getD_none]

end Spec

/-- What the calls of a run make the status, in order. -/
def written (g : Gsm) (calls : List InetCall) : List Status :=
  emitted inetStep (fun g c => (g.writes c).toList) g calls

/-- After every run of calls the status is what was written last.  It is `TCPCONNECTEDCLIENT` only
where `setStatus` has made it that, so `disconnectTCP` leaves the module waiting as a server, not
attached, unless such a call was the last to write it.  `attachGPRS` and `dettachGPRS` do nothing
exactly when no call has written the status, or the last to do so wrote `IDLE`. -/
theorem status_run (g : Gsm) (hg : g.status = .idle) (calls : List InetCall) :
    (run inetStep g calls).status = (g.written calls).getLast?.getD .idle ∧
      (.tcpConnectedClient ∈ g.written calls ↔
        .gsm (.setStatus .tcpConnectedClient) ∈ calls) ∧
      (run inetStep g calls).disconnectTCP.2.status =
        (if (g.written calls).getLast? = some .tcpConnectedClient then .attached
        else .tcpServerWait) ∧
      ((run inetStep g calls).attachGPRS.1 = -1 ↔
        g.written calls = [] ∨ (g.written calls).getLast? = some .idle) ∧
      ((run inetStep g calls).dettachGPRS.1 = -1 ↔
        g.written calls = [] ∨ (g.written calls).getLast? = some .idle) := by
  have hstatus := run_getLast Gsm.status writes inetStep_status g calls
  rw [← written, hg] at hstatus
  have hidle : (run inetStep g calls).status = .idle ↔
      g.written calls = [] ∨ (g.written calls).getLast? = some .idle := by
    rw [hstatus]
    cases h : (g.written calls).getLast? with
    | none => simpa using h
    | some status =>
      have hnil : g.written calls ≠ [] := fun hnil => by simp [hnil] at h
      simp [hnil]
  have hclient : (run inetStep g calls).status = .tcpConnectedClient ↔
      (g.written calls).getLast? = some .tcpConnectedClient := by
    rw [hstatus]
    cases (g.written calls).getLast? <;> simp
  refine ⟨hstatus, ?_, if_congr hclient rfl rfl, ?_, ?_⟩
  · have hwritten (g : Gsm) (c : InetCall) : .tcpConnectedClient ∈ (g.writes c).toList ↔
        c = .gsm (.setStatus .tcpConnectedClient) := by
      rw [Option.mem_toList, g.writes_eq_client_iff]
    rw [written, mem_emitted_iff_of_iff hwritten]
    simp
  · exact ((run inetStep g calls).setAttachment_spec _).1.trans hidle
  · exact ((run inetStep g calls).setAttachment_spec _).1.trans hidle

/-- After a `begin` that finds no modem, and whatever `attachGPRS` does then. -/
theorem status_run_silent :
    (run inetStep (powerOn fun _ => []) [.gsm (.begin 9600), .attachGPRS]).disconnectTCP.2.status =
      .tcpServerWait :=
  (status_run (powerOn fun _ => []) rfl [.gsm (.begin 9600), .attachGPRS]).2.2.1.trans
    (if_neg (by decide))

end Gsm

end Bbd.Modem
