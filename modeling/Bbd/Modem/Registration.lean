import Bbd.Modem.AtCommands

/-!
# The modem from power-on to registration

`GSM` keeps a status, whether the line is in use, and two bits about the registration in the
network.  `begin` looks for the modem and configures it; `CheckRegistration`, called regularly,
asks whether it is registered, and configures it once more on the first answer that says so.  Over
every run of calls the bits tell what `CheckRegistration` was answered (`registration_run`), and the
line is in use between two calls exactly from a `begin` that has found no modem, or a
`SetCommLineStatus` that says so, until a call that does not ask whether the line is free
(`checkRegistration_busy_iff`).
-/

namespace Bbd.Modem

open Runs

/-- `enum GSM_st_e`. -/
inductive Status where
  | error
  | idle
  | ready
  | attached
  | tcpServerWait
  | tcpConnectedServer
  | tcpConnectedClient
  deriving DecidableEq, Repr

/-- `enum comm_line_status_enum`. -/
inductive CommLineStatus where
  | free
  | atCmd
  | data
  | lastItem
  deriving DecidableEq, Repr

/-- `enum registration_ret_val_enum`. -/
inductive RegistrationRetVal where
  | notRegistered
  | registered
  | noResponse
  | commLineBusy
  deriving DecidableEq, Repr

/-- What `GSM` holds beside the reception: `_status`, `comm_line_status`, `module_status`. -/
structure Gsm where
  line : Line
  status : Status
  commLineStatus : CommLineStatus
  moduleStatus : UInt8

/-- The baud rates that `begin` tries. -/
def baudRates : List ℤ := [1200, 2400, 4800, 9600, 19200, 38400, 57600, 115200]

namespace Line

/-- `SendATCmdWaitResp("AT", 500, 100, "OK", 5)`. -/
def checkAt (l : Line) : AtResp × Line := l.sendATCmdWaitResp "AT" 500 100 "OK" 5

/-- The loop of `begin` that checks the power, `todo` iterations before its end. -/
def checkPower (l : Line) : (todo : ℕ) → Line
  | 0 => l
  | todo + 1 =>
    let (response, l) := l.checkAt
    (if response = .errNoResp then l else (l.waitResp 1000 1000).2).checkPower todo

/-- The loop of `begin` that looks for the baud rate of the modem, and whether it finds it. -/
def autoBaud (l : Line) (baudRate : ℤ) : List ℤ → Bool × Line
  | [] => (false, l)
  | rate :: rates =>
    let (response, l) := ((l.begin rate).delay 100).checkAt
    if response = .ok then
      let l := ((l.print "AT+IPR=").print (toString baudRate)).print "\r"
      let l := ((l.delay 500).begin baudRate).delay 100
      (true, l.checkAt.2)
    else l.autoBaud baudRate rates

/-- The loop of `begin` that forces the baud rate to 9600. -/
def forceBaud (l : Line) : List ℤ → Line
  | [] => l
  | rate :: rates =>
    let l := (((l.begin rate).delay 1000).print "AT+IPR=9600\r").delay 1000
    let l := ((l.begin 9600).delay 1000).checkAt.2.delay 1000
    (l.waitResp 1000 1000).2.forceBaud rates

end Line

namespace Gsm

/-- `InitSMSMemory`. -/
def initSMSMemory (g : Gsm) : ℤ × Gsm :=
  if g.commLineStatus ≠ .free then (-1, g)
  else
    let line := (g.line.sendATCmdWaitResp "AT+CNMI=2,0" 1000 50 "OK" 2).2
    let (response, line) :=
      line.sendATCmdWaitResp "AT+CPMS=\"SM\",\"SM\",\"SM\"" 1000 1000 "+CPMS:" 10
    (if response = .ok then 1 else 0, { g with line := line, commLineStatus := .free })

/-- `InitParam`: `PARAM_SET_0`, `PARAM_SET_1`, and nothing for any other group.  That the line is
`CLS_ATCMD` in between is read by nothing. -/
def initParam (g : Gsm) (group : UInt8) : Gsm :=
  if group = 0 then
    let line := (g.line.sendATCmdWaitResp "AT&F" 1000 50 "OK" 5).2
    let line := (line.sendATCmdWaitResp "ATE0" 500 50 "OK" 5).2
    { g with line := line, commLineStatus := .free }
  else if group = 1 then
    let line := (g.line.sendFlashCmdWaitResp "AT+CLIP=1" 500 50 "OK" 5).2
    let line := (line.sendFlashCmdWaitResp "AT+CMEE=0" 500 50 "OK" 5).2
    let line := (line.sendFlashCmdWaitResp "AT+CMGF=1" 500 50 "OK" 5).2
    let g := { g with line := line, commLineStatus := .free }.initSMSMemory.2
    let line := (g.line.sendFlashCmdWaitResp "AT+CPBS=\"SM\"" 1000 50 "OK" 5).2
    let line := (line.sendFlashCmdWaitResp "AT+CIPSHUT" 500 50 "SHUT OK" 5).2
    { g with line := line }
  else g

/-- `Echo`. -/
def echo (g : Gsm) (state : UInt8) : Gsm :=
  if state = 0 ∨ state = 1 then
    let line := (((g.line.print "ATE").print (toString state.toNat)).print "\r").delay 500
    { g with line := line, commLineStatus := .free }
  else g

/-- `IsRegistered`: the bit `STATUS_REGISTERED`. -/
def isRegistered (g : Gsm) : Bool := g.moduleStatus &&& 2 ≠ 0

/-- `IsInitialized`: the bit `STATUS_INITIALIZED`. -/
def isInitialized (g : Gsm) : Bool := g.moduleStatus &&& 1 ≠ 0

/-- `CheckRegistration`. -/
def checkRegistration (g : Gsm) : RegistrationRetVal × Gsm :=
  if g.commLineStatus ≠ .free then (.commLineBusy, g)
  else
    let g := { g with commLineStatus := .atCmd, line := g.line.println "AT+CREG?" }
    let (status, line) := g.line.waitResp 5000 50
    let g := { g with line := line }
    if status = .finished then
      if line.isStringReceived "+CREG: 0,1" || line.isStringReceived "+CREG: 0,5" then
        let g := { g with moduleStatus := g.moduleStatus ||| 2 }
        let g :=
          if !g.isInitialized then
            { g with moduleStatus := g.moduleStatus ||| 1, commLineStatus := .free }.initParam 1
          else g
        (.registered, { g with commLineStatus := .free })
      else
        (.notRegistered,
          { g with moduleStatus := g.moduleStatus &&& ~~~2, commLineStatus := .free })
    else (.noResponse, { g with commLineStatus := .free })

/-- `begin`, on the UNO. -/
def begin (g : Gsm) (baudRate : ℤ) : ℕ × Gsm :=
  let baudRate := if baudRate = 115200 then 9600 else baudRate
  let line := (g.line.begin baudRate).checkPower 3
  let (first, line) := line.checkAt
  let turnedOn := first = .ok
  let norep := first ≠ .ok
  let (second, line) := line.checkAt
  let g := { g with line := line, commLineStatus := .atCmd, status := .idle }
  let (turnedOn, g) : Bool × Gsm :=
    if second = .errDifResp ∧ ¬ turnedOn then
      let (found, line) := g.line.autoBaud baudRate baudRates
      (found, { g with line := line, commLineStatus := .free })
    else (turnedOn, g)
  if norep ∧ !turnedOn then
    let line := ((g.line.forceBaud baudRates).digitalWrite true).delay 1200
    (0, { g with line := (line.digitalWrite false).delay 10000 })
  else
    let g := { g with commLineStatus := .free }
    if turnedOn then
      let g := { g with line := (g.line.waitResp 50 50).2 }
      let g := ((g.initParam 0).initParam 1).echo 0
      (1, { g with status := .ready })
    else
      let line := ((g.line.begin 115200).delay 1000).print "AT+IPR="
      (0, { g with line := (line.print (toString baudRate)).print "\r" })

/-! ## What the calls leave alone -/

section Frame

variable (g : Gsm)

theorem initSMSMemory_snd (h : g.commLineStatus = .free) :
    g.initSMSMemory.2 = { g with line := g.initSMSMemory.2.line } := by
  obtain ⟨line, status, commLineStatus, moduleStatus⟩ := g
  cases h
  rfl

theorem initParam_eq (group : UInt8) (h : group = 0 ∨ group = 1) :
    g.initParam group =
      { g with line := (g.initParam group).line, commLineStatus := .free } := by
  rcases h with rfl | rfl
  · rfl
  · rw [initParam, if_neg (by decide), if_pos rfl]
    simp only
    rw [initSMSMemory_snd _ rfl]

theorem initParam_of_ne {group : UInt8} (h₀ : group ≠ 0) (h₁ : group ≠ 1) :
    g.initParam group = g := by
  rw [initParam, if_neg h₀, if_neg h₁]

theorem echo_eq (state : UInt8) (h : state = 0 ∨ state = 1) :
    g.echo state = { g with line := (g.echo state).line, commLineStatus := .free } := by
  rw [echo, if_pos h]

theorem configured_eq : ∃ line, ((g.initParam 0).initParam 1).echo 0 =
    { g with line := line, commLineStatus := .free } := by
  rw [echo_eq _ 0 (Or.inl rfl), initParam_eq _ 1 (Or.inr rfl), initParam_eq _ 0 (Or.inl rfl)]
  exact ⟨_, rfl⟩

theorem echo_of_ne {state : UInt8} (h₀ : state ≠ 0) (h₁ : state ≠ 1) : g.echo state = g := by
  rw [echo, if_neg (by simp [h₀, h₁])]

end Frame

/-! ## `begin` -/

section Begin

variable (g : Gsm) (baudRate : ℤ)

/-- The check after the power checks. -/
def firstCheck : AtResp × Line :=
  ((g.line.begin (if baudRate = 115200 then 9600 else baudRate)).checkPower 3).checkAt

/-- The check after it, which is always made. -/
def secondCheck : AtResp × Line := (g.firstCheck baudRate).2.checkAt

/-- The search for the baud rate, where the second check has a different response. -/
def search : Bool × Line :=
  (g.secondCheck baudRate).2.autoBaud (if baudRate = 115200 then 9600 else baudRate) baudRates

/-- `begin` succeeds when the first check does, or when the second one gets a different response and
the search for the baud rate succeeds.  It leaves the line in use when it fails without a search. -/
theorem begin_spec : ∃ line, g.begin baudRate =
    if (g.firstCheck baudRate).1 = .ok ∨
        (g.secondCheck baudRate).1 = .errDifResp ∧ (g.search baudRate).1 = true then
      (1, { g with line := line, status := .ready, commLineStatus := .free })
    else
      (0, { g with
        line := line
        status := .idle
        commLineStatus :=
          if (g.secondCheck baudRate).1 = .errDifResp then .free else .atCmd }) := by
  rcases h₁ : g.firstCheck baudRate with ⟨first, line₁⟩
  rcases h₂ : g.secondCheck baudRate with ⟨second, line₂⟩
  rcases h₃ : g.search baudRate with ⟨found, line₃⟩
  rw [search, h₂] at h₃
  rw [secondCheck, h₁] at h₂
  rw [firstCheck] at h₁
  unfold begin
  simp only [h₁, h₂]
  by_cases hfirst : first = .ok
  · -- The modem answers: there is no search.
    obtain ⟨line, hline⟩ := configured_eq { g with
      line := (line₂.waitResp 50 50).2, commLineStatus := .free, status := .idle }
    exact ⟨line, by simp [hfirst, hline]⟩
  · by_cases hsecond : second = .errDifResp
    · cases found
      · exact ⟨_, by simp [hfirst, hsecond, h₃]; rfl⟩
      · obtain ⟨line, hline⟩ := configured_eq { g with
          line := (line₃.waitResp 50 50).2, commLineStatus := .free, status := .idle }
        exact ⟨line, by simp [hfirst, hsecond, h₃, hline]⟩
    · exact ⟨_, by simp [hfirst, hsecond]; rfl⟩

end Begin

/-! ## `CheckRegistration` -/

section CheckRegistration

variable (g : Gsm)

/-- The actions of a `CheckRegistration` that does no more than ask. -/
def asking : List Action := [.println "AT+CREG?", .waitResp 5000 50]

theorem checkRegistration_of_busy (h : g.commLineStatus ≠ .free) :
    g.checkRegistration = (.commLineBusy, g) := if_pos h

theorem checkRegistration_cases (h : g.commLineStatus = .free) :
    (∃ line, g.checkRegistration = (.noResponse, { g with line := line }) ∧
      line.log = g.line.log ++ asking) ∨
    (∃ line, g.checkRegistration =
        (.notRegistered, { g with line := line, moduleStatus := g.moduleStatus &&& ~~~2 }) ∧
      line.log = g.line.log ++ asking) ∨
    (∃ line, g.checkRegistration =
        (.registered, { g with line := line, moduleStatus := g.moduleStatus ||| 2 }) ∧
      line.log = g.line.log ++ asking ∧ (g.moduleStatus ||| 2) &&& 1 ≠ 0) ∨
    ∃ line, g.checkRegistration =
        (.registered, { g with line := line, moduleStatus := g.moduleStatus ||| 2 ||| 1 }) ∧
      (g.moduleStatus ||| 2) &&& 1 = 0 := by
  obtain ⟨l, status, commLineStatus, moduleStatus⟩ := g
  cases h
  have hlog : ((l.println "AT+CREG?").waitResp 5000 50).2.log = l.log ++ asking := by
    simp [Line.println, Line.act, Line.waitResp, asking]
  rw [checkRegistration, if_neg (by simp)]
  rcases hwait : (l.println "AT+CREG?").waitResp 5000 50 with ⟨rxStatus, line⟩
  rw [hwait] at hlog
  simp only [hwait]
  by_cases hfinished : rxStatus = .finished
  · cases hreg : line.isStringReceived "+CREG: 0,1" || line.isStringReceived "+CREG: 0,5"
    · exact Or.inr (Or.inl ⟨line, by simp [hfinished], hlog⟩)
    · by_cases hinit : (moduleStatus ||| 2) &&& 1 = 0
      · -- The first registration.
        have hset := initParam_eq ⟨line, status, .free, moduleStatus ||| 2 ||| 1⟩ 1 (Or.inr rfl)
        refine Or.inr (Or.inr (Or.inr
          ⟨(initParam ⟨line, status, .free, moduleStatus ||| 2 ||| 1⟩ 1).line, ?_, hinit⟩))
        rw [if_pos hfinished, if_pos rfl, isInitialized, if_pos (by simpa using hinit),
          congrArg Gsm.status hset, congrArg Gsm.moduleStatus hset]
      · refine Or.inr (Or.inr (Or.inl ⟨line, ?_, hlog, hinit⟩))
        rw [if_pos hfinished, if_pos rfl, isInitialized, if_neg (by simpa using hinit)]
  · exact Or.inl ⟨line, by simp [hfinished], hlog⟩

end CheckRegistration

/-! ## Runs -/

/-- A call of a public method of `GSM` that uses the line or sets a status.  `RxInit` and
`IsRxFinished`, which `WaitResp` is made of, are not among them. -/
inductive Call where
  | setStatus (status : Status)
  | setCommLineStatus (newStatus : CommLineStatus)
  | begin (baudRate : ℤ)
  | initParam (group : UInt8)
  | echo (state : UInt8)
  | checkRegistration
  | waitResp (startCommTmout maxInterchTmout : UInt16)
  | waitRespFor (startCommTmout maxInterchTmout : UInt16) (expectedRespString : String)
  | sendATCmd (atCmdString : String) (startCommTmout maxInterchTmout : UInt16)
      (responseString : String) (noOfAttempts : UInt8)
  | sendFlashCmd (atCmdString : String) (startCommTmout maxInterchTmout : UInt16)
      (responseString : String) (noOfAttempts : UInt8)

/-- The state after a call. -/
def step (g : Gsm) : Call → Gsm
  | .setStatus status => { g with status := status }
  | .setCommLineStatus newStatus => { g with commLineStatus := newStatus }
  | .begin baudRate => (g.begin baudRate).2
  | .initParam group => g.initParam group
  | .echo state => g.echo state
  | .checkRegistration => g.checkRegistration.2
  | .waitResp start gap => { g with line := (g.line.waitResp start gap).2 }
  | .waitRespFor start gap expected =>
    { g with line := (g.line.waitRespFor start gap expected).2 }
  | .sendATCmd cmd start gap resp n =>
    { g with line := (g.line.sendATCmdWaitResp cmd start gap resp n).2 }
  | .sendFlashCmd cmd start gap resp n =>
    { g with line := (g.line.sendFlashCmdWaitResp cmd start gap resp n).2 }

/-- What the calls of `CheckRegistration` return. -/
def replies (g : Gsm) : Call → List RegistrationRetVal
  | .checkRegistration => [g.checkRegistration.1]
  | .setStatus _ | .setCommLineStatus _ | .begin _ | .initParam _ | .echo _ => []
  | .waitResp _ _ | .waitRespFor _ _ _ => []
  | .sendATCmd _ _ _ _ _ | .sendFlashCmd _ _ _ _ _ => []

/-- `module_status` after a return value of `CheckRegistration`. -/
def note (moduleStatus : UInt8) : RegistrationRetVal → UInt8
  | .registered => 3
  | .notRegistered => moduleStatus &&& 1
  | .noResponse => moduleStatus
  | .commLineBusy => moduleStatus

/-- The values that `module_status` has: a module that is registered has been initialized. -/
def Bits (moduleStatus : UInt8) : Prop := moduleStatus = 0 ∨ moduleStatus = 1 ∨ moduleStatus = 3

instance (moduleStatus : UInt8) : Decidable (Bits moduleStatus) :=
  inferInstanceAs (Decidable (_ ∨ _ ∨ _))

theorem Bits.note {m : UInt8} (h : Bits m) (r : RegistrationRetVal) : Bits (note m r) := by
  rcases h with rfl | rfl | rfl <;> cases r <;> decide

theorem Bits.and_compl {m : UInt8} (h : Bits m) : m &&& ~~~2 = m &&& 1 := by
  rcases h with rfl | rfl | rfl <;> decide

theorem Bits.or_two {m : UInt8} (h : Bits m) (hinit : (m ||| 2) &&& 1 ≠ 0) : m ||| 2 = 3 := by
  rcases h with rfl | rfl | rfl
  · exact absurd (by decide) hinit
  · decide
  · decide

theorem Bits.of_first {m : UInt8} (h : Bits m) (hinit : (m ||| 2) &&& 1 = 0) : m &&& 1 = 0 := by
  rcases h with rfl | rfl | rfl
  · decide
  · exact absurd hinit (by decide)
  · exact absurd hinit (by decide)

theorem Bits.or_three {m : UInt8} (h : Bits m) : m ||| 2 ||| 1 = 3 := by
  rcases h with rfl | rfl | rfl <;> decide

theorem moduleStatus_begin (g : Gsm) (baudRate : ℤ) :
    (g.begin baudRate).2.moduleStatus = g.moduleStatus := by
  obtain ⟨line, h⟩ := g.begin_spec baudRate
  rw [h]
  split_ifs <;> rfl

theorem moduleStatus_initParam (g : Gsm) (group : UInt8) :
    (g.initParam group).moduleStatus = g.moduleStatus := by
  by_cases h : group = 0 ∨ group = 1
  · rw [g.initParam_eq group h]
  · rw [not_or] at h
    rw [g.initParam_of_ne h.1 h.2]

theorem moduleStatus_echo (g : Gsm) (state : UInt8) :
    (g.echo state).moduleStatus = g.moduleStatus := by
  by_cases h : state = 0 ∨ state = 1
  · rw [g.echo_eq state h]
  · rw [not_or] at h
    rw [g.echo_of_ne h.1 h.2]

/-- `module_status` follows the return values of `CheckRegistration`. -/
theorem moduleStatus_step {g : Gsm} (hg : Bits g.moduleStatus) (c : Call) :
    (g.step c).moduleStatus = run note g.moduleStatus (g.replies c) := by
  cases c with
  | begin baudRate => rw [step, replies, run_nil, moduleStatus_begin]
  | initParam group => rw [step, replies, run_nil, moduleStatus_initParam]
  | echo state => rw [step, replies, run_nil, moduleStatus_echo]
  | checkRegistration =>
    rw [step, replies, run_cons, run_nil]
    by_cases hfree : g.commLineStatus = .free
    · rcases g.checkRegistration_cases hfree with
        ⟨line, h, -⟩ | ⟨line, h, -⟩ | ⟨line, h, -, hinit⟩ | ⟨line, h, -⟩ <;> rw [h]
      · rfl
      · exact hg.and_compl
      · exact hg.or_two hinit
      · exact hg.or_three
    · rw [g.checkRegistration_of_busy hfree]
      rfl
  | setStatus status => rw [step, replies, run_nil]
  | setCommLineStatus newStatus => rw [step, replies, run_nil]
  | waitResp start gap => rw [step, replies, run_nil]
  | waitRespFor start gap expected => rw [step, replies, run_nil]
  | sendATCmd cmd start gap resp n => rw [step, replies, run_nil]
  | sendFlashCmd cmd start gap resp n => rw [step, replies, run_nil]

theorem Bits.run {m : UInt8} (h : Bits m) (rs : List RegistrationRetVal) :
    Bits (run Gsm.note m rs) :=
  run_invariant (fun _ r hm => hm.note r) h rs

theorem moduleStatus_run {g : Gsm} (hg : Bits g.moduleStatus) (calls : List Call) :
    (run step g calls).moduleStatus = run note g.moduleStatus (emitted step replies g calls) := by
  have hall : Along step (fun _ _ => True) g calls := along_of_forall fun _ _ _ => trivial
  refine hall.view_run moduleStatus replies (fun g c h _ => ⟨moduleStatus_step h c, ?_⟩) hg
  rw [moduleStatus_step h c]
  exact h.run _

/-- The object before any call, on a line with the given answers. -/
def powerOn (answers : ℕ → List UInt8) : Gsm := ⟨⟨[], answers, []⟩, .idle, .free, 0⟩

theorem note_initialized (m : UInt8) (r : RegistrationRetVal) (hr : r ≠ .registered) :
    note m r &&& 1 ≠ 0 ↔ m &&& 1 ≠ 0 := by
  cases r with
  | registered => exact absurd rfl hr
  | notRegistered => rw [note, UInt8.and_assoc, UInt8.and_self]
  | noResponse => rfl
  | commLineBusy => rfl

theorem initialized_of_initialized {m : UInt8} (h : m &&& 1 ≠ 0) (rs : List RegistrationRetVal) :
    run note m rs &&& 1 ≠ 0 := by
  refine run_invariant (I := fun m => m &&& 1 ≠ 0) (fun m r hm => ?_) h rs
  by_cases hr : r = .registered
  · subst hr
    rw [note]
    decide
  · exact (note_initialized m r hr).2 hm

/-- The bit `STATUS_INITIALIZED` is set once a reply has said that the module is registered. -/
theorem initialized_run (rs : List RegistrationRetVal) :
    run note 0 rs &&& 1 ≠ 0 ↔ .registered ∈ rs := by
  induction rs using List.reverseRecOn with
  | nil => decide
  | append_singleton rs r ih =>
    rw [run_append, run_cons, run_nil, List.mem_append, List.mem_singleton]
    by_cases hr : r = .registered
    · subst hr
      exact iff_of_true (by rw [note]; decide) (Or.inr rfl)
    · rw [note_initialized _ r hr, ih, or_iff_left (Ne.symm hr)]

/-- The bit `STATUS_REGISTERED` is set when the last reply that tells says that the module is
registered. -/
theorem registered_run (rs : List RegistrationRetVal) :
    run note 0 rs &&& 2 ≠ 0 ↔
      ∃ pre post, rs = pre ++ .registered :: post ∧ .notRegistered ∉ post := by
  induction rs using List.reverseRecOn with
  | nil => simp
  | append_singleton rs r ih =>
    rw [run_append, run_cons, run_nil]
    -- A reply that does not tell is as good as none.
    have hskip : ∀ r', r' ≠ .registered → r' ≠ .notRegistered →
        ((∃ pre post, rs = pre ++ .registered :: post ∧ .notRegistered ∉ post) ↔
          ∃ pre post, rs ++ [r'] = pre ++ .registered :: post ∧ .notRegistered ∉ post) := by
      intro r' hreg hnot
      constructor
      · rintro ⟨pre, post, rfl, hpost⟩
        exact ⟨pre, post ++ [r'], by simp, by simp [hpost, Ne.symm hnot]⟩
      · rintro ⟨pre, post, hsplit, hpost⟩
        rcases snoc_eq_append_cons_iff.1 hsplit with ⟨-, hr, -⟩ | ⟨post', rfl, hrs⟩
        · exact absurd hr.symm hreg
        · exact ⟨pre, post', hrs, fun h => hpost (List.mem_append_left _ h)⟩
    cases r with
    | registered => exact iff_of_true (by rw [note]; decide) ⟨rs, [], rfl, by simp⟩
    | notRegistered =>
      have hzero : ¬ (note (run note 0 rs) .notRegistered &&& 2 ≠ 0) := by
        rw [note, UInt8.and_assoc, not_not]
        exact UInt8.and_zero
      refine iff_of_false hzero ?_
      rintro ⟨pre, post, hsplit, hpost⟩
      rcases snoc_eq_append_cons_iff.1 hsplit with ⟨-, hr, -⟩ | ⟨post', rfl, -⟩
      · cases hr
      · exact hpost (List.mem_append_right _ (List.mem_singleton.2 rfl))
    | noResponse => exact ih.trans (hskip _ (by decide) (by decide))
    | commLineBusy => exact ih.trans (hskip _ (by decide) (by decide))

/-- Whether a call is a `CheckRegistration` that does more than ask. -/
def configures (g : Gsm) : Call → Bool
  | .checkRegistration =>
    decide (g.checkRegistration.2.line.log ∉ [g.line.log, g.line.log ++ asking])
  | .setStatus _ | .setCommLineStatus _ | .begin _ | .initParam _ | .echo _ => false
  | .waitResp _ _ | .waitRespFor _ _ _ => false
  | .sendATCmd _ _ _ _ _ | .sendFlashCmd _ _ _ _ _ => false

theorem initialized_of_configures {g : Gsm} (hg : Bits g.moduleStatus) {c : Call}
    (h : g.configures c) :
    g.moduleStatus &&& 1 = 0 ∧ (g.step c).moduleStatus &&& 1 ≠ 0 := by
  cases c with
  | checkRegistration =>
    simp only [configures, decide_eq_true_eq, List.mem_cons, List.not_mem_nil, or_false,
      not_or] at h
    rw [step]
    by_cases hfree : g.commLineStatus = .free
    · rcases g.checkRegistration_cases hfree with
        ⟨line, hcheck, hlog⟩ | ⟨line, hcheck, hlog⟩ | ⟨line, hcheck, hlog, -⟩ |
          ⟨line, hcheck, hinit⟩
      · exact absurd (by rw [hcheck]; exact hlog) h.2
      · exact absurd (by rw [hcheck]; exact hlog) h.2
      · exact absurd (by rw [hcheck]; exact hlog) h.2
      · rw [hcheck]
        exact ⟨hg.of_first hinit, by simp only [hg.or_three]; decide⟩
    · exact absurd (by rw [g.checkRegistration_of_busy hfree]) h.1
  | _ => cases h

/-- In every run of calls from power-on: `IsInitialized` tells whether a `CheckRegistration` has
ever returned `REG_REGISTERED`, `IsRegistered` whether the last one that was answered has, and at
most one `CheckRegistration` has done more than ask. -/
theorem registration_run (g : Gsm) (hg : g.moduleStatus = 0) (calls : List Call) :
    ((run step g calls).isInitialized = true ↔ .registered ∈ emitted step replies g calls) ∧
      ((run step g calls).isRegistered = true ↔
        ∃ pre post, emitted step replies g calls = pre ++ .registered :: post ∧
          .notRegistered ∉ post) ∧
      count step configures g calls ≤ 1 := by
  have hbits : Bits g.moduleStatus := Or.inl hg
  have hrun := moduleStatus_run hbits calls
  rw [hg] at hrun
  refine ⟨?_, ?_, ?_⟩
  · rw [isInitialized, decide_eq_true_eq, hrun, initialized_run]
  · rw [isRegistered, decide_eq_true_eq, hrun, registered_run]
  · -- A module that is initialized stays so.
    have hall : Along step (fun _ _ => True) g calls := along_of_forall fun _ _ _ => trivial
    refine (hall.count_le (I := fun g => Bits g.moduleStatus)
      (fun g => if g.moduleStatus &&& 1 = 0 then 1 else 0) (fun g c h _ => ⟨?_, ?_⟩) hbits).trans ?_
    · cases hconf : g.configures c with
      | false =>
        rw [Bool.toNat_false, Nat.add_zero]
        by_cases hinit : g.moduleStatus &&& 1 = 0
        · rw [if_pos hinit]
          split_ifs <;> omega
        · rw [if_neg hinit, moduleStatus_step h c, if_neg (initialized_of_initialized hinit _)]
      | true =>
        obtain ⟨hbefore, hafter⟩ := initialized_of_configures h hconf
        rw [if_pos hbefore, if_neg hafter]
        rfl
    · rw [moduleStatus_step h c]
      exact h.run _
    · split_ifs <;> omega

theorem registration_run_once :
    count step configures (powerOn fun _ => ascii "+CREG: 0,1")
      [.checkRegistration, .echo 0, .checkRegistration] ≤ 1 :=
  (registration_run (powerOn fun _ => ascii "+CREG: 0,1") rfl
    [.checkRegistration, .echo 0, .checkRegistration]).2.2

/-! ## The line -/

/-- Whether a call sets the status of the line, whatever it was. -/
def Call.setsLine : Call → Prop
  | .setCommLineStatus _ | .begin _ => True
  | .initParam group => group = 0 ∨ group = 1
  | .echo state => state = 0 ∨ state = 1
  | .setStatus _ | .checkRegistration => False
  | .waitResp _ _ | .waitRespFor _ _ _ => False
  | .sendATCmd _ _ _ _ _ | .sendFlashCmd _ _ _ _ _ => False

/-- Whether a call leaves the line in use: a `begin` whose first check of the modem fails and whose
second one does not get a different response, or a `SetCommLineStatus`. -/
def Call.takesLine (g : Gsm) : Call → Prop
  | .begin baudRate =>
    (g.firstCheck baudRate).1 ≠ .ok ∧ (g.secondCheck baudRate).1 ≠ .errDifResp
  | .setCommLineStatus newStatus => newStatus ≠ .free
  | .setStatus _ | .initParam _ | .echo _ | .checkRegistration => False
  | .waitResp _ _ | .waitRespFor _ _ _ => False
  | .sendATCmd _ _ _ _ _ | .sendFlashCmd _ _ _ _ _ => False

theorem Call.setsLine_of_takesLine {g : Gsm} {c : Call} (h : c.takesLine g) : c.setsLine := by
  cases c with
  | begin baudRate => trivial
  | setCommLineStatus newStatus => trivial
  | _ => exact h.elim

theorem checkRegistration_snd_commLineStatus (g : Gsm) :
    g.checkRegistration.2.commLineStatus = g.commLineStatus := by
  by_cases hfree : g.commLineStatus = .free
  · rcases g.checkRegistration_cases hfree with
      ⟨line, h, -⟩ | ⟨line, h, -⟩ | ⟨line, h, -⟩ | ⟨line, h, -⟩ <;> rw [h]
  · rw [g.checkRegistration_of_busy hfree]

theorem checkRegistration_fst_eq_busy_iff (g : Gsm) :
    g.checkRegistration.1 = .commLineBusy ↔ g.commLineStatus ≠ .free := by
  by_cases hfree : g.commLineStatus = .free
  · rcases g.checkRegistration_cases hfree with
      ⟨line, h, -⟩ | ⟨line, h, -⟩ | ⟨line, h, -⟩ | ⟨line, h, -⟩ <;> rw [h] <;> simp [hfree]
  · rw [g.checkRegistration_of_busy hfree]
    exact iff_of_true rfl hfree

theorem commLineStatus_step_of_not_sets {g : Gsm} {c : Call} (h : ¬ c.setsLine) :
    (g.step c).commLineStatus = g.commLineStatus := by
  cases c with
  | begin baudRate => exact absurd trivial h
  | setCommLineStatus newStatus => exact absurd trivial h
  | setStatus status => rw [step]
  | initParam group =>
    rw [Call.setsLine, not_or] at h
    rw [step, g.initParam_of_ne h.1 h.2]
  | echo state =>
    rw [Call.setsLine, not_or] at h
    rw [step, g.echo_of_ne h.1 h.2]
  | checkRegistration => rw [step, checkRegistration_snd_commLineStatus]
  | waitResp start gap => rw [step]
  | waitRespFor start gap expected => rw [step]
  | sendATCmd cmd start gap resp n => rw [step]
  | sendFlashCmd cmd start gap resp n => rw [step]

theorem commLineStatus_begin_ne_free_iff (g : Gsm) (baudRate : ℤ) :
    (g.begin baudRate).2.commLineStatus ≠ .free ↔
      (g.firstCheck baudRate).1 ≠ .ok ∧ (g.secondCheck baudRate).1 ≠ .errDifResp := by
  obtain ⟨line, h⟩ := g.begin_spec baudRate
  rw [h]
  by_cases hfirst : (g.firstCheck baudRate).1 = .ok
  · simp [hfirst]
  · by_cases hsecond : (g.secondCheck baudRate).1 = .errDifResp
    · split_ifs <;> simp_all
    · simp [hfirst, hsecond]

/-- A call that sets the status of the line leaves it in use when it takes it. -/
theorem commLineStatus_step_ne_free_iff (g : Gsm) {c : Call} (h : c.setsLine) :
    (g.step c).commLineStatus ≠ .free ↔ c.takesLine g := by
  cases c with
  | begin baudRate => rw [step, Call.takesLine, commLineStatus_begin_ne_free_iff]
  | setCommLineStatus newStatus => rw [step, Call.takesLine]
  | initParam group =>
    rw [step, initParam_eq _ group h, Call.takesLine]
    exact iff_of_false (fun hne => hne rfl) id
  | echo state =>
    rw [step, echo_eq _ state h, Call.takesLine]
    exact iff_of_false (fun hne => hne rfl) id
  | _ => exact h.elim

/-- After any run of calls from power-on, `CheckRegistration` finds the line busy exactly when the
last call that has set the status of the line leaves it in use: a `SetCommLineStatus` that says so,
or a `begin` that has found no modem, or has heard it a moment too late. -/
theorem checkRegistration_busy_iff (g : Gsm) (hg : g.commLineStatus = .free) (calls : List Call) :
    (run step g calls).checkRegistration.1 = .commLineBusy ↔
      ∃ pre c post, calls = pre ++ c :: post ∧ c.takesLine (run step g pre) ∧
        ∀ c ∈ post, ¬ c.setsLine := by
  rw [checkRegistration_fst_eq_busy_iff]
  refine Iff.trans (run_iff_last (fun g : Gsm => g.commLineStatus ≠ .free) Call.setsLine
    (fun g c h => by rw [commLineStatus_step_of_not_sets h]) (by simp [hg]) calls) ?_
  constructor
  · rintro ⟨pre, c, post, rfl, hsets, hbusy, hpost⟩
    exact ⟨pre, c, post, rfl, (commLineStatus_step_ne_free_iff _ hsets).1 hbusy, hpost⟩
  · rintro ⟨pre, c, post, rfl, htakes, hpost⟩
    have hsets := Call.setsLine_of_takesLine htakes
    exact ⟨pre, c, post, rfl, hsets, (commLineStatus_step_ne_free_iff _ hsets).2 htakes, hpost⟩

/-- No modem answers. -/
theorem checkRegistration_busy_silent :
    (run step (powerOn fun _ => []) [.begin 9600, .checkRegistration]).checkRegistration.1 =
      .commLineBusy :=
  (checkRegistration_busy_iff (powerOn fun _ => []) rfl [.begin 9600, .checkRegistration]).2
    ⟨[], .begin 9600, [.checkRegistration], rfl, by rw [Call.takesLine]; decide,
      by simp [Call.setsLine]⟩

end Gsm

end Bbd.Modem
