import Bbd.Modem.Registration
import Bbd.Modem.RestContent
import Mathlib.Algebra.Ring.Int.Defs

/-!
# Connections and HTTP over the modem

`InetGSM` attaches the module to the network, connects it, and makes HTTP requests.  What its
methods do on the line are lists of actions (`Line.does`), and how they go on depends on the answers
that the waits among them hear (`waitRespFor_eq`).  `httpPOST` connects, with three tries, and sends
its data once (`httpPOST_law`).
-/

namespace Bbd.Modem

/-- `itoa(value, string, 10)` into a buffer of `size` bytes; undefined where the digits and the zero
behind them do not fit. -/
def itoa (value : ℤ) (size : ℕ) : Except Stuck String :=
  if (toString value).length < size then .ok (toString value) else .error .undefined

/-- The conversion of an `unsigned int` to `int`, of 16 bits each. -/
def toSigned (n : ℕ) : ℤ := (n + 32768) % 65536 - 32768

namespace Line

/-- `InetGSM::connectTCP`. -/
def connectTCP (l : Line) (server : String) (port : ℤ) : ℤ × Line :=
  let l := ((l.print "AT+CIPSTART=\"TCP\",\"").print server).print "\","
  let (status, l) := (l.println (toString port)).waitRespFor 1000 200 "OK"
  if status ≠ .finishedStrRecv then (0, l)
  else
    let (status, l) :=
      if !l.isStringReceived "CONNECT OK" then l.waitRespFor 15000 200 "OK" else (status, l)
    if status ≠ .finishedStrRecv then (0, l)
    else
      let (status, l) := ((l.delay 3000).println "AT+CIPSEND").waitRespFor 5000 200 ">"
      if status ≠ .finishedStrRecv then (0, l) else (1, l.delay 4000)

/-- `InetGSM::connectTCPServer`. -/
def connectTCPServer (l : Line) (port : ℤ) : ℤ × Line :=
  (1, (l.print "AT+CIPSERVER=1,").println (toString port))

/-- `InetGSM::httpGET`, over what `read` gets from the modem: its value, the line, the response and
what is left to read.  `getRestContent` returns 0, so 4 is not returned. -/
def httpGET (l : Line) (server : String) (port : ℤ) (path : String) (rsp stream : List UInt8) :
    Except Stuck (ℤ × Line × List UInt8 × List UInt8) :=
  let (status, l) := (l.println "AT+HTTPINIT").waitRespFor 5000 50 "OK"
  if status ≠ .finishedStrRecv then .ok (1, l, rsp, stream)
  else do
    let l := (((l.print "GET ").print "AT+HTTPPARA=\"URL\",\"http://").print server).print ":"
    let sPort ← itoa port 5
    let l := (((l.print sPort).print path).print "\"").print "\x1a"
    let (status, l) := l.waitRespFor 20000 50 "OK"
    if status ≠ .finishedStrRecv then .ok (2, l, rsp, stream)
    else
      let (status, l) := (l.println "AT+HTTPACTION=0").waitRespFor 5000 50 "OK"
      if status ≠ .finishedStrRecv then .ok (3, l, rsp, stream)
      else do
        let (rsp, stream) ← getRestContent rsp stream
        let (status, l) := (l.println "AT+HTTPTERM").waitRespFor 20000 50 "OK"
        .ok (if status ≠ .finishedStrRecv then 5 else 0, l, rsp, stream)

/-- The loop of `httpPOST` that connects, `todo` iterations before its end. -/
def connectLoop (l : Line) (server : String) (port : ℤ) : (todo : ℕ) → Bool × Line
  | 0 => (false, l)
  | todo + 1 =>
    let (res, l) := l.connectTCP server port
    if res = 0 then l.connectLoop server port todo else (true, l)

end Line

/-- `SIMCOM900::read` into a buffer: its value, the buffer and what is left to read. -/
def readResult (result : List UInt8) (resultlength : ℤ) (stream : List UInt8) :
    Except Stuck (ℤ × List UInt8 × List UInt8) := do
  let (result, stream) ← readContent result 0 resultlength.toNat stream
  .ok (resultlength.toNat, result, stream)

/-- `InetGSM::httpPOST`, over what `read` gets from the modem. -/
def Line.httpPOST (l : Line) (server : String) (port : ℤ) (path parameters : String)
    (result : List UInt8) (resultlength : ℤ) (stream : List UInt8) :
    Except Stuck (ℤ × Line × List UInt8 × List UInt8) :=
  let (connected, l) := l.connectLoop server port 3
  if !connected then .ok (0, l, result, stream)
  else do
    let l := (((l.print "POST ").print path).print " HTTP/1.1\nHost: ").print server
    let l := (l.print "\n").print "User-Agent: Arduino\n"
    let l := l.print "Content-Type: application/x-www-form-urlencoded\n"
    let itoaBuffer ← itoa (toSigned parameters.length) 8
    let l := ((l.print "Content-Length: ").print itoaBuffer).print "\n\n"
    let (status, l) :=
      (((l.print parameters).print "\n\n").print "\x1a").waitRespFor 10000 10 "SEND OK"
    if status ≠ .finishedStrRecv then .ok (0, l, result, stream)
    else do
      let (res, result, stream) ← readResult result resultlength stream
      .ok (res, l.delay 50, result, stream)

namespace Gsm

/-- `InetGSM::configureGPRS`. -/
def configureGPRS (g : Gsm) (domain dom1 dom2 : String) : ℤ × Gsm :=
  let l := ((g.line.delay 5000).waitResp 50 50).2
  let (status, l) := (l.println "AT+CIFSR").waitRespFor 5000 50 "ERROR"
  if status ≠ .finishedStrRecv then
    let l := ((l.println "AT+CIPCLOSE").waitRespFor 5000 50 "ERROR").2
    let l := (((l.delay 2000).println "AT+CIPSERVER=0").waitRespFor 5000 50 "ERROR").2
    (1, { g with line := l })
  else
    let (status, l) := (l.println "AT+CIPSHUT").waitRespFor 500 50 "SHUT OK"
    if status ≠ .finishedStrRecv then (0, { g with line := l })
    else
      let l := ((l.delay 1000).print "AT+CSTT=\"").print domain
      let l := (((l.print "\",\"").print dom1).print "\",\"").print dom2
      let (status, l) := (l.print "\"\r").waitRespFor 500 50 "OK"
      if status ≠ .finishedStrRecv then (0, { g with line := l })
      else
        let (status, l) := ((l.delay 5000).println "AT+CIICR").waitRespFor 10000 50 "OK"
        if status ≠ .finishedStrRecv then (0, { g with line := l })
        else
          let (status, l) := ((l.delay 1000).println "AT+CIFSR").waitRespFor 5000 50 "ERROR"
          if status ≠ .finishedStrRecv then (1, { g with line := l, status := .attached })
          else (0, { g with line := l })

/-- The body of `dettachGPRS` and `attachGPRS`. -/
def setAttachment (g : Gsm) (command : String) : ℤ × Gsm :=
  if g.status = .idle then (-1, g)
  else
    let (status, l) := (g.line.println command).waitRespFor 5000 50 "OK"
    if status ≠ .finishedStrRecv then (-2, { g with line := l, status := .error })
    else (1, { g with line := l.delay 500, status := .ready })

/-- `InetGSM::dettachGPRS`. -/
def dettachGPRS (g : Gsm) : ℤ × Gsm := g.setAttachment "AT+CGATT=0"

/-- `InetGSM::attachGPRS`. -/
def attachGPRS (g : Gsm) : ℤ × Gsm := g.setAttachment "AT+CGATT=1"

/-- `InetGSM::disconnectTCP`. -/
def disconnectTCP (g : Gsm) : ℤ × Gsm :=
  (1, { g with
    line := g.line.println "AT+CIPCLOSE"
    status := if g.status = .tcpConnectedClient then .attached else .tcpServerWait })

/-- `InetGSM::connectedClient`. -/
def connectedClient (g : Gsm) : Bool × Gsm :=
  let (status, l) := (g.line.println "AT+CIPSTATUS").waitRespFor 5000 50 "CONNECT OK"
  if status ≠ .finishedStrRecv then (true, { g with line := l, status := .tcpConnectedServer })
  else (false, { g with line := l })

end Gsm

/-! ## What is done on the line -/

/-- A command, as `println` writes it. -/
def commandLine (command : String) : List Char := command.toList ++ ['\r', '\n']

/-- The text that an action writes. -/
def Action.text : Action → List Char
  | .print text => text.toList
  | .println text => commandLine text
  | .waitResp _ _ | .delay _ | .begin _ | .digitalWrite _ => []

/-- The action waits for an answer. -/
def Action.waits : Action → Bool
  | .waitResp _ _ => true
  | .print _ | .println _ | .delay _ | .begin _ | .digitalWrite _ => false

/-- The line after one action. -/
def Line.perform (l : Line) : Action → Line
  | .waitResp start gap => (l.waitResp start gap).2
  | .print text => l.print text
  | .println text => l.println text
  | .delay ms => l.delay ms
  | .begin baudRate => l.begin baudRate
  | .digitalWrite high => l.digitalWrite high

/-- The line after the actions. -/
def Line.does (l : Line) (acts : List Action) : Line := acts.foldl Line.perform l

/-- To write something and wait for the answer. -/
def ask (writes : List Action) (start gap : UInt16) : List Action :=
  writes ++ [.waitResp start gap]

section Does

variable (l : Line)

theorem does_append (xs ys : List Action) : l.does (xs ++ ys) = (l.does xs).does ys :=
  List.foldl_append

theorem log_does (acts : List Action) : (l.does acts).log = l.log ++ acts := by
  induction acts generalizing l with
  | nil => simp [Line.does]
  | cons a acts ih =>
    have hlog : (l.perform a).log = l.log ++ [a] := by cases a <;> rfl
    rw [show l.does (a :: acts) = (l.perform a).does acts from rfl, ih, hlog, List.append_assoc]
    rfl

theorem answers_does (acts : List Action) :
    (l.does acts).answers = fun n => l.answers (n + acts.countP Action.waits) := by
  induction acts generalizing l with
  | nil => rfl
  | cons a acts ih =>
    rw [show l.does (a :: acts) = (l.perform a).does acts from rfl, ih]
    cases a with
    | waitResp start gap =>
      rw [List.countP_cons_of_pos rfl]
      rfl
    | _ =>
      rw [List.countP_cons_of_neg (by simp [Action.waits])]
      rfl

@[simp] theorem answers_print (text : String) : (l.print text).answers = l.answers := rfl

@[simp] theorem answers_println (text : String) : (l.println text).answers = l.answers := rfl

@[simp] theorem answers_delay (ms : ℕ) : (l.delay ms).answers = l.answers := rfl

@[simp] theorem answers_waitResp (start gap : UInt16) (n : ℕ) :
    (l.waitResp start gap).2.answers n = l.answers (n + 1) := rfl

@[simp] theorem answers_wait (start gap : UInt16) (n : ℕ) :
    (l.does [.waitResp start gap]).answers n = l.answers (n + 1) := rfl

/-- What a wait for a text comes to when the answer does not contain it. -/
def RxStatus.ofAnswer (answer : List UInt8) : RxStatus :=
  if answer.isEmpty then .tmoutErr else .finishedStrNotRecv

theorem waitRespFor_eq (start gap : UInt16) (text : String) :
    l.waitRespFor start gap text =
      (if accepted text (l.answers 0) then .finishedStrRecv else .ofAnswer (l.answers 0),
        l.does [.waitResp start gap]) := by
  refine Prod.ext ?_ rfl
  simp only [Line.waitRespFor, Line.waitResp, Line.isStringReceived, accepted, RxStatus.ofAnswer]
  by_cases hnil : l.answers 0 = []
  · simp [hnil, received]
  · by_cases hreceived : received ((l.answers 0).take 200) (ascii text) <;> simp [hnil, hreceived]

@[simp] theorem ofAnswer_ne_recv (answer : List UInt8) :
    RxStatus.ofAnswer answer ≠ .finishedStrRecv := by
  rw [RxStatus.ofAnswer]
  cases answer <;> simp

theorem ofAnswer_ne_iff (answer : List UInt8) (b : Bool) :
    (if b then .finishedStrRecv else RxStatus.ofAnswer answer) ≠ .finishedStrRecv ↔ ¬ b := by
  cases b <;> simp

end Does

/-! ## Numbers in text -/

/-- A number has `k + 1` places, one of them the sign of a negative one. -/
theorem length_toString_le_iff (value : ℤ) {k : ℕ} (hk : 0 < k) :
    (toString value).length ≤ k + 1 ↔ -10 ^ k < value ∧ value < 10 ^ (k + 1) := by
  have hpos : (0 : ℤ) < 10 ^ k := Int.pow_pos (by decide)
  have hpos' : (0 : ℤ) < 10 ^ (k + 1) := Int.pow_pos (by decide)
  rw [Int.toString_eq_repr, Int.repr_eq_if]
  split_ifs with hsign
  · rw [Nat.length_repr_le_iff (Nat.succ_pos k), Int.toNat_lt hsign]
    push_cast
    exact (and_iff_right (by omega)).symm
  · rw [String.length_append, show "-".length = 1 from rfl, Nat.add_comm, Nat.add_le_add_iff_right,
      Nat.length_repr_le_iff hk, Int.toNat_lt (by omega)]
    push_cast
    omega

theorem itoa_five (value : ℤ) :
    itoa value 5 =
      if -999 ≤ value ∧ value ≤ 9999 then .ok (toString value) else .error .undefined := by
  have hlen : (toString value).length < 5 ↔ -999 ≤ value ∧ value ≤ 9999 := by
    rw [Nat.lt_succ_iff, length_toString_le_iff value (k := 3) (by decide)]
    omega
  simp only [itoa, hlen]

theorem itoa_toSigned (n : ℕ) : itoa (toSigned n) 8 = .ok (toString (toSigned n)) := by
  refine if_pos (Nat.lt_succ_of_le ((length_toString_le_iff _ (k := 6) (by decide)).2 ?_))
  unfold toSigned
  omega

/-! ## Posting -/

/-- The modem takes the connection and asks for the data. -/
def connects (l : Line) : Prop :=
  accepted "OK" (l.answers 0) ∧
    if accepted "CONNECT OK" (l.answers 0) then accepted ">" (l.answers 1)
    else accepted "OK" (l.answers 1) ∧ accepted ">" (l.answers 2)

instance (l : Line) : Decidable (connects l) := inferInstanceAs (Decidable (_ ∧ _))

/-- The line after `n` calls of `connectTCP`. -/
def Line.tries (l : Line) (server : String) (port : ℤ) : ℕ → Line
  | 0 => l
  | n + 1 => ((l.tries server port n).connectTCP server port).2

/-- The data that `httpPOST` sends. -/
def postData (server path parameters : String) : List Action :=
  [.print "POST ", .print path, .print " HTTP/1.1\nHost: ", .print server, .print "\n",
    .print "User-Agent: Arduino\n", .print "Content-Type: application/x-www-form-urlencoded\n",
    .print "Content-Length: ", .print (toString (toSigned parameters.length)), .print "\n\n",
    .print parameters, .print "\n\n", .print "\x1a"]

section Post

variable (l : Line) (server : String) (port : ℤ)

theorem connectTCP_fst :
    (l.connectTCP server port).1 = if connects l then 1 else 0 := by
  have hconnect (l : Line) : (l.does [.waitResp 1000 200]).isStringReceived "CONNECT OK" =
    accepted "CONNECT OK" (l.answers 0) := rfl
  simp only [Line.connectTCP, waitRespFor_eq, ofAnswer_ne_iff, hconnect, connects]
  by_cases h₀ : accepted "OK" (l.answers 0)
  · by_cases hdone : accepted "CONNECT OK" (l.answers 0)
    · by_cases h₁ : accepted ">" (l.answers 1) <;> simp [h₀, hdone, h₁]
    · by_cases h₁ : accepted "OK" (l.answers 1)
      · by_cases h₂ : accepted ">" (l.answers 2) <;> simp [h₀, hdone, h₁, h₂]
      · simp [h₀, hdone, h₁]
  · simp [h₀]

theorem tries_succ (n : ℕ) :
    l.tries server port (n + 1) = (l.connectTCP server port).2.tries server port n := by
  induction n with
  | zero => rfl
  | succ n ih => rw [Line.tries, ih, Line.tries]

/-- The loop ends with the first connection, or with its last iteration. -/
theorem connectLoop_spec (todo : ℕ) :
    (∃ n < todo, (∀ i < n, ¬ connects (l.tries server port i)) ∧
      connects (l.tries server port n) ∧
      l.connectLoop server port todo = (true, l.tries server port (n + 1))) ∨
    (∀ i < todo, ¬ connects (l.tries server port i)) ∧
      l.connectLoop server port todo = (false, l.tries server port todo) := by
  induction todo generalizing l with
  | zero => exact Or.inr ⟨fun _ h => absurd h (Nat.not_lt_zero _), rfl⟩
  | succ todo ih =>
    rcases htcp : l.connectTCP server port with ⟨res, next⟩
    have hres : res = if connects l then 1 else 0 := by
      rw [← connectTCP_fst l server port, htcp]
    have hnext (n : ℕ) : l.tries server port (n + 1) = next.tries server port n := by
      rw [tries_succ, htcp]
    simp only [Line.connectLoop, htcp]
    by_cases hconnects : connects l
    · refine Or.inl ⟨0, Nat.succ_pos _, fun i h => absurd h (Nat.not_lt_zero _), hconnects, ?_⟩
      rw [hres, if_pos hconnects, hnext]
      rfl
    · rw [hres, if_neg hconnects, if_pos rfl]
      have hbefore {n : ℕ} (h : ∀ i < n, ¬ connects (next.tries server port i)) :
          ∀ i < n + 1, ¬ connects (l.tries server port i) := by
        rintro (_ | i) hi
        · exact hconnects
        · rw [hnext]
          exact h i (Nat.lt_of_succ_lt_succ hi)
      rcases ih next with ⟨n, hn, hfail, hconnect, hloop⟩ | ⟨hfail, hloop⟩
      · refine Or.inl ⟨n + 1, Nat.succ_lt_succ hn, hbefore hfail, ?_, ?_⟩
        · rwa [hnext]
        · rw [hloop, hnext]
      · exact Or.inr ⟨hbefore hfail, by rw [hloop, hnext]⟩

theorem readResult_eq (result : List UInt8) (resultlength : ℤ) (stream : List UInt8) :
    readResult result resultlength stream =
      if resultlength.toNat ≤ stream.length ∧ resultlength.toNat ≤ result.length then
        .ok (resultlength.toNat,
          stream.take resultlength.toNat ++ result.drop resultlength.toNat,
          stream.drop resultlength.toNat)
      else if stream.length ≤ result.length then .error .waits
      else .error .undefined := by
  rw [readResult, readContent_eq _ _ _ (Nat.zero_le _), Nat.zero_add, Nat.zero_add]
  split_ifs with hfit
  · simp [store, Nat.min_eq_left hfit.1, bind, Except.bind]
  · rfl
  · rfl

theorem does_postData (path parameters : String) :
    ((((((((((((((l.print "POST ").print path).print " HTTP/1.1\nHost: ").print server).print
      "\n").print "User-Agent: Arduino\n").print
      "Content-Type: application/x-www-form-urlencoded\n").print "Content-Length: ").print
      (toString (toSigned parameters.length))).print "\n\n").print parameters).print
      "\n\n").print "\x1a")) = l.does (postData server path parameters) := rfl

/-- `httpPOST` tries to connect until it is connected, three times at most.  It sends its data once
and only behind a connection; it returns the length it was told, when the modem says `SEND OK` and
as many bytes come and fit, and 0 when it is not connected or the modem does not say so. -/
theorem httpPOST_law (path parameters : String) (result : List UInt8) (resultlength : ℤ)
    (stream : List UInt8) :
    (∀ i < 3, ¬ connects (l.tries server port i)) ∧
      l.httpPOST server port path parameters result resultlength stream =
        .ok (0, l.tries server port 3, result, stream) ∨
    ∃ n < 3, (∀ i < n, ¬ connects (l.tries server port i)) ∧ connects (l.tries server port n) ∧
      l.httpPOST server port path parameters result resultlength stream =
        let sent := (l.tries server port (n + 1)).does
          (ask (postData server path parameters) 10000 10)
        let k := resultlength.toNat
        if ¬ accepted "SEND OK" ((l.tries server port (n + 1)).answers 0) then
          .ok (0, sent, result, stream)
        else if k ≤ stream.length ∧ k ≤ result.length then
          .ok (k, sent.delay 50, stream.take k ++ result.drop k, stream.drop k)
        else if stream.length ≤ result.length then .error .waits
        else .error .undefined := by
  rcases connectLoop_spec l server port 3 with ⟨n, hn, hfail, hconnects, hloop⟩ | ⟨hfail, hloop⟩
  · refine Or.inr ⟨n, hn, hfail, hconnects, ?_⟩
    generalize l.tries server port (n + 1) = next at hloop ⊢
    simp only [Line.httpPOST, hloop, itoa_toSigned, bind, Except.bind]
    rw [if_neg (by decide), does_postData, waitRespFor_eq]
    simp only [ofAnswer_ne_iff, readResult_eq, ← does_append, ask]
    have hanswer : (next.does (postData server path parameters)).answers 0 = next.answers 0 := rfl
    rw [hanswer]
    by_cases hfit : resultlength.toNat ≤ stream.length ∧ resultlength.toNat ≤ result.length
    · simp only [if_pos hfit]
    · by_cases hcome : stream.length ≤ result.length
      · simp only [if_neg hfit, if_pos hcome]
      · simp only [if_neg hfit, if_neg hcome]
  · refine Or.inl ⟨hfail, ?_⟩
    simp only [Line.httpPOST, hloop]
    rfl

end Post

end Bbd.Modem
