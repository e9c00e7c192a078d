import Bbd.Modem.Reception
import Mathlib.Data.List.Infix

/-!
# AT commands and their answers

Over `WaitResp` the library sends commands and looks for texts in the answers.  Here the line is
what each call of `WaitResp` gets to hear, in order: nothing, or the bytes of an answer
(`waitResp_answer` relates this to the reception).  `SendATCmdWaitResp` repeats a command until an
answer contains the text that it waits for; what it returns, what it sends and what it leaves in
`comm_buf` follow from the first such answer (`sendATCmdWaitResp_law`).
-/

namespace Bbd.Modem

/-- The bytes of an ASCII text. -/
def ascii (text : String) : List UInt8 := text.toList.map fun c => UInt8.ofNat c.toNat

/-- What the program does on the line, and at the pin that switches the modem on. -/
inductive Action where
  | print (text : String)
  | println (text : String)
  | waitResp (startCommTmout maxInterchTmout : UInt16)
  | delay (ms : ℕ)
  | begin (baudRate : ℤ)
  | digitalWrite (high : Bool)
  deriving DecidableEq, Repr

/-- The line to the modem: the bytes in `comm_buf`, what the calls of `WaitResp` from now on get to
hear, the empty list being silence, and what the program has done so far. -/
structure Line where
  commBuf : List UInt8
  answers : ℕ → List UInt8
  log : List Action

/-- `enum at_resp_enum`. -/
inductive AtResp where
  | errNoResp
  | errDifResp
  | ok
  deriving DecidableEq, Repr

/-- `IsStringReceived`, on the bytes in `comm_buf`: `strstr` in the string that they begin with. -/
def received (commBuf compareString : List UInt8) : Bool :=
  !commBuf.isEmpty && decide (compareString <:+: commBuf.takeWhile (· ≠ 0))

namespace Line

/-- The line after one more action. -/
def act (l : Line) (a : Action) : Line := { l with log := l.log ++ [a] }

/-- `_cell.print`. -/
def print (l : Line) (text : String) : Line := l.act (.print text)

/-- `_cell.println`. -/
def println (l : Line) (text : String) : Line := l.act (.println text)

/-- `delay`. -/
def delay (l : Line) (ms : ℕ) : Line := l.act (.delay ms)

/-- `_cell.begin`. -/
def begin (l : Line) (baudRate : ℤ) : Line := l.act (.begin baudRate)

/-- `digitalWrite(GSM_ON, ...)`. -/
def digitalWrite (l : Line) (high : Bool) : Line := l.act (.digitalWrite high)

/-- `WaitResp` with two arguments. -/
def waitResp (l : Line) (startCommTmout maxInterchTmout : UInt16) : RxStatus × Line :=
  (if (l.answers 0).isEmpty then .tmoutErr else .finished,
    { commBuf := (l.answers 0).take 200
      answers := fun n => l.answers (n + 1)
      log := l.log ++ [.waitResp startCommTmout maxInterchTmout] })

/-- `IsStringReceived`. -/
def isStringReceived (l : Line) (compareString : String) : Bool :=
  received l.commBuf (ascii compareString)

/-- `WaitResp` with three arguments. -/
def waitRespFor (l : Line) (startCommTmout maxInterchTmout : UInt16)
    (expectedRespString : String) : RxStatus × Line :=
  let (status, l) := l.waitResp startCommTmout maxInterchTmout
  (if status = .finished then
    if l.isStringReceived expectedRespString then .finishedStrRecv else .finishedStrNotRecv
  else .tmoutErr, l)

/-- The loop of `SendATCmdWaitResp`, `todo` iterations before its end. -/
def attempts (l : Line) (atCmdString : String) (startCommTmout maxInterchTmout : UInt16)
    (responseString : String) (retVal : AtResp) (i : ℕ) : (todo : ℕ) → AtResp × Line
  | 0 => (retVal, l)
  | todo + 1 =>
    let l := if 0 < i then l.delay 500 else l
    let l := l.println atCmdString
    let (status, l) := l.waitResp startCommTmout maxInterchTmout
    if status = .finished then
      if l.isStringReceived responseString then (.ok, l)
      else l.attempts atCmdString startCommTmout maxInterchTmout responseString .errDifResp (i + 1)
        todo
    else
      l.attempts atCmdString startCommTmout maxInterchTmout responseString .errNoResp (i + 1) todo

/-- `SendATCmdWaitResp` with a command in flash memory, `F("...")`. -/
def sendFlashCmdWaitResp (l : Line) (atCmdString : String) (startCommTmout maxInterchTmout : UInt16)
    (responseString : String) (noOfAttempts : UInt8) : AtResp × Line :=
  l.attempts atCmdString startCommTmout maxInterchTmout responseString .errNoResp 0
    noOfAttempts.toNat

/-- `SendATCmdWaitResp` with a `char` string: it waits once more before it returns. -/
def sendATCmdWaitResp (l : Line) (atCmdString : String) (startCommTmout maxInterchTmout : UInt16)
    (responseString : String) (noOfAttempts : UInt8) : AtResp × Line :=
  let (retVal, l) := l.attempts atCmdString startCommTmout maxInterchTmout responseString .errNoResp
    0 noOfAttempts.toNat
  (retVal, (l.waitResp 1000 5000).2)

end Line

/-! ## What a wait hears -/

/-- `IsStringReceived`: `strstr` in `comm_buf`. -/
def Rx.isStringReceived (rx : Rx) (compareString : List UInt8) : Bool :=
  if rx.commBufLen ≠ 0 then decide (compareString <:+: rx.text) else false

theorem Rx.Holds.isStringReceived {rx : Rx} {bytes : List UInt8} (h : rx.Holds bytes)
    (compareString : List UInt8) :
    rx.isStringReceived compareString = received (bytes.take 200) compareString := by
  have hzero : rx.commBufLen = 0 ↔ bytes.take 200 = [] := by
    rw [← UInt8.toNat_inj, h.count, UInt8.toNat_zero, List.length_eq_zero_iff]
  rw [Rx.isStringReceived, received, h.text_eq]
  by_cases hnil : bytes.take 200 = []
  · rw [if_neg (not_not.2 (hzero.2 hnil)), hnil]
    rfl
  · rw [if_pos (mt hzero.1 hnil)]
    simp [hnil]

/-- A call of `WaitResp` that returns does on the line what the bytes that it has heard say. -/
theorem waitResp_answer {rx rx' : Rx} (hbuf : rx.commBuf.length = 201) {start gap : UInt16}
    {time : ℕ} {polls later : List Poll} {status : RxStatus}
    (h : rx.waitResp start gap time polls = .inr (some (status, rx'), later)) :
    ∃ used, polls = used ++ later ∧ ∀ l : Line, l.answers 0 = heard used →
      (l.waitResp start gap).1 = status ∧
        ∀ s, rx'.isStringReceived s = received (l.waitResp start gap).2.commBuf s := by
  obtain ⟨used, hused, hholds, hstatus⟩ := heard_of_waitResp hbuf h
  refine ⟨used, hused, fun l hl => ⟨?_, fun s => ?_⟩⟩
  · rcases hstatus with ⟨rfl, hne⟩ | ⟨rfl, hnil⟩
    · simp [Line.waitResp, hl, hne]
    · simp [Line.waitResp, hl, hnil]
  · rw [hholds.isStringReceived, Line.waitResp, hl]

/-! ## Sending a command until it is answered -/

/-- The answer contains the text that is waited for. -/
def accepted (responseString : String) (answer : List UInt8) : Bool :=
  received (answer.take 200) (ascii responseString)

/-- What an answer that does not contain it is worth. -/
def AtResp.ofAnswer (answer : List UInt8) : AtResp :=
  if answer.isEmpty then .errNoResp else .errDifResp

/-- What attempt `i` does on the line. -/
def attempt (atCmdString : String) (start gap : UInt16) (i : ℕ) : List Action :=
  (if 0 < i then [.delay 500] else []) ++ [.println atCmdString, .waitResp start gap]

/-- The line after `n` attempts, the first of them with number `i`. -/
def Line.attempted (l : Line) (atCmdString : String) (start gap : UInt16) (i n : ℕ) : Line where
  commBuf := if n = 0 then l.commBuf else (l.answers (n - 1)).take 200
  answers := fun k => l.answers (k + n)
  log := l.log ++ (List.range' i n).flatMap (attempt atCmdString start gap)

section Attempts

variable (l : Line) (cmd : String) (start gap : UInt16) (resp : String) (retVal : AtResp) (i : ℕ)

theorem attempted_zero : l.attempted cmd start gap i 0 = l := by
  simp [Line.attempted]

theorem attempted_succ (n : ℕ) : (l.attempted cmd start gap i 1).attempted cmd start gap (i + 1) n =
    l.attempted cmd start gap i (n + 1) := by
  cases n with
  | zero => simp [Line.attempted]
  | succ n =>
    simp only [Line.attempted, List.range'_succ, List.flatMap_cons, List.append_assoc]
    simp [Nat.add_assoc]

theorem attempts_succ (todo : ℕ) : l.attempts cmd start gap resp retVal i (todo + 1) =
    if accepted resp (l.answers 0) then (.ok, l.attempted cmd start gap i 1)
    else (l.attempted cmd start gap i 1).attempts cmd start gap resp (.ofAnswer (l.answers 0))
      (i + 1) todo := by
  have hline : ((if 0 < i then l.delay 500 else l).println cmd).waitResp start gap =
      (if (l.answers 0).isEmpty then .tmoutErr else .finished,
        l.attempted cmd start gap i 1) := by
    split_ifs <;>
      simp_all [Line.waitResp, Line.println, Line.delay, Line.act, Line.attempted, attempt]
  rw [Line.attempts, hline]
  cases hempty : (l.answers 0).isEmpty
  · simp [Line.isStringReceived, Line.attempted, accepted, AtResp.ofAnswer, hempty]
  · have hnot : accepted resp (l.answers 0) = false := by
      rw [List.isEmpty_iff.1 hempty]
      rfl
    simp [hnot, AtResp.ofAnswer, hempty]

/-- The attempts end with the first answer that contains the text, or with the last one. -/
theorem attempts_spec (todo : ℕ) :
    (∃ k < todo, accepted resp (l.answers k) ∧ (∀ j < k, accepted resp (l.answers j) = false) ∧
      l.attempts cmd start gap resp retVal i todo = (.ok, l.attempted cmd start gap i (k + 1))) ∨
    (∀ j < todo, accepted resp (l.answers j) = false) ∧
      l.attempts cmd start gap resp retVal i todo =
        (if todo = 0 then retVal else .ofAnswer (l.answers (todo - 1)),
          l.attempted cmd start gap i todo) := by
  induction todo generalizing l retVal i with
  | zero => exact Or.inr ⟨fun _ h => by omega, by simp [Line.attempts, attempted_zero]⟩
  | succ todo ih =>
    rw [attempts_succ]
    cases hfirst : accepted resp (l.answers 0)
    · -- The first answer does not contain it: the attempts that are left.
      have hanswers : ∀ k, (l.attempted cmd start gap i 1).answers k = l.answers (k + 1) :=
        fun _ => rfl
      have hbefore : ∀ {n}, (∀ j < n, accepted resp (l.answers (j + 1)) = false) →
          ∀ j < n + 1, accepted resp (l.answers j) = false := by
        rintro n h (_ | j) hj
        · exact hfirst
        · exact h j (by omega)
      rcases ih (l.attempted cmd start gap i 1) (.ofAnswer (l.answers 0)) (i + 1) with
        ⟨k, hk, hacc, hnot, hrun⟩ | ⟨hnot, hrun⟩
      · refine Or.inl ⟨k + 1, by omega, hacc, hbefore hnot, ?_⟩
        rw [if_neg (by simp), hrun, attempted_succ]
      · refine Or.inr ⟨hbefore hnot, ?_⟩
        rw [if_neg (by simp), hrun, attempted_succ, hanswers]
        cases todo <;> simp
    · exact Or.inl ⟨0, by omega, hfirst, fun _ h => by omega, by simp⟩

end Attempts

/-- `SendATCmdWaitResp` sends its command until an answer contains the text, `noOfAttempts` times at
most.  It returns `AT_RESP_OK` exactly when one does, and otherwise tells by the last answer whether
there was none or a different one.  The two overloads return and send the same; but only after the
one for flash strings is the answer in `comm_buf`, since the other one waits again and leaves there
what comes then. -/
theorem sendATCmdWaitResp_law (l : Line) (cmd : String) (start gap : UInt16) (resp : String)
    (noOfAttempts : UInt8) :
    ∃ k ≤ noOfAttempts.toNat, ∃ r : AtResp,
      (∀ j, j + 1 < k → accepted resp (l.answers j) = false) ∧
      (r = .ok ↔ 0 < k ∧ accepted resp (l.answers (k - 1)) = true) ∧
      (r ≠ .ok → k = noOfAttempts.toNat ∧ (r = .errNoResp ↔ k = 0 ∨ l.answers (k - 1) = [])) ∧
      l.sendFlashCmdWaitResp cmd start gap resp noOfAttempts =
        (r, l.attempted cmd start gap 0 k) ∧
      l.sendATCmdWaitResp cmd start gap resp noOfAttempts =
        (r, ((l.attempted cmd start gap 0 k).waitResp 1000 5000).2) ∧
      (r = .ok →
        (l.sendFlashCmdWaitResp cmd start gap resp noOfAttempts).2.isStringReceived resp = true) ∧
      (l.sendATCmdWaitResp cmd start gap resp noOfAttempts).2.commBuf = (l.answers k).take 200 := by
  have hflash : ∀ {r k}, l.attempts cmd start gap resp .errNoResp 0 noOfAttempts.toNat =
      (r, l.attempted cmd start gap 0 k) →
      l.sendATCmdWaitResp cmd start gap resp noOfAttempts =
        (r, ((l.attempted cmd start gap 0 k).waitResp 1000 5000).2) := by
    intro r k h
    rw [Line.sendATCmdWaitResp, h]
  have hnext : ∀ k, ((l.attempted cmd start gap 0 k).waitResp 1000 5000).2.commBuf =
      (l.answers k).take 200 := by
    intro k
    simp [Line.waitResp, Line.attempted]
  rcases attempts_spec l cmd start gap resp .errNoResp 0 noOfAttempts.toNat with
    ⟨k, hk, hacc, hnot, hrun⟩ | ⟨hnot, hrun⟩
  · refine ⟨k + 1, hk, .ok, fun j hj => hnot j (by omega), by simpa using hacc, by simp, hrun,
      hflash hrun, fun _ => ?_, by rw [hflash hrun, hnext]⟩
    rw [Line.sendFlashCmdWaitResp, hrun]
    simpa [Line.isStringReceived, Line.attempted, accepted] using hacc
  · refine ⟨noOfAttempts.toNat, Nat.le_refl _, _, fun j hj => hnot j (by omega), ?_, ?_, hrun,
      hflash hrun, ?_, by rw [hflash hrun, hnext]⟩
    all_goals by_cases hzero : noOfAttempts.toNat = 0
    · simp [hzero]
    · have hlast := hnot (noOfAttempts.toNat - 1) (by omega)
      rw [if_neg hzero, AtResp.ofAnswer]
      split_ifs <;> simp [hlast]
    · simp [hzero]
    · rw [if_neg hzero, AtResp.ofAnswer]
      split_ifs with hempty <;> simp_all
    · simp [hzero]
    · rw [if_neg hzero, AtResp.ofAnswer]
      split_ifs <;> simp

end Bbd.Modem
