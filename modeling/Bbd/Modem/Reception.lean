import Bbd.Lib.Framing

/-!
# Receiving an answer of the modem

`GSM::WaitResp` calls `GSM::IsRxFinished` until the answer of the modem is over: the machine behind
it stores what arrives into `comm_buf`, discards what no longer fits, and tells by the clock whether
an answer has begun and whether it has ended.  The answer it tells is the frame that silence ends
(`waitResp_frames`), however much arrives and whenever `millis` wraps around, and nothing is stored
outside of the buffer (`waitResp_stores`).

The bytes that come between the two looks of one call at the receive buffer are left out: they are
as good as bytes that come before the call, if the first look is not made or finds something, and as
good as bytes that come after it otherwise.
-/

namespace Bbd.Modem

open Runs Loops Framing

/-- The states `RX_NOT_STARTED` and `RX_ALREADY_STARTED` of `rx_state`. -/
inductive RxState where
  | notStarted
  | alreadyStarted
  deriving DecidableEq, Repr

/-- `enum rx_state_enum`. -/
inductive RxStatus where
  | notFinished
  | finished
  | finishedStrRecv
  | finishedStrNotRecv
  | tmoutErr
  deriving DecidableEq, Repr

/-- What `GSM` holds for the reception.  `p_comm_buf` is the index that it points to. -/
structure Rx where
  commBuf : List UInt8
  pCommBuf : ℕ
  commBufLen : UInt8
  rxState : RxState
  startReceptionTmout : UInt16
  interchTmout : UInt16
  prevTime : UInt32

/-- What one call of `IsRxFinished` finds: the bytes in the receive buffer of the serial line, which
has room for less than 256, and the time at the three places where the call may read the clock. -/
structure Poll where
  received : List UInt8
  received_lt : received.length < 256
  first : ℕ
  second : ℕ
  third : ℕ

/-- `num_of_bytes = _cell.available()`. -/
def Poll.numOfBytes (p : Poll) : UInt8 := UInt8.ofNat p.received.length

theorem Poll.toNat_numOfBytes (p : Poll) : p.numOfBytes.toNat = p.received.length :=
  UInt8.toNat_ofNat_of_lt' p.received_lt

theorem Poll.numOfBytes_eq_zero_iff (p : Poll) : p.numOfBytes = 0 ↔ p.received = [] := by
  rw [← UInt8.toNat_inj, p.toNat_numOfBytes, UInt8.toNat_zero, List.length_eq_zero_iff]

/-- `millis()`, `time` milliseconds after the start. -/
def millis (time : ℕ) : UInt32 := UInt32.ofNat time

namespace Rx

/-- `comm_buf[idx] = b`; undefined outside of the array. -/
def store (rx : Rx) (idx : ℕ) (b : UInt8) : Option Rx :=
  if idx < rx.commBuf.length then some { rx with commBuf := rx.commBuf.set idx b } else none

/-- The string in `comm_buf`. -/
def text (rx : Rx) : List UInt8 := rx.commBuf.takeWhile (· ≠ 0)

/-- `RxInit`.  What the receive buffer still holds after `_cell.flush()` is found by the first
call of `IsRxFinished`. -/
def init (rx : Rx) (startCommTmout maxInterchTmout : UInt16) (time : ℕ) : Option Rx := do
  let rx ← { rx with
    rxState := .notStarted
    startReceptionTmout := startCommTmout
    interchTmout := maxInterchTmout
    prevTime := millis time }.store 0 0
  some { rx with pCommBuf := 0, commBufLen := 0 }

/-- The first `if` of `IsRxFinished`: has the reception started? -/
def checkStart (rx : Rx) (p : Poll) : Option (RxStatus × Rx) :=
  match rx.rxState with
  | .notStarted =>
    if p.received.length = 0 then
      if rx.startReceptionTmout.toUInt32 ≤ millis p.first - rx.prevTime then do
        let rx ← rx.store rx.commBufLen.toNat 0
        some (.tmoutErr, rx)
      else some (.notFinished, rx)
    else some (.notFinished, { rx with prevTime := millis p.first, rxState := .alreadyStarted })
  | .alreadyStarted => some (.notFinished, rx)

/-- `while (num_of_bytes)`: store the bytes, each with a terminator behind it, or, once the buffer
is full, discard them. -/
def readBytes (rx : Rx) : List UInt8 → Option Rx
  | [] => some rx
  | b :: bs =>
    if rx.commBufLen < 200 then do
      let rx ← rx.store rx.pCommBuf b
      let rx := { rx with pCommBuf := rx.pCommBuf + 1, commBufLen := rx.commBufLen + 1 }
      let rx ← rx.store rx.commBufLen.toNat 0
      rx.readBytes bs
    else rx.readBytes bs

/-- `if (num_of_bytes) prev_time = millis();` -/
def postpone (rx : Rx) (p : Poll) : Rx :=
  if p.numOfBytes ≠ 0 then { rx with prevTime := millis p.second } else rx

/-- The second `if` of `IsRxFinished`: take what has come, and is the reception over? -/
def checkEnd (retVal : RxStatus) (rx : Rx) (p : Poll) : Option (RxStatus × Rx) :=
  match rx.rxState with
  | .notStarted => some (retVal, rx)
  | .alreadyStarted => do
    let rx ← (rx.postpone p).readBytes (p.received.take p.numOfBytes.toNat)
    if rx.interchTmout.toUInt32 ≤ millis p.third - rx.prevTime then
      let rx ← rx.store rx.commBufLen.toNat 0
      some (.finished, rx)
    else some (retVal, rx)

/-- `IsRxFinished`. -/
def isRxFinished (rx : Rx) (p : Poll) : Option (RxStatus × Rx) := do
  let (retVal, rx) ← rx.checkStart p
  checkEnd retVal rx p

/-- One turn of `do { status = IsRxFinished(); } while (status == RX_NOT_FINISHED)`.  The loop is
left with the status, or with undefined behaviour. -/
def waitTurn (rx : Rx) (p : Poll) : Rx ⊕ Option (RxStatus × Rx) :=
  match rx.isRxFinished p with
  | none => .inr none
  | some (status, rx) => if status = .notFinished then .inl rx else .inr (some (status, rx))

/-- `WaitResp` with two arguments, called at `time`, when its calls of `IsRxFinished` find
`polls`. -/
def waitResp (rx : Rx) (startCommTmout maxInterchTmout : UInt16) (time : ℕ) (polls : List Poll) :
    Rx ⊕ (Option (RxStatus × Rx) × List Poll) :=
  match rx.init startCommTmout maxInterchTmout time with
  | none => .inr (none, polls)
  | some rx => runUntil waitTurn rx polls

end Rx

/-! ## The buffer -/

namespace Rx

/-- `comm_buf` holds the first 200 of the bytes and a terminator. -/
structure Holds (rx : Rx) (bytes : List UInt8) : Prop where
  cells : ∃ rest, rx.commBuf = bytes.take 200 ++ 0 :: rest
  length : rx.commBuf.length = 201
  pointer : rx.pCommBuf = (bytes.take 200).length
  count : rx.commBufLen.toNat = (bytes.take 200).length

/-- All but the buffer: the state of the machine, the two timeouts and the time it counts from. -/
def line (rx : Rx) : RxState × UInt16 × UInt16 × UInt32 :=
  (rx.rxState, rx.startReceptionTmout, rx.interchTmout, rx.prevTime)

section Holds

variable {rx : Rx} {bytes : List UInt8}

theorem store_of_lt {idx : ℕ} {b : UInt8} (h : idx < rx.commBuf.length) :
    rx.store idx b = some { rx with commBuf := rx.commBuf.set idx b } := if_pos h

/-- The terminator that `IsRxFinished` writes in the end is there already. -/
theorem Holds.terminated (h : rx.Holds bytes) : rx.store rx.commBufLen.toNat 0 = some rx := by
  obtain ⟨rest, hcells⟩ := h.cells
  have hlt : rx.commBufLen.toNat < rx.commBuf.length := by
    rw [h.count, hcells, List.length_append, List.length_cons]
    omega
  have hset : rx.commBuf.set rx.commBufLen.toNat 0 = rx.commBuf := by
    rw [h.count, hcells, List.set_append_right _ _ (Nat.le_refl _), Nat.sub_self,
      List.set_cons_zero]
  rw [store_of_lt hlt, hset]

theorem Holds.text_eq (h : rx.Holds bytes) : rx.text = (bytes.take 200).takeWhile (· ≠ 0) := by
  obtain ⟨rest, hcells⟩ := h.cells
  rw [text, hcells, List.takeWhile_append]
  split_ifs with hall
  · rw [(List.takeWhile_prefix _).eq_of_length hall]
    simp
  · rfl

theorem holds_init (h : rx.commBuf.length = 201) (startCommTmout maxInterchTmout : UInt16)
    (time : ℕ) : ∃ rx' : Rx, rx.init startCommTmout maxInterchTmout time = some rx' ∧
      rx'.Holds [] ∧ rx'.line = (.notStarted, startCommTmout, maxInterchTmout, millis time) := by
  obtain ⟨b, rest, hcells⟩ : ∃ b rest, rx.commBuf = b :: rest :=
    List.exists_cons_of_length_pos (by omega)
  refine ⟨_, by rw [init, store_of_lt (by simp [h])]; rfl, ?_, rfl⟩
  exact ⟨⟨rest, by simp [hcells]⟩, by simpa using h, rfl, rfl⟩

theorem Holds.readByte (h : rx.Holds bytes) (b : UInt8) : ∃ rx' : Rx,
    (∀ bs, rx.readBytes (b :: bs) = rx'.readBytes bs) ∧ rx'.Holds (bytes ++ [b]) ∧
      rx'.line = rx.line := by
  obtain ⟨rest, hcells⟩ := h.cells
  have hlen := h.length
  have hcount := h.count
  rw [List.length_take] at hcount
  by_cases hroom : rx.commBufLen < 200
  · -- The byte replaces the terminator, and the next one goes behind it.
    have hnat : rx.commBufLen.toNat < 200 := UInt8.lt_iff_toNat_lt.1 hroom
    have hpointer := h.pointer
    rw [List.take_of_length_le (by omega)] at hcells hpointer
    have hset : rx.commBuf.set rx.pCommBuf b = bytes ++ b :: rest := by
      rw [hcells, hpointer, List.set_append_right _ _ (Nat.le_refl _), Nat.sub_self,
        List.set_cons_zero]
    have hnext : (rx.commBufLen + 1).toNat = bytes.length + 1 := by
      rw [UInt8.toNat_add, UInt8.toNat_one]
      omega
    have hrest : rest.length = 200 - bytes.length := by
      rw [hcells, List.length_append, List.length_cons] at hlen
      omega
    obtain ⟨c, rest', rfl⟩ : ∃ c rest', rest = c :: rest' :=
      List.exists_cons_of_length_pos (by omega)
    refine ⟨{ rx with
      commBuf := bytes ++ b :: 0 :: rest'
      pCommBuf := rx.pCommBuf + 1
      commBufLen := rx.commBufLen + 1 }, fun bs => ?_, ?_, rfl⟩
    · rw [readBytes, if_pos hroom, store_of_lt (by omega)]
      simp only [Option.bind_eq_bind, Option.bind_some, hset]
      rw [store_of_lt (by simp only [hnext, List.length_append, List.length_cons]; omega)]
      simp [hnext, List.set_append_right]
    · have htake : (bytes ++ [b]).take 200 = bytes ++ [b] :=
        List.take_of_length_le (by rw [List.length_append, List.length_singleton]; omega)
      refine ⟨⟨rest', ?_⟩, ?_, ?_, ?_⟩
      · rw [htake, List.append_assoc, List.singleton_append]
      · rw [List.length_append, List.length_cons, List.length_cons]
        rw [List.length_cons] at hrest
        omega
      · rw [htake, List.length_append, List.length_singleton, ← hpointer]
      · rw [htake, List.length_append, List.length_singleton, hnext]
  · -- The buffer is full.
    have hnat : ¬ rx.commBufLen.toNat < 200 := fun hlt => hroom (UInt8.lt_iff_toNat_lt.2 hlt)
    refine ⟨rx, fun bs => by rw [readBytes, if_neg hroom], ?_, rfl⟩
    have htake : (bytes ++ [b]).take 200 = bytes.take 200 := by
      rw [List.take_append_of_le_length (by omega)]
    refine ⟨⟨rest, ?_⟩, hlen, ?_, ?_⟩ <;> rw [htake]
    exacts [hcells, h.pointer, h.count]

theorem Holds.readBytes (h : rx.Holds bytes) (more : List UInt8) : ∃ rx' : Rx,
    rx.readBytes more = some rx' ∧ rx'.Holds (bytes ++ more) ∧ rx'.line = rx.line := by
  induction more generalizing rx bytes with
  | nil => exact ⟨rx, rfl, by simpa using h, rfl⟩
  | cons b more ih =>
    obtain ⟨rx₁, hread, hholds, hline⟩ := h.readByte b
    obtain ⟨rx₂, hread', hholds', hline'⟩ := ih hholds
    refine ⟨rx₂, by rw [hread, hread'], by simpa using hholds', hline'.trans hline⟩

end Holds

/-! ## The machine -/

section Machine

variable {rx : Rx} {bytes : List UInt8}

theorem Holds.postpone (h : rx.Holds bytes) (p : Poll) : (rx.postpone p).Holds bytes := by
  rw [Rx.postpone]
  split_ifs
  · exact ⟨h.cells, h.length, h.pointer, h.count⟩
  · exact h

theorem line_postpone (rx : Rx) (p : Poll) : (rx.postpone p).line =
    (rx.rxState, rx.startReceptionTmout, rx.interchTmout,
      if p.received = [] then rx.prevTime else millis p.second) := by
  rw [Rx.postpone]
  by_cases hnil : p.received = []
  · rw [if_neg (by simpa [p.numOfBytes_eq_zero_iff] using hnil), if_pos hnil]
    rfl
  · rw [if_pos (by simpa [p.numOfBytes_eq_zero_iff] using hnil), if_neg hnil]
    rfl

theorem Holds.checkEnd (h : rx.Holds bytes) (retVal : RxStatus) (p : Poll) {start gap : UInt16}
    {time : UInt32} (hline : rx.line = (.alreadyStarted, start, gap, time)) :
    ∃ rx' : Rx, rx.checkEnd retVal p = some
        (if gap.toUInt32 ≤ millis p.third - (if p.received = [] then time else millis p.second)
          then .finished else retVal, rx') ∧
      rx'.Holds (bytes ++ p.received) ∧ rx'.line = (.alreadyStarted, start, gap,
        if p.received = [] then time else millis p.second) := by
  simp only [line, Prod.mk.injEq] at hline
  obtain ⟨hstate, rfl, rfl, rfl⟩ := hline
  obtain ⟨rx', hread, hholds, hline⟩ := (h.postpone p).readBytes p.received
  rw [line_postpone, hstate] at hline
  refine ⟨rx', ?_, hholds, hline⟩
  simp only [line, Prod.mk.injEq] at hline
  rw [Rx.checkEnd, hstate]
  simp only [Option.bind_eq_bind, p.toNat_numOfBytes, List.take_length, hread, Option.bind_some,
    hline.2.2.1, hline.2.2.2]
  split_ifs
  all_goals simp [hholds.terminated]

end Machine

end Rx

/-! ## The machine tells frames -/

/-- The call as a look at the line: the time that counts is the one at which it finds that nothing
has come, or reads what has. -/
def Poll.look (p : Poll) : Look UInt8 where
  taken := p.received
  time := if p.received = [] then p.first else p.second
  checked := p.third

/-- The difference of two readings of `millis()`. -/
def elapsed (s t : ℕ) : ℕ := (millis t - millis s).toNat

/-- Whether the reception ends with `p` after the calls `past`, for a way of telling time. -/
def ends (elapsed : ℕ → ℕ → ℕ) (start gap : UInt16) (time : ℕ) (past : List Poll) (p : Poll) :
    Option (Verdict UInt8) :=
  verdict elapsed time start.toNat gap.toNat (past.map Poll.look) p.look

/-- What `IsRxFinished` returns for it. -/
def statusOf : Option (Verdict UInt8) → RxStatus
  | none => .notFinished
  | some .silence => .tmoutErr
  | some (.frame _) => .finished

/-- `rx_state`, by when something was last received. -/
def stateOf : Option ℕ → RxState
  | none => .notStarted
  | some _ => .alreadyStarted

/-- The bytes that the calls of `IsRxFinished` have found. -/
def heard (polls : List Poll) : List UInt8 := polls.flatMap Poll.received

theorem heard_eq (polls : List Poll) : heard polls = taken (polls.map Poll.look) := by
  rw [heard, taken, List.flatMap_map]
  rfl

theorem toUInt32_le_iff (tmout : UInt16) (s t : ℕ) :
    tmout.toUInt32 ≤ millis t - millis s ↔ tmout.toNat ≤ elapsed s t := by
  rw [UInt32.le_iff_toNat_le, UInt16.toNat_toUInt32]
  rfl

/-- The state of the machine after the calls `past`. -/
structure Rx.Listens (start gap : UInt16) (time : ℕ) (past : List Poll) (rx : Rx) : Prop where
  holds : rx.Holds (heard past)
  line : rx.line = (stateOf (lastTime (past.map Poll.look)), start, gap,
    millis ((lastTime (past.map Poll.look)).getD time))

namespace Rx.Listens

variable {start gap : UInt16} {time : ℕ} {past : List Poll} {rx : Rx}

theorem lastTime_look_snoc (past : List Poll) (p : Poll) :
    lastTime ((past ++ [p]).map Poll.look) =
      if p.received = [] then lastTime (past.map Poll.look) else some p.look.time := by
  rw [List.map_append, List.map_singleton, lastTime_snoc]
  rfl

theorem ends_eq (past : List Poll) (p : Poll) : ends elapsed start gap time past p =
    match lastTime ((past ++ [p]).map Poll.look) with
    | none => if start.toNat ≤ elapsed time p.look.time then some .silence else none
    | some t =>
      if gap.toNat ≤ elapsed t p.third then some (.frame (heard (past ++ [p]))) else none := by
  rw [heard_eq, List.map_append, List.map_singleton]
  rfl

theorem isRxFinished (h : rx.Listens start gap time past) (p : Poll) : ∃ rx' : Rx,
    rx.isRxFinished p = some (statusOf (ends elapsed start gap time past p), rx') ∧
      rx'.Listens start gap time (past ++ [p]) := by
  have hline := h.line
  have hheard : heard (past ++ [p]) = heard past ++ p.received := by simp [heard]
  simp only [Rx.line, Prod.mk.injEq] at hline
  obtain ⟨hstate, hstart, hgap, hprev⟩ := hline
  cases ht : lastTime (past.map Poll.look) with
  | none =>
    rw [ht, stateOf] at hstate
    rw [ht, Option.getD_none] at hprev
    by_cases hnil : p.received = []
    · -- Nothing has come yet.
      have hlast : lastTime ((past ++ [p]).map Poll.look) = none := by
        rw [lastTime_look_snoc, if_pos hnil, ht]
      have hcheck : rx.isRxFinished p =
          some (statusOf (ends elapsed start gap time past p), rx) := by
        rw [Rx.isRxFinished, Rx.checkStart, hstate, ends_eq, hlast]
        have htime : p.look.time = p.first := if_pos hnil
        simp only [hnil, List.length_nil, if_true, hstart, hprev, toUInt32_le_iff, htime]
        split_ifs
        · simp [h.holds.terminated, Rx.checkEnd, hstate, statusOf]
        · simp [Rx.checkEnd, hstate, statusOf]
      refine ⟨rx, hcheck, ?_, ?_⟩
      · rw [hheard, hnil, List.append_nil]
        exact h.holds
      · rw [hlast, ← ht]
        exact h.line
    · -- The first bytes: both `if`s run.
      have hlast : lastTime ((past ++ [p]).map Poll.look) = some p.second := by
        rw [lastTime_look_snoc, if_neg hnil, Poll.look, if_neg hnil]
      have hstarted : rx.checkStart p = some (.notFinished,
          { rx with prevTime := millis p.first, rxState := .alreadyStarted }) := by
        rw [Rx.checkStart, hstate]
        simp [hnil]
      have hholds : { rx with prevTime := millis p.first, rxState := .alreadyStarted }.Holds
          (heard past) :=
        ⟨h.holds.cells, h.holds.length, h.holds.pointer, h.holds.count⟩
      obtain ⟨rx', hend, hholds', hline'⟩ := hholds.checkEnd .notFinished p
        (by rw [Rx.line, hstart, hgap])
      simp only [if_neg hnil, toUInt32_le_iff] at hend hline'
      refine ⟨rx', ?_, by rwa [← hheard] at hholds', by rw [hline', hlast]; rfl⟩
      rw [Rx.isRxFinished, hstarted, ends_eq, hlast]
      simp only [Option.bind_eq_bind, Option.bind_some, hend]
      split_ifs <;> rfl
  | some t =>
    rw [ht, stateOf] at hstate
    rw [ht, Option.getD_some] at hprev
    have hlast : lastTime ((past ++ [p]).map Poll.look) =
        some (if p.received = [] then t else p.second) := by
      rw [lastTime_look_snoc, ht, Poll.look]
      split_ifs <;> rfl
    have hstarted : rx.checkStart p = some (.notFinished, rx) := by
      rw [Rx.checkStart, hstate]
    obtain ⟨rx', hend, hholds, hline'⟩ := h.holds.checkEnd .notFinished p
      (by rw [Rx.line, hstate, hstart, hgap, hprev])
    simp only [← apply_ite millis, toUInt32_le_iff] at hend hline'
    refine ⟨rx', ?_, by rwa [← hheard] at hholds, by rw [hline', hlast]; rfl⟩
    rw [Rx.isRxFinished, hstarted, ends_eq, hlast]
    simp only [Option.bind_eq_bind, Option.bind_some, hend]
    split_ifs <;> rfl

theorem waitTurn_eq (h : rx.Listens start gap time past) (p : Poll) : ∃ rx' : Rx,
    rx'.Listens start gap time (past ++ [p]) ∧ rx.waitTurn p =
      match ends elapsed start gap time past p with
      | none => .inl rx'
      | some b => .inr (some (statusOf (some b), rx')) := by
  obtain ⟨rx', hrx', hlistens⟩ := h.isRxFinished p
  refine ⟨rx', hlistens, ?_⟩
  rw [Rx.waitTurn, hrx']
  rcases ends elapsed start gap time past p with - | - | bytes <;> rfl

end Rx.Listens

/-- What `WaitResp` does, in terms of the differences of readings of `millis`. -/
theorem waitResp_cases {rx : Rx} (hbuf : rx.commBuf.length = 201) (start gap : UInt16) (time : ℕ)
    (polls : List Poll) :
    (∃ rx', rx.waitResp start gap time polls = .inl rx' ∧
      Undecided (ends elapsed start gap time) polls ∧ rx'.Holds (heard polls)) ∨
    ∃ pre p post b rx', polls = pre ++ p :: post ∧ Undecided (ends elapsed start gap time) pre ∧
      ends elapsed start gap time pre p = some b ∧
      rx.waitResp start gap time polls = .inr (some (statusOf (some b), rx'), post) ∧
      rx'.Holds (heard (pre ++ [p])) := by
  obtain ⟨rx₀, hinit, hholds, hline⟩ := Rx.holds_init hbuf start gap time
  have hlistens : rx₀.Listens start gap time [] := ⟨hholds, hline⟩
  rw [Rx.waitResp, hinit]
  have hgo : ∀ past p rx, Rx.Listens start gap time past rx →
      ends elapsed start gap time past p = none →
        ∃ rx', rx.waitTurn p = .inl rx' ∧ rx'.Listens start gap time (past ++ [p]) := by
    intro past p rx hR hnone
    obtain ⟨rx', hR', hturn⟩ := hR.waitTurn_eq p
    exact ⟨rx', by rw [hturn, hnone], hR'⟩
  have hleave : ∀ past p rx b, Rx.Listens start gap time past rx →
      ends elapsed start gap time past p = some b → ∃ c, rx.waitTurn p = .inr c ∧
        ∃ rx' : Rx, c = some (statusOf (some b), rx') ∧ rx'.Holds (heard (past ++ [p])) := by
    intro past p rx b hR hsome
    obtain ⟨rx', hR', hturn⟩ := hR.waitTurn_eq p
    exact ⟨_, by rw [hturn, hsome], rx', rfl, hR'.holds⟩
  rcases runUntil_verdict _ _ (fun past p b c => ∃ rx' : Rx, c = some (statusOf (some b), rx') ∧
      rx'.Holds (heard (past ++ [p]))) hgo hleave hlistens with
    ⟨rx', hrun, hv, hR⟩ | ⟨pre, p, post, b, c, hsplit, hv, hb, hrun, rx', rfl, hrx'⟩
  · exact Or.inl ⟨rx', hrun, hv, hR.holds⟩
  · exact Or.inr ⟨pre, p, post, b, rx', hsplit, hv, hb, hrun, hrx'⟩

theorem ends_heard {elapsed : ℕ → ℕ → ℕ} {start gap : UInt16} {time : ℕ} {pre : List Poll}
    {p : Poll} {b : Verdict UInt8} (h : ends elapsed start gap time pre p = some b) :
    b.items = heard (pre ++ [p]) ∧ (b = .silence ↔ heard (pre ++ [p]) = []) := by
  have hitems : b.items = heard (pre ++ [p]) := by
    rw [items_of_verdict h, heard_eq, List.map_append, List.map_singleton]
  exact ⟨hitems, by rw [← hitems, eq_silence_iff_of_verdict h]⟩

theorem heard_of_waitResp {rx rx' : Rx} (hbuf : rx.commBuf.length = 201) {start gap : UInt16}
    {time : ℕ} {polls later : List Poll} {status : RxStatus}
    (h : rx.waitResp start gap time polls = .inr (some (status, rx'), later)) :
    ∃ used, polls = used ++ later ∧ rx'.Holds (heard used) ∧
      (status = .finished ∧ heard used ≠ [] ∨ status = .tmoutErr ∧ heard used = []) := by
  rcases waitResp_cases hbuf start gap time polls with
    ⟨rx₁, hrun, -, -⟩ | ⟨pre, p, post, b, rx₁, rfl, -, hb, hrun, hholds⟩
  · cases h.symm.trans hrun
  · cases h.symm.trans hrun
    obtain ⟨-, hsilent⟩ := ends_heard hb
    refine ⟨pre ++ [p], by simp, hholds, ?_⟩
    cases b with
    | silence => exact Or.inr ⟨rfl, hsilent.1 rfl⟩
    | frame bytes => exact Or.inl ⟨rfl, fun h => by cases hsilent.2 h⟩

/-- Whatever comes in and whatever the clock shows, `WaitResp` stores nothing outside of `comm_buf`;
at every moment the buffer holds the first 200 bytes that have come since it was called, as a
string; and it returns `RX_FINISHED` when something has come and `RX_TMOUT_ERR` when nothing has. -/
theorem waitResp_stores (rx : Rx) (hbuf : rx.commBuf.length = 201) (start gap : UInt16) (time : ℕ)
    (polls : List Poll) :
    (∀ later, rx.waitResp start gap time polls ≠ .inr (none, later)) ∧
      (∀ rx', rx.waitResp start gap time polls = .inl rx' → rx'.Holds (heard polls)) ∧
      ∀ status rx' later, rx.waitResp start gap time polls = .inr (some (status, rx'), later) →
        ∃ used, polls = used ++ later ∧ rx'.Holds (heard used) ∧
          (status = .finished ∧ heard used ≠ [] ∨ status = .tmoutErr ∧ heard used = []) := by
  refine ⟨?_, ?_, fun _ _ _ h => heard_of_waitResp hbuf h⟩ <;>
    rcases waitResp_cases hbuf start gap time polls with
      ⟨rx₁, hrun, -, hholds⟩ | ⟨pre, p, post, b, rx₁, -, -, -, hrun, -⟩ <;> rw [hrun]
  · exact fun _ h => by cases h
  · exact fun _ h => by cases h
  · rintro rx' h
    cases h
    exact hholds
  · exact fun _ h => by cases h

/-- An empty buffer. -/
def Rx.fresh : Rx := ⟨List.replicate 201 0, 0, 0, .notStarted, 0, 0, 0⟩

/-- The modem says `OK` and nothing more. -/
def Poll.ok : List Poll := [⟨[79, 75], by decide, 10, 10, 10⟩, ⟨[], by decide, 150, 150, 150⟩]

theorem waitResp_stores_ok : Rx.fresh.waitResp 500 100 0 Poll.ok ≠ .inr (none, []) :=
  (waitResp_stores Rx.fresh List.length_replicate 500 100 0 Poll.ok).1 []

theorem elapsed_of_lt (s t : ℕ) (hle : s ≤ t) (hlt : t < s + 4294967296) :
    elapsed s t = t - s := by
  rw [elapsed, millis, millis, UInt32.toNat_sub, UInt32.toNat_ofNat', UInt32.toNat_ofNat']
  omega

/-- When the readings of the clock do not go back and each call of `IsRxFinished` is over less than
49 days after the one before it has looked, `WaitResp` tells frames: it returns at the first call at
which the line has been silent for `start` milliseconds since it was called, or for `gap` since the
last bytes were read, and leaves the first 200 bytes of what has come in `comm_buf`, up to the first
zero byte. -/
theorem waitResp_frames (rx : Rx) (hbuf : rx.commBuf.length = 201) (start gap : UInt16) (time : ℕ)
    (polls : List Poll)
    (hpaced : Throughout (Paced time 4294901760) [] (polls.map Poll.look)) :
    (∃ rx', rx.waitResp start gap time polls = .inl rx' ∧
      Undecided (ends (fun s t => t - s) start gap time) polls) ∨
    ∃ pre p post b rx', polls = pre ++ p :: post ∧
      Undecided (ends (fun s t => t - s) start gap time) pre ∧
      ends (fun s t => t - s) start gap time pre p = some b ∧
      rx.waitResp start gap time polls = .inr (some (statusOf (some b), rx'), post) ∧
      rx'.text = (b.items.take 200).takeWhile (· ≠ 0) := by
  -- Up to the end of the reception, `millis` shows the time that has passed.
  have hstart : start.toNat + 4294901760 ≤ 4294967296 := by
    have := start.toNat_lt
    omega
  have hgap : gap.toNat + 4294901760 ≤ 4294967296 := by
    have := gap.toNat_lt
    omega
  have hclock : ∀ past p,
      Throughout (fun past p => Paced time 4294901760 (past.map Poll.look) p.look) []
        (past ++ [p]) →
      Undecided (ends (fun s t => t - s) start gap time) past →
        ends elapsed start gap time past p = ends (fun s t => t - s) start gap time past p := by
    intro past p hthrough hund
    have hthrough' := (throughout_map Poll.look [] (past ++ [p])).2 hthrough
    rw [List.map_append, List.map_singleton] at hthrough'
    exact verdict_of_paced elapsed_of_lt hstart hgap (past.map Poll.look) p.look hthrough'
      ((throughout_map Poll.look [] past).2 hund)
  have hpolls := (throughout_map Poll.look [] polls).1 hpaced
  rcases waitResp_cases hbuf start gap time polls with
    ⟨rx', hrun, hund, -⟩ | ⟨pre, p, post, b, rx', rfl, hund, hb, hrun, hholds⟩
  · exact Or.inl ⟨rx', hrun, (undecided_congr hclock hpolls).1 hund⟩
  · have hpre : Throughout (fun past p => Paced time 4294901760 (past.map Poll.look) p.look) []
        (pre ++ [p]) := by
      rw [List.append_cons] at hpolls
      exact ((along_append _ _).1 hpolls).1
    have hund' := (undecided_congr hclock (throughout_snoc.1 hpre).1).1 hund
    rw [hclock pre p hpre hund'] at hb
    exact Or.inr ⟨pre, p, post, b, rx', rfl, hund', hb, hrun,
      by rw [hholds.text_eq, (ends_heard hb).1]⟩

theorem waitResp_frames_ok : ∃ b rx' later, Rx.fresh.waitResp 500 100 0 Poll.ok =
    .inr (some (statusOf (some b), rx'), later) ∧
      rx'.text = (b.items.take 200).takeWhile (· ≠ 0) := by
  have hpaced : Throughout (Paced 0 4294901760) [] (Poll.ok.map Poll.look) := by
    simp [Throughout, Paced, Poll.ok, Poll.look]
  rcases waitResp_frames Rx.fresh List.length_replicate 500 100 0 Poll.ok hpaced with
    ⟨rx', -, hund⟩ | ⟨pre, p, post, b, rx', -, -, -, hrun, htext⟩
  · -- At 150 nothing has come for 140 milliseconds.
    exact absurd hund.2.1 (Option.some_ne_none _)
  · exact ⟨b, rx', post, hrun, htext⟩

end Bbd.Modem
