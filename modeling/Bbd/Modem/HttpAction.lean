import Bbd.Lib.Atoi
import Bbd.Lib.Runs

/-!
# Waiting for the result of an HTTP request

`SIMCOM900::read_httpaction` is to read lines until one starts with `OK`, then lines until one
starts with `+HTTPACTION:`, and to take three numbers from that one.  It is modelled statement by
statement (`HttpAction.step`), since what its loops leave in `temp` and `i` for one another decides
what it does.  The first loop never advances `i`, so `strncmp` compares nothing and the first line
passes for the `OK`; its newline is still in `temp` when the second loop starts, which therefore
reads nothing, finds `i` less than 12 and starts again, for ever (`never_returned`, `spins`).
-/

namespace Bbd.Modem

open Atoi Runs

/-- `strncmp`. -/
def strncmp : List UInt8 → List UInt8 → ℕ → ℤ
  | a :: as, b :: bs, n + 1 => if a = b ∧ a ≠ 0 then strncmp as bs n else (a.toNat : ℤ) - b.toNat
  | _, _, _ => 0

/-- `OK_STR`, with the NUL behind it. -/
def okStr : List UInt8 := [79, 75, 0]

/-- `ACTION_STR`, with the NUL behind it. -/
def actionStr : List UInt8 := [43, 72, 84, 84, 80, 65, 67, 84, 73, 79, 78, 58, 0]

/-- `ACTION_LEN`. -/
def actionLen : ℕ := 12

/-- The next statement of `read_httpaction`. -/
inductive Statement where
  | firstRead
  | okStart
  | okWhile
  | okTest
  | actionStart
  | actionWhile
  | actionTest
  | commas
  | numbers
  | returned
  /-- An `int` has overflowed or `atoi` has left its buffer; nothing is known of what follows. -/
  | lost
  deriving DecidableEq, Repr

/-- The variables of `read_httpaction`, its parameters among them, and the bytes that the modem is
still to send. -/
structure HttpAction where
  next : Statement
  stream : List UInt8
  temp : UInt8
  i : ℕ
  result : List UInt8
  j : ℕ
  commasIdx : List ℕ
  commasIdxIdx : ℕ
  method : ℤ
  statusCode : ℤ
  dataLen : ℤ
  deriving DecidableEq, Repr

namespace HttpAction

/-- `temp = gsm.read();` and what is done with it.  The call waits as long as there is no byte. -/
def reading (s : HttpAction) (f : HttpAction → HttpAction) : HttpAction :=
  match s.stream with
  | [] => s
  | b :: stream => f { s with stream := stream, temp := b }

/-- One statement. -/
def step (s : HttpAction) : HttpAction :=
  match s.next with
  | .firstRead => s.reading fun s => { s with i := 0, next := .okStart }
  | .okStart => { s with i := 0, next := .okWhile }
  | .okWhile =>
    if s.temp ≠ 10 ∧ s.i < 100 then s.reading fun s => { s with result := s.result.set s.i s.temp }
    else { s with next := .okTest }
  | .okTest =>
    if strncmp s.result okStr s.i ≠ 0 then { s with next := .okStart }
    else { s with next := .actionStart }
  | .actionStart => { s with i := 0, next := .actionWhile }
  | .actionWhile =>
    if s.temp ≠ 10 ∧ s.i < 100 then
      s.reading fun s => { s with result := s.result.set s.i s.temp, i := s.i + 1 }
    else { s with next := .actionTest }
  | .actionTest =>
    if s.i < actionLen ∨ strncmp s.result actionStr actionLen ≠ 0 then
      { s with next := .actionStart }
    else { s with commasIdxIdx := 0, j := 0, next := .commas }
  | .commas =>
    if s.j < s.i ∧ s.commasIdxIdx < 2 then
      let s := if s.result[s.j]? = some 44 then
          { s with
            commasIdx := s.commasIdx.set s.commasIdxIdx s.j
            commasIdxIdx := s.commasIdxIdx + 1 }
        else s
      -- The loop advances `i` where it should advance `j`.
      if s.i < 32767 then { s with i := s.i + 1 } else { s with next := .lost }
    else { s with next := .numbers }
  | .numbers =>
    match atoi 32767 (s.result.drop actionLen),
        atoi 32767 (s.result.drop (s.commasIdx[0]?.getD 0 + 1)),
        atoi 32767 (s.result.drop (s.commasIdx[1]?.getD 0 + 1)) with
    | some method, some statusCode, some dataLen =>
      { s with method := method, statusCode := statusCode, dataLen := dataLen, next := .returned }
    | _, _, _ => { s with next := .lost }
  | .returned => s
  | .lost => s

/-- The call after `n` statements. -/
def after (n : ℕ) (s : HttpAction) : HttpAction :=
  run (fun s (_ : Unit) => s.step) s (List.replicate n ())

/-- What a call has when it starts: the bytes to come, its arguments, and what stands on the
stack. -/
structure Call where
  stream : List UInt8
  method : ℤ
  statusCode : ℤ
  dataLen : ℤ
  result : List UInt8
  commasIdx : List ℕ

/-- The call before its first statement. -/
def start (c : Call) : HttpAction :=
  ⟨.firstRead, c.stream, 0, 0, c.result, 0, c.commasIdx, 0, c.method, c.statusCode, c.dataLen⟩

/-! ## No run returns -/

/-- The call has not got beyond its second loop.  In the first loop `i` is 0, and behind it `temp`
is the newline that has ended it. -/
def LoopingAt (s : HttpAction) : Statement → Prop
  | .firstRead | .okStart => True
  | .okWhile => s.i = 0
  | .actionStart => s.temp = 10
  | .okTest | .actionWhile | .actionTest => s.i = 0 ∧ s.temp = 10
  | .commas | .numbers | .returned | .lost => False

def Looping (s : HttpAction) : Prop := s.LoopingAt s.next

variable {s : HttpAction}

theorem step_firstRead (h : s.next = .firstRead) :
    s.step = s.reading fun s => { s with i := 0, next := .okStart } := by
  simp only [step, h]

theorem step_okStart (h : s.next = .okStart) : s.step = { s with i := 0, next := .okWhile } := by
  simp only [step, h]

theorem step_okWhile (h : s.next = .okWhile) :
    s.step = if s.temp ≠ 10 ∧ s.i < 100 then
      s.reading fun s => { s with result := s.result.set s.i s.temp }
    else { s with next := .okTest } := by
  simp only [step, h]

theorem step_okTest (h : s.next = .okTest) :
    s.step = if strncmp s.result okStr s.i ≠ 0 then { s with next := .okStart }
    else { s with next := .actionStart } := by
  simp only [step, h]

theorem step_actionStart (h : s.next = .actionStart) :
    s.step = { s with i := 0, next := .actionWhile } := by
  simp only [step, h]

theorem step_actionWhile (h : s.next = .actionWhile) (htemp : s.temp = 10) :
    s.step = { s with next := .actionTest } := by
  simp only [step, h, htemp, ne_eq, not_true_eq_false, false_and, if_false]

theorem step_actionTest (h : s.next = .actionTest) (hi : s.i = 0) :
    s.step = { s with next := .actionStart } := by
  have hlt : s.i < actionLen := by
    rw [hi]
    decide
  simp only [step, h, hlt, true_or, if_true]

/-- `strncmp` of no characters finds no difference, so the first line passes for `OK`. -/
theorem step_okTest_zero (h : s.next = .okTest) (hi : s.i = 0) :
    s.step = { s with next := .actionStart } := by
  have hcmp : strncmp s.result okStr s.i = 0 := by
    rw [hi]
    cases s.result <;> rfl
  rw [step_okTest h, if_neg (not_not_intro hcmp)]

theorem Looping.reading {f : HttpAction → HttpAction} (h : s.Looping)
    (hf : ∀ b stream, (f { s with stream := stream, temp := b }).Looping) :
    (s.reading f).Looping := by
  unfold HttpAction.reading
  split
  · exact h
  · exact hf _ _

theorem Looping.step (h : s.Looping) : s.step.Looping := by
  have hat := h
  unfold Looping at hat
  cases hnext : s.next with
  | firstRead =>
    rw [step_firstRead hnext]
    exact h.reading fun _ _ => trivial
  | okStart =>
    rw [step_okStart hnext]
    rfl
  | okWhile =>
    rw [hnext] at hat
    rw [step_okWhile hnext]
    split_ifs with hread
    · refine h.reading fun b stream => ?_
      unfold Looping
      rw [hnext]
      exact hat
    · -- With `i` at 0 only a newline ends the loop.
      change s.i = 0 at hat
      refine ⟨hat, ?_⟩
      by_contra htemp
      exact hread ⟨htemp, by omega⟩
  | okTest =>
    rw [hnext] at hat
    rw [step_okTest_zero hnext hat.1]
    exact hat.2
  | actionStart =>
    rw [hnext] at hat
    rw [step_actionStart hnext]
    exact ⟨rfl, hat⟩
  | actionWhile =>
    rw [hnext] at hat
    rw [step_actionWhile hnext hat.2]
    exact hat
  | actionTest =>
    rw [hnext] at hat
    rw [step_actionTest hnext hat.1]
    exact hat.2
  | commas | numbers | returned | lost =>
    rw [hnext] at hat
    exact hat.elim

/-- No run of the call gets to its return, whatever the modem sends. -/
theorem never_returned (c : Call) (n : ℕ) : (after n (start c)).next ≠ .returned := by
  have hstart : (start c).Looping := trivial
  have h : (after n (start c)).Looping :=
    run_invariant (I := Looping) (fun _ _ h => h.step) hstart _
  intro hnext
  unfold Looping at h
  rw [hnext] at h
  exact h

/-! ## Where it stays -/

theorem after_succ (n : ℕ) (s : HttpAction) : after (n + 1) s = after n s.step := rfl

theorem after_add (m n : ℕ) (s : HttpAction) : after (m + n) s = after n (after m s) := by
  rw [after, ← List.replicate_append_replicate, run_append]
  rfl

/-- The second loop, with a newline in `temp`, is back where it was after three statements. -/
theorem after_three (h : s.next = .actionStart) (htemp : s.temp = 10) (hi : s.i = 0) :
    after 3 s = s := by
  have h₁ := step_actionStart h
  have h₂ : ({ s with i := 0, next := .actionWhile } : HttpAction).step =
      { s with i := 0, next := .actionTest } := step_actionWhile rfl htemp
  have h₃ : ({ s with i := 0, next := .actionTest } : HttpAction).step =
      { s with i := 0, next := .actionStart } := step_actionTest rfl rfl
  rw [after_succ, after_succ, after_succ, h₁, h₂, h₃]
  show ({ s with i := 0, next := .actionStart } : HttpAction) = s
  rw [← hi, ← h]

theorem after_three_mul (h : s.next = .actionStart) (htemp : s.temp = 10) (hi : s.i = 0) (k : ℕ) :
    after (3 * k) s = s := by
  induction k with
  | zero => rfl
  | succ k ih => rw [Nat.mul_succ, after_add, ih, after_three h htemp hi]

theorem exists_after_okWhile (l rest : List UInt8) (hl : 10 ∉ l) (h : s.next = .okWhile)
    (hi : s.i = 0) (htemp : s.temp ≠ 10) (hstream : s.stream = l ++ 10 :: rest) :
    ∃ n, (after n s).next = .okWhile ∧ (after n s).i = 0 ∧ (after n s).temp = 10 ∧
      (after n s).stream = rest := by
  induction l generalizing s with
  | nil =>
    have hstep := step_okWhile h
    rw [if_pos ⟨htemp, by omega⟩, reading, hstream] at hstep
    exact ⟨1, by rw [after_succ, hstep]; exact ⟨h, hi, rfl, rfl⟩⟩
  | cons b l ih =>
    rw [List.mem_cons, not_or] at hl
    have hstep := step_okWhile h
    rw [if_pos ⟨htemp, by omega⟩, reading, hstream] at hstep
    obtain ⟨n, hn⟩ := ih (s := s.step) hl.2 (by rw [hstep]; exact h) (by rw [hstep]; exact hi)
      (by rw [hstep]; exact Ne.symm hl.1) (by rw [hstep]; rfl)
    exact ⟨n + 1, by rw [after_succ]; exact hn⟩

theorem after_okWhile_newline (h : s.next = .okWhile) (hi : s.i = 0) (htemp : s.temp = 10) :
    after 2 s = { s with next := .actionStart } := by
  have h₁ : s.step = { s with next := .okTest } := by
    rw [step_okWhile h, if_neg fun hread => hread.1 htemp]
  have h₂ : ({ s with next := .okTest } : HttpAction).step = { s with next := .actionStart } :=
    step_okTest_zero rfl hi
  rw [after_succ, after_succ, h₁, h₂]
  rfl

theorem after_two_start {c : Call} {b : UInt8} {stream : List UInt8}
    (h : c.stream = b :: stream) :
    after 2 (start c) = { start c with stream := stream, temp := b, next := .okWhile } := by
  have hread := step_firstRead (s := start c) rfl
  simp only [reading, start, h] at hread
  rw [after_succ, after_succ, start, h, hread]
  rfl

theorem exists_after_start {c : Call} {l rest : List UInt8} (hl : 10 ∉ l)
    (hstream : c.stream = l ++ 10 :: rest) :
    ∃ n, (after n (start c)).next = .okWhile ∧ (after n (start c)).i = 0 ∧
      (after n (start c)).temp = 10 ∧ (after n (start c)).stream = rest := by
  cases l with
  | nil =>
    refine ⟨2, ?_⟩
    rw [after_two_start hstream]
    exact ⟨rfl, rfl, rfl, rfl⟩
  | cons b l =>
    rw [List.mem_cons, not_or] at hl
    have henter := after_two_start hstream
    obtain ⟨n, hn⟩ := exists_after_okWhile (s := after 2 (start c)) l rest hl.2 (by rw [henter])
      (by rw [henter]; rfl) (by rw [henter]; exact Ne.symm hl.1) (by rw [henter]; rfl)
    exact ⟨2 + n, by rw [after_add]; exact hn⟩

/-- The call reads the first line, whatever it says, and stays in its second loop for ever. -/
theorem spins (c : Call) (l rest : List UInt8) (hl : 10 ∉ l)
    (hstream : c.stream = l ++ 10 :: rest) :
    ∃ n, ∀ k, (after (n + 3 * k) (start c)).next = .actionStart ∧
      (after (n + 3 * k) (start c)).stream = rest := by
  obtain ⟨n, hnext, hi, htemp, hrest⟩ := exists_after_start hl hstream
  have hsecond := after_okWhile_newline hnext hi htemp
  have hstay (k : ℕ) :
      after (n + 2 + 3 * k) (start c) = { after n (start c) with next := .actionStart } := by
    rw [after_add, after_add, hsecond]
    have hnext' : ({ after n (start c) with next := .actionStart } : HttpAction).next =
        .actionStart := rfl
    exact after_three_mul hnext' htemp hi k
  exact ⟨n + 2, fun k => by rw [hstay]; exact ⟨rfl, hrest⟩⟩

end HttpAction

/-! ## The stream that it waits for -/

/-- The bytes of a line. -/
def line (l : List UInt8) : List UInt8 := l ++ [10]

/-- A stream of lines with an `OK` line among them and a line `+HTTPACTION:…,…,…` after it; the
lines before the `OK` have fewer than 100 characters. -/
structure ActionStream where
  before : List (List UInt8)
  ok : List UInt8
  between : List (List UInt8)
  method : List UInt8
  status : List UInt8
  length : List UInt8
  rest : List UInt8
  before_line : ∀ l ∈ before, 10 ∉ l ∧ l.length < 100
  ok_line : 10 ∉ ok
  between_line : ∀ l ∈ between, 10 ∉ l
  action_line : 10 ∉ method ++ status ++ length

/-- The bytes of the stream. -/
def ActionStream.bytes (a : ActionStream) : List UInt8 :=
  (a.before.map line).flatten ++ line ([79, 75] ++ a.ok) ++ (a.between.map line).flatten ++
    line (actionStr.take actionLen ++ a.method ++ [44] ++ a.status ++ [44] ++ a.length) ++ a.rest

/-- The call returns, and has consumed the stream up to the end of the `+HTTPACTION` line. -/
def ReturnsAfterAction (a : ActionStream) (c : HttpAction.Call) : Prop :=
  ∃ n, (HttpAction.after n (.start { c with stream := a.bytes })).next = .returned ∧
    (HttpAction.after n (.start { c with stream := a.bytes })).stream = a.rest

/-- On no stream with an `OK` line and a `+HTTPACTION` line behind it does the call return. -/
theorem not_returnsAfterAction (a : ActionStream) (c : HttpAction.Call) :
    ¬ ReturnsAfterAction a c := by
  rintro ⟨n, hreturned, -⟩
  exact HttpAction.never_returned _ n hreturned

/-- The lines `OK` and `+HTTPACTION:0,200,5`. -/
def ActionStream.plain : ActionStream where
  before := []
  ok := []
  between := []
  method := [48]
  status := [50, 48, 48]
  length := [53]
  rest := []
  before_line := by simp
  ok_line := by decide
  between_line := by simp
  action_line := by decide

/-- Not even on `OK` and `+HTTPACTION:0,200,5` does the call return. -/
theorem not_returnsAfterAction_plain :
    ActionStream.plain.bytes = [79, 75, 10, 43, 72, 84, 84, 80, 65, 67, 84, 73, 79, 78, 58, 48, 44,
        50, 48, 48, 44, 53, 10] ∧
      ¬ ReturnsAfterAction .plain ⟨[], 0, 0, 0, List.replicate 100 0, [0, 0]⟩ :=
  ⟨by decide, fun ⟨n, hreturned, _⟩ => HttpAction.never_returned _ n hreturned⟩

end Bbd.Modem
