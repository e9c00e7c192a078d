import Bbd.Lib.Atoi

/-!
# Extracting the content of an HTTP response

`SIMCOM900::getRestContent` reads a response of the modem into a buffer of 50 bytes: it skips to the
next `+` and to the next `:` behind it, stores the rest of that line into the buffer, lets `atoi`
read the length of the content from there, and stores as many further bytes over it.  Neither loop
looks at the size of the buffer and nothing terminates the text that `atoi` gets, so the call does
what it is for exactly where the line fits the buffer, and the number that `atoi` finds in the line
and the stale bytes behind it is the announced one and fits the buffer too
(`extractsContent_iff`).
-/

namespace Bbd.Modem

open Atoi

/-- Why a call does not get to its return: it waits for a byte that the modem does not send, or its
behaviour is undefined, since it has left the buffer or has a number that is no `int`. -/
inductive Stuck where
  | waits
  | undefined
  deriving DecidableEq, Repr

/-- `do{ temp = gsm.read(); } while(temp != c);`: the stream behind the next `c`. -/
def readPast (c : UInt8) : List UInt8 → Except Stuck (List UInt8)
  | [] => .error .waits
  | temp :: stream => if temp ≠ c then readPast c stream else .ok stream

/-- The loop that stores the rest of the line. -/
def readLine (cont : List UInt8) (contIdx : ℕ) :
    List UInt8 → Except Stuck (List UInt8 × List UInt8)
  | [] => .error .waits
  | temp :: stream =>
    if temp = 10 then .ok (cont, stream)
    else if contIdx < cont.length then readLine (cont.set contIdx temp) (contIdx + 1) stream
    else .error .undefined

/-- The loop that stores the content, `todo` iterations before its end. -/
def readContent (cont : List UInt8) (contIdx : ℕ) :
    (todo : ℕ) → List UInt8 → Except Stuck (List UInt8 × List UInt8)
  | 0, stream => .ok (cont, stream)
  | _ + 1, [] => .error .waits
  | todo + 1, temp :: stream =>
    if contIdx < cont.length then
      readContent (cont.set contIdx temp) (contIdx + 1) todo stream
    else .error .undefined

/-- The conversion of an `int` to `unsigned int`, of 16 bits each. -/
def toUnsigned (n : ℤ) : ℕ := (n % 65536).toNat

/-- `SIMCOM900::getRestContent`: the buffer and the stream that it leaves.  It returns 0. -/
def getRestContent (cont stream : List UInt8) : Except Stuck (List UInt8 × List UInt8) := do
  let stream ← readPast 43 stream
  let stream ← readPast 58 stream
  let (cont, stream) ← readLine cont 0 stream
  match atoi 32767 cont with
  | none => .error .undefined
  | some contLen => readContent cont 0 (toUnsigned contLen) stream

/-! ## What the loops do -/

/-- The buffer with `bs` in place of what stands from `idx` on. -/
def store (cont : List UInt8) (idx : ℕ) (bs : List UInt8) : List UInt8 :=
  cont.take idx ++ bs ++ cont.drop (idx + bs.length)

theorem store_nil (cont : List UInt8) (idx : ℕ) : store cont idx [] = cont := by
  simp [store]

theorem store_cons {cont : List UInt8} {idx : ℕ} (h : idx < cont.length) (b : UInt8)
    (bs : List UInt8) : store (cont.set idx b) (idx + 1) bs = store cont idx (b :: bs) := by
  have hset : cont.set idx b = cont.take idx ++ [b] ++ cont.drop (idx + 1) := by
    rw [List.set_eq_take_append_cons_drop, if_pos h, List.append_assoc, List.singleton_append]
  have hlen : (cont.take idx ++ [b]).length = idx + 1 := by
    rw [List.length_append, List.length_take_of_le (Nat.le_of_lt h), List.length_singleton]
  unfold store
  rw [hset, List.take_left' hlen, ← List.drop_drop, List.drop_left' hlen, List.drop_drop,
    List.length_cons, List.append_assoc _ [b], List.singleton_append, Nat.add_right_comm,
    Nat.add_assoc]

theorem readPast_append {c : UInt8} {pre : List UInt8} (h : c ∉ pre) (stream : List UInt8) :
    readPast c (pre ++ c :: stream) = .ok stream := by
  induction pre with
  | nil => simp [readPast]
  | cons b pre ih =>
    rw [List.mem_cons, not_or] at h
    rw [List.cons_append, readPast, if_pos (Ne.symm h.1), ih h.2]

theorem readLine_eq {line : List UInt8} (h : 10 ∉ line) (stream cont : List UInt8) {idx : ℕ}
    (hidx : idx ≤ cont.length) :
    readLine cont idx (line ++ 10 :: stream) =
      if idx + line.length ≤ cont.length then .ok (store cont idx line, stream)
      else .error .undefined := by
  induction line generalizing cont idx with
  | nil => simp [readLine, store_nil, hidx]
  | cons b line ih =>
    rw [List.mem_cons, not_or] at h
    rw [List.cons_append, readLine, if_neg (Ne.symm h.1), List.length_cons]
    by_cases hlt : idx < cont.length
    · rw [if_pos hlt, ih h.2 _ (by rw [List.length_set]; omega), List.length_set,
        store_cons hlt, Nat.add_right_comm, Nat.add_assoc]
    · rw [if_neg hlt, if_neg (by omega)]

/-- The content is stored where it fits the buffer and the stream holds it.  Otherwise the call
waits, or, if the stream holds more than fits, leaves the buffer. -/
theorem readContent_eq (todo : ℕ) (stream cont : List UInt8) {idx : ℕ} (hidx : idx ≤ cont.length) :
    readContent cont idx todo stream =
      if todo ≤ stream.length ∧ idx + todo ≤ cont.length then
        .ok (store cont idx (stream.take todo), stream.drop todo)
      else if idx + stream.length ≤ cont.length then .error .waits
      else .error .undefined := by
  induction todo generalizing stream cont idx with
  | zero => simp [readContent, store_nil, hidx]
  | succ todo ih =>
    cases stream with
    | nil => simp [readContent, hidx]
    | cons b stream =>
      rw [readContent, List.length_cons, List.take_succ_cons, List.drop_succ_cons]
      by_cases hlt : idx < cont.length
      · rw [if_pos hlt, ih _ _ (by rw [List.length_set]; omega), List.length_set, store_cons hlt]
        split_ifs <;> first | rfl | omega
      · rw [if_neg hlt, if_neg (by omega), if_neg (by omega)]

/-! ## A response and a buffer -/

/-- A byte stream that contains a `+`, later a `:`, later a newline and then the bytes `body`. -/
structure Response where
  pre : List UInt8
  mid : List UInt8
  line : List UInt8
  body : List UInt8
  plus_notMem : 43 ∉ pre
  colon_notMem : 58 ∉ mid
  newline_notMem : 10 ∉ line

/-- The bytes of the stream. -/
def Response.bytes (r : Response) : List UInt8 :=
  r.pre ++ 43 :: (r.mid ++ 58 :: (r.line ++ 10 :: r.body))

/-- A content of the buffer `char cont[50]`. -/
structure Cont where
  bytes : List UInt8
  length_eq : bytes.length = 50

theorem getRestContent_eq (r : Response) (cont : Cont) :
    getRestContent cont.bytes r.bytes =
      if r.line.length ≤ 50 then
        match atoi 32767 (r.line ++ cont.bytes.drop r.line.length) with
        | none => .error .undefined
        | some contLen =>
          readContent (r.line ++ cont.bytes.drop r.line.length) 0 (toUnsigned contLen) r.body
      else .error .undefined := by
  have hstore : store cont.bytes 0 r.line = r.line ++ cont.bytes.drop r.line.length := by
    simp [store]
  have hline := readLine_eq r.newline_notMem r.body cont.bytes (Nat.zero_le _)
  rw [Nat.zero_add, cont.length_eq, hstore] at hline
  simp only [getRestContent, Response.bytes, readPast_append r.plus_notMem,
    readPast_append r.colon_notMem, hline, bind, Except.bind]
  split_ifs <;> rfl

/-- What the call is for: it stays in the buffer, and where the line is a decimal length of at most
50, and the stream holds that many bytes more, it leaves them at the front of the buffer and reads
nothing behind them. -/
structure ExtractsContent (r : Response) (cont : Cont) : Prop where
  inBounds : getRestContent cont.bytes r.bytes ≠ .error .undefined
  content : ∀ n, Decimal r.line n → n ≤ 50 → n ≤ r.body.length →
    ∃ cont', getRestContent cont.bytes r.bytes = .ok (cont', r.body.drop n) ∧
      cont'.take n = r.body.take n

/-- The line fits the buffer.  The line and the stale bytes behind it begin with a numeral that ends
in the buffer; its value is an `int` and at most 50 (or the modem sends no more than 50 bytes, and
the call waits for the next one), and is the announced length where the line is one. -/
def Fits (r : Response) (cont : Cont) : Prop :=
  r.line.length ≤ 50 ∧
    ∃ k, Numeral (r.line ++ cont.bytes.drop r.line.length) k ∧ (-32768 ≤ k ∧ k ≤ 32767) ∧
      (0 ≤ k ∧ k ≤ 50 ∨ r.body.length ≤ 50) ∧
      ∀ n, Decimal r.line n → n ≤ 50 → n ≤ r.body.length → k = n

section Extraction

variable {r : Response} {cont : Cont} {k : ℤ}

theorem length_line_append_drop (h : r.line.length ≤ 50) :
    (r.line ++ cont.bytes.drop r.line.length).length = 50 := by
  rw [List.length_append, List.length_drop, cont.length_eq]
  omega

theorem getRestContent_of_numeral (hline : r.line.length ≤ 50)
    (hk : Numeral (r.line ++ cont.bytes.drop r.line.length) k) (hint : -32768 ≤ k ∧ k ≤ 32767) :
    getRestContent cont.bytes r.bytes =
      if toUnsigned k ≤ r.body.length ∧ toUnsigned k ≤ 50 then
        .ok (store (r.line ++ cont.bytes.drop r.line.length) 0 (r.body.take (toUnsigned k)),
          r.body.drop (toUnsigned k))
      else if r.body.length ≤ 50 then .error .waits
      else .error .undefined := by
  have hatoi := (atoi_eq_some_iff 32767 _ k).2 ⟨hk, hint⟩
  rw [getRestContent_eq, if_pos hline, hatoi]
  show readContent _ 0 (toUnsigned k) r.body = _
  rw [readContent_eq _ _ _ (Nat.zero_le _), length_line_append_drop hline, Nat.zero_add,
    Nat.zero_add]

theorem exists_numeral_of_inBounds (h : getRestContent cont.bytes r.bytes ≠ .error .undefined) :
    r.line.length ≤ 50 ∧ ∃ k, Numeral (r.line ++ cont.bytes.drop r.line.length) k ∧
      -32768 ≤ k ∧ k ≤ 32767 := by
  rw [getRestContent_eq] at h
  split_ifs at h with hline
  · refine ⟨hline, ?_⟩
    cases hatoi : atoi 32767 (r.line ++ cont.bytes.drop r.line.length) with
    | none =>
      rw [hatoi] at h
      exact absurd rfl h
    | some k => exact ⟨k, (atoi_eq_some_iff 32767 _ k).1 hatoi⟩
  · exact absurd rfl h

theorem toUnsigned_le_iff (hint : -32768 ≤ k ∧ k ≤ 32767) :
    toUnsigned k ≤ 50 ↔ 0 ≤ k ∧ k ≤ 50 := by
  unfold toUnsigned
  omega

theorem toUnsigned_natCast {n : ℕ} (h : n ≤ 50) : toUnsigned n = n := by
  unfold toUnsigned
  omega

end Extraction

/-- The call stays in its buffer and extracts the announced content, exactly when the line fits the
buffer and the number read from it does, being the announced one. -/
theorem extractsContent_iff (r : Response) (cont : Cont) :
    ExtractsContent r cont ↔ Fits r cont := by
  constructor
  · intro h
    obtain ⟨hline, k, hk, hint⟩ := exists_numeral_of_inBounds h.inBounds
    have hcall := getRestContent_of_numeral hline hk hint
    refine ⟨hline, k, hk, hint, ?_, fun n hn hle hbody => ?_⟩
    · by_contra hbig
      rw [not_or, ← toUnsigned_le_iff hint] at hbig
      refine h.inBounds (hcall.trans ?_)
      rw [if_neg fun hfit => hbig.1 hfit.2, if_neg hbig.2]
    · -- The call returns what it has not read, which tells how much it has.
      obtain ⟨cont', hreturn, -⟩ := h.content n hn hle hbody
      rw [hcall] at hreturn
      split_ifs at hreturn with hfit
      have hrest := congrArg List.length (Prod.mk.inj (Except.ok.inj hreturn)).2
      rw [List.length_drop, List.length_drop] at hrest
      have hpos := (toUnsigned_le_iff hint).1 hfit.2
      unfold toUnsigned at hrest hfit
      omega
  · rintro ⟨hline, k, hk, hint, hroom, hannounced⟩
    have hcall := getRestContent_of_numeral hline hk hint
    refine ⟨?_, fun n hn hle hbody => ?_⟩
    · rw [hcall, ← toUnsigned_le_iff hint] at *
      split_ifs with hfit hshort
      · simp
      · simp
      · omega
    · obtain rfl := hannounced n hn hle hbody
      rw [hcall, toUnsigned_natCast hle, if_pos ⟨hbody, hle⟩]
      refine ⟨_, rfl, ?_⟩
      rw [store, List.take_zero, List.nil_append, List.take_append_of_le_length]
      · rw [List.take_take, Nat.min_self]
      · exact Nat.le_of_eq (List.length_take_of_le hbody).symm

/-- A decimal length of at most 50 in fewer than 50 digits is extracted over any buffer that has no
digit right behind it. -/
theorem extractsContent_of_decimal {r : Response} {cont : Cont} {n : ℕ} (hn : Decimal r.line n)
    (hle : n ≤ 50) {stale : UInt8} (hstale : cont.bytes[r.line.length]? = some stale)
    (hdigit : ¬ isDigit stale) : ExtractsContent r cont := by
  obtain ⟨hlt, hget⟩ := List.getElem?_eq_some_iff.1 hstale
  have hlen : r.line.length < 50 := cont.length_eq ▸ hlt
  have hdrop : cont.bytes.drop r.line.length = stale :: cont.bytes.drop (r.line.length + 1) := by
    rw [List.drop_eq_getElem_cons hlt, hget]
  refine (extractsContent_iff r cont).2 ⟨by omega, n, ?_, by omega, Or.inl (by omega), ?_⟩
  · rw [hdrop]
    exact hn.numeral hdigit _
  · rintro m ⟨-, -, rfl⟩ - -
    exact congrArg Nat.cast hn.2.2.symm

/-! ## Failing buffers and lines -/

/-- `+HTTPREAD:`, a line and a body of dots. -/
def httpRead (line : List UInt8) (h : 10 ∉ line) (length : ℕ) : Response where
  pre := []
  mid := [72, 84, 84, 80, 82, 69, 65, 68]
  line := line
  body := List.replicate length 46
  plus_notMem := by decide
  colon_notMem := by decide
  newline_notMem := h

/-- A buffer that holds one byte again and again. -/
def Cont.filled (b : UInt8) : Cont := ⟨List.replicate 50 b, List.length_replicate⟩

/-- Over a buffer of zeros a length of 5 is extracted. -/
example : ExtractsContent (httpRead [53] (by decide) 5) (.filled 0) :=
  @extractsContent_of_decimal _ _ 5 (by decide) (by decide) 0 rfl (by decide)

/-- A buffer in which an earlier length of 10 still stands. -/
def Cont.staleTen : Cont := ⟨49 :: 48 :: List.replicate 48 0, rfl⟩

/-- A length of 5 over an earlier 10, which makes it 50; a length of 5 over a buffer of digits; a
length of 60; and a line of 51 spaces. -/
theorem not_extractsContent_stale_long :
    ¬ ExtractsContent (httpRead [53] (by decide) 60) .staleTen ∧
      ¬ ExtractsContent (httpRead [53] (by decide) 60) (.filled 48) ∧
      ¬ ExtractsContent (httpRead [54, 48] (by decide) 60) (.filled 0) ∧
      ¬ ExtractsContent (httpRead (List.replicate 51 32) (by decide) 60) (.filled 0) := by
  refine ⟨fun h => ?_, fun h => h.inBounds (by decide), fun h => h.inBounds (by decide),
    fun h => h.inBounds (by decide)⟩
  obtain ⟨cont', hreturn, -⟩ := h.content 5 (by decide) (by decide) (by decide)
  -- 10 of the 60 bytes are left, not 55.
  have hleft : (getRestContent Cont.staleTen.bytes (httpRead [53] (by decide) 60).bytes).map
      (·.2.length) = .ok 10 := by decide
  rw [hreturn] at hleft
  have hlength : ((httpRead [53] (by decide) 60).body.drop 5).length = 10 := Except.ok.inj hleft
  exact absurd hlength (by decide)

end Bbd.Modem
