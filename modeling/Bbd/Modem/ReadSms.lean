import Bbd.Lib.Atoi
import Bbd.Lib.CString
import Bbd.Modem.InetGsm
import Mathlib.Data.Bool.AllAny
import Mathlib.Data.List.TakeWhile

/-!
# Reading a message

`readSMS` lists the unread messages and takes the first one out of `comm_buf` with the functions of
`string.h`.  From the answer to such a command it gets the number and the first line of the text, up
to the end of the buffer, whatever sizes it is told, and deletes the message whose index is the
first digit of the one it has read (`readSMS_law`).
-/

namespace Bbd.Modem

open CString Atoi

/-- The index in the answer, with the memory and the address behind it.  The last character of
`'+CMGL'` is the one that `strchr` looks for. -/
def smsIndex (mem : List UInt8) : Option (ℤ × List UInt8 × ℕ) := do
  let pChar ← strchr mem 0 76
  let pChar1 := (← pChar) + 3
  let pChar := pChar1 + 1
  let mem ← poke mem pChar 0
  let index ← atoi 32767 (mem.drop pChar1)
  some (index, mem, pChar + 1)

/-- `*p = 0`, unless `p` is null. -/
def pokeZero (mem : List UInt8) : Option ℕ → Option (List UInt8)
  | some p => poke mem p 0
  | none => some mem

/-- The number, between the next two `","`, with the memory and the address behind it. -/
def smsNumber (mem : List UInt8) (pChar1 : ℕ) (number : List UInt8) :
    Option (List UInt8 × List UInt8 × ℕ) := do
  let pChar ← strstr mem pChar1 (ascii "\",\"")
  let pChar1 := (← pChar) + 3
  let pChar ← strstr mem pChar1 (ascii "\",\"")
  let mem ← pokeZero mem pChar
  let number ← strcpy number (← stringAt mem pChar1)
  some (number, mem, (← pChar) + 3)

/-- The text, in the line behind the next `","`. -/
def smsText (mem : List UInt8) (pChar1 : ℕ) (msg : List UInt8) : Option (List UInt8) := do
  let pChar ← strstr mem pChar1 (ascii "\",\"")
  let pChar1 := (← pChar) + 3
  let pChar ← strstr mem pChar1 (ascii "\n")
  let pChar1 := (← pChar) + 1
  let pChar ← strstr mem pChar1 (ascii "\n")
  let mem ← pokeZero mem pChar
  strcpy msg (← stringAt mem pChar1)

/-- `SIMCOM900::readSMS`, with the bytes of `comm_buf` behind the string in it: its value, the line
and the two buffers, whose lengths `msglength` and `nlength` it does not look at.  `none` is
undefined behaviour. -/
def Line.readSMS (l : Line) (stale msg : List UInt8) (_msglength : ℤ) (number : List UInt8)
    (_nlength : ℤ) : Option (Bool × Line × List UInt8 × List UInt8) :=
  let l := (l.waitResp 500 500).2
  let l := ((l.println "AT+CMGL=\"REC UNREAD\",1").waitResp 5000 500).2
  if l.isStringReceived "+CMGL" then do
    let (index, mem, pChar1) ← smsIndex (l.commBuf ++ 0 :: stale)
    let (number, mem, pChar1) ← smsNumber mem pChar1 number
    let msg ← smsText mem pChar1 msg
    let l := (((l.print "AT+CMGD=").println (toString index)).waitRespFor 5000 50 "OK").2
    some (true, l, msg, number)
  else some (false, l, msg, number)

/-- An answer to the command that lists messages: the first of them, whose index has the digit
`first` in front, and what comes behind the line with its details. -/
structure Sms where
  lead : List UInt8
  first : UInt8
  more : List UInt8
  number : List UInt8
  alpha : List UInt8
  date : List UInt8
  after : List UInt8
  lead_ok : ∀ c ∈ lead, c ≠ 0 ∧ c ≠ 76
  first_ok : isDigit first
  more_ok : ∀ d ∈ more, isDigit d
  canonical : first = 48 → more = []
  number_ok : ∀ c ∈ number, c ≠ 0 ∧ c ≠ 34
  alpha_ok : ∀ c ∈ alpha, c ≠ 0 ∧ c ≠ 34
  date_ok : ∀ c ∈ date, c ≠ 0 ∧ c ≠ 10

namespace Sms

variable (s : Sms)

/-- The line with the details, and what is in front of it. -/
def header : List UInt8 :=
  s.lead ++ ascii "+CMGL: " ++ s.first :: s.more ++ ascii ",\"REC UNREAD\",\"" ++ s.number ++
    ascii "\",\"" ++ s.alpha ++ ascii "\",\"" ++ s.date ++ ascii "\"\r\n"

/-- The index of the message. -/
def index : ℕ := value 0 (s.first :: s.more)

/-- The text, up to the end of its first line or of the buffer. -/
def text : List UInt8 := (s.after.take (200 - s.header.length)).takeWhile fun c => c ≠ 0 ∧ c ≠ 10

theorem text_ok : ∀ c ∈ s.text, c ≠ 0 ∧ c ≠ 10 := fun c hc => by
  rw [text] at hc
  simpa using List.mem_takeWhile_imp hc

theorem first_eq_index_iff : s.first.toNat - 48 = s.index ↔ s.more = [] := by
  have hfirst : 48 ≤ s.first.toNat := by
    have := s.first_ok
    rw [isDigit, Bool.and_eq_true, decide_eq_true_eq] at this
    exact this.1
  rw [index, value, List.foldl_cons, ← value, Nat.mul_zero, Nat.zero_add]
  cases hmore : s.more with
  | nil => exact iff_of_true rfl rfl
  | cons d ds =>
    have hne : s.first.toNat ≠ 48 := fun h =>
      absurd (s.canonical (UInt8.toNat_inj.1 h)) (by rw [hmore]; exact List.cons_ne_nil d ds)
    have hle : 10 * (s.first.toNat - 48) + (d.toNat - 48) ≤ value (s.first.toNat - 48) (d :: ds) :=
      le_value _ _
    exact iff_of_false (by omega) (List.cons_ne_nil d ds)

theorem exists_header : ∃ t v, 0 ∉ v ∧ 34 ∉ v ∧ ∀ rest, s.header ++ rest =
    s.lead ++ ascii "+CMGL: " ++ s.first :: t :: (v ++ 34 :: ascii "REC UNREAD" ++
      (ascii "\",\"" ++ (s.number ++ (ascii "\",\"" ++ (s.alpha ++ (ascii "\",\"" ++
        (s.date ++ ascii "\"\r" ++ (ascii "\n" ++ rest)))))))) := by
  have hdigit : ∀ d ∈ s.more, d ≠ 0 ∧ d ≠ 34 := fun d hd => by
    have := s.more_ok d hd
    constructor <;> rintro rfl <;> exact absurd this (by decide)
  cases hmore : s.more with
  | nil =>
    refine ⟨44, [], List.not_mem_nil, List.not_mem_nil, fun rest => ?_⟩
    simp [header, hmore, ascii]
  | cons d ds =>
    rw [hmore] at hdigit
    refine ⟨d, ds ++ [44], ?_, ?_, fun rest => by simp [header, hmore, ascii]⟩
    · rw [List.mem_append, not_or]
      exact ⟨fun h => (hdigit 0 (List.mem_cons_of_mem d h)).1 rfl, by decide⟩
    · rw [List.mem_append, not_or]
      exact ⟨fun h => (hdigit 34 (List.mem_cons_of_mem d h)).2 rfl, by decide⟩

theorem received_header {bs : List UInt8} (rest : List UInt8) (h : bs = s.header ++ rest) :
    received bs (ascii "+CMGL") := by
  obtain ⟨t, v, -, -, hheader⟩ := s.exists_header
  have hfront : ∀ c ∈ s.lead ++ ascii "+CMGL", decide (c ≠ 0) = true := by
    intro c hc
    rcases List.mem_append.1 hc with hc | hc
    · exact decide_eq_true (s.lead_ok c hc).1
    · exact List.all_eq_true.1 (by decide : (ascii "+CMGL").all fun c => decide (c ≠ 0)) c hc
  obtain ⟨rest', hbs⟩ : ∃ rest', bs = s.lead ++ ascii "+CMGL" ++ rest' :=
    ⟨_, by rw [h, hheader]; simp [ascii]; rfl⟩
  rw [received, hbs, List.takeWhile_append_of_pos hfront, Bool.and_eq_true]
  exact ⟨by simp [ascii], decide_eq_true ⟨s.lead, _, rfl⟩⟩

theorem atoi_first {rest : List UInt8} :
    atoi 32767 (s.first :: 0 :: rest) = some ((s.first.toNat - 48 : ℕ) : ℤ) := by
  have hdecimal : Decimal [s.first] (s.first.toNat - 48) := by
    refine ⟨List.cons_ne_nil _ _, fun d hd => ?_, by simp [value]⟩
    rw [List.mem_singleton.1 hd]
    exact s.first_ok
  have := s.first.toNat_lt
  exact (atoi_eq_some_iff _ _ _).2
    ⟨hdecimal.numeral (c := 0) (by decide) rest, by omega, by omega⟩

end Sms

/-! ## The parts of the answer -/

section Parts

variable {mem pre : List UInt8} {p : ℕ}

/-- `strchr` finds the `L` of `+CMGL`, three places in front of the index. -/
theorem smsIndex_eq (s : Sms) {t : UInt8} {rest : List UInt8}
    (hmem : mem = s.lead ++ ascii "+CMGL: " ++ s.first :: t :: rest) :
    smsIndex mem = some (((s.first.toNat - 48 : ℕ) : ℤ),
      s.lead ++ ascii "+CMGL: " ++ s.first :: 0 :: rest,
      (s.lead ++ ascii "+CMGL: " ++ [s.first, 0]).length) := by
  have hchr : strchr mem 0 76 = some (some (0 + (s.lead ++ ascii "+CMG").length)) := by
    have hplace : mem =
        [] ++ (s.lead ++ ascii "+CMG" ++ 76 :: (ascii ": " ++ s.first :: t :: rest)) := by
      rw [hmem]
      simp [ascii]
    refine strchr_eq hplace rfl ?_ ?_
    · rw [List.mem_append, not_or]
      exact ⟨fun h => (s.lead_ok 0 h).1 rfl, by decide⟩
    · rw [List.mem_append, not_or]
      exact ⟨fun h => (s.lead_ok 76 h).2 rfl, by decide⟩
  have hmem' : mem = s.lead ++ ascii "+CMGL: " ++ [s.first] ++ t :: rest := by
    rw [hmem]
    simp
  have hpoke : poke mem (0 + (s.lead ++ ascii "+CMG").length + 3 + 1) 0 =
      some (s.lead ++ ascii "+CMGL: " ++ [s.first] ++ 0 :: rest) :=
    poke_eq hmem' (by simp [ascii]) 0
  have hdrop : (s.lead ++ ascii "+CMGL: " ++ [s.first] ++ 0 :: rest).drop
      (0 + (s.lead ++ ascii "+CMG").length + 3) = s.first :: 0 :: rest := by
    rw [List.append_assoc]
    exact drop_of_length_eq rfl (by simp [ascii])
  simp only [smsIndex, hchr, hpoke, hdrop, s.atoi_first, Option.bind_eq_bind, Option.bind_some]
  simp [ascii]

/-- The first `","` stands behind `REC UNREAD`, which a quote and no comma precedes. -/
theorem smsNumber_eq (s : Sms) {v : List UInt8} (rest : List UInt8) (hv0 : 0 ∉ v) (hv : 34 ∉ v)
    (hmem : mem = pre ++ (v ++ 34 :: ascii "REC UNREAD" ++ (ascii "\",\"" ++
      (s.number ++ (ascii "\",\"" ++ rest))))) (hp : p = pre.length) (number : List UInt8) :
    ∃ pre', smsNumber mem p number = (strcpy number s.number).bind fun number =>
      some (number, pre' ++ rest, pre'.length) := by
  have hnumber : 0 ∉ s.number ∧ 34 ∉ s.number :=
    ⟨fun h => (s.number_ok 0 h).1 rfl, fun h => (s.number_ok 34 h).2 rfl⟩
  obtain ⟨pre₁, hpre₁⟩ : ∃ pre₁, pre₁ = pre ++ (v ++ 34 :: ascii "REC UNREAD") ++ ascii "\",\"" :=
    ⟨_, rfl⟩
  have hmem₁ : mem = pre₁ ++ (s.number ++ (ascii "\",\"" ++ rest)) := by
    rw [hmem, hpre₁]
    simp
  have hfirst : strstr mem p (ascii "\",\"") =
      some (some (p + (v ++ 34 :: ascii "REC UNREAD").length)) := by
    refine strstr_eq_of_cons (c := 34) [44, 34] hmem hp ?_ hv (by decide) ?_
    · rw [List.mem_append, not_or]
      exact ⟨hv0, by decide⟩
    · exact decide_eq_false fun h => absurd (List.cons_prefix_cons.1 h).1 (by decide)
  have hp₁ : p + (v ++ 34 :: ascii "REC UNREAD").length + 3 = pre₁.length := by
    rw [hp, hpre₁]
    simp [ascii, Nat.add_assoc]
  have hsecond : strstr mem pre₁.length (ascii "\",\"") =
      some (some (pre₁.length + s.number.length)) :=
    strstr_eq (c := 34) [44, 34] hmem₁ rfl hnumber.1 hnumber.2
  have hpoke : poke mem (pre₁.length + s.number.length) 0 =
      some (pre₁ ++ s.number ++ 0 :: (ascii ",\"" ++ rest)) :=
    poke_eq (c := 34) (by rw [hmem₁]; simp [ascii]) (by simp) 0
  have hstring : stringAt (pre₁ ++ s.number ++ 0 :: (ascii ",\"" ++ rest)) pre₁.length =
      some s.number :=
    stringAt_eq (List.append_assoc _ _ _) rfl hnumber.1
  refine ⟨pre₁ ++ s.number ++ 0 :: ascii ",\"", ?_⟩
  simp only [smsNumber, hfirst, hp₁, hsecond, pokeZero, hpoke, hstring, Option.bind_eq_bind,
    Option.bind_some]
  simp [ascii, Nat.add_assoc]

/-- The line of the text ends at a line break or where the string does. -/
theorem smsText_eq (s : Sms) {text rest : List UInt8} {c : UInt8} (hzero : 0 ∉ text)
    (hline : 10 ∉ text) (hc : c = 0 ∨ c = 10)
    (hmem : mem = pre ++ (s.alpha ++ (ascii "\",\"" ++ (s.date ++ ascii "\"\r" ++ (ascii "\n" ++
      (text ++ c :: rest)))))) (hp : p = pre.length) (msg : List UInt8) :
    smsText mem p msg = strcpy msg text := by
  have halpha : 0 ∉ s.alpha ∧ 34 ∉ s.alpha :=
    ⟨fun h => (s.alpha_ok 0 h).1 rfl, fun h => (s.alpha_ok 34 h).2 rfl⟩
  have hdate : 0 ∉ s.date ++ ascii "\"\r" ∧ 10 ∉ s.date ++ ascii "\"\r" := by
    simp only [List.mem_append, not_or]
    exact ⟨⟨fun h => (s.date_ok 0 h).1 rfl, by decide⟩,
      ⟨fun h => (s.date_ok 10 h).2 rfl, by decide⟩⟩
  obtain ⟨pre₁, hpre₁⟩ : ∃ pre₁, pre₁ = pre ++ s.alpha ++ ascii "\",\"" := ⟨_, rfl⟩
  obtain ⟨pre₂, hpre₂⟩ : ∃ pre₂, pre₂ = pre₁ ++ (s.date ++ ascii "\"\r") ++ ascii "\n" := ⟨_, rfl⟩
  have hmem₁ : mem = pre₁ ++ (s.date ++ ascii "\"\r" ++ (ascii "\n" ++ (text ++ c :: rest))) := by
    rw [hmem, hpre₁]
    simp
  have hmem₂ : mem = pre₂ ++ (text ++ c :: rest) := by
    rw [hmem₁, hpre₂]
    simp
  have hfirst : strstr mem p (ascii "\",\"") = some (some (p + s.alpha.length)) :=
    strstr_eq (c := 34) [44, 34] hmem hp halpha.1 halpha.2
  have hp₁ : p + s.alpha.length + 3 = pre₁.length := by
    rw [hp, hpre₁]
    simp [ascii, Nat.add_assoc]
  have hsecond : strstr mem pre₁.length (ascii "\n") =
      some (some (pre₁.length + (s.date ++ ascii "\"\r").length)) :=
    strstr_eq (c := 10) [] hmem₁ rfl hdate.1 hdate.2
  have hp₂ : pre₁.length + (s.date ++ ascii "\"\r").length + 1 = pre₂.length := by
    rw [hpre₂]
    simp [ascii, Nat.add_assoc]
  simp only [smsText, hfirst, hp₁, hsecond, hp₂, Option.bind_eq_bind, Option.bind_some]
  rcases hc with rfl | rfl
  · have hthird : strstr mem pre₂.length (ascii "\n") = some none :=
      strstr_eq_null (c := 10) [] hmem₂ rfl hzero hline (by decide)
    have hstring : stringAt mem pre₂.length = some text := stringAt_eq hmem₂ rfl hzero
    simp only [hthird, pokeZero, hstring, Option.bind_some]
  · have hthird : strstr mem pre₂.length (ascii "\n") =
        some (some (pre₂.length + text.length)) :=
      strstr_eq (c := 10) [] hmem₂ rfl hzero hline
    have hpoke : poke mem (pre₂.length + text.length) 0 = some (pre₂ ++ text ++ 0 :: rest) :=
      poke_eq (c := 10) (by rw [hmem₂]; simp) (by simp) 0
    have hstring : stringAt (pre₂ ++ text ++ 0 :: rest) pre₂.length = some text :=
      stringAt_eq (List.append_assoc _ _ _) rfl hzero
    simp only [hthird, pokeZero, hpoke, hstring, Option.bind_some]

end Parts

theorem exists_text (bs stale : List UInt8) :
    ∃ c rest, bs ++ 0 :: stale = bs.takeWhile (fun c => c ≠ 0 ∧ c ≠ 10) ++ c :: rest ∧
      (c = 0 ∨ c = 10) := by
  induction bs with
  | nil => exact ⟨0, stale, rfl, Or.inl rfl⟩
  | cons b bs ih =>
    by_cases hb : b ≠ 0 ∧ b ≠ 10
    · obtain ⟨c, rest, h, hc⟩ := ih
      refine ⟨c, rest, ?_, hc⟩
      rw [List.takeWhile_cons_of_pos (by simpa using hb), List.cons_append, h, List.cons_append]
    · refine ⟨b, bs ++ 0 :: stale, ?_, by tauto⟩
      rw [List.takeWhile_cons_of_neg (by simpa using hb)]
      rfl

/-- What `readSMS` does with the answer to its command when the details of a message come first in
it and fit `comm_buf`: with room in both buffers it hands over the number and the first line of the
text, which ends where the buffer does, and deletes the message of the first digit of the index, the
one it has read if that is the whole index; with no room in one of them, whatever lengths it is
told, it stores beyond it. -/
theorem readSMS_law (s : Sms) (l : Line) (hanswer : l.answers 1 = s.header ++ s.after)
    (hfits : s.header.length ≤ 200) (stale msg number : List UInt8) (msglength nlength : ℤ) :
    l.readSMS stale msg msglength number nlength =
      (if s.number.length < number.length ∧ s.text.length < msg.length then
        some (true, l.does [.waitResp 500 500, .println "AT+CMGL=\"REC UNREAD\",1",
            .waitResp 5000 500, .print "AT+CMGD=", .println (toString (s.first.toNat - 48)),
            .waitResp 5000 50],
          s.text ++ 0 :: msg.drop (s.text.length + 1),
          s.number ++ 0 :: number.drop (s.number.length + 1))
      else none) ∧
    (s.first.toNat - 48 = s.index ↔ s.more = []) := by
  refine ⟨?_, s.first_eq_index_iff⟩
  obtain ⟨t, v, hv0, hv, hheader⟩ := s.exists_header
  obtain ⟨c, rest, htext, hc⟩ := exists_text (s.after.take (200 - s.header.length)) stale
  have hbuf : (l.answers 1).take 200 = s.header ++ s.after.take (200 - s.header.length) := by
    rw [hanswer, List.take_append, List.take_of_length_le hfits]
  have hmem : (l.answers 1).take 200 ++ 0 :: stale = s.header ++ (s.text ++ c :: rest) := by
    rw [hbuf, List.append_assoc, htext, Sms.text]
  have hlisted : received ((l.answers 1).take 200) (ascii "+CMGL") := s.received_header _ hbuf
  -- What is in the memory behind the number.
  obtain ⟨tail, htail⟩ : ∃ tail, tail = s.alpha ++ (ascii "\",\"" ++ (s.date ++ ascii "\"\r" ++
    (ascii "\n" ++ (s.text ++ c :: rest)))) := ⟨_, rfl⟩
  rw [hheader, ← htail] at hmem
  have hsplit (rest : List UInt8) : s.lead ++ ascii "+CMGL: " ++ s.first :: 0 :: rest =
      s.lead ++ ascii "+CMGL: " ++ [s.first, 0] ++ rest := by simp
  obtain ⟨pre, hnumber⟩ := smsNumber_eq s tail hv0 hv (hsplit _) rfl number
  have hmsg : smsText (pre ++ tail) pre.length msg = strcpy msg s.text :=
    smsText_eq s (fun h => (s.text_ok 0 h).1 rfl) (fun h => (s.text_ok 10 h).2 rfl) hc
      (by rw [htail]) rfl msg
  have hreceived : ((((l.waitResp 500 500).2.println "AT+CMGL=\"REC UNREAD\",1").waitResp 5000
      500).2).isStringReceived "+CMGL" = true := hlisted
  have hbuffer : ((((l.waitResp 500 500).2.println "AT+CMGL=\"REC UNREAD\",1").waitResp 5000
      500).2).commBuf = (l.answers 1).take 200 := rfl
  rw [Line.readSMS]
  simp only [hreceived, if_true, hbuffer, smsIndex_eq s hmem, hnumber, Option.bind_eq_bind,
    Option.bind_some]
  rw [strcpy]
  by_cases hroom : s.number.length < number.length
  · rw [if_pos hroom, Option.bind_some, Option.bind_some]
    simp only [hmsg, strcpy]
    by_cases htextRoom : s.text.length < msg.length
    · rw [if_pos htextRoom, if_pos ⟨hroom, htextRoom⟩]
      rfl
    · rw [if_neg htextRoom, if_neg fun h => htextRoom h.2]
      rfl
  · rw [if_neg hroom, if_neg fun h => hroom h.1]
    rfl

/-- Message 12. -/
def Sms.twelve : Sms where
  lead := ascii "\r\n"
  first := 49
  more := [50]
  number := ascii "351911"
  alpha := []
  date := ascii "13/02/01,12:00:00+00"
  after := ascii "Water!\r\n\r\nOK\r\n"
  lead_ok := List.all_iff_forall_prop.1 (by decide)
  first_ok := by decide
  more_ok := List.all_iff_forall_prop.1 (by decide)
  canonical h := absurd h (by decide)
  number_ok := List.all_iff_forall_prop.1 (by decide)
  alpha_ok := List.all_iff_forall_prop.1 (by decide)
  date_ok := List.all_iff_forall_prop.1 (by decide)

/-- A line to a modem that has this message. -/
def Line.toTwelve : Line :=
  ⟨[], fun n => if n = 1 then Sms.twelve.header ++ Sms.twelve.after else [], []⟩

/-- It is read, into buffers of the very size, and message 1 is deleted. -/
theorem readSMS_law_twelve :
    Line.toTwelve.readSMS [] (List.replicate 8 1) 3 (List.replicate 7 1) 3 =
        some (true, Line.toTwelve.does [.waitResp 500 500, .println "AT+CMGL=\"REC UNREAD\",1",
          .waitResp 5000 500, .print "AT+CMGD=", .println "1", .waitResp 5000 50],
          ascii "Water!\r\x00", ascii "351911\x00") ∧
      1 ≠ Sms.twelve.index := by
  have hlaw := readSMS_law Sms.twelve .toTwelve rfl (by decide) [] (List.replicate 8 1)
    (List.replicate 7 1) 3 3
  refine ⟨hlaw.1.trans (if_pos (by decide)), fun h => ?_⟩
  exact absurd (hlaw.2.1 h) (by decide)

end Bbd.Modem
