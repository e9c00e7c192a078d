import Bbd.Lib.Dialogue
import Bbd.Modem.InetGsm

/-!
# Runs of HTTP requests

`httpGET` opens an HTTP session of the modem with `AT+HTTPINIT` and ends it with `AT+HTTPTERM`, but
a call that fails in between returns without ending it: over a run, the sessions opened and not
ended are as many as the calls that returned 2, 3 or 5 (`httpGET_sessions`).  On a modem that says
`OK` to ended lines only no call gets further than 2, since `httpGET` does not end the line with the
address (`httpGET_unended`).
-/

namespace Bbd.Modem

/-! ## One call -/

/-- A call of `httpGET`. -/
structure Get where
  server : String
  port : ℤ
  path : String
  rsp : List UInt8
  stream : List UInt8

/-- What is written for the address. -/
def Get.address (r : Get) : List Action :=
  [.print "GET ", .print "AT+HTTPPARA=\"URL\",\"http://", .print r.server, .print ":",
    .print (toString r.port), .print r.path, .print "\"", .print "\x1a"]

/-- The four exchanges of `httpGET`. -/
def Get.init : List Action := ask [.println "AT+HTTPINIT"] 5000 50

def Get.para (r : Get) : List Action := ask r.address 20000 50

def Get.action : List Action := ask [.println "AT+HTTPACTION=0"] 5000 50

def Get.term : List Action := ask [.println "AT+HTTPTERM"] 20000 50

/-- `httpGET` on the line. -/
def Line.get (l : Line) (r : Get) : Except Stuck (ℤ × Line × List UInt8 × List UInt8) :=
  l.httpGET r.server r.port r.path r.rsp r.stream

theorem get_eq (l : Line) (r : Get) :
    l.get r =
      if ¬ accepted "OK" (l.answers 0) then .ok (1, l.does Get.init, r.rsp, r.stream)
      else if ¬ (-999 ≤ r.port ∧ r.port ≤ 9999) then .error .undefined
      else if ¬ accepted "OK" (l.answers 1) then
        .ok (2, l.does (Get.init ++ r.para), r.rsp, r.stream)
      else if ¬ accepted "OK" (l.answers 2) then
        .ok (3, l.does (Get.init ++ (r.para ++ Get.action)), r.rsp, r.stream)
      else
        (getRestContent r.rsp r.stream).map fun rest =>
          (if ¬ accepted "OK" (l.answers 3) then 5 else 0,
            l.does (Get.init ++ (r.para ++ (Get.action ++ Get.term))), rest) := by
  simp only [Line.get, Line.httpGET, waitRespFor_eq, ofAnswer_ne_iff, itoa_five]
  by_cases hport : -999 ≤ r.port ∧ r.port ≤ 9999
  · simp only [if_pos hport, if_neg (not_not.2 hport)]
    cases getRestContent r.rsp r.stream <;> rfl
  · simp only [if_neg hport, if_pos hport]
    rfl

theorem get_cases {l l' : Line} {r : Get} {code : ℤ} {rest : List UInt8 × List UInt8}
    (h : l.get r = .ok (code, l', rest)) :
    (¬ accepted "OK" (l.answers 0) ∧ code = 1 ∧ l' = l.does Get.init) ∨
    accepted "OK" (l.answers 0) ∧
      ((¬ accepted "OK" (l.answers 1) ∧ code = 2 ∧ l' = l.does (Get.init ++ r.para)) ∨
      accepted "OK" (l.answers 1) ∧
        (code = 3 ∧ l' = l.does (Get.init ++ (r.para ++ Get.action)) ∨
        (if accepted "OK" (l.answers 3) then code = 0 else code = 5) ∧
          l' = l.does (Get.init ++ (r.para ++ (Get.action ++ Get.term))))) := by
  rw [get_eq] at h
  by_cases h₀ : accepted "OK" (l.answers 0)
  · refine Or.inr ⟨h₀, ?_⟩
    rw [if_neg (not_not.2 h₀)] at h
    by_cases hport : -999 ≤ r.port ∧ r.port ≤ 9999
    · rw [if_neg (not_not.2 hport)] at h
      by_cases h₁ : accepted "OK" (l.answers 1)
      · refine Or.inr ⟨h₁, ?_⟩
        rw [if_neg (not_not.2 h₁)] at h
        by_cases h₂ : accepted "OK" (l.answers 2)
        · rw [if_neg (not_not.2 h₂)] at h
          cases hrest : getRestContent r.rsp r.stream with
          | error stuck =>
            rw [hrest] at h
            cases h
          | ok content =>
            rw [hrest] at h
            cases h
            refine Or.inr ⟨?_, rfl⟩
            split_ifs <;> rfl
        · rw [if_pos h₂] at h
          cases h
          exact Or.inl ⟨rfl, rfl⟩
      · rw [if_pos h₁] at h
        cases h
        exact Or.inl ⟨h₁, rfl, rfl⟩
    · rw [if_pos hport] at h
      cases h
  · rw [if_pos h₀] at h
    cases h
    exact Or.inl ⟨h₀, rfl, rfl⟩

/-- Calls of `httpGET`, one after another: their values, and the line. -/
def Line.gets (l : Line) : List Get → Except Stuck (List ℤ × Line)
  | [] => .ok ([], l)
  | r :: rs => do
    let (code, l, _) ← l.get r
    let (codes, l) ← l.gets rs
    .ok (code :: codes, l)

theorem gets_cons {l l' : Line} {r : Get} {rs : List Get} {codes : List ℤ}
    (h : l.gets (r :: rs) = .ok (codes, l')) :
    ∃ code l₁ rest codes', l.get r = .ok (code, l₁, rest) ∧ l₁.gets rs = .ok (codes', l') ∧
      codes = code :: codes' := by
  rw [Line.gets] at h
  cases hget : l.get r with
  | error stuck =>
    rw [hget] at h
    cases h
  | ok result =>
    obtain ⟨code, l₁, rest⟩ := result
    rw [hget] at h
    cases hgets : l₁.gets rs with
    | error stuck =>
      simp only [bind, Except.bind, hgets] at h
      cases h
    | ok result =>
      simp only [bind, Except.bind, hgets] at h
      cases h
      exact ⟨code, l₁, rest, _, rfl, hgets, rfl⟩

/-! ## Sessions -/

/-- How often a command is answered by an `OK` during the actions; `asked` tells that it was written
last. -/
def Line.taken (command : String) (l : Line) (asked : Bool) : List Action → ℕ
  | [] => 0
  | .waitResp start gap :: acts =>
    (if asked ∧ accepted "OK" (l.answers 0) then 1 else 0) +
      Line.taken command (l.waitResp start gap).2 false acts
  | a :: acts => Line.taken command (l.perform a) (a = .println command) acts

/-- How often a session is opened. -/
def Line.openings (l : Line) (acts : List Action) : ℕ := Line.taken "AT+HTTPINIT" l false acts

/-- How often a session is ended. -/
def Line.endings (l : Line) (acts : List Action) : ℕ := Line.taken "AT+HTTPTERM" l false acts

/-- The value of a call that leaves its session open. -/
def LeavesOpen (code : ℤ) : Prop := code = 2 ∨ code = 3 ∨ code = 5

instance (code : ℤ) : Decidable (LeavesOpen code) := inferInstanceAs (Decidable (_ ∨ _))

/-- How many of the calls returned with the session open. -/
def leftOpen (codes : List ℤ) : ℕ := codes.countP fun code => LeavesOpen code

theorem leftOpen_cons (code : ℤ) (codes : List ℤ) :
    leftOpen (code :: codes) = leftOpen codes + if LeavesOpen code then 1 else 0 := by
  simp [leftOpen, List.countP_cons]

theorem taken_println (command other : String) (l : Line) (start gap : UInt16)
    (acts : List Action) :
    Line.taken command l false (ask [.println other] start gap ++ acts) =
      (if other = command ∧ accepted "OK" (l.answers 0) then 1 else 0) +
        Line.taken command (l.does (ask [.println other] start gap)) false acts := by
  rw [show ask [.println other] start gap ++ acts =
    .println other :: .waitResp start gap :: acts from rfl, Line.taken, Line.taken]
  · simp only [decide_eq_true_eq, Action.println.injEq]
    rfl
  · rintro start gap ⟨⟩

theorem taken_ask {writes : List Action} (hwrites : ∀ a ∈ writes, ¬ a.waits) {command : String}
    (hcommand : .println command ∉ writes) (l : Line) (start gap : UInt16) (acts : List Action) :
    Line.taken command l false (ask writes start gap ++ acts) =
      Line.taken command (l.does (ask writes start gap)) false acts := by
  induction writes generalizing l with
  | nil => simp [ask, Line.taken, Line.does, Line.perform]
  | cons a writes ih =>
    rw [List.forall_mem_cons] at hwrites
    rw [List.mem_cons, not_or] at hcommand
    have hstep : Line.taken command l false (a :: (ask writes start gap ++ acts)) =
        Line.taken command (l.perform a) false (ask writes start gap ++ acts) := by
      rw [Line.taken, decide_eq_false (Ne.symm hcommand.1)]
      rintro start gap rfl
      exact hwrites.1 rfl
    exact hstep.trans (ih hwrites.2 hcommand.2 _)

theorem waits_address {r : Get} : ∀ a ∈ r.address, ¬ a.waits := by
  simp [Get.address, Action.waits]

theorem taken_para (command : String) (l : Line) (r : Get) (acts : List Action) :
    Line.taken command l false (r.para ++ acts) =
      Line.taken command (l.does r.para) false acts :=
  taken_ask waits_address (by simp [Get.address]) _ _ _ _

theorem get_sessions {l l' : Line} {r : Get} {code : ℤ} {rest : List UInt8 × List UInt8}
    (h : l.get r = .ok (code, l', rest)) :
    ∃ acts opened ended, l' = l.does acts ∧
      opened = ended + (if LeavesOpen code then 1 else 0) ∧ ∀ later,
        l.openings (acts ++ later) = opened + l'.openings later ∧
          l.endings (acts ++ later) = ended + l'.endings later := by
  rcases get_cases h with
    ⟨hinit, rfl, rfl⟩ | ⟨hinit, ⟨-, rfl, rfl⟩ | ⟨-, ⟨rfl, rfl⟩ | ⟨hcode, rfl⟩⟩⟩
  · exact ⟨_, 0, 0, rfl, by decide, fun later => by
      simp [Line.openings, Line.endings, Get.init, taken_println, hinit]⟩
  · exact ⟨_, 1, 0, rfl, by decide, fun later => by
      simp [Line.openings, Line.endings, Get.init, taken_println, taken_para, does_append, hinit]⟩
  · exact ⟨_, 1, 0, rfl, by decide, fun later => by
      simp [Line.openings, Line.endings, Get.init, Get.action, taken_println, taken_para,
        does_append, hinit]⟩
  · refine ⟨_, 1, if accepted "OK" (l.answers 3) then 1 else 0, rfl, ?_, fun later => ?_⟩
    · split_ifs at hcode ⊢ <;> simp_all [LeavesOpen]
    · simp [Line.openings, Line.endings, Get.init, Get.action, Get.term, taken_println, taken_para,
        does_append, hinit]
      rfl

theorem gets_sessions {l l' : Line} {rs : List Get} {codes : List ℤ}
    (h : l.gets rs = .ok (codes, l')) :
    ∃ acts opened ended, l' = l.does acts ∧ opened = ended + leftOpen codes ∧ ∀ later,
      l.openings (acts ++ later) = opened + l'.openings later ∧
        l.endings (acts ++ later) = ended + l'.endings later := by
  induction rs generalizing l codes with
  | nil =>
    cases h
    exact ⟨[], 0, 0, rfl, rfl, fun later => ⟨(Nat.zero_add _).symm, (Nat.zero_add _).symm⟩⟩
  | cons r rs ih =>
    obtain ⟨code, l₁, rest, codes, hget, hgets, rfl⟩ := gets_cons h
    obtain ⟨acts, opened, ended, rfl, hcode, hfirst⟩ := get_sessions hget
    obtain ⟨acts', opened', ended', rfl, hcodes, hrun⟩ := ih hgets
    refine ⟨acts ++ acts', opened + opened', ended + ended', (does_append _ _ _).symm, ?_,
      fun later => ?_⟩
    · rw [leftOpen_cons]
      omega
    · rw [List.append_assoc, (hfirst _).1, (hfirst _).2, (hrun _).1, (hrun _).2, Nat.add_assoc,
        Nat.add_assoc]
      exact ⟨rfl, rfl⟩

theorem acts_eq {l : Line} {acts acts' : List Action} (h : (l.does acts).log = l.log ++ acts') :
    acts = acts' := by
  rw [log_does] at h
  exact List.append_cancel_left h

/-- A request for the root of a host. -/
def Get.root : Get := ⟨"host", 80, "/", [], []⟩

/-- A line to a modem that says `OK` to the first command only. -/
def Line.toOkModem : Line := ⟨[], fun n => if n = 0 then ascii "OK" else [], []⟩

theorem gets_toOkModem : Line.toOkModem.gets [.root] =
    .ok ([2], Line.toOkModem.does (Get.init ++ Get.root.para)) := by
  have hget : Line.toOkModem.get .root =
      .ok (2, Line.toOkModem.does (Get.init ++ Get.root.para), [], []) := by
    rw [get_eq, if_neg (by decide), if_neg (by decide), if_pos (by decide)]
    rfl
  simp only [Line.gets, hget, bind, Except.bind]

/-- Over any run of calls, the sessions opened (`AT+HTTPINIT` answered by an `OK`) are those ended
(`AT+HTTPTERM` answered by one) and one for each call that returned because the modem did not take
the address, the request or the end. -/
theorem httpGET_sessions (l l' : Line) (rs : List Get) (codes : List ℤ)
    (hreturn : l.gets rs = .ok (codes, l')) (acts : List Action)
    (hlog : l'.log = l.log ++ acts) :
    l.openings acts = l.endings acts + leftOpen codes := by
  obtain ⟨acts', opened, ended, rfl, hcodes, hrun⟩ := gets_sessions hreturn
  obtain rfl := acts_eq hlog
  obtain ⟨hopened, hended⟩ := hrun []
  rw [List.append_nil] at hopened hended
  rw [hopened, hended, hcodes]
  rfl

/-- A request whose address gets no answer leaves its session open. -/
theorem httpGET_sessions_root :
    Line.toOkModem.openings (Get.init ++ Get.root.para) =
      Line.toOkModem.endings (Get.init ++ Get.root.para) + leftOpen [2] :=
  httpGET_sessions .toOkModem _ [.root] [2] gets_toOkModem _ (log_does _ _)

/-! ## Modems -/

/-- What the line to a modem in state `s` hears during the actions is what the modem answers. -/
def Line.Hears {σ : Type*} (l : Line) (modem : Dialogue.Peer σ Char (List UInt8)) (s : σ)
    (acts : List Action) : Prop :=
  Dialogue.Hears Action.text Action.waits modem s [] l.answers acts

section Exchanges

variable {σ : Type*} (modem : Dialogue.Peer σ Char (List UInt8)) (s : σ) (l : Line)

/-- The modem after the actions, and what was written since it answered last. -/
def modemAfter (acts : List Action) : σ × List Char :=
  Dialogue.after Action.text Action.waits modem s [] acts

variable {writes : List Action} (hwrites : ∀ a ∈ writes, ¬ a.waits) (start gap : UInt16)

include hwrites

theorem hears_ask (acts : List Action) :
    l.Hears modem s (ask writes start gap ++ acts) ↔
      l.answers 0 = modem.answer s (writes.flatMap Action.text) ∧
        (l.does (ask writes start gap)).Hears modem (modem.next s (writes.flatMap Action.text))
          acts := by
  rw [Line.Hears, ask, Dialogue.hears_exchange hwrites rfl, List.nil_append, Line.Hears,
    answers_does, Dialogue.countP_exchange hwrites rfl]

theorem modemAfter_ask (acts : List Action) :
    modemAfter modem s (ask writes start gap ++ acts) =
      modemAfter modem (modem.next s (writes.flatMap Action.text)) acts :=
  Dialogue.after_exchange hwrites rfl acts

omit hwrites in
theorem hears_append {s' : σ} {xs : List Action} (hs : modemAfter modem s xs = (s', []))
    (ys : List Action) :
    l.Hears modem s (xs ++ ys) ↔ l.Hears modem s xs ∧ (l.does xs).Hears modem s' ys := by
  rw [modemAfter] at hs
  rw [Line.Hears, Dialogue.hears_append, hs, Line.Hears, Line.Hears, answers_does]

omit hwrites in
theorem Line.Hears.left {modem : Dialogue.Peer σ Char (List UInt8)} {s : σ} {l : Line}
    {xs ys : List Action} (h : l.Hears modem s (xs ++ ys)) : l.Hears modem s xs :=
  ((Dialogue.hears_append xs ys).1 h).1

end Exchanges

section Println

variable {σ : Type*} (modem : Dialogue.Peer σ Char (List UInt8)) (s : σ) (command : String)
  (start gap : UInt16) (acts : List Action)

theorem hears_println (l : Line) :
    l.Hears modem s (ask [.println command] start gap ++ acts) ↔
      l.answers 0 = modem.answer s (commandLine command) ∧
        (l.does (ask [.println command] start gap)).Hears modem
          (modem.next s (commandLine command)) acts := by
  rw [hears_ask modem s l (by simp [Action.waits]), List.flatMap_singleton, Action.text]

theorem modemAfter_println :
    modemAfter modem s (ask [.println command] start gap ++ acts) =
      modemAfter modem (modem.next s (commandLine command)) acts := by
  rw [modemAfter_ask modem s (by simp [Action.waits]), List.flatMap_singleton, Action.text]

theorem modemAfter_para (r : Get) :
    modemAfter modem s (Get.init ++ r.para) =
      (modem.next (modem.next s (commandLine "AT+HTTPINIT")) (r.address.flatMap Action.text),
        []) := by
  rw [Get.init, modemAfter_println, Get.para]
  exact modemAfter_ask _ _ waits_address _ _ []

end Println

/-! ### A modem that says `OK` to ended lines only -/

theorem notMem_toString (value : ℤ) : '\r' ∉ (toString value).toList := by
  have hdigits (n : ℕ) : '\r' ∉ n.repr.toList := fun h =>
    absurd (Nat.isDigit_of_mem_toDigits (b := 10) (by decide) (by decide) (by simpa using h))
      (by decide)
  rw [Int.toString_eq_repr, Int.repr_eq_if]
  split_ifs
  · exact hdigits _
  · rw [String.toList_append, List.mem_append, not_or]
    exact ⟨by decide, hdigits _⟩

theorem notMem_address {r : Get} (hr : '\r' ∉ r.server.toList ∧ '\r' ∉ r.path.toList) :
    '\r' ∉ r.address.flatMap Action.text := by
  have hport := notMem_toString r.port
  simp only [Get.address, Action.text, List.flatMap_cons, List.flatMap_nil, List.mem_append,
    not_or]
  exact ⟨by decide, by decide, hr.1, by decide, hport, hr.2, by decide, by decide,
    List.not_mem_nil⟩

section Unended

variable {σ : Type*} (modem : Dialogue.Peer σ Char (List UInt8))
  (hended : ∀ s text, '\r' ∉ text → ¬ accepted "OK" (modem.answer s text))

include hended

theorem get_unended {l l' : Line} {r : Get}
    (hr : '\r' ∉ r.server.toList ∧ '\r' ∉ r.path.toList) {code : ℤ}
    {rest : List UInt8 × List UInt8} (h : l.get r = .ok (code, l', rest)) :
    ∃ acts, l' = l.does acts ∧ ∀ s, l.Hears modem s acts →
      ∃ s', modemAfter modem s acts = (s', []) ∧
        (code = 1 ∧ acts = Get.init ∨ code = 2 ∧ acts = Get.init ++ r.para) := by
  have hrefused {s : σ} {acts : List Action}
      (hs : l.Hears modem s (Get.init ++ (r.para ++ acts))) : ¬ accepted "OK" (l.answers 1) := by
    have hpara := ((hears_println _ _ _ _ _ _ _).1 hs).2
    have hanswer : l.answers 1 = _ := ((hears_ask _ _ _ waits_address _ _ _).1 hpara).1
    rw [hanswer]
    exact hended _ _ (notMem_address hr)
  rcases get_cases h with
    ⟨-, hcode, hl⟩ | ⟨-, ⟨-, hcode, hl⟩ | ⟨h₁, ⟨-, hl⟩ | ⟨-, hl⟩⟩⟩
  · exact ⟨_, hl, fun s _ => ⟨_, modemAfter_println _ _ _ _ _ [], Or.inl ⟨hcode, rfl⟩⟩⟩
  · exact ⟨_, hl, fun s _ => ⟨_, modemAfter_para _ _ _, Or.inr ⟨hcode, rfl⟩⟩⟩
  · exact ⟨_, hl, fun s hs => absurd h₁ (hrefused hs)⟩
  · exact ⟨_, hl, fun s hs => absurd h₁ (hrefused hs)⟩

theorem gets_unended {l l' : Line} {rs : List Get}
    (hrs : ∀ r ∈ rs, '\r' ∉ r.server.toList ∧ '\r' ∉ r.path.toList) {codes : List ℤ}
    (h : l.gets rs = .ok (codes, l')) :
    ∃ acts, l' = l.does acts ∧ ∀ s, l.Hears modem s acts →
      (∀ code ∈ codes, code = 1 ∨ code = 2) ∧ .println "AT+HTTPACTION=0" ∉ acts := by
  induction rs generalizing l codes with
  | nil =>
    cases h
    exact ⟨[], rfl, fun _ _ => ⟨fun _ h => absurd h List.not_mem_nil, List.not_mem_nil⟩⟩
  | cons r rs ih =>
    rw [List.forall_mem_cons] at hrs
    obtain ⟨code, l₁, rest, codes, hget, hgets, rfl⟩ := gets_cons h
    obtain ⟨acts, rfl, hfirst⟩ := get_unended modem hended hrs.1 hget
    obtain ⟨acts', rfl, hrun⟩ := ih hrs.2 hgets
    refine ⟨acts ++ acts', (does_append _ _ _).symm, fun s hs => ?_⟩
    obtain ⟨s', hafter, hcode⟩ := hfirst s hs.left
    obtain ⟨hcodes, hacts'⟩ := hrun s' ((hears_append _ _ _ hafter _).1 hs).2
    rw [List.forall_mem_cons, List.mem_append, not_or]
    refine ⟨⟨hcode.imp And.left And.left, hcodes⟩, ?_, hacts'⟩
    rcases hcode with ⟨-, rfl⟩ | ⟨-, rfl⟩
    · decide
    · simp [Get.init, Get.para, Get.address, ask]

end Unended

/-- No run of calls gets past the address, whatever its length, on a modem that says `OK` to ended
lines only: `httpGET` ends the line with the address by a `\x1a`, not by a `\r`. -/
theorem httpGET_unended {σ : Type*} (modem : Dialogue.Peer σ Char (List UInt8))
    (hended : ∀ s text, '\r' ∉ text → ¬ accepted "OK" (modem.answer s text)) (s : σ) (l l' : Line)
    (rs : List Get) (hrs : ∀ r ∈ rs, '\r' ∉ r.server.toList ∧ '\r' ∉ r.path.toList)
    (codes : List ℤ) (hreturn : l.gets rs = .ok (codes, l')) (acts : List Action)
    (hlog : l'.log = l.log ++ acts) (hears : l.Hears modem s acts) :
    (∀ code ∈ codes, code = 1 ∨ code = 2) ∧ .println "AT+HTTPACTION=0" ∉ acts := by
  obtain ⟨acts', rfl, hrun⟩ := gets_unended modem hended hrs hreturn
  rw [acts_eq hlog] at hrun
  exact hrun s hears

/-- A modem that says `OK` to whatever ends a line. -/
def okModem : Dialogue.Peer Unit Char (List UInt8) where
  next s _ := s
  answer _ text := if '\r' ∈ text then ascii "OK" else []

theorem okModem_ended (s : Unit) (text : List Char) (htext : '\r' ∉ text) :
    ¬ accepted "OK" (okModem.answer s text) := by
  rw [show okModem.answer s text = [] from if_neg htext]
  decide

theorem hears_toOkModem : Line.toOkModem.Hears okModem () (Get.init ++ Get.root.para) := by
  rw [Line.Hears]
  decide

/-- Such a modem does not answer the address. -/
theorem httpGET_unended_root :
    (∀ code ∈ ([2] : List ℤ), code = 1 ∨ code = 2) ∧
      .println "AT+HTTPACTION=0" ∉ Get.init ++ Get.root.para :=
  httpGET_unended okModem okModem_ended () .toOkModem _ [.root] (by decide) _ gets_toOkModem _
    (log_does _ _) hears_toOkModem

end Bbd.Modem
