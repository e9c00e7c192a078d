import Bbd.Lib.SqlWeights
import Mathlib.Tactic.IntervalCases

/-!
# The literals of SQL

Which texts are lexed to a literal of a given value.  A text that is put into a query as it is
becomes a literal of its own value exactly when it is a numeric constant, since a quoted literal is
read from more characters than its value has (`isNumeric_of_lexFrom`, `feed_numeric`).  A text that
is put between quotes becomes a literal of its own value only if it has no quote, since a quote in a
value is read from two (`not_mem_quote_of_lexFrom`, `feed_str`).
-/

namespace Sql

/-! ## Values -/

/-- How the body of a string with a prefix is read: backslash sequences of `E` and `U&`, digits of
`B` and `X`.  No sequence is shorter than what it stands for. -/
structure Decoding where
  decode : StringKind → List Char → List Char
  length_le : ∀ kind body, (decode kind body).length ≤ body.length

/-- Every body stands for itself. -/
def Decoding.plain : Decoding := ⟨fun _ body => body, fun _ _ => Nat.le_refl _⟩

/-- The value of a literal, as text; a token of another kind has none. -/
def Token.value (dec : Decoding) : Token → Option (List Char)
  | .number text => some text
  | .string .standard body => some body
  | .string kind body => some (dec.decode kind body)
  | .dollarString body => some body
  | _ => none

/-- A text is lexed to the tokens `before`, one literal of the value `param`, and the tokens
`after`. -/
def OccursAsData (dec : Decoding) (before after : List Token) (param text : List Char) : Prop :=
  ∃ t, lex text = some (before ++ t :: after) ∧ t.value dec = some param

theorem weight_of_value {dec : Decoding} {t : Token} {v : List Char} (h : t.value dec = some v) :
    t = .number v ∨ v.length + 2 ≤ t.weight := by
  cases t with
  | number text => exact Or.inl (congrArg Token.number (Option.some.inj h))
  | string kind body =>
    refine Or.inr ?_
    have hlen := dec.length_le kind body
    cases kind <;> obtain rfl := Option.some.inj h <;> simp only [Token.weight] <;> omega
  | dollarString body =>
    obtain rfl := Option.some.inj h
    exact Or.inr (by simp only [Token.weight]; omega)
  | word _ => cases h
  | quotedIdent _ => cases h
  | param _ => cases h
  | sym _ => cases h

/-! ## Numeric constants -/

def Digits (s : List Char) : Prop := ∀ c ∈ s, c.isDigit

/-- Digits, or digits with a point among, before or behind them. -/
inductive IsMantissa : List Char → Prop where
  | integer {a : List Char} (hne : a ≠ []) (ha : Digits a) : IsMantissa a
  | decimal {a b : List Char} (ha : Digits a) (hb : Digits b) (hne : a ≠ [] ∨ b ≠ []) :
    IsMantissa (a ++ '.' :: b)

/-- A numeric constant, without a sign in front. -/
inductive IsNumeric : List Char → Prop where
  | mantissa {m : List Char} (hm : IsMantissa m) : IsNumeric m
  | real {m sign d : List Char} {e : Char} (hm : IsMantissa m) (he : e = 'e' ∨ e = 'E')
    (hsign : sign = [] ∨ sign = ['+'] ∨ sign = ['-']) (hne : d ≠ []) (hd : Digits d) :
    IsNumeric (m ++ e :: (sign ++ d))

theorem Digits.append {a b : List Char} (ha : Digits a) (hb : Digits b) : Digits (a ++ b) :=
  List.forall_mem_append.2 ⟨ha, hb⟩

theorem digits_singleton {c : Char} (h : c.isDigit) : Digits [c] := by simpa [Digits] using h

/-- What a state has read of a numeric constant. -/
def State.Wf : State → Prop
  | .int acc | .point acc => acc ≠ [] ∧ Digits acc
  | .frac acc => ∃ a b, acc = a ++ '.' :: b ∧ Digits a ∧ Digits b ∧ b ≠ []
  | .exp acc e => IsMantissa acc ∧ (e = 'e' ∨ e = 'E')
  | .expSign acc e sign => IsMantissa acc ∧ (e = 'e' ∨ e = 'E') ∧ (sign = '+' ∨ sign = '-')
  | .real acc => ∃ m e sign d, acc = m ++ e :: (sign ++ d) ∧ IsMantissa m ∧ (e = 'e' ∨ e = 'E') ∧
      (sign = [] ∨ sign = ['+'] ∨ sign = ['-']) ∧ d ≠ [] ∧ Digits d
  | _ => True

/-- A numeric token is a numeric constant. -/
def Token.Wf : Token → Prop
  | .number text => IsNumeric text
  | _ => True

/-- The tokens that a step completes, and the state behind it. -/
def WfStep (r : List Token × State) : Prop := (∀ t ∈ r.1, t.Wf) ∧ r.2.Wf

section Wf

variable {ts : List Token}

theorem wfStep_of_nil {st : State} (h : st.Wf) : WfStep ([], st) :=
  ⟨fun _ ht => absurd ht List.not_mem_nil, h⟩

theorem wfStep_begin (c : Char) : WfStep (begin c) := by
  unfold begin
  split_ifs with hspace hident hdigit
  · exact wfStep_of_nil trivial
  · exact wfStep_of_nil trivial
  · exact wfStep_of_nil ⟨List.cons_ne_nil _ _, digits_singleton hdigit⟩
  all_goals simp [WfStep, State.Wf, Token.Wf]

theorem wfStep_emit (h : ∀ t ∈ ts, t.Wf) (c : Char) : WfStep (emit ts c) :=
  ⟨List.forall_mem_append.2 ⟨h, (wfStep_begin c).1⟩, (wfStep_begin c).2⟩

theorem wf_append {t : Token} (h : ∀ t ∈ ts, t.Wf) (ht : t.Wf) : ∀ u ∈ ts ++ [t], u.Wf :=
  List.forall_mem_append.2 ⟨h, List.forall_mem_singleton.2 ht⟩

theorem wfStep_stepDash (h : ∀ t ∈ ts, t.Wf) (c : Char) : WfStep (stepDash ts c) := by
  unfold stepDash
  split_ifs
  · exact ⟨h, trivial⟩
  · exact wfStep_emit (wf_append (t := .sym '-') h trivial) c

theorem wfStep_stepWord (h : ∀ t ∈ ts, t.Wf) (acc : List Char) (c : Char) :
    WfStep (stepWord ts acc c) := by
  unfold stepWord
  split_ifs
  · exact ⟨h, trivial⟩
  · split
    · exact ⟨h, trivial⟩
    · exact wfStep_emit (wf_append (t := .word acc) h trivial) c
  · exact ⟨h, trivial⟩
  · exact wfStep_emit (wf_append (t := .word acc) h trivial) c

theorem wfStep_stepGap (kind : StringKind) (acc : List Char) (newline : Bool) (c : Char) :
    WfStep (stepGap kind acc newline c) := by
  unfold stepGap
  split_ifs
  · exact wfStep_of_nil trivial
  · exact wfStep_of_nil trivial
  · exact wfStep_of_nil trivial
  · exact wfStep_of_nil trivial
  · exact wfStep_emit (by simp [Token.Wf]) c

theorem isMantissa_point {acc : List Char} (h : acc ≠ [] ∧ Digits acc) :
    IsMantissa (acc ++ ['.']) :=
  .decimal h.2 (fun _ hc => absurd hc List.not_mem_nil) (Or.inl h.1)

end Wf

theorem wfStep_step {st : State} (h : st.Wf) (c : Char) : WfStep (step st c) := by
  cases st with
  | start => exact wfStep_begin c
  | word acc => exact wfStep_stepWord (by simp) acc c
  | int acc =>
    simp only [step]
    split_ifs with hdigit hpoint hexp
    · exact wfStep_of_nil ⟨by simp, h.2.append (digits_singleton hdigit)⟩
    · exact wfStep_of_nil h
    · exact wfStep_of_nil ⟨.integer h.1 h.2, hexp⟩
    · exact wfStep_emit (by simpa [Token.Wf] using .mantissa (.integer h.1 h.2)) c
  | point acc =>
    simp only [step]
    split_ifs with hdigit hpoint hexp
    · exact wfStep_of_nil ⟨acc, [c], rfl, h.2, digits_singleton hdigit, List.cons_ne_nil _ _⟩
    · exact ⟨by simpa [Token.Wf] using .mantissa (.integer h.1 h.2), trivial⟩
    · exact wfStep_of_nil ⟨isMantissa_point h, hexp⟩
    · exact wfStep_emit (by simpa [Token.Wf] using .mantissa (isMantissa_point h)) c
  | dot =>
    simp only [step]
    split_ifs with hdigit hpoint
    · exact wfStep_of_nil ⟨[], [c], rfl, fun _ ha => absurd ha List.not_mem_nil,
        digits_singleton hdigit, List.cons_ne_nil _ _⟩
    · exact ⟨by simp [Token.Wf], trivial⟩
    · exact wfStep_emit (by simp [Token.Wf]) c
  | frac acc =>
    obtain ⟨a, b, rfl, ha, hb, hne⟩ := h
    have hm : IsMantissa (a ++ '.' :: b) := .decimal ha hb (Or.inr hne)
    simp only [step]
    split_ifs with hdigit hexp
    · exact wfStep_of_nil ⟨a, b ++ [c], by simp, ha, hb.append (digits_singleton hdigit), by simp⟩
    · exact wfStep_of_nil ⟨hm, hexp⟩
    · exact wfStep_emit (by simpa [Token.Wf] using .mantissa hm) c
  | exp acc e =>
    obtain ⟨hm, he⟩ := h
    simp only [step]
    split_ifs with hdigit hsign
    · exact wfStep_of_nil ⟨acc, e, [], [c], rfl, hm, he, Or.inl rfl, List.cons_ne_nil _ _,
        digits_singleton hdigit⟩
    · exact wfStep_of_nil ⟨hm, he, hsign⟩
    · exact wfStep_stepWord (by simpa [Token.Wf] using .mantissa hm) [e] c
  | expSign acc e sign =>
    obtain ⟨hm, he, hsign⟩ := h
    simp only [step]
    split_ifs with hdigit hdash
    · exact wfStep_of_nil ⟨acc, e, [sign], [c], rfl, hm, he, by simpa using hsign,
        List.cons_ne_nil _ _, digits_singleton hdigit⟩
    · exact wfStep_stepDash (by simpa [Token.Wf] using .mantissa hm) c
    · exact wfStep_emit (by simpa [Token.Wf] using .mantissa hm) c
  | real acc =>
    obtain ⟨m, e, sign, d, rfl, hm, he, hsign, hne, hd⟩ := h
    simp only [step]
    split_ifs with hdigit
    · exact wfStep_of_nil ⟨m, e, sign, d ++ [c], by simp, hm, he, hsign, by simp,
        hd.append (digits_singleton hdigit)⟩
    · exact wfStep_emit (by simpa [Token.Wf] using .real hm he hsign hne hd) c
  | strEscape acc => exact wfStep_of_nil trivial
  | strQuote kind acc =>
    simp only [step]
    split_ifs
    · exact wfStep_of_nil trivial
    · exact wfStep_stepGap kind acc false c
  | strGap kind acc newline => exact wfStep_stepGap kind acc newline c
  | dollar acc =>
    simp only [step]
    split_ifs
    · exact wfStep_of_nil trivial
    · exact wfStep_of_nil trivial
    · exact wfStep_of_nil trivial
    · exact wfStep_emit (by simp [Token.Wf]) c
    · exact wfStep_stepWord (by simp [Token.Wf]) acc c
  | dash => exact wfStep_stepDash (by simp) c
  | blockComment depth last =>
    simp only [step]
    split_ifs
    · exact wfStep_of_nil trivial
    · cases depth <;> exact wfStep_of_nil trivial
    · exact wfStep_of_nil trivial
  | failed => exact wfStep_of_nil trivial
  | _ =>
    -- The other states hold no part of a number, and complete at most tokens that are none.
    simp only [step]
    split_ifs <;> first
      | exact wfStep_of_nil trivial
      | exact wfStep_emit (by simp [Token.Wf]) c
      | simp [WfStep, State.Wf, Token.Wf]

theorem wfStep_feed {st : State} (h : st.Wf) (text : List Char) : WfStep (feed st text) := by
  induction text generalizing st with
  | nil => exact wfStep_of_nil h
  | cons c cs ih =>
    have hstep := wfStep_step h c
    have hrest := ih hstep.2
    exact ⟨List.forall_mem_append.2 ⟨hstep.1, hrest.1⟩, hrest.2⟩

theorem wf_finish {st : State} (h : st.Wf) {ts : List Token} (hts : finish st = some ts) :
    ∀ t ∈ ts, t.Wf := by
  cases st with
  | int acc =>
    obtain rfl := Option.some.inj hts
    simpa [Token.Wf] using .mantissa (.integer h.1 h.2)
  | point acc =>
    obtain rfl := Option.some.inj hts
    simpa [Token.Wf] using .mantissa (isMantissa_point h)
  | frac acc =>
    obtain rfl := Option.some.inj hts
    obtain ⟨a, b, rfl, ha, hb, hne⟩ := h
    simpa [Token.Wf] using .mantissa (.decimal ha hb (Or.inr hne))
  | exp acc e =>
    obtain rfl := Option.some.inj hts
    simpa [Token.Wf] using .mantissa h.1
  | expSign acc e sign =>
    obtain rfl := Option.some.inj hts
    simpa [Token.Wf] using .mantissa h.1
  | real acc =>
    obtain rfl := Option.some.inj hts
    obtain ⟨m, e, sign, d, rfl, hm, he, hsign, hne, hd⟩ := h
    simpa [Token.Wf] using .real hm he hsign hne hd
  | quotedQuote acc =>
    simp only [finish] at hts
    split_ifs at hts
    obtain rfl := Option.some.inj hts
    simp [Token.Wf]
  | dollar acc =>
    obtain rfl := Option.some.inj hts
    split_ifs <;> simp [Token.Wf]
  | _ =>
    simp only [finish, Option.some_inj, reduceCtorEq] at hts <;> subst hts <;> simp [Token.Wf]

theorem isNumeric_of_mem {st : State} (h : st.Wf) {text : List Char} {ts : List Token}
    (hts : lexFrom st text = some ts) {s : List Char} (hs : .number s ∈ ts) : IsNumeric s := by
  obtain ⟨us, hus, rfl⟩ := Option.map_eq_some_iff.1 hts
  have hfeed := wfStep_feed h text
  rcases List.mem_append.1 hs with hs | hs
  · exact hfeed.1 _ hs
  · exact wf_finish hfeed.2 hus _ hs

/-- A text that is lexed, with at most one more character, to a literal of its value is a numeric
constant. -/
theorem isNumeric_of_lexFrom {dec : Decoding} {text param : List Char} {t : Token}
    {after : List Token} (h : lexFrom .start text = some (t :: after))
    (ht : t.value dec = some param) (hlen : text.length ≤ param.length + 1) : IsNumeric param := by
  rcases weight_of_value ht with rfl | hweight
  · exact isNumeric_of_mem (show State.Wf .start from trivial) h List.mem_cons_self
  · have hle := weights_lexFrom_le h
    simp only [weights_cons, State.weight] at hle
    omega

/-! ## Reading a numeric constant -/

section Read

variable {d : List Char}

theorem mem_of_isDigit {c : Char} (h : c.isDigit) :
    c ∈ ['0', '1', '2', '3', '4', '5', '6', '7', '8', '9'] := by
  simp only [Char.isDigit, Bool.and_eq_true, decide_eq_true_eq, ge_iff_le,
    UInt32.le_iff_toNat_le] at h
  have hlo : 48 ≤ c.toNat := h.1
  have hhi : c.toNat ≤ 57 := h.2
  rw [← Char.ofNat_toNat c]
  interval_cases c.toNat <;> decide

theorem begin_of_isDigit {c : Char} (h : c.isDigit) : begin c = ([], .int [c]) := by
  have hmem := mem_of_isDigit h
  simp only [List.mem_cons, List.not_mem_nil, or_false] at hmem
  rcases hmem with rfl | rfl | rfl | rfl | rfl | rfl | rfl | rfl | rfl | rfl <;> rfl

theorem feed_digits_of_step {f : List Char → State}
    (hf : ∀ acc c, c.isDigit → step (f acc) c = ([], f (acc ++ [c]))) (hd : Digits d)
    (acc : List Char) : feed (f acc) d = ([], f (acc ++ d)) := by
  induction d generalizing acc with
  | nil => simp [feed]
  | cons c cs ih =>
    obtain ⟨hc, hcs⟩ := List.forall_mem_cons.1 hd
    simp only [feed, hf acc c hc, ih hcs, List.append_assoc, List.singleton_append,
      List.nil_append]

theorem feed_int (hd : Digits d) (acc : List Char) :
    feed (.int acc) d = ([], .int (acc ++ d)) :=
  feed_digits_of_step (fun acc c hc => by rw [step, if_pos hc]) hd acc

theorem feed_frac (hd : Digits d) (acc : List Char) :
    feed (.frac acc) d = ([], .frac (acc ++ d)) :=
  feed_digits_of_step (fun acc c hc => by rw [step, if_pos hc]) hd acc

theorem feed_real (hd : Digits d) (acc : List Char) :
    feed (.real acc) d = ([], .real (acc ++ d)) :=
  feed_digits_of_step (fun acc c hc => by rw [step, if_pos hc]) hd acc

theorem feed_digits (hne : d ≠ []) (hd : Digits d) : feed .start d = ([], .int d) := by
  cases d with
  | nil => exact absurd rfl hne
  | cons c cs =>
    obtain ⟨hc, hcs⟩ := List.forall_mem_cons.1 hd
    simp only [feed, step, begin_of_isDigit hc, feed_int hcs]
    rfl

/-- The state holds a complete number: the end of the text, or a closing parenthesis, gives it. -/
structure Holds (st : State) (s : List Char) : Prop where
  finish : finish st = some [.number s]
  step : step st ')' = ([.number s, .sym ')'], .start)

theorem feed_mantissa {m : List Char} (h : IsMantissa m) :
    ∃ st, feed .start m = ([], st) ∧ Holds st m ∧
      ∀ e, e = 'e' ∨ e = 'E' → step st e = ([], .exp m e) := by
  have hexp {e : Char} (he : e = 'e' ∨ e = 'E') : e.isDigit = false ∧ e ≠ '.' := by
    rcases he with rfl | rfl <;> exact ⟨rfl, by decide⟩
  cases h with
  | integer hne ha =>
    refine ⟨.int m, feed_digits hne ha, ⟨rfl, rfl⟩, fun e he => ?_⟩
    simp [step, hexp he, he]
  | @decimal a b ha hb hne =>
    cases b with
    | nil =>
      have hfeed := feed_digits (hne.resolve_right fun h => h rfl) ha
      refine ⟨.point a, ?_, ⟨rfl, rfl⟩, fun e he => ?_⟩
      · rw [feed_append, hfeed]
        rfl
      · simp [step, hexp he, he]
    | cons c cs =>
      obtain ⟨hc, hcs⟩ := List.forall_mem_cons.1 hb
      refine ⟨.frac (a ++ '.' :: c :: cs), ?_, ⟨rfl, rfl⟩, fun e he => ?_⟩
      · cases a with
        | nil =>
          have hdot : step .start '.' = ([], .dot) := rfl
          have hstep : step .dot c = ([], .frac ['.', c]) := by rw [step, if_pos hc]
          simp only [List.nil_append, feed, hdot, hstep, feed_frac hcs, List.cons_append]
        | cons x xs =>
          have hpoint : step (.int (x :: xs)) '.' = ([], .point (x :: xs)) := rfl
          have hstep : step (.point (x :: xs)) c = ([], .frac (x :: xs ++ ['.', c])) := by
            rw [step, if_pos hc]
          rw [feed_append, feed_digits (List.cons_ne_nil _ _) ha]
          simp only [feed, hpoint, hstep, feed_frac hcs, List.append_assoc, List.cons_append,
            List.nil_append]
      · simp [step, hexp he, he]

theorem feed_numeric {s : List Char} (h : IsNumeric s) :
    ∃ st, feed .start s = ([], st) ∧ Holds st s := by
  cases h with
  | mantissa hm =>
    obtain ⟨st, hfeed, hholds, -⟩ := feed_mantissa hm
    exact ⟨st, hfeed, hholds⟩
  | @real m sign d e hm he hsign hne hd =>
    obtain ⟨st, hfeed, -, hexp⟩ := feed_mantissa hm
    cases d with
    | nil => exact absurd rfl hne
    | cons c cs =>
      obtain ⟨hc, hcs⟩ := List.forall_mem_cons.1 hd
      have hdigit : step (.exp m e) c = ([], .real (m ++ [e, c])) := by rw [step, if_pos hc]
      have hplus : step (.exp m e) '+' = ([], .expSign m e '+') := rfl
      have hminus : step (.exp m e) '-' = ([], .expSign m e '-') := rfl
      have hsigned (x : Char) : step (.expSign m e x) c = ([], .real (m ++ [e, x, c])) := by
        rw [step, if_pos hc]
      refine ⟨.real (m ++ e :: (sign ++ c :: cs)), ?_, ⟨rfl, rfl⟩⟩
      rw [feed_append, hfeed]
      rcases hsign with rfl | rfl | rfl <;>
        simp only [feed, hexp e he, hdigit, hplus, hminus, hsigned, feed_real hcs,
          List.append_assoc, List.cons_append, List.nil_append]

end Read

/-! ## Reading a standard string -/

theorem feed_str {d : List Char} (hd : '\'' ∉ d) (acc : List Char) :
    feed (.str .standard acc) d = ([], .str .standard (acc ++ d)) := by
  induction d generalizing acc with
  | nil => simp [feed]
  | cons c cs ih =>
    rw [List.mem_cons, not_or] at hd
    have hc : c ≠ '\'' := Ne.symm hd.1
    have hstep : step (.str .standard acc) c = ([], .str .standard (acc ++ [c])) := by
      simp [step, hc]
    simp only [feed, hstep, ih hd.2, List.append_assoc, List.singleton_append, List.nil_append]

/-- In a standard string, or in the space behind one. -/
def State.InStandard : State → Prop
  | .str .standard _ | .strQuote .standard _ | .strGap .standard .. | .strGapDash .standard .. |
    .strGapComment .standard .. => True
  | _ => False

/-- A step that completes nothing in a standard string, or first of all completes the string. -/
def KeepsString (r : List Token × State) : Prop :=
  r.1 = [] ∧ r.2.InStandard ∨ ∃ v us, r.1 = .string .standard v :: us

theorem keepsString_emit (acc : List Char) (ts : List Token) (c : Char) :
    KeepsString (emit (.string .standard acc :: ts) c) :=
  Or.inr ⟨acc, _, rfl⟩

theorem keepsString_stepGap (acc : List Char) (newline : Bool) (c : Char) :
    KeepsString (stepGap .standard acc newline c) := by
  unfold stepGap
  split_ifs
  · exact Or.inl ⟨rfl, trivial⟩
  · exact Or.inl ⟨rfl, trivial⟩
  · exact Or.inl ⟨rfl, trivial⟩
  · exact Or.inl ⟨rfl, trivial⟩
  · exact keepsString_emit acc [] c

theorem keepsString_step {st : State} (h : st.InStandard) (c : Char) :
    KeepsString (step st c) := by
  match st, h with
  | .str .standard acc, _ =>
    simp only [step, reduceCtorEq, false_and, if_false]
    split_ifs <;> exact Or.inl ⟨rfl, trivial⟩
  | .strQuote .standard acc, _ =>
    simp only [step]
    split_ifs
    · exact Or.inl ⟨rfl, trivial⟩
    · exact keepsString_stepGap acc false c
  | .strGap .standard acc newline, _ => exact keepsString_stepGap acc newline c
  | .strGapDash .standard acc newline, _ =>
    simp only [step]
    split_ifs
    · exact Or.inl ⟨rfl, trivial⟩
    · exact keepsString_emit acc [.sym '-'] c
  | .strGapComment .standard acc newline, _ =>
    simp only [step]
    split_ifs <;> exact Or.inl ⟨rfl, trivial⟩

theorem head_of_inStandard {st : State} (h : st.InStandard) {text : List Char} {t : Token}
    {ts : List Token} (hts : lexFrom st text = some (t :: ts)) : ∃ v, t = .string .standard v := by
  induction text generalizing st with
  | nil =>
    match st, h with
    | .str .standard acc, _ => cases hts
    | .strQuote .standard acc, _ => exact ⟨acc, (List.cons.inj (Option.some.inj hts)).1.symm⟩
    | .strGap .standard acc newline, _ =>
      exact ⟨acc, (List.cons.inj (Option.some.inj hts)).1.symm⟩
    | .strGapDash .standard acc newline, _ =>
      exact ⟨acc, (List.cons.inj (Option.some.inj hts)).1.symm⟩
    | .strGapComment .standard acc newline, _ =>
      exact ⟨acc, (List.cons.inj (Option.some.inj hts)).1.symm⟩
  | cons c cs ih =>
    rw [lexFrom_cons, Option.map_eq_some_iff] at hts
    obtain ⟨us, hus, heq⟩ := hts
    rcases keepsString_step h c with ⟨hnil, hst⟩ | ⟨v, ws, hv⟩
    · rw [hnil, List.nil_append] at heq
      exact ih hst (heq ▸ hus)
    · rw [hv] at heq
      exact ⟨v, (List.cons.inj heq).1.symm⟩

/-- A text that is lexed, from within quotes and with no more characters behind it than needed, to a
literal of its value has no quote and was there in full. -/
theorem not_mem_quote_of_lexFrom {dec : Decoding} {text param : List Char} {t : Token}
    {after : List Token} (h : lexFrom (.str .standard []) text = some (t :: after))
    (ht : t.value dec = some param) (hlen : text.length ≤ param.length + 1 + weights after) :
    '\'' ∉ param ∧ text.length = param.length + 1 + weights after := by
  have hin : State.InStandard (.str .standard []) := trivial
  obtain ⟨v, rfl⟩ := head_of_inStandard hin h
  obtain rfl := Option.some.inj ht
  have hle := weights_lexFrom_le h
  have hquotes : StringKind.standard.quotes v = v.count '\'' := if_pos rfl
  simp only [weights_cons, Token.weight, State.weight, hquotes, quotes_nil, List.length_nil] at hle
  exact ⟨List.count_eq_zero.1 (by omega), by omega⟩

end Sql
