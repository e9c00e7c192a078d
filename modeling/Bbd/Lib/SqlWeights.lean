import Bbd.Lib.SqlLexer

/-!
# What SQL tokens are read from

A token has a weight, the number of characters that it is read from at least; for a string that
includes its two quotes, and a quote in its value counts double.  No step of the lexer gains weight
on the character that it reads (`stepWeight_step`), so the tokens of a text weigh no more than the
text is long (`weights_lexFrom_le`).
-/

namespace Sql

/-- The number of doubled quotes that a body was read from. -/
def StringKind.quotes (kind : StringKind) (body : List Char) : ℕ :=
  if kind = .standard then body.count '\'' else 0

/-- The number of characters that a token is read from, at least. -/
def Token.weight : Token → ℕ
  | .word text => text.length
  | .quotedIdent text => text.length + 2
  | .number text => text.length
  | .string kind body => body.length + kind.quotes body + 2
  | .dollarString body => body.length + 4
  | .param digits => digits.length + 1
  | .sym _ => 1

def weights : List Token → ℕ
  | [] => 0
  | t :: ts => t.weight + weights ts

@[simp] theorem weights_nil : weights [] = 0 := rfl

@[simp] theorem weights_cons (t : Token) (ts : List Token) :
    weights (t :: ts) = t.weight + weights ts :=
  rfl

@[simp] theorem weights_append (ts us : List Token) :
    weights (ts ++ us) = weights ts + weights us := by
  induction ts with
  | nil => simp
  | cons t ts ih => rw [List.cons_append, weights_cons, weights_cons, ih, Nat.add_assoc]

/-- The number of characters that a state has read of the token under way. -/
def State.weight : State → ℕ
  | .start | .lineComment | .blockComment .. | .failed => 0
  | .dot | .dash | .slash => 1
  | .word acc | .int acc | .frac acc | .real acc => acc.length
  | .unicodePrefix acc | .point acc | .exp acc _ | .quoted acc | .dollar acc | .param acc =>
    acc.length + 1
  | .expSign acc _ _ | .quotedQuote acc | .strEscape acc | .dollarBody _ acc => acc.length + 2
  | .str kind acc => acc.length + kind.quotes acc + 1
  | .strQuote kind acc | .strGap kind acc _ | .strGapComment kind acc _ =>
    acc.length + kind.quotes acc + 2
  | .strGapDash kind acc _ => acc.length + kind.quotes acc + 3
  | .dollarEnd _ acc part => acc.length + part.length + 3

/-- What a step completes and what it keeps. -/
def stepWeight (r : List Token × State) : ℕ := weights r.1 + r.2.weight

@[simp] theorem stepWeight_mk (ts : List Token) (st : State) :
    stepWeight (ts, st) = weights ts + st.weight :=
  rfl

section Weights

variable (ts : List Token) (kind : StringKind) (acc : List Char) (newline : Bool) (c : Char)

@[simp] theorem quotes_nil : kind.quotes [] = 0 := by
  unfold StringKind.quotes
  split_ifs <;> rfl

theorem quotes_append_le (body : List Char) :
    kind.quotes (acc ++ body) ≤ kind.quotes acc + body.length := by
  unfold StringKind.quotes
  split_ifs
  · rw [List.count_append]
    exact Nat.add_le_add_left List.count_le_length _
  · exact Nat.zero_le _

theorem quotes_append_of_ne {c : Char} (h : c ≠ '\'') :
    kind.quotes (acc ++ [c]) = kind.quotes acc := by
  have hcount : [c].count '\'' = 0 := List.count_eq_zero.2 (by simpa using Ne.symm h)
  rw [StringKind.quotes, List.count_append, hcount, Nat.add_zero, StringKind.quotes]

theorem stepWeight_begin : stepWeight (begin c) ≤ 1 := by
  unfold begin
  split_ifs <;> simp [State.weight, Token.weight]

variable {ts} in
theorem stepWeight_emit_le {n : ℕ} (h : weights ts ≤ n) : stepWeight (emit ts c) ≤ n + 1 := by
  have hbegin := stepWeight_begin c
  simp only [stepWeight, emit, weights_append] at hbegin ⊢
  omega

theorem stepWeight_stepDash : stepWeight (stepDash ts c) ≤ weights ts + 2 := by
  unfold stepDash
  split_ifs
  · simp [State.weight]
  · exact stepWeight_emit_le c (by simp [Token.weight])

theorem stepWeight_stepWord : stepWeight (stepWord ts acc c) ≤ weights ts + acc.length + 1 := by
  have hemit : stepWeight (emit (ts ++ [.word acc]) c) ≤ weights ts + acc.length + 1 :=
    stepWeight_emit_le c (by simp [Token.weight])
  unfold stepWord
  split_ifs
  · simp [State.weight, Nat.add_assoc]
  · split
    · simp [State.weight]
    · exact hemit
  · simp [State.weight, Nat.add_assoc]
  · exact hemit

theorem stepWeight_stepGap :
    stepWeight (stepGap kind acc newline c) ≤ acc.length + kind.quotes acc + 3 := by
  unfold stepGap
  split_ifs
  · simp [State.weight]
  · simp [State.weight]
  · simp [State.weight]
  · simp [State.weight]
  · exact stepWeight_emit_le c (by simp [Token.weight])

end Weights

/-- No step gains weight on the character that it reads. -/
theorem stepWeight_step (st : State) (c : Char) : stepWeight (step st c) ≤ st.weight + 1 := by
  cases st with
  | start => exact stepWeight_begin c
  | word acc =>
    have := stepWeight_stepWord [] acc c
    rwa [weights_nil, Nat.zero_add] at this
  | exp acc e =>
    have hword := stepWeight_stepWord [.number acc] [e] c
    simp only [step]
    split_ifs <;> simp [State.weight, Token.weight] at hword ⊢
    omega
  | expSign acc e sign =>
    have hdash := stepWeight_stepDash [.number acc, .word [e]] c
    simp only [step]
    split_ifs
    · simp [State.weight]
    · simp [State.weight, Token.weight] at hdash ⊢
      omega
    · exact stepWeight_emit_le c (by simp [State.weight, Token.weight])
  | str kind acc =>
    simp only [step]
    split_ifs with hc hesc
    · simp [State.weight]
    · simp [State.weight]
    · simp [State.weight, quotes_append_of_ne kind acc hc]
      omega
  | strEscape acc => simp [step, State.weight, StringKind.quotes]
  | strQuote kind acc =>
    have hgap := stepWeight_stepGap kind acc false c
    have hquotes := quotes_append_le kind acc [c]
    simp only [step]
    split_ifs <;> simp [State.weight] at hgap hquotes ⊢ <;> omega
  | strGap kind acc newline => exact stepWeight_stepGap kind acc newline c
  | dollar acc =>
    have hword := stepWeight_stepWord [.sym '$'] acc c
    simp only [step]
    split_ifs
    · simp [State.weight]
    · simp [State.weight]
    · simp [State.weight]
    · exact stepWeight_emit_le c (by simp [State.weight, Token.weight])
    · simp [State.weight, Token.weight] at hword ⊢
      omega
  | dollarEnd tag acc part =>
    simp only [step]
    split_ifs <;> simp [State.weight, Token.weight] <;> omega
  | dash => exact stepWeight_stepDash [] c
  | blockComment depth last =>
    simp only [step]
    split_ifs
    · simp [State.weight]
    · cases depth <;> simp [State.weight]
    · simp [State.weight]
  | failed => simp [step, State.weight]
  | _ =>
    -- The other states go on with one character more, or complete what they have read.
    simp only [step]
    split_ifs <;> first
      | exact stepWeight_emit_le c (by simp [State.weight, Token.weight])
      | simp [State.weight, Token.weight]

theorem stepWeight_feed (st : State) (text : List Char) :
    stepWeight (feed st text) ≤ st.weight + text.length := by
  induction text generalizing st with
  | nil => simp [feed]
  | cons c cs ih =>
    have hstep := stepWeight_step st c
    have hrest := ih (step st c).2
    simp only [stepWeight, feed, weights_append, List.length_cons] at hstep hrest ⊢
    omega

theorem weights_finish_le {st : State} {ts : List Token} (h : finish st = some ts) :
    weights ts ≤ st.weight := by
  cases st <;> simp only [finish, Option.some_inj, reduceCtorEq] at h
  case quotedQuote acc =>
    split_ifs at h
    obtain rfl := Option.some.inj h
    simp [State.weight, Token.weight]
  case dollar acc =>
    subst h
    split_ifs <;> simp [State.weight, Token.weight, Nat.add_comm]
  all_goals
    subst h
    simp [State.weight, Token.weight]

/-- The tokens of a text weigh no more than the text is long. -/
theorem weights_lexFrom_le {st : State} {text : List Char} {ts : List Token}
    (h : lexFrom st text = some ts) : weights ts ≤ st.weight + text.length := by
  obtain ⟨us, hus, rfl⟩ := Option.map_eq_some_iff.1 h
  have hfeed := stepWeight_feed st text
  have hfinish := weights_finish_le hus
  rw [stepWeight] at hfeed
  rw [weights_append]
  omega

end Sql
