import Bbd.Lib.SqlLiterals
import Bbd.Server.RunServer
import Bbd.Web.Views
import Mathlib.Data.List.TakeWhile

/-!
# Request data in the text of a query

When a field of a request is data in the text that a view executes.  A field that is put in without
quotes is one literal of its own value exactly when it is a numeric constant
(`NumericContext.occursAsData_iff`); the description, which is put between quotes, exactly when it
has no quote and no NUL (`Create.occursAsData_iff`).  In that case the text runs the statement that
the view means to run (`Create.execute_eq`), which inserts one row exactly when the table takes it
(`insertsOne_iff`).
-/

namespace Bbd.Web

open Sql Server

/-! ## The text that PostgreSQL gets -/

theorem takeWhile_append_of_not_mem {front : List Char} (h : '\x00' ∉ front) (rest : List Char) :
    (front ++ rest).takeWhile (· ≠ '\x00') = front ++ rest.takeWhile (· ≠ '\x00') :=
  List.takeWhile_append_of_pos fun _ hc => decide_eq_true fun h0 => h (h0 ▸ hc)

theorem takeWhile_eq_self_iff_not_mem {text : List Char} :
    text.takeWhile (· ≠ '\x00') = text ↔ '\x00' ∉ text := by
  rw [List.takeWhile_eq_self_iff]
  simp only [decide_eq_true_eq]
  exact ⟨fun h hmem => h _ hmem rfl, fun h c hc h0 => h (h0 ▸ hc)⟩

theorem not_mem_nul_of_digits {d : List Char} (h : Digits d) : '\x00' ∉ d :=
  fun hmem => absurd (h _ hmem) (by decide)

theorem not_mem_nul_of_isMantissa {m : List Char} (h : IsMantissa m) : '\x00' ∉ m := by
  cases h with
  | integer _ ha => exact not_mem_nul_of_digits ha
  | decimal ha hb _ =>
    simp [not_mem_nul_of_digits ha, not_mem_nul_of_digits hb]

theorem not_mem_nul_of_isNumeric {s : List Char} (h : IsNumeric s) : '\x00' ∉ s := by
  cases h with
  | mantissa hm => exact not_mem_nul_of_isMantissa hm
  | real hm he hsign _ hd =>
    rcases he with rfl | rfl <;> rcases hsign with rfl | rfl | rfl <;>
      simp [not_mem_nul_of_isMantissa hm, not_mem_nul_of_digits hd]

/-! ## A field without quotes -/

namespace NumericContext

variable (q : NumericContext)

theorem toList_sql (param : String) :
    (q.sql param).toList = q.front.toList ++ (param.toList ++ q.tail.toList) := by
  rw [sql, String.toList_append, String.toList_append, List.append_assoc]

theorem length_tail_le : q.tail.toList.length ≤ 1 := by
  rcases q.tail_cases with ⟨h, -⟩ | ⟨h, -⟩ <;> rw [h] <;> decide

theorem not_mem_nul_tail : '\x00' ∉ q.tail.toList := by
  rcases q.tail_cases with ⟨h, -⟩ | ⟨h, -⟩ <;> rw [h] <;> decide

theorem lexFrom_tail {st : State} {s : List Char} (h : Holds st s) :
    lexFrom st q.tail.toList = some (.number s :: q.after) := by
  rcases q.tail_cases with ⟨htail, hafter⟩ | ⟨htail, hafter⟩
  · rw [htail, hafter]
    show lexFrom st [] = _
    rw [lexFrom, feed, h.finish]
    rfl
  · rw [htail, hafter]
    show lexFrom st [')'] = _
    rw [lexFrom_cons, h.step]
    rfl

theorem lex_received {q : NumericContext} (hq : '\x00' ∉ q.front.toList) {param : String}
    (hparam : IsNumeric param.toList) :
    lex (received (q.sql param)) = some (q.before ++ .number param.toList :: q.after) := by
  obtain ⟨st, hfeed, hholds⟩ := feed_numeric hparam
  rw [received, toList_sql, takeWhile_append_of_not_mem hq,
    takeWhile_append_of_not_mem (not_mem_nul_of_isNumeric hparam),
    takeWhile_eq_self_iff_not_mem.2 q.not_mem_nul_tail, lex, lexFrom_append q.feed_front,
    lexFrom_append hfeed, q.lexFrom_tail hholds]
  rfl

/-- A field that is put in without quotes is one literal of its own value exactly when it is a
numeric constant. -/
theorem occursAsData_iff (dec : Decoding) (hq : '\x00' ∉ q.front.toList) (param : String) :
    OccursAsData dec q.before q.after param.toList (received (q.sql param)) ↔
      IsNumeric param.toList := by
  constructor
  · rintro ⟨t, ht, hvalue⟩
    rw [received, toList_sql, takeWhile_append_of_not_mem hq, lex,
      lexFrom_append q.feed_front] at ht
    obtain ⟨ts, hts, heq⟩ := Option.map_eq_some_iff.1 ht
    rw [List.append_cancel_left heq] at hts
    refine isNumeric_of_lexFrom hts hvalue ?_
    calc ((param.toList ++ q.tail.toList).takeWhile (· ≠ '\x00')).length
        ≤ (param.toList ++ q.tail.toList).length := (List.takeWhile_sublist _).length_le
      _ ≤ param.toList.length + 1 := by
        rw [List.length_append]
        exact Nat.add_le_add_left q.length_tail_le _
  · exact fun hparam => ⟨.number param.toList, lex_received hq hparam, rfl⟩

end NumericContext

/-! ## The text of an integer -/

theorem digits_toDigits (n : ℕ) : Digits (Nat.toDigits 10 n) :=
  fun _ hc => Nat.isDigit_of_mem_toDigits (by decide) (by decide) hc

theorem toList_toString (n : ℤ) :
    (toString n).toList = match n with
      | .ofNat n => Nat.toDigits 10 n
      | .negSucc n => '-' :: Nat.toDigits 10 (n + 1) := by
  cases n with
  | ofNat n => exact Nat.toList_repr
  | negSucc n =>
    show ("-" ++ (n + 1).repr).toList = _
    rw [String.toList_append, Nat.toList_repr]
    rfl

theorem not_mem_nul_toString (n : ℤ) : '\x00' ∉ (toString n).toList := by
  rw [toList_toString]
  cases n with
  | ofNat n => exact not_mem_nul_of_digits (digits_toDigits n)
  | negSucc n => simp [not_mem_nul_of_digits (digits_toDigits (n + 1))]

theorem feed_dash {x : Char} (hx : x.isDigit) (xs : List Char) :
    feed .start ('-' :: x :: xs) =
      (.sym '-' :: (feed .start (x :: xs)).1, (feed .start (x :: xs)).2) := by
  have hne : x ≠ '-' := by
    rintro rfl
    cases hx
  have hminus : step .start '-' = ([], .dash) := rfl
  have hdash : step .dash x = ([.sym '-'], .int [x]) := by
    simp [step, stepDash, emit, begin_of_isDigit hx, hne]
  have hstart : step .start x = ([], .int [x]) := begin_of_isDigit hx
  simp only [feed, hminus, hdash, hstart, List.nil_append, List.singleton_append]

theorem feed_toDigits (n : ℕ) {c : Char} (hc : c = ',' ∨ c = ':') :
    feed .start (Nat.toDigits 10 n ++ [c]) = ([.number (Nat.toDigits 10 n), .sym c], .start) := by
  rw [feed_append, feed_digits Nat.toDigits_ne_nil (digits_toDigits n)]
  rcases hc with rfl | rfl <;> rfl

theorem feed_toString (n : ℤ) {c : Char} (hc : c = ',' ∨ c = ':') :
    feed .start ((toString n).toList ++ [c]) = (intTokens n ++ [.sym c], .start) := by
  rw [toList_toString]
  cases n with
  | ofNat n => exact feed_toDigits n hc
  | negSucc n =>
    obtain ⟨x, xs, hdigits⟩ :=
      List.exists_cons_of_ne_nil (Nat.toDigits_ne_nil (n := n + 1) (b := 10))
    have hx : x.isDigit := digits_toDigits (n + 1) x (hdigits ▸ List.mem_cons_self)
    have hrest := feed_toDigits (n + 1) hc
    rw [hdigits, List.cons_append] at hrest
    show feed .start (('-' :: Nat.toDigits 10 (n + 1)) ++ [c]) =
      ([.sym '-', .number (Nat.toDigits 10 (n + 1))] ++ [.sym c], .start)
    rw [hdigits, List.cons_append, List.cons_append, feed_dash hx, hrest]
    rfl

theorem weights_intTokens (n : ℤ) : weights (intTokens n) = (toString n).toList.length := by
  rw [toList_toString]
  cases n with
  | ofNat n => rfl
  | negSucc n => exact Nat.add_comm _ _

/-! ## The description -/

def createText : String := "SELECT FROM bbd.web_create_new_schedule("

theorem feed_createText : feed .start createText.toList = (createFront, .start) := by
  decide +kernel

/-- The text of a time with its cast, up to the character behind it. -/
def timeText (n : ℤ) (c : Char) : List Char :=
  ((toString n).toList ++ [':']) ++ (":smallint".toList ++ [c])

theorem feed_timeText (n : ℤ) {c : Char} (hc : c = ',' ∨ c = ')') :
    feed .start (timeText n c) = (intTokens n ++ smallint c, .start) := by
  have hcast : feed .start (":smallint".toList ++ [c]) =
      ([.sym ':', .word "smallint".toList, .sym c], .start) := by
    rcases hc with rfl | rfl <;> rfl
  rw [timeText, feed_append, feed_toString n (Or.inr rfl), hcast]
  simp only [smallint, List.append_assoc, List.singleton_append]

theorem weights_time (n : ℤ) (c : Char) :
    weights (intTokens n ++ smallint c) = (timeText n c).length := by
  have hcast : ":smallint".toList.length = 9 := rfl
  have hword : "smallint".toList.length = 8 := rfl
  simp only [weights_append, weights_intTokens, smallint, weights_cons, weights_nil, Token.weight,
    timeText, List.length_append, List.length_singleton, hcast, hword]

theorem not_mem_nul_timeText (n : ℤ) {c : Char} (hc : c ≠ '\x00') : '\x00' ∉ timeText n c := by
  have hcast : '\x00' ∉ ":smallint".toList := by decide
  simp only [timeText, List.mem_append, List.mem_singleton, not_or]
  exact ⟨⟨not_mem_nul_toString n, by decide⟩, hcast, Ne.symm hc⟩

namespace Create

variable (c : Create)

/-- The text in front of the quote that opens the description. -/
def frontText : List Char := createText.toList ++ ((toString c.valveIDf).toList ++ [','])

/-- The text behind the quote that closes the description. -/
def tailText : List Char := ',' :: (timeText c.startTime ',' ++ timeText c.stopTime ')')

theorem toList_sql :
    c.sql.toList =
      (c.frontText ++ ['\'']) ++ (c.description.toList ++ ('\'' :: c.tailText)) := by
  have hpieces (v description start stop comma quote close cast cast' : String) :
      (createText ++ v ++ comma ++ quote ++ description ++ close ++ start ++ cast ++ stop ++
        cast').toList = ((createText.toList ++ (v.toList ++ comma.toList)) ++ quote.toList) ++
          (description.toList ++ (close.toList ++ (start.toList ++ (cast.toList ++
            (stop.toList ++ cast'.toList))))) := by
    simp only [String.toList_append, List.append_assoc]
  have hcast : "::smallint,".toList = [':'] ++ (":smallint".toList ++ [',']) := rfl
  have hcast' : "::smallint)".toList = [':'] ++ (":smallint".toList ++ [')']) := rfl
  refine (hpieces (toString c.valveIDf) c.description (toString c.startTime) (toString c.stopTime)
    "," "'" "'," "::smallint," "::smallint)").trans ?_
  rw [hcast, hcast']
  simp only [frontText, tailText, timeText, List.append_assoc]
  rfl

theorem feed_frontText :
    feed .start (c.frontText ++ ['\'']) = (c.before, .str .standard []) := by
  have hvalve : feed .start c.frontText = (c.before, .start) := by
    rw [frontText, feed_append, feed_createText, feed_toString _ (Or.inl rfl)]
    rfl
  have hquote : feed .start ['\''] = ([], .str .standard []) := rfl
  rw [feed_append, hvalve, hquote, List.append_nil]

theorem lexFrom_tailText (body : List Char) :
    lexFrom (.str .standard body) ('\'' :: c.tailText) =
      some (.string .standard body :: c.after) := by
  have hclose : feed (.str .standard body) ['\'', ','] =
      ([.string .standard body, .sym ','], .start) := rfl
  have htimes : feed .start (timeText c.startTime ',' ++ timeText c.stopTime ')') =
      (intTokens c.startTime ++ smallint ',' ++ (intTokens c.stopTime ++ smallint ')'),
        .start) := by
    rw [feed_append, feed_timeText _ (Or.inl rfl), feed_timeText _ (Or.inr rfl)]
  show lexFrom _ (['\'', ','] ++ (timeText c.startTime ',' ++ timeText c.stopTime ')')) = _
  rw [lexFrom_append hclose, lexFrom, htimes]
  simp only [finish, after, Option.map_some, List.append_assoc, List.append_nil, List.cons_append,
    List.nil_append]

theorem weights_after : weights c.after = c.tailText.length := by
  rw [after, ← List.append_assoc (intTokens c.startTime), weights_append, weights_append,
    weights_time, weights_time, tailText, List.length_cons, List.length_append]
  exact Nat.add_comm _ _

theorem not_mem_nul_frontText : '\x00' ∉ c.frontText ++ ['\''] := by
  have hcreate : '\x00' ∉ createText.toList := by decide
  simp only [frontText, List.mem_append, List.mem_singleton, not_or]
  exact ⟨⟨hcreate, not_mem_nul_toString _, by decide⟩, by decide⟩

theorem not_mem_nul_tailText : '\x00' ∉ '\'' :: c.tailText := by
  simp [tailText, not_mem_nul_timeText]

theorem lex_received {c : Create} (hquote : '\'' ∉ c.description.toList)
    (hnul : '\x00' ∉ c.description.toList) :
    lex (received c.sql) =
      some (c.before ++ .string .standard c.description.toList :: c.after) := by
  rw [received, toList_sql, takeWhile_append_of_not_mem c.not_mem_nul_frontText,
    takeWhile_append_of_not_mem hnul, takeWhile_eq_self_iff_not_mem.2 c.not_mem_nul_tailText, lex,
    lexFrom_append c.feed_frontText, lexFrom_append (feed_str hquote []), c.lexFrom_tailText]
  rfl

/-- The description is one literal of its own value exactly when it has no quote and no NUL. -/
theorem occursAsData_iff (dec : Decoding) :
    OccursAsData dec c.before c.after c.description.toList (received c.sql) ↔
      '\'' ∉ c.description.toList ∧ '\x00' ∉ c.description.toList := by
  constructor
  · rintro ⟨t, ht, hvalue⟩
    rw [received, toList_sql, takeWhile_append_of_not_mem c.not_mem_nul_frontText, lex,
      lexFrom_append c.feed_frontText] at ht
    obtain ⟨ts, hts, heq⟩ := Option.map_eq_some_iff.1 ht
    rw [List.append_cancel_left heq] at hts
    -- Behind the description there is just enough text for the rest of the query.
    have hlen : (c.description.toList ++ '\'' :: c.tailText).length =
        c.description.toList.length + 1 + weights c.after := by
      rw [c.weights_after, List.length_append, List.length_cons]
      omega
    have hcut := (List.takeWhile_sublist (l := c.description.toList ++ '\'' :: c.tailText)
      (· ≠ '\x00')).length_le
    obtain ⟨hquote, hfull⟩ := not_mem_quote_of_lexFrom hts hvalue (hlen ▸ hcut)
    have hall := (List.takeWhile_sublist (l := c.description.toList ++ '\'' :: c.tailText)
      (· ≠ '\x00')).eq_of_length (hfull.trans hlen.symm)
    exact ⟨hquote, fun hnul =>
      takeWhile_eq_self_iff_not_mem.1 hall (List.mem_append_left _ hnul)⟩
  · rintro ⟨hquote, hnul⟩
    exact ⟨_, lex_received hquote hnul, rfl⟩

end Create

/-! ## What the texts do -/

theorem expect_append (es ts : List Token) : expect es (es ++ ts) = some ts := by
  induction es with
  | nil => rfl
  | cons e es ih => rw [List.cons_append, expect, if_pos rfl, ih]

theorem takeInt_append (n : ℤ) (ts : List Token) : takeInt (intTokens n ++ ts) = some (n, ts) := by
  have hall (k : ℕ) : (Nat.toDigits 10 k).all Char.isDigit :=
    List.all_eq_true.2 (digits_toDigits k)
  cases n with
  | ofNat n =>
    simp only [intTokens, List.singleton_append, takeInt, hall, if_true,
      Nat.ofDigitChars_ten_toDigits]
    rfl
  | negSucc n =>
    simp only [intTokens, List.cons_append, List.nil_append, takeInt, hall, if_true,
      Nat.ofDigitChars_ten_toDigits]
    rfl

theorem takeCreate_eq (c : Create) :
    takeCreate (c.before ++ .string .standard c.description.toList :: c.after) = some c := by
  have hcomma (ts : List Token) : expect [.sym ','] (.sym ',' :: ts) = some ts :=
    expect_append [.sym ','] ts
  have hstring (body : List Char) (ts : List Token) :
      takeString (.string .standard body :: ts) = some (body, ts) := rfl
  have hend : expect (smallint ')') (smallint ')') = some [] := by
    rw [← expect_append (smallint ')') [], List.append_nil]
  simp only [takeCreate, Create.before, Create.after, List.append_assoc, List.singleton_append,
    Option.bind_eq_bind, Option.bind_some, expect_append, hcomma, takeInt_append, hstring, hend,
    String.ofList_toList, if_true]

/-- The tokens of a create are the statement that the view means to run. -/
theorem ofTokens_create (c : Create) :
    Statement.ofTokens (c.before ++ .string .standard c.description.toList :: c.after) =
      some (.create c) := by
  rw [Statement.ofTokens, takeCreate_eq]
  rfl

theorem ofTokens_deactivate (s : List Char) :
    Statement.ofTokens (Web.webDeactivateScheduleRequest.before ++
      .number s :: Web.webDeactivateScheduleRequest.after) = some (.deactivate s) :=
  rfl

/-- What `create_new_schedule` knows where it executes its query. -/
theorem createNewSchedule_eq_some {int : String → Option ℤ} {form : CreateForm} {db : Db}
    {c : Create} (h : createNewSchedule int form db = some c) :
    str form.description = some c.description ∧ (∃ v ∈ db.valve.rows, v.valveID = c.valveIDf) ∧
      (0 ≤ c.startTime ∧ c.startTime ≤ 1440) ∧ 0 ≤ c.stopTime ∧ c.stopTime ≤ 1440 := by
  simp only [createNewSchedule, Option.bind_eq_bind, Option.bind_eq_some_iff] at h
  obtain ⟨v, -, d, hd, sh, -, sm, -, th, -, tm, -, h⟩ := h
  split_ifs at h with hvalve htimes
  obtain rfl := Option.some.inj h
  simp only [List.any_eq_true, decide_eq_true_eq] at hvalve
  exact ⟨hd, hvalve, ⟨htimes.1, htimes.2.1⟩, htimes.2.2⟩

theorem str_some {s t : String} (h : str (some s) = some t) : t = s := by
  simp only [str, Option.ite_none_right_eq_some, Option.some_inj] at h
  exact h.2.symm

theorem toInt_ofInt_of_time {n : ℤ} (h : 0 ≤ n ∧ n ≤ 1440) : (Int16.ofInt n).toInt = n :=
  Int16.toInt_ofInt_of_le (by omega) (by omega)

theorem toVarchar100_eq_self_iff (s : String) :
    toVarchar100 (some s) = some (some s) ↔ s.toList.length ≤ 100 := by
  simp only [toVarchar100]
  split_ifs with hlen hspaces
  · simp [hlen]
  · refine iff_of_false (fun h => ?_) hlen
    have htake := congrArg String.toList (Option.some.inj (Option.some.inj h))
    rw [String.toList_ofList] at htake
    have := congrArg List.length htake
    rw [List.length_take] at this
    omega
  · exact iff_of_false (fun h => by cases h) hlen

section Execute

variable {int : String → Option ℤ} {form : CreateForm} {db : Db} {c : Create}

/-- The text of a create with a description without a quote or a NUL runs the statement that the
view means to run. -/
theorem Create.execute_eq (other : List Char → Db → Db) (now : Timestamp) (db : Db)
    (hquote : '\'' ∉ c.description.toList) (hnul : '\x00' ∉ c.description.toList) :
    execute other now c.sql db = (Statement.create c).apply now db := by
  simp only [execute, lex_received hquote hnul, ofTokens_create]

/-- That statement is a call of `web_create_new_schedule`, since the view has checked the times. -/
theorem apply_create (h : createNewSchedule int form db = some c) (hint : IsInt c.valveIDf)
    (now : Timestamp) :
    (Statement.create c).apply now db = (webCreateNewSchedule c.valveIDf (some c.description)
      (Int16.ofInt c.startTime) (Int16.ofInt c.stopTime) now db).2 := by
  obtain ⟨-, -, hstart, hstop⟩ := createNewSchedule_eq_some h
  exact if_pos ⟨hint, ⟨by omega, by omega⟩, by omega, by omega⟩

/-- Executing the text of a create inserts exactly one row, with this description and the times that
were checked, and nothing else. -/
def InsertsOne (other : List Char → Db → Db) (now : Timestamp) (db : Db) (c : Create)
    (description : String) : Prop :=
  (execute other now c.sql db).device = db.device ∧ (execute other now c.sql db).valve = db.valve ∧
    ∃ r : ScheduleRow, (execute other now c.sql db).schedule.rows = db.schedule.rows ++ [r] ∧
      r.valveIDf = c.valveIDf ∧ r.description = some description ∧ r.startTime = c.startTime ∧
      r.stopTime = c.stopTime

/-- The table takes a row with this valve and this description: the id of the valve is read as an
`INT`, the column is long enough, and the next value of the sequence is there and free. -/
def Fits (db : Db) (valveIDf : ℤ) (description : String) : Prop :=
  IsInt valveIDf ∧ description.toList.length ≤ 100 ∧ db.scheduleSeq < 2147483647 ∧
    (db.scheduleSeq + 1 : ℤ) ∉ db.schedule.rows.map (·.scheduleID)

instance (db : Db) (valveIDf : ℤ) (description : String) :
    Decidable (Fits db valveIDf description) :=
  inferInstanceAs (Decidable (IsInt valveIDf ∧ description.toList.length ≤ 100 ∧
    db.scheduleSeq < 2147483647 ∧
      (db.scheduleSeq + 1 : ℤ) ∉ db.schedule.rows.map (·.scheduleID)))

theorem insertsOne_iff (other : List Char → Db → Db) (now : Timestamp)
    (h : createNewSchedule int form db = some c) (hquote : '\'' ∉ c.description.toList)
    (hnul : '\x00' ∉ c.description.toList) :
    InsertsOne other now db c c.description ↔ Fits db c.valveIDf c.description := by
  rw [InsertsOne, Create.execute_eq other now db hquote hnul]
  by_cases hint : IsInt c.valveIDf
  · obtain ⟨-, hvalve, hstart, hstop⟩ := createNewSchedule_eq_some h
    obtain ⟨hdevice, hvalves, hrows, -⟩ := webCreateNewSchedule_snd c.valveIDf
      (some c.description) (Int16.ofInt c.startTime) (Int16.ofInt c.stopTime) now db
    rw [apply_create h hint, hrows, Fits, ← toVarchar100_eq_self_iff]
    constructor
    · rintro ⟨-, -, r, hr, -, hdescription, -⟩
      have hcreated := Option.toList_eq_singleton_iff.1 (List.append_cancel_left hr)
      obtain ⟨hseq, description', hd, ⟨-, hnew⟩, rfl⟩ := created_eq_some_iff.1 hcreated
      obtain rfl : description' = some c.description := hdescription
      exact ⟨hint, hd, hseq, hnew⟩
    · rintro ⟨-, hd, hseq, hnew⟩
      have hstart' := toInt_ofInt_of_time hstart
      have hcreated : db.created c.valveIDf (some c.description) (Int16.ofInt c.startTime)
          (Int16.ofInt c.stopTime) now = some _ :=
        created_eq_some_iff.2 ⟨hseq, _, hd, ⟨⟨hstart'.symm ▸ hstart, hvalve⟩, hnew⟩, rfl⟩
      rw [hcreated]
      exact ⟨hdevice, hvalves, _, rfl, rfl, rfl, hstart', toInt_ofInt_of_time hstop⟩
  · have hnothing : (Statement.create c).apply now db = db := if_neg fun h => hint h.1
    rw [hnothing]
    refine iff_of_false ?_ fun hfits => hint hfits.1
    rintro ⟨-, -, r, hr, -⟩
    have := congrArg List.length hr
    simp at this

end Execute

/-! ## Requests -/

/-- A request to a view that puts a field into a text. -/
inductive Request where
  | valvesIndex (deviceid : Option String)
  | schedulesIndex (valveid : Option String) (isPost : Bool) (selScheduleId : Option String)
  | createNewSchedule (form : CreateForm)
  | deactivateSchedule (scheduleId : Option String)
  deriving DecidableEq, Repr

/-- The text is the query of a harmless value, with the parameter as its one literal. -/
def NumericContext.KeepsData (q : NumericContext) (dec : Decoding) (param sql : String) : Prop :=
  OccursAsData dec q.before q.after param.toList (received sql)

namespace Request

variable (dec : Decoding) (int : String → Option ℤ) (other : List Char → Db → Db)
  (now : Timestamp) (db : Db)

/-- Each field of the request is data in the text that the view executes with it, and a create
inserts exactly one row, with the description and the times that were checked. -/
def KeepsData : Request → Prop
  | .valvesIndex deviceid =>
    ∀ param ∈ given deviceid, ∀ sql ∈ Web.valvesIndex deviceid,
      webGetValves.KeepsData dec param sql
  | .schedulesIndex valveid isPost selScheduleId =>
    (∀ param ∈ given valveid, ∀ sql ∈ (Web.schedulesIndex valveid isPost selScheduleId)[0]?,
      webGetSchedules.KeepsData dec param sql) ∧
    ∀ param ∈ given selScheduleId, ∀ sql ∈ (Web.schedulesIndex valveid isPost selScheduleId)[1]?,
      selectSchedule.KeepsData dec param sql
  | .createNewSchedule form =>
    ∀ param ∈ form.description, ∀ c ∈ Web.createNewSchedule int form db,
      OccursAsData dec c.before c.after param.toList (received c.sql) ∧
        InsertsOne other now db c param
  | .deactivateSchedule scheduleId =>
    ∀ param ∈ given scheduleId, ∀ sql ∈ Web.deactivateSchedule scheduleId,
      webDeactivateScheduleRequest.KeepsData dec param sql

/-- A field that is put in without quotes is a numeric constant; a description has no quote and no
NUL, and the table takes it. -/
def Harmless : Request → Prop
  | .valvesIndex deviceid => ∀ param ∈ given deviceid, IsNumeric param.toList
  | .schedulesIndex valveid isPost selScheduleId =>
    (∀ param ∈ given valveid, IsNumeric param.toList) ∧
      (isPost → ∀ param ∈ given selScheduleId, IsNumeric param.toList)
  | .createNewSchedule form =>
    ∀ param ∈ form.description, ∀ c ∈ Web.createNewSchedule int form db,
      ('\'' ∉ param.toList ∧ '\x00' ∉ param.toList) ∧ Fits db c.valveIDf param
  | .deactivateSchedule scheduleId => ∀ param ∈ given scheduleId, IsNumeric param.toList

theorem getElem?_schedulesIndex_zero {valveid : Option String} {param : String}
    (h : given valveid = some param) (isPost : Bool) (selScheduleId : Option String) :
    (Web.schedulesIndex valveid isPost selScheduleId)[0]? = some (webGetSchedules.sql param) := by
  simp only [Web.schedulesIndex, h]
  cases isPost with
  | false => rfl
  | true => cases given selScheduleId <;> rfl

theorem getElem?_schedulesIndex_one (valveid selScheduleId : Option String) (isPost : Bool) :
    (Web.schedulesIndex valveid isPost selScheduleId)[1]? =
      if isPost then (given selScheduleId).map selectSchedule.sql else none := by
  simp only [Web.schedulesIndex]
  cases isPost with
  | false => rfl
  | true => cases given selScheduleId <;> rfl

/-- The fields of a request are data exactly when the request is harmless. -/
theorem keepsData_iff (request : Request) :
    request.KeepsData dec int other now db ↔ request.Harmless int db := by
  cases request with
  | valvesIndex deviceid =>
    refine forall₂_congr fun param hparam => ?_
    rw [Web.valvesIndex, Option.mem_def.1 hparam]
    simp only [List.mem_singleton, forall_eq]
    exact webGetValves.occursAsData_iff dec (by decide) param
  | schedulesIndex valveid isPost selScheduleId =>
    refine and_congr (forall₂_congr fun param hparam => ?_) ?_
    · rw [getElem?_schedulesIndex_zero (Option.mem_def.1 hparam)]
      simp only [Option.mem_some_iff, forall_eq']
      exact webGetSchedules.occursAsData_iff dec (by decide) param
    · rw [getElem?_schedulesIndex_one]
      cases isPost with
      | false => exact ⟨fun _ h => (Bool.false_ne_true h).elim, fun _ _ _ _ hsql => nomatch hsql⟩
      | true =>
        simp only [if_true, true_imp_iff]
        refine forall₂_congr fun param hparam => ?_
        rw [Option.mem_def.1 hparam]
        simp only [Option.map_some, Option.mem_some_iff, forall_eq']
        exact selectSchedule.occursAsData_iff dec (by decide) param
  | createNewSchedule form =>
    refine forall₂_congr fun param hparam => forall₂_congr fun c hcreate => ?_
    have hdescription : c.description = param := by
      obtain ⟨hstr, -⟩ := createNewSchedule_eq_some hcreate
      exact str_some (Option.mem_def.1 hparam ▸ hstr)
    subst hdescription
    rw [c.occursAsData_iff]
    exact and_congr_right fun h => insertsOne_iff other now hcreate h.1 h.2
  | deactivateSchedule scheduleId =>
    refine forall₂_congr fun param hparam => ?_
    rw [Web.deactivateSchedule, Option.mem_def.1 hparam]
    simp only [Option.map_some, Option.mem_some_iff, forall_eq']
    exact Web.webDeactivateScheduleRequest.occursAsData_iff dec (by decide) param

end Request

/-- A device id can end the query, and begin a second one that deletes every schedule. -/
theorem not_keepsData_delete :
    lex (received (webGetValves.sql "1);DELETE FROM bbd.schedule--")) =
        some (webGetValves.before ++ .number ['1'] :: webGetValves.after ++
          [.sym ';', .word "DELETE".toList, .word "FROM".toList, .word "bbd".toList, .sym '.',
            .word "schedule".toList]) ∧
      ¬ (Request.valvesIndex (some "1);DELETE FROM bbd.schedule--")).KeepsData .plain
        intOfDigits (fun _ db => db) 0 Db.garden := by
  have hlex : lex (received (webGetValves.sql "1);DELETE FROM bbd.schedule--")) =
      some (webGetValves.before ++ .number ['1'] :: webGetValves.after ++
        [.sym ';', .word "DELETE".toList, .word "FROM".toList, .word "bbd".toList, .sym '.',
          .word "schedule".toList]) := by
    decide +kernel
  refine ⟨hlex, fun h => ?_⟩
  obtain ⟨t, ht, -⟩ := h "1);DELETE FROM bbd.schedule--" rfl _ List.mem_cons_self
  rw [hlex] at ht
  have hlen := congrArg List.length (Option.some.inj ht)
  simp [webGetValves] at hlen

end Bbd.Web
