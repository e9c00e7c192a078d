import Bbd.Lib.SqlLexer
import Bbd.Server.Database

/-!
# The views of the web site

`views.py`: what each view reads from its request and which texts it hands to `cursor.execute`.  The
texts are put together from strings, and PostgreSQL gets them as they are.  `execute` runs a text
that is lexed to one of the two statements that the views mean to run; what any other text does is
left open.
-/

namespace Bbd.Web

open Sql Server

/-! ## Texts -/

/-- A field of the request that is there and not empty, as `if field:` asks. -/
def given (field : Option String) : Option String := field.filter (· ≠ "")

/-- A query that a parameter is put into as it is, where a number is expected, with the tokens in
front of the parameter and behind it. -/
structure NumericContext where
  front : String
  tail : String
  before : List Token
  after : List Token
  feed_front : feed .start front.toList = (before, .start)
  tail_cases : tail = "" ∧ after = [] ∨ tail = ")" ∧ after = [.sym ')']

/-- The query with its parameter. -/
def NumericContext.sql (q : NumericContext) (param : String) : String := q.front ++ param ++ q.tail

/-- The query of `valves_index` for a device. -/
def webGetValves : NumericContext where
  front := "SELECT * FROM bbd.web_get_valves("
  tail := ")"
  before := [.word "SELECT".toList, .sym '*', .word "FROM".toList, .word "bbd".toList, .sym '.',
    .word "web_get_valves".toList, .sym '(']
  after := [.sym ')']
  feed_front := rfl
  tail_cases := Or.inr ⟨rfl, rfl⟩

/-- The query of `schedules_index` for a valve. -/
def webGetSchedules : NumericContext where
  front := "SELECT * FROM bbd.web_get_schedules("
  tail := ")"
  before := [.word "SELECT".toList, .sym '*', .word "FROM".toList, .word "bbd".toList, .sym '.',
    .word "web_get_schedules".toList, .sym '(']
  after := [.sym ')']
  feed_front := rfl
  tail_cases := Or.inr ⟨rfl, rfl⟩

/-- The query of `schedules_index` for the selected schedule. -/
def selectSchedule : NumericContext where
  front := "SELECT * FROM bbd.schedule WHERE scheduleID="
  tail := ""
  before := [.word "SELECT".toList, .sym '*', .word "FROM".toList, .word "bbd".toList, .sym '.',
    .word "schedule".toList, .word "WHERE".toList, .word "scheduleID".toList, .sym '=']
  after := []
  feed_front := rfl
  tail_cases := Or.inl ⟨rfl, rfl⟩

/-- The query of `deactivate_schedule`. -/
def webDeactivateScheduleRequest : NumericContext where
  front := "SELECT web_deactivate_schedule_request("
  tail := ")"
  before := [.word "SELECT".toList, .word "web_deactivate_schedule_request".toList, .sym '(']
  after := [.sym ')']
  feed_front := rfl
  tail_cases := Or.inr ⟨rfl, rfl⟩

/-! ## Views -/

/-- The texts that `valves_index` executes. -/
def valvesIndex (deviceid : Option String) : List String :=
  match given deviceid with
  | some deviceid => [webGetValves.sql deviceid]
  | none => ["SELECT * FROM bbd.web_get_valves()"]

/-- The texts that `schedules_index` executes, each unless one before it fails. -/
def schedulesIndex (valveid : Option String) (isPost : Bool) (selScheduleId : Option String) :
    List String :=
  let list := match given valveid with
    | some valveid => webGetSchedules.sql valveid
    | none => "SELECT * FROM bbd.web_get_schedules()"
  if isPost then
    match given selScheduleId with
    | some selScheduleId => [list, selectSchedule.sql selScheduleId]
    | none => [list]
  else [list]

/-- The text that `deactivate_schedule` executes; `none` is `HTTP_400_BAD_REQUEST`. -/
def deactivateSchedule (scheduleId : Option String) : Option String :=
  (given scheduleId).map webDeactivateScheduleRequest.sql

/-- The fields that `create_new_schedule` reads. -/
structure CreateForm where
  valveidF : Option String
  description : Option String
  startH : Option String
  startM : Option String
  stopH : Option String
  stopM : Option String
  deriving DecidableEq, Repr

/-- `str()` of a field, which fails on a text that is not ASCII; a missing field is `None`. -/
def str : Option String → Option String
  | none => some "None"
  | some s => if s.toList.all (·.toNat < 128) then some s else none

/-- The variables of `create_new_schedule` where it executes its query. -/
structure Create where
  valveIDf : ℤ
  description : String
  startTime : ℤ
  stopTime : ℤ
  deriving DecidableEq, Repr

/-- `create_new_schedule` up to its query, with Python's `int()`; `none` is an exception (a field
that is missing or no number, a valve that `Valve.objects.get` does not find) or
`HTTP_400_BAD_REQUEST`. -/
def createNewSchedule (int : String → Option ℤ) (form : CreateForm) (db : Db) : Option Create := do
  let valveIDf ← form.valveidF.bind int
  let description ← str form.description
  let startTime := (← form.startH.bind int) * 60 + (← form.startM.bind int)
  let stopTime := (← form.stopH.bind int) * 60 + (← form.stopM.bind int)
  if db.valve.rows.any (·.valveID = valveIDf) then
    if startTime ≥ 0 ∧ startTime ≤ 1440 ∧ stopTime ≥ 0 ∧ stopTime ≤ 1440 then
      some ⟨valveIDf, description, startTime, stopTime⟩
    else none
  else none

/-- `int()` on a text of digits. -/
def intOfDigits (s : String) : Option ℤ :=
  if s.toList ≠ [] ∧ s.toList.all Char.isDigit then some (Nat.ofDigitChars 10 s.toList 0 : ℕ)
  else none

/-- The query of `create_new_schedule`. -/
def Create.sql (c : Create) : String :=
  "SELECT FROM bbd.web_create_new_schedule("
    ++ toString c.valveIDf ++ ","
    ++ "'" ++ c.description ++ "',"
    ++ toString c.startTime ++ "::smallint,"
    ++ toString c.stopTime ++ "::smallint)"

/-! ## The tokens of a create -/

/-- The tokens of an integer: a sign is one of its own. -/
def intTokens : ℤ → List Token
  | .ofNat n => [.number (Nat.toDigits 10 n)]
  | .negSucc n => [.sym '-', .number (Nat.toDigits 10 (n + 1))]

def createFront : List Token :=
  [.word "SELECT".toList, .word "FROM".toList, .word "bbd".toList, .sym '.',
    .word "web_create_new_schedule".toList, .sym '(']

/-- A cast to `smallint` and the character behind it. -/
def smallint (c : Char) : List Token := [.sym ':', .sym ':', .word "smallint".toList, .sym c]

/-- The tokens in front of the description. -/
def Create.before (c : Create) : List Token := createFront ++ (intTokens c.valveIDf ++ [.sym ','])

/-- The tokens behind the description. -/
def Create.after (c : Create) : List Token :=
  [.sym ','] ++
    (intTokens c.startTime ++ (smallint ',' ++ (intTokens c.stopTime ++ smallint ')')))

/-! ## Executing a text -/

/-- What PostgreSQL gets of a text: psycopg2 hands it over as a C string, which ends at a NUL. -/
def received (sql : String) : List Char := sql.toList.takeWhile (· ≠ '\x00')

/-- A statement that a view means to execute. -/
inductive Statement where
  | create (c : Create)
  | deactivate (scheduleId : List Char)
  deriving DecidableEq, Repr

/-- Drops the tokens `front`, if they are there. -/
def expect : List Token → List Token → Option (List Token)
  | [], ts => some ts
  | _ :: _, [] => none
  | e :: es, t :: ts => if e = t then expect es ts else none

/-- An integer in front, and the tokens behind it. -/
def takeInt : List Token → Option (ℤ × List Token)
  | .number s :: ts =>
    if s.all Char.isDigit then some ((Nat.ofDigitChars 10 s 0 : ℕ), ts) else none
  | .sym '-' :: .number s :: ts =>
    if s.all Char.isDigit then some (-(Nat.ofDigitChars 10 s 0 : ℕ), ts) else none
  | _ => none

/-- A standard string in front, and the tokens behind it. -/
def takeString : List Token → Option (List Char × List Token)
  | .string .standard body :: ts => some (body, ts)
  | _ => none

/-- A call of `web_create_new_schedule`, and nothing else. -/
def takeCreate (ts : List Token) : Option Create := do
  let ts ← expect createFront ts
  let (valveIDf, ts) ← takeInt ts
  let ts ← expect [.sym ','] ts
  let (description, ts) ← takeString ts
  let ts ← expect [.sym ','] ts
  let (startTime, ts) ← takeInt ts
  let ts ← expect (smallint ',') ts
  let (stopTime, ts) ← takeInt ts
  let ts ← expect (smallint ')') ts
  if ts = [] then some ⟨valveIDf, String.ofList description, startTime, stopTime⟩ else none

/-- A call of `web_deactivate_schedule_request`, and nothing else. -/
def takeDeactivate (ts : List Token) : Option (List Char) := do
  match ← expect webDeactivateScheduleRequest.before ts with
  | .number s :: ts => if ts = webDeactivateScheduleRequest.after then some s else none
  | _ => none

/-- The statement of the views that the tokens are, if they are one. -/
def Statement.ofTokens (ts : List Token) : Option Statement :=
  ((takeCreate ts).map .create).or ((takeDeactivate ts).map .deactivate)

/-- An integer that PostgreSQL reads as one of `INT`; the sign is no part of the constant. -/
def IsInt (n : ℤ) : Prop := -2147483647 ≤ n ∧ n ≤ 2147483647

/-- An integer that `::smallint` takes; the cast comes before the sign. -/
def IsSmallint (n : ℤ) : Prop := -32767 ≤ n ∧ n ≤ 32767

instance (n : ℤ) : Decidable (IsInt n) := inferInstanceAs (Decidable (_ ∧ _))

instance (n : ℤ) : Decidable (IsSmallint n) := inferInstanceAs (Decidable (_ ∧ _))

/-- The database after a statement.  An argument that is out of range is an error before the
function is called. -/
def Statement.apply (now : Timestamp) (db : Db) : Statement → Db
  | .create c =>
    if IsInt c.valveIDf ∧ IsSmallint c.startTime ∧ IsSmallint c.stopTime then
      (webCreateNewSchedule c.valveIDf (some c.description) (Int16.ofInt c.startTime)
        (Int16.ofInt c.stopTime) now db).2
    else db
  | .deactivate s =>
    if s.all Char.isDigit ∧ Nat.ofDigitChars 10 s 0 ≤ 2147483647 then
      Server.webDeactivateScheduleRequest (Nat.ofDigitChars 10 s 0) db
    else db

/-- `cursor.execute`, with the effect `other` of a text that is no statement of the views.  Nothing
of a text that cannot be lexed is executed. -/
def execute (other : List Char → Db → Db) (now : Timestamp) (sql : String) (db : Db) : Db :=
  match lex (received sql) with
  | none => db
  | some ts =>
    match Statement.ofTokens ts with
    | some statement => statement.apply now db
    | none => other (received sql) db

end Bbd.Web
