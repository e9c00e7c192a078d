import Bbd.Lib.Matcher
import Bbd.Modem.AtCommands
import Bbd.Modem.RestContent

/-!
# Finding texts in what the modem sends

`WideTextFinder` looks for a text in the bytes of the modem and stores what stands between two
texts.  `findUntil` is a matcher that does not go back, raced against another one for the text that
ends the search (`findUntil_eq`); so `find` leaves the stream behind an occurrence of its target,
and sees every occurrence only of a target that repeats one character (`find_law`).  `getString`
stays within a length that is not 0, and tells by its value how it ended, not how many characters it
has stored (`getString_law`).

`stream` is what the calls of `read` return, a timeout being a 0; behind the last of them each call
times out.
-/

namespace Bbd.Modem

/-! ## The class -/

/-- The loop of `findUntil`. -/
def findUntilLoop (target terminate : List UInt8) (targetLen termLen : UInt8) :
    (index termIndex : UInt8) → List UInt8 → Bool × List UInt8
  | _, _, [] => (false, [])
  | index, termIndex, c :: stream =>
    if c = 0 then (false, stream)
    else if target[index.toNat]? = some c ∧ index + 1 ≥ targetLen then (true, stream)
    else
      let index := if target[index.toNat]? = some c then index + 1 else 0
      if termLen > 0 ∧ terminate[termIndex.toNat]? = some c then
        if termIndex + 1 ≥ termLen then (false, stream)
        else findUntilLoop target terminate targetLen termLen index (termIndex + 1) stream
      else findUntilLoop target terminate targetLen termLen index 0 stream

/-- `WideTextFinder::findUntil`: its value, and the stream behind it.  No `terminate` is an empty
one. -/
def findUntil (target terminate stream : List UInt8) : Bool × List UInt8 :=
  if target = [] then (true, stream)
  else
    findUntilLoop target terminate (UInt8.ofNat target.length) (UInt8.ofNat terminate.length) 0 0
      stream

/-- `WideTextFinder::find`. -/
def find (target stream : List UInt8) : Bool × List UInt8 := findUntil target [] stream

/-- `buffer[index] = b`; undefined outside of the buffer. -/
def put (buffer : List UInt8) (index : ℕ) (b : UInt8) : Option (List UInt8) :=
  if index < buffer.length then some (buffer.set index b) else none

/-- `while (index < length)` over the rest of the buffer, `todo` iterations before its end. -/
def zeroFill (buffer : List UInt8) (index : ℕ) : (todo : ℕ) → Option (List UInt8)
  | 0 => some buffer
  | todo + 1 => do
    let buffer ← put buffer index 0
    zeroFill buffer (index + 1) todo

/-- The loop of `getString`, with what follows it. -/
def getStringLoop (postString : List UInt8) (length : ℤ) (buffer : List UInt8) (index : ℕ) :
    List UInt8 → Option (ℤ × List UInt8 × List UInt8)
  | [] =>
    if index < length - 1 then some (0, buffer, [])
    else do
      let buffer ← put buffer index 0
      some (index, buffer, [])
  | c :: stream =>
    if index < length - 1 then
      if c = 0 then some (0, buffer, stream)
      else if c = postString.headD 0 then do
        let todo := (length - index).toNat
        let buffer ← zeroFill buffer index todo
        some ((index + todo : ℕ), buffer, stream)
      else do
        let buffer ← put buffer index c
        getStringLoop postString length buffer (index + 1) stream
    else do
      let buffer ← put buffer index 0
      some (index, buffer, c :: stream)

/-- `WideTextFinder::getString`: its value, the buffer and the stream behind it; `none` where it
leaves the buffer. -/
def getString (preString postString buffer : List UInt8) (length : ℤ) (stream : List UInt8) :
    Option (ℤ × List UInt8 × List UInt8) :=
  match find preString stream with
  | (true, stream) => do
    let buffer ← put buffer 0 0
    getStringLoop postString length buffer 0 stream
  | (false, stream) => some (0, buffer, stream)

/-! ## What is found -/

/-- What of a target is looked for: its length is a `byte`, and the first character counts in any
case. -/
def wanted (target : List UInt8) : List UInt8 := target.take (max 1 (target.length % 256))

/-- What of the other text ends the search. -/
def ending (terminate : List UInt8) : List UInt8 := terminate.take (terminate.length % 256)

/-- Two searches over one stream, of which the one that ends first counts. -/
def race (f e : Option (List UInt8)) (tail : List UInt8) : Bool × List UInt8 :=
  match f, e with
  | some rest, none => (true, rest ++ tail)
  | some rest, some rest' =>
    if rest'.length ≤ rest.length then (true, rest ++ tail) else (false, rest' ++ tail)
  | none, some rest' => (false, rest' ++ tail)
  | none, none => (false, tail.tail)

section Find

variable {target terminate : List UInt8}

theorem length_wanted (htarget : target ≠ []) :
    (wanted target).length = max 1 (target.length % 256) := by
  have := List.length_pos_iff.2 htarget
  rw [wanted, List.length_take]
  omega

theorem length_ending : (ending terminate).length = terminate.length % 256 := by
  rw [ending, List.length_take]
  omega

theorem getElem?_wanted (htarget : target ≠ []) {i : ℕ} (hi : i < (wanted target).length) :
    (wanted target)[i]? = target[i]? := by
  rw [length_wanted htarget] at hi
  rw [wanted, List.getElem?_take_of_lt hi]

theorem getElem?_ending {i : ℕ} (hi : i < (ending terminate).length) :
    (ending terminate)[i]? = terminate[i]? := by
  rw [length_ending] at hi
  rw [ending, List.getElem?_take_of_lt hi]

theorem race_some_left {rest : List UInt8} {e : Option (List UInt8)} (tail : List UInt8)
    (h : ∀ rest', e = some rest' → rest'.length ≤ rest.length) :
    race (some rest) e tail = (true, rest ++ tail) := by
  cases e with
  | none => rfl
  | some rest' => exact if_pos (h rest' rfl)

theorem race_some_right {f : Option (List UInt8)} {rest' : List UInt8} (tail : List UInt8)
    (h : ∀ rest, f = some rest → rest.length < rest'.length) :
    race f (some rest') tail = (false, rest' ++ tail) := by
  cases f with
  | none => rfl
  | some rest => exact if_neg (Nat.not_le.2 (h rest rfl))

theorem ge_targetLen_iff (htarget : target ≠ []) {index : UInt8}
    (hi : index.toNat < (wanted target).length) :
    index + 1 ≥ UInt8.ofNat target.length ↔ index.toNat + 1 = (wanted target).length := by
  rw [length_wanted htarget] at hi ⊢
  rw [ge_iff_le, UInt8.le_iff_toNat_le, UInt8.toNat_add, UInt8.toNat_one, UInt8.toNat_ofNat']
  omega

theorem ge_termLen_iff {termIndex : UInt8} (hj : termIndex.toNat < (ending terminate).length) :
    termIndex + 1 ≥ UInt8.ofNat terminate.length ↔
      termIndex.toNat + 1 = (ending terminate).length := by
  rw [length_ending] at hj ⊢
  rw [ge_iff_le, UInt8.le_iff_toNat_le, UInt8.toNat_add, UInt8.toNat_one, UInt8.toNat_ofNat']
  omega

theorem getElem?_terminate_iff {termIndex c : UInt8}
    (hj : ending terminate ≠ [] → termIndex.toNat < (ending terminate).length) :
    UInt8.ofNat terminate.length > 0 ∧ terminate[termIndex.toNat]? = some c ↔
      (ending terminate)[termIndex.toNat]? = some c := by
  rw [gt_iff_lt, UInt8.lt_iff_toNat_lt, UInt8.toNat_ofNat', UInt8.toNat_zero, ← length_ending,
    List.length_pos_iff]
  constructor
  · rintro ⟨hne, hc⟩
    rwa [getElem?_ending (hj hne)]
  · intro hc
    have hne : ending terminate ≠ [] := List.ne_nil_of_mem (List.mem_of_getElem? hc)
    exact ⟨hne, by rwa [← getElem?_ending (hj hne)]⟩

theorem toNat_index (htarget : target ≠ []) {index c : UInt8}
    (hi : index.toNat < (wanted target).length) :
    (if (wanted target)[index.toNat]? = some c then index + 1 else 0).toNat =
      Matcher.advance (wanted target) index.toNat c := by
  rw [length_wanted htarget] at hi
  rw [Matcher.advance, apply_ite UInt8.toNat, UInt8.toNat_zero, UInt8.toNat_add, UInt8.toNat_one]
  congr 1
  omega

/-- The loop is the race of the two matchers, as far as the first zero byte. -/
theorem findUntilLoop_eq (htarget : target ≠ []) {live tail : List UInt8} (hlive : 0 ∉ live)
    (htail : tail.headD 0 = 0) {index termIndex : UInt8}
    (hi : index.toNat < (wanted target).length)
    (hj : ending terminate ≠ [] → termIndex.toNat < (ending terminate).length) :
    findUntilLoop target terminate (UInt8.ofNat target.length) (UInt8.ofNat terminate.length) index
        termIndex (live ++ tail) =
      race (Matcher.find (wanted target) index.toNat live)
        (Matcher.find (ending terminate) termIndex.toNat live) tail := by
  induction live generalizing index termIndex with
  | nil =>
    cases tail with
    | nil => rfl
    | cons c tail => exact if_pos htail
  | cons c live ih =>
    rw [List.mem_cons, not_or] at hlive
    rw [List.cons_append, findUntilLoop, if_neg (Ne.symm hlive.1)]
    simp only [ge_targetLen_iff htarget hi, getElem?_terminate_iff hj,
      ← getElem?_wanted htarget hi]
    by_cases hfound : (wanted target)[index.toNat]? = some c ∧
        index.toNat + 1 = (wanted target).length
    · rw [if_pos hfound, Matcher.find, if_pos hfound, race_some_left]
      intro rest' hrest'
      have := Matcher.length_lt_of_find hrest'
      rw [List.length_cons] at this
      omega
    · -- The matcher of the target goes on in any case, unless the other one ends.
      have hnext := toNat_index (c := c) htarget hi
      have hlt := Matcher.advance_lt hfound hi
      rw [← hnext] at hlt
      rw [if_neg hfound, Matcher.find, if_neg hfound, ← hnext]
      generalize (if (wanted target)[index.toNat]? = some c then index + 1 else 0) = next at hlt ⊢
      by_cases hc : (ending terminate)[termIndex.toNat]? = some c
      · have hj := hj (List.ne_nil_of_mem (List.mem_of_getElem? hc))
        rw [if_pos hc]
        by_cases hend : termIndex.toNat + 1 = (ending terminate).length
        · rw [if_pos ((ge_termLen_iff hj).2 hend), Matcher.find, if_pos ⟨hc, hend⟩,
            race_some_right]
          exact fun rest hrest => Matcher.length_lt_of_find hrest
        · have hsucc : (termIndex + 1).toNat = termIndex.toNat + 1 := by
            rw [length_ending] at hj
            rw [UInt8.toNat_add, UInt8.toNat_one]
            omega
          rw [if_neg fun h => hend ((ge_termLen_iff hj).1 h), ih hlive.2 hlt fun _ => by omega,
            Matcher.find, if_neg fun h => hend h.2, Matcher.advance, if_pos hc, hsucc]
      · have hstart (h : ending terminate ≠ []) : (0 : UInt8).toNat < (ending terminate).length :=
          List.length_pos_iff.2 h
        rw [if_neg hc, ih hlive.2 hlt hstart, Matcher.find, if_neg fun h => hc h.1,
          Matcher.advance, if_neg hc, UInt8.toNat_zero]

theorem findUntil_eq (htarget : target ≠ []) {live tail : List UInt8} (hlive : 0 ∉ live)
    (htail : tail.headD 0 = 0) :
    findUntil target terminate (live ++ tail) =
      race (Matcher.find (wanted target) 0 live) (Matcher.find (ending terminate) 0 live) tail := by
  have hpos : (0 : UInt8).toNat < (wanted target).length := by
    rw [length_wanted htarget, UInt8.toNat_zero]
    omega
  rw [findUntil, if_neg htarget]
  exact findUntilLoop_eq htarget hlive htail hpos fun h => List.length_pos_iff.2 h

theorem find_eq (htarget : target ≠ []) {live tail : List UInt8} (hlive : 0 ∉ live)
    (htail : tail.headD 0 = 0) :
    find target (live ++ tail) = race (Matcher.find (wanted target) 0 live) none tail := by
  rw [find, findUntil_eq htarget hlive htail, show ending [] = [] from rfl, Matcher.find_nil]

theorem wanted_of_length_le (htarget : target ≠ []) (hlen : target.length ≤ 255) :
    wanted target = target := by
  have := List.length_pos_iff.2 htarget
  rw [wanted, List.take_of_length_le]
  omega

theorem exists_live (stream : List UInt8) :
    ∃ live tail, stream = live ++ tail ∧ 0 ∉ live ∧ tail.headD 0 = 0 := by
  induction stream with
  | nil => exact ⟨[], [], rfl, List.not_mem_nil, rfl⟩
  | cons c stream ih =>
    by_cases hc : c = 0
    · exact ⟨[], c :: stream, rfl, List.not_mem_nil, hc⟩
    · obtain ⟨live, tail, rfl, hlive, htail⟩ := ih
      refine ⟨c :: live, tail, rfl, ?_, htail⟩
      rw [List.mem_cons, not_or]
      exact ⟨Ne.symm hc, hlive⟩

theorem takeWhile_live {live tail : List UInt8} (hlive : 0 ∉ live) (htail : tail.headD 0 = 0) :
    (live ++ tail).takeWhile (· ≠ 0) = live := by
  rw [List.takeWhile_append_of_pos fun c hc => by simpa using fun h : c = 0 => hlive (h ▸ hc)]
  cases tail with
  | nil => simp
  | cons c tail => simp [show c = 0 from htail]

section Law

variable (htarget : target ≠ []) (hlen : target.length ≤ 255)

include htarget hlen

theorem find_eq_of_length_le {live tail : List UInt8} (hlive : 0 ∉ live)
    (htail : tail.headD 0 = 0) :
    find target (live ++ tail) = race (Matcher.find target 0 live) none tail := by
  rw [find_eq htarget hlive htail, wanted_of_length_le htarget hlen]

theorem find_eq_true_iff (hnul : 0 ∉ target) (stream rest : List UInt8) :
    find target stream = (true, rest) ↔
      ∃ u, Matcher.Misses target u ∧ 0 ∉ u ∧ stream = u ++ (target ++ rest) := by
  constructor
  · intro h
    obtain ⟨live, tail, rfl, hlive, htail⟩ := exists_live stream
    rw [find_eq_of_length_le htarget hlen hlive htail] at h
    cases hfind : Matcher.find target 0 live with
    | none =>
      rw [hfind] at h
      cases h
    | some found =>
      rw [hfind] at h
      cases h
      obtain ⟨u, hu, rfl⟩ := (Matcher.find_eq_some_iff htarget).1 hfind
      exact ⟨u, hu, fun h => hlive (List.mem_append_left _ h), by simp⟩
  · rintro ⟨u, hu, hnul', rfl⟩
    obtain ⟨live, tail, rfl, hlive, htail⟩ := exists_live rest
    have hall : 0 ∉ u ++ (target ++ live) := by simp [hnul, hnul', hlive]
    have hfind : Matcher.find target 0 (u ++ (target ++ live)) = some live :=
      (Matcher.find_eq_some_iff htarget).2 ⟨u, hu, rfl⟩
    rw [← List.append_assoc target, ← List.append_assoc u,
      find_eq_of_length_le htarget hlen hall htail, hfind]
    rfl

theorem exists_hidden (hnul : 0 ∉ target) (hother : ¬ ∀ x ∈ target, ∀ y ∈ target, x = y) :
    ∃ stream, target <:+: stream.takeWhile (· ≠ 0) ∧ (find target stream).1 = false := by
  obtain ⟨a, ha, hnone⟩ := Matcher.exists_missed htarget hother
  have hlive : 0 ∉ a :: target := by
    rw [List.mem_cons, not_or]
    exact ⟨fun h => hnul (h ▸ ha), hnul⟩
  have htail : ([] : List UInt8).headD 0 = 0 := rfl
  refine ⟨a :: target ++ [], ?_, ?_⟩
  · rw [takeWhile_live hlive htail]
    exact ⟨[a], [], by simp⟩
  · rw [find_eq_of_length_le htarget hlen hlive htail, hnone]
    rfl

/-- A target that repeats one character is seen wherever it comes before a timeout. -/
theorem find_of_forall_eq (hconst : ∀ x ∈ target, ∀ y ∈ target, x = y) {stream : List UInt8}
    (hmem : target <:+: stream.takeWhile (· ≠ 0)) : (find target stream).1 = true := by
  obtain ⟨live, tail, rfl, hlive, htail⟩ := exists_live stream
  rw [takeWhile_live hlive htail] at hmem
  obtain ⟨found, hfound⟩ :=
    Option.isSome_iff_exists.1 ((Matcher.find_complete_iff htarget).2 hconst live hmem)
  rw [find_eq_of_length_le htarget hlen hlive htail, hfound]
  rfl

end Law

end Find

/-- For a target of at most 255 characters, `find` returns `true` exactly behind an occurrence that
misses lead up to: beginnings of the target, each with a character that does not continue it.  It
sees every occurrence that comes before a timeout exactly when the target repeats one character. -/
theorem find_law (target : List UInt8) (htarget : target ≠ []) (hlen : target.length ≤ 255)
    (hnul : 0 ∉ target) :
    (∀ stream rest, find target stream = (true, rest) ↔
      ∃ u, Matcher.Misses target u ∧ 0 ∉ u ∧ stream = u ++ (target ++ rest)) ∧
    ((∀ stream, target <:+: stream.takeWhile (· ≠ 0) → (find target stream).1 = true) ↔
      ∀ x ∈ target, ∀ y ∈ target, x = y) := by
  refine ⟨find_eq_true_iff htarget hlen hnul, fun h => ?_,
    fun hconst _ hmem => find_of_forall_eq htarget hlen hconst hmem⟩
  by_contra hother
  obtain ⟨stream, hmem, hmissed⟩ := exists_hidden htarget hlen hnul hother
  rw [h stream hmem] at hmissed
  cases hmissed

/-- `OK` is found behind another character. -/
theorem find_law_ok : find (ascii "OK") (ascii "AT\r\nOK\r\n") = (true, ascii "\r\n") :=
  ((find_law (ascii "OK") (by decide) (by decide) (by decide)).1 _ _).2
    ⟨ascii "AT\r\n", .append ⟨0, 65, by decide, by decide, rfl⟩
      (.append ⟨0, 84, by decide, by decide, rfl⟩
        (.append ⟨0, 13, by decide, by decide, rfl⟩
          (.append ⟨0, 10, by decide, by decide, rfl⟩ .nil))), by decide, rfl⟩

/-! ## What is stored -/

section GetString

theorem put_eq {buffer : List UInt8} {index : ℕ} (h : index < buffer.length) (b : UInt8) :
    put buffer index b = some (store buffer index [b]) := by
  rw [put, if_pos h, ← store_cons h, store_nil]

theorem length_store {buffer : List UInt8} {index : ℕ} {bs : List UInt8}
    (h : index + bs.length ≤ buffer.length) : (store buffer index bs).length = buffer.length := by
  simp only [store, List.length_append, List.length_take, List.length_drop]
  omega

theorem store_store {buffer : List UInt8} {index : ℕ} (bs cs : List UInt8)
    (h : index + bs.length ≤ buffer.length) :
    store (store buffer index bs) (index + bs.length) cs = store buffer index (bs ++ cs) := by
  induction bs generalizing buffer index with
  | nil => rw [store_nil, List.length_nil, Nat.add_zero, List.nil_append]
  | cons b bs ih =>
    rw [List.length_cons] at h ⊢
    rw [List.cons_append, ← store_cons (by omega), ← store_cons (by omega),
      Nat.add_comm bs.length, ← Nat.add_assoc, ih (by rw [List.length_set]; omega)]

theorem zeroFill_eq {buffer : List UInt8} {index : ℕ} (todo : ℕ)
    (h : index + todo ≤ buffer.length) :
    zeroFill buffer index todo = some (store buffer index (List.replicate todo 0)) := by
  induction todo generalizing buffer index with
  | zero => rw [zeroFill, List.replicate_zero, store_nil]
  | succ todo ih =>
    have hlen : (store buffer index [0]).length = buffer.length := length_store (by simp; omega)
    rw [zeroFill, put_eq (by omega), Option.bind_eq_bind, Option.bind_some,
      ih (by rw [hlen]; omega), List.replicate_succ]
    exact congrArg some (store_store [0] (List.replicate todo 0) (by simp; omega))

variable {postString buffer : List UInt8} {n index : ℕ}

/-- A character of a field. -/
def IsField (postString : List UInt8) (c : UInt8) : Prop := c ≠ 0 ∧ c ≠ postString.headD 0

instance (postString : List UInt8) : DecidablePred (IsField postString) :=
  fun c => inferInstanceAs (Decidable (c ≠ 0 ∧ c ≠ postString.headD 0))

theorem getStringLoop_field {field : List UInt8} (hfield : ∀ c ∈ field, IsField postString c)
    (hroom : index + field.length ≤ n) (hbuffer : n < buffer.length) (stream : List UInt8) :
    getStringLoop postString (n + 1 : ℕ) buffer index (field ++ stream) =
      getStringLoop postString (n + 1 : ℕ) (store buffer index field) (index + field.length)
        stream := by
  induction field generalizing buffer index with
  | nil =>
    rw [List.nil_append, store_nil]
    rfl
  | cons c field ih =>
    rw [List.forall_mem_cons] at hfield
    rw [List.length_cons] at hroom ⊢
    have hlen : (store buffer index [c]).length = buffer.length := length_store (by simp; omega)
    rw [List.cons_append, getStringLoop, if_pos (by omega), if_neg hfield.1.1,
      if_neg hfield.1.2, put_eq (by omega), Option.bind_eq_bind, Option.bind_some,
      ih hfield.2 (by omega) (by omega), Nat.add_comm field.length, ← Nat.add_assoc]
    congr 1
    exact store_store [c] field (by simp; omega)

theorem getStringLoop_full (hbuffer : n < buffer.length) (stream : List UInt8) :
    getStringLoop postString (n + 1 : ℕ) buffer n stream =
      some ((n : ℤ), store buffer n [0], stream) := by
  cases stream with
  | nil => rw [getStringLoop, if_neg (by omega), put_eq hbuffer]; rfl
  | cons c stream => rw [getStringLoop, if_neg (by omega), put_eq hbuffer]; rfl

theorem getStringLoop_end (hpost : postString.headD 0 ≠ 0) (hindex : index < n)
    (hbuffer : n < buffer.length) (stream : List UInt8) :
    getStringLoop postString (n + 1 : ℕ) buffer index (postString.headD 0 :: stream) =
      some (((n + 1 : ℕ) : ℤ), store buffer index (List.replicate (n + 1 - index) 0), stream) := by
  have htodo : ((n + 1 : ℕ) - index : ℤ).toNat = n + 1 - index := by omega
  have hfill : zeroFill buffer index (n + 1 - index) =
      some (store buffer index (List.replicate (n + 1 - index) 0)) := zeroFill_eq _ (by omega)
  have hindex : index + (n + 1 - index) = n + 1 := by omega
  rw [getStringLoop, if_pos (by omega), if_neg hpost, if_pos rfl]
  simp only [htodo, hfill, hindex, Option.bind_eq_bind, Option.bind_some]

theorem getStringLoop_timeout (hindex : index < n) {stream : List UInt8}
    (hstream : stream.headD 0 = 0) :
    getStringLoop postString (n + 1 : ℕ) buffer index stream = some (0, buffer, stream.tail) := by
  cases stream with
  | nil => rw [getStringLoop, if_pos (by omega)]; rfl
  | cons c stream =>
    rw [getStringLoop, if_pos (by omega)]
    exact if_pos hstream

/-- A stream as a field that has room, and what ends it. -/
theorem exists_field (postString : List UInt8) (n : ℕ) (stream : List UInt8) :
    ∃ field rest, stream = field ++ rest ∧ (∀ c ∈ field, IsField postString c) ∧
      (field.length = n ∨ field.length < n ∧
        (rest.headD 0 = 0 ∨ rest.head? = some (postString.headD 0))) := by
  induction n generalizing stream with
  | zero => exact ⟨[], stream, rfl, fun _ h => absurd h List.not_mem_nil, Or.inl rfl⟩
  | succ n ih =>
    cases stream with
    | nil =>
      exact ⟨[], [], rfl, fun _ h => absurd h List.not_mem_nil, Or.inr ⟨Nat.succ_pos n, Or.inl rfl⟩⟩
    | cons c stream =>
      by_cases hc : IsField postString c
      · obtain ⟨field, rest, rfl, hfield, hend⟩ := ih stream
        refine ⟨c :: field, rest, rfl, List.forall_mem_cons.2 ⟨hc, hfield⟩, ?_⟩
        rw [List.length_cons]
        exact hend.imp (congrArg (· + 1)) fun h => ⟨Nat.succ_lt_succ h.1, h.2⟩
      · refine ⟨[], c :: stream, rfl, fun _ h => absurd h List.not_mem_nil,
          Or.inr ⟨Nat.succ_pos n, ?_⟩⟩
        rw [IsField, not_and_or, not_not, not_not] at hc
        exact hc.imp id (congrArg some)

theorem store_field {field bs : List UInt8} (h : field.length < buffer.length) (hbs : bs ≠ []) :
    store (store (buffer.set 0 0) 0 field) field.length bs =
      field ++ bs ++ buffer.drop (field.length + bs.length) := by
  have hfirst := store_store field bs (show 0 + field.length ≤ (buffer.set 0 0).length by
    rw [List.length_set]
    omega)
  obtain ⟨c, cs, hcs⟩ := List.exists_cons_of_ne_nil (List.append_ne_nil_of_right_ne_nil field hbs)
  rw [Nat.zero_add] at hfirst
  rw [hfirst, ← List.length_append, hcs]
  cases buffer with
  | nil => exact absurd h (Nat.not_lt_zero _)
  | cons b buffer => simp [store]

theorem getString_of_find {preString stream field rest : List UInt8}
    (hfind : find preString stream = (true, field ++ rest))
    (hfield : ∀ c ∈ field, IsField postString c) (hroom : field.length ≤ n)
    (hbuffer : n < buffer.length) :
    getString preString postString buffer (n + 1 : ℕ) stream =
      getStringLoop postString (n + 1 : ℕ) (store (buffer.set 0 0) 0 field) field.length rest := by
  have hput : put buffer 0 0 = some (buffer.set 0 0) := if_pos (by omega)
  simp only [getString, hfind, hput, Option.bind_eq_bind, Option.bind_some]
  rw [getStringLoop_field hfield (by omega) (by rw [List.length_set]; omega), Nat.zero_add]

theorem length_store_field {field : List UInt8} (h : field.length ≤ buffer.length) :
    (store (buffer.set 0 0) 0 field).length = buffer.length := by
  rw [length_store (by rw [List.length_set]; omega), List.length_set]

section Ends

variable {preString stream field rest : List UInt8}
variable (hfield : ∀ c ∈ field, IsField postString c) (hbuffer : n < buffer.length)

include hfield hbuffer

theorem getString_of_full (hfind : find preString stream = (true, field ++ rest))
    (hfull : field.length = n) :
    getString preString postString buffer (n + 1 : ℕ) stream =
      some ((n : ℤ), field ++ [0] ++ buffer.drop (n + 1), rest) := by
  have hlen := length_store_field (show field.length ≤ buffer.length by omega)
  rw [getString_of_find hfind hfield hfull.le hbuffer, hfull, getStringLoop_full (by omega),
    ← hfull, store_field (by omega) (by simp), List.length_singleton]

theorem getString_of_end (hpost : postString.headD 0 ≠ 0)
    (hfind : find preString stream = (true, field ++ postString.headD 0 :: rest))
    (hlt : field.length < n) :
    getString preString postString buffer (n + 1 : ℕ) stream =
      some (((n + 1 : ℕ) : ℤ), field ++ List.replicate (n + 1 - field.length) 0 ++
        buffer.drop (n + 1), rest) := by
  have hlen := length_store_field (show field.length ≤ buffer.length by omega)
  have hall : field.length + (n + 1 - field.length) = n + 1 := by omega
  have hne : List.replicate (n + 1 - field.length) (0 : UInt8) ≠ [] := by
    rw [ne_eq, List.replicate_eq_nil_iff]
    omega
  rw [getString_of_find hfind hfield hlt.le hbuffer, getStringLoop_end hpost hlt (by omega),
    store_field (by omega) hne, List.length_replicate, hall]

theorem getString_of_timeout (hfind : find preString stream = (true, field ++ rest))
    (hlt : field.length < n) (hzero : rest.headD 0 = 0) :
    getString preString postString buffer (n + 1 : ℕ) stream =
      some (0, store (buffer.set 0 0) 0 field, rest.tail) :=
  (getString_of_find hfind hfield hlt.le hbuffer).trans (getStringLoop_timeout hlt hzero)

end Ends

/-- With no length at all the first byte of the buffer is stored to. -/
theorem getString_of_nonpos (preString postString buffer : List UInt8) {length : ℤ}
    (hlength : length ≤ 0) (stream : List UInt8) :
    getString preString postString buffer length stream =
      if (find preString stream).1 = false then some (0, buffer, (find preString stream).2)
      else if buffer = [] then none
      else some (0, buffer.set 0 0, (find preString stream).2) := by
  rcases hfind : find preString stream with ⟨found, behind⟩
  cases found with
  | false => simp [getString, hfind]
  | true =>
    cases buffer with
    | nil => simp [getString, hfind, put]
    | cons b buffer =>
      have hloop : getStringLoop postString length (0 :: buffer) 0 behind =
          some (0, 0 :: buffer, behind) := by
        cases behind <;> rw [getStringLoop, if_neg (by omega)] <;> rfl
      simp [getString, hfind, put, hloop]

end GetString

/-- `getString` with a length that the buffer has stores nothing beyond it.  It returns 0 where the
text in front of the field is not found, or a timeout comes before the end of the field; and else
the buffer holds the field as a string.  It returns `length` when it has met the end of the field,
however short that was, and `length - 1` when the room ended before.  With a length of 0 or less it
stores to the first byte all the same, once the text in front is found. -/
theorem getString_law (preString postString buffer stream : List UInt8) :
    (∀ n < buffer.length,
      ((find preString stream).1 = false ∧
        getString preString postString buffer (n + 1 : ℕ) stream =
          some (0, buffer, (find preString stream).2)) ∨
      ((find preString stream).1 = true ∧ ∃ field rest,
        (find preString stream).2 = field ++ rest ∧ (∀ c ∈ field, IsField postString c) ∧
          ((field.length < n ∧ rest.head? = some (postString.headD 0) ∧ postString.headD 0 ≠ 0 ∧
              getString preString postString buffer (n + 1 : ℕ) stream =
                some (((n + 1 : ℕ) : ℤ), field ++ List.replicate (n + 1 - field.length) 0 ++
                  buffer.drop (n + 1), rest.tail)) ∨
            (field.length = n ∧ getString preString postString buffer (n + 1 : ℕ) stream =
              some ((n : ℤ), field ++ [0] ++ buffer.drop (n + 1), rest)) ∨
            (field.length < n ∧ rest.headD 0 = 0 ∧
              getString preString postString buffer (n + 1 : ℕ) stream =
                some (0, store (buffer.set 0 0) 0 field, rest.tail))))) ∧
    ∀ length ≤ 0, getString preString postString buffer length stream =
      if (find preString stream).1 = false then some (0, buffer, (find preString stream).2)
      else if buffer = [] then none
      else some (0, buffer.set 0 0, (find preString stream).2) := by
  refine ⟨fun n hbuffer => ?_,
    fun _ hlength => getString_of_nonpos preString postString buffer hlength stream⟩
  rcases hfind : find preString stream with ⟨found, behind⟩
  cases found with
  | false => exact Or.inl ⟨rfl, by simp only [getString, hfind]⟩
  | true =>
    obtain ⟨field, rest, rfl, hfield, hend⟩ := exists_field postString n behind
    refine Or.inr ⟨rfl, field, rest, rfl, hfield, ?_⟩
    have htimeout (hlt : field.length < n) (hzero : rest.headD 0 = 0) :=
      getString_of_timeout hfield hbuffer hfind hlt hzero
    rcases hend with hfull | ⟨hlt, hzero | hhead⟩
    · exact Or.inr (Or.inl ⟨hfull, getString_of_full hfield hbuffer hfind hfull⟩)
    · exact Or.inr (Or.inr ⟨hlt, hzero, htimeout hlt hzero⟩)
    · obtain ⟨rest, rfl⟩ := List.head?_eq_some_iff.1 hhead
      -- An end text that is empty ends the field where a timeout does.
      by_cases hpost : postString.headD 0 = 0
      · exact Or.inr (Or.inr ⟨hlt, hpost, htimeout hlt hpost⟩)
      · exact Or.inl ⟨hlt, hhead, hpost, getString_of_end hfield hbuffer hpost hfind hlt⟩

/-! ## The IMEI -/

/-- The reading of `getIMEI`. -/
def imeiString (imei stream : List UInt8) : Option (ℤ × List UInt8 × List UInt8) :=
  getString (ascii "\r\n") (ascii "\r\n") imei 16 stream

/-- The answer to `AT+GSN`: what the modem says before it, some `\r` and a `\n`, the 15 digits, and
the end of their line and the next `\r`. -/
def gsnAnswer (before : List UInt8) (k : ℕ) (digits rest : List UInt8) : List UInt8 :=
  before ++ (List.replicate k 13 ++ 10 :: (digits ++ 13 :: 10 :: 13 :: rest))

section Imei

variable {imei before digits : List UInt8}

theorem find_crlf {u : List UInt8} (hu : Matcher.Misses [13, 10] u) (hnul : 0 ∉ u)
    (rest : List UInt8) : find (ascii "\r\n") (u ++ (13 :: 10 :: rest)) = (true, rest) :=
  (find_eq_true_iff (by decide) (by decide) (by decide) _ _).2
    ⟨u, hu, hnul, rfl⟩

/-- What the modem says first, and an even number of `\r`, are missed. -/
theorem misses_before (hbefore : ∀ c ∈ before, c ≠ 0 ∧ c ≠ 13) (j : ℕ) :
    Matcher.Misses [13, 10] (before ++ List.replicate (2 * j) 13) ∧
      0 ∉ before ++ List.replicate (2 * j) 13 := by
  refine ⟨(Matcher.misses_of_forall_ne fun c hc => (hbefore c hc).2).trans
    (Matcher.misses_replicate (by decide) j), ?_⟩
  rw [List.mem_append, not_or]
  exact ⟨fun h => (hbefore 0 h).1 rfl, fun h => absurd (List.eq_of_mem_replicate h) (by decide)⟩

theorem find_gsnAnswer_odd (hbefore : ∀ c ∈ before, c ≠ 0 ∧ c ≠ 13) (digits : List UInt8) (j : ℕ)
    (rest : List UInt8) : find (ascii "\r\n") (gsnAnswer before (2 * j + 1) digits rest) =
      (true, digits ++ 13 :: 10 :: 13 :: rest) := by
  have hsplit : gsnAnswer before (2 * j + 1) digits rest =
      before ++ List.replicate (2 * j) 13 ++ (13 :: 10 :: (digits ++ 13 :: 10 :: 13 :: rest)) := by
    rw [gsnAnswer, List.replicate_succ', List.append_assoc, List.append_assoc]
    rfl
  rw [hsplit]
  exact find_crlf (misses_before hbefore j).1 (misses_before hbefore j).2 _

/-- Behind an even number of `\r` it is missed, and the line with it. -/
theorem find_gsnAnswer_even (hbefore : ∀ c ∈ before, c ≠ 0 ∧ c ≠ 13)
    (hdigits : ∀ c ∈ digits, c ≠ 0 ∧ c ≠ 13) (j : ℕ) (rest : List UInt8) :
    find (ascii "\r\n") (gsnAnswer before (2 * j) digits rest) = (true, 13 :: rest) := by
  have hsplit : gsnAnswer before (2 * j) digits rest =
      before ++ List.replicate (2 * j) 13 ++ (10 :: digits) ++ (13 :: 10 :: 13 :: rest) := by
    simp [gsnAnswer]
  have hline : ∀ c ∈ 10 :: digits, c ≠ 0 ∧ c ≠ 13 :=
    List.forall_mem_cons.2 ⟨⟨by decide, by decide⟩, hdigits⟩
  rw [hsplit]
  refine find_crlf ((misses_before hbefore j).1.trans
    (Matcher.misses_of_forall_ne fun c hc => (hline c hc).2)) ?_ _
  rw [List.mem_append, not_or]
  exact ⟨(misses_before hbefore j).2, fun h => (hline 0 h).1 rfl⟩

end Imei

/-- `getIMEI` reads the IMEI exactly when the number of `\r` in front of its line is odd.  When it
is even, as with the echo of the command, it passes over the whole line, and gets 16 with an empty
string. -/
theorem imeiString_law (imei : List UInt8) (himei : 15 < imei.length) (before digits : List UInt8)
    (hbefore : ∀ c ∈ before, c ≠ 0 ∧ c ≠ 13) (hdigits : ∀ c ∈ digits, c ≠ 0 ∧ c ≠ 13)
    (hlen : digits.length = 15) (k : ℕ) (rest : List UInt8) :
    imeiString imei (gsnAnswer before k digits rest) =
      if k % 2 = 1 then some (15, digits ++ [0] ++ imei.drop 16, 13 :: 10 :: 13 :: rest)
      else some (16, List.replicate 16 0 ++ imei.drop 16, rest) := by
  have hcr {c : UInt8} (h : c ≠ 0 ∧ c ≠ 13) : IsField (ascii "\r\n") c := h
  split_ifs with hodd
  · obtain ⟨j, rfl⟩ : ∃ j, k = 2 * j + 1 := ⟨k / 2, by omega⟩
    exact getString_of_full (fun c hc => hcr (hdigits c hc)) himei
      (find_gsnAnswer_odd hbefore digits j rest) hlen
  · obtain ⟨j, rfl⟩ : ∃ j, k = 2 * j := ⟨k / 2, by omega⟩
    exact getString_of_end (fun _ h => absurd h List.not_mem_nil) himei (by decide)
      (find_gsnAnswer_even hbefore hdigits j rest) (Nat.succ_pos 14)

theorem gsn_of_all {bs : List UInt8} (h : bs.all (fun c => c ≠ 0 ∧ c ≠ 13) = true) :
    ∀ c ∈ bs, c ≠ 0 ∧ c ≠ 13 := fun c hc => of_decide_eq_true (List.all_eq_true.1 h c hc)

/-- With the echo of the command nothing is read. -/
theorem imeiString_law_echo :
    imeiString (List.replicate 16 7) (gsnAnswer (ascii "AT+GSN") 2 (ascii "123456789012345") []) =
      some (16, List.replicate 16 0, []) :=
  imeiString_law (List.replicate 16 7) (by decide) (ascii "AT+GSN") (ascii "123456789012345")
    (gsn_of_all (by decide)) (gsn_of_all (by decide)) (by decide) 2 []

end Bbd.Modem
