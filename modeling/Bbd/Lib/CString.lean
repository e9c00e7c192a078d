import Mathlib.Data.List.Basic
import Mathlib.Data.List.Infix

/-!
# C strings in memory

Memory is a list of bytes, and an address is a place in it.  The string at an address ends before
the first zero byte.  The functions of `string.h` look through memory from an address on; `none` is
undefined behaviour, where they would go beyond the memory, and an address that is found or not is
an `Option` of its own, `none` being the null pointer.
-/

namespace CString

/-- The first place where the rest of the memory is a hit, before the string ends. -/
def scan (hit : List UInt8 → Bool) : List UInt8 → Option (Option ℕ)
  | [] => none
  | b :: bs =>
    if hit (b :: bs) then some (some 0)
    else if b = 0 then some none
    else (scan hit bs).map (Option.map (· + 1))

/-- `strchr(p, c)`. -/
def strchr (mem : List UInt8) (p : ℕ) (c : UInt8) : Option (Option ℕ) :=
  (scan (fun bs => bs.head? = some c) (mem.drop p)).map (Option.map (p + ·))

/-- `strstr(p, needle)`. -/
def strstr (mem : List UInt8) (p : ℕ) (needle : List UInt8) : Option (Option ℕ) :=
  (scan (fun bs => needle <+: bs) (mem.drop p)).map (Option.map (p + ·))

/-- The bytes up to the first zero. -/
def untilZero : List UInt8 → Option (List UInt8)
  | [] => none
  | b :: bs => if b = 0 then some [] else (untilZero bs).map (b :: ·)

/-- The string at an address. -/
def stringAt (mem : List UInt8) (p : ℕ) : Option (List UInt8) := untilZero (mem.drop p)

/-- `*p = b`. -/
def poke (mem : List UInt8) (p : ℕ) (b : UInt8) : Option (List UInt8) :=
  if p < mem.length then some (mem.set p b) else none

/-- `strcpy(dest, p)`, with the string at `p`. -/
def strcpy (dest source : List UInt8) : Option (List UInt8) :=
  if source.length < dest.length then some (source ++ 0 :: dest.drop (source.length + 1)) else none

/-! ## Where a search ends -/

variable {mem u rest : List UInt8} {p : ℕ}

theorem scan_append {hit : List UInt8 → Bool} (hzero : 0 ∉ u)
    (hmiss : ∀ t, t ≠ [] → t <:+ u → hit (t ++ rest) = false) :
    scan hit (u ++ rest) = (scan hit rest).map (Option.map (u.length + ·)) := by
  induction u with
  | nil => simp
  | cons b u ih =>
    rw [List.mem_cons, not_or] at hzero
    have hb : hit (b :: (u ++ rest)) = false :=
      hmiss (b :: u) (List.cons_ne_nil b u) (List.suffix_refl _)
    rw [List.cons_append, scan, if_neg (by rw [hb]; exact Bool.false_ne_true),
      if_neg (Ne.symm hzero.1),
      ih hzero.2 fun t ht hsuffix => hmiss t ht (hsuffix.trans (List.suffix_cons b u)),
      Option.map_map]
    refine congrFun (congrArg Option.map ?_) _
    funext o
    cases o <;> simp [Nat.add_assoc, Nat.add_comm]

theorem drop_of_length_eq {pre : List UInt8} (hmem : mem = pre ++ rest) (hp : p = pre.length) :
    mem.drop p = rest := by
  rw [hmem, hp, List.drop_left]

section Search

variable {pre : List UInt8} {c : UInt8}

theorem strchr_eq (hmem : mem = pre ++ (u ++ c :: rest)) (hp : p = pre.length)
    (hzero : 0 ∉ u) (hc : c ∉ u) : strchr mem p c = some (some (p + u.length)) := by
  rw [strchr, drop_of_length_eq hmem hp, scan_append hzero, scan, if_pos (by simp)]
  · rfl
  · intro t ht hsuffix
    cases t with
    | nil => exact absurd rfl ht
    | cons b t =>
      refine decide_eq_false fun h => hc ?_
      rw [List.cons_append, List.head?_cons, Option.some_inj] at h
      exact h ▸ hsuffix.mem List.mem_cons_self

theorem not_isPrefix_of_notMem {needle : List UInt8} (hc : c ∉ u) {t : List UInt8} (ht : t ≠ [])
    (hsuffix : t <:+ u) : decide (c :: needle <+: t ++ rest) = false := by
  cases t with
  | nil => exact absurd rfl ht
  | cons b t =>
    refine decide_eq_false fun h => hc ?_
    rw [List.cons_append, List.cons_prefix_cons] at h
    exact h.1 ▸ hsuffix.mem List.mem_cons_self

theorem strstr_eq_of_miss {needle : List UInt8} (hmem : mem = pre ++ (u ++ (needle ++ rest)))
    (hp : p = pre.length) (hzero : 0 ∉ u) (hneedle : needle ≠ [])
    (hmiss : ∀ t, t ≠ [] → t <:+ u → decide (needle <+: t ++ (needle ++ rest)) = false) :
    strstr mem p needle = some (some (p + u.length)) := by
  cases needle with
  | nil => exact absurd rfl hneedle
  | cons c needle =>
    rw [strstr, drop_of_length_eq hmem hp, scan_append hzero hmiss, List.cons_append, scan,
      if_pos (decide_eq_true ⟨rest, rfl⟩)]
    rfl

theorem strstr_eq (needle : List UInt8) (hmem : mem = pre ++ (u ++ (c :: needle ++ rest)))
    (hp : p = pre.length) (hzero : 0 ∉ u) (hc : c ∉ u) :
    strstr mem p (c :: needle) = some (some (p + u.length)) :=
  strstr_eq_of_miss hmem hp hzero (List.cons_ne_nil c needle) fun _ => not_isPrefix_of_notMem hc

/-- A needle that begins with the one `c` of a text is at that place, or behind the text. -/
theorem strstr_eq_of_cons {v w : List UInt8} (needle : List UInt8)
    (hmem : mem = pre ++ (v ++ c :: w ++ (c :: needle ++ rest))) (hp : p = pre.length)
    (hzero : 0 ∉ v ++ c :: w) (hv : c ∉ v) (hw : c ∉ w)
    (hneedle : decide (needle <+: w ++ (c :: needle ++ rest)) = false) :
    strstr mem p (c :: needle) = some (some (p + (v ++ c :: w).length)) := by
  refine strstr_eq_of_miss hmem hp hzero (List.cons_ne_nil c needle) fun t ht hsuffix => ?_
  cases t with
  | nil => exact absurd rfl ht
  | cons b t =>
    refine decide_eq_false fun h => ?_
    rw [List.cons_append, List.cons_prefix_cons] at h
    obtain ⟨rfl, h⟩ := h
    obtain ⟨s, hs⟩ := hsuffix
    obtain ⟨-, -, rfl⟩ := (List.append_cons_inj_of_notMem hv hw).1 hs.symm
    exact of_decide_eq_false hneedle h

theorem strstr_eq_null (needle : List UInt8) (hmem : mem = pre ++ (u ++ 0 :: rest))
    (hp : p = pre.length) (hzero : 0 ∉ u) (hc : c ∉ u) (hc0 : c ≠ 0) :
    strstr mem p (c :: needle) = some none := by
  rw [strstr, drop_of_length_eq hmem hp,
    scan_append hzero fun t => not_isPrefix_of_notMem hc, scan, if_neg, if_pos rfl]
  · rfl
  · simp [List.cons_prefix_cons, hc0]

theorem stringAt_eq (hmem : mem = pre ++ (u ++ 0 :: rest)) (hp : p = pre.length) (hzero : 0 ∉ u) :
    stringAt mem p = some u := by
  rw [stringAt, drop_of_length_eq hmem hp]
  clear hmem
  induction u with
  | nil => rfl
  | cons b u ih =>
    rw [List.mem_cons, not_or] at hzero
    rw [List.cons_append, untilZero, if_neg (Ne.symm hzero.1), ih hzero.2]
    rfl

theorem poke_eq (hmem : mem = pre ++ c :: rest) (hp : p = pre.length) (b : UInt8) :
    poke mem p b = some (pre ++ b :: rest) := by
  rw [poke, hmem, hp, if_pos (by simp), List.set_append_right _ _ (le_refl _), Nat.sub_self]
  rfl

end Search

end CString
