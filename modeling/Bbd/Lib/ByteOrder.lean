import Mathlib.Data.List.Basic
import Mathlib.Tactic.Common

/-!
# Byte order and fixed-width records

A 16-bit variable lies in memory in the byte order of its host; `hton16` is `htons` (and `ntohs`,
which is the same function).  Whatever the host, a value that goes through `hton16` and is copied
out byte by byte gives the two bytes high first (`store16_hton16`), and reading two such bytes and
going through `hton16` gives the value back (`hton16_load16`).

A `RecordCodec` is a record format of a fixed width with its round trip; a sequence of records is
decoded by the offsets alone.
-/

/-- The byte order of a host. -/
inductive Endian where
  | little
  | big
  deriving DecidableEq, Repr

namespace Endian

/-- The high byte of a 16-bit value. -/
def hi (x : UInt16) : UInt8 := UInt8.ofNat (x.toNat / 256)

/-- The low byte of a 16-bit value. -/
def lo (x : UInt16) : UInt8 := UInt8.ofNat (x.toNat % 256)

/-- The 16-bit value of a high and a low byte. -/
def join (h l : UInt8) : UInt16 := UInt16.ofNat (h.toNat * 256 + l.toNat)

/-- The bytes of a 16-bit variable, by increasing address. -/
def store16 : Endian → UInt16 → List UInt8
  | .little, x => [lo x, hi x]
  | .big, x => [hi x, lo x]

/-- The 16-bit variable at the first two of some bytes. -/
def load16 : Endian → List UInt8 → UInt16
  | .little, bs => join (bs.getD 1 0) (bs.getD 0 0)
  | .big, bs => join (bs.getD 0 0) (bs.getD 1 0)

/-- `htons` and `ntohs`. -/
def hton16 : Endian → UInt16 → UInt16
  | .little, x => join (lo x) (hi x)
  | .big, x => x

@[simp] theorem hi_join (h l : UInt8) : hi (join h l) = h := by
  have hh := h.toNat_lt
  have hl := l.toNat_lt
  apply UInt8.toNat_inj.1
  simp only [hi, join, UInt8.toNat_ofNat', UInt16.toNat_ofNat']
  omega

@[simp] theorem lo_join (h l : UInt8) : lo (join h l) = l := by
  have hh := h.toNat_lt
  have hl := l.toNat_lt
  apply UInt8.toNat_inj.1
  simp only [lo, join, UInt8.toNat_ofNat', UInt16.toNat_ofNat']
  omega

@[simp] theorem join_hi_lo (x : UInt16) : join (hi x) (lo x) = x := by
  have hx := x.toNat_lt
  apply UInt16.toNat_inj.1
  simp only [hi, lo, join, UInt8.toNat_ofNat', UInt16.toNat_ofNat']
  omega

theorem hi_eq_zero_iff (x : UInt16) : hi x = 0 ↔ x.toNat < 256 := by
  have hx := x.toNat_lt
  rw [← UInt8.toNat_inj, hi, UInt8.toNat_ofNat']
  show x.toNat / 256 % 256 = 0 ↔ _
  omega

theorem join_eq_zero_iff (h l : UInt8) : join h l = 0 ↔ h = 0 ∧ l = 0 := by
  have hh := h.toNat_lt
  have hl := l.toNat_lt
  rw [← UInt16.toNat_inj, ← UInt8.toNat_inj, ← UInt8.toNat_inj, join, UInt16.toNat_ofNat']
  show (h.toNat * 256 + l.toNat) % 65536 = 0 ↔ h.toNat = 0 ∧ l.toNat = 0
  omega

/-- Whatever the host, the bytes sent are the high one and the low one. -/
theorem store16_hton16 (e : Endian) (x : UInt16) : e.store16 (e.hton16 x) = [hi x, lo x] := by
  cases e <;> simp [store16, hton16]

theorem hton16_load16 (e : Endian) (h l : UInt8) (bs : List UInt8) :
    e.hton16 (e.load16 (h :: l :: bs)) = join h l := by
  cases e <;> simp [load16, hton16]

end Endian

/-! ## Records of a fixed width -/

/-- A record format: the writer, the reader (of the bytes from a record on) and the round trip. -/
structure RecordCodec (α : Type*) where
  width : ℕ
  encode : α → List UInt8
  decode : List UInt8 → α
  length_encode : ∀ a, (encode a).length = width
  decode_encode : ∀ a rest, decode (encode a ++ rest) = a

namespace RecordCodec

variable {α : Type*} (c : RecordCodec α)

/-- The records of a list, one after the other. -/
def encodeAll (l : List α) : List UInt8 := l.flatMap c.encode

/-- The records at the first `n` multiples of the width. -/
def decodeAll (n : ℕ) (bs : List UInt8) : List α :=
  (List.range n).map fun i => c.decode (bs.drop (i * c.width))

@[simp] theorem length_encodeAll (l : List α) : (c.encodeAll l).length = l.length * c.width := by
  induction l with
  | nil => simp [encodeAll]
  | cons a l ih =>
    rw [encodeAll, List.flatMap_cons, List.length_append, c.length_encode]
    show c.width + (c.encodeAll l).length = _
    rw [ih, List.length_cons, Nat.succ_mul, Nat.add_comm]

theorem encodeAll_append (l₁ l₂ : List α) :
    c.encodeAll (l₁ ++ l₂) = c.encodeAll l₁ ++ c.encodeAll l₂ :=
  List.flatMap_append

theorem take_encodeAll (l : List α) (n : ℕ) :
    (c.encodeAll l).take (n * c.width) = c.encodeAll (l.take n) := by
  rcases Nat.le_total n l.length with hn | hn
  · conv_lhs => rw [← List.take_append_drop n l, encodeAll_append]
    refine List.take_left' ?_
    rw [length_encodeAll, List.length_take_of_le hn]
  · rw [List.take_of_length_le hn, List.take_of_length_le]
    rw [length_encodeAll]
    exact Nat.mul_le_mul_right _ hn

theorem decodeAll_encodeAll (l : List α) (rest : List UInt8) :
    c.decodeAll l.length (c.encodeAll l ++ rest) = l := by
  apply List.ext_getElem
  · simp [decodeAll]
  · intro i h₁ h₂
    have hsplit : c.encodeAll l ++ rest =
        c.encodeAll (l.take i) ++ (c.encode l[i] ++ (c.encodeAll (l.drop (i + 1)) ++ rest)) := by
      have hdrop : c.encodeAll (l.drop i) = c.encode l[i] ++ c.encodeAll (l.drop (i + 1)) := by
        rw [List.drop_eq_getElem_cons h₂]
        exact List.flatMap_cons
      conv_lhs => rw [← List.take_append_drop i l, encodeAll_append, hdrop]
      simp only [List.append_assoc]
    have hlen : (c.encodeAll (l.take i)).length = i * c.width := by
      rw [length_encodeAll, List.length_take_of_le (Nat.le_of_lt h₂)]
    simp only [decodeAll, List.getElem_map, List.getElem_range]
    rw [hsplit, ← hlen, List.drop_left, c.decode_encode]

end RecordCodec
