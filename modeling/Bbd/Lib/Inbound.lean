import Mathlib.Data.List.Basic
import Mathlib.Data.Int.Notation

/-!
# Receiving from a connection

The receiving side of a connection sees the bytes `incoming` and then its end: the peer has closed
(`recv` gives 0) or a timeout strikes (`recv` gives -1).  `recv` with `MSG_WAITALL` fills the buffer
as far as the bytes go and returns how many it wrote; the rest of the buffer keeps its content,
which for a buffer fresh from `malloc` is whatever the heap held.
-/

/-- What a connection still delivers, and whether it ends in a timeout. -/
structure Inbound where
  incoming : List UInt8
  timesOut : Bool
  deriving DecidableEq, Repr

/-- The content of a buffer of `n` bytes fresh from `malloc`. -/
def malloc (heap : ℕ → UInt8) (n : ℕ) : List UInt8 := (List.range n).map heap

@[simp] theorem length_malloc (heap : ℕ → UInt8) (n : ℕ) : (malloc heap n).length = n := by
  simp [malloc]

namespace Inbound

/-- `recv(fd, buf, len, MSG_WAITALL)`: the value returned, the buffer and the connection after it.
-/
def recv (c : Inbound) (buf : List UInt8) : ℤ × List UInt8 × Inbound :=
  if buf.length = 0 then (0, buf, c)
  else if c.incoming.length = 0 then (if c.timesOut then -1 else 0, buf, c)
  else ((min c.incoming.length buf.length : ℕ),
    c.incoming.take buf.length ++ buf.drop c.incoming.length,
    { c with incoming := c.incoming.drop buf.length })

theorem recv_of_le {c : Inbound} {buf : List UInt8} (h₀ : 0 < buf.length)
    (h : buf.length ≤ c.incoming.length) :
    c.recv buf = ((buf.length : ℤ), c.incoming.take buf.length,
      { c with incoming := c.incoming.drop buf.length }) := by
  rw [recv, if_neg (by omega), if_neg (by omega), Nat.min_eq_right h,
    List.drop_eq_nil_of_le h, List.append_nil]

theorem recv_of_lt {c : Inbound} {buf : List UInt8} (h₀ : 0 < c.incoming.length)
    (h : c.incoming.length < buf.length) :
    c.recv buf = ((c.incoming.length : ℤ), c.incoming ++ buf.drop c.incoming.length,
      { c with incoming := [] }) := by
  rw [recv, if_neg (by omega), if_neg (by omega), Nat.min_eq_left (Nat.le_of_lt h),
    List.take_of_length_le (Nat.le_of_lt h), List.drop_eq_nil_of_le (Nat.le_of_lt h)]

theorem recv_le_zero_iff (c : Inbound) (buf : List UInt8) :
    (c.recv buf).1 ≤ 0 ↔ buf.length = 0 ∨ c.incoming = [] := by
  rw [← List.length_eq_zero_iff]
  by_cases hbuf : buf.length = 0
  · simp [recv, hbuf]
  · by_cases hin : c.incoming.length = 0
    · simp only [recv, hbuf, hin, if_false, if_true, or_true, iff_true]
      split_ifs <;> decide
    · simp only [recv, hbuf, hin, if_false, or_self, iff_false]
      omega

end Inbound
