import Bbd.Server.Growth
import Bbd.Wire

/-!
# The sizes of a reply

The number of elements, the length of the message and the length of the whole reply are each
computed in 16 bits, from a list of any length.  They all come out right exactly when the whole
reply, its two length bytes included, has fewer than 65536 bytes (`sizesHold_iff`).
-/

namespace Bbd.Server

/-- The sizes on the way of a reply of `n` elements of `width` bytes: the buffer `rsp` holds what
its loop writes, `rsp_len` is the length of all elements, and the buffer of `send_rsp_msg` has room
for the length and the message. -/
structure SizesHold (width n : ℕ) (rsp : Buffer) (rspLen : UInt16) (totalReplyMsg : Buffer) :
    Prop where
  crafted : rsp.bytes.length ≤ rsp.size.toNat
  whole : rspLen.toNat = width * n
  total : 2 + rspLen.toNat ≤ totalReplyMsg.size.toNat

theorem sizesHold_iff {α : Type*} (c : RecordCodec α) (hwidth : 0 < c.width) (e : Endian)
    (l : List α) (size : UInt16) (hsize : size = UInt16.ofNat (c.width * l.length)) :
    SizesHold c.width l.length ⟨size, c.encodeAll (l.take (UInt16.ofNat l.length).toNat)⟩
        (UInt16.ofNat (c.width * l.length))
        (totalReplyMsg e (c.encodeAll (l.take (UInt16.ofNat l.length).toNat))
          (UInt16.ofNat (c.width * l.length))) ↔
      c.width * l.length ≤ 65533 := by
  have hnat : (UInt16.ofNat (c.width * l.length)).toNat = c.width * l.length % 65536 :=
    UInt16.toNat_ofNat'
  have htotal : (totalReplyMsg e (c.encodeAll (l.take (UInt16.ofNat l.length).toNat))
      (UInt16.ofNat (c.width * l.length))).size.toNat =
        (2 + c.width * l.length % 65536) % 65536 := by
    rw [← hnat]
    exact UInt16.toNat_add _ _
  constructor
  · rintro ⟨-, hwhole, htot⟩
    rw [htotal, hnat] at htot
    rw [hnat] at hwhole
    omega
  · intro hle
    have hn : l.length ≤ c.width * l.length := Nat.le_mul_of_pos_left _ hwidth
    refine ⟨?_, by rw [hnat, Nat.mod_eq_of_lt (by omega)], by rw [htotal, hnat]; omega⟩
    show (c.encodeAll (l.take (UInt16.ofNat l.length).toNat)).length ≤ size.toNat
    refine Nat.le_of_eq ?_
    rw [hsize, hnat, UInt16.toNat_ofNat', Nat.mod_eq_of_lt (by omega), Nat.mod_eq_of_lt (by omega),
      List.take_length, RecordCodec.length_encodeAll, Nat.mul_comm]

/-- The sizes of a reply hold exactly up to 8191 schedules, and up to 32766 valve ids. -/
theorem reply_sizes_iff (e : Endian) :
    (∀ sches : List Schedule,
      SizesHold 8 sches.length (craftActiveSchedulesRsp e sches) (UInt16.ofNat (8 * sches.length))
          (totalReplyMsg e (craftActiveSchedulesRsp e sches).bytes
            (UInt16.ofNat (8 * sches.length))) ↔
        sches.length ≤ 8191) ∧
    ∀ valveIds : List UInt16,
      SizesHold 2 valveIds.length (craftDeviceValvesRsp e valveIds)
          (UInt16.ofNat (2 * valveIds.length))
          (totalReplyMsg e (craftDeviceValvesRsp e valveIds).bytes
            (UInt16.ofNat (2 * valveIds.length))) ↔
        valveIds.length ≤ 32766 := by
  have hmul (w n : ℕ) : UInt16.ofNat w * UInt16.ofNat n = UInt16.ofNat (w * n) :=
    (UInt16.ofNat_mul w n).symm
  constructor
  · intro sches
    exact (sizesHold_iff (scheduleCodec e e) (Nat.succ_pos 7) e sches _ (hmul 8 _)).trans
      (by rw [width_scheduleCodec]; omega)
  · intro valveIds
    exact (sizesHold_iff (valveIdCodec e e) (Nat.succ_pos 1) e valveIds _ (hmul 2 _)).trans
      (by rw [width_valveIdCodec]; omega)

/-- The database returns 8192 schedules of a device; the length of the reply wraps to 0, and so does
the size of the buffer that the loop fills with 65536 bytes. -/
theorem not_sizesHold_crowded :
    ∃ sches sents, dbGetActiveSchedules .none (.asListed _) 1 (Db.crowded 8192) =
        some (sches, sents) ∧
      (craftActiveSchedulesRsp .little sches).size = 0 ∧
      (craftActiveSchedulesRsp .little sches).bytes.length = 65536 ∧
      ¬ SizesHold 8 sches.length (craftActiveSchedulesRsp .little sches)
        (UInt16.ofNat (8 * sches.length))
        (totalReplyMsg .little (craftActiveSchedulesRsp .little sches).bytes
          (UInt16.ofNat (8 * sches.length))) := by
  obtain ⟨sches, sents, hfetch, hlen⟩ := fetch_crowded (n := 8192) (by decide)
  have hbody : (craftActiveSchedulesRsp .little sches).bytes =
      (scheduleCodec .little .little).encodeAll (sches.take (UInt16.ofNat sches.length).toNat) :=
    rfl
  refine ⟨sches, sents, hfetch, by rw [craftActiveSchedulesRsp, hlen]; rfl, ?_, fun h => ?_⟩
  · rw [hbody, RecordCodec.length_encodeAll, hlen, List.length_take, hlen]
    rfl
  · have := h.whole
    rw [hlen] at this
    exact absurd this (by decide)

end Bbd.Server
