import Mathlib.Data.Set.Basic

/-!
# A board and its reader

A publisher keeps a set of live items and remembers which items it has announced; a reader holds a
copy.  The reader is told nothing about an item that is announced, so the copy has to contain every
item that is both live and announced: the board is then `Sound`.  Posting items that are not
announced and retiring items keeps a board sound, and so does announcing what the reader holds; the
reader holds all live items as soon as they are all announced.
-/

/-- The live and the announced items of a publisher, and the copy of its reader. -/
structure Board (ι : Type*) where
  live : Set ι
  announced : Set ι
  held : Set ι

namespace Board

variable {ι : Type*} {b b' : Board ι} {m : Set ι}

/-- The reader holds what is live and announced. -/
def Sound (b : Board ι) : Prop := b.live ∩ b.announced ⊆ b.held

/-- The publisher moves: it retires items, posts items without announcing them, and announces items
of `m`.  The reader holds what it held. -/
structure Moves (m : Set ι) (b b' : Board ι) : Prop where
  held : b'.held = b.held
  announced : b'.announced ⊆ b.announced ∪ m
  live : ∀ x ∈ b'.live, x ∈ b.live ∨ x ∉ b'.announced

theorem Moves.mono {m' : Set ι} (h : Moves m b b') (hm : m ⊆ m') : Moves m' b b' :=
  ⟨h.held, h.announced.trans (Set.union_subset_union_right _ hm), h.live⟩

/-- The reader takes over all live items. -/
def deliver (b : Board ι) : Board ι := { b with held := b.live }

theorem sound_of_live_eq_empty (h : b.live = ∅) : b.Sound := by
  rw [Sound, h, Set.empty_inter]
  exact Set.empty_subset _

theorem sound_deliver (b : Board ι) : b.deliver.Sound := Set.inter_subset_left

/-- Announcing what the reader holds keeps a board sound, whatever is posted and retired. -/
theorem Sound.moves (h : b.Sound) (hmoves : Moves m b b') (hm : m ⊆ b.held) : b'.Sound := by
  rintro x ⟨hlive, hannounced⟩
  rw [hmoves.held]
  rcases hmoves.announced hannounced with hold | hnew
  · rcases hmoves.live x hlive with hx | hx
    · exact h ⟨hx, hold⟩
    · exact absurd hannounced hx
  · exact hm hnew

/-- The reader of a sound board holds the live items once they are all announced. -/
theorem Sound.live_subset_held (h : b.Sound) (hall : b.live ⊆ b.announced) : b.live ⊆ b.held :=
  fun _ hx => h ⟨hx, hall hx⟩

end Board
