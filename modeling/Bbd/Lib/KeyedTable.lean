import Mathlib.Data.List.Nodup

/-!
# Tables with a primary key

A table is a list of rows whose keys are distinct; the structure carries that fact, so a table with
two rows of one key cannot be built.  `update` is `UPDATE … SET … WHERE`, `insert?` is `INSERT`,
which fails on a key that is taken.  A query returns its rows in no particular order: `RowOrder` is
a choice of order for one query.
-/

/-- A list of rows with distinct keys. -/
@[ext]
structure KeyedTable (ρ κ : Type*) (key : ρ → κ) where
  rows : List ρ
  nodup : (rows.map key).Nodup

/-- An order in which a query hands over its rows. -/
structure RowOrder (ρ : Type*) where
  order : List ρ → List ρ
  perm : ∀ l, (order l).Perm l

namespace RowOrder

/-- The rows as the table lists them. -/
def asListed (ρ : Type*) : RowOrder ρ := ⟨id, fun _ => List.Perm.refl _⟩

end RowOrder

namespace KeyedTable

variable {ρ κ : Type*} {key : ρ → κ}

/-- A table without rows. -/
def empty : KeyedTable ρ κ key := ⟨[], List.nodup_nil⟩

/-- `UPDATE … SET f WHERE p`, for an `f` that keeps the key. -/
def update (t : KeyedTable ρ κ key) (p : ρ → Bool) (f : ρ → ρ) (hf : ∀ r, key (f r) = key r) :
    KeyedTable ρ κ key where
  rows := t.rows.map fun r => if p r then f r else r
  nodup := by
    have hkey : (key ∘ fun r => if p r then f r else r) = key := by
      funext r
      simp only [Function.comp_apply]
      split_ifs
      · exact hf r
      · rfl
    rw [List.map_map, hkey]
    exact t.nodup

/-- `ROW_COUNT` of an update: the rows that it writes. -/
def rowCount (t : KeyedTable ρ κ key) (p : ρ → Bool) : ℕ := t.rows.countP p

/-- `INSERT`, at the end of the table. -/
def insert? [DecidableEq κ] (t : KeyedTable ρ κ key) (r : ρ) : Option (KeyedTable ρ κ key) :=
  if h : key r ∈ t.rows.map key then none
  else some ⟨t.rows ++ [r], by
    rw [List.map_append, List.nodup_append]
    refine ⟨t.nodup, by simp, fun a ha b hb => ?_⟩
    rw [List.map_singleton, List.mem_singleton] at hb
    rintro rfl
    exact h (hb ▸ ha)⟩

theorem rows_update (t : KeyedTable ρ κ key) (p : ρ → Bool) (f : ρ → ρ)
    (hf : ∀ r, key (f r) = key r) :
    (t.update p f hf).rows = t.rows.map fun r => if p r then f r else r :=
  rfl

theorem rows_insert? [DecidableEq κ] {t t' : KeyedTable ρ κ key} {r : ρ}
    (h : t.insert? r = some t') : t'.rows = t.rows ++ [r] := by
  unfold insert? at h
  split_ifs at h
  rw [← Option.some.inj h]

theorem insert?_eq_none_iff [DecidableEq κ] {t : KeyedTable ρ κ key} {r : ρ} :
    t.insert? r = none ↔ key r ∈ t.rows.map key := by
  unfold insert?
  split_ifs with h <;> simp [h]

theorem eq_of_key_eq (t : KeyedTable ρ κ key) {r s : ρ} (hr : r ∈ t.rows) (hs : s ∈ t.rows)
    (h : key r = key s) : r = s :=
  List.inj_on_of_nodup_map t.nodup hr hs h

theorem rowCount_pos_iff (t : KeyedTable ρ κ key) (p : ρ → Bool) :
    0 < t.rowCount p ↔ ∃ r ∈ t.rows, p r :=
  List.countP_pos_iff

theorem countP_of_drop (t : KeyedTable ρ κ key) {p q : ρ → Bool} {r : ρ} (hr : r ∈ t.rows)
    (hp : p r) (hq : ¬ q r) (h : ∀ s ∈ t.rows, key s ≠ key r → q s = p s) :
    t.rows.countP q + 1 = t.rows.countP p := by
  obtain ⟨pre, post, hsplit⟩ := List.append_of_mem hr
  have hnodup := t.nodup
  rw [hsplit, List.map_append, List.map_cons, List.nodup_append] at hnodup
  obtain ⟨-, hrest, hdisjoint⟩ := hnodup
  have hne : ∀ s, s ∈ pre ∨ s ∈ post → key s ≠ key r := by
    rintro s (hs | hs)
    · exact hdisjoint _ (List.mem_map_of_mem hs) _ List.mem_cons_self
    · intro heq
      exact (List.nodup_cons.1 hrest).1 (heq ▸ List.mem_map_of_mem hs)
  have hpre : pre.countP q = pre.countP p :=
    List.countP_congr fun s hs => by
      rw [h s (by rw [hsplit]; simp [hs]) (hne s (Or.inl hs))]
  have hpost : post.countP q = post.countP p :=
    List.countP_congr fun s hs => by
      rw [h s (by rw [hsplit]; simp [hs]) (hne s (Or.inr hs))]
  rw [hsplit, List.countP_append, List.countP_append, List.countP_cons_of_neg hq,
    List.countP_cons_of_pos hp, hpre, hpost]
  omega

theorem rows_update_of_forall_not (t : KeyedTable ρ κ key) (p : ρ → Bool) (f : ρ → ρ)
    (hf : ∀ r, key (f r) = key r) (h : ∀ r ∈ t.rows, ¬ p r) :
    (t.update p f hf).rows = t.rows := by
  rw [rows_update]
  conv_rhs => rw [← List.map_id t.rows]
  refine List.map_congr_left fun r hr => ?_
  rw [if_neg (h r hr), id]

end KeyedTable

namespace List

variable {ρ τ : Type*}

/-- A selection does not see a rewriting of the rows that keeps what it selects by and shows. -/
theorem map_filter_map_congr {rows : List ρ} {g : ρ → ρ} {q : ρ → Bool} {view : ρ → τ}
    (hq : ∀ r ∈ rows, q (g r) = q r) (hview : ∀ r ∈ rows, q r → view (g r) = view r) :
    ((rows.map g).filter q).map view = (rows.filter q).map view := by
  induction rows with
  | nil => rfl
  | cons r rs ih =>
    obtain ⟨hqr, hqs⟩ := List.forall_mem_cons.1 hq
    obtain ⟨hvr, hvs⟩ := List.forall_mem_cons.1 hview
    rw [List.map_cons, List.filter_cons, List.filter_cons, hqr]
    split_ifs with h
    · rw [List.map_cons, List.map_cons, hvr h, ih hqs hvs]
    · exact ih hqs hvs

theorem countP_lt_of_imp {rows : List ρ} {p q : ρ → Bool} (h : ∀ r ∈ rows, p r → q r)
    (hdrop : ∃ r ∈ rows, q r ∧ ¬ p r) : rows.countP p < rows.countP q := by
  obtain ⟨r, hr, hq, hp⟩ := hdrop
  obtain ⟨pre, post, rfl⟩ := List.append_of_mem hr
  have hpre : pre.countP p ≤ pre.countP q :=
    List.countP_mono_left fun x hx => h x (by simp [hx])
  have hpost : post.countP p ≤ post.countP q :=
    List.countP_mono_left fun x hx => h x (by simp [hx])
  simp only [List.countP_append, List.countP_cons_of_neg hp, List.countP_cons_of_pos hq]
  omega

end List
