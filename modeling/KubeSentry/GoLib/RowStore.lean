import KubeSentry.GoLib.Table
import Mathlib.Algebra.Order.Ring.Int
import Mathlib.Data.List.Flatten
import Mathlib.Data.List.Pairwise

/-!
# Tables with ids, stamps and unique indexes

A table as an object-relational mapper keeps it.  Every row has an id that the
table assigns once, and the time of its last write.  `keys` lists the entries
that a row has in the unique indexes of the table, so a table with several
indexes gives them different constructors of `K`.

A `RowStore` carries what the database enforces: ids and index entries are
distinct.  A write that would break an index gives `none`.  Writes happen at
different times, and `elapsed` is the time between the last write and this one.

Compare-and-swap by time stamp rests on `Evolves`: a row that a write left is
later than everything before the write.  `Evolves.eq_of_stamp` concludes that a
row with the stamp it had before is the row it was before.
-/

namespace GoLib

/-- A row with the columns that the table keeps for it. -/
structure Stored (A : Type) where
  id : Int
  updatedAt : Int
  row : A
  deriving DecidableEq

structure RowStore {A K : Type} (keys : A → List K) where
  rows : List (Stored A)
  nextID : Int
  latest : Int
  ids_below : ∀ r ∈ rows, r.id < nextID
  ids_nodup : (rows.map fun r => r.id).Nodup
  past : ∀ r ∈ rows, r.updatedAt ≤ latest
  unique : (rows.flatMap fun r => keys r.row).Nodup

namespace RowStore

variable {A K : Type} {keys : A → List K}

/-- The table without rows. -/
def empty : RowStore keys where
  rows := []
  nextID := 1
  latest := 0
  ids_below := by simp
  ids_nodup := by simp
  past := by simp
  unique := by simp

/-- The time of the next write. -/
def now (t : RowStore keys) (elapsed : Nat) : Int :=
  t.latest + 1 + elapsed

theorem latest_lt_now (t : RowStore keys) (elapsed : Nat) : t.latest < t.now elapsed := by
  unfold now
  omega

/-- The row of an id. -/
def byID (t : RowStore keys) (k : Int) : Option (Stored A) :=
  Table.lookup (fun r : Stored A => r.id) k t.rows

variable {r r' : Stored A} {t t' : RowStore keys} {k expected : Int} {elapsed : Nat} {f : A → A}
  {a : A} {hf : ∀ a, keys (f a) = keys a}

/-- Two rows of one id are the same row. -/
theorem eq_of_id (t : RowStore keys) (hr : r ∈ t.rows) (hr' : r' ∈ t.rows) (hid : r.id = r'.id) :
    r = r' :=
  List.inj_on_of_nodup_map t.ids_nodup hr hr' hid

/-- Two rows that share an index entry are the same row. -/
theorem eq_of_key (t : RowStore keys) (hr : r ∈ t.rows) (hr' : r' ∈ t.rows) {key : K}
    (hkey : key ∈ keys r.row) (hkey' : key ∈ keys r'.row) : r = r' := by
  by_contra hne
  have hpairwise := (List.nodup_flatMap.mp t.unique).2
  have : Std.Symm (Function.onFun List.Disjoint fun r : Stored A => keys r.row) :=
    ⟨fun _ _ h _ ha hb => h hb ha⟩
  exact hpairwise.forall hr hr' hne hkey hkey'

/-! ## Writes -/

/-- The row that an insert adds. -/
def newRow (t : RowStore keys) (elapsed : Nat) (a : A) : Stored A :=
  { id := t.nextID, updatedAt := t.now elapsed, row := a }

def insert [DecidableEq K] (t : RowStore keys) (elapsed : Nat) (a : A) : Option (RowStore keys) :=
  if h : ((t.rows ++ [t.newRow elapsed a]).flatMap fun r => keys r.row).Nodup then
    some
      { rows := t.rows ++ [t.newRow elapsed a]
        nextID := t.nextID + 1
        latest := t.now elapsed
        ids_below := by
          intro r hr
          rcases List.mem_append.mp hr with hold | hnew
          · have := t.ids_below r hold
            omega
          · rw [List.mem_singleton.mp hnew]
            exact Int.lt_succ _
        ids_nodup := by
          rw [List.map_append, List.map_singleton]
          refine List.nodup_append.mpr ⟨t.ids_nodup, List.nodup_singleton _, ?_⟩
          intro k hk k' hk' heq
          obtain ⟨r, hr, hid⟩ := List.mem_map.mp hk
          have hbelow := t.ids_below r hr
          rw [hid, heq, List.mem_singleton.mp hk'] at hbelow
          exact absurd hbelow (Int.lt_irrefl _)
        past := by
          refine List.forall_mem_append.mpr ⟨?_, List.forall_mem_singleton.mpr (Int.le_refl _)⟩
          exact fun r hold => (t.past r hold).trans (t.latest_lt_now elapsed).le
        unique := h }
  else none

/-- The row after an update of its content. -/
def touched (now : Int) (f : A → A) (r : Stored A) : Stored A :=
  { id := r.id, updatedAt := now, row := f r.row }

theorem touched_id (now : Int) (f : A → A) (r : Stored A) : (touched now f r).id = r.id := rfl

/-- `UPDATE … WHERE id = k` of columns that no index covers. -/
def update (t : RowStore keys) (k : Int) (elapsed : Nat) (f : A → A)
    (hf : ∀ a, keys (f a) = keys a) : RowStore keys where
  rows := Table.modify (fun r : Stored A => r.id) k (touched (t.now elapsed) f) t.rows
  nextID := t.nextID
  latest := t.now elapsed
  ids_below := by
    intro r' hr'
    obtain ⟨r, hr, heq⟩ := Table.mem_modify.mp hr'
    have hid : r'.id = r.id := by
      rw [heq]
      split <;> rfl
    rw [hid]
    exact t.ids_below r hr
  ids_nodup := by
    have hids : (Table.modify (fun r : Stored A => r.id) k (touched (t.now elapsed) f) t.rows).map
        (fun r => r.id) = t.rows.map fun r => r.id :=
      Table.map_modify (touched_id _ f) t.rows
    rw [hids]
    exact t.ids_nodup
  past := by
    intro r' hr'
    obtain ⟨r, hr, heq⟩ := Table.mem_modify.mp hr'
    rw [heq]
    split
    · exact Int.le_refl _
    · exact (t.past r hr).trans (t.latest_lt_now elapsed).le
  unique := by
    have hkeys : ((Table.modify (fun r : Stored A => r.id) k (touched (t.now elapsed) f) t.rows).map
        fun r => keys r.row) = t.rows.map fun r => keys r.row :=
      Table.map_modify (fun r => hf r.row) t.rows
    rw [List.flatMap_def, hkeys, ← List.flatMap_def]
    exact t.unique

/-- `UPDATE … WHERE` of columns that no index covers. -/
def updateWhere (t : RowStore keys) (sel : Stored A → Bool) (elapsed : Nat) (f : A → A)
    (hf : ∀ a, keys (f a) = keys a) : RowStore keys where
  rows := t.rows.map fun r => if sel r then touched (t.now elapsed) f r else r
  nextID := t.nextID
  latest := t.now elapsed
  ids_below := by
    intro r' hr'
    obtain ⟨r, hr, heq⟩ := List.mem_map.mp hr'
    have hid : r'.id = r.id := by
      rw [← heq]
      split <;> rfl
    rw [hid]
    exact t.ids_below r hr
  ids_nodup := by
    have hids : (fun r : Stored A => r.id) ∘
        (fun r => if sel r then touched (t.now elapsed) f r else r) = fun r => r.id := by
      funext r
      show (if sel r then touched (t.now elapsed) f r else r).id = r.id
      split <;> rfl
    rw [List.map_map, hids]
    exact t.ids_nodup
  past := by
    intro r' hr'
    obtain ⟨r, hr, heq⟩ := List.mem_map.mp hr'
    rw [← heq]
    split
    · exact Int.le_refl _
    · exact (t.past r hr).trans (t.latest_lt_now elapsed).le
  unique := by
    have hkeys : (fun r : Stored A => keys r.row) ∘
        (fun r => if sel r then touched (t.now elapsed) f r else r) = fun r => keys r.row := by
      funext r
      show keys (if sel r then touched (t.now elapsed) f r else r).row = keys r.row
      split
      · exact hf r.row
      · rfl
    rw [List.flatMap_def, List.map_map, hkeys, ← List.flatMap_def]
    exact t.unique

/-- `UPDATE … WHERE id = k AND updated_at = expected`, or `none` if it affects no row. -/
def cas (t : RowStore keys) (k expected : Int) (elapsed : Nat) (f : A → A)
    (hf : ∀ a, keys (f a) = keys a) : Option (RowStore keys) :=
  if ∃ r ∈ t.rows, r.id = k ∧ r.updatedAt = expected then some (t.update k elapsed f hf) else none

theorem cas_some (h : t.cas k expected elapsed f hf = some t') :
    (∃ r ∈ t.rows, r.id = k ∧ r.updatedAt = expected) ∧ t' = t.update k elapsed f hf := by
  unfold cas at h
  split at h
  · rename_i hfound
    exact ⟨hfound, (Option.some.inj h).symm⟩
  · cases h

def delete (t : RowStore keys) (k : Int) : RowStore keys where
  rows := t.rows.filter fun r => r.id ≠ k
  nextID := t.nextID
  latest := t.latest
  ids_below := fun r hr => t.ids_below r (List.mem_of_mem_filter hr)
  ids_nodup := t.ids_nodup.sublist (List.filter_sublist.map _)
  past := fun r hr => t.past r (List.mem_of_mem_filter hr)
  unique := t.unique.sublist (List.filter_sublist.flatMap _)

/-- The rows after `Save`: every column of the row, which is put back if it is
gone. -/
def savedRows (t : RowStore keys) (elapsed : Nat) (r : Stored A) : List (Stored A) :=
  if (t.byID r.id).isSome then
    Table.modify (fun r : Stored A => r.id) r.id (touched (t.now elapsed) fun _ => r.row) t.rows
  else t.rows ++ [{ r with updatedAt := t.now elapsed }]

theorem mem_savedRows (h : r' ∈ t.savedRows elapsed r) :
    r' ∈ t.rows ∧ r'.id ≠ r.id ∨ r' = { r with updatedAt := t.now elapsed } := by
  unfold savedRows at h
  split at h
  · obtain ⟨old, hold, heq⟩ := Table.mem_modify.mp h
    by_cases hid : old.id = r.id
    · right
      rw [heq, if_pos hid, touched, hid]
    · left
      rw [heq, if_neg hid]
      exact ⟨hold, hid⟩
  · rename_i hnone
    rcases List.mem_append.mp h with hold | hnew
    · have habsent : t.byID r.id = none := by simpa using hnone
      exact .inl ⟨hold, Table.lookup_none habsent r' hold⟩
    · exact .inr (List.mem_singleton.mp hnew)

theorem savedRows_ids (t : RowStore keys) (elapsed : Nat) (r : Stored A) :
    ((t.savedRows elapsed r).map fun r => r.id).Nodup := by
  unfold savedRows
  split
  · rw [Table.map_modify (touched_id _ _)]
    exact t.ids_nodup
  · rename_i hnone
    have habsent : t.byID r.id = none := by simpa using hnone
    rw [List.map_append, List.map_singleton]
    refine List.nodup_append.mpr ⟨t.ids_nodup, List.nodup_singleton _, ?_⟩
    intro k hk k' hk' heq
    obtain ⟨old, hold, hid⟩ := List.mem_map.mp hk
    refine Table.lookup_none habsent old hold ?_
    rw [hid, heq, List.mem_singleton.mp hk']

def save [DecidableEq K] (t : RowStore keys) (elapsed : Nat) (r : Stored A) :
    Option (RowStore keys) :=
  if h : ((t.savedRows elapsed r).flatMap fun r => keys r.row).Nodup then
    some
      { rows := t.savedRows elapsed r
        nextID := max t.nextID (r.id + 1)
        latest := t.now elapsed
        ids_below := by
          intro r' hr'
          rcases mem_savedRows hr' with ⟨hold, _⟩ | hnew
          · exact lt_max_of_lt_left (t.ids_below r' hold)
          · rw [hnew]
            exact lt_max_of_lt_right (Int.lt_succ _)
        ids_nodup := t.savedRows_ids elapsed r
        past := by
          intro r' hr'
          rcases mem_savedRows hr' with ⟨hold, _⟩ | hnew
          · exact le_trans (t.past r' hold) (t.latest_lt_now elapsed).le
          · rw [hnew]
        unique := h }
  else none

theorem rows_insert [DecidableEq K] (h : t.insert elapsed a = some t') :
    t'.rows = t.rows ++ [t.newRow elapsed a] ∧ t'.latest = t.now elapsed := by
  unfold insert at h
  split at h
  · cases h
    exact ⟨rfl, rfl⟩
  · cases h

theorem nextID_insert [DecidableEq K] (h : t.insert elapsed a = some t') :
    t'.nextID = t.nextID + 1 := by
  unfold insert at h
  split at h
  · cases h
    rfl
  · cases h

/-- An insert succeeds exactly if none of its index entries is taken. -/
theorem isSome_insert_iff [DecidableEq K] : (t.insert elapsed a).isSome ↔
      (keys a).Nodup ∧ ∀ r ∈ t.rows, ∀ key ∈ keys a, key ∉ keys r.row := by
  have hsome : (t.insert elapsed a).isSome ↔
      ((t.rows ++ [t.newRow elapsed a]).flatMap fun r => keys r.row).Nodup := by
    unfold insert
    split
    · exact iff_of_true rfl ‹_›
    · exact iff_of_false Bool.false_ne_true ‹_›
  rw [hsome, List.flatMap_append, List.flatMap_singleton, List.nodup_append]
  constructor
  · intro ⟨_, hnew, hdisjoint⟩
    refine ⟨hnew, fun r hr key hkey hold => ?_⟩
    exact hdisjoint key (List.mem_flatMap.mpr ⟨r, hr, hold⟩) key hkey rfl
  · intro ⟨hnew, hfree⟩
    refine ⟨t.unique, hnew, fun key hold key' hkey' heq => ?_⟩
    obtain ⟨r, hr, hkey⟩ := List.mem_flatMap.mp hold
    exact hfree r hr key' hkey' (heq ▸ hkey)

/-- A save of a row that is there succeeds if it keeps the index entries. -/
theorem isSome_save [DecidableEq K] (hr : r ∈ t.rows) (hkeys : keys a = keys r.row) :
    (t.save elapsed { r with row := a }).isSome := by
  have hfound : (t.byID r.id).isSome := by
    unfold byID
    rw [Table.lookup_of_mem t.ids_nodup hr]
    rfl
  have hrows : (t.savedRows elapsed { r with row := a }).map (fun r => keys r.row) =
      t.rows.map fun r => keys r.row := by
    unfold savedRows
    rw [if_pos hfound]
    unfold Table.modify
    rw [List.map_map]
    refine List.map_congr_left fun r' hr' => ?_
    show keys (if r'.id = r.id then touched _ _ r' else r').row = keys r'.row
    split
    · rename_i hid
      rw [t.eq_of_id hr' hr hid]
      exact hkeys
    · rfl
  have hunique : ((t.savedRows elapsed { r with row := a }).flatMap fun r => keys r.row).Nodup := by
    rw [List.flatMap_def, hrows, ← List.flatMap_def]
    exact t.unique
  unfold save
  rw [dif_pos hunique]
  rfl

theorem rows_save [DecidableEq K] (h : t.save elapsed r = some t') :
    t'.rows = t.savedRows elapsed r ∧ t'.latest = t.now elapsed := by
  unfold save at h
  split at h
  · cases h
    exact ⟨rfl, rfl⟩
  · cases h

theorem mem_rows_delete : r ∈ (t.delete k).rows ↔ r ∈ t.rows ∧ r.id ≠ k := by
  unfold delete
  rw [List.mem_filter, decide_eq_true_iff]

theorem mem_rows_update : r' ∈ (t.update k elapsed f hf).rows ↔
      ∃ r ∈ t.rows, r' = if r.id = k then touched (t.now elapsed) f r else r :=
  Table.mem_modify

theorem mem_rows_cas (h : t.cas k expected elapsed f hf = some t') :
    r' ∈ t'.rows ↔ ∃ r ∈ t.rows, r' = if r.id = k then touched (t.now elapsed) f r else r := by
  rw [(cas_some h).2]
  exact mem_rows_update

theorem touched_mem_update (hr : r ∈ t.rows) (elapsed : Nat) (f : A → A)
    (hf : ∀ a, keys (f a) = keys a) :
    touched (t.now elapsed) f r ∈ (t.update r.id elapsed f hf).rows :=
  mem_rows_update.mpr ⟨r, hr, (if_pos rfl).symm⟩

variable {q : Stored A}

/-- The other rows stay as they are. -/
theorem mem_update_of_ne (hr : r ∈ t.rows) (hq : q ∈ t.rows) (hne : q ≠ r) (elapsed : Nat)
    (f : A → A) (hf : ∀ a, keys (f a) = keys a) : q ∈ (t.update r.id elapsed f hf).rows := by
  have hid : q.id ≠ r.id := fun hid => hne (t.eq_of_id hq hr hid)
  exact mem_rows_update.mpr ⟨q, hq, (if_neg hid).symm⟩

theorem mem_delete_of_ne (hr : r ∈ t.rows) (hq : q ∈ t.rows) (hne : q ≠ r) :
    q ∈ (t.delete r.id).rows :=
  mem_rows_delete.mpr ⟨hq, fun hid => hne (t.eq_of_id hq hr hid)⟩

/-- A row that an update writes is not as it was. -/
theorem not_mem_rows_update (hr : r ∈ t.rows) (elapsed : Nat) (f : A → A)
    (hf : ∀ a, keys (f a) = keys a) : r ∉ (t.update r.id elapsed f hf).rows := by
  intro hmem
  obtain ⟨old, hold, heq⟩ := mem_rows_update.mp hmem
  have hpast := t.past r hr
  have hnow := t.latest_lt_now elapsed
  by_cases hid : old.id = r.id
  · rw [if_pos hid] at heq
    rw [heq] at hpast
    exact absurd (show t.now elapsed ≤ t.latest from hpast) (not_le.mpr hnow)
  · rw [if_neg hid] at heq
    rw [heq] at hid
    exact hid rfl

/-! ### Writes change the table -/

theorem ne_of_insert [DecidableEq K] (h : t.insert elapsed a = some t') : t' ≠ t := by
  intro heq
  have hlatest := (rows_insert h).2
  have hnow := t.latest_lt_now elapsed
  rw [← hlatest, heq] at hnow
  exact Int.lt_irrefl _ hnow

theorem ne_of_cas (h : t.cas k expected elapsed f hf = some t') : t' ≠ t := by
  intro heq
  have hlatest : t'.latest = t.now elapsed := by
    rw [(cas_some h).2]
    rfl
  have hnow := t.latest_lt_now elapsed
  rw [← hlatest, heq] at hnow
  exact Int.lt_irrefl _ hnow

theorem delete_ne (hr : r ∈ t.rows) : t.delete r.id ≠ t := by
  intro heq
  have hgone : r ∈ (t.delete r.id).rows := heq.symm ▸ hr
  exact (mem_rows_delete.mp hgone).2 rfl

/-! ## Rows that a write leaves alone -/

section

variable (keep : A → Bool) {t t' : RowStore keys} {elapsed : Nat} {r : Stored A}

theorem filter_insert [DecidableEq K] {a : A} (h : t.insert elapsed a = some t')
    (ha : keep a = false) :
    (t'.rows.filter fun r => keep r.row) = t.rows.filter fun r => keep r.row := by
  rw [(rows_insert h).1, List.filter_append,
    List.filter_singleton, newRow, ha, cond_false, List.append_nil]

variable {f : A → A} {hf : ∀ a, keys (f a) = keys a}

variable (hr : r ∈ t.rows)

include hr

theorem filter_cas {expected : Int} (h : t.cas r.id expected elapsed f hf = some t')
    (hold : keep r.row = false) (hnew : keep (f r.row) = false) :
    (t'.rows.filter fun r => keep r.row) = t.rows.filter fun r => keep r.row := by
  rw [(cas_some h).2]
  refine Table.filter_modify fun r' hr' hid => ?_
  rw [t.eq_of_id hr' hr hid]
  exact ⟨hold, hnew⟩

theorem filter_delete (hold : keep r.row = false) :
    ((t.delete r.id).rows.filter fun r => keep r.row) = t.rows.filter fun r => keep r.row := by
  show (t.rows.filter _).filter _ = _
  rw [List.filter_filter]
  refine List.filter_congr fun r' hr' => ?_
  by_cases hid : r'.id = r.id
  · rw [t.eq_of_id hr' hr hid, hold, Bool.false_and]
  · simp [hid]

theorem filter_save [DecidableEq K] {a : A} (hold : keep r.row = false) (hnew : keep a = false)
    (h : t.save elapsed { r with row := a } = some t') :
    (t'.rows.filter fun r => keep r.row) = t.rows.filter fun r => keep r.row := by
  have hfound : (t.byID r.id).isSome := by
    unfold byID
    rw [Table.lookup_of_mem t.ids_nodup hr]
    rfl
  rw [(rows_save h).1]
  unfold savedRows
  rw [if_pos hfound]
  refine Table.filter_modify fun r' hr' hid => ?_
  rw [t.eq_of_id hr' hr hid]
  exact ⟨hold, hnew⟩

end

/-! ## Stamps -/

/-- What writes do to a table: the rows that they leave are later than what was
there. -/
structure Evolves (t t' : RowStore keys) : Prop where
  latest : t.latest ≤ t'.latest
  fresh : ∀ r ∈ t'.rows, r ∈ t.rows ∨ t.latest < r.updatedAt

theorem Evolves.refl (t : RowStore keys) : Evolves t t := ⟨Int.le_refl _, fun _ hr => .inl hr⟩

theorem Evolves.trans {t'' : RowStore keys} (h : Evolves t t') (h' : Evolves t' t'') :
    Evolves t t'' := by
  refine ⟨le_trans h.latest h'.latest, fun r hr => ?_⟩
  rcases h'.fresh r hr with hold | hnew
  · exact h.fresh r hold
  · exact .inr (lt_of_le_of_lt h.latest hnew)

/-- A row that has the stamp of an earlier row of its id is that row. -/
theorem Evolves.eq_of_stamp (h : Evolves t t') (hr : r ∈ t.rows) (hr' : r' ∈ t'.rows)
    (hid : r'.id = r.id) (hstamp : r'.updatedAt = r.updatedAt) : r' = r := by
  rcases h.fresh r' hr' with hold | hnew
  · exact t.eq_of_id hold hr hid
  · have hpast := t.past r hr
    omega

theorem evolves_insert [DecidableEq K] (h : t.insert elapsed a = some t') : Evolves t t' := by
  obtain ⟨hrows, hlatest⟩ := rows_insert h
  have hnow := t.latest_lt_now elapsed
  refine ⟨hlatest ▸ hnow.le, ?_⟩
  rw [hrows]
  exact List.forall_mem_append.mpr ⟨fun _ => .inl, List.forall_mem_singleton.mpr (.inr hnow)⟩

theorem evolves_update (t : RowStore keys) (k : Int) (elapsed : Nat) (f : A → A)
    (hf : ∀ a, keys (f a) = keys a) : Evolves t (t.update k elapsed f hf) := by
  have hnow := t.latest_lt_now elapsed
  refine ⟨hnow.le, fun r' hr' => ?_⟩
  obtain ⟨r, hr, heq⟩ := mem_rows_update.mp hr'
  rw [heq]
  split
  · exact .inr hnow
  · exact .inl hr

theorem evolves_cas (h : t.cas k expected elapsed f hf = some t') : Evolves t t' := by
  rw [(cas_some h).2]
  exact evolves_update t k elapsed f hf

theorem evolves_delete (t : RowStore keys) (k : Int) : Evolves t (t.delete k) :=
  ⟨Int.le_refl _, fun _ hr => .inl (mem_rows_delete.mp hr).1⟩

end RowStore

end GoLib
