import Mathlib.Data.List.Nodup

/-!
# Keyed tables

A table is the list of its rows, and `key` is its primary key.  `modify` is an
`UPDATE … WHERE key = k`, and `lookup` reads the row of a key.

* `lookup_modify` and `mem_modify` say what an update leaves.
* `map_modify` says that a column an update does not touch stays.
* `lookup_of_mem` needs the keys to be distinct.
-/

namespace GoLib.Table

variable {A K B : Type} [DecidableEq K] (key : A → K)

/-- The row of a key. -/
def lookup (k : K) (rows : List A) : Option A :=
  rows.find? fun r => key r = k

/-- The update of the rows of a key. -/
def modify (k : K) (f : A → A) (rows : List A) : List A :=
  rows.map fun r => if key r = k then f r else r

variable {key}

variable {k : K} {rows : List A} {r : A} {f : A → A}

theorem lookup_some (h : lookup key k rows = some r) : r ∈ rows ∧ key r = k := by
  refine ⟨List.mem_of_find?_eq_some h, ?_⟩
  simpa using List.find?_some h

theorem lookup_none (h : lookup key k rows = none) : ∀ r ∈ rows, key r ≠ k := by
  intro r hr
  simpa using List.find?_eq_none.mp h r hr

/-- With distinct keys, a row is found under its own key. -/
theorem lookup_of_mem (hkeys : (rows.map key).Nodup) (hr : r ∈ rows) :
    lookup key (key r) rows = some r := by
  cases hfound : lookup key (key r) rows with
  | none => exact absurd rfl (lookup_none hfound r hr)
  | some r' =>
    obtain ⟨hr', hkey⟩ := lookup_some hfound
    rw [List.inj_on_of_nodup_map hkeys hr' hr hkey]

theorem lookup_iff (hkeys : (rows.map key).Nodup) :
    lookup key k rows = some r ↔ r ∈ rows ∧ key r = k := by
  refine ⟨lookup_some, fun ⟨hr, hk⟩ => ?_⟩
  rw [← hk]
  exact lookup_of_mem hkeys hr

theorem mem_modify {r' : A} :
    r' ∈ modify key k f rows ↔ ∃ r ∈ rows, r' = if key r = k then f r else r := by
  unfold modify
  rw [List.mem_map]
  exact exists_congr fun r => and_congr_right fun _ => eq_comm

/-- A column that the update keeps stays as it is. -/
theorem map_modify {g : A → B} (hf : ∀ r, g (f r) = g r) (rows : List A) :
    (modify key k f rows).map g = rows.map g := by
  unfold modify
  rw [List.map_map]
  refine List.map_congr_left fun r _ => ?_
  show g (if key r = k then f r else r) = g r
  split
  · exact hf r
  · rfl

/-- A selection that leaves out the updated rows, before and after, stays. -/
theorem filter_modify {p : A → Bool} (h : ∀ r ∈ rows, key r = k → p r = false ∧ p (f r) = false) :
    (modify key k f rows).filter p = rows.filter p := by
  induction rows with
  | nil => rfl
  | cons r rest ih =>
    have hrest := ih fun r' hr' => h r' (List.mem_cons_of_mem _ hr')
    unfold modify at hrest ⊢
    rw [List.map_cons]
    by_cases hk : key r = k
    · obtain ⟨hout, hout'⟩ := h r List.mem_cons_self hk
      rw [if_pos hk, List.filter_cons_of_neg (by simp [hout']),
        List.filter_cons_of_neg (by simp [hout]), hrest]
    · rw [if_neg hk, List.filter_cons, List.filter_cons, hrest]

/-- The row of a key after an update. -/
theorem lookup_modify {k' : K} (hf : ∀ r, key r = k → key (f r) = k) (rows : List A) :
    lookup key k' (modify key k f rows) =
      if k' = k then (lookup key k rows).map f else lookup key k' rows := by
  induction rows with
  | nil => simp [lookup, modify]
  | cons r rest ih =>
    have hhead : key (if key r = k then f r else r) = key r := by
      split
      · rename_i hk
        rw [hf r hk, hk]
      · rfl
    unfold lookup modify at ih ⊢
    rw [List.map_cons, List.find?_cons, hhead]
    by_cases hk' : key r = k'
    · by_cases hk : k' = k
      · simp [hk', hk]
      · simp [hk', hk]
    · by_cases hk : k' = k
      · have hne : key r ≠ k := fun h => hk' (h.trans hk.symm)
        simpa [hk', hne] using ih
      · rw [if_neg hk] at ih ⊢
        simpa [hk'] using ih

end GoLib.Table
