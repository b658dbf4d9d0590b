import Mathlib.Data.List.Sort
import Mathlib.Order.Interval.Finset.Nat
import Mathlib.Data.Int.Interval

/-!
# Retention

A store that keeps the `limit` highest entries sorts its entries by a key and drops
the lowest ones.  With distinct keys the order of the sorted list does not depend on
the sort, and `mem_beyond` says which entries go: those with at least `limit` entries
above them.
-/

namespace GoLib

variable {A : Type} (key : A → Int)

/-- The entries in the order of their keys. -/
def sortByKey (rows : List A) : List A :=
  rows.insertionSort fun a b => key a ≤ key b

/-- The lowest entries, up to all but `limit` of them. -/
def beyond (limit : Nat) (rows : List A) : List A :=
  (sortByKey key rows).take (rows.length - limit)

/-- How many entries have a higher key than `k`. -/
def countAbove (k : Int) (rows : List A) : Nat :=
  rows.countP fun r => k < key r

variable {key}

theorem perm_sortByKey (rows : List A) : (sortByKey key rows).Perm rows :=
  List.perm_insertionSort _ rows

theorem pairwise_sortByKey {rows : List A} (hkeys : (rows.map key).Nodup) :
    (sortByKey key rows).Pairwise fun a b => key a < key b := by
  have hsorted : (sortByKey key rows).Pairwise fun a b => key a ≤ key b := by
    have : Std.Total fun a b : A => key a ≤ key b := ⟨fun a b => le_total _ _⟩
    have : IsTrans A fun a b => key a ≤ key b := ⟨fun _ _ _ => le_trans⟩
    exact List.pairwise_insertionSort _ rows
  have hdistinct : (sortByKey key rows).Pairwise fun a b => key a ≠ key b := by
    rw [← List.pairwise_map (R := (· ≠ ·))]
    exact ((perm_sortByKey rows).map key).nodup_iff.mpr hkeys
  exact (hsorted.and hdistinct).imp fun h => lt_of_le_of_ne h.1 h.2

theorem mem_take_iff_countAbove {limit : Nat} {sorted : List A}
    (hsorted : sorted.Pairwise fun a b => key a < key b) {r : A} (hr : r ∈ sorted) :
    r ∈ sorted.take (sorted.length - limit) ↔ limit ≤ countAbove key (key r) sorted := by
  induction sorted with
  | nil => exact absurd hr List.not_mem_nil
  | cons a rest ih =>
    obtain ⟨ha, hrest⟩ := List.pairwise_cons.mp hsorted
    rcases List.mem_cons.mp hr with rfl | hmem
    · -- the lowest entry has all others above it
      have hcount : countAbove key (key r) (r :: rest) = rest.length := by
        unfold countAbove
        rw [List.countP_cons_of_neg (by simp)]
        exact List.countP_eq_length.mpr fun b hb => by simpa using ha b hb
      rw [hcount, List.length_cons]
      by_cases hlimit : limit ≤ rest.length
      · rw [Nat.succ_sub hlimit, List.take_succ_cons]
        simp [hlimit]
      · rw [Nat.sub_eq_zero_of_le (by omega)]
        simp [hlimit]
    · have hne : r ≠ a := fun heq => absurd (ha r hmem) (by rw [heq]; exact lt_irrefl _)
      have hcount : countAbove key (key r) (a :: rest) = countAbove key (key r) rest := by
        unfold countAbove
        rw [List.countP_cons_of_neg (by simpa using (ha r hmem).le)]
      rw [hcount, List.length_cons, ← ih hrest hmem]
      by_cases hlimit : limit ≤ rest.length
      · rw [Nat.succ_sub hlimit, List.take_succ_cons, List.mem_cons]
        simp [hne]
      · rw [Nat.sub_eq_zero_of_le (by omega), Nat.sub_eq_zero_of_le (by omega)]
        simp

/-- An entry goes exactly if at least `limit` entries are above it. -/
theorem mem_beyond {limit : Nat} {rows : List A} (hkeys : (rows.map key).Nodup) {r : A} :
    r ∈ beyond key limit rows ↔ r ∈ rows ∧ limit ≤ countAbove key (key r) rows := by
  have hperm : (sortByKey key rows).Perm rows := perm_sortByKey rows
  have hcount : countAbove key (key r) (sortByKey key rows) = countAbove key (key r) rows :=
    hperm.countP_eq _
  unfold beyond
  rw [← hperm.length_eq, ← hcount]
  constructor
  · intro h
    have hmem := List.mem_of_mem_take h
    exact ⟨hperm.mem_iff.mp hmem, (mem_take_iff_countAbove (pairwise_sortByKey hkeys) hmem).mp h⟩
  · intro ⟨hmem, h⟩
    exact (mem_take_iff_countAbove (pairwise_sortByKey hkeys) (hperm.mem_iff.mpr hmem)).mpr h

/-- At most `n` distinct keys lie above `k` and up to `k + n`. -/
theorem countAbove_le {rows : List A} (hkeys : (rows.map key).Nodup) {k : Int} {n : Nat}
    (hbound : ∀ r ∈ rows, key r ≤ k + n) : countAbove key k rows ≤ n := by
  have hfilter : ((rows.filter fun r => k < key r).map key).Nodup :=
    hkeys.sublist (List.filter_sublist.map key)
  have hsubset : ((rows.filter fun r => k < key r).map key).toFinset ⊆ Finset.Ioc k (k + n) := by
    intro v hv
    obtain ⟨r, hr, rfl⟩ := List.mem_map.mp (List.mem_toFinset.mp hv)
    obtain ⟨hmem, hlt⟩ := List.mem_filter.mp hr
    exact Finset.mem_Ioc.mpr ⟨by simpa using hlt, hbound r hmem⟩
  have hcard := Finset.card_le_card hsubset
  rw [List.toFinset_card_of_nodup hfilter, List.length_map, Int.card_Ioc] at hcard
  unfold countAbove
  rw [List.countP_eq_length_filter]
  omega

end GoLib
