import Mathlib.Data.List.Sort
import Mathlib.Data.List.Nodup

/-!
# Paging through a table

A query that returns the rows after a cursor, in the order of a key, up to a
limit.  `page_spec` says what such a page is a part of: the rows that are left
over all come after it, and a page that is not full leaves nothing over.
`mem_page_iff` finds the rows of a page by the cursor that the page ends with.
-/

namespace GoLib

variable {A : Type*} {key : A → Int} {p : A → Bool} {cursor : Int} {n : Nat} {rows : List A}

/-- The rows of the query, without the limit. -/
def pending (key : A → Int) (p : A → Bool) (cursor : Int) (rows : List A) : List A :=
  rows.filter fun row => p row && decide (cursor < key row)

/-- `WHERE p AND key > cursor ORDER BY key ASC LIMIT n`. -/
def page (key : A → Int) (p : A → Bool) (cursor : Int) (n : Nat) (rows : List A) : List A :=
  ((pending key p cursor rows).insertionSort fun a b => key a ≤ key b).take n

theorem mem_pending {row : A} :
    row ∈ pending key p cursor rows ↔ row ∈ rows ∧ p row = true ∧ cursor < key row := by
  simp [pending]

variable (hkeys : (rows.map key).Nodup)

include hkeys

/-- A page, and what it leaves over. -/
theorem page_spec :
    ∃ rest, (page key p cursor n rows ++ rest).Perm (pending key p cursor rows) ∧
      (page key p cursor n rows ++ rest).Pairwise (fun a b => key a < key b) ∧
      ((page key p cursor n rows).length < n → rest = []) := by
  have hperm := List.perm_insertionSort (fun a b => key a ≤ key b) (pending key p cursor rows)
  have htotal : Std.Total fun a b : A => key a ≤ key b := ⟨fun a b => Int.le_total (key a) (key b)⟩
  have htrans : IsTrans A fun a b => key a ≤ key b := ⟨fun a b c => Int.le_trans⟩
  have hsorted := List.pairwise_insertionSort (fun a b : A => key a ≤ key b)
    (pending key p cursor rows)
  have hnodup : (((pending key p cursor rows).insertionSort
      fun a b => key a ≤ key b).map key).Nodup := by
    rw [(hperm.map key).nodup_iff]
    exact hkeys.sublist (List.filter_sublist.map key)
  refine ⟨((pending key p cursor rows).insertionSort fun a b => key a ≤ key b).drop n, ?_, ?_, ?_⟩
  · rw [page, List.take_append_drop]
    exact hperm
  · rw [page, List.take_append_drop]
    refine hsorted.imp₂ ?_ (List.pairwise_map.mp hnodup)
    intro a b hle hne
    exact lt_of_le_of_ne hle hne
  · intro hshort
    rw [page, List.length_take] at hshort
    exact List.drop_eq_nil_of_le (by omega)

theorem mem_pending_of_mem_page {row : A} (h : row ∈ page key p cursor n rows) :
    row ∈ pending key p cursor rows := by
  obtain ⟨rest, hperm, -, -⟩ := page_spec (p := p) (n := n) hkeys
  exact hperm.mem_iff.mp (List.mem_append_left rest h)

/-- The last row of a page is its cut: a row is in the page if its key is not
above the key of the last one. -/
theorem mem_page_iff {last row : A} (hlast : (page key p cursor n rows).getLast? = some last) :
    row ∈ page key p cursor n rows ↔ row ∈ pending key p cursor rows ∧ key row ≤ key last := by
  obtain ⟨rest, hperm, hsorted, -⟩ := page_spec (p := p) (n := n) hkeys
  obtain ⟨init, hinit⟩ := List.getLast?_eq_some_iff.mp hlast
  constructor
  · intro h
    refine ⟨mem_pending_of_mem_page hkeys h, ?_⟩
    rw [hinit] at h hsorted
    rcases List.mem_append.mp h with hbefore | hend
    · have hpage := (List.pairwise_append.mp hsorted).1
      have hlt := (List.pairwise_append.mp hpage).2.2 row hbefore last List.mem_cons_self
      exact le_of_lt hlt
    · rw [List.mem_singleton.mp hend]
  · intro h
    rcases List.mem_append.mp (hperm.mem_iff.mpr h.1) with hpage | hrest
    · exact hpage
    · -- A row that is left over comes after the last row of the page.
      exfalso
      have hmem : last ∈ page key p cursor n rows := by
        rw [hinit]
        exact List.mem_append_right init List.mem_cons_self
      have hlt := (List.pairwise_append.mp hsorted).2.2 last hmem row hrest
      omega

/-- A page that is not full has all the rows. -/
theorem mem_page_of_short (hshort : (page key p cursor n rows).length < n) {row : A}
    (h : row ∈ pending key p cursor rows) : row ∈ page key p cursor n rows := by
  obtain ⟨rest, hperm, -, hrest⟩ := page_spec (p := p) (n := n) hkeys
  rw [hrest hshort, List.append_nil] at hperm
  exact hperm.mem_iff.mpr h

/-- After a page that is not empty fewer rows are pending, even if some rows
are deleted. -/
theorem length_pending_lt {last : A} {rows' : List A}
    (hlast : (page key p cursor n rows).getLast? = some last) (hrows' : rows'.Sublist rows) :
    (pending key p (key last) rows').length < (pending key p cursor rows).length := by
  have hpending := mem_pending_of_mem_page hkeys (List.mem_of_getLast? hlast)
  have hsub : (pending key p (key last) rows').Sublist
      ((pending key p cursor rows).filter fun row => decide (key last < key row)) := by
    have hfilter : (pending key p cursor rows).filter (fun row => decide (key last < key row)) =
        pending key p (key last) rows := by
      unfold pending
      rw [List.filter_filter]
      refine List.filter_congr fun row _ => ?_
      have hcursor := (mem_pending.mp hpending).2.2
      by_cases hlt : key last < key row
      · have : cursor < key row := by omega
        simp [hlt, this]
      · simp [hlt]
    rw [hfilter]
    exact hrows'.filter _
  refine lt_of_le_of_lt hsub.length_le ?_
  exact List.length_filter_lt_length_iff_exists.mpr ⟨last, hpending, by simp⟩

end GoLib
