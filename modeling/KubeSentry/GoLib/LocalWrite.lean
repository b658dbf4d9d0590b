import Mathlib.Data.List.Nodup
import Mathlib.Data.List.Basic

/-!
# Loops of writes that touch one key each

A loop walks over items and writes each of them into a store.  If a write reads
and changes the binding of its own key only, and the keys differ, then every
item ends up as if it had been the only one: `writeAll_own` says so for the
store and `writeAll_outcomes` for what the writes return.

The store is any type `M` that is observed by `get`, key by key.
-/

namespace GoLib

variable {M K O A E F : Type} (get : M → K → O) (key : A → K) (write : A → M → M × E)

/-- Every write is local to its key. -/
structure LocalWrite : Prop where
  other : ∀ a m k, k ≠ key a → get (write a m).1 k = get m k
  own : ∀ a m m', get m (key a) = get m' (key a) →
    get (write a m).1 (key a) = get (write a m').1 (key a) ∧ (write a m).2 = (write a m').2

/-- The loop, with what each write returns. -/
def writeAll : List A → M → M × List E
  | [], m => (m, [])
  | a :: rest, m =>
    let out := write a m
    let more := writeAll rest out.1
    (more.1, out.2 :: more.2)

/-- A loop that collects results is `writeAll`. -/
theorem foldl_eq_writeAll (collect : A → E → List F) (items : List A) : ∀ (m : M) (found : List F),
      items.foldl (fun acc a => ((write a acc.1).1, acc.2 ++ collect a (write a acc.1).2))
          (m, found) =
        ((writeAll write items m).1,
          found ++ ((items.zip (writeAll write items m).2).flatMap fun p => collect p.1 p.2)) := by
  induction items with
  | nil =>
    intro m found
    simp [writeAll]
  | cons a rest ih =>
    intro m found
    rw [List.foldl_cons, ih]
    simp [writeAll]

variable {get key write}

namespace LocalWrite

variable (h : LocalWrite get key write)

include h

variable {items : List A}

theorem writeAll_other {k : K} :
    ∀ (m : M), k ∉ items.map key → get (writeAll write items m).1 k = get m k := by
  induction items with
  | nil =>
    intro m _
    rfl
  | cons a rest ih =>
    intro m hk
    rw [List.map_cons, List.mem_cons, not_or] at hk
    show get (writeAll write rest (write a m).1).1 k = get m k
    rw [ih _ hk.2, h.other a m k hk.1]

/-- Each item ends up as its own write leaves it. -/
theorem writeAll_own (hkeys : (items.map key).Nodup) : ∀ (m : M), ∀ a ∈ items,
      get (writeAll write items m).1 (key a) = get (write a m).1 (key a) := by
  induction items with
  | nil =>
    intro m a ha
    cases ha
  | cons b rest ih =>
    intro m a ha
    rw [List.map_cons, List.nodup_cons] at hkeys
    show get (writeAll write rest (write b m).1).1 (key a) = _
    rcases List.mem_cons.mp ha with hfirst | hrest
    · -- The rest does not touch the key of the first item.
      rw [hfirst, h.writeAll_other _ hkeys.1]
    · have hne : key a ≠ key b := fun heq => hkeys.1 (heq ▸ List.mem_map_of_mem hrest)
      rw [ih hkeys.2 _ a hrest]
      exact (h.own a _ _ (h.other b m (key a) hne)).1

/-- Each write returns what it would return by itself. -/
theorem writeAll_outcomes (hkeys : (items.map key).Nodup) :
    ∀ (m : M), (writeAll write items m).2 = items.map fun a => (write a m).2 := by
  induction items with
  | nil =>
    intro m
    rfl
  | cons b rest ih =>
    intro m
    rw [List.map_cons, List.nodup_cons] at hkeys
    show (write b m).2 :: (writeAll write rest (write b m).1).2 = _
    rw [ih hkeys.2, List.map_cons]
    congr 1
    refine List.map_congr_left fun a ha => ?_
    have hne : key a ≠ key b := fun heq => hkeys.1 (heq ▸ List.mem_map_of_mem ha)
    exact (h.own a _ _ (h.other b m (key a) hne)).2

/-- A loop that collects results, item by item. -/
theorem foldl_eq (collect : A → E → List F) (hkeys : (items.map key).Nodup) (m : M)
    (found : List F) :
    items.foldl (fun acc a => ((write a acc.1).1, acc.2 ++ collect a (write a acc.1).2))
        (m, found) =
      ((writeAll write items m).1, found ++ items.flatMap fun a => collect a (write a m).2) := by
  rw [foldl_eq_writeAll, h.writeAll_outcomes hkeys]
  congr 2
  have hzip : (items.zip (items.map fun a => (write a m).2)) =
      items.map fun a => (a, (write a m).2) := by
    rw [List.zip_map_right, List.zip_eq_zipWith, List.zipWith_self, List.map_map]
    rfl
  rw [hzip, List.flatMap_map]

end LocalWrite

end GoLib
