import Mathlib.Data.List.Sort
import Mathlib.Data.String.Basic

/-!
# Go maps with string keys

A Go `map[string]V` is modelled by the extensional tree map of the standard
library.  Two maps with the same bindings are equal, and the key order of the
tree is the order `sort.Strings` gives, so the common Go idiom "collect the
keys, sort them, walk them" is a walk over `keys`.

A `range` over a Go map has no specified order.  Where the order can be seen
in the result, the model takes a `Shuffle`, which stands for the order that
the runtime picked.

Most loops that fill a map have one shape: walk a list and update the binding
of a key from its old value.  `accumulate` is that loop, and
`getElem?_accumulate` reads one key of its result as a fold over the list
elements of that key.  Order independence and monotonicity of such a loop are
then facts about folds over lists.
-/

namespace GoLib

/-- A Go `map[string]V`. -/
abbrev GoMap (V : Type) := Std.ExtTreeMap String V

variable {A B V : Type} (upd : Option V → A → V) (m : GoMap V)

@[simp, grind =] theorem getElem?_insert_key (k k' : String) (v : V) :
    (m.insert k v)[k']? = if k = k' then some v else m[k']? := by
  rw [Std.ExtTreeMap.getElem?_insert]
  simp [Std.LawfulEqCmp.compare_eq_iff_eq]

@[simp, grind =] theorem getElem?_erase_key (k k' : String) :
    (m.erase k)[k']? = if k = k' then none else m[k']? := by
  rw [Std.ExtTreeMap.getElem?_erase]
  simp [Std.LawfulEqCmp.compare_eq_iff_eq]

variable {m} in
theorem getElem?_insert_some {k k' : String} {v w : V} :
    (m.insert k v)[k']? = some w ↔ k = k' ∧ w = v ∨ k ≠ k' ∧ m[k']? = some w := by
  rw [getElem?_insert_key]
  by_cases h : k = k' <;> simp [h, eq_comm]

variable {m} in
theorem getElem?_erase_some {k k' : String} {w : V} :
    (m.erase k)[k']? = some w ↔ k ≠ k' ∧ m[k']? = some w := by
  rw [getElem?_erase_key]
  by_cases h : k = k' <;> simp [h]

/-- A key is bound exactly when its lookup answers. -/
theorem mem_iff_getElem? (k : String) : k ∈ m ↔ ∃ v, m[k]? = some v := by
  rw [← Std.ExtTreeMap.isSome_getElem?_iff_mem, Option.isSome_iff_exists]

theorem mem_keys_iff (k : String) : k ∈ m.keys ↔ ∃ v, m[k]? = some v := by
  rw [Std.ExtTreeMap.mem_keys, mem_iff_getElem?]

theorem mem_toList_iff (k : String) (v : V) : (k, v) ∈ m.toList ↔ m[k]? = some v :=
  Std.ExtTreeMap.mem_toList_iff_getElem?_eq_some

/-- The keys come out in strictly increasing order. -/
theorem keys_pairwise_lt : m.keys.Pairwise (· < ·) := by
  refine (Std.ExtTreeMap.ordered_keys (t := m)).imp ?_
  intro a b hab
  exact compare_lt_iff_lt.mp hab

theorem keys_nodup : m.keys.Nodup := (keys_pairwise_lt m).imp (fun h => ne_of_lt h)

/-! ## Loops that fill a map -/

/-- The loop `for _, e := range l { m[e.key] = upd(m[e.key], e.value) }`. -/
def accumulate (upd : Option V → A → V) (m : GoMap V) (l : List (String × A)) : GoMap V :=
  l.foldl (fun m e => m.insert e.1 (upd m[e.1]? e.2)) m

/-- The values that a key-value list holds under `k`, in list order. -/
def valuesAt (k : String) (l : List (String × A)) : List A :=
  (l.filter (fun e => e.1 = k)).map Prod.snd

@[simp] theorem valuesAt_nil (k : String) : valuesAt k ([] : List (String × A)) = [] := rfl

@[simp] theorem valuesAt_append (k : String) (l l' : List (String × A)) :
    valuesAt k (l ++ l') = valuesAt k l ++ valuesAt k l' := by
  simp [valuesAt]

theorem valuesAt_cons (k : String) (e : String × A) (l : List (String × A)) :
    valuesAt k (e :: l) = if e.1 = k then e.2 :: valuesAt k l else valuesAt k l := by
  by_cases h : e.1 = k <;> simp [valuesAt, h]

variable {k : String} {l l' : List (String × A)} {key : A → String}

@[simp] theorem mem_valuesAt {a : A} : a ∈ valuesAt k l ↔ (k, a) ∈ l := by
  simp [valuesAt]

theorem valuesAt_perm (h : l.Perm l') (k : String) : (valuesAt k l).Perm (valuesAt k l') :=
  (h.filter _).map _

@[simp] theorem accumulate_nil :
    accumulate upd m [] = m := rfl

theorem accumulate_append (l l' : List (String × A)) :
    accumulate upd m (l ++ l') = accumulate upd (accumulate upd m l) l' := by
  simp [accumulate, List.foldl_append]

/-- One key of the loop's result: only the list elements of that key count. -/
theorem getElem?_accumulate (l : List (String × A)) (k : String) :
    (accumulate upd m l)[k]? = (valuesAt k l).foldl (fun o a => some (upd o a)) m[k]? := by
  induction l generalizing m with
  | nil => rfl
  | cons e rest ih =>
    rw [accumulate, List.foldl_cons, ← accumulate, ih, getElem?_insert_key, valuesAt_cons]
    by_cases h : e.1 = k
    · subst h
      simp
    · simp [h]

/-- Distinct keys leave at most one value under each. -/
theorem length_valuesAt_le_one (hnodup : (l.map Prod.fst).Nodup) (k : String) :
    (valuesAt k l).length ≤ 1 := by
  have hcount := List.nodup_iff_count_le_one.mp hnodup k
  rw [List.count, List.countP_map, List.countP_eq_length_filter] at hcount
  simpa [valuesAt, Function.comp_def, ← beq_eq_decide] using hcount

/-- With distinct keys the value under a key does not depend on the order. -/
theorem valuesAt_eq_of_perm (hperm : l.Perm l') (hnodup : (l.map Prod.fst).Nodup) (k : String) :
    valuesAt k l = valuesAt k l' := by
  have hp := valuesAt_perm hperm k
  rcases hcase : valuesAt k l with _ | ⟨a, rest⟩
  · rw [hcase] at hp
    exact hp.nil_eq
  · have hrest : rest = [] := by
      have hlen := length_valuesAt_le_one hnodup k
      rw [hcase, List.length_cons] at hlen
      exact List.eq_nil_of_length_eq_zero (by omega)
    rw [hcase, hrest] at hp
    rw [hrest, List.singleton_perm.mp hp]

theorem toList_keys_nodup : (m.toList.map Prod.fst).Nodup := by
  rw [Std.ExtTreeMap.map_fst_toList_eq_keys]
  exact keys_nodup m

/-- A map's own entry list holds each key once. -/
theorem valuesAt_toList (k : String) : valuesAt k m.toList = m[k]?.toList := by
  cases hget : m[k]? with
  | none =>
    rw [Option.toList_none, List.eq_nil_iff_forall_not_mem]
    intro v hv
    rw [mem_valuesAt, mem_toList_iff, hget] at hv
    exact absurd hv (by simp)
  | some v =>
    have hv : v ∈ valuesAt k m.toList := by rw [mem_valuesAt, mem_toList_iff, hget]
    obtain ⟨a, ha⟩ := List.length_eq_one_iff.mp
      (Nat.le_antisymm (length_valuesAt_le_one (toList_keys_nodup m) k) (List.length_pos_of_mem hv))
    rw [ha, List.mem_singleton] at hv
    rw [ha, hv, Option.toList_some]

/-- The entries of a map in any order hold each key once. -/
theorem valuesAt_of_perm_toList {m : GoMap V} {l : List (String × V)} (h : l.Perm m.toList)
    (k : String) : valuesAt k l = m[k]?.toList := by
  rw [← valuesAt_toList, valuesAt_eq_of_perm h.symm (toList_keys_nodup m)]

/-- Keeping the entries of some keys, with other values. -/
theorem valuesAt_filterMap (keep : String → Bool) (f : A → B) (l : List (String × A)) (k : String) :
    valuesAt k (l.filterMap fun e => if keep e.1 then some (e.1, f e.2) else none) =
      if keep k then (valuesAt k l).map f else [] := by
  induction l with
  | nil => simp
  | cons e rest ih =>
    rw [List.filterMap_cons, valuesAt_cons]
    by_cases hk : e.1 = k
    · subst hk
      cases hkeep : keep e.1 with
      | true => simpa [hkeep, valuesAt_cons] using ih
      | false => simpa [hkeep] using ih
    · cases hkeep : keep e.1 with
      | true => simpa [hk, valuesAt_cons] using ih
      | false => simpa [hk] using ih

/-- With distinct keys the loop's result does not depend on the order. -/
theorem accumulate_eq_of_perm (hperm : l.Perm l') (hnodup : (l.map Prod.fst).Nodup) :
    accumulate upd m l = accumulate upd m l' := by
  apply Std.ExtTreeMap.ext_getElem?
  intro k
  rw [getElem?_accumulate, getElem?_accumulate, valuesAt_eq_of_perm hperm hnodup]

/-- Maps with the same entries are equal. -/
theorem ext_of_some {m m' : GoMap A} (h : ∀ (k : String) a, m[k]? = some a ↔ m'[k]? = some a) :
    m = m' := by
  apply Std.ExtTreeMap.ext_getElem?
  intro k
  exact Option.ext (h k)

/-- A lookup that held the known values where `P`, once those where `Q` are
added. -/
theorem or_eq_some_iff {a : A} {known held : Option A} {P Q : Prop} [Decidable Q]
    (hheld : held = some a ↔ P ∧ known = some a) :
    (if Q then known.or held else held) = some a ↔ (P ∨ Q) ∧ known = some a := by
  by_cases hQ : Q
  · rw [if_pos hQ]
    cases known with
    | none =>
      rw [Option.none_or, hheld]
      simp
    | some b => simp [hQ]
  · rw [if_neg hQ, hheld]
    simp [hQ]

/-! ## Indexing a list by name -/

/-- The index `for i := range l { m[key(l[i])] = &l[i] }`.  A later element
replaces an earlier one under the same key. -/
def indexBy (key : A → String) (l : List A) : GoMap A :=
  l.foldl (fun m a => m.insert (key a) a) ∅

/-- The index answers with the last element of the key. -/
theorem getElem?_indexBy (key : A → String) (l : List A) (k : String) :
    (indexBy key l)[k]? = l.reverse.find? (fun a => key a = k) := by
  suffices h : ∀ m : GoMap A, (l.foldl (fun m a => m.insert (key a) a) m)[k]? =
      (l.reverse.find? (fun a => key a = k)).or m[k]? by
    simpa [indexBy] using h ∅
  induction l with
  | nil => intro m; simp
  | cons a rest ih =>
    intro m
    rw [List.foldl_cons, ih, getElem?_insert_key, List.reverse_cons, List.find?_append]
    by_cases h : key a = k
    · simp [h]
    · simp [h]

theorem mem_of_getElem?_indexBy {l : List A} {a : A} (h : (indexBy key l)[k]? = some a) :
    a ∈ l ∧ key a = k := by
  rw [getElem?_indexBy] at h
  have hmem := List.mem_of_find?_eq_some h
  have hkey := List.find?_some h
  exact ⟨by simpa using hmem, by simpa using hkey⟩

/-- With distinct keys the index answers with the one element of the key. -/
theorem getElem?_indexBy_iff {l : List A} (hnodup : (l.map key).Nodup) (k : String) (a : A) :
    (indexBy key l)[k]? = some a ↔ a ∈ l ∧ key a = k := by
  refine ⟨mem_of_getElem?_indexBy, ?_⟩
  intro h
  obtain ⟨hmem, rfl⟩ := h
  cases hget : (indexBy key l)[key a]? with
  | none =>
    rw [getElem?_indexBy, List.find?_eq_none] at hget
    exact absurd (by simp) (hget a (by simpa using hmem))
  | some b =>
    obtain ⟨hb, hkey⟩ := mem_of_getElem?_indexBy hget
    rw [List.inj_on_of_nodup_map hnodup hb hmem hkey]

/-- With distinct keys the first and the last element of a key are the same. -/
theorem getElem?_indexBy_eq_find? {l : List A} (hnodup : (l.map key).Nodup) (k : String) :
    (indexBy key l)[k]? = l.find? (fun a => key a = k) := by
  apply Option.ext
  intro a
  rw [getElem?_indexBy_iff hnodup]
  constructor
  · intro h
    obtain ⟨hmem, rfl⟩ := h
    cases hfind : l.find? (fun b => key b = key a) with
    | none => exact absurd (by simp) (List.find?_eq_none.mp hfind a hmem)
    | some b =>
      have hkey : key b = key a := by simpa using List.find?_some hfind
      rw [List.inj_on_of_nodup_map hnodup (List.mem_of_find?_eq_some hfind) hmem hkey]
  · intro hfind
    exact ⟨List.mem_of_find?_eq_some hfind, by simpa using List.find?_some hfind⟩

theorem isNone_getElem?_indexBy (key : A → String) (l : List A) (k : String) :
    (indexBy key l)[k]?.isNone = decide (∀ a ∈ l, key a ≠ k) := by
  rw [getElem?_indexBy, Bool.eq_iff_iff, Option.isNone_iff_eq_none, List.find?_eq_none]
  simp

/-- The index of a list with distinct keys does not depend on the order. -/
theorem indexBy_eq_of_perm {l l' : List A} (hperm : l.Perm l') (hnodup : (l.map key).Nodup) :
    indexBy key l = indexBy key l' := by
  have hnodup' : (l'.map key).Nodup := (hperm.map key).nodup_iff.mp hnodup
  apply ext_of_some
  intro k a
  rw [getElem?_indexBy_iff hnodup, getElem?_indexBy_iff hnodup', hperm.mem_iff]

/-- Converting the elements before indexing converts the answers, when the
conversion keeps the key. -/
theorem getElem?_indexBy_map {key' : B → String} {f : A → B} (hkey : ∀ a, key' (f a) = key a)
    (l : List A) (k : String) : (indexBy key' (l.map f))[k]? = ((indexBy key l)[k]?).map f := by
  rw [getElem?_indexBy, getElem?_indexBy, ← List.map_reverse, List.find?_map]
  simp only [Function.comp_def, hkey]

/-- Dropping elements keeps an answer that is not dropped. -/
theorem getElem?_indexBy_filter {keep : A → Bool} {l : List A}
    (h : ∀ a, (indexBy key l)[k]? = some a → keep a = true) :
    (indexBy key (l.filter keep))[k]? = (indexBy key l)[k]? := by
  rw [getElem?_indexBy] at h
  rw [getElem?_indexBy, getElem?_indexBy, ← List.filter_reverse, List.find?_filter]
  generalize l.reverse = r at h ⊢
  induction r with
  | nil => rfl
  | cons a rest ih =>
    by_cases hk : key a = k
    · have hkeep : keep a = true := h a (by simp [hk])
      simp [hk, hkeep]
    · have hrest : ∀ b, rest.find? (fun a => key a = k) = some b → keep b = true := by
        intro b hb
        exact h b (by simpa [hk] using hb)
      simpa [hk] using ih hrest

/-- The last element of a list answers for its own key. -/
theorem getElem?_indexBy_append_self (key : A → String) (l : List A) (a : A) :
    (indexBy key (l ++ [a]))[key a]? = some a := by
  rw [getElem?_indexBy]
  simp

/-! ## Sorting and iteration order -/

/-- `sort.Strings`. -/
def sortStrings (l : List String) : List String :=
  l.insertionSort (· ≤ ·)

theorem sortStrings_perm (l : List String) : (sortStrings l).Perm l := List.perm_insertionSort _ l

/-- The sort forgets the order it was given. -/
theorem sortStrings_eq_of_perm {l l' : List String} (h : l.Perm l') :
    sortStrings l = sortStrings l' := by
  have hp : (sortStrings l).Perm (sortStrings l') :=
    (sortStrings_perm l).trans (h.trans (sortStrings_perm l').symm)
  exact hp.eq_of_pairwise (fun a b _ _ hab hba => le_antisymm hab hba)
    (List.pairwise_insertionSort _ l) (List.pairwise_insertionSort _ l')

/-- The order in which a `range` over a map, or a set of goroutines, visits
its elements.  The runtime may pick any permutation. -/
structure Shuffle where
  run : {A : Type} → List A → List A
  perm : ∀ {A : Type} (l : List A), (run l).Perm l

/-- The order that changes nothing. -/
def Shuffle.id : Shuffle where
  run l := l
  perm l := List.Perm.refl l

/-- The reverse order. -/
def Shuffle.reverse : Shuffle where
  run l := l.reverse
  perm l := List.reverse_perm l

end GoLib
