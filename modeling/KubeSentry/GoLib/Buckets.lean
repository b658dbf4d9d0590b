import KubeSentry.GoLib.Map

/-!
# Index lists in a map

A secondary index is a `map[string][]*T`: under each key the pointers of the
objects that carry the key.  A read of a missing key gives the nil slice, so
`bucket` is the reading of such a map.

`Lists live l` says that a list holds the live objects, each once.
`Indexes live keysOf m` says the same of every bucket, and that no bucket is
left behind empty.  Both come with a rule for the loop that adds an object and
a rule for the loop that removes one.  The loops range over a set of keys in
any order; they take the keys as a list without repetitions.
-/

namespace GoLib

variable {E : Type}

/-- A pointer to a value that is not written after its allocation.  Two
pointers are equal when their addresses are. -/
structure Ptr (A : Type) where
  addr : Nat
  value : A

/-- A Go `map[string]struct{}`. -/
abbrev GoSet := GoMap Unit

/-- The set of the elements of a slice. -/
def setOf (l : List String) : GoSet :=
  l.foldl (fun s v => s.insert v ()) ∅

theorem mem_setOf_iff (l : List String) (k : String) : k ∈ setOf l ↔ k ∈ l := by
  suffices h : ∀ s : GoSet, k ∈ l.foldl (fun s v => s.insert v ()) s ↔ k ∈ l ∨ k ∈ s by
    simpa [setOf] using h ∅
  induction l with
  | nil => intro s; simp
  | cons v rest ih =>
    intro s
    rw [List.foldl_cons, ih, Std.ExtTreeMap.mem_insert, List.mem_cons,
      Std.LawfulEqCmp.compare_eq_iff_eq]
    grind

theorem setOf_eq_empty_iff (l : List String) : setOf l = ∅ ↔ l = [] := by
  rw [Std.ExtTreeMap.eq_empty_iff_forall_not_mem, List.eq_nil_iff_forall_not_mem]
  simp only [mem_setOf_iff]

theorem contains_setOf (l : List String) (k : String) : (setOf l).contains k = l.contains k := by
  rw [Bool.eq_iff_iff, Std.ExtTreeMap.contains_iff_mem, mem_setOf_iff, List.contains_iff_mem]

/-! ## Lists of live objects -/

/-- The list holds the live objects, each once. -/
structure Lists (live : E → Prop) (l : List E) : Prop where
  mem : ∀ e, e ∈ l ↔ live e
  nodup : l.Nodup

variable {live : E → Prop} {l : List E} {keys : List String}

theorem Lists.nil (h : ∀ e, ¬ live e) : Lists live [] :=
  ⟨fun e => by simp [h e], List.nodup_nil⟩

theorem Lists.congr {live' : E → Prop} (h : Lists live l) (hlive : ∀ e, live e ↔ live' e) :
    Lists live' l :=
  ⟨fun e => (h.mem e).trans (hlive e), h.nodup⟩

/-- A loop that keeps lists, where each round adds the objects of its item. -/
theorem Lists.foldl {S A : Type} (out : S → List E) {step : S → A → S} {adds : A → E → Prop}
    (hstep : ∀ {live s} a, Lists live (out s) →
      Lists (fun x => live x ∨ adds a x) (out (step s a)))
    {s : S} (h : Lists live (out s)) (items : List A) :
    Lists (fun x => live x ∨ ∃ a ∈ items, adds a x) (out (items.foldl step s)) := by
  induction items generalizing live s with
  | nil => exact h.congr fun x => by simp
  | cons a rest ih =>
    refine (ih (hstep a h)).congr fun x => ?_
    simp only [List.mem_cons, exists_eq_or_imp, or_assoc]

section

variable {has : E → Prop} {e : E} {keep : E → Bool} (h : Lists (fun x => live x ∧ has x) l)

include h

/-- A new object joins the list of a property that it has. -/
theorem Lists.append (hnew : ¬ live e) (hhas : has e) :
    Lists (fun x => (live x ∨ x = e) ∧ has x) (l ++ [e]) where
  mem x := by
    rw [List.mem_append, List.mem_singleton, h.mem, or_and_right]
    refine or_congr_right ⟨fun hx => ⟨hx, ?_⟩, And.left⟩
    rw [hx]
    exact hhas
  nodup := by
    rw [List.nodup_append]
    refine ⟨h.nodup, List.nodup_singleton e, ?_⟩
    intro x hx y hy heq
    rw [List.mem_singleton] at hy
    rw [heq, hy, h.mem] at hx
    exact hnew hx.1

/-- It leaves the list of a property that it does not have. -/
theorem Lists.append_other (hhas : ¬ has e) : Lists (fun x => (live x ∨ x = e) ∧ has x) l := by
  refine h.congr fun x => ?_
  rw [or_and_right]
  refine (or_iff_left fun hx => ?_).symm
  rw [hx.1] at hx
  exact hhas hx.2

/-- Objects go from the list of a property. -/
theorem Lists.filter (keep : E → Bool) :
    Lists (fun x => (live x ∧ keep x = true) ∧ has x) (l.filter keep) where
  mem x := by rw [List.mem_filter, h.mem, and_right_comm]
  nodup := h.nodup.filter keep

/-- They leave the list of a property that none of them has. -/
theorem Lists.filter_other (hhas : ∀ e, live e → keep e = false → ¬ has e) :
    Lists (fun x => (live x ∧ keep x = true) ∧ has x) l := by
  refine h.congr fun x => ?_
  rw [and_right_comm]
  refine (and_iff_left_of_imp fun hx => ?_).symm
  by_contra hkeep
  exact hhas x hx.1 (Bool.eq_false_of_not_eq_true hkeep) hx.2

end

/-! ## Buckets -/

/-- A read of the index: the nil slice where the key is missing. -/
def bucket (m : GoMap (List E)) (k : String) : List E :=
  m[k]?.getD []

/-- The loop `for k := range keys { m[k] = append(m[k], e) }`. -/
def appendAt (keys : List String) (e : E) (m : GoMap (List E)) : GoMap (List E) :=
  keys.foldl (fun m k => m.insert k (bucket m k ++ [e])) m

/-- One round of the loop that removes: a bucket that becomes empty goes. -/
def filterBucket (keep : E → Bool) (m : GoMap (List E)) (k : String) : GoMap (List E) :=
  let l := (bucket m k).filter keep
  let m := m.insert k l
  if l.length = 0 then m.erase k else m

/-- The loop that removes: `filterBucket` over a set of keys. -/
def filterAt (keys : List String) (keep : E → Bool) (m : GoMap (List E)) : GoMap (List E) :=
  keys.foldl (filterBucket keep) m

/-- No key is bound to an empty list. -/
def NoEmptyBucket (m : GoMap (List E)) : Prop :=
  ∀ k : String, m[k]? ≠ some []

theorem getElem?_appendAt (hkeys : keys.Nodup) (e : E) (m : GoMap (List E)) (k : String) :
    (appendAt keys e m)[k]? = if k ∈ keys then some (bucket m k ++ [e]) else m[k]? := by
  induction keys generalizing m with
  | nil => simp [appendAt]
  | cons key rest ih =>
    obtain ⟨hkey, hrest⟩ := List.nodup_cons.mp hkeys
    show (appendAt rest e (m.insert key (bucket m key ++ [e])))[k]? = _
    rw [ih hrest]
    by_cases heq : key = k
    · subst heq
      simp [hkey]
    · have hne : ¬ k = key := fun h => heq h.symm
      simp [bucket, heq, hne]

theorem bucket_appendAt (hkeys : keys.Nodup) (e : E) (m : GoMap (List E)) (k : String) :
    bucket (appendAt keys e m) k = if k ∈ keys then bucket m k ++ [e] else bucket m k := by
  rw [bucket, getElem?_appendAt hkeys]
  split
  · rfl
  · rfl

theorem bucket_filterBucket (keep : E → Bool) (m : GoMap (List E)) (key k : String) :
    bucket (filterBucket keep m key) k =
      if key = k then (bucket m k).filter keep else bucket m k := by
  unfold filterBucket
  dsimp only
  by_cases hkey : key = k
  · subst hkey
    split
    · rename_i hempty
      rw [List.eq_nil_of_length_eq_zero hempty]
      simp [bucket]
    · simp [bucket]
  · split
    · simp [bucket, hkey]
    · simp [bucket, hkey]

theorem bucket_filterAt (keys : List String) (keep : E → Bool) (m : GoMap (List E)) (k : String) :
    bucket (filterAt keys keep m) k =
      if k ∈ keys then (bucket m k).filter keep else bucket m k := by
  induction keys generalizing m with
  | nil => simp [filterAt]
  | cons key rest ih =>
    show bucket (filterAt rest keep (filterBucket keep m key)) k = _
    rw [ih, bucket_filterBucket]
    by_cases heq : key = k
    · simp [heq, List.filter_filter]
    · have hne : ¬ k = key := fun h => heq h.symm
      simp [heq, hne]

theorem filterBucket_nonempty (keep : E → Bool) {m : GoMap (List E)}
    (h : NoEmptyBucket m) (key : String) : NoEmptyBucket (filterBucket keep m key) := by
  intro k
  unfold filterBucket
  dsimp only
  by_cases hkey : key = k
  · subst hkey
    split
    · simp
    · rename_i hlength
      intro hget
      rw [getElem?_insert_key, if_pos rfl, Option.some.injEq] at hget
      exact hlength (by rw [hget]; rfl)
  · split
    · simpa [hkey] using h k
    · simpa [hkey] using h k

theorem filterAt_nonempty (keys : List String) (keep : E → Bool) {m : GoMap (List E)}
    (h : NoEmptyBucket m) : NoEmptyBucket (filterAt keys keep m) := by
  induction keys generalizing m with
  | nil => exact h
  | cons key rest ih => exact ih (filterBucket_nonempty keep h key)

/-! ## The index -/

/-- Each bucket lists the live objects of its key, and no bucket is empty. -/
structure Indexes (live : E → Prop) (keysOf : E → List String) (m : GoMap (List E)) : Prop where
  lists : ∀ k, Lists (fun e => live e ∧ k ∈ keysOf e) (bucket m k)
  nonempty : NoEmptyBucket m

variable {live live' : E → Prop} {keysOf : E → List String} {m : GoMap (List E)}

theorem Indexes.empty (h : ∀ e, ¬ live e) : Indexes live keysOf ∅ where
  lists k := by
    have hbucket : bucket (∅ : GoMap (List E)) k = [] := by simp [bucket]
    exact Lists.nil fun e he => h e he.1
  nonempty k := by simp

theorem Indexes.congr (h : Indexes live keysOf m) (hlive : ∀ e, live e ↔ live' e) :
    Indexes live' keysOf m where
  lists k := (h.lists k).congr fun e => by rw [hlive]
  nonempty := h.nonempty

/-- The loop that appends a new object under its keys. -/
theorem Indexes.appendAt (h : Indexes live keysOf m) {e : E} (hnew : ¬ live e) (hnodup : keys.Nodup)
    (hkeys : ∀ k, k ∈ keys ↔ k ∈ keysOf e) :
    Indexes (fun x => live x ∨ x = e) keysOf (appendAt keys e m) where
  lists k := by
    rw [bucket_appendAt hnodup]
    by_cases hk : k ∈ keys
    · rw [if_pos hk]
      exact (h.lists k).append hnew ((hkeys k).mp hk)
    · rw [if_neg hk]
      exact (h.lists k).append_other fun hke => hk ((hkeys k).mpr hke)
  nonempty k := by
    rw [getElem?_appendAt hnodup]
    split
    · simp
    · exact h.nonempty k

/-- The loop that removes the objects that `keep` drops, where `keys` has every
key of theirs. -/
theorem Indexes.filterAt (h : Indexes live keysOf m) {keep : E → Bool}
    (hkeys : ∀ e, live e → keep e = false → ∀ k, k ∈ keysOf e → k ∈ keys) :
    Indexes (fun x => live x ∧ keep x = true) keysOf (filterAt keys keep m) where
  lists k := by
    rw [bucket_filterAt]
    by_cases hk : k ∈ keys
    · rw [if_pos hk]
      exact (h.lists k).filter keep
    · rw [if_neg hk]
      exact (h.lists k).filter_other fun e he hdropped hke => hk (hkeys e he hdropped k hke)
  nonempty := filterAt_nonempty keys keep h.nonempty

end GoLib
