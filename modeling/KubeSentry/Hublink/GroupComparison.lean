import KubeSentry.Hublink.Apply

/-!
# Comparing two group specs

`groupSpecsEqual` sorts the two `byName` lists before it compares them, and
`sort.Slice` is not stable: entries of one name may come out in any order.  To the
resolver that order matters, because the last entry of a name counts.

`groupSpecsEqualOn` is the comparison on whatever the two sorts have left.  When
the names of one side are distinct, so are those of a side that compares equal, the
two sorts have one outcome, and the index of the entries by name is the same for
both lists (`indexBy_eq_of_perm`), which is all that `Resolve` reads of them.
-/

namespace KubeSentry.Hublink

open GoLib GroupResolve

/-- `sort.Slice` by name may leave `sorted` of `refs`. -/
def SortsByName (refs sorted : List PolicyRef) : Prop :=
  sorted.Perm refs ∧ sorted.Pairwise fun a b => a.name ≤ b.name

theorem sortsByName_sortedByName (refs : List PolicyRef) :
    SortsByName refs (sortedByName refs) := by
  have : IsTrans PolicyRef fun a b => a.name ≤ b.name := ⟨fun _ _ _ => le_trans⟩
  have : Std.Total fun a b : PolicyRef => a.name ≤ b.name := ⟨fun a b => le_total a.name b.name⟩
  exact ⟨List.perm_insertionSort _ refs, List.pairwise_insertionSort _ refs⟩

/-- `groupSpecsEqual` after its two calls of `sortedByName`. -/
def groupSpecsEqualOn (sortedA sortedB : List PolicyRef) (a b : PolicyGroupSpec) : Bool :=
  sortedA = sortedB &&
    { a with policies := { a.policies with byName := [] } } =
      { b with policies := { b.policies with byName := [] } }

theorem groupSpecsEqual_eq (a b : PolicyGroupSpec) :
    groupSpecsEqual a b =
      groupSpecsEqualOn (sortedByName a.policies.byName) (sortedByName b.policies.byName) a b :=
  rfl

/-- The second spec is the first with its `byName` list in another order. -/
def Reordered (a b : PolicyGroupSpec) : Prop :=
  b.policies.byName.Perm a.policies.byName ∧
    b = { a with policies := { a.policies with byName := b.policies.byName } }

variable {a b : PolicyGroupSpec} {sortedA sortedB : List PolicyRef}

theorem reordered_of_groupSpecsEqualOn (ha : SortsByName a.policies.byName sortedA)
    (hb : SortsByName b.policies.byName sortedB)
    (hequal : groupSpecsEqualOn sortedA sortedB a b = true) : Reordered a b := by
  unfold groupSpecsEqualOn at hequal
  rw [Bool.and_eq_true, decide_eq_true_eq, decide_eq_true_eq] at hequal
  obtain ⟨hsorted, hrest⟩ := hequal
  refine ⟨hb.1.symm.trans (hsorted ▸ ha.1), ?_⟩
  obtain ⟨_, _, _, _, ⟨_, _, _⟩, _⟩ := a
  obtain ⟨_, _, _, _, ⟨_, _, _⟩, _⟩ := b
  simp only [PolicyGroupSpec.mk.injEq, PolicyGroupPolicies.mk.injEq, true_and] at hrest ⊢
  simp [hrest]

/-- With distinct names there is one sorted order. -/
theorem groupSpecsEqualOn_of_reordered (ha : SortsByName a.policies.byName sortedA)
    (hb : SortsByName b.policies.byName sortedB)
    (hdistinct : (b.policies.byName.map fun r => r.name).Nodup) (h : Reordered a b) :
    groupSpecsEqualOn sortedA sortedB a b = true := by
  have hnodup : (sortedA.map fun r => r.name).Nodup :=
    ((ha.1.trans h.1.symm).map _).nodup_iff.mpr hdistinct
  have hperm : sortedA.Perm sortedB := ha.1.trans (h.1.symm.trans hb.1.symm)
  have hsorted : sortedA = sortedB := by
    apply hperm.eq_of_pairwise _ ha.2 hb.2
    intro r r' hr hr' hle hge
    exact List.inj_on_of_nodup_map hnodup hr (hperm.mem_iff.mpr hr') (le_antisymm hle hge)
  unfold groupSpecsEqualOn
  rw [hsorted, h.2]
  simp

section Resolution

variable [Apimachinery]

omit [Apimachinery] in
theorem lastRef_eq_of_perm {refs refs' : List PolicyRef} (hperm : refs'.Perm refs)
    (hdistinct : (refs'.map fun r => r.name).Nodup) (name : String) :
    lastRef refs name = lastRef refs' name := by
  rw [lastRef, lastRef, ← getElem?_indexBy, ← getElem?_indexBy, indexBy_eq_of_perm hperm hdistinct]

/-- The selector part passes the conditions by. -/
theorem resolveSelector_congr (spec : PolicyGroupSpec) (policies : List Policy)
    {acc acc' : GoMap EffectiveMember × List Condition} (h : acc.1 = acc'.1) :
    (resolveSelector spec policies acc).1 = (resolveSelector spec policies acc').1 := by
  unfold resolveSelector
  split
  · exact h
  · split
    · exact h
    · show policies.foldl _ acc.1 = _
      rw [h]

/-- The resolver reads of `byName` what does not depend on its order. -/
theorem resolvedMembers_eq_of_reordered (h : Reordered a b)
    (hdistinct : (b.policies.byName.map fun r => r.name).Nodup) (policies : List Policy) :
    (resolvedMembers a policies).1 = (resolvedMembers b policies).1 := by
  have hrefs (byName : GoMap Policy) : (a.policies.byName.foldl (resolveRef byName) (∅, [])).1 =
      (b.policies.byName.foldl (resolveRef byName) (∅, [])).1 := by
    apply Std.ExtTreeMap.ext_getElem?
    intro k
    rw [getElem?_foldl_resolveRef, getElem?_foldl_resolveRef, lastRef_eq_of_perm h.1 hdistinct]
  have hexclude : a.policies.exclude = b.policies.exclude := by rw [h.2]
  have hselector : resolveSelector a policies = resolveSelector b policies := by
    rw [h.2]
    rfl
  unfold resolvedMembers
  dsimp only
  rw [hexclude, hselector, resolveSelector_congr b policies (hrefs _)]

theorem missing_iff_of_reordered (h : Reordered a b) (policies : List Policy) (name : String) :
    missingMember name ∈ (resolvedMembers a policies).2 ↔
      missingMember name ∈ (resolvedMembers b policies).2 := by
  have hselector : a.policies.bySelector = b.policies.bySelector := by rw [h.2]
  rw [resolvedMembers_conditions, resolvedMembers_conditions, hselector, List.mem_append,
    List.mem_append, ((h.1.filter _).map _).mem_iff]

/-- Whatever the sorts do with entries of one name, two specs that compare equal
differ in the order of `byName` only and resolve to the same members with the same
names missing, when the names of the second are distinct; and a reordered spec
compares equal. -/
theorem group_comparison_sound (ha : SortsByName a.policies.byName sortedA)
    (hb : SortsByName b.policies.byName sortedB)
    (hdistinct : (b.policies.byName.map fun r => r.name).Nodup) (policies : List Policy) :
    (groupSpecsEqualOn sortedA sortedB a b = true →
      Reordered a b ∧ (resolve a policies).1 = (resolve b policies).1 ∧
        ∀ name, missingMember name ∈ (resolve a policies).2 ↔
          missingMember name ∈ (resolve b policies).2) ∧
    (Reordered a b → groupSpecsEqualOn sortedA sortedB a b = true) := by
  refine ⟨?_, groupSpecsEqualOn_of_reordered ha hb hdistinct⟩
  intro hequal
  have h := reordered_of_groupSpecsEqualOn ha hb hequal
  refine ⟨h, ?_, missing_iff_of_reordered h policies⟩
  show (resolvedMembers a policies).1.toList.map Prod.snd = _
  rw [resolvedMembers_eq_of_reordered h hdistinct]
  rfl

end Resolution

attribute [local instance] Apimachinery.basic

theorem group_comparison_sound_two_refs :
    let a : PolicyGroupSpec := { policies := { byName := [⟨"b", .audit⟩, ⟨"a", .unset⟩] } }
    let b : PolicyGroupSpec := { policies := { byName := [⟨"a", .unset⟩, ⟨"b", .audit⟩] } }
    groupSpecsEqual a b = true ∧
      (resolve a [{ name := "a" }]).1 = (resolve b [{ name := "a" }]).1 := by
  intro a b
  have hsound := group_comparison_sound (sortsByName_sortedByName a.policies.byName)
    (sortsByName_sortedByName b.policies.byName) (by decide) [{ name := "a" }]
  have hequal := hsound.2 ⟨List.Perm.swap _ _ _, rfl⟩
  exact ⟨hequal, (hsound.1 hequal).2.1⟩

end KubeSentry.Hublink
