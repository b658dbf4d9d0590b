import Mathlib.Data.List.Dedup
import KubeSentry.Operator.GroupReconciler

/-!
# `referencedBy` and the status of the groups

`status.referencedBy` of a policy should be the sorted list of the groups whose status
lists the policy and that are not being deleted.  A reconcile learns which policies to
refresh from the status that the group had before, and overwrites this status first.  If
it fails between the two, the next reconcile does not know the policies that it dropped,
and these keep the group in their list.

The invariant is `Right`: the list of a policy is right, or a group that is due for a
reconcile lists the policy in its status and will refresh it.  While a reconcile runs, the
policies that the status of its group listed at the start or lists now are `Pending`.  A
failed reconcile leaves them to the next one only if its status still lists all of them,
which is the condition `Lossless` on a run.

`Others` is what users and the policy reconciler can do between two calls; it keeps
`Right`.
-/

namespace KubeSentry.Operator.GroupReconciler

open GoLib

/-! ## Groups and the policies they list -/

namespace GroupWorld

variable (s : GroupWorld)

/-- The policies that the status of a group lists. -/
def names (group : String) : List String :=
  match s.groups[group]? with
  | some g => g.status.names
  | none => []

def Deleting (group : String) : Prop :=
  ∃ g : PolicyGroupObject, s.groups[group]? = some g ∧ g.deletionTimestamp ≠ none

/-- The finalizer of the reconciler holds the group. -/
def Held (group : String) : Prop :=
  ∃ g : PolicyGroupObject, s.groups[group]? = some g ∧
    g.finalizers = [policyGroupCleanupFinalizer]

/-- The group needs another reconcile. -/
def Due (group : String) : Prop :=
  group ∈ s.failed ∨ group ∈ s.changed

/-- The group counts as a reference to the policy. -/
def Refers (group policy : String) : Prop :=
  policy ∈ s.names group ∧ ¬ s.Deleting group

/-- A group without the finalizer has not been reconciled yet. -/
def Finalized : Prop :=
  ∀ (name : String) (g : PolicyGroupObject), s.groups[name]? = some g →
    g.finalizers = [policyGroupCleanupFinalizer] ∨
      g.finalizers = [] ∧ g.deletionTimestamp = none ∧ g.status.names = []

variable {s : GroupWorld} {name : String}

theorem names_of_some {g : PolicyGroupObject} (h : s.groups[name]? = some g) :
    s.names name = g.status.names := by
  unfold names
  rw [h]

theorem names_of_none (h : s.groups[name]? = none) : s.names name = [] := by
  unfold names
  rw [h]

variable {policy : String}

theorem exists_of_mem_names (h : policy ∈ s.names name) :
    ∃ g : PolicyGroupObject, s.groups[name]? = some g := by
  cases hg : s.groups[name]? with
  | none =>
    rw [names_of_none hg] at h
    exact absurd h List.not_mem_nil
  | some g => exact ⟨g, rfl⟩

theorem deleting_iff (h : s.groups[name]? = some g) :
    s.Deleting name ↔ g.deletionTimestamp ≠ none := by
  unfold Deleting
  simp [h]

theorem held_iff (h : s.groups[name]? = some g) :
    s.Held name ↔ g.finalizers = [policyGroupCleanupFinalizer] := by
  unfold Held
  simp [h]

theorem Finalized.held (h : s.Finalized) (hmem : policy ∈ s.names name) : s.Held name := by
  obtain ⟨g, hg⟩ := exists_of_mem_names hmem
  rcases h name g hg with hfinalizer | ⟨_, _, hnone⟩
  · exact ⟨g, hg, hfinalizer⟩
  · rw [names_of_some hg, hnone] at hmem
    exact absurd hmem List.not_mem_nil

end GroupWorld

open GroupWorld

variable {s s' : GroupWorld} {group policy name : String}

theorem refers_iff : s.Refers group policy ↔
    ∃ g : PolicyGroupObject, s.groups[group]? = some g ∧ g.deletionTimestamp = none ∧
      policy ∈ g.status.resolvedPolicies.map (·.name) := by
  constructor
  · intro ⟨hlists, hlive⟩
    obtain ⟨g, hg⟩ := exists_of_mem_names hlists
    rw [deleting_iff hg, not_not] at hlive
    rw [names_of_some hg] at hlists
    exact ⟨g, hg, hlive, hlists⟩
  · intro ⟨g, hg, hlive, hlists⟩
    refine ⟨?_, fun hdel => (deleting_iff hg).mp hdel hlive⟩
    rw [names_of_some hg]
    exact hlists

theorem mem_referencesOf : group ∈ referencesOf s.groups policy ↔ s.Refers group policy := by
  unfold referencesOf listing
  rw [(sortStrings_perm _).mem_iff, List.mem_map, refers_iff]
  constructor
  · intro ⟨e, he, heq⟩
    obtain ⟨hmem, hkeep⟩ := List.mem_filter.mp he
    have hg : s.groups[e.1]? = some e.2 := (mem_toList_iff _ _ _).mp hmem
    rw [heq] at hg
    exact ⟨e.2, hg, of_decide_eq_true hkeep⟩
  · intro ⟨g, hg, hkeep⟩
    refine ⟨(group, g), List.mem_filter.mpr ⟨(mem_toList_iff _ _ _).mpr hg, ?_⟩, rfl⟩
    exact decide_eq_true hkeep

theorem pairwise_referencesOf (groups : GoMap PolicyGroupObject) (policy : String) :
    (referencesOf groups policy).Pairwise (· < ·) := by
  have hsorted : (referencesOf groups policy).Pairwise (· ≤ ·) := List.pairwise_insertionSort _ _
  have hnodup : (referencesOf groups policy).Nodup := by
    refine (sortStrings_perm _).nodup_iff.mpr ?_
    exact (toList_keys_nodup groups).sublist (List.filter_sublist.map _)
  exact (hsorted.and hnodup).imp fun h => lt_of_le_of_ne h.1 h.2

/-- The list of references only depends on which groups refer to the policy. -/
theorem referencesOf_congr (h : ∀ group, s'.Refers group policy ↔ s.Refers group policy) :
    referencesOf s'.groups policy = referencesOf s.groups policy := by
  have hlt := pairwise_referencesOf s.groups policy
  have hlt' := pairwise_referencesOf s'.groups policy
  have hperm : (referencesOf s'.groups policy).Perm (referencesOf s.groups policy) := by
    refine (List.perm_ext_iff_of_nodup (hlt'.imp ne_of_lt) (hlt.imp ne_of_lt)).mpr fun group => ?_
    rw [mem_referencesOf, mem_referencesOf]
    exact h group
  exact hperm.eq_of_pairwise (fun _ _ _ _ hab hba => absurd hba (lt_asymm hab)) hlt' hlt

/-! ## The invariant -/

/-- A group that is due for a reconcile lists the policy.  `skip` is a group that does
not count. -/
def Excused (skip : Option String) (s : GroupWorld) (policy : String) : Prop :=
  ∃ group, some group ≠ skip ∧ s.Due group ∧ policy ∈ s.names group

/-- The references of the policy are right, or a group is due to make them right. -/
def Right (skip : Option String) (s : GroupWorld) (policy : String) : Prop :=
  ∀ pol : PolicyObject, s.policies[policy]? = some pol →
    pol.status.referencedBy = referencesOf s.groups policy ∨ Excused skip s policy

variable {skip : Option String}

theorem Right.weaken (h : Right skip s policy) : Right none s policy :=
  fun pol hpol => (h pol hpol).imp_right fun ⟨group, _, hexcused⟩ =>
    ⟨group, Option.some_ne_none _, hexcused⟩

/-- A group that does not list the policy is no excuse. -/
theorem Right.skipping (h : Right none s policy) (hmem : policy ∉ s.names group) :
    Right (some group) s policy := by
  intro pol hpol
  refine (h pol hpol).imp_right fun ⟨group', _, hdue, hmem'⟩ => ?_
  refine ⟨group', fun heq => hmem ?_, hdue, hmem'⟩
  cases heq
  exact hmem'

/-- The running reconcile of `group` will refresh the policy. -/
def Pending (group : String) (start s : GroupWorld) (policy : String) : Prop :=
  s.Held group ∧ (policy ∈ start.names group ∨ policy ∈ s.names group)

structure Idle (s : GroupWorld) : Prop where
  finalized : s.Finalized
  right : ∀ policy, Right none s policy

structure Mid (group : String) (start s : GroupWorld) : Prop where
  finalized : s.Finalized
  right : ∀ policy, Right none s policy ∨ Pending group start s policy

/-! ## What the others can do -/

/-- A group that was not being deleted is due and lists the policy. -/
def Marked (s s' : GroupWorld) (policy : String) : Prop :=
  ∃ group, ¬ s.Deleting group ∧ s'.Due group ∧ policy ∈ s'.names group

structure Others (s s' : GroupWorld) : Prop where
  names : ∀ group, s'.names group = s.names group
  deleting : ∀ group, s.Deleting group → s'.Deleting group
  held : ∀ group, s.Held group → s'.Held group
  due : ∀ group, s.Due group → s'.Due group
  references : ∀ policy,
    referencesOf s'.groups policy = referencesOf s.groups policy ∨ Marked s s' policy
  policies : ∀ (policy : String) (pol' : PolicyObject), s'.policies[policy]? = some pol' →
    (∃ pol : PolicyObject, s.policies[policy]? = some pol ∧
        pol'.status.referencedBy = pol.status.referencedBy) ∨
      pol'.status.referencedBy = referencesOf s'.groups policy ∨ Marked s s' policy

theorem Others.refl (s : GroupWorld) : Others s s where
  names _ := rfl
  deleting _ h := h
  held _ h := h
  due _ h := h
  references _ := .inl rfl
  policies _ pol' h := .inl ⟨pol', h, rfl⟩

variable {s'' : GroupWorld}

theorem Marked.later (h : Marked s s' policy) (h' : Others s' s'') : Marked s s'' policy := by
  obtain ⟨group, hdel, hdue, hmem⟩ := h
  refine ⟨group, hdel, h'.due group hdue, ?_⟩
  rw [h'.names]
  exact hmem

theorem Marked.earlier (h : Marked s' s'' policy) (h' : Others s s') : Marked s s'' policy := by
  obtain ⟨group, hdel, hdue, hmem⟩ := h
  exact ⟨group, fun hdel' => hdel (h'.deleting group hdel'), hdue, hmem⟩

theorem Others.trans (s s' s'' : GroupWorld) (h : Others s s') (h' : Others s' s'') :
    Others s s'' where
  names group := (h'.names group).trans (h.names group)
  deleting group hs := h'.deleting group (h.deleting group hs)
  held group hs := h'.held group (h.held group hs)
  due group hs := h'.due group (h.due group hs)
  references policy := by
    rcases h'.references policy with heq | hmarked
    · rw [heq]
      exact (h.references policy).imp_right fun hmarked => hmarked.later h'
    · exact .inr (hmarked.earlier h)
  policies policy pol'' hpol'' := by
    rcases h'.policies policy pol'' hpol'' with ⟨pol', hpol', heq⟩ | heq | hmarked
    · rw [heq]
      rcases h.policies policy pol' hpol' with hsame | heq' | hmarked
      · exact .inl hsame
      · rcases h'.references policy with hrefs | hmarked
        · exact .inr (.inl (heq'.trans hrefs.symm))
        · exact .inr (.inr (hmarked.earlier h))
      · exact .inr (.inr (hmarked.later h'))
    · exact .inr (.inl heq)
    · exact .inr (.inr (hmarked.earlier h))

/-- A group that is being deleted may be left out of the excuses. -/
def MaySkip (skip : Option String) (s : GroupWorld) : Prop :=
  ∀ group, skip = some group → s.Deleting group

theorem Marked.excused (h : Marked s s' policy) (hskip : MaySkip skip s) :
    Excused skip s' policy := by
  obtain ⟨group, hdel, hdue, hmem⟩ := h
  exact ⟨group, fun heq => hdel (hskip group heq.symm), hdue, hmem⟩

theorem Excused.later (h : Excused skip s policy) (h' : Others s s') : Excused skip s' policy := by
  obtain ⟨group, hne, hdue, hmem⟩ := h
  refine ⟨group, hne, h'.due group hdue, ?_⟩
  rw [h'.names]
  exact hmem

theorem Right.later (h : Right skip s policy) (h' : Others s s') (hskip : MaySkip skip s) :
    Right skip s' policy := by
  intro pol' hpol'
  rcases h'.policies policy pol' hpol' with ⟨pol, hpol, heq⟩ | heq | hmarked
  · rw [heq]
    rcases h pol hpol with hright | hexcused
    · rw [hright]
      exact (h'.references policy).imp Eq.symm fun hmarked => hmarked.excused hskip
    · exact .inr (hexcused.later h')
  · exact .inl heq
  · exact .inr (hmarked.excused hskip)

theorem maySkip_none (s : GroupWorld) : MaySkip none s := by
  intro group h
  cases h

variable {start : GroupWorld}

theorem Pending.later (h : Pending group start s policy) (h' : Others s s') :
    Pending group start s' policy := by
  refine ⟨h'.held group h.1, ?_⟩
  rw [h'.names]
  exact h.2

/-! ## Writes to one object -/

section

variable {s : GroupWorld} {name : String} {g : PolicyGroupObject} (k : String)

theorem groups_putGroup : (s.putGroup name g).groups[k]? =
      if name = k then some { g with resourceVersion := s.revision + 1 } else s.groups[k]? :=
  getElem?_insert_key _ _ _ _

theorem groups_dropGroup :
    (s.dropGroup name).groups[k]? = if name = k then none else s.groups[k]? :=
  getElem?_erase_key _ _ _

variable {pol : PolicyObject}

theorem policies_putPolicy : (s.putPolicy name pol).policies[k]? =
      if name = k then some { pol with resourceVersion := s.revision + 1 } else s.policies[k]? :=
  getElem?_insert_key _ _ _ _

theorem names_putGroup :
    (s.putGroup name g).names k = if name = k then g.status.names else s.names k := by
  unfold names
  rw [groups_putGroup]
  by_cases h : name = k <;> simp [h]

theorem names_putGroup_of_eq (h : g.status.names = s.names name) (k : String) :
    (s.putGroup name g).names k = s.names k := by
  rw [names_putGroup]
  split
  next heq => rw [h, heq]
  next => rfl

theorem names_dropGroup : (s.dropGroup name).names k = if name = k then [] else s.names k := by
  unfold names
  rw [groups_dropGroup]
  by_cases h : name = k <;> simp [h]

theorem deleting_putGroup : (s.putGroup name g).Deleting k ↔
    if name = k then g.deletionTimestamp ≠ none else s.Deleting k := by
  unfold Deleting
  rw [groups_putGroup]
  split <;> simp

theorem deleting_dropGroup : (s.dropGroup name).Deleting k ↔ name ≠ k ∧ s.Deleting k := by
  unfold Deleting
  rw [groups_dropGroup]
  by_cases h : name = k <;> simp [h]

theorem held_putGroup : (s.putGroup name g).Held k ↔
    if name = k then g.finalizers = [policyGroupCleanupFinalizer] else s.Held k := by
  unfold Held
  rw [groups_putGroup]
  split <;> simp

theorem held_dropGroup : (s.dropGroup name).Held k ↔ name ≠ k ∧ s.Held k := by
  unfold Held
  rw [groups_dropGroup]
  by_cases h : name = k <;> simp [h]

theorem finalized_putGroup (h : s.Finalized) (hg : g.finalizers = [policyGroupCleanupFinalizer] ∨
      g.finalizers = [] ∧ g.deletionTimestamp = none ∧ g.status.names = []) :
    (s.putGroup name g).Finalized := by
  intro k g' hg'
  rw [groups_putGroup] at hg'
  split at hg'
  next =>
    cases hg'
    exact hg
  next => exact h k g' hg'

theorem finalized_dropGroup (h : s.Finalized) : (s.dropGroup name).Finalized := by
  intro k g' hg'
  rw [groups_dropGroup] at hg'
  split at hg'
  next => cases hg'
  next => exact h k g' hg'

/-- A change of the groups that keeps what the references depend on. -/
theorem others_of_names {s' : GroupWorld} (hnames : ∀ k, s'.names k = s.names k)
    (hdel : ∀ k, s'.Deleting k ↔ s.Deleting k) (hheld : ∀ k, s.Held k → s'.Held k)
    (hdue : ∀ k, s.Due k → s'.Due k) (hpolicies : s'.policies = s.policies) : Others s s' := by
  refine ⟨hnames, fun k => (hdel k).mpr, hheld, hdue, fun policy => .inl ?_, fun k pol' h => ?_⟩
  · refine referencesOf_congr fun k => ?_
    unfold Refers
    rw [hnames, hdel]
  · rw [hpolicies] at h
    exact .inl ⟨pol', h, rfl⟩

theorem others_putGroup (hnames : g.status.names = s.names name)
    (hdel : g.deletionTimestamp ≠ none ↔ s.Deleting name)
    (hheld : s.Held name → g.finalizers = [policyGroupCleanupFinalizer]) :
    Others s (s.putGroup name g) := by
  refine others_of_names (names_putGroup_of_eq hnames) (fun k => ?_) (fun k hk => ?_)
    (fun _ h => h) rfl
  · rw [deleting_putGroup]
    split
    next heq => rw [hdel, heq]
    next => rfl
  · rw [held_putGroup]
    split
    next heq => exact hheld (heq ▸ hk)
    next => exact hk

/-- The removal of a group that was never reconciled. -/
theorem others_dropGroup (hnames : s.names name = []) (hdel : ¬ s.Deleting name)
    (hheld : ¬ s.Held name) : Others s (s.dropGroup name) := by
  refine others_of_names (fun k => ?_) (fun k => ?_) (fun k hk => ?_) (fun _ h => h) rfl
  · rw [names_dropGroup]
    split
    next heq => rw [← heq, hnames]
    next => rfl
  · rw [deleting_dropGroup]
    exact ⟨fun h => h.2, fun h => ⟨fun heq => hdel (heq ▸ h), h⟩⟩
  · exact (held_dropGroup k).mpr ⟨fun heq => hheld (heq ▸ hk), hk⟩

/-- A write to a policy that keeps its references. -/
theorem others_putPolicy {old : PolicyObject} (hold : s.policies[name]? = some old)
    (hpol : pol.status.referencedBy = old.status.referencedBy) :
    Others s (s.putPolicy name pol) := by
  refine ⟨fun _ => rfl, fun _ h => h, fun _ h => h, fun _ h => h, fun _ => .inl rfl, ?_⟩
  intro k pol' hpol'
  rw [policies_putPolicy] at hpol'
  split at hpol'
  next heq =>
    cases hpol'
    rw [← heq]
    exact .inl ⟨old, hold, hpol⟩
  next => exact .inl ⟨pol', hpol', rfl⟩

end

/-! ## Edits -/

theorem others_createGroup {spec : PolicyGroupSpec} (hnone : s.groups[name]? = none) :
    Others s (s.putGroup name { name := name, generation := 1, spec := spec }) := by
  refine others_putGroup (names_of_none hnone).symm ⟨fun h => absurd rfl h, ?_⟩ ?_
  · simp [Deleting, hnone]
  · simp [Held, hnone]

theorem others_deletionRequest {g : PolicyGroupObject} {now : Time} (hg : s.groups[name]? = some g)
    (hdel : g.deletionTimestamp = none) :
    Others s { s.putGroup name { g with deletionTimestamp := some now } with
      changed := name :: s.changed } := by
  have hnames := names_putGroup_of_eq (g := { g with deletionTimestamp := some now })
    (names_of_some hg).symm
  have hlive : ¬ s.Deleting name := fun h => (deleting_iff hg).mp h hdel
  refine ⟨hnames, fun k hk => ?_, fun k hk => ?_, fun k hk => hk.imp_right (List.mem_cons_of_mem _),
    fun policy => ?_, fun _ pol' h => .inl ⟨pol', h, rfl⟩⟩
  · refine (deleting_putGroup k).mpr ?_
    split
    next => exact Option.some_ne_none _
    next => exact hk
  · refine (held_putGroup k).mpr ?_
    split
    next heq => exact (held_iff hg).mp (heq ▸ hk)
    next => exact hk
  · by_cases hlists : policy ∈ s.names name
    · refine .inr ⟨name, hlive, .inr List.mem_cons_self, ?_⟩
      exact (hnames name).symm ▸ hlists
    · refine .inl (referencesOf_congr fun k => ?_)
      change policy ∈ (s.putGroup name { g with deletionTimestamp := some now }).names k ∧
        ¬ (s.putGroup name { g with deletionTimestamp := some now }).Deleting k ↔ _
      rw [hnames, deleting_putGroup]
      split
      next heq =>
        rw [← heq]
        exact ⟨fun h => absurd h.1 hlists, fun h => absurd h.1 hlists⟩
      next => rfl

theorem others_createPolicy {pol : PolicyObject} (hpol : pol.status.referencedBy = []) :
    Others s { s.putPolicy name pol with changed := listing s.groups name ++ s.changed } := by
  refine ⟨fun _ => rfl, fun _ h => h, fun _ h => h,
    fun k hk => hk.imp_right (List.mem_append_right _), fun _ => .inl rfl, ?_⟩
  intro k pol' hpol'
  change (s.putPolicy name pol).policies[k]? = some pol' at hpol'
  rw [policies_putPolicy] at hpol'
  split at hpol'
  next heq =>
    cases hpol'
    subst heq
    cases hrefs : referencesOf s.groups name with
    | nil => exact .inr (.inl (hpol.trans hrefs.symm))
    | cons group rest =>
      have hmem : group ∈ referencesOf s.groups name := by
        rw [hrefs]
        exact List.mem_cons_self
      obtain ⟨hlists, hlive⟩ := mem_referencesOf.mp hmem
      refine .inr (.inr ⟨group, hlive, .inr (List.mem_append_left _ ?_), hlists⟩)
      exact (sortStrings_perm _).mem_iff.mp hmem
  next => exact .inl ⟨pol', hpol', rfl⟩

/-- What an edit does, and that it keeps the finalizers in order. -/
theorem others_edit (h : s.Finalized) (e : ClusterEdit) :
    Others s (s.edit e) ∧ (s.edit e).Finalized := by
  have hsame : Others s s ∧ s.Finalized := ⟨Others.refl s, h⟩
  unfold GroupWorld.edit
  cases e with
  | createGroup name spec =>
    dsimp only
    split
    next => exact hsame
    next hg => exact ⟨others_createGroup hg, finalized_putGroup h (.inr ⟨rfl, rfl, rfl⟩)⟩
  | editGroup name spec =>
    dsimp only
    split
    next => exact hsame
    next g hg =>
      exact ⟨others_putGroup (names_of_some hg).symm (deleting_iff hg).symm (held_iff hg).mp,
        finalized_putGroup h (h name g hg)⟩
  | deleteGroup name now =>
    dsimp only
    split
    next => exact hsame
    next g hg =>
      rcases h name g hg with hheld | ⟨hempty, hdel, hnames⟩
      · rw [if_neg (by simp [hheld])]
        split
        next hdel =>
          exact ⟨others_deletionRequest hg hdel,
            finalized_putGroup (g := { g with deletionTimestamp := some now }) h (.inl hheld)⟩
        next => exact hsame
      · rw [if_pos hempty]
        refine ⟨others_dropGroup ((names_of_some hg).trans hnames) ?_ ?_, finalized_dropGroup h⟩
        · exact fun hdeleting => (deleting_iff hg).mp hdeleting hdel
        · simp [held_iff hg, hempty]
  | createPolicy name labels spec =>
    dsimp only
    split
    next => exact hsame
    next => exact ⟨others_createPolicy rfl, h⟩
  | editPolicy name labels spec =>
    dsimp only
    split
    next => exact hsame
    next pol hpol => exact ⟨others_putPolicy hpol rfl, h⟩
  | writePolicyStatus name status =>
    dsimp only
    split
    next => exact hsame
    next pol hpol => exact ⟨others_putPolicy hpol rfl, h⟩
  | deletePolicy name =>
    refine ⟨⟨fun _ => rfl, fun _ h => h, fun _ h => h, fun _ h => h, fun _ => .inl rfl, ?_⟩, h⟩
    intro k pol' hpol'
    change (s.dropPolicy name).policies[k]? = some pol' at hpol'
    exact .inl ⟨pol', (getElem?_erase_some.mp hpol').2, rfl⟩

theorem Idle.edit (h : Idle s) (e : ClusterEdit) : Idle (s.edit e) := by
  obtain ⟨hothers, hfinal⟩ := others_edit h.finalized e
  exact ⟨hfinal, fun policy => (h.right policy).later hothers (maySkip_none s)⟩

/-- A change that the others can make. -/
theorem Mid.others (h : Mid group start s) (hfinal : s'.Finalized) (hothers : Others s s') :
    Mid group start s' where
  finalized := hfinal
  right policy := (h.right policy).imp (fun hright => hright.later hothers (maySkip_none s))
    fun hpending => hpending.later hothers

/-! ## The refresh of the policies -/

section

variable {group : String} {start : GroupWorld} {skip : Option String}
  {snapshot : GoMap PolicyGroupObject}

/-- The rule for the programs of a running reconcile of the group. -/
abbrev Reconciles (group : String) (start : GroupWorld) {R : Type} (post : GroupWorld → R → Prop)
    (s0 : GroupWorld) (p : GroupProg R) : Prop :=
  Prog.Ensures Others (fun s _ => Mid group start s) (fun _ s' => Mid group start s') post s0 p

/-- The same for what holds if the program succeeds. -/
abbrev Achieves (group : String) (start : GroupWorld) (goal : GroupWorld → Prop) (s0 : GroupWorld)
    (p : GroupProg (ApiResult Unit)) : Prop :=
  Reconciles group start (fun s r => r = .ok () → goal s) s0 p

/-- A step whose error ends the reconcile, and what follows. -/
theorem achieves_step {P Q : GroupWorld → Prop} {s0 : GroupWorld}
    {p : GroupProg (ApiResult Unit)} {next : ApiResult Unit → GroupProg (ApiResult Unit)}
    (hp : Achieves group start P s0 p)
    (hfail : ∀ err, ∃ err', next (.error err) = .ret (.error err'))
    (hnext : ∀ s, P s → Achieves group start Q s (next (.ok ()))) :
    Achieves group start Q s0 (p >>= next) := by
  refine Prog.ensures_bind (Prog.ensures_mono (fun s r hr => ?_) hp)
  cases r with
  | error err =>
    obtain ⟨err', heq⟩ := hfail err
    rw [heq]
    intro h
    cases h
  | ok u => exact hnext s (hr rfl)

/-- Where the loop over the touched policies stands: `rest` are still to come. -/
structure Refreshing (skip : Option String) (snapshot : GoMap PolicyGroupObject)
    (rest : List String) (s : GroupWorld) : Prop where
  maySkip : MaySkip skip s
  references : ∀ policy, referencesOf s.groups policy = referencesOf snapshot policy ∨
    Excused skip s policy
  right : ∀ policy, policy ∉ rest → Right skip s policy

variable {rest : List String} {s s0 : GroupWorld} {name : String} {pol : PolicyObject}
  {shuffle : Shuffle} {pg : PolicyGroupObject}

theorem Refreshing.later {s' : GroupWorld} (h : Refreshing skip snapshot rest s)
    (h' : Others s s') : Refreshing skip snapshot rest s' where
  maySkip group heq := h'.deleting group (h.maySkip group heq)
  references policy := by
    rcases h'.references policy with heq | hmarked
    · rw [heq]
      exact (h.references policy).imp_right fun hexcused => hexcused.later h'
    · exact .inr (hmarked.excused h.maySkip)
  right policy hrest := (h.right policy hrest).later h' h.maySkip

theorem right_of_snapshot (h : Refreshing skip snapshot rest s)
    (hpol : ∀ pol : PolicyObject, s.policies[name]? = some pol →
      pol.status.referencedBy = referencesOf snapshot name) : Right skip s name := by
  intro pol hfound
  rw [hpol pol hfound]
  exact (h.references name).imp_left Eq.symm

/-- The write of the references of one policy leaves the other policies alone. -/
theorem right_putPolicy_ne {policy : String} (hne : name ≠ policy) (h : Right skip s policy) :
    Right skip (s.putPolicy name pol) policy := by
  intro pol' hpol'
  rw [policies_putPolicy, if_neg hne] at hpol'
  exact h pol' hpol'

section

variable (h : Refreshing skip snapshot (name :: rest) s)

include h

theorem Refreshing.putPolicy (pol : PolicyObject) :
    Refreshing skip snapshot (name :: rest) (s.putPolicy name pol) where
  maySkip := h.maySkip
  references := h.references
  right policy hrest :=
    right_putPolicy_ne (List.ne_of_not_mem_cons hrest).symm (h.right policy hrest)

theorem Refreshing.right_written (hpol : pol.status.referencedBy = referencesOf snapshot name) :
    Right skip (s.putPolicy name pol) name := by
  refine right_of_snapshot (h.putPolicy pol) fun pol' hpol' => ?_
  rw [policies_putPolicy, if_pos rfl] at hpol'
  cases hpol'
  exact hpol

theorem Refreshing.mid_written (hmid : Mid group start s)
    (hpol : pol.status.referencedBy = referencesOf snapshot name) :
    Mid group start (s.putPolicy name pol) where
  finalized := hmid.finalized
  right policy := by
    by_cases heq : name = policy
    · subst heq
      exact .inl (h.right_written hpol).weaken
    · exact (hmid.right policy).imp_left (right_putPolicy_ne heq)

end

/-- One policy is refreshed, or does not exist. -/
theorem ensures_refreshLatestPolicy (hs : Refreshing skip snapshot (name :: rest) s0) :
    Reconciles group start (fun s r => Refreshing skip snapshot (name :: rest) s ∧
        ((∀ err, r = .error err → err.reason = .notFound) → Right skip s name)) s0
      (refreshLatestPolicy name (referencesOf snapshot name)) := by
  have hother : ∀ (s : GroupWorld) (text : String),
      ((∀ err : ApiError, (.error ⟨.other, text⟩ : ApiResult Unit) = .error err →
        err.reason = .notFound) → Right skip s name) := by
    intro s text h
    cases h _ rfl
  refine Prog.ensures_bind (ensures_apiRead (fun _ _ h => h)
    (fun s text h => ⟨hs.later h, hother s text⟩) fun s _ h _ => ?_)
  have hs' := hs.later h
  cases hpol : s.policies[name]? with
  | none =>
    refine ⟨hs', fun _ pol hpol' => ?_⟩
    rw [hpol] at hpol'
    cases hpol'
  | some pol =>
    dsimp only
    split
    next heq =>
      refine ⟨hs', fun _ => right_of_snapshot hs' fun pol' hpol' => ?_⟩
      rw [hpol] at hpol'
      cases hpol'
      exact heq
    next =>
      refine ensures_apiWrite (fun _ _ h => h) (fun s' text h' => ⟨hs'.later h', hother s' text⟩)
        (fun s' _ err h' _ hrefused => ⟨hs'.later h', fun hreason => ?_⟩)
        fun s' _ s'' h' hmid hwrite => ?_
      · split at hrefused
        next hnone =>
          intro pol' hpol'
          rw [hnone] at hpol'
          cases hpol'
        next =>
          split at hrefused
          next =>
            cases hrefused
            cases hreason _ rfl
          next => cases hrefused
      · split at hwrite
        next => cases hwrite
        next stored _ =>
          split at hwrite
          next => cases hwrite
          next =>
            cases hwrite
            have hloop := hs'.later h'
            exact ⟨hloop.mid_written hmid rfl,
              ⟨hloop.putPolicy _, fun _ => hloop.right_written rfl⟩,
              fun text => ⟨hloop.putPolicy _, hother _ text⟩⟩

theorem ensures_refreshPolicies [GoUnicode] (hs : Refreshing skip snapshot rest s0) :
    Achieves group start (fun s => MaySkip skip s ∧ ∀ policy, Right skip s policy) s0
      (refreshPolicies snapshot rest) := by
  induction rest generalizing s0 with
  | nil => exact fun _ => ⟨hs.maySkip, fun policy => hs.right policy List.not_mem_nil⟩
  | cons name rest ih =>
    have hdone : ∀ s, Refreshing skip snapshot (name :: rest) s → Right skip s name →
        Refreshing skip snapshot rest s := by
      intro s h hright
      refine ⟨h.maySkip, h.references, fun policy hrest => ?_⟩
      by_cases heq : policy = name
      · rw [heq]
        exact hright
      · exact h.right policy (List.not_mem_cons_of_ne_of_not_mem heq hrest)
    refine Prog.ensures_bind (Prog.ensures_mono (fun s r hr => ?_)
      (ensures_retryOnConflict (fun s h => Prog.ensures_mono (fun s' r hr =>
        ⟨hr, fun _ _ _ => hr.1⟩) (ensures_refreshLatestPolicy h)) 3 hs))
    obtain ⟨hloop, hright⟩ := hr
    cases r with
    | ok u => exact ih (hdone s hloop (hright fun _ h => by cases h))
    | error err =>
      dsimp only
      split
      next hreason =>
        refine ih (hdone s hloop (hright fun err' h => ?_))
        cases h
        exact hreason
      next =>
        intro h
        cases h

theorem ensures_refreshReferencedBy [GoUnicode] {prev current : List String}
    (hs : ∀ s, Others s0 s → Mid group start s → MaySkip skip s ∧
      ∀ policy, policy ∉ prev → policy ∉ current → Right skip s policy) :
    Achieves group start (fun s => MaySkip skip s ∧ ∀ policy, Right skip s policy) s0
      (refreshReferencedBy shuffle prev current) := by
  refine Prog.ensures_bind (ensures_apiRead (fun _ _ h => h) (fun _ _ _ h => by cases h)
    fun s _ h hmid => ?_)
  obtain ⟨hskip, hright⟩ := hs s h hmid
  refine ensures_refreshPolicies ⟨hskip, fun _ => .inl rfl, fun policy hpolicy => ?_⟩
  have hall : ∀ name, name ∈ shuffle.run (prev ++ current).dedup ↔
    name ∈ prev ∨ name ∈ current := by
    intro name
    rw [(shuffle.perm _).mem_iff, List.mem_dedup, List.mem_append]
  rw [hall, not_or] at hpolicy
  exact hright policy hpolicy.1 hpolicy.2

/-! ## The paths of a reconcile -/

/-- Without a pending policy, all references are right. -/
theorem Mid.right_of_not_pending (h : Mid group start s) {policy : String}
    (hstart : policy ∉ start.names group) (hnow : policy ∉ s.names group) :
    Right none s policy := by
  rcases h.right policy with hright | ⟨_, hmem | hmem⟩
  · exact hright
  · exact absurd hmem hstart
  · exact absurd hmem hnow

/-- The status of the group that is being reconciled is replaced. -/
theorem Mid.writeStatus (h : Mid group start s) {stored : PolicyGroupObject}
    (hstored : s.groups[group]? = some stored)
    (hheld : stored.finalizers = [policyGroupCleanupFinalizer])
    (hnames : s.names group = start.names group) (desired : PolicyGroupStatus) :
    Mid group start (s.putGroup group { stored with status := desired }) where
  finalized := finalized_putGroup h.finalized (.inl hheld)
  right policy := by
    by_cases hpending : policy ∈ start.names group ∨ policy ∈ desired.names
    · refine .inr ⟨(held_putGroup group).mpr (by rw [if_pos rfl]; exact hheld), ?_⟩
      rw [names_putGroup, if_pos rfl]
      exact hpending
    · rw [not_or] at hpending
      obtain ⟨hstart, hnew⟩ := hpending
      have hnow : policy ∉ s.names group := by
        rw [hnames]
        exact hstart
      have hnames' : ∀ k, policy ∈ (s.putGroup group { stored with status := desired }).names k ↔
          policy ∈ s.names k := by
        intro k
        rw [names_putGroup]
        split
        next heq =>
          rw [← heq]
          exact ⟨fun hmem => absurd hmem hnew, fun hmem => absurd hmem hnow⟩
        next => rfl
      refine .inl fun pol hpol => ?_
      rcases h.right_of_not_pending hstart hnow pol hpol with hright | ⟨k, hne, hdue, hmem⟩
      · refine .inl (hright.trans (referencesOf_congr fun k => ?_).symm)
        unfold Refers
        rw [hnames', deleting_putGroup]
        split
        next heq =>
          rw [← heq, deleting_iff hstored]
        next => rfl
      · exact .inr ⟨k, hne, hdue, (hnames' k).mpr hmem⟩

theorem ensures_updateGroupStatus {desired : PolicyGroupStatus} (hheld : s0.Held group)
    (hnames : s0.names group = start.names group) :
    Achieves group start (fun s => s.names group = desired.names) s0
      (updateGroupStatus group desired) := by
  have hkeeps : ∀ s s', Others s s' → s.Held group ∧ s.names group = start.names group →
      s'.Held group ∧ s'.names group = start.names group :=
    fun s s' h hs => ⟨h.held group hs.1, (h.names group).trans hs.2⟩
  refine ensures_retryOnConflict
    (P := fun s => s.Held group ∧ s.names group = start.names group) (fun s1 hs => ?_) 3
    ⟨hheld, hnames⟩
  refine Prog.ensures_bind (ensures_apiRead (fun _ _ h => h)
    (fun s _ h => ⟨fun hr => (by cases hr), fun _ _ _ => hkeeps _ _ h hs⟩) fun s _ h _ => ?_)
  have hs' := hkeeps _ _ h hs
  cases hg : s.groups[group]? with
  | none => exact ⟨fun hr => (by cases hr), fun _ _ _ => hs'⟩
  | some latest =>
    refine ensures_apiWrite (fun _ _ h => h)
      (fun s' _ h' => ⟨fun hr => (by cases hr), fun _ _ _ => hkeeps _ _ h' hs'⟩)
      (fun s' _ err h' _ _ => ⟨fun hr => (by cases hr), fun _ _ _ => hkeeps _ _ h' hs'⟩)
      fun s' _ s'' h' hmid hwrite => ?_
    obtain ⟨⟨stored, hstored, hheld'⟩, hnames'⟩ := hkeeps _ _ h' hs'
    rw [hstored] at hwrite
    dsimp only at hwrite
    split at hwrite
    next => cases hwrite
    next =>
      cases hwrite
      refine ⟨hmid.writeStatus hstored hheld' hnames' desired,
        ⟨fun _ => ?_, fun _ hr => by cases hr⟩,
        fun text => ⟨fun hr => (by cases hr), fun err hr hconflict => ?_⟩⟩
      · exact (names_putGroup group).trans (if_pos rfl)
      · cases hr
        cases hconflict

theorem ensures_publishStatus [GoUnicode] {status : PolicyGroupStatus} (hheld : s0.Held group)
    (hnames : s0.names group = start.names group) :
    Achieves group start (fun s => ∀ policy, Right none s policy) s0
      (publishStatus shuffle group (start.names group) status) := by
  refine achieves_step (ensures_updateGroupStatus hheld hnames) (fun _ => ⟨_, rfl⟩) fun s hr => ?_
  have hrefresh : Achieves group start (fun s => MaySkip none s ∧ ∀ policy, Right none s policy) s
      (refreshReferencedBy shuffle (start.names group) status.names) := by
    refine ensures_refreshReferencedBy fun s' h hmid =>
      ⟨maySkip_none s', fun policy hstart hnow => hmid.right_of_not_pending hstart ?_⟩
    rw [h.names, hr]
    exact hnow
  exact Prog.ensures_mono (fun s' r hr' h => (hr' h).2) hrefresh

theorem ensures_resolveGroup [GoUnicode] [Apimachinery] (hheld : s0.Held group)
    (hnames : s0.names group = start.names group) (hpg : pg.status.names = start.names group) :
    Achieves group start (fun s => ∀ policy, Right none s policy) s0
      (resolveGroup shuffle group pg) := by
  unfold resolveGroup
  rw [hpg]
  split
  next =>
    refine Prog.ensures_bind (ensures_apiRead (fun _ _ h => h) (fun _ _ _ h => by cases h)
      fun s _ h _ => ?_)
    exact ensures_publishStatus (h.held group hheld) ((h.names group).trans hnames)
  next => exact ensures_publishStatus hheld hnames

/-- The group goes away when all references are right without it. -/
theorem mid_dropGroup (start : GroupWorld) (hfinal : s.Finalized) (hdel : s.Deleting group)
    (hright : ∀ policy, Right (some group) s policy) :
    Mid group start (s.dropGroup group) ∧ ∀ policy, Right none (s.dropGroup group) policy := by
  have hright' : ∀ policy, Right none (s.dropGroup group) policy := by
    intro policy pol hpol
    rcases hright policy pol hpol with heq | ⟨k, hne, hdue, hmem⟩
    · refine .inl (heq.trans (referencesOf_congr fun k => ?_).symm)
      unfold Refers
      rw [names_dropGroup, deleting_dropGroup]
      split
      next hk =>
        rw [← hk]
        exact ⟨fun h => absurd h.1 List.not_mem_nil, fun h => absurd hdel h.2⟩
      next hk => simp [hk]
    · refine .inr ⟨k, Option.some_ne_none _, hdue, ?_⟩
      rw [names_dropGroup, if_neg fun hk => hne (by rw [hk])]
      exact hmem
  exact ⟨⟨finalized_dropGroup hfinal, fun policy => .inl (hright' policy)⟩, hright'⟩

theorem ensures_cleanUp [GoUnicode] (hdel : s0.Deleting group)
    (hnames : s0.names group = start.names group) (hpg : pg.status.names = start.names group)
    (hfinalizers : pg.finalizers = [policyGroupCleanupFinalizer]) :
    Achieves group start (fun s => ∀ policy, Right none s policy) s0
      (cleanUp shuffle group pg) := by
  have hempty : pg.finalizers.filter (· ≠ policyGroupCleanupFinalizer) = [] := by
    rw [hfinalizers]
    simp
  have hrefresh : Achieves group start
      (fun s => MaySkip (some group) s ∧ ∀ policy, Right (some group) s policy) s0
      (refreshReferencedBy shuffle (start.names group) []) := by
    refine ensures_refreshReferencedBy fun s h hmid => ⟨fun k hk => ?_, fun policy hstart _ => ?_⟩
    · cases hk
      exact h.deleting group hdel
    · have hnow : policy ∉ s.names group := by
        rw [h.names, hnames]
        exact hstart
      exact (hmid.right_of_not_pending hstart hnow).skipping hnow
  unfold cleanUp
  rw [hpg, hempty]
  refine achieves_step hrefresh (fun _ => ⟨_, rfl⟩) fun s ⟨hskip, hright⟩ => ?_
  have hremove : Achieves group start (fun s => ∀ policy, Right none s policy) s
      (updateFinalizers group pg []) := by
    refine ensures_apiWrite (fun _ _ h => h) (fun _ _ _ hr => by cases hr)
      (fun _ _ _ _ _ _ hr => by cases hr) fun s' _ s'' h' hmid hwrite => ?_
    obtain ⟨stored, hstored, hdeleted⟩ := h'.deleting group (hskip group rfl)
    rw [hstored] at hwrite
    dsimp only at hwrite
    split at hwrite
    next => cases hwrite
    next =>
      rw [if_pos ⟨rfl, hdeleted⟩] at hwrite
      cases hwrite
      obtain ⟨hmid', hright'⟩ := mid_dropGroup start hmid.finalized
        ⟨stored, hstored, hdeleted⟩ fun policy => (hright policy).later h' hskip
      exact ⟨hmid', fun _ => hright', fun _ hr => by cases hr⟩
  exact achieves_step hremove (fun _ => ⟨_, rfl⟩) fun s' hr _ => hr

theorem ensures_addFinalizer (hexists : s0.names group = start.names group)
    (hfinalizers : pg.finalizers = []) :
    Achieves group start (fun s => s.Held group ∧ s.names group = start.names group) s0
      (updateFinalizers group pg (pg.finalizers ++ [policyGroupCleanupFinalizer])) := by
  rw [hfinalizers, List.nil_append]
  refine ensures_apiWrite (fun _ _ h => h) (fun _ _ _ hr => by cases hr)
    (fun _ _ _ _ _ _ hr => by cases hr) fun s _ s' h hmid hwrite => ?_
  split at hwrite
  next => cases hwrite
  next stored hstored =>
    split at hwrite
    next => cases hwrite
    next =>
      cases hwrite
      have hothers : Others s (s.putGroup group
          { stored with finalizers := [policyGroupCleanupFinalizer] }) :=
        others_putGroup (names_of_some hstored).symm (deleting_iff hstored).symm fun _ => rfl
      refine ⟨hmid.others (finalized_putGroup hmid.finalized (.inl rfl)) hothers, fun _ => ⟨?_, ?_⟩,
        fun _ hr => by cases hr⟩
      · exact (held_putGroup group).mpr (by rw [if_pos rfl])
      · rw [hothers.names, h.names, hexists]

/-- A successful reconcile leaves all references right. -/
theorem ensures_reconcile [GoUnicode] [Apimachinery] :
    Achieves group start (fun s => ∀ policy, Right none s policy) start
      (reconcile shuffle group) := by
  refine Prog.ensures_bind (ensures_apiRead (fun _ _ h => h) (fun _ _ _ h => by cases h)
    fun s _ h hmid => ?_)
  have hnames := h.names group
  cases hg : s.groups[group]? with
  | none =>
    -- there is no group that could list a pending policy
    intro _ policy
    have hnow := names_of_none hg
    refine hmid.right_of_not_pending ?_ ?_
    · rw [← hnames, hnow]
      exact List.not_mem_nil
    · rw [hnow]
      exact List.not_mem_nil
  | some pg =>
    have hpg : pg.status.names = start.names group := (names_of_some hg).symm.trans hnames
    dsimp only
    split
    next hdel =>
      rcases hmid.finalized group pg hg with hfinalizers | ⟨_, hlive, _⟩
      · rw [if_pos (by rw [hfinalizers]; exact List.mem_singleton_self _)]
        exact ensures_cleanUp ⟨pg, hg, hdel⟩ hnames hpg hfinalizers
      · exact absurd hlive hdel
    next =>
      split
      next hmem =>
        rcases hmid.finalized group pg hg with hfinalizers | ⟨hempty, _⟩
        · exact ensures_resolveGroup ⟨pg, hg, hfinalizers⟩ hnames hpg
        · rw [hempty] at hmem
          exact absurd hmem List.not_mem_nil
      next hmem =>
        rcases hmid.finalized group pg hg with hfinalizers | ⟨hempty, _⟩
        · rw [hfinalizers] at hmem
          exact absurd (List.mem_singleton_self _) hmem
        · exact achieves_step (ensures_addFinalizer hnames hempty) (fun _ => ⟨_, rfl⟩)
            fun s' hr => ensures_resolveGroup hr.1 hr.2 hpg

end

/-! ## Runs -/

section

variable [GoUnicode] [Apimachinery]

abbrev GroupWorker := Worker Request GroupWorld ApiInput (ApiResult Unit)

abbrev GroupEvent := WorkerEvent Request ClusterEdit ApiInput

/-- The status of the group still lists every policy that it listed when the reconcile
began, or the group is gone. -/
def NoneDropped (job : Job Request GroupWorld ApiInput (ApiResult Unit)) (s : GroupWorld) : Prop :=
  ∀ policy ∈ job.start.names job.task.name,
    s.groups[job.task.name]? = none ∨ policy ∈ s.names job.task.name

/-- A reconcile that crashes or returns an error has dropped no policy. -/
def Lossless (w : GroupWorker) (e : GroupEvent) : Prop :=
  match e, w.job with
  | .crash, some job => NoneDropped job w.shared
  | .finish, some ⟨task, start, .ret (.error err)⟩ =>
    NoneDropped ⟨task, start, .ret (.error err)⟩ w.shared
  | _, _ => True

instance (job : Job Request GroupWorld ApiInput (ApiResult Unit)) (s : GroupWorld) :
    Decidable (NoneDropped job s) :=
  inferInstanceAs (Decidable (∀ policy ∈ job.start.names job.task.name,
    s.groups[job.task.name]? = none ∨ policy ∈ s.names job.task.name))

instance (w : GroupWorker) (e : GroupEvent) : Decidable (Lossless w e) :=
  match w, e with
  | ⟨s, some job⟩, .crash => inferInstanceAs (Decidable (NoneDropped job s))
  | ⟨s, some ⟨task, start, .ret (.error err)⟩⟩, .finish =>
    inferInstanceAs (Decidable (NoneDropped ⟨task, start, .ret (.error err)⟩ s))
  | ⟨_, some ⟨_, _, .ret (.ok _)⟩⟩, .finish => .isTrue trivial
  | ⟨_, some ⟨_, _, .call _ _⟩⟩, .finish => .isTrue trivial
  | ⟨_, none⟩, .crash => .isTrue trivial
  | ⟨_, none⟩, .finish => .isTrue trivial
  | _, .environment _ => .isTrue trivial
  | _, .start _ => .isTrue trivial
  | _, .call _ => .isTrue trivial

/-- No reconcile runs, and the most recent one of every group succeeded and began after
the last event that calls for another one. -/
structure Quiet (w : GroupWorker) : Prop where
  noJob : w.job.isNone
  succeeded : ∀ (name : String) (g : PolicyGroupObject), w.shared.groups[name]? = some g →
    name ∉ w.shared.failed
  upToDate : ∀ (name : String) (g : PolicyGroupObject), w.shared.groups[name]? = some g →
    name ∉ w.shared.changed

/-- `status.referencedBy` of every policy is the sorted list of the groups whose status
lists the policy and that are not being deleted. -/
def Exact (s : GroupWorld) : Prop :=
  ∀ (policy : String) (pol : PolicyObject), s.policies[policy]? = some pol →
    pol.status.referencedBy.Pairwise (· < ·) ∧
      ∀ group, group ∈ pol.status.referencedBy ↔
        ∃ g : PolicyGroupObject, s.groups[group]? = some g ∧ g.deletionTimestamp = none ∧
          policy ∈ g.status.resolvedPolicies.map (·.name)

variable {s : GroupWorld}

omit [GoUnicode] [Apimachinery] in
/-- A failed reconcile that has dropped no policy leaves the pending ones to the next. -/
theorem Mid.failed {job : Job Request GroupWorld ApiInput (ApiResult Unit)}
    (h : Mid job.task.name job.start s) (hnone : NoneDropped job s) :
    Idle { s with failed := job.task.name :: s.failed } where
  finalized := h.finalized
  right policy := by
    rcases h.right policy with hright | ⟨hheld, hmem⟩
    · intro pol hpol
      refine (hright pol hpol).imp_right fun ⟨k, hne, hdue, hk⟩ => ⟨k, hne, ?_, hk⟩
      exact hdue.imp_left (List.mem_cons_of_mem _)
    · have hnow : policy ∈ s.names job.task.name := by
        rcases hmem with hstart | hnow
        · rcases hnone policy hstart with hgone | hnow
          · obtain ⟨g, hg, _⟩ := hheld
            rw [hgone] at hg
            cases hg
          · exact hnow
        · exact hnow
      exact fun _ _ => .inr ⟨job.task.name, Option.some_ne_none _, .inl List.mem_cons_self, hnow⟩

theorem started_mid (h : Idle s) (request : Request) :
    Mid request.name (controller.started request s) (controller.started request s) where
  finalized := h.finalized
  right policy := by
    by_cases hmem : policy ∈ s.names request.name
    · exact .inr ⟨h.finalized.held hmem, .inl hmem⟩
    · refine .inl fun pol hpol => (h.right policy pol hpol).imp_right fun ⟨k, hne, hdue, hk⟩ => ?_
      have hother : k ≠ request.name := by
        intro heq
        rw [heq] at hk
        exact hmem hk
      refine ⟨k, hne, ?_, hk⟩
      exact hdue.imp (fun hf => List.mem_filter.mpr ⟨hf, by simpa using hother⟩)
        fun hc => List.mem_filter.mpr ⟨hc, by simpa using hother⟩

theorem controller_sound : controller.Sound Lossless Idle (fun request => Mid request.name) Others
      (fun request start _ s' => Mid request.name start s')
      (fun _ _ s r => r = .ok () → ∀ policy, Right none s policy) where
  refl := Others.refl
  trans := Others.trans
  idle_environment _ e _ h := h.edit e
  mid_environment _ _ e _ h := have ⟨hothers, hfinal⟩ := others_edit h.finalized e
    ⟨hothers, h.others hfinal hothers⟩
  starts request s h := ⟨started_mid h request, ensures_reconcile⟩
  mid_call _ _ _ _ _ h := h
  idle_finish request start s1 s r hmid hrely hpost hlossless := by
    cases r with
    | ok u =>
      exact ⟨hmid.finalized, fun policy =>
        (hpost rfl policy).later hrely (maySkip_none s1)⟩
    | error err => exact hmid.failed hlossless
  idle_crash _ _ hmid hlossless := hmid.failed hlossless

/-- In every run from an empty cluster whose failing reconciles have dropped no policy,
`referencedBy` is exact whenever the controller is quiet. -/
theorem referencedBy_exact {events : List GroupEvent}
    (hlossless : Guarded Lossless controller.step { shared := {} } events)
    (hquiet : Quiet (run controller.step { shared := {} } events)) :
    Exact (run controller.step { shared := {} } events).shared := by
  have hstart : Idle {} := by
    refine ⟨fun name g hg => ?_, fun policy pol hpol => ?_⟩
    · cases hg
    · cases hpol
  obtain ⟨_, hholds⟩ := controller_sound.run (w := { shared := {} }) hstart hlossless
  unfold Controller.Holds at hholds
  rw [Option.isNone_iff_eq_none.mp hquiet.noJob] at hholds
  intro policy pol hpol
  rcases hholds.right policy pol hpol with heq | ⟨group, _, hdue, hmem⟩
  · rw [heq]
    exact ⟨pairwise_referencesOf _ _, fun group => mem_referencesOf.trans refers_iff⟩
  · obtain ⟨g, hg⟩ := exists_of_mem_names hmem
    rcases hdue with hfailed | hchanged
    · exact absurd hfailed (hquiet.succeeded group g hg)
    · exact absurd hchanged (hquiet.upToDate group g hg)

end

attribute [local instance] GoUnicode.ascii Apimachinery.basic

/-- An enabled group with one member. -/
def groupOf (policy : String) : PolicyGroupSpec where
  enabled := true
  policies := { byName := [{ name := policy }] }

/-- Two policies and a group with the first one. -/
def setUp : List GroupEvent :=
  [.environment (.createPolicy "a" ∅ (.auditPods "package kubesentry")),
    .environment (.createPolicy "b" ∅ (.auditPods "package kubesentry")),
    .environment (.createGroup "g" (groupOf "a"))]

/-- The first reconcile fails after the status write, and is retried. -/
def firstReconcile : List GroupEvent :=
  [.start { name := "g" }] ++ List.replicate 5 (.call {}) ++
    [.call { fault := some "timeout" }, .finish] ++
    [.start { name := "g" }] ++ List.replicate 7 (.call {}) ++ [.finish]

/-- The group gets the second policy instead, and the reconcile fails in the same place. -/
def secondReconcile : List GroupEvent :=
  [.environment (.editGroup "g" (groupOf "b")), .start { name := "g" }] ++
    List.replicate 4 (.call {}) ++ [.call { fault := some "timeout" }, .finish] ++
    [.start { name := "g" }] ++ List.replicate 7 (.call {}) ++ [.finish]

/-- The worker after a run from an empty cluster. -/
def workerAfter (events : List GroupEvent) : GroupWorker :=
  run controller.step { shared := {} } events

theorem quiet_of_nil {w : GroupWorker} (hjob : w.job.isNone) (hfailed : w.shared.failed = [])
    (hchanged : w.shared.changed = []) : Quiet w := by
  refine ⟨hjob, fun name _ _ => ?_, fun name _ _ => ?_⟩
  · rw [hfailed]
    exact List.not_mem_nil
  · rw [hchanged]
    exact List.not_mem_nil

theorem referencedBy_exact_retry :
    (workerAfter (setUp ++ firstReconcile)).shared.policies["a"]?.map (·.status.referencedBy) =
        some ["g"] ∧
      Exact (workerAfter (setUp ++ firstReconcile)).shared :=
  ⟨by decide +kernel, referencedBy_exact (by decide +kernel)
    (quiet_of_nil (by decide +kernel) (by decide +kernel) (by decide +kernel))⟩

/-- The first policy keeps the group, which lists only the second one. -/
theorem dropped_policy_keeps_group :
    Quiet (workerAfter (setUp ++ firstReconcile ++ secondReconcile)) ∧
      (workerAfter (setUp ++ firstReconcile ++ secondReconcile)).shared.policies["a"]?.map
        (·.status.referencedBy) = some ["g"] ∧
      (workerAfter (setUp ++ firstReconcile ++ secondReconcile)).shared.groups["g"]?.map
        (·.status.names) = some ["b"] ∧
      ¬ Exact (workerAfter (setUp ++ firstReconcile ++ secondReconcile)).shared := by
  have hpolicy :
      (workerAfter (setUp ++ firstReconcile ++ secondReconcile)).shared.policies["a"]?.map
      (·.status.referencedBy) = some ["g"] := by decide +kernel
  have hgroup : (workerAfter (setUp ++ firstReconcile ++ secondReconcile)).shared.groups["g"]?.map
      (·.status.names) = some ["b"] := by decide +kernel
  refine ⟨quiet_of_nil (by decide +kernel) (by decide +kernel) (by decide +kernel), hpolicy, hgroup,
    fun hexact => ?_⟩
  obtain ⟨pol, hpol, hrefs⟩ := Option.map_eq_some_iff.mp hpolicy
  obtain ⟨g, hg, hlists⟩ :=
    ((hexact "a" pol hpol).2 "g").mp (by rw [hrefs]; exact List.mem_cons_self)
  obtain ⟨g', hg', hnames⟩ := Option.map_eq_some_iff.mp hgroup
  rw [hg] at hg'
  cases hg'
  have hmem : "a" ∈ g.status.names := hlists.2
  rw [hnames] at hmem
  exact absurd hmem (by decide)

end KubeSentry.Operator.GroupReconciler
