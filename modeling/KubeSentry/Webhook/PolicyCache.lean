import KubeSentry.Api.Types

/-!
# The policy cache of the webhook

`internal/webhook/cache.go`: the compiled policies and groups, and
`MatchingForRequest`, which finds the policies that a request must pass.

The lookup ranges over three maps: the groups, the members of each group, and
the collected policies.  `MatchOrder` holds the order of each range.  The
result depends on them, but only in the order of the list and in the order of
the group names inside an element: `matchingForRequest_perm` compares it with
`matched`, which has no order in it.

The compiled query of a policy belongs to OPA, so its type is a parameter.
-/

namespace KubeSentry.Webhook

open GoLib

variable {Query : Type}

/-! ## The cache -/

structure CompiledPolicy (Query : Type) where
  name : String
  description : String := ""
  matching : PolicyMatch := {}
  query : Query
  referencedBy : List String := []

structure CompiledGroup where
  name : String
  enabled : Bool
  /-- A nil selector matches every namespace. -/
  namespaceSelector : Option Selector := none
  members : GoMap EnforcementMode := ∅

structure PolicyCache (Query : Type) where
  policies : GoMap (CompiledPolicy Query) := ∅
  groups : GoMap CompiledGroup := ∅
  ready : Bool := false

/-- `Resolved`: a policy to evaluate, with its effective mode and the groups
that brought it in. -/
structure Resolved (Query : Type) where
  policy : CompiledPolicy Query
  mode : EnforcementMode
  groups : List String

/-- `strictestOf`. -/
def strictestOf (a b : EnforcementMode) : EnforcementMode :=
  if a = .enforce ∨ b = .enforce then .enforce else .audit

theorem strictestOf_eq_enforce (a b : EnforcementMode) :
    strictestOf a b = .enforce ↔ a = .enforce ∨ b = .enforce := by
  unfold strictestOf
  split
  · rename_i h
    exact iff_of_true rfl h
  · rename_i h
    exact iff_of_false (by decide) h

theorem strictestOf_isSet (a b : EnforcementMode) : (strictestOf a b).IsSet := by
  unfold strictestOf
  split
  · exact .inl rfl
  · exact .inr rfl

/-- `matchesResource`. -/
def matchesResource (r : MatchResource) (resource apiGroup : String) : Bool :=
  (r.resources.contains resource || r.resources.contains "*") &&
    (r.apiGroups.contains apiGroup || r.apiGroups.contains "*")

/-- `matchesPolicy`. -/
def matchesPolicy (m : PolicyMatch) (resource apiGroup operation : String) : Bool :=
  if !m.operations.contains operation && !m.operations.contains "*" then false
  else m.resources.any fun r => matchesResource r resource apiGroup

/-- A nil selector holds.  Another one holds of labels only, not of the nil map
that stands for labels the handler could not resolve. -/
def selectorHolds : Option Selector → Option Labels → Bool
  | none, _ => true
  | some _, none => false
  | some sel, some labels => sel labels

/-- The filter of step 1: the group is enabled and its selector holds. -/
def groupApplies (namespaceLabels : Option Labels) (g : CompiledGroup) : Bool :=
  g.enabled && selectorHolds g.namespaceSelector namespaceLabels

/-- The request fields that the lookup reads. -/
structure RequestKey where
  resource : String
  apiGroup : String
  operation : String
  namespaceLabels : Option Labels

/-- The orders of the three ranges; the range over members runs once for each
group. -/
structure MatchOrder where
  groups : Shuffle
  members : String → Shuffle
  byPolicy : Shuffle

/-- `accum`. -/
structure Accum where
  mode : EnforcementMode
  groups : List String

/-- One update of `byPolicy`. -/
def Accum.add : Option Accum → EnforcementMode × String → Accum
  | none, hit => { mode := hit.1, groups := [hit.2] }
  | some a, hit => { mode := strictestOf a.mode hit.1, groups := a.groups ++ [hit.2] }

variable (c : PolicyCache Query)

/-- The policy is in the cache and matches the request. -/
def candidate (key : RequestKey) (polName : String) : Bool :=
  match c.policies[polName]? with
  | none => false
  | some pol => matchesPolicy pol.matching key.resource key.apiGroup key.operation

/-- The updates that one matching group makes. -/
def groupHits (key : RequestKey) (order : MatchOrder)
    (e : String × CompiledGroup) : List (String × EnforcementMode × String) :=
  ((order.members e.1).run e.2.members.toList).filterMap fun member =>
    if candidate c key member.1 then some (member.1, member.2, e.2.name) else none

/-- `MatchingForRequest`. -/
def matchingForRequest (order : MatchOrder) (key : RequestKey) : List (Resolved Query) :=
  let matchingGroups :=
    (order.groups.run c.groups.toList).filter fun e => groupApplies key.namespaceLabels e.2
  if matchingGroups.length = 0 then []
  else
    let byPolicy := accumulate Accum.add ∅ (matchingGroups.flatMap (groupHits c key order))
    (order.byPolicy.run byPolicy.toList).filterMap fun e =>
      c.policies[e.1]?.map fun pol => { policy := pol, mode := e.2.mode, groups := e.2.groups }

/-! ## What the lookup finds -/

/-- The memberships of a policy in a list of groups. -/
def membershipsIn (groups : List (String × CompiledGroup)) (polName : String) :
    List (EnforcementMode × String) :=
  groups.filterMap fun e => e.2.members[polName]?.map fun mode => (mode, e.2.name)

/-- The memberships of a policy in the groups that apply: the mode and the
group's name, by group key. -/
def memberships (key : RequestKey) (polName : String) : List (EnforcementMode × String) :=
  membershipsIn (c.groups.toList.filter fun e => groupApplies key.namespaceLabels e.2) polName

/-- The policies that match the request and are a member of a group that
applies, by key. -/
def matched (key : RequestKey) : List (String × CompiledPolicy Query) :=
  c.policies.toList.filter fun e =>
    matchesPolicy e.2.matching key.resource key.apiGroup key.operation &&
      !(memberships c key e.1).isEmpty

/-- Enforce where one membership says so, and audit otherwise. -/
def effectiveMode (key : RequestKey) (polName : String) : EnforcementMode :=
  if ∃ hit ∈ memberships c key polName, hit.1 = .enforce then .enforce else .audit

/-- Every member mode is one of the two constants. -/
def PolicyCache.ModesSet : Prop :=
  ∀ (groupKey : String) (g : CompiledGroup), c.groups[groupKey]? = some g →
    ∀ (polName : String) (mode : EnforcementMode), g.members[polName]? = some mode → mode.IsSet

theorem valuesAt_groupHits (key : RequestKey) (order : MatchOrder)
    (e : String × CompiledGroup) (polName : String) :
    valuesAt polName (groupHits c key order e) =
      if candidate c key polName then membershipsIn [e] polName else [] := by
  unfold groupHits
  rw [valuesAt_filterMap (candidate c key) (fun mode => (mode, e.2.name)),
    valuesAt_of_perm_toList ((order.members e.1).perm _)]
  refine if_congr Iff.rfl ?_ rfl
  cases hmember : e.2.members[polName]? with
  | none => simp [membershipsIn, hmember]
  | some mode => simp [membershipsIn, hmember]

/-- The updates of one policy are its memberships, in the order of the groups. -/
theorem valuesAt_flatMap_groupHits (key : RequestKey)
    (order : MatchOrder) (groups : List (String × CompiledGroup)) (polName : String) :
    valuesAt polName (groups.flatMap (groupHits c key order)) =
      if candidate c key polName then membershipsIn groups polName else [] := by
  induction groups with
  | nil => simp [membershipsIn]
  | cons e rest ih =>
    rw [List.flatMap_cons, valuesAt_append, ih, valuesAt_groupHits]
    split
    · exact (List.filterMap_append (l := [e])).symm
    · rfl

/-- The accumulator after the updates of one policy. -/
def accumOf (hits : List (EnforcementMode × String)) : Accum where
  mode := if ∃ hit ∈ hits, hit.1 = .enforce then .enforce else .audit
  groups := hits.map Prod.snd

theorem foldl_add_some (a : Accum) (ha : a.mode.IsSet) (hits : List (EnforcementMode × String)) :
    hits.foldl (fun o hit => some (Accum.add o hit)) (some a) =
      some { mode := if a.mode = .enforce ∨ ∃ hit ∈ hits, hit.1 = .enforce
               then .enforce else .audit
             groups := a.groups ++ hits.map Prod.snd } := by
  induction hits generalizing a with
  | nil =>
    obtain ⟨mode, groups⟩ := a
    rcases ha with hmode | hmode
    · subst hmode
      simp
    · subst hmode
      simp
  | cons hit rest ih =>
    rw [List.foldl_cons, ih (Accum.add (some a) hit) (strictestOf_isSet a.mode hit.1)]
    have hmode : (Accum.add (some a) hit).mode = .enforce ∨ (∃ hit ∈ rest, hit.1 = .enforce) ↔
        a.mode = .enforce ∨ ∃ hit' ∈ hit :: rest, hit'.1 = .enforce := by
      rw [List.exists_mem_cons_iff, ← or_assoc]
      exact or_congr_left (strictestOf_eq_enforce a.mode hit.1)
    simp only [hmode]
    simp [Accum.add]

/-- The updates of one policy, started on the empty accumulator. -/
theorem foldl_add_none {hits : List (EnforcementMode × String)}
    (hmodes : ∀ hit ∈ hits, hit.1.IsSet) :
    hits.foldl (fun o hit => some (Accum.add o hit)) none =
      if hits = [] then none else some (accumOf hits) := by
  cases hits with
  | nil => rfl
  | cons hit rest =>
    rw [List.foldl_cons, foldl_add_some _ (hmodes hit List.mem_cons_self)]
    have hmode : hit.1 = .enforce ∨ (∃ hit ∈ rest, hit.1 = .enforce) ↔
        ∃ hit' ∈ hit :: rest, hit'.1 = .enforce := by
      rw [List.exists_mem_cons_iff]
    exact congrArg some (congrArg₂ Accum.mk (if_congr hmode rfl rfl) rfl)

/-- The groups that apply, in the order of the range. -/
def matchingGroups (order : MatchOrder) (key : RequestKey) : List (String × CompiledGroup) :=
  (order.groups.run c.groups.toList).filter fun e => groupApplies key.namespaceLabels e.2

theorem membershipsIn_matchingGroups (order : MatchOrder) (key : RequestKey) (polName : String) :
    (membershipsIn (matchingGroups c order key) polName).Perm (memberships c key polName) :=
  ((order.groups.perm _).filter _).filterMap _

variable {c : PolicyCache Query} {key : RequestKey}

theorem PolicyCache.ModesSet.memberships (h : c.ModesSet) {polName : String} :
    ∀ hit ∈ memberships c key polName, hit.1.IsSet := by
  intro hit hhit
  obtain ⟨e, he, hmember⟩ := List.mem_filterMap.mp hhit
  obtain ⟨mode, hmode, hpair⟩ := Option.map_eq_some_iff.mp hmember
  rw [← hpair]
  exact h e.1 e.2 ((mem_toList_iff _ _ _).mp (List.mem_of_mem_filter he)) polName mode hmode

/-- `byPolicy` after step 2, with the order of the group names in it. -/
theorem getElem?_byPolicy (hmodes : c.ModesSet) (order : MatchOrder) (key : RequestKey)
    (polName : String) :
    (accumulate Accum.add ∅
        ((matchingGroups c order key).flatMap (groupHits c key order)))[polName]? =
      if candidate c key polName = true ∧ memberships c key polName ≠ [] then
        some (accumOf (membershipsIn (matchingGroups c order key) polName))
      else none := by
  have hperm := membershipsIn_matchingGroups c order key polName
  rw [getElem?_accumulate, valuesAt_flatMap_groupHits]
  by_cases hcandidate : candidate c key polName = true
  · have hset : ∀ hit ∈ membershipsIn (matchingGroups c order key) polName, hit.1.IsSet := by
      intro hit hhit
      exact hmodes.memberships hit (hperm.mem_iff.mp hhit)
    rw [if_pos hcandidate, Std.ExtTreeMap.getElem?_empty, foldl_add_none hset]
    by_cases hnone : memberships c key polName = []
    · rw [hnone] at hperm
      rw [if_pos hperm.eq_nil, if_neg (fun h => h.2 hnone)]
    · have hsome : membershipsIn (matchingGroups c order key) polName ≠ [] := by
        intro heq
        rw [heq] at hperm
        exact hnone hperm.symm.eq_nil
      rw [if_neg hsome, if_pos ⟨hcandidate, hnone⟩]
  · rw [if_neg hcandidate, if_neg fun h => hcandidate h.1]
    rfl

theorem candidate_iff {polName : String} :
    candidate c key polName = true ↔ ∃ pol, c.policies[polName]? = some pol ∧
      matchesPolicy pol.matching key.resource key.apiGroup key.operation = true := by
  unfold candidate
  cases hpol : c.policies[polName]? <;> simp

theorem mem_matched_iff {e : String × CompiledPolicy Query} :
    e ∈ matched c key ↔ c.policies[e.1]? = some e.2 ∧
      matchesPolicy e.2.matching key.resource key.apiGroup key.operation = true ∧
      memberships c key e.1 ≠ [] := by
  unfold matched
  rw [List.mem_filter, mem_toList_iff]
  simp

theorem matched_nodup (c : PolicyCache Query) (key : RequestKey) :
    ((matched c key).map Prod.fst).Nodup := by
  have hsub : ((matched c key).map Prod.fst).Sublist (c.policies.toList.map Prod.fst) :=
    List.filter_sublist.map Prod.fst
  rw [Std.ExtTreeMap.map_fst_toList_eq_keys] at hsub
  exact (keys_nodup c.policies).sublist hsub

/-- The entries of `byPolicy` are the matched policies. -/
theorem toList_byPolicy_perm (hmodes : c.ModesSet) (order : MatchOrder) (key : RequestKey) :
    (accumulate Accum.add ∅
        ((matchingGroups c order key).flatMap (groupHits c key order))).toList.Perm
      ((matched c key).map fun e =>
        (e.1, accumOf (membershipsIn (matchingGroups c order key) e.1))) := by
  refine (List.perm_ext_iff_of_nodup ?_ ?_).mpr ?_
  · refine List.Nodup.of_map Prod.fst ?_
    rw [Std.ExtTreeMap.map_fst_toList_eq_keys]
    exact keys_nodup _
  · refine List.Nodup.of_map Prod.fst ?_
    rw [List.map_map]
    exact matched_nodup c key
  · intro entry
    obtain ⟨polName, a⟩ := entry
    rw [mem_toList_iff, getElem?_byPolicy hmodes, List.mem_map]
    constructor
    · intro h
      split at h
      · rename_i hmatch
        obtain ⟨pol, hpol, hmatches⟩ := candidate_iff.mp hmatch.1
        cases h
        exact ⟨(polName, pol), mem_matched_iff.mpr ⟨hpol, hmatches, hmatch.2⟩, rfl⟩
      · exact absurd h (by simp)
    · intro h
      obtain ⟨e, he, hpair⟩ := h
      cases hpair
      obtain ⟨hpol, hmatches, hmember⟩ := mem_matched_iff.mp he
      rw [if_pos ⟨candidate_iff.mpr ⟨e.2, hpol, hmatches⟩, hmember⟩]

/-- The early return of step 1 returns what the rest would. -/
theorem matchingForRequest_eq (c : PolicyCache Query) (order : MatchOrder) (key : RequestKey) :
    matchingForRequest c order key =
      (order.byPolicy.run (accumulate Accum.add ∅
        ((matchingGroups c order key).flatMap (groupHits c key order))).toList).filterMap fun e =>
          c.policies[e.1]?.map fun pol =>
            { policy := pol, mode := e.2.mode, groups := e.2.groups } := by
  unfold matchingForRequest
  dsimp only
  split
  · rename_i hempty
    have hgroups : matchingGroups c order key = [] := List.eq_nil_of_length_eq_zero hempty
    have hrun : order.byPolicy.run ([] : List (String × Accum)) = [] :=
      (order.byPolicy.perm []).eq_nil
    have hentries : (∅ : GoMap Accum).toList = [] := rfl
    rw [hgroups, List.flatMap_nil, accumulate_nil, hentries, hrun]
    rfl
  · rfl

/-- Up to the order of the list and of the group names in an element, the
lookup returns the matched policies with their effective modes. -/
theorem matchingForRequest_perm (hmodes : c.ModesSet) (order : MatchOrder) (key : RequestKey) :
    ∃ groupNames : String → List String,
      (∀ polName, (groupNames polName).Perm ((memberships c key polName).map Prod.snd)) ∧
      (matchingForRequest c order key).Perm ((matched c key).map fun e =>
        { policy := e.2, mode := effectiveMode c key e.1, groups := groupNames e.1 }) := by
  refine ⟨fun polName => (membershipsIn (matchingGroups c order key) polName).map Prod.snd,
    fun polName => (membershipsIn_matchingGroups c order key polName).map Prod.snd, ?_⟩
  rw [matchingForRequest_eq]
  refine (((order.byPolicy.perm _).trans (toList_byPolicy_perm hmodes order key)).filterMap _).trans
    (List.Perm.of_eq ?_)
  rw [List.filterMap_map, ← List.filterMap_eq_map]
  refine List.filterMap_congr fun e he => ?_
  obtain ⟨hpol, -, -⟩ := mem_matched_iff.mp he
  have hmode : (accumOf (membershipsIn (matchingGroups c order key) e.1)).mode =
      effectiveMode c key e.1 := by
    refine if_congr ?_ rfl rfl
    simp only [(membershipsIn_matchingGroups c order key e.1).mem_iff]
  simp only [Function.comp_apply, hpol, Option.map_some, hmode]
  rfl

end KubeSentry.Webhook
