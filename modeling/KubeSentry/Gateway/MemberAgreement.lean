import KubeSentry.Gateway.RenderOrder

/-!
# The member resolves what the gateway resolved

The renderer flattens a group: selector, exclude list and overrides become an
explicit name list with one mode each.  On the member cluster the operator
runs `Resolve` again, on the flattened group and on the policies of the same
snapshot.  This file shows that the second resolution gives back the members
of the first one, with the merged modes.

The key lemma is `resolvedMembers_flattenGroup`: resolving a flattened group
against policies that cover its names returns the flattened modes unchanged.
It needs every mode to be set, because an empty mode falls back to the policy.
-/

namespace KubeSentry.Gateway

open GoLib GroupResolve RenderIndex

/-! ## Modes are set -/

theorem stricter_isSet {a b : EnforcementMode} (ha : a = .unset ∨ a.IsSet) (hb : b.IsSet) :
    (stricter a b).IsSet := by
  rcases ha with rfl | rfl | rfl <;> rcases hb with rfl | rfl <;>
    simp [stricter, EnforcementMode.IsSet]

variable {mode : EnforcementMode}

theorem applyOverride_isSet {override : EnforcementMode} (ho : override.IsKnown) (hm : mode.IsSet) :
    (applyOverride override mode).IsSet := by
  rw [applyOverride]
  split
  · rename_i hne
    rcases ho with h | h
    · exact absurd h hne
    · exact h
  · exact hm

theorem orDefault_isSet {fallback : EnforcementMode} (hm : mode.IsKnown) (hf : fallback.IsSet) :
    (orDefault mode fallback).IsSet := by
  rw [orDefault]
  split
  · exact hf
  · rename_i hne
    rcases hm with h | h
    · exact absurd h hne
    · exact h

/-- At least one visit, and a set mode on the policy, leave a set mode. -/
theorem mergedMode_isSet {overrides : List EnforcementMode} (hne : overrides ≠ [])
    (ho : ∀ o ∈ overrides, o.IsKnown) (hm : mode.IsSet) : (mergedMode overrides mode).IsSet := by
  suffices h : ∀ start : EnforcementMode, (start = .unset ∧ overrides ≠ []) ∨ start.IsSet →
      (overrides.foldl (fun acc override => stricter acc (applyOverride override mode))
        start).IsSet from h .unset (.inl ⟨rfl, hne⟩)
  clear hne
  induction overrides with
  | nil =>
    intro start hstart
    rcases hstart with ⟨_, hne⟩ | hset
    · exact absurd rfl hne
    · exact hset
  | cons o rest ih =>
    intro start hstart
    have hstep : (stricter start (applyOverride o mode)).IsSet :=
      stricter_isSet (hstart.imp_left And.left) (applyOverride_isSet (ho o List.mem_cons_self) hm)
    exact ih (fun o' ho' => ho o' (List.mem_cons_of_mem _ ho')) _ (.inr hstep)

variable {policies : List Policy} {k : String} {m : EffectiveMember}

/-! ## Resolving a flattened group -/

section Flatten

variable [Apimachinery]

omit [Apimachinery] in
theorem lastRef_flattenGroup (rg : RenderedGroup) (k : String) :
    lastRef (flattenGroup rg).policies.byName k = rg.modes[k]?.map fun mode => ⟨k, mode⟩ := by
  have hnodup : ((flattenGroup rg).policies.byName.map fun r => r.name).Nodup := by
    have hnames : (flattenGroup rg).policies.byName.map (fun r => r.name) = rg.modes.keys := by
      simp [flattenGroup, Function.comp_def]
    rw [hnames]
    exact keys_nodup _
  rw [lastRef, ← getElem?_indexBy]
  apply Option.ext
  rintro ⟨name, mode⟩
  rw [getElem?_indexBy_iff hnodup, mem_flattenGroup_iff, Option.map_eq_some_iff]
  constructor
  · intro hx
    obtain ⟨hmode, rfl⟩ := hx
    exact ⟨mode, hmode, rfl⟩
  · intro hx
    obtain ⟨mode', hmode, heq⟩ := hx
    cases heq
    exact ⟨hmode, rfl⟩

/-- Resolving a flattened group returns its modes and no condition, when the
policies cover its names and every mode is set. -/
theorem resolvedMembers_flattenGroup (rg : RenderedGroup)
    (hnodup : (policies.map fun p => p.name).Nodup)
    (hcover : ∀ (k : String) mode, rg.modes[k]? = some mode → ∃ p ∈ policies, p.name = k)
    (hset : ∀ (k : String) mode, rg.modes[k]? = some mode → mode.IsSet) :
    resolvedMembers (flattenGroup rg) policies = (rg.modes.map fun k mode =>
        { name := k, enforcementMode := mode, source := .byName }, []) := by
  have hfind : ∀ (k : String) mode, rg.modes[k]? = some mode →
      ∃ p, policies.find? (fun p => p.name = k) = some p ∧ p.name = k := by
    intro k mode hmode
    obtain ⟨p, hp, hname⟩ := hcover k mode hmode
    refine ⟨p, ?_, hname⟩
    rw [← getElem?_indexBy_eq_find? hnodup, getElem?_indexBy_iff hnodup]
    exact ⟨hp, hname⟩
  apply Prod.ext
  · apply Std.ExtTreeMap.ext_getElem?
    intro k
    rw [getElem?_resolvedMembers _ hnodup, Std.ExtTreeMap.getElem?_map,
      if_neg (by simp [flattenGroup])]
    cases hmode : rg.modes[k]? with
    | none =>
      -- The flattened group has no selector, so an unnamed policy is no member.
      have hnone : ∀ pol ∈ policies.find? (fun p => p.name = k),
          memberOf (flattenGroup rg) pol = none := by
        intro pol hpol
        have hname : pol.name = k := by simpa using List.find?_some hpol
        rw [memberOf, lastRef_flattenGroup, hname, hmode]
        simp [selects, flattenGroup]
      simpa using Option.bind_eq_none_iff.mpr hnone
    | some mode =>
      obtain ⟨p, hp, rfl⟩ := hfind k mode hmode
      have hne : mode ≠ .unset := by
        rcases hset _ mode hmode with rfl | rfl <;> simp
      rw [hp, Option.bind_some, memberOf, lastRef_flattenGroup, hmode]
      simp [orDefault, hne]
  · rw [resolvedMembers_conditions]
    have hmissing : (flattenGroup rg).policies.byName.filter (fun r =>
        (indexBy (fun p : Policy => p.name) policies)[r.name]?.isNone) = [] := by
      rw [List.filter_eq_nil_iff]
      rintro ⟨name, mode⟩ hr
      obtain ⟨p, hp, _⟩ := hfind name mode ((mem_flattenGroup_iff rg name mode).mp hr)
      rw [getElem?_indexBy_eq_find? hnodup, hp]
      simp
    rw [hmissing]
    rfl

end Flatten

/-! ## The policies of a snapshot -/

/-- The `Policy` objects that a snapshot leaves on the member. -/
def snapshotPolicies (objects : List ManagedObject) : List Policy :=
  objects.filterMap fun o =>
    match o.kind, o.spec with
    | .policy, .policy spec => some { name := o.name, labels := o.labels, spec := spec }
    | _, _ => none

theorem snapshotPolicies_objects (st : RenderState) :
    snapshotPolicies st.objects = st.needed.toList.map fun e =>
      { name := e.1, labels := withManaged e.2.labels, spec := e.2.spec } := by
  simp [snapshotPolicies, RenderState.objects, List.filterMap_append, List.filterMap_map,
    policyObject, groupObject, exceptionObject]

theorem snapshotPolicies_names (st : RenderState) :
    (snapshotPolicies st.objects).map (fun p => p.name) = st.needed.keys := by
  rw [snapshotPolicies_objects, ← Std.ExtTreeMap.map_fst_toList_eq_keys, List.map_map]
  rfl

variable {st : RenderState}

/-- A policy that the renderer needs occurs exactly once in the object list. -/
theorem countP_objects_of_needed {pname : String} {p : Policy} (h : st.needed[pname]? = some p) :
    st.objects.countP (fun o => o.kind = .policy ∧ o.name = pname) = 1 := by
  have hcount : st.objects.countP (fun o => o.kind = .policy ∧ o.name = pname) =
      st.needed.keys.count pname := by
    rw [← Std.ExtTreeMap.map_fst_toList_eq_keys, List.count, List.countP_map]
    simp [RenderState.objects, List.countP_map, Function.comp_def, policyObject, groupObject,
      exceptionObject, beq_eq_decide]
  rw [hcount]
  exact List.count_eq_one_of_mem (keys_nodup _) ((mem_keys_iff _ _).mpr ⟨p, h⟩)

/-! ## Agreement -/

section Agreement

variable [Apimachinery] [GoUnicode] {cluster : Cluster} {dists : List PolicyDistribution}
  {groups : List PolicyGroup} {policies : List Policy} {exceptions : List PolicyException}
  {gname : String} {rg : RenderedGroup}

/-- A rendered group of well-formed inputs: every mode is set, and every named
policy is in the snapshot. -/
theorem Rendered.group_closed (hwf : WellFormed dists groups policies exceptions)
    (hpolicies : ∀ p ∈ policies, p.spec.enforcementMode.IsSet)
    (h : Rendered (.build cluster groups policies exceptions) dists st)
    (hrg : st.rendered[gname]? = some rg) (hmode : rg.modes[k]? = some mode) :
    mode.IsSet ∧ ∃ p, st.needed[k]? = some p := by
  rw [h.rendered, renderedOf_eq_some_iff] at hrg
  obtain ⟨⟨override, hvisit⟩, g, hg, rfl⟩ := hrg
  simp only [modesOf, Std.ExtTreeMap.getElem?_map, Option.map_eq_some_iff] at hmode
  obtain ⟨m, hm, rfl⟩ := hmode
  have hgroup : g ∈ groups := (mem_of_getElem?_indexBy (Option.eq_some_of_filter_eq_some hg)).1
  constructor
  · refine mergedMode_isSet ?_ ?_ ?_
    · exact List.ne_nil_of_mem (mem_valuesAt.mpr hvisit)
    · intro o ho
      exact visits_isKnown hwf.overrideModes (mem_valuesAt.mp ho)
    · obtain ⟨own, hown, pol, hpol, hm'⟩ := hwf.member_mode hgroup hm
      rw [hm']
      exact orDefault_isSet hown (hpolicies pol hpol)
  · obtain ⟨_, pol, hpol, hname, _⟩ := mem_of_getElem?_resolvedMembers hwf.policyNames hm
    refine ⟨pol, (h.needed k pol).mpr ⟨⟨_, hvisit, g, hg, ?_⟩, ?_⟩⟩
    · exact (mem_iff_getElem? _ _).mpr ⟨m, hm⟩
    · exact (getElem?_indexBy_iff hwf.policyNames k pol).mpr ⟨hpol, hname⟩

/-- The member-side members of a rendered group. -/
theorem Rendered.resolvedMembers_snapshot (hwf : WellFormed dists groups policies exceptions)
    (hpolicies : ∀ p ∈ policies, p.spec.enforcementMode.IsSet)
    (h : Rendered (.build cluster groups policies exceptions) dists st)
    (hrg : st.rendered[gname]? = some rg) :
    resolvedMembers (flattenGroup rg) (snapshotPolicies st.objects) = (rg.modes.map fun k mode =>
        { name := k, enforcementMode := mode, source := .byName }, []) := by
  refine resolvedMembers_flattenGroup rg ?_ ?_ ?_
  · rw [snapshotPolicies_names]
    exact keys_nodup _
  · intro k mode hmode
    obtain ⟨_, p, hp⟩ := h.group_closed hwf hpolicies hrg hmode
    have hname : k ∈ (snapshotPolicies st.objects).map fun p => p.name := by
      rw [snapshotPolicies_names, mem_keys_iff]
      exact ⟨p, hp⟩
    exact List.mem_map.mp hname
  · intro k mode hmode
    exact (h.group_closed hwf hpolicies hrg hmode).1

omit [GoUnicode] in
/-- The mode of a rendered member, read off the distributions. -/
theorem RenderIndex.mode_eq_enforce_iff {ix : RenderIndex}
    (hrg : ix.renderedOf (visits ix.cluster dists) gname = some rg) {g : PolicyGroup}
    (hg : ix.enabledGroup gname = some g) (hm : (ix.members g)[k]? = some m)
    (hmode : rg.modes[k]? = some mode) :
    mode = .enforce ↔ ∃ d ∈ dists, targets ix.cluster d = true ∧ gname ∈ d.spec.policyGroups ∧
        applyOverride (overrideFor ix.cluster d) m.enforcementMode = .enforce := by
  obtain ⟨_, g', hg', rfl⟩ := (ix.renderedOf_eq_some_iff _ gname rg).mp hrg
  rw [hg] at hg'
  cases hg'
  rw [modesOf, Std.ExtTreeMap.getElem?_map, hm, Option.map_some] at hmode
  rw [← Option.some.inj hmode, mergedMode_eq_enforce_iff]
  constructor
  · intro hx
    obtain ⟨override, hmem, henforce⟩ := hx
    obtain ⟨d, hd, htargets, hlisted, rfl⟩ :=
      (mem_visits_iff ix.cluster dists gname override).mp (mem_valuesAt.mp hmem)
    exact ⟨d, hd, htargets, hlisted, henforce⟩
  · intro hx
    obtain ⟨d, hd, htargets, hlisted, henforce⟩ := hx
    have hmem := (mem_visits_iff ix.cluster dists gname _).mpr ⟨d, hd, htargets, hlisted, rfl⟩
    exact ⟨overrideFor ix.cluster d, mem_valuesAt.mpr hmem, henforce⟩

variable [Digest]

/-- Every group of a snapshot resolves on the member as it did on the gateway.
No condition is raised, the names are the same, and a mode is `enforce`
exactly when some targeting distribution that lists the group asks for it.
Every policy that a snapshot group names occurs once in the snapshot. -/
theorem snapshot_resolves_as_gateway (cluster : Cluster)
    (hwf : WellFormed dists groups policies exceptions)
    (hpolicies : ∀ p ∈ policies, p.spec.enforcementMode.IsSet) {objects : List ManagedObject}
    (hobjects : objects = (renderWithExceptions cluster dists groups policies exceptions).objects)
    {o : ManagedObject} (ho : o ∈ objects) (hkind : o.kind = .policyGroup) :
    ∃ spec g, o.spec = .policyGroup spec ∧ g ∈ groups ∧ g.name = o.name ∧
      (resolve spec (snapshotPolicies objects)).2 = [] ∧
      (resolve spec (snapshotPolicies objects)).1.map (fun m => m.name) =
        (resolve g.spec policies).1.map (fun m => m.name) ∧
      (∀ m ∈ (resolve g.spec policies).1, ∀ m' ∈ (resolve spec (snapshotPolicies objects)).1,
        m'.name = m.name → m'.enforcementMode.IsSet ∧
          (m'.enforcementMode = .enforce ↔
            ∃ d ∈ dists, targets cluster d = true ∧ o.name ∈ d.spec.policyGroups ∧
              applyOverride (overrideFor cluster d) m.enforcementMode = .enforce)) ∧
      (∀ r ∈ spec.policies.byName,
        objects.countP (fun o => o.kind = .policy ∧ o.name = r.name) = 1) := by
  have h : Rendered (.build cluster groups policies exceptions) dists
      (dists.foldl (renderDistribution (.build cluster groups policies exceptions)) {}) :=
    rendered_foldl hwf.policyNames dists
  rw [renderWithExceptions] at hobjects
  generalize dists.foldl (renderDistribution (.build cluster groups policies exceptions)) {} =
    st at h hobjects
  subst hobjects
  rcases (st.mem_objects_iff o).mp ho with
    ⟨name, p, _, rfl⟩ | ⟨gname, rg, hrg, rfl⟩ | ⟨name, e, _, rfl⟩
  · exact absurd hkind (by simp [policyObject])
  · obtain ⟨_, g, hg, hrgEq⟩ :=
      (renderedOf_eq_some_iff _ _ gname rg).mp (h.rendered gname ▸ hrg)
    obtain ⟨hgroup, hname⟩ := mem_of_getElem?_indexBy (Option.eq_some_of_filter_eq_some hg)
    have hresolved := h.resolvedMembers_snapshot hwf hpolicies hrg
    have hnodup : ((snapshotPolicies st.objects).map fun p => p.name).Nodup := by
      rw [snapshotPolicies_names]
      exact keys_nodup _
    refine ⟨flattenGroup rg, g, rfl, hgroup, hname, ?_, ?_, ?_, ?_⟩
    · rw [resolve, hresolved]
    · rw [names_resolve _ hnodup, names_resolve _ hwf.policyNames, hresolved, hrgEq]
      simp [modesOf, members, build]
    · intro m hm m' hm' hsame
      rw [mem_resolve_iff _ hwf.policyNames] at hm
      rw [mem_resolve_iff _ hnodup, hresolved, Std.ExtTreeMap.getElem?_map,
        Option.map_eq_some_iff] at hm'
      obtain ⟨mode, hmode, heq⟩ := hm'
      have hmode' : m'.enforcementMode = mode := by rw [← heq]
      rw [hsame] at hmode
      rw [hmode']
      exact ⟨(h.group_closed hwf hpolicies hrg hmode).1,
        mode_eq_enforce_iff (h.rendered gname ▸ hrg) hg hm hmode⟩
    · rintro ⟨pname, mode⟩ hr
      obtain ⟨_, p, hp⟩ :=
        h.group_closed hwf hpolicies hrg ((mem_flattenGroup_iff rg pname mode).mp hr)
      exact countP_objects_of_needed hp
  · exact absurd hkind (by simp [exceptionObject])

end Agreement

attribute [local instance] Apimachinery.basic GoUnicode.ascii Digest.names

def selectorGroup : PolicyGroup where
  name := "baseline"
  spec :=
    { enabled := true
      policies :=
        { bySelector := some { matchLabels := (∅ : Labels).insert "tier" "core" }
          exclude := ["no-latest"] } }

def corePolicies : List Policy :=
  [{ name := "no-root", labels := (∅ : Labels).insert "tier" "core"
     spec := { enforcementMode := .audit } },
    { name := "no-latest", labels := (∅ : Labels).insert "tier" "core"
      spec := { enforcementMode := .enforce } }]

def overrideDist : PolicyDistribution where
  name := "prod-baseline"
  spec :=
    { clusters := { byName := ["prod"] }, policyGroups := ["baseline"]
      overrides := [⟨"prod", .enforce⟩] }

/-- A group that selects by label and excludes one policy, under an override. -/
theorem snapshot_resolves_as_gateway_selector : ∃ spec, (resolve spec (snapshotPolicies
      (renderWithExceptions { name := "prod" } [overrideDist] [selectorGroup] corePolicies
        []).objects)).2 = [] ∧ spec.policies.byName = [⟨"no-root", .enforce⟩] := by
  have hobject : groupObject "baseline"
      { src := selectorGroup, modes := (∅ : GoMap EnforcementMode).insert "no-root" .enforce } ∈
      (renderWithExceptions { name := "prod" } [overrideDist] [selectorGroup] corePolicies
        []).objects := by decide
  obtain ⟨spec, _, hspec, _, _, hconditions, _⟩ := snapshot_resolves_as_gateway { name := "prod" }
      ⟨by decide, by decide, by decide, by decide, by decide, by decide, by decide, by decide⟩
      (by decide) rfl hobject rfl
  refine ⟨spec, hconditions, ?_⟩
  cases hspec
  decide

end KubeSentry.Gateway
