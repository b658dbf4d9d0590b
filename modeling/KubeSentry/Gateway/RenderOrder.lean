import KubeSentry.Gateway.RenderSpec

/-!
# Order independence and growth of the snapshot

The gateway reads its rows in whatever order the database returns them, so a
snapshot must not depend on list order.  The closed forms of
`KubeSentry.Gateway.RenderSpec` reduce this to two facts: a by-name index of
distinct names forgets the order, and `stricter` commutes on the modes that
occur.

The same closed forms give the growth result: one more distribution adds
visits, and more visits never remove an object or loosen a mode.
-/

namespace KubeSentry.Gateway

open GoLib GroupResolve

/-! ## Modes -/

theorem stricter_eq_enforce_iff (a b : EnforcementMode) :
    stricter a b = .enforce ↔ a = .enforce ∨ b = .enforce := by
  cases a <;> cases b <;> simp [stricter]

theorem stricter_right_comm (a : EnforcementMode) {b c : EnforcementMode}
    (hb : b.IsKnown) (hc : c.IsKnown) : stricter (stricter a b) c = stricter (stricter a c) b := by
  rcases hb with rfl | rfl | rfl <;> rcases hc with rfl | rfl | rfl <;> cases a <;> simp [stricter]

variable {override mode : EnforcementMode}

theorem applyOverride_isKnown (ho : override.IsKnown) (hm : mode.IsKnown) :
    (applyOverride override mode).IsKnown := by
  rw [applyOverride]
  split
  · exact ho
  · exact hm

theorem orDefault_isKnown {fallback : EnforcementMode} (hm : mode.IsKnown) (hf : fallback.IsKnown) :
    (orDefault mode fallback).IsKnown := by
  rw [orDefault]
  split
  · exact hf
  · exact hm

/-- The merged mode is `enforce` exactly when some visit asks for it. -/
theorem mergedMode_eq_enforce_iff (overrides : List EnforcementMode) (mode : EnforcementMode) :
    mergedMode overrides mode = .enforce ↔
      ∃ override ∈ overrides, applyOverride override mode = .enforce := by
  suffices h : ∀ start, overrides.foldl
      (fun acc override => stricter acc (applyOverride override mode)) start = .enforce ↔
        start = .enforce ∨ ∃ override ∈ overrides, applyOverride override mode = .enforce by
    rw [mergedMode, h]
    simp
  induction overrides with
  | nil => simp
  | cons o rest ih =>
    intro start
    rw [List.foldl_cons, ih, stricter_eq_enforce_iff]
    simp [or_assoc]

/-- The merged mode does not depend on the order of the visits. -/
theorem mergedMode_eq_of_perm {overrides overrides' : List EnforcementMode}
    (hperm : overrides.Perm overrides') (ho : ∀ o ∈ overrides, o.IsKnown) (hm : mode.IsKnown) :
    mergedMode overrides mode = mergedMode overrides' mode := by
  apply hperm.foldl_eq'
  intro x hx y hy z
  exact stricter_right_comm z (applyOverride_isKnown (ho x hx) hm)
    (applyOverride_isKnown (ho y hy) hm)

/-! ## Inputs -/

/-- Names are distinct per kind, and every mode is one of the two constants or
empty. -/
structure WellFormed (dists : List PolicyDistribution) (groups : List PolicyGroup)
    (policies : List Policy) (exceptions : List PolicyException) : Prop where
  distNames : (dists.map fun d => d.name).Nodup
  groupNames : (groups.map fun g => g.name).Nodup
  policyNames : (policies.map fun p => p.name).Nodup
  exceptionNames : (exceptions.map fun e => e.name).Nodup
  policyModes : ∀ p ∈ policies, p.spec.enforcementMode.IsKnown
  refModes : ∀ g ∈ groups, ∀ r ∈ g.spec.policies.byName, r.enforcementMode.IsKnown
  selectorModes : ∀ g ∈ groups, g.spec.selectorEnforcementMode.IsKnown
  overrideModes : ∀ d ∈ dists, ∀ o ∈ d.spec.overrides, o.enforcementMode.IsKnown

variable {policies : List Policy} {k : String} {m : EffectiveMember}

/-- A member has a known mode of its group, or else the mode of its policy. -/
theorem WellFormed.member_mode [Apimachinery] {dists : List PolicyDistribution}
    {groups : List PolicyGroup} {exceptions : List PolicyException}
    (hwf : WellFormed dists groups policies exceptions) {g : PolicyGroup} (hg : g ∈ groups)
    (hm : (resolvedMembers g.spec policies).1[k]? = some m) : ∃ own : EnforcementMode, own.IsKnown ∧
      ∃ pol ∈ policies, m.enforcementMode = orDefault own pol.spec.enforcementMode := by
  obtain ⟨_, pol, hpol, _, own, hown, hmode⟩ := mem_of_getElem?_resolvedMembers hwf.policyNames hm
  refine ⟨own, ?_, pol, hpol, hmode⟩
  rcases hown with rfl | ⟨r, hr, rfl⟩
  · exact hwf.selectorModes g hg
  · exact hwf.refModes g hg r hr

theorem overrideFor_isKnown (cluster : Cluster) {d : PolicyDistribution}
    (h : ∀ o ∈ d.spec.overrides, o.enforcementMode.IsKnown) : (overrideFor cluster d).IsKnown := by
  refine List.foldlRecOn d.spec.overrides _ (motive := EnforcementMode.IsKnown) (.inl rfl) ?_
  intro override hknown o ho
  split
  · exact h o ho
  · exact hknown

variable {cluster : Cluster} {dists : List PolicyDistribution} {gname : String}

theorem visits_isKnown [Apimachinery]
    (h : ∀ d ∈ dists, ∀ o ∈ d.spec.overrides, o.enforcementMode.IsKnown)
    (hmem : (gname, override) ∈ visits cluster dists) : override.IsKnown := by
  obtain ⟨d, hd, _, _, rfl⟩ := (mem_visits_iff cluster dists gname override).mp hmem
  exact overrideFor_isKnown cluster (h d hd)

/-! ## Permuted lists -/

section Order

variable [Apimachinery] {policies policies' : List Policy} {dists' : List PolicyDistribution}

/-- Resolution forgets the order of the policies. -/
theorem resolvedMembers_eq_of_perm (spec : PolicyGroupSpec) (hperm : policies.Perm policies')
    (hnodup : (policies.map fun p => p.name).Nodup) :
    (resolvedMembers spec policies).1 = (resolvedMembers spec policies').1 := by
  have hnodup' : (policies'.map fun p => p.name).Nodup := (hperm.map _).nodup_iff.mp hnodup
  apply Std.ExtTreeMap.ext_getElem?
  intro k
  rw [getElem?_resolvedMembers spec hnodup, getElem?_resolvedMembers spec hnodup',
    ← getElem?_indexBy_eq_find? hnodup, ← getElem?_indexBy_eq_find? hnodup',
    indexBy_eq_of_perm hperm hnodup]

/-- Two indexes that answer every question of the loop alike. -/
structure SameAnswers (ix ix' : RenderIndex) : Prop where
  cluster : ix.cluster = ix'.cluster
  members : ∀ g, ix.members g = ix'.members g
  groupByName : ix.groupByName = ix'.groupByName
  policyByName : ix.policyByName = ix'.policyByName
  exceptionByName : ix.exceptionByName = ix'.exceptionByName

variable {dists : List PolicyDistribution} {ix ix' : RenderIndex}

theorem sameAnswers_of_perm (cluster : Cluster) {groups groups' : List PolicyGroup}
    {exceptions exceptions' : List PolicyException}
    (hwf : WellFormed dists groups policies exceptions) (hgroups : groups.Perm groups')
    (hpolicies : policies.Perm policies') (hexceptions : exceptions.Perm exceptions') :
    SameAnswers (.build cluster groups policies exceptions)
      (.build cluster groups' policies' exceptions') where
  cluster := rfl
  members g := resolvedMembers_eq_of_perm g.spec hpolicies hwf.policyNames
  groupByName := indexBy_eq_of_perm hgroups hwf.groupNames
  policyByName := indexBy_eq_of_perm hpolicies hwf.policyNames
  exceptionByName := indexBy_eq_of_perm hexceptions hwf.exceptionNames

/-- The rendered groups forget the order of the visits. -/
theorem renderedOf_eq_of_perm {vs vs' : List (String × EnforcementMode)} (hperm : vs.Perm vs')
    (hvs : ∀ gname override, (gname, override) ∈ vs → override.IsKnown)
    (hmembers : ∀ gname g, ix.enabledGroup gname = some g → ∀ (k : String) m,
      (ix.members g)[k]? = some m → m.enforcementMode.IsKnown) (gname : String) :
    ix.renderedOf vs gname = ix.renderedOf vs' gname := by
  apply Option.ext
  intro rg
  rw [ix.renderedOf_eq_some_iff, ix.renderedOf_eq_some_iff]
  simp only [hperm.mem_iff]
  refine and_congr_right fun _ => exists_congr fun g => and_congr_right fun hg => ?_
  have hmodes : ix.modesOf g (valuesAt gname vs) = ix.modesOf g (valuesAt gname vs') := by
    apply Std.ExtTreeMap.ext_getElem?
    intro k
    simp only [RenderIndex.modesOf, Std.ExtTreeMap.getElem?_map]
    cases hm : (ix.members g)[k]? with
    | none => rfl
    | some m =>
      have hknown : ∀ o ∈ valuesAt gname vs, o.IsKnown :=
        fun o ho => hvs gname o (mem_valuesAt.mp ho)
      rw [Option.map_some, Option.map_some,
        mergedMode_eq_of_perm (valuesAt_perm hperm gname) hknown (hmembers gname g hg k m hm)]
  rw [hmodes]

variable [GoUnicode]

theorem errorEntries_names (ix : RenderIndex) (dists : List PolicyDistribution) :
    (errorEntries ix dists).map Prod.fst =
      (dists.filter fun d => (errorOf ix d).isSome).map fun d => d.name := by
  induction dists with
  | nil => rfl
  | cons d rest ih =>
    rw [errorEntries] at ih ⊢
    cases h : errorOf ix d <;> simp [h, ih]

theorem errorEntries_names_nodup (ix : RenderIndex) (hnodup : (dists.map fun d => d.name).Nodup) :
    ((errorEntries ix dists).map Prod.fst).Nodup := by
  rw [errorEntries_names]
  exact hnodup.sublist (List.filter_sublist.map _)

/-- Two loops over permuted distributions end in the same maps. -/
theorem rendered_eq_of_perm (hperm : dists.Perm dists') (hnodup : (dists.map fun d => d.name).Nodup)
    (hoverrides : ∀ d ∈ dists, ∀ o ∈ d.spec.overrides, o.enforcementMode.IsKnown)
    (hmembers : ∀ gname g, ix.enabledGroup gname = some g → ∀ (k : String) m,
      (ix.members g)[k]? = some m → m.enforcementMode.IsKnown) {st st' : RenderState}
    (h : Rendered ix dists st) (h' : Rendered ix dists' st') :
    st.objects = st'.objects ∧ st.matched.Perm st'.matched ∧ st.errors = st'.errors := by
  have hvisits : (visits ix.cluster dists).Perm (visits ix.cluster dists') :=
    (hperm.filter _).flatMap_right _
  have hlisted : (listedExceptions ix.cluster dists).Perm (listedExceptions ix.cluster dists') :=
    (hperm.filter _).flatMap_right _
  have hrendered : st.rendered = st'.rendered := by
    apply Std.ExtTreeMap.ext_getElem?
    intro gname
    rw [h.rendered, h'.rendered]
    exact renderedOf_eq_of_perm hvisits (fun _ _ hv => visits_isKnown hoverrides hv) hmembers gname
  have hneeded : st.needed = st'.needed := by
    apply ext_of_some
    intro pname p
    simp only [h.needed, h'.needed, RenderIndex.needs, hvisits.mem_iff]
  have hexceptions : st.neededExceptions = st'.neededExceptions := by
    apply ext_of_some
    intro name e
    rw [h.neededExceptions, h'.neededExceptions, hlisted.mem_iff]
  refine ⟨?_, ?_, ?_⟩
  · rw [RenderState.objects, RenderState.objects, hrendered, hneeded, hexceptions]
  · rw [h.matched, h'.matched]
    exact (hperm.filter _).map _
  · rw [h.errors, h'.errors]
    exact accumulate_eq_of_perm _ _ (hperm.filterMap _) (errorEntries_names_nodup ix hnodup)

end Order

/-! ## One more distribution -/

section Growth

variable [Apimachinery] {dists dists' before after : List PolicyDistribution}
  {d : PolicyDistribution} {name : String}

theorem visits_subset (cluster : Cluster) (hsub : dists ⊆ dists') :
    visits cluster dists ⊆ visits cluster dists' := by
  rintro ⟨gname, override⟩ hv
  obtain ⟨d, hd, hrest⟩ := (mem_visits_iff cluster dists gname override).mp hv
  exact (mem_visits_iff cluster dists' gname override).mpr ⟨d, hsub hd, hrest⟩

theorem listedExceptions_subset (cluster : Cluster) (hsub : dists ⊆ dists') :
    listedExceptions cluster dists ⊆ listedExceptions cluster dists' := by
  intro name hname
  obtain ⟨d, hd, hmem⟩ := List.mem_flatMap.mp hname
  obtain ⟨hd, htargets⟩ := List.mem_filter.mp hd
  exact List.mem_flatMap.mpr ⟨d, List.mem_filter.mpr ⟨hsub hd, htargets⟩, hmem⟩

variable [GoUnicode] {ix : RenderIndex} {dists dists' : List PolicyDistribution}
  {st st' : RenderState}

/-- More distributions keep every object. -/
theorem Rendered.objects_grow (h : Rendered ix dists st) (h' : Rendered ix dists' st')
    (hsub : dists ⊆ dists') {o : ManagedObject} (ho : o ∈ st.objects) :
    ∃ o' ∈ st'.objects, o'.kind = o.kind ∧ o'.name = o.name := by
  have hvisits := visits_subset ix.cluster hsub
  rcases (st.mem_objects_iff o).mp ho with
    ⟨name, p, hp, rfl⟩ | ⟨name, rg, hrg, rfl⟩ | ⟨name, e, he, rfl⟩
  · obtain ⟨⟨v, hv, hmember⟩, hpolicy⟩ := (h.needed name p).mp hp
    have hp' := (h'.needed name p).mpr ⟨⟨v, hvisits hv, hmember⟩, hpolicy⟩
    exact ⟨policyObject name p, (st'.mem_objects_iff _).mpr (.inl ⟨name, p, hp', rfl⟩), rfl, rfl⟩
  · rw [h.rendered, ix.renderedOf_eq_some_iff] at hrg
    obtain ⟨⟨override, hv⟩, g, hg, _⟩ := hrg
    have hrg' : st'.rendered[name]? = some
        { src := g, modes := ix.modesOf g (valuesAt name (visits ix.cluster dists')) } := by
      rw [h'.rendered, ix.renderedOf_eq_some_iff]
      exact ⟨⟨override, hvisits hv⟩, g, hg, rfl⟩
    exact ⟨groupObject name _, (st'.mem_objects_iff _).mpr (.inr (.inl ⟨name, _, hrg', rfl⟩)),
      rfl, rfl⟩
  · obtain ⟨hlisted, hexception⟩ := (h.neededExceptions name e).mp he
    have he' := (h'.neededExceptions name e).mpr
      ⟨listedExceptions_subset ix.cluster hsub hlisted, hexception⟩
    exact ⟨exceptionObject name e,
      (st'.mem_objects_iff _).mpr (.inr (.inr ⟨name, e, he', rfl⟩)), rfl, rfl⟩

/-- More distributions keep every `enforce`. -/
theorem Rendered.enforce_grow (h : Rendered ix dists st) (h' : Rendered ix dists' st')
    (hsub : dists ⊆ dists') {pname : String} (henforce : GroupMode st.objects gname pname .enforce)
    (mode : EnforcementMode) : GroupMode st'.objects gname pname mode ↔ mode = .enforce := by
  rw [h.groupMode_iff] at henforce
  obtain ⟨⟨override, hvisited⟩, g, m, hg, hm, hmode⟩ := henforce
  have hvisits := visits_subset ix.cluster hsub
  have hmode' : mergedMode (valuesAt gname (visits ix.cluster dists')) m.enforcementMode =
      .enforce := by
    rw [mergedMode_eq_enforce_iff]
    obtain ⟨o, ho, heq⟩ := (mergedMode_eq_enforce_iff _ _).mp hmode.symm
    exact ⟨o, mem_valuesAt.mpr (hvisits (mem_valuesAt.mp ho)), heq⟩
  rw [h'.groupMode_iff]
  constructor
  · intro hx
    obtain ⟨_, g', m', hg', hm', rfl⟩ := hx
    rw [hg] at hg'
    cases hg'
    rw [hm] at hm'
    cases hm'
    exact hmode'
  · rintro rfl
    exact ⟨⟨override, hvisits hvisited⟩, g, m, hg, hm, hmode'.symm⟩

/-- One more distribution leaves the `Matched` entries of every other name. -/
theorem Rendered.count_matched_of_ne (h : Rendered ix (before ++ after) st)
    (h' : Rendered ix (before ++ d :: after) st') (hne : name ≠ d.name) :
    st'.matched.count name = st.matched.count name := by
  rw [h.matched, h'.matched]
  have hne' : ¬ d.name = name := fun heq => hne heq.symm
  cases hreported : reported ix.cluster d <;> simp [hreported, hne']

/-- One more distribution leaves the `Errors` entry of every other name. -/
theorem Rendered.errors_of_ne (h : Rendered ix (before ++ after) st)
    (h' : Rendered ix (before ++ d :: after) st') (hne : name ≠ d.name) :
    st'.errors[name]? = st.errors[name]? := by
  have hne' : ¬ d.name = name := fun heq => hne heq.symm
  have hvalues : valuesAt name (errorEntries ix (before ++ d :: after)) =
      valuesAt name (errorEntries ix (before ++ after)) := by
    cases herror : errorOf ix d <;> simp [errorEntries, herror, valuesAt_cons, hne']
  rw [h.errors, h'.errors, getElem?_accumulate, getElem?_accumulate, hvalues]

end Growth

/-! ## The renderer -/

section Renderer

variable [Apimachinery] [GoUnicode] [Digest]

omit [GoUnicode] [Digest] in
/-- The enabled groups of well-formed inputs have members with known modes. -/
theorem WellFormed.members_isKnown {groups : List PolicyGroup} {exceptions : List PolicyException}
    (hwf : WellFormed dists groups policies exceptions) {g : PolicyGroup}
    (hg : (RenderIndex.build cluster groups policies exceptions).enabledGroup gname = some g)
    (hm : ((RenderIndex.build cluster groups policies exceptions).members g)[k]? = some m) :
    m.enforcementMode.IsKnown := by
  have hmem : g ∈ groups := (mem_of_getElem?_indexBy (Option.eq_some_of_filter_eq_some hg)).1
  obtain ⟨own, hown, pol, hpol, hmode⟩ := hwf.member_mode hmem hm
  rw [hmode]
  exact orDefault_isKnown hown (hwf.policyModes pol hpol)

/-- A snapshot does not depend on the order of the four lists.  One more
distribution keeps every object, keeps every `enforce`, and leaves the
`Matched` and `Errors` entries of the other distributions. -/
theorem renderWithExceptions_order_and_growth (cluster : Cluster)
    {dists : List PolicyDistribution} {groups : List PolicyGroup} {policies : List Policy}
    {exceptions : List PolicyException} (hwf : WellFormed dists groups policies exceptions) :
    (∀ dists' groups' policies' exceptions', dists.Perm dists' → groups.Perm groups' →
      policies.Perm policies' → exceptions.Perm exceptions' →
        renderWithExceptions cluster dists' groups' policies' exceptions' =
          renderWithExceptions cluster dists groups policies exceptions) ∧
    ∀ before d after, dists = before ++ d :: after → ∀ small large,
        small = renderWithExceptions cluster (before ++ after) groups policies exceptions →
        large = renderWithExceptions cluster dists groups policies exceptions →
        (∀ o ∈ small.objects, ∃ o' ∈ large.objects, o'.kind = o.kind ∧ o'.name = o.name) ∧
        (∀ gname pname, GroupMode small.objects gname pname .enforce →
          ∀ mode, GroupMode large.objects gname pname mode ↔ mode = .enforce) ∧
        (∀ name, name ≠ d.name → large.matched.count name = small.matched.count name ∧
            large.errors[name]? = small.errors[name]?) := by
  constructor
  · intro dists' groups' policies' exceptions' hdists hgroups hpolicies hexceptions
    have hnodup' : (policies'.map fun p => p.name).Nodup :=
      (hpolicies.map _).nodup_iff.mp hwf.policyNames
    have hsame := sameAnswers_of_perm cluster hwf hgroups hpolicies hexceptions
    obtain ⟨hobjects, hmatched, herrors⟩ := rendered_eq_of_perm hdists hwf.distNames
      hwf.overrideModes (fun _ _ hg _ _ hm => hwf.members_isKnown hg hm)
      (rendered_foldl hwf.policyNames dists) (rendered_foldl hwf.policyNames dists')
    obtain ⟨hobjects', hmatched', herrors'⟩ := objects_eq_of_answers
      (rendered_foldl hwf.policyNames dists') (rendered_foldl hnodup' dists') hsame.cluster
      hsame.members hsame.policyByName (fun _ _ _ _ _ => by rw [hsame.groupByName])
      fun _ _ _ _ _ => by rw [hsame.exceptionByName]
    rw [renderWithExceptions, renderWithExceptions, ← hobjects', ← hobjects, ← herrors', ← herrors,
      ← hmatched', sortStrings_eq_of_perm hmatched]
  · rintro before d after rfl small large rfl rfl
    have hsmall : Rendered (.build cluster groups policies exceptions) (before ++ after) _ :=
      rendered_foldl hwf.policyNames _
    have hlarge : Rendered (.build cluster groups policies exceptions)
        (before ++ d :: after) _ := rendered_foldl hwf.policyNames _
    have hsub : before ++ after ⊆ before ++ d :: after := by
      intro x hx
      rcases List.mem_append.mp hx with hx | hx
      · exact List.mem_append_left _ hx
      · exact List.mem_append_right _ (List.mem_cons_of_mem _ hx)
    refine ⟨fun o ho => hsmall.objects_grow hlarge hsub ho,
      fun gname pname h mode => hsmall.enforce_grow hlarge hsub h mode, ?_⟩
    intro name hne
    refine ⟨?_, hsmall.errors_of_ne hlarge hne⟩
    rw [renderWithExceptions, renderWithExceptions, (sortStrings_perm _).count_eq,
      (sortStrings_perm _).count_eq]
    exact hsmall.count_matched_of_ne hlarge hne

end Renderer

attribute [local instance] Apimachinery.basic GoUnicode.ascii Digest.names

/-- Two distributions of one group, one of them with an override, in both
orders. -/
theorem renderWithExceptions_order_and_growth_swap : renderWithExceptions { name := "prod" }
      [{ name := "late", spec := {
          clusters := { byName := ["prod"] }, policyGroups := ["baseline"]
          overrides := [⟨"prod", .enforce⟩] } },
        { name := "early", spec := {
          clusters := { byName := ["prod"] }, policyGroups := ["baseline"] } }]
      [{ name := "baseline", spec := {
          enabled := true, policies := { byName := [⟨"no-root", .unset⟩] } } }]
      [{ name := "no-root", spec := { enforcementMode := .audit } }] [] =
    renderWithExceptions { name := "prod" } [{ name := "early", spec := {
          clusters := { byName := ["prod"] }, policyGroups := ["baseline"] } },
        { name := "late", spec := {
          clusters := { byName := ["prod"] }, policyGroups := ["baseline"]
          overrides := [⟨"prod", .enforce⟩] } }]
      [{ name := "baseline", spec := {
          enabled := true, policies := { byName := [⟨"no-root", .unset⟩] } } }]
      [{ name := "no-root", spec := { enforcementMode := .audit } }] [] :=
  (renderWithExceptions_order_and_growth { name := "prod" }
    ⟨by decide, by decide, by decide, by decide, by decide, by decide, by decide, by decide⟩).1
    _ _ _ _ (.swap _ _ _) (.refl _) (.refl _) (.refl _)

end KubeSentry.Gateway
