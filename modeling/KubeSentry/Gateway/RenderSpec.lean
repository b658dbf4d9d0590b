import KubeSentry.Gateway.Render

/-!
# What the renderer computes

The loop of `RenderWithExceptions` fills its maps in the order of the
distributions, and within one distribution in the order of its lists.  This
file says what the maps hold at the end, without the loop: `Rendered ix dists
st` gives every accumulator of `st` in closed form from the distributions that
the loop has seen.

One round keeps the relation (`renderDistribution_rendered`), so the whole
loop establishes it (`rendered_foldl`).  Every later result about the renderer
reads the closed forms and never the loop.
-/

namespace KubeSentry.Gateway

open GoLib GroupResolve

section

variable [Apimachinery]

/-! ## Closed forms -/

variable (cluster : Cluster)

/-- The distribution is live and targets the cluster. -/
def targets (d : PolicyDistribution) : Bool :=
  d.deletionTimestamp.isNone &&
    match distMatches d cluster with
    | .ok matched => matched
    | .error _ => false

/-- The distribution gets an entry in `Matched`: it targets the cluster, or its
selector is malformed. -/
def reported (d : PolicyDistribution) : Bool :=
  d.deletionTimestamp.isNone &&
    match distMatches d cluster with
    | .ok matched => matched
    | .error _ => true

/-- The group names that the targeting distributions list, in loop order, each
with the override in force. -/
def visits (dists : List PolicyDistribution) : List (String × EnforcementMode) :=
  (dists.filter (targets cluster)).flatMap fun d =>
    d.spec.policyGroups.map fun gname => (gname, overrideFor cluster d)

theorem mem_visits_iff (dists : List PolicyDistribution)
    (gname : String) (override : EnforcementMode) :
    (gname, override) ∈ visits cluster dists ↔
      ∃ d ∈ dists, targets cluster d = true ∧ gname ∈ d.spec.policyGroups ∧
        override = overrideFor cluster d := by
  simp only [visits, List.mem_flatMap, List.mem_filter, List.mem_map, Prod.mk.injEq]
  constructor
  · intro hx
    obtain ⟨d, ⟨hd, htargets⟩, _, hgname, rfl, rfl⟩ := hx
    exact ⟨d, hd, htargets, hgname, rfl⟩
  · intro hx
    obtain ⟨d, hd, htargets, hgname, rfl⟩ := hx
    exact ⟨d, ⟨hd, htargets⟩, gname, hgname, rfl, rfl⟩

/-- The exception names that the targeting distributions list. -/
def listedExceptions (dists : List PolicyDistribution) : List String :=
  (dists.filter (targets cluster)).flatMap fun d => d.spec.policyExceptions

variable (ix : RenderIndex)

/-- The group of a name, if it is enabled. -/
def RenderIndex.enabledGroup (gname : String) : Option PolicyGroup :=
  ix.groupByName[gname]?.filter fun g => g.spec.enabled

/-- The gateway-side members of a group. -/
def RenderIndex.members (g : PolicyGroup) : GoMap EffectiveMember :=
  (resolvedMembers g.spec ix.policies).1

/-- The strictest mode over a list of overrides. -/
def mergedMode (overrides : List EnforcementMode) (mode : EnforcementMode) : EnforcementMode :=
  overrides.foldl (fun acc override => stricter acc (applyOverride override mode)) .unset

/-- The modes of a group that was visited with these overrides. -/
def RenderIndex.modesOf (g : PolicyGroup)
    (overrides : List EnforcementMode) : GoMap EnforcementMode :=
  (ix.members g).map fun _ m => mergedMode overrides m.enforcementMode

def RenderIndex.renderedOf (vs : List (String × EnforcementMode))
    (gname : String) : Option RenderedGroup :=
  if valuesAt gname vs = [] then none
  else (ix.enabledGroup gname).map fun g =>
    { src := g, modes := ix.modesOf g (valuesAt gname vs) }

/-- A visited group has the policy as a member. -/
def RenderIndex.needs (vs : List (String × EnforcementMode)) (pname : String) : Prop :=
  ∃ v ∈ vs, ∃ g, ix.enabledGroup v.1 = some g ∧ pname ∈ ix.members g

/-- Names that the maps lack, as error texts. -/
def missingGroups [GoUnicode] (names : List String) : List String :=
  (names.filter fun n => ix.groupByName[n]?.isNone).map fun n =>
    "policygroup " ++ quote n ++ " not found"

def missingExceptions [GoUnicode] (names : List String) : List String :=
  (names.filter fun n => ix.exceptionByName[n]?.isNone).map fun n =>
    "policyexception " ++ quote n ++ " not found"

/-- The `Errors` entry of one distribution. -/
def errorOf [GoUnicode] (d : PolicyDistribution) : Option String :=
  if d.deletionTimestamp.isSome then none
  else
    match distMatches d ix.cluster with
    | .error matchErr => some matchErr
    | .ok false => none
    | .ok true =>
      let errs := missingGroups ix d.spec.policyGroups ++
        missingExceptions ix d.spec.policyExceptions
      if errs = [] then none else some ("; ".intercalate errs)

/-- The `Errors` entries that a list of distributions makes, in loop order. -/
def errorEntries [GoUnicode] (dists : List PolicyDistribution) : List (String × String) :=
  dists.filterMap fun d => (errorOf ix d).map fun text => (d.name, text)

/-- The maps of groups and policies after the visits `vs`. -/
structure Visited (ix : RenderIndex) (vs : List (String × EnforcementMode))
    (st : RenderState) : Prop where
  rendered : ∀ gname, st.rendered[gname]? = ix.renderedOf vs gname
  needed : ∀ pname p, st.needed[pname]? = some p ↔
    ix.needs vs pname ∧ ix.policyByName[pname]? = some p

/-- All accumulators after the distributions `dists`. -/
structure Rendered [GoUnicode] (ix : RenderIndex) (dists : List PolicyDistribution)
    (st : RenderState) : Prop extends Visited ix (visits ix.cluster dists) st where
  matched : st.matched = (dists.filter (reported ix.cluster)).map fun d => d.name
  errors : st.errors = accumulate (fun _ text => text) ∅ (errorEntries ix dists)
  neededExceptions : ∀ name e, st.neededExceptions[name]? = some e ↔
    name ∈ listedExceptions ix.cluster dists ∧ ix.exceptionByName[name]? = some e

/-! ## The loop over the members of a group -/

section

omit [Apimachinery]

/-- The modes that the member loop leaves. -/
theorem foldl_renderMember_modes (ix : RenderIndex) (override : EnforcementMode)
    (l : List EffectiveMember) (acc : GoMap EnforcementMode × GoMap Policy) :
    (l.foldl (renderMember ix override) acc).1 = accumulate
        (fun old m => stricter (old.getD .unset) (applyOverride override m.enforcementMode))
        acc.1 (l.map fun m => (m.name, m)) := by
  induction l generalizing acc with
  | nil => rfl
  | cons m rest ih =>
    rw [List.foldl_cons, ih, List.map_cons, accumulate, accumulate, List.foldl_cons]
    congr 1
    rw [renderMember]
    split <;> rfl

/-- The policies that the member loop leaves. -/
theorem foldl_renderMember_needed (ix : RenderIndex) (override : EnforcementMode)
    (l : List EffectiveMember) (acc : GoMap EnforcementMode × GoMap Policy) (k : String) :
    (l.foldl (renderMember ix override) acc).2[k]? =
      if k ∈ l.map (fun m => m.name) then ix.policyByName[k]?.or acc.2[k]? else acc.2[k]? := by
  induction l generalizing acc with
  | nil => simp
  | cons m rest ih =>
    have hstep : (renderMember ix override acc m).2[k]? =
        if m.name = k then ix.policyByName[k]?.or acc.2[k]? else acc.2[k]? := by
      rw [renderMember]
      by_cases hk : m.name = k
      · subst hk
        cases hpol : ix.policyByName[m.name]? <;> simp
      · cases hpol : ix.policyByName[m.name]? <;> simp [hk]
    rw [List.foldl_cons, ih, hstep]
    by_cases hk : m.name = k
    · subst hk
      cases hpol : ix.policyByName[m.name]? <;> simp
    · have hk' : ¬ k = m.name := fun h => hk h.symm
      simp [hk, hk']

theorem mergedMode_append (overrides : List EnforcementMode) (override mode : EnforcementMode) :
    mergedMode (overrides ++ [override]) mode =
      stricter (mergedMode overrides mode) (applyOverride override mode) := by
  simp [mergedMode]

end

/-- One more visit of a group merges one more override into its modes.  The
map before the visit is empty on the first visit and `modesOf` on a later one;
the two hypotheses say what they have in common. -/
theorem foldl_renderMember_modesOf
    (hnodup : (ix.policies.map (fun p => p.name)).Nodup) (g : PolicyGroup)
    (overrides : List EnforcementMode) (override : EnforcementMode)
    (modes : GoMap EnforcementMode) (needed : GoMap Policy)
    (hsome : ∀ (k : String) (m : EffectiveMember), (ix.members g)[k]? = some m →
      modes[k]?.getD .unset = mergedMode overrides m.enforcementMode)
    (hnone : ∀ k : String, (ix.members g)[k]? = none → modes[k]? = none) :
    ((resolve g.spec ix.policies).1.foldl (renderMember ix override) (modes, needed)).1 =
      ix.modesOf g (overrides ++ [override]) := by
  apply Std.ExtTreeMap.ext_getElem?
  intro k
  rw [foldl_renderMember_modes, map_name_resolve g.spec hnodup, getElem?_accumulate,
    valuesAt_toList, ← RenderIndex.members]
  simp only [RenderIndex.modesOf, Std.ExtTreeMap.getElem?_map, mergedMode_append]
  cases hm : (ix.members g)[k]? with
  | none => simpa using hnone k hm
  | some m => simp [hsome k m hm]

/-! ## The loop over the listed groups -/

variable {ix : RenderIndex} {vs : List (String × EnforcementMode)} {st : RenderState}
  {gname : String} {d : PolicyDistribution} {dists : List PolicyDistribution}

/-- A visit of a name that has no enabled group changes neither map. -/
theorem Visited.append_of_enabledGroup_eq_none (h : Visited ix vs st)
    (hnone : ix.enabledGroup gname = none) (override : EnforcementMode) :
    Visited ix (vs ++ [(gname, override)]) st where
  rendered := by
    intro k
    rw [h.rendered, RenderIndex.renderedOf, RenderIndex.renderedOf, valuesAt_append,
      valuesAt_cons, valuesAt_nil]
    by_cases hk : gname = k
    · subst hk
      simp [hnone]
    · simp [hk]
  needed := by
    intro pname p
    rw [h.needed]
    constructor
    · intro hx
      obtain ⟨⟨v, hv, hg⟩, hp⟩ := hx
      exact ⟨⟨v, List.mem_append_left _ hv, hg⟩, hp⟩
    · intro hx
      obtain ⟨⟨v, hv, g, hg, hmem⟩, hp⟩ := hx
      refine ⟨⟨v, ?_, g, hg, hmem⟩, hp⟩
      rcases List.mem_append.mp hv with hv | hv
      · exact hv
      · rw [List.mem_singleton] at hv
        rw [hv, hnone] at hg
        exact absurd hg (by simp)

variable {g : PolicyGroup} {rg : RenderedGroup} {acc : RenderState × List String}

/-- The entry that a visit of an enabled group starts from: a fresh one on the
first visit, and the merged modes so far on a later one. -/
theorem Visited.entry (h : Visited ix vs st) (hgroup : ix.enabledGroup gname = some g)
    (hrg : rg = st.rendered[gname]?.getD { src := g, modes := ∅ }) :
    rg.src = g ∧ (∀ (k : String) (m : EffectiveMember), (ix.members g)[k]? = some m →
        rg.modes[k]?.getD .unset = mergedMode (valuesAt gname vs) m.enforcementMode) ∧
      (∀ k : String, (ix.members g)[k]? = none → rg.modes[k]? = none) := by
  rw [h.rendered, RenderIndex.renderedOf, hgroup] at hrg
  by_cases hfirst : valuesAt gname vs = []
  · subst hrg
    simp [hfirst, mergedMode]
  · rw [if_neg hfirst, Option.map_some, Option.getD_some] at hrg
    subst hrg
    refine ⟨rfl, ?_, ?_⟩
    · intro k m hm
      simp [RenderIndex.modesOf, hm]
    · intro k hm
      simp [RenderIndex.modesOf, hm]

variable (hnodup : (ix.policies.map (fun p => p.name)).Nodup)

include hnodup

/-- A round of the group loop on an enabled group. -/
theorem renderGroup_enabled [GoUnicode] (h : Visited ix vs st)
    (hgroup : ix.enabledGroup gname = some g) (override : EnforcementMode)
    (hrg : rg = st.rendered[gname]?.getD { src := g, modes := ∅ }) {modes : GoMap EnforcementMode}
    {needed : GoMap Policy} (hloop : (resolve g.spec ix.policies).1.foldl (renderMember ix override)
      (rg.modes, st.needed) = (modes, needed)) :
    Visited ix (vs ++ [(gname, override)]) { st with
        rendered := st.rendered.insert gname { rg with modes := modes }
        needed := needed } where
  rendered := by
    obtain ⟨hsrc, hsome, hnone⟩ := h.entry hgroup hrg
    have hmodes : modes = ix.modesOf g (valuesAt gname vs ++ [override]) := by
      rw [← foldl_renderMember_modesOf ix hnodup g _ override rg.modes st.needed hsome hnone, hloop]
    intro k
    simp only [getElem?_insert_key, RenderIndex.renderedOf, valuesAt_append, valuesAt_cons,
      valuesAt_nil]
    by_cases hk : gname = k
    · subst hk
      simp [hgroup, hmodes, hsrc]
    · rw [if_neg hk, if_neg hk, List.append_nil, h.rendered, RenderIndex.renderedOf]
  needed := by
    intro pname p
    have hneeded : needed[pname]? =
        if pname ∈ ix.members g then ix.policyByName[pname]?.or st.needed[pname]?
        else st.needed[pname]? := by
      have hfold := foldl_renderMember_needed ix override (resolve g.spec ix.policies).1
        (rg.modes, st.needed) pname
      rw [hloop] at hfold
      exact hfold.trans (if_congr (mem_names_resolve_iff g.spec hnodup pname) rfl rfl)
    have hneeds : ix.needs (vs ++ [(gname, override)]) pname ↔
        ix.needs vs pname ∨ pname ∈ ix.members g := by
      simp only [RenderIndex.needs, List.mem_append, List.mem_singleton, or_and_right,
        exists_or, exists_eq_left, hgroup, Option.some.injEq, exists_eq_left']
    rw [hneeded, hneeds]
    exact or_eq_some_iff (h.needed pname p)

/-- One round of the group loop adds one visit. -/
theorem renderGroup_visited [GoUnicode] (h : Visited ix vs acc.1) (override : EnforcementMode)
    (gname : String) :
    Visited ix (vs ++ [(gname, override)]) (renderGroup ix override acc gname).1 := by
  rw [renderGroup]
  cases hget : ix.groupByName[gname]? with
  | none =>
    exact h.append_of_enabledGroup_eq_none (by simp [RenderIndex.enabledGroup, hget]) _
  | some g =>
    cases henabled : g.spec.enabled with
    | false =>
      have hnone : ix.enabledGroup gname = none := by
        simp [RenderIndex.enabledGroup, hget, henabled]
      simpa [henabled] using h.append_of_enabledGroup_eq_none hnone override
    | true =>
      have hgroup : ix.enabledGroup gname = some g := by
        simp [RenderIndex.enabledGroup, hget, henabled]
      simpa [henabled] using renderGroup_enabled hnodup h hgroup override rfl rfl

/-- The whole loop over the listed groups adds their visits. -/
theorem foldl_renderGroup_visited [GoUnicode] (override : EnforcementMode) (names : List String)
    (h : Visited ix vs acc.1) :
    Visited ix (vs ++ names.map fun gname => (gname, override))
      (names.foldl (renderGroup ix override) acc).1 := by
  induction names generalizing vs acc with
  | nil => simpa using h
  | cons gname rest ih =>
    have hrest := ih (renderGroup_visited hnodup h override gname)
    simpa using hrest

omit hnodup

/-- The group loop reports the names it does not find, and leaves the other
accumulators alone. -/
theorem foldl_renderGroup_frame [GoUnicode] (ix : RenderIndex) (override : EnforcementMode)
    (names : List String) (acc : RenderState × List String) :
    (names.foldl (renderGroup ix override) acc).2 = acc.2 ++ missingGroups ix names ∧
      (names.foldl (renderGroup ix override) acc).1.matched = acc.1.matched ∧
      (names.foldl (renderGroup ix override) acc).1.errors = acc.1.errors ∧
      (names.foldl (renderGroup ix override) acc).1.neededExceptions = acc.1.neededExceptions := by
  induction names generalizing acc with
  | nil => simp [missingGroups]
  | cons gname rest ih =>
    obtain ⟨herrs, hmatched, herrors, hexceptions⟩ := ih (renderGroup ix override acc gname)
    rw [List.foldl_cons, herrs, hmatched, herrors, hexceptions, renderGroup]
    cases hget : ix.groupByName[gname]? with
    | none => simp [missingGroups, hget]
    | some g => cases henabled : g.spec.enabled <;> simp [missingGroups, hget, henabled]

/-! ## The loop over the listed exceptions -/

omit [Apimachinery] in
/-- The exception loop binds the names it finds, reports the others, and leaves
the other accumulators alone. -/
theorem foldl_renderException [GoUnicode] (ix : RenderIndex) (names : List String)
    (acc : RenderState × List String) :
    (names.foldl (renderException ix) acc).2 = acc.2 ++ missingExceptions ix names ∧
      (∀ k : String, (names.foldl (renderException ix) acc).1.neededExceptions[k]? =
        if k ∈ names then ix.exceptionByName[k]?.or acc.1.neededExceptions[k]?
        else acc.1.neededExceptions[k]?) ∧
      (names.foldl (renderException ix) acc).1 = { acc.1 with
          neededExceptions := (names.foldl (renderException ix) acc).1.neededExceptions } := by
  induction names generalizing acc with
  | nil => simp [missingExceptions]
  | cons name rest ih =>
    obtain ⟨herrs, hget, hframe⟩ := ih (renderException ix acc name)
    rw [List.foldl_cons]
    cases hfind : ix.exceptionByName[name]? with
    | none =>
      have hstep : renderException ix acc name =
          (acc.1, acc.2 ++ ["policyexception " ++ quote name ++ " not found"]) := by
        rw [renderException, hfind]
      refine ⟨?_, ?_, ?_⟩
      · rw [herrs, hstep]
        simp [missingExceptions, hfind]
      · intro k
        rw [hget, hstep]
        by_cases hk : k = name
        · subst hk
          simp [hfind]
        · simp [hk]
      · rw [hframe, hstep]
    | some e =>
      have hstep : renderException ix acc name =
          ({ acc.1 with neededExceptions := acc.1.neededExceptions.insert name e }, acc.2) := by
        rw [renderException, hfind]
      refine ⟨?_, ?_, ?_⟩
      · rw [herrs, hstep]
        simp [missingExceptions, hfind]
      · intro k
        rw [hget, hstep]
        by_cases hk : k = name
        · subst hk
          simp [hfind]
        · have hk' : ¬ name = k := fun h => hk h.symm
          simp [hk, hk']
      · rw [hframe, hstep]

/-! ## The loop over the distributions -/

/-- What one targeting distribution visits. -/
theorem visits_append (dists : List PolicyDistribution) (d : PolicyDistribution) :
    visits cluster (dists ++ [d]) = visits cluster dists ++ if targets cluster d then
        d.spec.policyGroups.map fun gname => (gname, overrideFor cluster d)
      else [] := by
  cases h : targets cluster d <;> simp [visits, h]

theorem listedExceptions_append (dists : List PolicyDistribution) (d : PolicyDistribution) :
    listedExceptions cluster (dists ++ [d]) = listedExceptions cluster dists ++
      if targets cluster d then d.spec.policyExceptions else [] := by
  cases h : targets cluster d <;> simp [listedExceptions, h]

theorem errorEntries_append [GoUnicode] (ix : RenderIndex) (dists : List PolicyDistribution)
    (d : PolicyDistribution) :
    errorEntries ix (dists ++ [d]) = errorEntries ix dists ++
      ((errorOf ix d).map fun text => (d.name, text)).toList := by
  cases h : errorOf ix d <;> simp [errorEntries, h]

variable [GoUnicode]

/-- The error of one distribution reads the by-name maps at the listed names
only, and only if the distribution targets the cluster. -/
theorem errorOf_congr {ix' : RenderIndex} (hcluster : ix.cluster = ix'.cluster)
    (hnames : targets ix.cluster d = true → (∀ n ∈ d.spec.policyGroups,
        ix.groupByName[n]?.isNone = ix'.groupByName[n]?.isNone) ∧
      ∀ n ∈ d.spec.policyExceptions,
        ix.exceptionByName[n]?.isNone = ix'.exceptionByName[n]?.isNone) :
    errorOf ix d = errorOf ix' d := by
  rw [errorOf, errorOf, ← hcluster]
  cases hlive : d.deletionTimestamp with
  | some t => rfl
  | none =>
    cases hmatch : distMatches d ix.cluster with
    | error matchErr => rfl
    | ok matched =>
      cases matched with
      | false => rfl
      | true =>
        obtain ⟨hgroups, hexceptions⟩ := hnames (by simp [targets, hlive, hmatch])
        have hg : missingGroups ix d.spec.policyGroups = missingGroups ix' d.spec.policyGroups := by
          rw [missingGroups, missingGroups, List.filter_congr hgroups]
        have he : missingExceptions ix d.spec.policyExceptions =
            missingExceptions ix' d.spec.policyExceptions := by
          rw [missingExceptions, missingExceptions, List.filter_congr hexceptions]
        rw [hg, he]

/-- A distribution that does not target the cluster adds at most its entries
in `Matched` and `Errors`. -/
theorem Rendered.append_of_not_targets {st' : RenderState} (h : Rendered ix dists st)
    (htargets : targets ix.cluster d = false)
    (hmatched : st'.matched = st.matched ++ if reported ix.cluster d then [d.name] else [])
    (herrors : st'.errors = (errorOf ix d).elim st.errors (st.errors.insert d.name))
    (hframe : st' = { st with matched := st'.matched, errors := st'.errors }) :
    Rendered ix (dists ++ [d]) st' where
  rendered := by
    rw [hframe, visits_append, htargets]
    simpa using h.rendered
  needed := by
    rw [hframe, visits_append, htargets]
    simpa using h.needed
  matched := by
    rw [hmatched, h.matched, List.filter_append, List.map_append]
    cases hreported : reported ix.cluster d <;> simp [hreported]
  errors := by
    rw [herrors, h.errors, errorEntries_append, accumulate_append]
    cases errorOf ix d <;> rfl
  neededExceptions := by
    rw [hframe, listedExceptions_append, htargets]
    simpa using h.neededExceptions

/-- The loop starts from empty accumulators. -/
theorem rendered_nil (ix : RenderIndex) : Rendered ix [] {} where
  rendered := by simp [visits, RenderIndex.renderedOf]
  needed := by simp [visits, RenderIndex.needs]
  matched := rfl
  errors := rfl
  neededExceptions := by simp [listedExceptions]

include hnodup

/-- The round of a distribution that targets the cluster. -/
theorem renderDistribution_of_targets (h : Rendered ix dists st)
    (hlive : d.deletionTimestamp = none) (hmatch : distMatches d ix.cluster = .ok true) :
    Rendered ix (dists ++ [d]) (renderDistribution ix st d) := by
  have htargets : targets ix.cluster d = true := by simp [targets, hlive, hmatch]
  have hreported : reported ix.cluster d = true := by simp [reported, hlive, hmatch]
  -- The two inner loops, from the state with the new `Matched` entry.
  obtain ⟨acc, hacc⟩ : ∃ acc, acc = d.spec.policyGroups.foldl
      (renderGroup ix (overrideFor ix.cluster d))
      ({ st with matched := st.matched ++ [d.name] }, []) := ⟨_, rfl⟩
  obtain ⟨out, hout⟩ : ∃ out, out = d.spec.policyExceptions.foldl (renderException ix) acc :=
    ⟨_, rfl⟩
  have hvisited : Visited ix (visits ix.cluster (dists ++ [d])) acc.1 := by
    have hstart : Visited ix (visits ix.cluster dists)
        { st with matched := st.matched ++ [d.name] } := ⟨h.rendered, h.needed⟩
    rw [visits_append, if_pos htargets, hacc]
    exact foldl_renderGroup_visited hnodup _ _ hstart
  obtain ⟨haccErrs, haccMatched, haccErrors, haccExceptions⟩ :=
    foldl_renderGroup_frame ix (overrideFor ix.cluster d) d.spec.policyGroups
      ({ st with matched := st.matched ++ [d.name] }, [])
  rw [← hacc] at haccErrs haccMatched haccErrors haccExceptions
  obtain ⟨houtErrs, houtGet, houtFrame⟩ := foldl_renderException ix d.spec.policyExceptions acc
  rw [← hout] at houtErrs houtGet houtFrame
  have herrs : out.2 = missingGroups ix d.spec.policyGroups ++
      missingExceptions ix d.spec.policyExceptions := by
    rw [houtErrs, haccErrs, List.nil_append]
  have hexceptions : ∀ name e, out.1.neededExceptions[name]? = some e ↔
      name ∈ listedExceptions ix.cluster (dists ++ [d]) ∧ ix.exceptionByName[name]? = some e := by
    intro name e
    rw [houtGet, haccExceptions, listedExceptions_append, if_pos htargets, List.mem_append]
    exact or_eq_some_iff (h.neededExceptions name e)
  have hresult : renderDistribution ix st d = { out.1 with
        errors := (errorOf ix d).elim st.errors (st.errors.insert d.name) } := by
    simp only [renderDistribution, hlive, hmatch, ← hacc, ← hout, Option.isSome_none,
      Bool.false_eq_true, if_false]
    have herror : errorOf ix d = if out.2 = [] then none else some ("; ".intercalate out.2) := by
      simp [errorOf, hlive, hmatch, herrs]
    have herrors : out.1.errors = st.errors := by rw [houtFrame, haccErrors]
    by_cases hnil : out.2 = []
    · rw [if_pos hnil, herror, if_pos hnil, Option.elim_none, ← herrors]
    · rw [if_neg hnil, herror, if_neg hnil, Option.elim_some, ← herrors]
  rw [hresult]
  exact
    { rendered := by
        rw [houtFrame]
        exact hvisited.rendered
      needed := by
        rw [houtFrame]
        exact hvisited.needed
      matched := by
        rw [houtFrame, haccMatched, h.matched, List.filter_append, List.map_append]
        simp [hreported]
      errors := by
        rw [h.errors, errorEntries_append, accumulate_append]
        cases errorOf ix d <;> rfl
      neededExceptions := hexceptions }

/-- One round of the loop over the distributions. -/
theorem renderDistribution_rendered (h : Rendered ix dists st) (d : PolicyDistribution) :
    Rendered ix (dists ++ [d]) (renderDistribution ix st d) := by
  cases hlive : d.deletionTimestamp with
  | some t =>
    refine h.append_of_not_targets ?_ ?_ ?_ ?_ <;>
      simp [targets, reported, errorOf, renderDistribution, hlive]
  | none =>
    cases hmatch : distMatches d ix.cluster with
    | error matchErr =>
      refine h.append_of_not_targets ?_ ?_ ?_ ?_ <;>
        simp [targets, reported, errorOf, renderDistribution, hlive, hmatch]
    | ok matched =>
      cases matched with
      | false =>
        refine h.append_of_not_targets ?_ ?_ ?_ ?_ <;>
          simp [targets, reported, errorOf, renderDistribution, hlive, hmatch]
      | true => exact renderDistribution_of_targets hnodup h hlive hmatch

/-- The whole loop over the distributions. -/
theorem rendered_foldl (dists : List PolicyDistribution) :
    Rendered ix dists (dists.foldl (renderDistribution ix) {}) := by
  suffices h : ∀ (done : List PolicyDistribution) (st : RenderState), Rendered ix done st →
      Rendered ix (done ++ dists) (dists.foldl (renderDistribution ix) st) by
    simpa using h [] {} (rendered_nil ix)
  induction dists with
  | nil =>
    intro done st h
    simpa using h
  | cons d rest ih =>
    intro done st h
    have hrest := ih (done ++ [d]) _ (renderDistribution_rendered hnodup h d)
    simpa using hrest

end

/-! ## The object list -/

theorem RenderState.mem_objects_iff (st : RenderState) (o : ManagedObject) : o ∈ st.objects ↔
      (∃ name p, st.needed[name]? = some p ∧ o = policyObject name p) ∨
      (∃ name rg, st.rendered[name]? = some rg ∧ o = groupObject name rg) ∨
      (∃ name e, st.neededExceptions[name]? = some e ∧ o = exceptionObject name e) := by
  simp only [RenderState.objects, List.mem_append, List.mem_map, Prod.exists, mem_toList_iff,
    eq_comm (a := o), or_assoc]

/-- A group of the snapshot gives a policy this mode. -/
def GroupMode (objects : List ManagedObject) (gname pname : String)
    (mode : EnforcementMode) : Prop :=
  ∃ o ∈ objects, o.kind = .policyGroup ∧ o.name = gname ∧
    ∃ spec, o.spec = .policyGroup spec ∧ ⟨pname, mode⟩ ∈ spec.policies.byName

theorem mem_flattenGroup_iff (rg : RenderedGroup) (pname : String) (mode : EnforcementMode) :
    ⟨pname, mode⟩ ∈ (flattenGroup rg).policies.byName ↔ rg.modes[pname]? = some mode := by
  simp [flattenGroup]

theorem RenderState.groupMode_iff (st : RenderState) (gname pname : String)
    (mode : EnforcementMode) :
    GroupMode st.objects gname pname mode ↔
      ∃ rg, st.rendered[gname]? = some rg ∧ rg.modes[pname]? = some mode := by
  constructor
  · intro hx
    obtain ⟨o, ho, hkind, rfl, spec, hspec, href⟩ := hx
    rcases (st.mem_objects_iff o).mp ho with ⟨n, p, _, rfl⟩ | ⟨n, rg, hrg, rfl⟩ | ⟨n, e, _, rfl⟩
    · exact absurd hkind (by simp [policyObject])
    · have hflat : spec = flattenGroup rg := by simpa [groupObject] using hspec.symm
      rw [hflat, mem_flattenGroup_iff] at href
      exact ⟨rg, hrg, href⟩
    · exact absurd hkind (by simp [exceptionObject])
  · intro hx
    obtain ⟨rg, hrg, hmode⟩ := hx
    refine ⟨groupObject gname rg, ?_, rfl, rfl, flattenGroup rg, rfl, ?_⟩
    · exact (st.mem_objects_iff _).mpr (.inr (.inl ⟨gname, rg, hrg, rfl⟩))
    · exact (mem_flattenGroup_iff rg pname mode).mpr hmode

variable [Apimachinery]

/-- A group is rendered when it is enabled and some visit names it. -/
theorem RenderIndex.renderedOf_eq_some_iff (ix : RenderIndex)
    (vs : List (String × EnforcementMode)) (gname : String) (rg : RenderedGroup) :
    ix.renderedOf vs gname = some rg ↔ (∃ override, (gname, override) ∈ vs) ∧
        ∃ g, ix.enabledGroup gname = some g ∧
          rg = { src := g, modes := ix.modesOf g (valuesAt gname vs) } := by
  have hvisited : (∃ override, (gname, override) ∈ vs) ↔ ¬ valuesAt gname vs = [] := by
    rw [List.eq_nil_iff_forall_not_mem]
    simp
  rw [RenderIndex.renderedOf, hvisited]
  by_cases hnil : valuesAt gname vs = []
  · simp [hnil]
  · rw [if_neg hnil, Option.map_eq_some_iff]
    simp only [hnil, not_false_eq_true, true_and, eq_comm (a := rg)]

/-- The mode of a member in the snapshot, in closed form. -/
theorem Rendered.groupMode_iff [GoUnicode] {ix : RenderIndex} {dists : List PolicyDistribution}
    {st : RenderState} (h : Rendered ix dists st) (gname pname : String) (mode : EnforcementMode) :
    GroupMode st.objects gname pname mode ↔
      (∃ override, (gname, override) ∈ visits ix.cluster dists) ∧
        ∃ g m, ix.enabledGroup gname = some g ∧ (ix.members g)[pname]? = some m ∧
          mode = mergedMode (valuesAt gname (visits ix.cluster dists)) m.enforcementMode := by
  simp only [st.groupMode_iff, h.rendered, ix.renderedOf_eq_some_iff]
  constructor
  · intro hx
    obtain ⟨rg, ⟨hvisited, g, hg, rfl⟩, hmode⟩ := hx
    simp only [RenderIndex.modesOf, Std.ExtTreeMap.getElem?_map, Option.map_eq_some_iff] at hmode
    obtain ⟨m, hm, hmode⟩ := hmode
    exact ⟨hvisited, g, m, hg, hm, hmode.symm⟩
  · intro hx
    obtain ⟨hvisited, g, m, hg, hm, rfl⟩ := hx
    refine ⟨_, ⟨hvisited, g, hg, rfl⟩, ?_⟩
    simp [RenderIndex.modesOf, hm]

/-- Two loops over the same distributions agree when their indexes resolve the
same members and agree at the listed names. -/
theorem objects_eq_of_answers [GoUnicode] {ix ix' : RenderIndex} {dists : List PolicyDistribution}
    {st st' : RenderState} (h : Rendered ix dists st) (h' : Rendered ix' dists st')
    (hcluster : ix.cluster = ix'.cluster) (hmembers : ∀ g, ix.members g = ix'.members g)
    (hbyName : ix.policyByName = ix'.policyByName)
    (hgroups : ∀ d ∈ dists, targets ix.cluster d = true → ∀ n ∈ d.spec.policyGroups,
      ix.groupByName[n]? = ix'.groupByName[n]?)
    (hexceptions : ∀ d ∈ dists, targets ix.cluster d = true → ∀ n ∈ d.spec.policyExceptions,
      ix.exceptionByName[n]? = ix'.exceptionByName[n]?) :
    st.objects = st'.objects ∧ st.matched = st'.matched ∧ st.errors = st'.errors := by
  have hgroup : ∀ v ∈ visits ix.cluster dists, ix.enabledGroup v.1 = ix'.enabledGroup v.1 := by
    intro v hv
    obtain ⟨d, hd, htargets, hlisted, _⟩ := (mem_visits_iff ix.cluster dists v.1 v.2).mp hv
    rw [RenderIndex.enabledGroup, RenderIndex.enabledGroup, hgroups d hd htargets v.1 hlisted]
  have hrendered : st.rendered = st'.rendered := by
    apply ext_of_some
    intro gname rg
    rw [h.rendered, h'.rendered, ix.renderedOf_eq_some_iff, ix'.renderedOf_eq_some_iff, ← hcluster]
    refine and_congr_right ?_
    intro hvisited
    obtain ⟨override, hv⟩ := hvisited
    simp only [hgroup _ hv, RenderIndex.modesOf, hmembers]
  have hneeded : st.needed = st'.needed := by
    apply ext_of_some
    intro pname p
    rw [h.needed, h'.needed, hbyName, ← hcluster, RenderIndex.needs, RenderIndex.needs]
    refine and_congr_left ?_
    intro _
    refine exists_congr fun v => and_congr_right fun hv => ?_
    simp only [hgroup v hv, hmembers]
  have hneededExceptions : st.neededExceptions = st'.neededExceptions := by
    apply ext_of_some
    intro name e
    rw [h.neededExceptions, h'.neededExceptions, ← hcluster]
    refine and_congr_right ?_
    intro hlisted
    obtain ⟨d, hd, hname⟩ := List.mem_flatMap.mp hlisted
    obtain ⟨hd, htargets⟩ := List.mem_filter.mp hd
    rw [hexceptions d hd htargets name hname]
  refine ⟨?_, ?_, ?_⟩
  · rw [RenderState.objects, RenderState.objects, hrendered, hneeded, hneededExceptions]
  · rw [h.matched, h'.matched, hcluster]
  · rw [h.errors, h'.errors]
    congr 1
    apply List.filterMap_congr
    intro d hd
    rw [errorOf_congr hcluster]
    intro htargets
    refine ⟨?_, ?_⟩
    · intro n hn
      rw [hgroups d hd htargets n hn]
    · intro n hn
      rw [hexceptions d hd htargets n hn]

end KubeSentry.Gateway
