import KubeSentry.GoLib.Table
import KubeSentry.GroupResolve

/-!
# The specification of group resolution

`Resolution` says what the result of `Resolve` is, without maps and loops: which policies are
members, with which mode and source, in which order, and which conditions there are.  A
result is a resolution exactly if it is the one that `resolve` computes.

The names of the policies are distinct, as object names are, and the policies may come in any
order.
-/

namespace KubeSentry.GroupResolve

open GoLib

/-! ## The specification -/

/-- The entry has the name, and no later entry has it. -/
def LastNaming (refs : List PolicyRef) (name : String) (ref : PolicyRef) : Prop :=
  ∃ before after, refs = before ++ ref :: after ∧ ref.name = name ∧ ∀ r ∈ after, r.name ≠ name

section

variable [Apimachinery]

/-- The group has a selector that is well formed and matches the labels. -/
def SelectorMatches (spec : PolicyGroupSpec) (labels : Labels) : Prop :=
  ∃ bySelector sel, spec.policies.bySelector = some bySelector ∧
    Apimachinery.labelSelectorAsSelector bySelector = .ok sel ∧ sel labels = true

/-- The member that a policy becomes, unless it is excluded. -/
inductive BecomesMember (spec : PolicyGroupSpec) (pol : Policy) : EffectiveMember → Prop where
  | byName {ref : PolicyRef} (hlast : LastNaming spec.policies.byName pol.name ref) :
    BecomesMember spec pol
      { name := pol.name
        enforcementMode := orDefault ref.enforcementMode pol.spec.enforcementMode
        source := .byName }
  | bySelector (hunnamed : ∀ r ∈ spec.policies.byName, r.name ≠ pol.name)
    (hmatches : SelectorMatches spec pol.labels) :
    BecomesMember spec pol
      { name := pol.name
        enforcementMode := orDefault spec.selectorEnforcementMode pol.spec.enforcementMode
        source := .bySelector }

/-- The error of a selector that is not well formed. -/
def selectorConditions (spec : PolicyGroupSpec) : List Condition :=
  match spec.policies.bySelector with
  | none => []
  | some bySelector =>
    match Apimachinery.labelSelectorAsSelector bySelector with
    | .error err => [invalidSelector err]
    | .ok _ => []

structure Resolution (spec : PolicyGroupSpec) (policies : List Policy)
    (members : List EffectiveMember) (conditions : List Condition) : Prop where
  mem_iff : ∀ m, m ∈ members ↔
    ∃ pol ∈ policies, pol.name ∉ spec.policies.exclude ∧ BecomesMember spec pol m
  increasing : members.Pairwise fun m m' => m.name < m'.name
  /-- One condition for each entry that names no policy, in the order of the entries. -/
  conditions_eq : conditions =
    (spec.policies.byName.filter fun ref => ∀ pol ∈ policies, pol.name ≠ ref.name).map
      (fun ref => missingMember ref.name) ++ selectorConditions spec

/-! ## The member of one policy -/

variable {refs : List PolicyRef} {name : String} {m : EffectiveMember} {policies : List Policy}

omit [Apimachinery] in
theorem lastRef_eq_none_iff : lastRef refs name = none ↔ ∀ r ∈ refs, r.name ≠ name := by
  simp [lastRef]

omit [Apimachinery] in
theorem lastRef_eq_some_iff {ref : PolicyRef} :
    lastRef refs name = some ref ↔ LastNaming refs name ref := by
  rw [lastRef, List.find?_eq_some_iff_append]
  constructor
  · intro h
    obtain ⟨hname, after, before, hrefs, hafter⟩ := h
    refine ⟨before.reverse, after.reverse, ?_, by simpa using hname, ?_⟩
    · have hreverse := congrArg List.reverse hrefs
      simpa using hreverse
    · simpa using hafter
  · intro h
    obtain ⟨before, after, hrefs, hname, hafter⟩ := h
    refine ⟨by simpa using hname, after.reverse, before.reverse, ?_, ?_⟩
    · simp [hrefs]
    · simpa using hafter

variable {spec : PolicyGroupSpec} {pol : Policy}

theorem selects_iff : selects spec pol = true ↔ SelectorMatches spec pol.labels := by
  unfold selects SelectorMatches
  cases hby : spec.policies.bySelector with
  | none => simp
  | some bySelector =>
    cases hparse : Apimachinery.labelSelectorAsSelector bySelector <;> simp [hparse]

theorem memberOf_eq_some_iff : memberOf spec pol = some m ↔ BecomesMember spec pol m := by
  unfold memberOf
  constructor
  · intro h
    cases hlast : lastRef spec.policies.byName pol.name with
    | some ref =>
      rw [hlast] at h
      cases h
      exact .byName (lastRef_eq_some_iff.mp hlast)
    | none =>
      rw [hlast] at h
      by_cases hselects : selects spec pol = true
      · rw [if_pos hselects] at h
        cases h
        exact .bySelector (lastRef_eq_none_iff.mp hlast) (selects_iff.mp hselects)
      · rw [if_neg hselects] at h
        cases h
  · intro h
    cases h with
    | byName hlast => rw [lastRef_eq_some_iff.mpr hlast]
    | bySelector hunnamed hmatches =>
      rw [lastRef_eq_none_iff.mpr hunnamed, if_pos (selects_iff.mpr hmatches)]

theorem BecomesMember.name_eq (h : BecomesMember spec pol m) : m.name = pol.name := by
  cases h <;> rfl

/-! ## The result -/

variable (spec : PolicyGroupSpec)

theorem mem_resolve_iff_becomes (hnodup : (policies.map fun p => p.name).Nodup)
    (m : EffectiveMember) :
    m ∈ (resolve spec policies).1 ↔
      ∃ pol ∈ policies, pol.name ∉ spec.policies.exclude ∧ BecomesMember spec pol m := by
  rw [mem_resolve_iff spec hnodup, getElem?_resolvedMembers spec hnodup]
  constructor
  · intro h
    split at h
    · cases h
    · rename_i hexclude
      obtain ⟨pol, hfind, hmember⟩ := Option.bind_eq_some_iff.mp h
      have hname : pol.name = m.name := by simpa using List.find?_some hfind
      exact ⟨pol, List.mem_of_find?_eq_some hfind, hname ▸ hexclude,
        memberOf_eq_some_iff.mp hmember⟩
  · intro ⟨pol, hpol, hexclude, hmember⟩
    have hname := hmember.name_eq
    have hfind : policies.find? (fun p => p.name = pol.name) = some pol :=
      Table.lookup_of_mem hnodup hpol
    rw [if_neg (hname ▸ hexclude), hname, hfind]
    exact memberOf_eq_some_iff.mpr hmember

theorem increasing_resolve (hnodup : (policies.map fun p => p.name).Nodup) :
    (resolve spec policies).1.Pairwise fun m m' => m.name < m'.name := by
  have hkeys := keys_pairwise_lt (resolvedMembers spec policies).1
  rw [← names_resolve spec hnodup, List.pairwise_map] at hkeys
  exact hkeys

theorem conditions_resolve (policies : List Policy) :
    (resolve spec policies).2 =
      (spec.policies.byName.filter fun ref => ∀ pol ∈ policies, pol.name ≠ ref.name).map
        (fun ref => missingMember ref.name) ++ selectorConditions spec := by
  show (resolvedMembers spec policies).2 = _
  rw [resolvedMembers_conditions]
  simp only [isNone_getElem?_indexBy]
  rfl

/-- `Resolve` returns the resolution of the group, and there is no other. -/
theorem resolution_iff (spec : PolicyGroupSpec) {policies : List Policy}
    (hnodup : (policies.map fun p => p.name).Nodup) (members : List EffectiveMember)
    (conditions : List Condition) :
    Resolution spec policies members conditions ↔
      resolve spec policies = (members, conditions) := by
  have hmem := mem_resolve_iff_becomes spec hnodup
  have hincreasing := increasing_resolve spec hnodup
  have hconditions := conditions_resolve spec policies
  constructor
  · intro h
    have : Std.Irrefl fun m m' : EffectiveMember => m.name < m'.name := ⟨fun m => lt_irrefl m.name⟩
    have : Std.Antisymm fun m m' : EffectiveMember => m.name < m'.name :=
      ⟨fun m m' hlt hgt => absurd hlt (lt_asymm hgt)⟩
    have hmembers : (resolve spec policies).1 = members :=
      hincreasing.eq_of_mem_iff h.increasing fun m => (hmem m).trans (h.mem_iff m).symm
    exact Prod.ext hmembers (hconditions.trans h.conditions_eq.symm)
  · intro h
    rw [h] at hmem hincreasing hconditions
    exact ⟨hmem, hincreasing, hconditions⟩

end

attribute [local instance] Apimachinery.basic

/-- A policy that is named twice, one that is selected, one that is excluded and a name without
a policy. -/
theorem resolution_iff_mixed :
    Resolution
      { policies :=
          { byName := [⟨"b", .audit⟩, ⟨"gone", .unset⟩, ⟨"b", .unset⟩]
            bySelector := some { matchLabels := .ofList [("tier", "1")] }
            exclude := ["c"] }
        selectorEnforcementMode := .audit }
      [{ name := "c", labels := .ofList [("tier", "1")] },
        { name := "b", spec := { enforcementMode := .enforce } },
        { name := "a", labels := .ofList [("tier", "1")] }]
      [⟨"a", .audit, .bySelector⟩, ⟨"b", .enforce, .byName⟩] [missingMember "gone"] :=
  (resolution_iff _ (by decide) _ _).mpr (by decide +kernel)

end KubeSentry.GroupResolve
