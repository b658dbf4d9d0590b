import KubeSentry.Operator.GroupReconciler
import KubeSentry.ResolveSpec
import Mathlib.Data.List.Dedup

/-!
# The watch on policies

The policy group controller also watches policies.  Its map function turns a policy into
requests for the groups that may have to be resolved again, by a test of its own:
`referencesPolicy` looks at `byName` and at the selector and ignores `exclude`, and a group
whose status lists the policy is requested as well.

The test is not the one of `Resolve`, but it is wide enough: a policy that a group does not
reference can come, go or change without effect on what the group resolves to.
-/

namespace KubeSentry.Operator.GroupReconciler

open GroupResolve

section

variable [Apimachinery]

/-! ## The code -/

def referencesPolicy (g : PolicyGroupObject) (pol : Policy) : Bool :=
  g.spec.policies.byName.any (fun ref => ref.name = pol.name) || selects g.spec pol

/-- `findGroupsReferencing`, with the answer of its list call. -/
def findGroupsReferencing (groups : ApiResult (List PolicyGroupObject)) (pol : Policy) :
    List String :=
  match groups with
  | .error _ => []
  | .ok groups =>
    (groups.filter fun g =>
      referencesPolicy g pol || g.status.resolvedPolicies.any (fun m => m.name = pol.name)).map
        fun g => g.name

/-- An event of the watch on policies. -/
inductive PolicyEvent where
  | create (new : Policy)
  | update (old new : Policy)
  | delete (old : Policy)

/-- `handler.EnqueueRequestsFromMapFunc`: an update maps the old object and the new one.  The
handler leaves out repeated requests. -/
def enqueueRequests (groups : ApiResult (List PolicyGroupObject)) : PolicyEvent → List String
  | .create new => findGroupsReferencing groups new
  | .update old new =>
    (findGroupsReferencing groups old ++ findGroupsReferencing groups new).dedup
  | .delete old => findGroupsReferencing groups old

/-! ## Changes of one policy -/

/-- What the event says about the policies before and after it.  Lists come in any order. -/
def PolicyEvent.Changes (before after : List Policy) : PolicyEvent → Prop
  | .create new => after.Perm (new :: before)
  | .update old new =>
    new.name = old.name ∧ ∃ rest, before.Perm (old :: rest) ∧ after.Perm (new :: rest)
  | .delete old => before.Perm (old :: after)

variable {g : PolicyGroupObject} {pol : Policy}

section

variable (h : referencesPolicy g pol = false)

include h

theorem not_named_of_unreferenced : ∀ ref ∈ g.spec.policies.byName, ref.name ≠ pol.name := by
  intro ref href hname
  have hany := (Bool.or_eq_false_iff.mp h).1
  exact List.any_eq_false.mp hany ref href (by simpa using hname)

theorem not_becomesMember_of_unreferenced (m : EffectiveMember) : ¬ BecomesMember g.spec pol m := by
  intro hmember
  cases hmember with
  | byName hlast =>
    obtain ⟨before, after, hrefs, hname, _⟩ := hlast
    exact not_named_of_unreferenced h _ (by simp [hrefs]) hname
  | bySelector _ hmatches =>
    have hselects := (Bool.or_eq_false_iff.mp h).2
    rw [selects_iff.mpr hmatches] at hselects
    cases hselects

/-- A policy that the group does not reference has no part in the result. -/
theorem resolve_unreferenced {rest policies : List Policy} (hperm : policies.Perm (pol :: rest))
    (hnodup : (policies.map fun p => p.name).Nodup) :
    resolve g.spec policies = resolve g.spec rest := by
  have hmem : ∀ q, q ∈ policies ↔ q = pol ∨ q ∈ rest := fun q => by
    rw [hperm.mem_iff, List.mem_cons]
  have hrest : (rest.map fun p => p.name).Nodup := by
    have hcons := (hperm.map fun p : Policy => p.name).nodup_iff.mp hnodup
    exact (List.nodup_cons.mp hcons).2
  have hresolution := (resolution_iff g.spec hrest _ _).mpr rfl
  refine (resolution_iff g.spec hnodup _ _).mp ⟨fun m => ?_, hresolution.increasing, ?_⟩
  · rw [hresolution.mem_iff m]
    constructor
    · intro ⟨q, hq, hexclude, hmember⟩
      exact ⟨q, (hmem q).mpr (.inr hq), hexclude, hmember⟩
    · intro ⟨q, hq, hexclude, hmember⟩
      rcases (hmem q).mp hq with hpol | hq
      · rw [hpol] at hmember
        exact absurd hmember (not_becomesMember_of_unreferenced h m)
      · exact ⟨q, hq, hexclude, hmember⟩
  · rw [hresolution.conditions_eq]
    congr 2
    refine List.filter_congr fun ref href => ?_
    have hpol := not_named_of_unreferenced h ref href
    rw [Bool.eq_iff_iff, decide_eq_true_eq, decide_eq_true_eq]
    constructor
    · intro hnone q hq
      rcases (hmem q).mp hq with heq | hq
      · rw [heq]
        exact hpol.symm
      · exact hnone q hq
    · intro hnone q hq
      exact hnone q ((hmem q).mpr (.inr hq))

end

theorem mem_findGroupsReferencing {groups : List PolicyGroupObject} (hg : g ∈ groups)
    (h : referencesPolicy g pol = true) : g.name ∈ findGroupsReferencing (.ok groups) pol := by
  refine List.mem_map.mpr ⟨g, List.mem_filter.mpr ⟨hg, ?_⟩, rfl⟩
  rw [h, Bool.true_or]

/-- A group whose resolution changes with a policy is requested. -/
theorem watch_mapping_complete {groups : List PolicyGroupObject} {g : PolicyGroupObject}
    (hg : g ∈ groups) (before after : List Policy) {event : PolicyEvent}
    (hbefore : (before.map fun p => p.name).Nodup) (hafter : (after.map fun p => p.name).Nodup)
    (hchanges : event.Changes before after)
    (hdiffers : resolve g.spec before ≠ resolve g.spec after) :
    g.name ∈ enqueueRequests (.ok groups) event := by
  cases event with
  | create new =>
    refine mem_findGroupsReferencing hg ?_
    by_contra h
    exact hdiffers (resolve_unreferenced (by simpa using h) hchanges hafter).symm
  | delete old =>
    refine mem_findGroupsReferencing hg ?_
    by_contra h
    exact hdiffers (resolve_unreferenced (by simpa using h) hchanges hbefore)
  | update old new =>
    obtain ⟨_, rest, hold, hnew⟩ := hchanges
    simp only [enqueueRequests, List.mem_dedup, List.mem_append]
    by_contra h
    obtain ⟨hnotOld, hnotNew⟩ := not_or.mp h
    have hold' : referencesPolicy g old = false := by
      by_contra href
      exact hnotOld (mem_findGroupsReferencing hg (by simpa using href))
    have hnew' : referencesPolicy g new = false := by
      by_contra href
      exact hnotNew (mem_findGroupsReferencing hg (by simpa using href))
    exact hdiffers ((resolve_unreferenced hold' hold hbefore).trans
      (resolve_unreferenced hnew' hnew hafter).symm)

end

attribute [local instance] Apimachinery.basic

/-- A label that is added makes a policy a member. -/
theorem watch_mapping_complete_label : let g : PolicyGroupObject :=
      { name := "g"
        spec := { policies := { bySelector := some { matchLabels := .ofList [("tier", "1")] } } } }
    let old : Policy := { name := "p", spec := .auditPods "package kubesentry" }
    let new := { old with labels := .ofList [("tier", "1")] }
    g.name ∈ enqueueRequests (.ok [g]) (.update old new) :=
  watch_mapping_complete (List.mem_singleton_self _) [_] [_] (by decide) (by decide)
    ⟨rfl, [], .refl _, .refl _⟩ (by decide +kernel)

end KubeSentry.Operator.GroupReconciler
