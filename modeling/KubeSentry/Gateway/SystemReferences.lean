import KubeSentry.Gateway.RenderOrder
import KubeSentry.Gateway.Tenancy

/-!
# References of system distributions

A distribution of the system lists groups and exceptions by name, and the
names should resolve to rows of the system.  `ResolvesToSystem` says so for a
cluster: whatever a system distribution puts in the snapshot of `renderFor` is
rendered from a system row, and what it contributes does not change with the
rows of tenants.

The theorem has the two halves of `Gateway.Tenancy`, with the rows of all
tenants as the foreign ones.  `contribution_in_snapshot` ties the contribution
of one distribution to the snapshot that it is a part of.
-/

namespace KubeSentry.Gateway

open GoLib Database

/-! ## Objects and their rows -/

/-- The row belongs to the system. -/
def systemOwned : Owner → Bool
  | .system => true
  | .tenant _ => false

theorem systemOwned_iff (o : Owner) : systemOwned o = true ↔ o = .system := by
  cases o <;> simp [systemOwned]

/-- The second database differs from the first in groups and exceptions of
tenants only. -/
structure TenantRowsDiffer (db db' : Tables) : Prop where
  others : db' = { db with groups := db'.groups, exceptions := db'.exceptions }
  groups : db'.groups.filter (fun g => systemOwned g.owner) =
    db.groups.filter fun g => systemOwned g.owner
  exceptions : db'.exceptions.filter (fun e => systemOwned e.owner) =
    db.exceptions.filter fun e => systemOwned e.owner

/-- The object is rendered from the system's group of its name. -/
def FromSystemGroup (db : Tables) (o : ManagedObject) : Prop :=
  ∃ row ∈ db.groups, row.owner = .system ∧ row.name = o.name ∧
    ∃ modes, o = groupObject o.name { src := toV1alpha1Group row, modes := modes }

/-- The object is rendered from the system's exception of its name. -/
def FromSystemException (db : Tables) (o : ManagedObject) : Prop :=
  ∃ row ∈ db.exceptions, row.owner = .system ∧ row.name = o.name ∧
    o = exceptionObject o.name (toV1alpha1Exception row)

theorem mem_readExceptions {repos : Repos} {exceptions : List ExceptionRow} {row : ExceptionRow}
    (h : row ∈ readExceptions repos exceptions) : row ∈ exceptions := by
  unfold readExceptions at h
  split at h
  · exact h
  · exact absurd h List.not_mem_nil

section SystemRows

variable [Apimachinery] [GoUnicode] [Digest]

/-- The groups and exceptions that `renderFor` puts in the snapshot because the
distribution targets the cluster and lists them are rendered from system rows. -/
def FromSystemRows (repos : Repos) (db : Tables) (cluster : String) (d : DistributionRow) : Prop :=
  targets (toGatewayCluster (clusterRow db cluster)) (toGatewayDist d) = true →
    ∀ faults res, renderFor repos faults db cluster = .ok res → ∀ o ∈ res.objects,
      (o.kind = .policyGroup → o.name ∈ d.spec.policyGroups → FromSystemGroup db o) ∧
      (o.kind = .policyException → o.name ∈ d.spec.policyExceptions → FromSystemException db o)

/-- What one distribution contributes to the cluster's snapshot. -/
def contribution (repos : Repos) (db : Tables) (cluster : String) (d : DistributionRow) :
    RenderResult :=
  renderRows (clusterRow db cluster) [d] db.groups db.policies
    (readExceptions repos db.exceptions)

/-- References of system distributions resolve inside the system: to its own
rows, whatever the tenants' rows hold. -/
def ResolvesToSystem (repos : Repos) (db : Tables) (cluster : String) : Prop :=
  ∀ d ∈ db.distributions, d.owner = .system →
    FromSystemRows repos db cluster d ∧
      ∀ db', db'.Valid → TenantRowsDiffer db db' →
        contribution repos db' cluster d = contribution repos db cluster d

variable {repos : Repos} {db : Tables} {cluster : String} {d : DistributionRow}

/-- The contribution of a distribution that the cluster sees is in the snapshot
of `renderFor`. -/
theorem contribution_in_snapshot (hvalid : db.Valid) (hd : d ∈ visibleDistributions db cluster)
    {faults : Faults} {res : RenderResult} (hres : renderFor repos faults db cluster = .ok res)
    {o : ManagedObject} (ho : o ∈ (contribution repos db cluster d).objects) :
    ∃ o' ∈ res.objects, o'.kind = o.kind ∧ o'.name = o.name := by
  rw [renderFor_objects_of_ok hres]
  refine (rendered_rows _ _ _ hvalid.policyNames [d]).objects_grow
    (rendered_rows _ _ _ hvalid.policyNames (visibleDistributions db cluster)) ?_ ho
  intro d' hd'
  rw [List.map_singleton, List.mem_singleton] at hd'
  rw [hd']
  exact List.mem_map_of_mem hd

/-! ## The condition suffices -/

/-- Kept answers give objects from system rows. -/
theorem fromSystemRows_of_answersKept (hvalid : db.Valid)
    (h : AnswersKept systemOwned (clusterRow db cluster) [d] db.groups
      (readExceptions repos db.exceptions)) : FromSystemRows repos db cluster d := by
  intro htargets faults res hres o ho
  rw [renderFor_objects_of_ok hres] at ho
  obtain ⟨hgroups, hexceptions⟩ := h d List.mem_cons_self htargets
  constructor
  · intro hkind hlisted
    obtain ⟨row, hrow, hobject⟩ := renderRows_group_row hvalid.policyNames ho hkind
    obtain ⟨hmem, hname⟩ := mem_of_getElem?_indexBy hrow
    exact ⟨row, hmem, (systemOwned_iff _).mp (hgroups _ hlisted row hrow), hname, hobject⟩
  · intro hkind hlisted
    obtain ⟨row, hrow, hobject⟩ := renderRows_exception_row hvalid.policyNames ho hkind
    obtain ⟨hmem, hname⟩ := mem_of_getElem?_indexBy hrow
    exact ⟨row, mem_readExceptions hmem,
      (systemOwned_iff _).mp (hexceptions _ hlisted row hrow), hname, hobject⟩

theorem TenantRowsDiffer.contribution_eq {db' : Tables} (h : TenantRowsDiffer db db')
    (repos : Repos) (cluster : String) (d : DistributionRow) :
    contribution repos db' cluster d = renderRows (clusterRow db cluster) [d] db'.groups db.policies
        (readExceptions repos db'.exceptions) := by
  rw [contribution, clusterRow, clusterRow, h.others]

/-! ## The condition is necessary -/

/-- A tenant's row can answer for any listed name. -/
theorem referencesNothing_of_contribution_eq (hvalid : db.Valid)
    (h : ∀ db', db'.Valid → TenantRowsDiffer db db' →
      contribution repos db' cluster d = contribution repos db cluster d) :
    ReferencesNothing repos (clusterRow db cluster) [d] := by
  have hkey : ∀ o, systemOwned o = true → o.key ≠ (Owner.tenant 1).key := by
    intro o ho
    rw [(systemOwned_iff o).mp ho]
    decide
  refine referencesNothing_of_shadows hvalid.policyNames (.tenant 1)
    (db.groups.filter fun g => systemOwned g.owner) db.groups
    (db.exceptions.filter fun e => systemOwned e.owner) db.exceptions
    (contribution repos db cluster d).objects ?_ ?_
  · intro n mark
    have hdiffer : TenantRowsDiffer db
        (shadowGroups db systemOwned (shadowGroup (.tenant 1) n mark)) :=
      ⟨rfl, filter_keep_append db.groups rfl, rfl⟩
    rw [← h _ (shadowGroups_valid hvalid _ hkey) hdiffer]
    rfl
  · intro n mark
    have hdiffer : TenantRowsDiffer db
        (shadowExceptions db systemOwned (shadowException (.tenant 1) n mark)) :=
      ⟨rfl, rfl, filter_keep_append db.exceptions rfl⟩
    rw [← h _ (shadowExceptions_valid hvalid _ hkey) hdiffer]
    rfl

/-- References of system distributions resolve inside the system exactly where
no system distribution that targets the cluster references anything by name.
For one system distribution they also do where every listed name is answered
by a system row or by none, and two databases of that kind give it the same
contribution. -/
theorem renderFor_resolvesToSystem (repos : Repos) {db : Tables} (hvalid : db.Valid)
    (cluster : String) :
    (ResolvesToSystem repos db cluster ↔ ReferencesNothing repos (clusterRow db cluster)
        (db.distributions.filter fun d => systemOwned d.owner)) ∧
    ∀ d ∈ db.distributions, d.owner = .system →
      AnswersKept systemOwned (clusterRow db cluster) [d] db.groups
        (readExceptions repos db.exceptions) →
      FromSystemRows repos db cluster d ∧ ∀ db', TenantRowsDiffer db db' →
          AnswersKept systemOwned (clusterRow db cluster) [d] db'.groups
            (readExceptions repos db'.exceptions) →
          contribution repos db' cluster d = contribution repos db cluster d := by
  refine ⟨⟨?_, ?_⟩, ?_⟩
  · intro h d hd htargets
    obtain ⟨hd, howner⟩ := List.mem_filter.mp hd
    have hd' := h d hd ((systemOwned_iff _).mp howner)
    exact referencesNothing_of_contribution_eq hvalid hd'.2 d List.mem_cons_self htargets
  · intro h d hd howner
    have hnothing : ReferencesNothing repos (clusterRow db cluster) [d] := by
      intro d' hd' htargets
      rw [List.mem_singleton.mp hd'] at htargets ⊢
      exact h d (List.mem_filter.mpr ⟨hd, (systemOwned_iff _).mpr howner⟩) htargets
    refine ⟨fromSystemRows_of_answersKept hvalid
      (answersKept_of_referencesNothing hnothing systemOwned _ _), ?_⟩
    intro db' _ hdiffer
    rw [hdiffer.contribution_eq]
    exact renderRows_eq_of_referencesNothing hnothing hvalid.policyNames _ _ _ _
  · intro d _ _ hanswers
    refine ⟨fromSystemRows_of_answersKept hvalid hanswers, ?_⟩
    intro db' hdiffer hanswers'
    rw [hdiffer.contribution_eq]
    exact renderRows_eq_of_answersKept hvalid.policyNames hdiffer.groups
      (filter_readExceptions hdiffer.exceptions) hanswers hanswers'

end SystemRows

attribute [local instance] Apimachinery.basic GoUnicode.ascii Digest.names

def tenantBaseline : GroupRow where
  owner := .tenant 2
  name := "baseline"
  spec := { enabled := true }
  labels := (∅ : Labels).insert "team" "blue"

def systemBaseline : DistributionRow where
  owner := .system
  name := "prod-baseline"
  spec := { clusters := { byName := ["prod"] }, policyGroups := ["baseline"] }

/-- A tenant's group of the same name replaces the system's group in what the
system's distribution contributes. -/
theorem renderFor_resolves_to_tenant : (withTenantGroup tenantBaseline).Valid ∧
      TenantRowsDiffer sharedTables (withTenantGroup tenantBaseline) ∧
      systemBaseline ∈ (withTenantGroup tenantBaseline).distributions ∧
      ¬ FromSystemRows {} (withTenantGroup tenantBaseline) "prod" systemBaseline ∧
      contribution {} (withTenantGroup tenantBaseline) "prod" systemBaseline ≠
        contribution {} sharedTables "prod" systemBaseline := by
  refine ⟨⟨by decide, by decide, by decide, by decide, by decide⟩, ⟨rfl, rfl, rfl⟩,
    by decide, ?_, by decide⟩
  intro h
  obtain ⟨res, hres, hobjects⟩ := renderFor_objects {} (withTenantGroup tenantBaseline) "prod"
  have hobject : groupObject "baseline" { src := toV1alpha1Group tenantBaseline, modes := ∅ } ∈
      res.objects := by
    rw [hobjects]
    decide
  obtain ⟨row, hrow, howner, _, modes, heq⟩ :=
    (h (by decide) _ res hres _ hobject).1 rfl (by decide)
  have hlabels : ∀ row ∈ (withTenantGroup tenantBaseline).groups, row.owner = .system →
      withManaged tenantBaseline.labels ≠ withManaged row.labels := by decide
  exact hlabels row hrow howner (congrArg (fun o : ManagedObject => o.labels) heq)

/-- A tenant's group of another name leaves the contribution alone. -/
theorem renderFor_resolvesToSystem_other_name :
    contribution {} (withTenantGroup { tenantBaseline with name := "private" }) "prod"
        systemBaseline =
      contribution {} sharedTables "prod" systemBaseline := by
  refine ((renderFor_resolvesToSystem {}
    ⟨by decide, by decide, by decide, by decide, by decide⟩ "prod").2 systemBaseline
      (by decide) rfl ?_).2 _ ⟨rfl, rfl, rfl⟩ ?_
  · rw [AnswersKept]
    decide
  · rw [AnswersKept]
    decide

end KubeSentry.Gateway
