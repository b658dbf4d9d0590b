import KubeSentry.Console.ExceptionService

/-!
# The distribution service

The operations of `internal/console/service/distribution.go` that write.  They work on every
row of `policy_distributions`, so the scopes that belong to a group or an exception can be
changed through them too.
-/

namespace KubeSentry.Console.DistributionService

open GoLib Fallible Database

def defaultDistributionName : String := "default"

/-- `dto.DistributionInput`. -/
structure DistributionInput where
  name : String := ""
  spec : Gateway.PolicyDistributionSpec := {}
  resourceVersion : String := ""

/-! ## Checks -/

def validateDistributionRequest [NameValidation] (req : DistributionInput) (create : Bool) :
    Except ServiceError Unit := do
  if create then
    let errs := NameValidation.isDNS1123Subdomain req.name
    if errs ≠ [] then
      throw (.validation ("invalid name: " ++ "; ".intercalate errs))
  if "" ∈ req.spec.policyGroups then
    throw (.validation "policyGroups entries must not be empty")

def visibleDistribution (actor : Principal) (name : String) :
    RepoProg (Stored DistributionColumns) :=
  visibleIn actor (fun d : DistributionColumns => d.owner) (fun d => d.name) listDistributions name

section

variable [GoUnicode]

/-- One round of the loop over the clusters. -/
def validateTenantCluster (tenant : Nat) (name : String) : ServiceProg Unit := do
  let _ ← (getClusterByNameForTenant tenant name).mapError fun err =>
    if err.reason = .recordNotFound then
      .validation ("target cluster " ++ quote name ++ " is not assigned to the tenant")
    else .database err
  return ()

variable (actor : Principal)

def validateTenantGroup (name : String) : ServiceProg Unit := do
  let _ ← (PolicyGroupService.visibleGroup actor name).mapError fun _ =>
    .validation ("policy group " ++ quote name ++ " is not visible to the tenant")
  return ()

def validateTenantException (name : String) : ServiceProg Unit := do
  let _ ← (ExceptionService.visibleException actor name).mapError fun _ =>
    .validation ("policy exception " ++ quote name ++ " is not visible to the tenant")
  return ()

def validateTenantTargets (spec : Gateway.PolicyDistributionSpec) : ServiceProg Unit :=
  match actor with
  | .tenantAdmin tenant => do
    refuseIf (spec.clusters.clusterSelector.isSome)
      (.validation "tenant distributions must select clusters by name")
    Fallible.forEach (validateTenantCluster tenant)
      (spec.clusters.byName ++ spec.overrides.map fun o => o.cluster)
    Fallible.forEach (validateTenantGroup actor) spec.policyGroups
    Fallible.forEach (validateTenantException actor) spec.policyExceptions
  | _ => return ()

theorem readOnly_validateTenantTargets
    (spec : Gateway.PolicyDistributionSpec) : (validateTenantTargets actor spec).ReadOnly := by
  unfold validateTenantTargets
  split
  · refine readOnly_try (readOnly_refuseIf _ _) fun _ => ?_
    refine readOnly_try (readOnly_forEach fun name => ?_) fun _ => ?_
    · exact readOnly_try
        (readOnly_mapError readOnly_within_query) fun _ => trivial
    refine readOnly_try (readOnly_forEach fun name => ?_) fun _ => ?_
    · exact readOnly_try (readOnly_mapError (PolicyGroupService.readOnly_visibleGroup _ name))
        fun _ => trivial
    refine readOnly_forEach fun name => ?_
    exact readOnly_try (readOnly_mapError (readOnly_visibleIn _ _ _ _ readOnly_within_query))
      fun _ => trivial
  · exact trivial

/-! ## Operations -/

def createError (name : String) (err : DbError) : ServiceError :=
  if err.reason = .uniqueViolation then
    .conflict ("policydistribution " ++ name ++ " already exists")
  else wrapped "create policydistribution: " err

def updateError (err : DbError) : ServiceError :=
  if err.reason = .conflict then
    .conflict "policydistribution has been modified, refresh and retry"
  else wrapped "update policydistribution: " err

def create [NameValidation] (req : DistributionInput) : ServiceProg Unit := do
  ofExcept actor.requireEditor
  ofExcept (validateDistributionRequest req true)
  validateTenantTargets actor req.spec
  (createDistribution { name := req.name, owner := actor.owner, spec := req.spec }).mapError
    (createError req.name)

def update [NameValidation] (name : String) (req : DistributionInput) :
    ServiceProg Unit := do
  ofExcept (validateDistributionRequest req false)
  let d ← (visibleDistribution actor name).mapError (notFoundOr "")
  ofExcept (actor.authorizeOwner d.row.owner)
  validateTenantTargets actor req.spec
  refuseIf (req.resourceVersion ≠ "" ∧ req.resourceVersion ≠ resourceVersion d)
    (.conflict "policydistribution has been modified, refresh and retry")
  (updateDistributionCAS d.id d.updatedAt req.spec).mapError updateError

end

def delete (actor : Principal) (name : String) : ServiceProg Unit := do
  let d ← (visibleDistribution actor name).mapError (notFoundOr "")
  ofExcept (actor.authorizeOwner d.row.owner)
  refuseIf (d.row.name = defaultDistributionName)
    (.conflict "default policy distribution cannot be deleted")
  (deleteDistribution d.id).mapError (wrapped "delete policydistribution: ")

end KubeSentry.Console.DistributionService
