import KubeSentry.Console.PolicyService

/-!
# The policy group service

The operations of `internal/console/service/policygroup.go` that write.  A group has a
managed row in `policy_distributions`, its scope, which says to which clusters the group
goes.  Every operation writes the group first and then, in a second step, its scope.

`Create`, `Update` and `Delete` are cut there: `createRow`, `updateRow` and `deleteRow` end
with the write of the group and return its owner.  `Create` and `Update` hold the policy
reference lock (`lockedCreate`, `lockedUpdate`); `SetEnabled` and `Delete` do not.

`saveScope` and `deleteScopeRow` serve the exceptions too, whose scopes differ in the kind
and the name of the row.
-/

namespace KubeSentry.Console

open GoLib Fallible Database GroupResolve

/-- The tenant of a tenant administrator. -/
def Principal.adminTenant : Principal → Option Nat
  | .tenantAdmin tenant => some tenant
  | _ => none

/-- `tenant_id`. -/
def Owner.tenantID : Owner → Option Nat
  | .system => none
  | .tenant id => some id

/-- `GetByName`, or `GetByNameForTenant`. -/
def getTargetCluster [GoUnicode] (tenant : Option Nat) (name : String) : RepoProg ClusterRecord :=
  match tenant with
  | none => getClusterByName name
  | some tenant => getClusterByNameForTenant tenant name

/-! ## Scopes -/

/-- The row is the scope of what has the kind and the name, with the same owner. -/
def isScopeOf (kind : ScopeOwnerType) (name : String) (owner : Owner) (d : DistributionColumns) :
    Bool :=
  d.managed && d.ownerType = kind && d.ownerName = name && d.owner = owner

/-- The end of `syncScope` and of `syncExceptionScope`. -/
def saveScope (kind : ScopeOwnerType) (rowName name : String) (owner : Owner)
    (spec : Gateway.PolicyDistributionSpec) : RepoProg Unit := do
  let distributions ← listDistributions
  match distributions.find? fun d => isScopeOf kind name owner d.row with
  | some d => updateDistribution { d with row := { d.row with spec := spec } }
  | none =>
    createDistribution
      { name := rowName
        owner := owner
        managed := true
        ownerType := kind
        ownerName := name
        spec := spec }

/-- `deleteScope` and `deleteExceptionScope`. -/
def deleteScopeRow (kind : ScopeOwnerType) (name : String) (owner : Owner) : RepoProg Unit := do
  let distributions ← listDistributions
  match distributions.find? fun d => isScopeOf kind name owner d.row with
  | some d => deleteDistribution d.id
  | none => return ()

namespace PolicyGroupService

def defaultGroupName : String := "default"

/-! ## Requests -/

structure PolicyRefInput where
  name : String
  enforcementMode : Option EnforcementMode := none

structure PolicyGroupPoliciesInput where
  byName : List PolicyRefInput := []
  bySelector : Option LabelSelector := none
  exclude : List String := []

/-- `dto.PolicyGroupInput`. -/
structure PolicyGroupInput where
  displayName : Option String := none
  description : Option String := none
  enabled : Bool := false
  namespaceSelector : Option LabelSelector := none
  policies : PolicyGroupPoliciesInput := {}
  selectorEnforcementMode : Option EnforcementMode := none
  name : Option String := none
  resourceVersion : Option String := none
  allClusters : Option Bool := none
  clusterNames : List String := []

def groupSpec (req : PolicyGroupInput) : PolicyGroupSpec :=
  { displayName := req.displayName.getD ""
    description := req.description.getD ""
    enabled := req.enabled
    namespaceSelector := req.namespaceSelector
    policies :=
      { byName := req.policies.byName.map fun ref =>
          { name := ref.name, enforcementMode := ref.enforcementMode.getD .unset }
        bySelector := req.policies.bySelector
        exclude := req.policies.exclude }
    selectorEnforcementMode := req.selectorEnforcementMode.getD .unset }

/-! ## Checks -/

/-- The loop over the excluded names. -/
def validateExclude (exclude : List String) : Except ServiceError Unit :=
  if exclude.any fun name => trimSpace name = "" then
    .error (.validation "excluded policy name must not be empty")
  else .ok ()

def validatePolicyGroupScope (all : Bool) (names : List String) : Except ServiceError Unit :=
  if all ∧ names ≠ [] then
    .error (.validation "clusterNames must be empty when allClusters is true")
  else if !all ∧ names = [] then
    .error (.validation "clusterNames is required when allClusters is false")
  else .ok ()

section

variable [GoUnicode]

def policyGroupIssues (conditions : List Condition) : List String :=
  conditions.map fun condition =>
    match condition.type with
    | .missingMember => "policy " ++ quote condition.message ++ " does not exist"
    | .invalidSelector => "invalid policy selector: " ++ condition.message

def validatePolicyGroupMembers [Apimachinery] (spec : PolicyGroupSpec) (policies : List Policy) :
    Except ServiceError Unit :=
  let issues := policyGroupIssues (resolve spec policies).2
  if issues ≠ [] then .error (.validation ("; ".intercalate issues)) else .ok ()

def validateMembers [Apimachinery] (spec : PolicyGroupSpec) : ServiceProg Unit := do
  let policies ← listPolicies.mapError .database
  ofExcept (validatePolicyGroupMembers spec (policyList policies))

/-- One round of `validateGroupClusterTargets`. -/
def validateGroupClusterTarget (actor : Principal) (name : String) : ServiceProg Unit := do
  let cluster ← (getTargetCluster actor.adminTenant name).mapError fun err =>
    if err.reason = .recordNotFound then
      .validation ("target cluster " ++ quote name ++ " is not available")
    else .database err
  refuseIf (cluster.phase = .uninstalled)
    (.validation ("target cluster " ++ quote name ++ " is uninstalled"))

def validateGroupClusterTargets (actor : Principal) (names : List String) : ServiceProg Unit :=
  Fallible.forEach (validateGroupClusterTarget actor) names

end

section

variable [GoUnicode]

theorem readOnly_getTargetCluster (tenant : Option Nat) (name : String) :
    (getTargetCluster tenant name).ReadOnly := by
  cases tenant with
  | none => exact readOnly_within_query
  | some tenant => exact readOnly_within_query

theorem readOnly_validateMembers [Apimachinery] (spec : PolicyGroupSpec) :
    (validateMembers spec).ReadOnly :=
  readOnly_try (readOnly_mapError readOnly_within_query) fun _ =>
    readOnly_ofExcept _

theorem readOnly_validateGroupClusterTargets (actor : Principal) (names : List String) :
    (validateGroupClusterTargets actor names).ReadOnly :=
  readOnly_forEach fun name =>
    readOnly_try (readOnly_mapError (readOnly_getTargetCluster _ name)) fun _ =>
      readOnly_refuseIf _ _

end

variable (actor : Principal)

def visibleGroup (name : String) : RepoProg (Stored GroupRow) :=
  visibleIn actor (fun g : GroupRow => g.owner) (fun g => g.name) listGroups name

theorem readOnly_visibleGroup (name : String) : (visibleGroup actor name).ReadOnly :=
  readOnly_visibleIn _ _ _ _ readOnly_within_query

/-! ## The scope of a group -/

/-- The clusters by name, or `none` for all clusters. -/
def scopeTargets (owner : Owner) (all : Bool) (names : List String) :
    ServiceProg (Option (List String)) :=
  match owner with
  | .system => return if all then none else some names
  | .tenant tenant => do
    let clusters ← (listClustersForTenant tenant).mapError .database
    return some (if all then clusters.map fun c => c.name else names)

/-- One round of the loop over the names. -/
def checkScopeTarget [GoUnicode] (owner : Owner) (name : String) : ServiceProg Unit := do
  let cluster ← (getTargetCluster (Owner.tenantID owner) name).mapError .database
  refuseIf (cluster.phase = .uninstalled)
    (.other ("target cluster " ++ quote name ++ " is uninstalled"))

def checkScopeTargets [GoUnicode] (owner : Owner) : Option (List String) → ServiceProg Unit
  | none => return ()
  | some names => do
    refuseIf (names = [])
      (.validation "clusterNames is required when allClusters is false")
    Fallible.forEach (checkScopeTarget owner) names

theorem readOnly_scopeTargets (owner : Owner) (all : Bool) (names : List String) :
    (scopeTargets owner all names).ReadOnly := by
  cases owner with
  | system => exact trivial
  | tenant tenant =>
    exact readOnly_try (readOnly_mapError readOnly_within_query) fun _ => trivial

theorem readOnly_checkScopeTargets [GoUnicode] (owner : Owner) (targets : Option (List String)) :
    (checkScopeTargets owner targets).ReadOnly := by
  cases targets with
  | none => exact trivial
  | some names =>
    refine readOnly_try (readOnly_refuseIf _ _) fun _ => ?_
    refine readOnly_forEach fun name => ?_
    exact readOnly_try (readOnly_mapError (readOnly_getTargetCluster _ _))
      fun _ => readOnly_refuseIf _ _

def scopeSpec (name : String) (targets : Option (List String)) : Gateway.PolicyDistributionSpec :=
  { clusters := match targets with
      | none => { clusterSelector := some {} }
      | some names => { byName := names }
    policyGroups := [name] }

def syncScope [GoUnicode] (name : String) (owner : Owner) (all : Bool) (names : List String) :
    ServiceProg Unit := do
  let targets ← scopeTargets owner all names
  checkScopeTargets owner targets
  (saveScope .policyGroup ("scope-group-" ++ GoUnicode.toLower name) name owner
    (scopeSpec name targets)).mapError .database

def deleteScope (name : String) (owner : Owner) : ServiceProg Unit :=
  (deleteScopeRow .policyGroup name owner).mapError .database

/-! ## Operations -/

section

variable [GoUnicode] [Apimachinery]

def createError (name : String) (err : DbError) : ServiceError :=
  if err.reason = .uniqueViolation then .conflict ("policygroup " ++ name ++ " already exists")
  else .database err

variable (actor : Principal)

/-- `create` up to the new row. -/
def createRow [NameValidation] (req : PolicyGroupInput) :
    ServiceProg Owner := do
  ofExcept actor.requireEditor
  let name := req.name.getD ""
  let errs := NameValidation.isDNS1123Subdomain name
  refuseIf (errs ≠ []) (.validation ("invalid name: " ++ "; ".intercalate errs))
  refuseIf (name = defaultGroupName)
    (.validation "default policy group cannot be created")
  ofExcept (validateExclude req.policies.exclude)
  let spec := groupSpec req
  validateMembers spec
  ofExcept (validatePolicyGroupScope (req.allClusters.getD false) req.clusterNames)
  validateGroupClusterTargets actor req.clusterNames
  (createGroup { owner := actor.owner, name := name, spec := spec }).mapError (createError name)
  return actor.owner

def create [NameValidation] (req : PolicyGroupInput) : ServiceProg Unit := do
  let owner ← createRow actor req
  syncScope (req.name.getD "") owner (req.allClusters.getD false) req.clusterNames

/-- The scope that a request for an update asks for. -/
def requestedScope (name : String) (req : PolicyGroupInput) : Except ServiceError Bool :=
  if name = defaultGroupName then
    if req.allClusters = some false ∨ req.clusterNames ≠ [] then .error .defaultPolicyGroupScope
    else .ok true
  else do
    validatePolicyGroupScope (req.allClusters.getD false) req.clusterNames
    return req.allClusters.getD false

/-- `update` up to the write of the row. -/
def updateRow (name : String) (req : PolicyGroupInput) :
    ServiceProg Owner := do
  ofExcept (validateExclude req.policies.exclude)
  let _ ← ofExcept (requestedScope name req)
  validateGroupClusterTargets actor req.clusterNames
  let g ← (visibleGroup actor name).mapError (notFoundOr "")
  ofExcept (actor.authorizeOwner g.row.owner)
  refuseIf (outdated req.resourceVersion g)
    (.conflict "policygroup has been modified, refresh and retry")
  let spec :=
    if name = defaultGroupName then
      { groupSpec req with displayName := g.row.spec.displayName }
    else groupSpec req
  validateMembers spec
  (updateGroupCAS g.id g.updatedAt spec).mapError .database
  return g.row.owner

def update (name : String) (req : PolicyGroupInput) : ServiceProg Unit := do
  let owner ← updateRow actor name req
  syncScope name owner (name = defaultGroupName || req.allClusters.getD false) req.clusterNames

def lockedCreate [NameValidation] (req : PolicyGroupInput) : ServiceProg Unit :=
  withPolicyReferenceLock (create actor req)

def lockedUpdate (name : String) (req : PolicyGroupInput) : ServiceProg Unit :=
  withPolicyReferenceLock (update actor name req)

end

def setEnabled (name : String) (enabled : Bool) : ServiceProg Unit := do
  let g ← (visibleGroup actor name).mapError (notFoundOr "")
  ofExcept (actor.authorizeOwner g.row.owner)
  if g.row.spec.enabled = enabled then
    return ()
  else
    (updateGroupCAS g.id g.updatedAt { g.row.spec with enabled := enabled }).mapError .database

/-- `Delete` up to the deletion of the row. -/
def deleteRow (name : String) : ServiceProg Owner := do
  refuseIf (name = defaultGroupName) (.other "default policy group cannot be deleted")
  let g ← (visibleGroup actor name).mapError (notFoundOr "")
  ofExcept (actor.authorizeOwner g.row.owner)
  (deleteGroup g.id).mapError .database
  return g.row.owner

def delete (name : String) : ServiceProg Unit := do
  let owner ← deleteRow actor name
  deleteScope name owner

/-! ## The frame of the scope -/

variable {rely : ConsoleState → ConsoleState → Prop} {ok : ConsoleState → DbInput → Prop}
  {does : ConsoleState → ConsoleState → Prop} {P : ConsoleState → Prop} (hrefl : ∀ s, does s s)
  (hdoes : ∀ s distributions, does s { s with distributions := distributions })
  (hrely : ∀ s s', P s → rely s s' → P s')
  (hP : ∀ s distributions, P s → P { s with distributions := distributions })

include hrefl hrely hdoes hP

variable {s0 : ConsoleState} {name : String} {owner : Owner}

/-- A statement that writes `policy_distributions` only. -/
theorem ensures_writeDistributions
    {f : ConsoleState → Nat → Except DbError (RowStore distributionKeys)} (h : P s0) :
    Fallible.Ensures rely ok does (fun s _ => P s) (fun s _ => P s) s0 (execute fun s elapsed => do
        let distributions ← f s elapsed
        return ({ s with distributions := distributions }, ())) := by
  refine ensures_execute hrefl ?_ (fun s _ _ hs _ => hrely _ _ h hs)
  intro s i s' a hs _ hwrite
  cases hf : f s i.first.elapsed with
  | error e =>
    rw [hf] at hwrite
    cases hwrite
  | ok distributions =>
    rw [hf] at hwrite
    cases hwrite
    exact ⟨hdoes s distributions, hP _ _ (hrely _ _ h hs)⟩

theorem ensures_saveScope {kind : ScopeOwnerType} {rowName : String}
    {spec : Gateway.PolicyDistributionSpec} (h : P s0) :
    Fallible.Ensures rely ok does (fun s _ => P s) (fun s _ => P s) s0
      (saveScope kind rowName name owner spec) := by
  refine ensures_try (ensures_readOnly hrefl hrely readOnly_within_query h) ?_
  intro s distributions hs
  split
  · exact ensures_writeDistributions hrefl hdoes hrely hP hs
  · exact ensures_writeDistributions hrefl hdoes hrely hP hs

theorem ensures_deleteScopeRow {kind : ScopeOwnerType} (h : P s0) :
    Fallible.Ensures rely ok does (fun s _ => P s) (fun s _ => P s) s0
      (deleteScopeRow kind name owner) := by
  refine ensures_try (ensures_readOnly hrefl hrely readOnly_within_query h) ?_
  intro s distributions hs
  split
  · refine ensures_execute hrefl ?_ (fun s' _ _ hs' _ => hrely _ _ hs hs')
    intro s' i s'' a hs' _ hwrite
    cases hwrite
    exact ⟨hdoes _ _, hP _ _ (hrely _ _ hs hs')⟩
  · exact hs

theorem ensures_syncScope [GoUnicode] {all : Bool} {names : List String} (h : P s0) :
    Fallible.Ensures rely ok does (fun s _ => P s) (fun s _ => P s) s0
      (syncScope name owner all names) := by
  refine ensures_try (ensures_readOnly hrefl hrely (readOnly_scopeTargets _ _ _) h) ?_
  intro s targets hs
  refine ensures_try (ensures_readOnly hrefl hrely (readOnly_checkScopeTargets _ _) hs) ?_
  intro s' _ hs'
  exact ensures_mapError (ensures_saveScope hrefl hdoes hrely hP hs')

end PolicyGroupService

end KubeSentry.Console
