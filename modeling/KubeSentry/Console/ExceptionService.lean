import KubeSentry.Console.GroupService

/-!
# The exception service

The operations of `internal/console/service/exception.go` that write.  An exception has a
scope row as a group has, but here both writes are in one transaction, together with the
read that the write rests on.
-/

namespace KubeSentry.Console.ExceptionService

open GoLib Fallible Database

def defaultExceptionName : String := "default-system-namespaces"

/-! ## Requests -/

/-- `dto.ExceptionInput`. -/
structure ExceptionInput where
  policyRefs : List String := []
  policyGroupRefs : List String := []
  allPolicies : Option Bool := none
  matching : PolicyExceptionMatch := {}
  duration : String := ""
  retainAfterExpiry : Option String := none
  reason : String := ""
  name : Option String := none
  resourceVersion : Option String := none
  allClusters : Option Bool := none
  clusterNames : List String := []

def exceptionSpec (r : ExceptionInput) : PolicyExceptionSpec :=
  { policyRefs := r.policyRefs
    policyGroupRefs := r.policyGroupRefs
    allPolicies := r.allPolicies.getD false
    matching := r.matching
    duration := r.duration
    retainAfterExpiry := r.retainAfterExpiry.getD ""
    reason := r.reason }

/-- `mustDuration`: an error counts as zero. -/
def mustDuration (v : String) : Int :=
  match parseDuration v with
  | .ok d => d
  | .error _ => 0

/-! ## Checks -/

/-- How many of the three kinds of target a request names. -/
def targets (req : ExceptionInput) : Nat :=
  (if req.policyRefs ≠ [] then 1 else 0) + (if req.policyGroupRefs ≠ [] then 1 else 0) +
    if req.allPolicies.getD false then 1 else 0

section

variable [GoUnicode]

def validateExceptionRequest [NameValidation] (req : ExceptionInput) (create : Bool) :
    Except ServiceError Unit := do
  if create then
    let errs := NameValidation.isDNS1123Subdomain (req.name.getD "")
    if errs ≠ [] then
      throw (.validation ("invalid name: " ++ "; ".intercalate errs))
  if targets req ≠ 1 then
    throw (.validation "exactly one of policyRefs, policyGroupRefs, allPolicies must be set")
  if ¬ ∃ d ∈ (parseDuration req.duration).toOption, 0 < d then
    throw (.validation
      ("duration must be a positive Go duration (e.g. 24h): " ++ quote req.duration))
  let retain := req.retainAfterExpiry.getD ""
  if retain ≠ "" ∧ ¬ ∃ d ∈ (parseDuration retain).toOption, 0 ≤ d then
    throw (.validation ("retainAfterExpiry must be a non-negative Go duration: " ++ quote retain))
  if trimSpace req.reason = "" then
    throw (.validation "reason is required")
  if req.allClusters.getD false = (req.clusterNames ≠ [] : Bool) then
    throw (.validation "exactly one of allClusters or clusterNames must be set")
  if req.clusterNames.any fun name => trimSpace name = "" then
    throw (.validation "clusterNames entries must not be empty")

variable (actor : Principal)

/-- One round of `validateExceptionScopeTargets`. -/
def validateExceptionScopeTarget (name : String) : ServiceProg Unit := do
  let cluster ← (getTargetCluster actor.adminTenant name).mapError fun err =>
    if err.reason = .recordNotFound then
      .validation ("target cluster " ++ quote name ++ " does not exist")
    else .database (err.wrap ("target cluster " ++ quote name ++ ": "))
  refuseIf (cluster.phase = .uninstalled)
    (.validation ("target cluster " ++ quote name ++ " is uninstalled"))

def validateExceptionScopeTargets (all : Bool) (names : List String) : ServiceProg Unit :=
  if all then return () else Fallible.forEach (validateExceptionScopeTarget actor) names

/-- `exceptionTargetClusters`: all clusters of a tenant administrator are those of the tenant. -/
def exceptionTargetClusters (all : Bool) (names : List String) : ServiceProg (Bool × List String) :=
  match actor.adminTenant, all with
  | some tenant, true => do
    let rows ← (listClustersForTenant tenant).mapError .database
    return (false, rows.map fun c => c.name)
  | _, _ => return (all, names)

/-- One round of `validateGroupRefs`.  Only for a system administrator does the result of the
first read count, and only the other principals make the second. -/
def validateGroupRef (name : String) : ServiceProg Unit :=
  match actor with
  | .systemAdmin => do
    let _ ← (getGroupByName name).mapError fun _ =>
      .validation ("policy group " ++ quote name ++ " does not exist")
    return ()
  | _ => do
    let _ ← (Fallible.attempt (getGroupByName name) : ServiceProg _)
    let _ ← (PolicyGroupService.visibleGroup actor name).mapError fun _ =>
      .validation ("policy group " ++ quote name ++ " is not visible to the tenant")
    return ()

def validateGroupRefs (names : List String) : ServiceProg Unit :=
  Fallible.forEach (validateGroupRef actor) names

theorem readOnly_validateExceptionScopeTargets (all : Bool)
    (names : List String) : (validateExceptionScopeTargets actor all names).ReadOnly := by
  refine readOnly_ite trivial (readOnly_forEach fun name => ?_)
  exact readOnly_try (readOnly_mapError (PolicyGroupService.readOnly_getTargetCluster _ name))
    fun _ => readOnly_refuseIf _ _

theorem readOnly_validateGroupRef (name : String) : (validateGroupRef actor name).ReadOnly := by
  unfold validateGroupRef
  split
  · exact readOnly_try (readOnly_mapError readOnly_within_query) fun _ => trivial
  · refine readOnly_try (readOnly_attempt readOnly_within_query) fun _ => ?_
    exact readOnly_try (readOnly_mapError (PolicyGroupService.readOnly_visibleGroup actor name))
      fun _ => trivial

end

theorem readOnly_exceptionTargetClusters (actor : Principal) (all : Bool) (names : List String) :
    (exceptionTargetClusters actor all names).ReadOnly := by
  unfold exceptionTargetClusters
  split
  · exact readOnly_try (readOnly_mapError readOnly_within_query) fun _ => trivial
  · exact trivial

def visibleException (actor : Principal) (name : String) : RepoProg (Stored ExceptionColumns) :=
  visibleIn actor (fun e : ExceptionColumns => e.owner) (fun e => e.name) listExceptions name

/-! ## The scope of an exception -/

def scopeSpec (name : String) (all : Bool) (names : List String) : Gateway.PolicyDistributionSpec :=
  { clusters := if all then { clusterSelector := some {} } else { byName := names }
    policyExceptions := [name] }

def syncExceptionScope [GoUnicode] (name : String) (owner : Owner) (all : Bool)
    (names : List String) : ServiceProg Unit :=
  (saveScope .policyException ("scope-exception-" ++ GoUnicode.toLower name) name owner
    (scopeSpec name all names)).mapError .database

def deleteExceptionScope (name : String) (owner : Owner) : ServiceProg Unit :=
  (deleteScopeRow .policyException name owner).mapError .database

/-! ## Operations -/

def createError (name : String) (err : DbError) : ServiceError :=
  if err.reason = .uniqueViolation then .conflict ("exception " ++ name ++ " already exists")
  else .database err

def updateError (err : DbError) : ServiceError :=
  if err.reason = .conflict then .conflict "exception has been modified, refresh and retry"
  else .database err

section

variable [GoUnicode] [NameValidation]

variable (actor : Principal)

/-- The checks that `Create` and `Update` share: the clusters of the scope. -/
def checkedScope (r : ExceptionInput) : ServiceProg (Bool × List String) := do
  let scope ← exceptionTargetClusters actor (r.allClusters.getD false) r.clusterNames
  validateExceptionScopeTargets actor scope.1 scope.2
  validateGroupRefs actor r.policyGroupRefs
  return scope

omit [NameValidation] in
theorem readOnly_checkedScope (r : ExceptionInput) : (checkedScope actor r).ReadOnly := by
  refine readOnly_try (readOnly_exceptionTargetClusters _ _ _) fun scope => ?_
  refine readOnly_try (readOnly_validateExceptionScopeTargets _ _ _) fun _ => ?_
  refine readOnly_try (readOnly_forEach (readOnly_validateGroupRef actor)) fun _ => ?_
  exact trivial

def create (r : ExceptionInput) : ServiceProg Unit := do
  ofExcept actor.requireEditor
  ofExcept (validateExceptionRequest r true)
  let scope ← checkedScope actor r
  let name := r.name.getD ""
  let now ← timeNow
  transaction .database do
    (createException
      { name := name
        owner := actor.owner
        spec := exceptionSpec r
        expiresAt := some (now + mustDuration r.duration) }).mapError (createError name)
    syncExceptionScope name actor.owner scope.1 scope.2

/-- `updateDefault`, for the exception that the schema inserts. -/
def updateDefault (r : ExceptionInput) : ServiceProg Unit := do
  ofExcept actor.requireSystemAdmin
  refuseIf (r.matching.namespaces = [] ∧ ∀ selector ∈ r.matching.namespaceSelector,
      selector.matchLabels = ∅ ∧ selector.matchExpressions = [])
    (.validation "default exception requires at least one namespace or namespace selector")
  refuseIf (r.matching.namespaces.any fun n => trimSpace n = "")
    (.validation "namespace entries must not be empty")
  refuseIf (trimSpace r.reason = "") (.validation "reason is required")
  transaction .database do
    let e ← (getExceptionByName defaultExceptionName).mapError (notFoundOr "")
    refuseIf (outdated r.resourceVersion e)
      (.conflict "exception has been modified, refresh and retry")
    let spec := { e.row.spec with
      matching := { e.row.spec.matching with
        namespaces := r.matching.namespaces
        namespaceSelector := r.matching.namespaceSelector }
      reason := r.reason }
    (updateExceptionCAS e.id e.updatedAt spec none).mapError updateError
    syncExceptionScope defaultExceptionName e.row.owner true []

/-- The body of the transaction of `Update`. -/
def writeUpdate (name : String) (r : ExceptionInput)
    (scope : Bool × List String) (expiresAt : Time) : ServiceProg Unit := do
  let e ← (visibleException actor name).mapError (notFoundOr "")
  ofExcept (actor.authorizeOwner e.row.owner)
  refuseIf (outdated r.resourceVersion e)
    (.conflict "exception has been modified, refresh and retry")
  (updateExceptionCAS e.id e.updatedAt (exceptionSpec r) (some expiresAt)).mapError updateError
  syncExceptionScope name e.row.owner scope.1 scope.2

def update (name : String) (r : ExceptionInput) : ServiceProg Unit :=
  if name = defaultExceptionName then updateDefault actor r
  else do
    ofExcept (validateExceptionRequest r false)
    let scope ← checkedScope actor r
    let now ← timeNow
    transaction .database (writeUpdate actor name r scope (now + mustDuration r.duration))

end

/-- The body of the transaction of `Delete`. -/
def writeDelete (actor : Principal) (name : String) : ServiceProg Unit := do
  let e ← (visibleException actor name).mapError (notFoundOr "")
  ofExcept (actor.authorizeOwner e.row.owner)
  (deleteException e.id).mapError .database
  deleteExceptionScope name e.row.owner

def delete (actor : Principal) (name : String) : ServiceProg Unit := do
  refuseIf (name = defaultExceptionName) .defaultExceptionDelete
  transaction .database (writeDelete actor name)

end KubeSentry.Console.ExceptionService
