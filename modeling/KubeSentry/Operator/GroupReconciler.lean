import KubeSentry.GoLib.Worker
import KubeSentry.Api.Status
import KubeSentry.GroupResolve
import KubeSentry.Operator.ApiCalls

/-!
# The policy group reconciler

`PolicyGroupReconciler` of `internal/operator/policygroup_reconciler.go`.  A reconcile
resolves the members of a group, writes them to the status of the group, and then
refreshes `status.referencedBy` of every policy that the status listed before or lists
now.

`GroupWorld` has the groups and policies of a member cluster, each under its name, and
the revision of the last write, which becomes the resource version of the object.  Two
lists are kept for the statements only: `failed` has the groups whose most recent
reconcile failed, and `changed` has the groups that need another one, because their
deletion was requested, or a policy that their status lists was created anew, after the
most recent one began.

Between two calls of a reconcile users and the policy reconciler may change the
objects.  The cleanup finalizer of the reconciler is the only finalizer of a group.
The controller runs one reconcile at a time.
-/

namespace KubeSentry.Operator.GroupReconciler

open GoLib GroupResolve

/-! ## The objects -/

structure PolicyGroupStatus where
  phase : Phase := .unset
  observedGeneration : Int := 0
  resolvedCount : Nat := 0
  resolvedPolicies : List EffectiveMember := []
  conditions : List Condition := []
  deriving DecidableEq

structure PolicyGroupObject extends PolicyGroup where
  resourceVersion : Nat := 0
  status : PolicyGroupStatus := {}
  deriving DecidableEq

/-- `snapshotResolved`. -/
def PolicyGroupStatus.names (status : PolicyGroupStatus) : List String :=
  status.resolvedPolicies.map (·.name)

structure GroupWorld where
  groups : GoMap PolicyGroupObject := ∅
  policies : GoMap PolicyObject := ∅
  revision : Nat := 0
  failed : List String := []
  changed : List String := []

namespace GroupWorld

def putGroup (s : GroupWorld) (name : String) (group : PolicyGroupObject) : GroupWorld :=
  { s with
    groups := s.groups.insert name { group with resourceVersion := s.revision + 1 }
    revision := s.revision + 1 }

def dropGroup (s : GroupWorld) (name : String) : GroupWorld :=
  { s with groups := s.groups.erase name, revision := s.revision + 1 }

def putPolicy (s : GroupWorld) (name : String) (policy : PolicyObject) : GroupWorld :=
  { s with
    policies := s.policies.insert name { policy with resourceVersion := s.revision + 1 }
    revision := s.revision + 1 }

def dropPolicy (s : GroupWorld) (name : String) : GroupWorld :=
  { s with policies := s.policies.erase name, revision := s.revision + 1 }

end GroupWorld

/-- The groups whose status lists the policy and that are not being deleted. -/
def listing (groups : GoMap PolicyGroupObject) (policy : String) : List String :=
  (groups.toList.filter fun e =>
    e.2.deletionTimestamp = none ∧ policy ∈ e.2.status.names).map Prod.fst

/-- What users and the policy reconciler do. -/
inductive ClusterEdit where
  | createGroup (name : String) (spec : PolicyGroupSpec)
  | editGroup (name : String) (spec : PolicyGroupSpec)
  | deleteGroup (name : String) (now : Time)
  | createPolicy (name : String) (labels : Labels) (spec : PolicySpec)
  | editPolicy (name : String) (labels : Labels) (spec : PolicySpec)
  | writePolicyStatus (name : String) (status : PolicyStatus)
  | deletePolicy (name : String)

def GroupWorld.edit (s : GroupWorld) : ClusterEdit → GroupWorld
  | .createGroup name spec =>
    match s.groups[name]? with
    | some _ => s
    | none => s.putGroup name { name := name, generation := 1, spec := spec }
  | .editGroup name spec =>
    match s.groups[name]? with
    | none => s
    | some group =>
      s.putGroup name { group with spec := spec, generation := group.generation + 1 }
  | .deleteGroup name now =>
    match s.groups[name]? with
    | none => s
    | some group =>
      if group.finalizers = [] then s.dropGroup name
      else if group.deletionTimestamp = none then
        { s.putGroup name { group with deletionTimestamp := some now } with
          changed := name :: s.changed }
      else s
  | .createPolicy name labels spec =>
    match s.policies[name]? with
    | some _ => s
    | none =>
      { s.putPolicy name { name := name, labels := labels, generation := 1, spec := spec } with
        changed := listing s.groups name ++ s.changed }
  | .editPolicy name labels spec =>
    match s.policies[name]? with
    | none => s
    | some policy =>
      s.putPolicy name
        { policy with labels := labels, spec := spec, generation := policy.generation + 1 }
  | .writePolicyStatus name status =>
    match s.policies[name]? with
    | none => s
    | some policy =>
      s.putPolicy name
        { policy with status := { status with referencedBy := policy.status.referencedBy } }
  | .deletePolicy name => s.dropPolicy name

/-! ## The calls of a reconcile -/

abbrev GroupProg := ApiProg GroupWorld

def notFound (kind name : String) : ApiError :=
  ⟨.notFound, kind ++ " " ++ name ++ " not found"⟩

def conflict : ApiError :=
  ⟨.conflict, "the object has been modified"⟩

variable (name : String)

def getGroup : GroupProg (ApiResult PolicyGroupObject) :=
  apiRead fun s =>
    match s.groups[name]? with
    | some group => .ok group
    | none => .error (notFound "policygroup" name)

/-- `Update` of a group that was read as `pg`, with other finalizers.  The server removes
a deleted object with its last finalizer. -/
def updateFinalizers (pg : PolicyGroupObject) (finalizers : List String) :
    GroupProg (ApiResult Unit) :=
  apiWrite fun s _ =>
    match s.groups[name]? with
    | none => .error (notFound "policygroup" name)
    | some stored =>
      if stored.resourceVersion ≠ pg.resourceVersion then .error conflict
      else if finalizers = [] ∧ stored.deletionTimestamp ≠ none then .ok (s.dropGroup name)
      else .ok (s.putGroup name { stored with finalizers := finalizers })

/-- `Status().Update` of a group that was read as `latest`. -/
def writeGroupStatus (latest : PolicyGroupObject) (desired : PolicyGroupStatus) :
    GroupProg (ApiResult Unit) :=
  apiWrite fun s _ =>
    match s.groups[name]? with
    | none => .error (notFound "policygroup" name)
    | some stored =>
      if stored.resourceVersion ≠ latest.resourceVersion then .error conflict
      else .ok (s.putGroup name { stored with status := desired })

def getPolicy : GroupProg (ApiResult PolicyObject) :=
  apiRead fun s =>
    match s.policies[name]? with
    | some policy => .ok policy
    | none => .error (notFound "policy" name)

/-- `Status().Update` of a policy that was read as `pol`. -/
def writeReferencedBy (pol : PolicyObject) (refs : List String) : GroupProg (ApiResult Unit) :=
  apiWrite fun s _ =>
    match s.policies[name]? with
    | none => .error (notFound "policy" name)
    | some stored =>
      if stored.resourceVersion ≠ pol.resourceVersion then .error conflict
      else .ok (s.putPolicy name
        { stored with status := { pol.status with referencedBy := refs } })

/-! ## The reconciler -/

variable [GoUnicode] [Apimachinery]

def policyGroupCleanupFinalizer : String := "kubesentry.io/policygroup-cleanup"

/-- The function that `updateGroupStatus` retries. -/
def updateLatestStatus (desired : PolicyGroupStatus) :
    GroupProg (ApiResult Unit) := do
  match ← getGroup name with
  | .error err => return .error err
  | .ok latest => writeGroupStatus name latest desired

def updateGroupStatus (desired : PolicyGroupStatus) : GroupProg (ApiResult Unit) :=
  retryOnConflict (updateLatestStatus name desired) 3

/-- The references that `refreshReferencedBy` computes for a policy. -/
def referencesOf (groups : GoMap PolicyGroupObject) (policy : String) : List String :=
  sortStrings (listing groups policy)

/-- The function that the loop of `refreshReferencedBy` retries. -/
def refreshLatestPolicy (refs : List String) : GroupProg (ApiResult Unit) := do
  match ← getPolicy name with
  | .error err => return .error err
  | .ok pol =>
    if pol.status.referencedBy = refs then return .ok ()
    else writeReferencedBy name pol refs

/-- The loop of `refreshReferencedBy`. -/
def refreshPolicies (groups : GoMap PolicyGroupObject) :
    List String → GroupProg (ApiResult Unit)
  | [] => return .ok ()
  | name :: rest => do
    match ← retryOnConflict (refreshLatestPolicy name (referencesOf groups name)) 3 with
    | .ok () => refreshPolicies groups rest
    | .error err =>
      if err.reason = .notFound then refreshPolicies groups rest
      else return .error (err.wrap ("update Policy " ++ quote name ++ " referencedBy: "))

variable (shuffle : Shuffle)

/-- `touch` is a map in the source: it has each name once, and the loop visits them in
any order. -/
def refreshReferencedBy (prev current : List String) :
    GroupProg (ApiResult Unit) := do
  match ← apiRead fun s => .ok s.groups with
  | .error err => return .error (err.wrap "list PolicyGroups for referencedBy diff: ")
  | .ok groups => refreshPolicies groups (shuffle.run (prev ++ current).dedup)

def disabledStatus (pg : PolicyGroupObject) : PolicyGroupStatus where
  phase := .disabled
  observedGeneration := pg.generation

def resolvedStatus (pg : PolicyGroupObject) (policies : List Policy) : PolicyGroupStatus :=
  let (members, conditions) := resolve pg.spec policies
  { phase := if conditions.length > 0 then .degraded else .ready
    observedGeneration := pg.generation
    resolvedCount := members.length
    resolvedPolicies := members
    conditions := conditions }

/-- The end of `Reconcile`: the new status, and the refresh of the policies. -/
def publishStatus (name : String) (prev : List String)
    (status : PolicyGroupStatus) : GroupProg (ApiResult Unit) := do
  match ← updateGroupStatus name status with
  | .error err => return .error (err.wrap "update group status: ")
  | .ok () => refreshReferencedBy shuffle prev status.names

def resolveGroup (name : String) (pg : PolicyGroupObject) :
    GroupProg (ApiResult Unit) := do
  if pg.spec.enabled then
    match ← apiRead fun s => .ok (s.policies.toList.map fun e => e.2.toPolicy) with
    | .error err => return .error (err.wrap "list Policies: ")
    | .ok allPolicies =>
      publishStatus shuffle name pg.status.names (resolvedStatus pg allPolicies)
  else publishStatus shuffle name pg.status.names (disabledStatus pg)

def cleanUp (name : String) (pg : PolicyGroupObject) :
    GroupProg (ApiResult Unit) := do
  match ← refreshReferencedBy shuffle pg.status.names [] with
  | .error err => return .error err
  | .ok () =>
    match ← updateFinalizers name pg
        (pg.finalizers.filter (· ≠ policyGroupCleanupFinalizer)) with
    | .error err => return .error (err.wrap "remove policygroup finalizer: ")
    | .ok () => return .ok ()

def reconcile (name : String) : GroupProg (ApiResult Unit) := do
  match ← getGroup name with
  | .error err => return ignoreNotFound () err
  | .ok pg =>
    if pg.deletionTimestamp ≠ none then
      if policyGroupCleanupFinalizer ∈ pg.finalizers then cleanUp shuffle name pg
      else return .ok ()
    else if policyGroupCleanupFinalizer ∈ pg.finalizers then resolveGroup shuffle name pg
    else
      match ← updateFinalizers name pg (pg.finalizers ++ [policyGroupCleanupFinalizer]) with
      | .error err => return .error (err.wrap "add policygroup finalizer: ")
      | .ok () => resolveGroup shuffle name pg

/-- A request of the work queue, with the order in which its loop over a map goes. -/
structure Request where
  name : String
  shuffle : Shuffle := .id

def controller : Controller Request ClusterEdit GroupWorld ApiInput (ApiResult Unit) where
  environment := GroupWorld.edit
  code request := reconcile request.shuffle request.name
  started request s :=
    { s with
      failed := s.failed.filter (· ≠ request.name)
      changed := s.changed.filter (· ≠ request.name) }
  finished request result s :=
    match result with
    | .ok () => s
    | .error _ => { s with failed := request.name :: s.failed }
  crashed request s := { s with failed := request.name :: s.failed }

end KubeSentry.Operator.GroupReconciler
