import KubeSentry.GoLib.Retention
import KubeSentry.GoLib.Table
import KubeSentry.GoLib.Worker
import KubeSentry.Api.Status
import KubeSentry.Operator.ApiCalls

/-!
# Policy versions

`PolicyReconciler` of `internal/operator/policy_reconciler.go`.  A reconcile stores
the spec of a policy as a `PolicyVersion` with the next free number, deletes the lowest
versions beyond the limit, and writes the number to the status of the policy.

`PolicyWorld` has one policy and the versions that carry its name.  The number of a
version is in its name, its label and its spec; here it is the one in the spec, and
the table has one row per number.  The policy exists throughout.  `writes` records the
status updates that the server has accepted, each with the versions at that moment.

Users edit the spec, also to ask for a rollback, and the policy group reconciler writes
`status.referencedBy`; both may do so between two calls of a reconcile.  Versions are
only created and deleted.  `CompileRego` belongs to the policy engine, and nothing is
assumed about it.
-/

namespace KubeSentry.Operator.PolicyReconciler

open GoLib

/-- `webhook.CompileRego`: the text of its error. -/
class RegoCompiler where
  compileRego : String → Option String

/-- Compiles every module. -/
@[reducible] def RegoCompiler.lenient : RegoCompiler where
  compileRego _ := none

/-! ## The objects -/

/-- The versions of a policy, one per number. -/
structure VersionTable where
  rows : List PolicyVersion
  distinct : (rows.map (·.spec.version)).Nodup

namespace VersionTable

def empty : VersionTable := ⟨[], List.nodup_nil⟩

def find? (t : VersionTable) (version : Int) : Option PolicyVersion :=
  Table.lookup (·.spec.version) version t.rows

def insert (t : VersionTable) (pv : PolicyVersion) (hfree : t.find? pv.spec.version = none) :
    VersionTable where
  rows := t.rows ++ [pv]
  distinct := by
    rw [List.map_append, List.map_singleton]
    refine List.nodup_append'.mpr ⟨t.distinct, List.nodup_singleton _, ?_⟩
    rw [List.disjoint_singleton]
    intro hmem
    obtain ⟨r, hr, hversion⟩ := List.mem_map.mp hmem
    exact Table.lookup_none hfree r hr hversion

def erase (t : VersionTable) (version : Int) : VersionTable where
  rows := t.rows.filter fun pv => pv.spec.version ≠ version
  distinct := t.distinct.sublist (List.filter_sublist.map _)

variable {t : VersionTable} {version : Int} {pv r : PolicyVersion}

theorem find?_eq_some_iff : t.find? version = some pv ↔ pv ∈ t.rows ∧ pv.spec.version = version :=
  Table.lookup_iff t.distinct

theorem mem_insert (hfree : t.find? pv.spec.version = none) :
    r ∈ (t.insert pv hfree).rows ↔ r ∈ t.rows ∨ r = pv := by
  simp [insert]

theorem mem_erase : r ∈ (t.erase version).rows ↔ r ∈ t.rows ∧ r.spec.version ≠ version := by
  simp [erase]

end VersionTable

/-- A status update: the policy as reconciled, with its new status, and the versions
at that moment. -/
structure StatusWrite where
  policy : PolicyObject
  versions : VersionTable

structure PolicyWorld where
  policy : PolicyObject
  versions : VersionTable
  writes : List StatusWrite := []

namespace PolicyWorld

def currentVersion (s : PolicyWorld) : Int := s.policy.status.currentVersion

/-- The status updates with phase Ready, the oldest first. -/
def readyWrites (s : PolicyWorld) : List StatusWrite :=
  s.writes.filter fun w => w.policy.status.phase = .ready

end PolicyWorld

/-- An update or patch of the spec. -/
def editSpec (spec : PolicySpec) (p : PolicyObject) : PolicyObject :=
  if spec = p.spec then p
  else { p with
    spec := spec, generation := p.generation + 1, resourceVersion := p.resourceVersion + 1 }

/-- What others do to the policy. -/
inductive PolicyEdit where
  | spec (spec : PolicySpec)
  | referencedBy (groups : List String)

def PolicyWorld.edit (s : PolicyWorld) : PolicyEdit → PolicyWorld
  | .spec spec => { s with policy := editSpec spec s.policy }
  | .referencedBy groups =>
    { s with policy := { s.policy with
        status := { s.policy.status with referencedBy := groups }
        resourceVersion := s.policy.resourceVersion + 1 } }

/-- The status of `latest` with the fields that the reconciler owns is stored. -/
def PolicyWorld.writeStatus (s : PolicyWorld) (latest desired : PolicyObject) : PolicyWorld :=
  { s with
    policy := { s.policy with
      status := { latest.status with
        phase := desired.status.phase
        message := desired.status.message
        observedGeneration := desired.status.observedGeneration
        currentVersion := desired.status.currentVersion
        lastSyncTime := desired.status.lastSyncTime
        versionHistory := desired.status.versionHistory }
      resourceVersion := s.policy.resourceVersion + 1 }
    writes := s.writes ++ [⟨desired, s.versions⟩] }

/-! ## The calls of a reconcile -/

abbrev PolicyProg := ApiProg PolicyWorld

def getPolicy : PolicyProg (ApiResult PolicyObject) :=
  apiRead fun s => .ok s.policy

def policyVersionMatchesSpec (pv : PolicyVersion) (policy : PolicyObject) : Bool :=
  pv.spec.rego = policy.spec.rego ∧ pv.spec.enforcementMode = policy.spec.enforcementMode ∧
    pv.spec.matching = policy.spec.matching

variable (policy : PolicyObject)

def buildPolicyVersion (version : Int) (now : Time) : PolicyVersion where
  ownerUID := policy.uid
  spec :=
    { policyRef := policy.name
      version := version
      rego := policy.spec.rego
      matching := policy.spec.matching
      enforcementMode := policy.spec.enforcementMode
      createdAt := now }

def createVersion (version : Int) : PolicyProg (ApiResult Unit) :=
  apiWrite fun s i =>
    let pv := buildPolicyVersion policy version i.now
    if hfree : s.versions.find? pv.spec.version = none then
      .ok { s with versions := s.versions.insert pv hfree }
    else .error ⟨.alreadyExists, "policyversion " ++ pv.name ++ " already exists"⟩

def getVersion (version : Int) : PolicyProg (ApiResult PolicyVersion) :=
  apiRead fun s =>
    match s.versions.find? version with
    | some pv => .ok pv
    | none =>
      .error ⟨.notFound, "policyversion " ++ (buildPolicyVersion policy version 0).name ++
        " not found"⟩

def deleteVersion (pv : PolicyVersion) : PolicyProg (ApiResult Unit) :=
  apiWrite fun s _ =>
    if (s.versions.find? pv.spec.version).isSome then
      .ok { s with versions := s.versions.erase pv.spec.version }
    else .error ⟨.notFound, "policyversion " ++ pv.name ++ " not found"⟩

/-- `Status().Update`. -/
def updateStatus (latest desired : PolicyObject) : PolicyProg (ApiResult Unit) :=
  apiWrite fun s _ =>
    if latest.resourceVersion = s.policy.resourceVersion then .ok (s.writeStatus latest desired)
    else .error ⟨.conflict, "the object has been modified"⟩

/-- The merge patch of `client.MergeFrom`: the fields in which `modified` differs from
`base` replace those of the stored spec.  Objects are merged field by field. -/
def mergePatch (base modified current : PolicySpec) : PolicySpec :=
  { current with
    rego := if modified.rego = base.rego then current.rego else modified.rego
    enforcementMode :=
      if modified.enforcementMode = base.enforcementMode then current.enforcementMode
      else modified.enforcementMode
    matching :=
      { operations :=
          if modified.matching.operations = base.matching.operations
          then current.matching.operations else modified.matching.operations
        resources :=
          if modified.matching.resources = base.matching.resources
          then current.matching.resources else modified.matching.resources }
    rollbackTo :=
      if modified.rollbackTo = base.rollbackTo then current.rollbackTo else modified.rollbackTo }

def patchPolicy (base modified : PolicySpec) : PolicyProg (ApiResult Unit) :=
  apiWrite fun s _ =>
    .ok { s with policy := editSpec (mergePatch base modified s.policy.spec) s.policy }

/-! ## The reconciler -/

variable [GoUnicode] [RegoCompiler]

def maxVersionCollisionRetries : Nat := 8

/-- The function that `updatePolicyStatus` retries. -/
def updateLatestStatus : PolicyProg (ApiResult Unit) := do
  match ← getPolicy with
  | .error err => return .error err
  | .ok latest => updateStatus latest policy

/-- `policy` has the status that is to be written. -/
def updatePolicyStatus : PolicyProg (ApiResult Unit) :=
  retryOnConflict (updateLatestStatus policy) 3

def setInvalid (msg : String) : PolicyProg (ApiResult Unit) :=
  updatePolicyStatus
    { policy with status := { policy.status with phase := .invalid, message := msg } }

/-- The result says whether the policy is queued again. -/
def handleRollback (targetVersion : Int) :
    PolicyProg (ApiResult Bool) := do
  match ← apiRead fun s => .ok (s.versions.find? targetVersion) with
  | .error err => return .error err
  | .ok none =>
    match ← setInvalid policy
        ("rollback target version " ++ toString targetVersion ++ " not found") with
    | .error err => return .error err
    | .ok () => return .ok false
  | .ok (some pv) =>
    match ← patchPolicy policy.spec
        { policy.spec with
          rego := pv.spec.rego
          matching := pv.spec.matching
          enforcementMode := pv.spec.enforcementMode
          rollbackTo := none } with
    | .error err => return .error err
    | .ok () => return .ok true

/-- The loop that finds the number for the spec of the policy. -/
def settleVersion (policy : PolicyObject) : Nat → Int → PolicyProg (ApiResult Int)
  | 0, _ =>
    return .error ⟨.other, "PolicyVersion creation could not converge after " ++
      toString maxVersionCollisionRetries ++ " attempts (policy=" ++ policy.name ++ ")"⟩
  | attempts + 1, nextVersion => do
    match ← createVersion policy nextVersion with
    | .ok () => return .ok nextVersion
    | .error err =>
      if err.reason = .alreadyExists then
        match ← getVersion policy nextVersion with
        | .error getErr =>
          return .error (getErr.wrap ("get conflicting PolicyVersion " ++
            quote (buildPolicyVersion policy nextVersion 0).name ++ ": "))
        | .ok existing =>
          -- an earlier reconcile may have stored this spec and failed to write the status
          if policyVersionMatchesSpec existing policy then return .ok nextVersion
          else settleVersion policy attempts (nextVersion + 1)
      else return .error (err.wrap "create PolicyVersion: ")

def deleteVersions : List PolicyVersion → PolicyProg (ApiResult Unit)
  | [] => return .ok ()
  | pv :: rest => do
    match ← deleteVersion pv with
    | .error err => return .error err
    | .ok () => deleteVersions rest

variable (versionHistoryLimit : Nat)

def pruneVersions : PolicyProg (ApiResult Unit) := do
  match ← apiRead fun s => .ok s.versions.rows with
  | .error err => return .error err
  | .ok items =>
    if items.length ≤ versionHistoryLimit then return .ok ()
    else deleteVersions (beyond (·.spec.version) versionHistoryLimit items)

def buildHistory (existing : List PolicyVersionSummary)
    (version : Int) (phase : Phase) (now : Time) : List PolicyVersionSummary :=
  ({ version := version, createdAt := now, phase := phase } :: existing).take versionHistoryLimit

/-- The policy with the status of a successful reconcile. -/
def readyPolicy (policy : PolicyObject) (version : Int) (now : Time) : PolicyObject :=
  { policy with
    status := { policy.status with
      phase := .ready
      message := ""
      currentVersion := version
      observedGeneration := policy.generation
      lastSyncTime := some now
      versionHistory :=
        buildHistory versionHistoryLimit policy.status.versionHistory version .ready now } }

/-- The part of `Reconcile` after the version has been stored. -/
def publishVersion (policy : PolicyObject) (version : Int) :
    PolicyProg (ApiResult Bool) := do
  -- an error of the pruning is only logged
  let _ ← pruneVersions versionHistoryLimit
  let now ← clock
  match ← updatePolicyStatus (readyPolicy versionHistoryLimit policy version now) with
  | .error err => return .error (err.wrap "update status: ")
  | .ok () => return .ok false

def reconcile : PolicyProg (ApiResult Bool) := do
  match ← getPolicy with
  | .error err => return ignoreNotFound false err
  | .ok policy =>
    match policy.spec.rollbackTo with
    | some targetVersion => handleRollback policy targetVersion
    | none =>
      if policy.status.observedGeneration = policy.generation ∧ policy.status.phase = .ready then
        return .ok false
      else
        match RegoCompiler.compileRego policy.spec.rego with
        | some msg =>
          match ← setInvalid policy msg with
          | .error err => return .error err
          | .ok () => return .ok false
        | none =>
          match ← settleVersion policy maxVersionCollisionRetries
              (policy.status.currentVersion + 1) with
          | .error err => return .error err
          | .ok version => publishVersion versionHistoryLimit policy version

/-- The controller of one policy. -/
def controller : Controller Unit PolicyEdit PolicyWorld ApiInput (ApiResult Bool) where
  environment := PolicyWorld.edit
  code _ := reconcile versionHistoryLimit

end KubeSentry.Operator.PolicyReconciler
