import KubeSentry.Console.Repositories
import KubeSentry.Operator.PolicyVersions

/-!
# The policy service

The operations of `internal/console/service/policy.go` that write, with the checks
they make first.  `Update`, `Delete` and `Rollback` hold the policy reference lock
while they run: their bodies have the source's lower case names here, and the
operations are `lockedUpdate`, `lockedDelete` and `lockedRollback`.

A request is what its decoder leaves.  The request types of `internal/console/dto`
repeat the types of the stored specs field by field, so the stored types stand for
both.
-/

namespace KubeSentry.Console

open GoLib Fallible Database GroupResolve
open Operator.PolicyReconciler (RegoCompiler)

/-- The operation of `k8s.io/apimachinery/pkg/util/validation` that the services call.  It
returns the problems of a name.  Nothing is assumed about it. -/
class NameValidation where
  isDNS1123Subdomain : String → List String

/-- Accepts every name. -/
@[reducible] def NameValidation.lenient : NameValidation where
  isDNS1123Subdomain _ := []

/-- `errors.Is(err, gorm.ErrRecordNotFound)` makes an error `ErrNotFound`. -/
def notFoundOr (context : String) (err : DbError) : ServiceError :=
  if err.reason = .recordNotFound then .notFound else .database (err.wrap context)

/-- `fmt.Errorf(context + "%w", err)`. -/
def wrapped (context : String) (err : DbError) : ServiceError :=
  .database (err.wrap context)

/-- `strconv.FormatInt(UpdatedAt.UnixNano(), 10)`. -/
def resourceVersion {A : Type} (r : Stored A) : String :=
  toString r.updatedAt

/-- A request names a version, and it is not the one of the row. -/
def outdated {A : Type} (requested : Option String) (r : Stored A) : Prop :=
  requested.getD "" ≠ "" ∧ requested.getD "" ≠ resourceVersion r

instance {A : Type} (requested : Option String) (r : Stored A) : Decidable (outdated requested r) :=
  inferInstanceAs (Decidable (_ ∧ _))

/-- `policyList`. -/
def policyList (rows : List (Stored PolicyColumns)) : List Policy :=
  rows.map fun p =>
    { name := p.row.name
      labels := p.row.labels
      annotations := p.row.annotations
      spec :=
        { description := p.row.description
          rego := p.row.rego
          enforcementMode := p.row.enforcementMode
          matching := p.row.matching } }

namespace PolicyService

def visualBuilderSpecAnnotation : String := "kubesentry.io/visual-builder-spec"

/-- `dto.PolicyInput`. -/
structure PolicyInput where
  name : Option String := none
  description : Option String := none
  enforcementMode : EnforcementMode := .unset
  matching : PolicyMatch := {}
  rego : String := ""
  labels : Option Labels := none
  annotations : Option Labels := none
  resourceVersion : Option String := none

/-- A request for the policy `p`. -/
def policyRequest (rego : String) : PolicyInput where
  name := some "p"
  enforcementMode := .audit
  matching := (PolicySpec.auditPods rego).matching
  rego := rego

/-- The `direction` of a rollback. -/
inductive Direction where
  | prev
  | next
  | other (text : String)
  deriving DecidableEq, Repr

structure RollbackView where
  restoredFromVersion : Nat
  newVersion : Nat
  deriving DecidableEq, Repr

/-! ## Parts -/

/-- `NormalizePolicyMatch` turns absent lists into empty ones, which are the same here. -/
def normalizePolicyMatch (m : PolicyMatch) : PolicyMatch :=
  { operations := m.operations
    resources := m.resources.map fun r =>
      { apiGroups := r.apiGroups, apiVersions := r.apiVersions, resources := r.resources } }

theorem normalizePolicyMatch_eq (m : PolicyMatch) : normalizePolicyMatch m = m := by
  unfold normalizePolicyMatch
  rw [List.map_id']

def policySpecSnapshot (p : PolicyColumns) : PolicySpec :=
  { matching := normalizePolicyMatch p.matching
    enforcementMode := p.enforcementMode
    rego := p.rego
    description := p.description }

/-- Empty values mean that the annotation is not set. -/
def applyAnnotations (dst src : Labels) : Labels :=
  src.toList.foldl (fun dst entry => if entry.2 = "" then dst else dst.insert entry.1 entry.2) dst

/-- The loop over the requested labels. -/
def mergeLabels (dst src : Labels) : Labels :=
  src.toList.foldl (fun dst entry => dst.insert entry.1 entry.2) dst

/-- `versions[0].Version`, or 0. -/
def currentVersion (versions : List (Stored VersionColumns)) : Nat :=
  match versions with
  | [] => 0
  | v :: _ => v.row.version

def validatePolicyRequest [NameValidation] [RegoCompiler] (req : PolicyInput) (isCreate : Bool) :
    Except ServiceError Unit := do
  if isCreate then
    if req.name.getD "" = "" then
      throw (.validation "name is required")
    let errs := NameValidation.isDNS1123Subdomain (req.name.getD "")
    if errs ≠ [] then
      throw (.validation ("invalid name: " ++ "; ".intercalate errs))
  if req.enforcementMode ≠ .enforce ∧ req.enforcementMode ≠ .audit then
    throw (.validation "enforcementMode must be \"enforce\" or \"audit\"")
  if req.matching.operations = [] then
    throw (.validation "match.operations must not be empty")
  if req.matching.resources = [] then
    throw (.validation "match.resources must not be empty")
  match RegoCompiler.compileRego req.rego with
  | some err => throw (.validation ("rego compile failed: " ++ err))
  | none => return ()

/-- What `referencingGroups` keeps of a policy. -/
def resolvePolicies (rows : List (Stored PolicyColumns)) : List Policy :=
  rows.map fun p =>
    { name := p.row.name
      labels := p.row.labels
      spec := { enforcementMode := p.row.enforcementMode } }

section

variable [Apimachinery]

/-- The loop over the members of a group. -/
def hasMember (spec : PolicyGroupSpec) (policies : List Policy) (name : String) : Bool :=
  (resolve spec policies).1.any fun m => m.name = name

def referencingGroups (policyName : String) : RepoProg (List String) := do
  let groups ← listGroups
  let policies ← listPolicies
  let refs := groups.filter fun g => hasMember g.row.spec (resolvePolicies policies) policyName
  return sortStrings (refs.map fun g => g.row.name)

def referencedByOtherTenant (policy : Stored PolicyColumns) : RepoProg Bool :=
  match policy.row.owner with
  | .system => return false
  | .tenant tenant => do
    let groups ← listGroups
    let policies ← listPolicies
    let resolved := policyList policies
    return groups.any fun g =>
      g.row.owner ≠ .tenant tenant && hasMember g.row.spec resolved policy.row.name

theorem readOnly_referencedByOtherTenant (policy : Stored PolicyColumns) :
    (referencedByOtherTenant policy).ReadOnly := by
  unfold referencedByOtherTenant
  split
  · exact trivial
  · refine readOnly_try readOnly_within_query fun _ => ?_
    exact readOnly_try readOnly_within_query fun _ => trivial

theorem readOnly_referencingGroups (policyName : String) :
    (referencingGroups policyName).ReadOnly := by
  refine readOnly_try readOnly_within_query fun _ => ?_
  exact readOnly_try readOnly_within_query fun _ => trivial

end

/-! ## Operations -/

variable (actor : Principal)

/-- The row that `Create` inserts. -/
def newPolicy (req : PolicyInput) : PolicyColumns :=
  { name := req.name.getD ""
    description := req.description.getD ""
    rego := req.rego
    enforcementMode := req.enforcementMode
    matching := req.matching
    compileOK := true
    labels := req.labels.getD ∅
    annotations := applyAnnotations ∅ (req.annotations.getD ∅)
    owner := actor.owner }

def createError (req : PolicyInput) (err : DbError) : ServiceError :=
  if err.reason = .uniqueViolation then
    .conflict ("policy " ++ req.name.getD "" ++ " already exists")
  else wrapped "create policy: " err

def create [NameValidation] [RegoCompiler] (req : PolicyInput) :
    ServiceProg Unit := do
  ofExcept actor.requireEditor
  ofExcept (validatePolicyRequest req true)
  let p := newPolicy actor req
  (createWithVersion p
    { policyID := 0, version := 1, rego := p.rego, specSnapshot := policySpecSnapshot p }).mapError
      (createError req)

/-- The columns that `Update` writes. -/
def updateFields (p : PolicyColumns) (req : PolicyInput) : PolicyFields :=
  let ann := p.annotations.erase visualBuilderSpecAnnotation
  { matching := req.matching
    enforcementMode := req.enforcementMode
    rego := req.rego
    description := req.description.getD ""
    compileOK := true
    compileError := ""
    labels := some (match req.labels with
      | none => p.labels
      | some labels => mergeLabels p.labels labels)
    annotations := some (match req.annotations with
      | none => ann
      | some annotations => applyAnnotations ann annotations) }

def updateError (err : DbError) : ServiceError :=
  if err.reason = .conflict then .conflict "policy has been modified, refresh and retry"
  else wrapped "update policy: " err

variable [GoUnicode] [Apimachinery]

/-- The reads that `update` and `rollback` begin with: the row, if the principal may write it
and no other tenant uses it. -/
def editablePolicy (name : String) : ServiceProg (Stored PolicyColumns) := do
  let p ← (getPolicyByName name).mapError (notFoundOr "get policy: ")
  ofExcept (actor.authorizeOwner p.row.owner)
  let blocked ← (referencedByOtherTenant p).mapError (wrapped "check policy references: ")
  refuseIf blocked
    (.conflict "policy is referenced by another tenant and cannot be modified")
  return p

theorem readOnly_editablePolicy (name : String) : (editablePolicy actor name).ReadOnly := by
  refine readOnly_try (readOnly_mapError readOnly_within_query)
    fun p => ?_
  refine readOnly_try (readOnly_ofExcept _) fun _ => ?_
  refine readOnly_try
    (readOnly_mapError (readOnly_referencedByOtherTenant _)) fun _ => ?_
  exact readOnly_try (readOnly_refuseIf _ _) fun _ => trivial

/-- An editable policy was in the table when it was read, and the principal may write it. -/
theorem ensures_editablePolicy {rely : ConsoleState → ConsoleState → Prop}
    {ok : ConsoleState → DbInput → Prop} {does : ConsoleState → ConsoleState → Prop}
    {P : ConsoleState → Stored PolicyColumns → Prop} {s0 : ConsoleState}
    (name : String) (hrefl : ∀ s, does s s) (hstable : ∀ p s s', P s p → rely s s' → P s' p)
    (hget : ∀ s i p, rely s0 s → ok s i → p ∈ s.policies.rows → p.row.name = name → P s p) :
    Fallible.Ensures rely ok does
      (fun s p => P s p ∧ actor.authorizeOwner p.row.owner = .ok ()) Any s0
      (editablePolicy actor name) := by
  refine ensures_try (ensures_mapError
    (ensures_getPolicyByName name hrefl hget fun _ _ _ _ _ => trivial)) ?_
  intro s1 p hp
  refine ensures_check fun _ hauthorized => ?_
  refine Fallible.ensures_past hrefl (hstable p) (fun _ _ _ => trivial)
    (readOnly_mapError (readOnly_referencedByOtherTenant p)) hp fun s2 blocked hp => ?_
  exact ensures_guard fun _ => ⟨hp, hauthorized⟩

def update [NameValidation] [RegoCompiler] (name : String)
    (req : PolicyInput) : ServiceProg Unit := do
  ofExcept (validatePolicyRequest req false)
  let p ← editablePolicy actor name
  refuseIf (outdated req.resourceVersion p)
    (.conflict "policy has been modified, refresh and retry")
  let versions ← (listVersions p.id).mapError (wrapped "list versions: ")
  let fields := updateFields p.row req
  (updateWithVersion p.id p.updatedAt fields
    { policyID := p.id
      version := currentVersion versions + 1
      rego := fields.rego
      specSnapshot := policySpecSnapshot (fields.apply p.row) }).mapError updateError

def delete (actor : Principal) (name : String) : ServiceProg Unit := do
  let p ← (getPolicyByName name).mapError (notFoundOr "get policy: ")
  ofExcept (actor.authorizeOwner p.row.owner)
  let refs ← (referencingGroups p.row.name).mapError (wrapped "list policy groups: ")
  refuseIf (refs ≠ []) (.referencedBy refs)
  (deletePolicy p.id).mapError (wrapped "delete policy: ")

/-- The columns that `Rollback` writes. -/
def rollbackFields (v : VersionColumns) : PolicyFields :=
  { rego := v.rego
    matching := v.specSnapshot.matching
    enforcementMode := v.specSnapshot.enforcementMode
    description := v.specSnapshot.description
    compileOK := true
    compileError := "" }

/-- `rollback` from its list of versions on. -/
def restore (p : Stored PolicyColumns) (versions : List (Stored VersionColumns)) :
    ServiceProg RollbackView := do
  let current := currentVersion versions
  let target := current - 1
  refuseIf (target < 1) (.validation "already at the oldest version")
  match versions.find? fun v => v.row.version = target with
  | none =>
    Fallible.fail (.gone ("version " ++ toString target ++ " snapshot has been pruned: gone"))
  | some v =>
    (updateWithVersion p.id p.updatedAt (rollbackFields v.row)
      { policyID := p.id
        version := current + 1
        rego := v.row.rego
        specSnapshot := v.row.specSnapshot }).mapError updateError
    return { restoredFromVersion := target, newVersion := current + 1 }

def rollback (name : String) (direction : Direction) :
    ServiceProg RollbackView := do
  refuseIf (direction ≠ .prev ∧ direction ≠ .next)
    (.validation "direction must be \"prev\" or \"next\"")
  let p ← editablePolicy actor name
  refuseIf (direction = .next) (.validation "already at the latest version")
  let versions ← (listVersions p.id).mapError (wrapped "list versions: ")
  restore p versions

def lockedUpdate [NameValidation] [RegoCompiler] (name : String)
    (req : PolicyInput) : ServiceProg Unit :=
  withPolicyReferenceLock (update actor name req)

def lockedDelete (name : String) : ServiceProg Unit :=
  withPolicyReferenceLock (delete actor name)

def lockedRollback (name : String) (direction : Direction) : ServiceProg RollbackView :=
  withPolicyReferenceLock (rollback actor name direction)

inductive PolicyOp where
  | create (actor : Principal) (req : PolicyInput)
  | update (actor : Principal) (name : String) (req : PolicyInput)
  | rollback (actor : Principal) (name : String) (direction : Direction)
  | delete (actor : Principal) (name : String)

variable [NameValidation] [RegoCompiler]

/-- The operation, with the view of a rollback left out. -/
def PolicyOp.prog : PolicyOp → ServiceProg Unit
  | .create actor req => PolicyService.create actor req
  | .update actor name req => lockedUpdate actor name req
  | .rollback actor name direction => do
    let _ ← lockedRollback actor name direction
    return ()
  | .delete actor name => lockedDelete actor name

def PolicyOp.code (op : PolicyOp) : Prog ConsoleState DbInput Unit :=
  op.prog.discard

end PolicyService

end KubeSentry.Console
