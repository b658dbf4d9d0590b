import KubeSentry.Api.Types

/-!
# Statuses and versions

The status of a `Policy` and the `PolicyVersion` objects, for the reconcilers that
write them.  `PolicyObject` is a `Policy` with the fields that the API server keeps
beside its spec.  Versions are `int64` in the source and integers here.
-/

namespace KubeSentry

/-- A `phase` field of a policy or a policy group. -/
inductive Phase where
  | unset
  | ready
  | invalid
  | syncing
  | disabled
  | degraded
  | other (text : String)
  deriving DecidableEq, Repr

structure PolicyVersionSummary where
  version : Int
  createdAt : Time
  phase : Phase
  deriving DecidableEq

structure PolicyStatus where
  phase : Phase := .unset
  message : String := ""
  -- An `int64` in Go.  Only the reconciler raises it, by at most eight with each snapshot that
  -- it stores, so it does not reach 2^63.
  currentVersion : Int := 0
  observedGeneration : Int := 0
  lastSyncTime : Option Time := none
  versionHistory : List PolicyVersionSummary := []
  referencedBy : List String := []
  deriving DecidableEq

/-- A policy with its UID, resource version and status. -/
structure PolicyObject extends Policy where
  uid : String := ""
  resourceVersion : Nat := 0
  status : PolicyStatus := {}
  deriving DecidableEq

structure PolicyVersionSpec where
  policyRef : String
  version : Int
  rego : String
  matching : PolicyMatch
  enforcementMode : EnforcementMode
  createdAt : Time
  deriving DecidableEq

/-- A `PolicyVersion`.  Its one owner reference is the UID of a policy.  Its name
and its two labels are made from the policy and the version in its spec. -/
structure PolicyVersion where
  ownerUID : String
  spec : PolicyVersionSpec
  deriving DecidableEq

def PolicyVersion.name (pv : PolicyVersion) : String :=
  pv.spec.policyRef ++ "-v" ++ toString pv.spec.version

end KubeSentry
