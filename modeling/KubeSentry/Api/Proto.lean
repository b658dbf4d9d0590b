import KubeSentry.Api.Types

/-!
# Gateway protocol messages

The messages of `api/proto/gateway/v1/gateway.proto` that the modelled parts
of the gateway and of the member exchange.  A repeated field of messages holds
pointers in Go; where the code tests one for nil, the element is an `Option`.
-/

namespace KubeSentry

/-- The conversion `int32(x)`. -/
def int32 (x : Int) : Int :=
  Int.bmod x (2 ^ 32)

/-! ## Delivery configuration -/

/-- `MatchModeInclude` and `MatchModeExclude`; the Go field is a string. -/
inductive MatchMode where
  | include
  | exclude
  | other (text : String)
  deriving DecidableEq, Repr

structure AdmissionStoragePolicy where
  priority : Int
  matchMode : MatchMode
  verdicts : List String
  clusters : List String
  gvks : List String
  namespaces : List String
  deriving DecidableEq

structure AdmissionEventConfig where
  version : String
  defaultRetentionDays : Int
  storagePolicies : List AdmissionStoragePolicy
  retryEnabled : Bool
  maxRetryAttempts : Int
  queueCapacity : Int
  observationEnabled : Bool
  platformObservationEnabled : Bool
  deriving DecidableEq

structure UninstallTask where
  taskID : Int
  attempt : Int
  deriving DecidableEq

/-! ## Admission events -/

/-- `AdmissionEvent`.  Snapshots are raw JSON text. -/
structure AdmissionEvent where
  eventID : String
  clusterUID : String := ""
  occurredAt : Option Time := none
  verdict : String := ""
  apiGroup : String := ""
  apiVersion : String := ""
  resource : String := ""
  operation : String := ""
  namespaceName : String := ""
  resourceName : String := ""
  username : String := ""
  userGroups : List String := []
  policyNames : List String := []
  policyGroupNames : List String := []
  violations : List String := []
  metadataSnapshot : String := ""
  specSnapshot : String := ""
  storagePolicyVersion : String := ""
  requestUID : String := ""
  deliveryAttempt : Int := 0
  deriving DecidableEq

/-- The `Status` of one ack result. -/
inductive AckStatus where
  | unspecified
  | accepted
  | discarded
  | retryable
  deriving DecidableEq, Repr

/-- `AdmissionEventBatchAck_Result`. -/
structure AckResult where
  eventID : String
  status : AckStatus
  reason : String := ""
  deliveryAttempt : Int := 0
  deriving DecidableEq

/-! ## Link incidents -/

/-- `timestamppb.Timestamp`. -/
structure Timestamp where
  seconds : Int
  nanos : Int
  deriving DecidableEq

/-- The errors of `CheckValid`. -/
inductive TimestampError where
  | underflow
  | overflow
  | nanos
  deriving DecidableEq, Repr

namespace Timestamp

/-- `CheckValid`: the years 1 to 9999. -/
def checkValid (t : Timestamp) : Option TimestampError :=
  if t.seconds < -62135596800 then some .underflow
  else if 253402300799 < t.seconds then some .overflow
  else if t.nanos < 0 ∨ 1000000000 ≤ t.nanos then some .nanos
  else none

/-- `AsTime`. -/
def asTime (t : Timestamp) : Time := t.seconds * 1000000000 + t.nanos

/-- `timestamppb.New`. -/
def ofTime (t : Time) : Timestamp where
  seconds := t / 1000000000
  nanos := t % 1000000000

@[simp] theorem asTime_ofTime (t : Time) : (ofTime t).asTime = t :=
  Int.ediv_mul_add_emod t 1000000000

end Timestamp

/-- `LinkIncident`. -/
structure LinkIncident where
  incidentKey : String := ""
  reporterInstanceID : String := ""
  revision : Nat := 0
  component : String := ""
  reason : String := ""
  startedAt : Option Timestamp := none
  lastSeenAt : Option Timestamp := none
  affectedCount : Int := 0
  sampleEventIDs : List String := []
  detail : String := ""
  closed : Bool := false
  deriving DecidableEq

/-- `LinkIncidentBatchAck_Result`.  The status is the same enumeration as that
of the event acks. -/
structure LinkIncidentResult where
  incidentKey : String
  revision : Nat
  status : AckStatus
  reason : String := ""
  deriving DecidableEq

end KubeSentry
