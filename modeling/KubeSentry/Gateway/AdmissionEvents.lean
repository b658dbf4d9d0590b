import KubeSentry.Admission.StoragePolicy
import KubeSentry.Database.AdmissionEvents
import KubeSentry.Gateway.RenderFor

/-!
# Storing admission event batches

`handleAdmissionEventBatch` and `admissionEventFailureAck` of
`internal/gateway/admission_events.go`, and the case of `Sync` that joins them.
A batch arrives, each entry gets a decision, the accepted entries go to the
database in one transaction, and one ack goes back.

The clock is read once for a batch here and once for every use in the source.
The retention is at most 365 days by a CHECK of the schema, so the duration
does not overflow.  `json.Marshal` of a list of strings does not fail.
-/

namespace KubeSentry.Gateway

open GoLib Database Admission

/-! ## One entry -/

/-- The entries that the loops do not skip: not nil, and with an event id. -/
def deliverable (batch : List (Option AdmissionEvent)) : List AdmissionEvent :=
  batch.filterMap fun entry => entry.bind fun event => if event.eventID = "" then none else event

/-- The reasons of `discardedAdmissionEvent`. -/
inductive DiscardReason where
  | invalidEvent
  | storagePolicyNoMatch
  | retentionAlreadyElapsed
  deriving DecidableEq, Repr

def DiscardReason.text : DiscardReason → String
  | .invalidEvent => "invalid_event"
  | .storagePolicyNoMatch => "storage_policy_no_match"
  | .retentionAlreadyElapsed => "retention_already_elapsed"

/-- What the loop does with an entry. -/
inductive Decision where
  | discard (reason : DiscardReason)
  | accept (row : AdmissionEventRow)
  deriving DecidableEq

/-- `admissionEventOf`: what the storage rules see of a row. -/
def admissionEventOf (row : AdmissionEventRow) : RuleEvent where
  verdict := row.verdict
  clusterName := row.clusterName
  apiGroup := row.apiGroup
  resource := row.resource
  namespaceName := row.namespaceName

def shouldStoreAdmissionEvent (policies : List AdmissionStoragePolicy)
    (row : AdmissionEventRow) : Bool :=
  shouldStore (policies.map ruleOf) (admissionEventOf row)

/-- The row built from an entry.  The cluster is the one of the stream; the
entry's own cluster UID is not used. -/
def rowOf (cluster : ClusterRow) (now : Time) (event : AdmissionEvent) : AdmissionEventRow where
  eventID := event.eventID
  requestUID := event.requestUID
  clusterID := cluster.id
  clusterName := cluster.name
  occurredAt := event.occurredAt.getD now
  verdict := event.verdict
  apiGroup := event.apiGroup
  apiVersion := event.apiVersion
  resource := event.resource
  operation := event.operation
  namespaceName := event.namespaceName
  resourceName := event.resourceName
  username := event.username
  userGroups := event.userGroups
  policyNames := event.policyNames
  policyGroupNames := event.policyGroupNames
  violations := event.violations
  metadataSnapshot := event.metadataSnapshot
  specSnapshot := event.specSnapshot
  storagePolicyVersion := event.storagePolicyVersion

/-- `time.Duration(days) * 24 * time.Hour`. -/
def retention (settings : AdmissionEventSettings) : Int :=
  settings.defaultRetentionDays * 24 * 3600 * 1000000000

/-- The body of the loop over the batch. -/
def decideEvent (cluster : ClusterRow) (settings : AdmissionEventSettings)
    (policies : List AdmissionStoragePolicy) (now : Time) (event : AdmissionEvent) : Decision :=
  let row := rowOf cluster now event
  if event.verdict ≠ "audit" ∧ event.verdict ≠ "deny" then .discard .invalidEvent
  else if !shouldStoreAdmissionEvent policies row then .discard .storagePolicyNoMatch
  else if ¬ row.occurredAt + retention settings > now then .discard .retentionAlreadyElapsed
  else .accept row

def acceptedAdmissionEvent (event : AdmissionEvent) : AckResult where
  eventID := event.eventID
  status := .accepted
  deliveryAttempt := event.deliveryAttempt

def discardedAdmissionEvent (event : AdmissionEvent) (reason : DiscardReason) : AckResult where
  eventID := event.eventID
  status := .discarded
  reason := reason.text
  deliveryAttempt := event.deliveryAttempt

def Decision.result (event : AdmissionEvent) : Decision → AckResult
  | .discard reason => discardedAdmissionEvent event reason
  | .accept _ => acceptedAdmissionEvent event

def Decision.row? : Decision → Option AdmissionEventRow
  | .discard _ => none
  | .accept row => some row

/-! ## The batch -/

/-- The incident reasons of this file. -/
inductive GatewayIncidentReason where
  | batchFailure
  | writeFailed
  deriving DecidableEq, Repr

/-- A call `gatewayIncidentTracker.Record`. -/
structure GatewayIncident where
  reason : GatewayIncidentReason
  affected : Nat
  sampleEventID : String := ""
  detail : String
  deriving DecidableEq

/-- What one call meets: the server's configuration, the database with its
failures, and the clock.  `observing` says that the tracker is set and the
observation is enabled. -/
structure IngestEnv where
  repos : Repos := {}
  observing : Bool := true
  faults : Faults := fun _ => none
  tx : Transaction := {}
  db : Tables
  now : Time

/-- What one call returns and leaves behind. -/
structure BatchOutcome where
  ack : Option (List AckResult)
  err : Option String
  events : EventTable
  incidents : List GatewayIncident := []
  deriving DecidableEq

namespace IngestEnv

/-- The incidents that reach the tracker. -/
def record (env : IngestEnv) (incidents : List GatewayIncident) : List GatewayIncident :=
  if env.observing then incidents else []

/-- The incident of an entry with an invalid verdict. -/
def invalidIncident (event : AdmissionEvent) : Decision → Option GatewayIncident
  | .discard .invalidEvent =>
    some { reason := .batchFailure, affected := 1, sampleEventID := event.eventID
           detail := DiscardReason.invalidEvent.text }
  | _ => none

/-- `Clusters.GetByName`. -/
def getCluster [GoUnicode] (env : IngestEnv) (clusterName : String) : Except String ClusterRow := do
  let context := "get cluster " ++ quote clusterName ++ ": "
  let found ← fetch env.faults .clustersGetByName context
    (env.db.clusters.find? fun c => c.name = clusterName)
  match found with
  | some cluster => .ok cluster
  | none => .error (context ++ "record not found")

/-- `ack.Results` after the loop, for the loop's decisions. -/
def results (decide : AdmissionEvent → Decision) (batch : List (Option AdmissionEvent)) :
    List AckResult :=
  (deliverable batch).map fun event => (decide event).result event

/-- `accepted` after the loop. -/
def acceptedRows (decide : AdmissionEvent → Decision) (batch : List (Option AdmissionEvent)) :
    List AdmissionEventRow :=
  (deliverable batch).filterMap fun event => (decide event).row?

/-- `handleAdmissionEventBatch` after its reads: the loop and the insert. -/
def storeBatch (env : IngestEnv) (cluster : ClusterRow) (settings : AdmissionEventSettings)
    (policies : List AdmissionStoragePolicy) (events : EventTable)
    (batch : List (Option AdmissionEvent)) : BatchOutcome :=
  let decide := decideEvent cluster settings policies env.now
  let accepted := acceptedRows decide batch
  let invalid := (deliverable batch).filterMap fun event => invalidIncident event (decide event)
  match createEventsIdempotentCount env.tx events accepted with
  | (events, .ok _) =>
    { ack := some (results decide batch), err := none, events := events
      incidents := env.record invalid }
  | (events, .error err) =>
    { ack := some (results decide batch), err := some err, events := events
      incidents := env.record (invalid ++
        [{ reason := .writeFailed, affected := accepted.length, detail := err }]) }

/-- An outcome without an ack.  The table is as it was. -/
def refuse (events : EventTable) (err : String) (incidents : List GatewayIncident) : BatchOutcome :=
  { ack := none, err := some err, events := events, incidents := incidents }

def handleAdmissionEventBatch [GoUnicode] (env : IngestEnv) (clusterName : String)
    (events : EventTable) (batch : Option (List (Option AdmissionEvent))) : BatchOutcome :=
  if (batch.getD []).length = 0 then { ack := some [], err := none, events := events }
  else if !env.repos.admission then
    refuse events "admission event repository is not configured" []
  else
    match env.getCluster clusterName with
    | .error err => refuse events err []
    | .ok cluster =>
      match fetch env.faults .admissionGetSettings "get admission event settings: "
          env.db.admissionSettings with
      | .error err =>
        refuse events err (env.record [{ reason := .writeFailed, affected := 1, detail := err }])
      | .ok settings =>
        match fetch env.faults .admissionListPolicies ""
            (orderBy (fun p => p.priority) env.db.storagePolicies) with
        | .error err =>
          refuse events err (env.record [{ reason := .writeFailed, affected := 1, detail := err }])
        | .ok policies => env.storeBatch cluster settings policies events (batch.getD [])

end IngestEnv

/-- The rewrite of a result that is already in the ack. -/
def retryAccepted (reason : String) (result : AckResult) : AckResult :=
  if result.status = .accepted then { result with status := .retryable, reason := reason }
  else result

/-- The result that the failure ack adds for an entry. -/
def retryableAdmissionEvent (reason : String) (event : AdmissionEvent) : AckResult where
  eventID := event.eventID
  status := .retryable
  reason := reason
  deliveryAttempt := event.deliveryAttempt

/-- `admissionEventFailureAck`.  The set of answered ids is not extended while
the missing entries are added, so entries that share an id are all added. -/
def admissionEventFailureAck (ack : Option (List AckResult))
    (batch : Option (List (Option AdmissionEvent))) (reason : String) : List AckResult :=
  let results := ack.getD []
  let missing := (deliverable (batch.getD [])).filter fun event =>
    event.eventID ∉ results.map fun result => result.eventID
  results.map (retryAccepted reason) ++ missing.map (retryableAdmissionEvent reason)

/-- What a batch on a `Sync` stream leads to: the ack that is sent, the table
and the incidents. -/
structure SyncOutcome where
  ack : List AckResult
  events : EventTable
  incidents : List GatewayIncident
  failed : Bool
  deriving DecidableEq

/-- The `AdmissionEventBatch` case of `Sync`. -/
def syncAdmissionEventBatch [GoUnicode] (env : IngestEnv) (clusterName : String)
    (events : EventTable) (batch : Option (List (Option AdmissionEvent))) : SyncOutcome :=
  let out := env.handleAdmissionEventBatch clusterName events batch
  { ack :=
      if out.err.isSome then admissionEventFailureAck out.ack batch "gateway_storage_failed"
      else out.ack.getD []
    events := out.events
    incidents := out.incidents
    failed := out.err.isSome }

end KubeSentry.Gateway
