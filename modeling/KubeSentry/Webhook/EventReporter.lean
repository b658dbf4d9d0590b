import KubeSentry.GoLib.Run
import KubeSentry.Api.Proto
import KubeSentry.Webhook.References

/-!
# The webhook's event reporter

`HTTPAdmissionEventReporter` of `internal/webhook/admission_events.go`.  `Report`
turns a denied or audited request into an event and offers it to a bounded
channel.  One goroutine takes events from the channel and posts them to the
operator, and a delivery that may be repeated waits for a timer, which offers the
event to the channel again.

An event that a post is on its way for is in none of the lists, so the goroutine
has two steps: it takes an event, and later the exchange with the operator is
over.  Reports and timers run in between.  A goroutine that finds the channel
full records an incident next and touches nothing else, so this is one step.

Events are told apart by the pointer that the channel carries (`key`), since
nothing keeps two of them from having the same id.  The last three fields of the
state are logs that the source does not have.
-/

namespace KubeSentry.Webhook

/-! ## Events -/

/-- The request fields that only `Report` reads.  `metadata` and `spec` are raw
members of the object, empty where it has none. -/
structure ReviewedRequest extends AdmissionRequest where
  apiVersion : String := ""
  name : String := ""
  username : String := ""
  userGroups : List String := []
  metadata : String := ""
  spec : String := ""

/-- The verdict of a response, with none where there is nothing to report, and
the violations of the event. -/
def reportedVerdict (response : AdmissionResponse) : Option (String × List String) :=
  if !response.allowed then
    match response.result with
    | some status => some ("deny", [status.message])
    | none => some ("deny", response.warnings)
  else if response.warnings.length > 0 then some ("audit", response.warnings)
  else none

/-- The event that `Report` builds.  The id comes from `newAdmissionEventULID`. -/
def newAdmissionEvent (id : String) (now : Time) (req : ReviewedRequest) (verdict : String)
    (violations : List String) : AdmissionEvent :=
  let references := admissionEventReferences violations
  { eventID := id
    requestUID := req.uid
    occurredAt := some now
    verdict := verdict
    apiGroup := req.apiGroup
    apiVersion := req.apiVersion
    resource := req.resource
    operation := req.operation
    namespaceName := req.namespaceName
    resourceName := req.name
    username := req.username
    userGroups := req.userGroups
    policyNames := references.policies
    policyGroupNames := references.groups
    violations := violations
    metadataSnapshot := req.metadata
    specSnapshot := req.spec }

/-! ## Delivery -/

/-- What the delivery of an event meets: the encoder, the request and the
operator.  The body of a response is none where reading it fails, and `some none`
where it is not an ack. -/
inductive Exchange where
  | marshalFailed
  | requestBuildFailed
  | transportError
  | response (statusCode : Int) (body : Option (Option (List AckResult)))
  deriving DecidableEq

/-- A request went out. -/
def Exchange.posted : Exchange → Bool
  | .marshalFailed => false
  | .requestBuildFailed => false
  | .transportError => true
  | .response _ _ => true

/-- `HTTPFailureReason`. -/
def httpFailureReason (status : Int) : String :=
  if status ≥ 400 ∧ status < 500 then "http_4xx"
  else if status ≥ 500 ∧ status < 600 then "http_5xx"
  else "unknown"

/-- `eventDeliveryResult`. -/
structure EventDeliveryResult where
  reason : String
  terminal : Bool := false
  reachedOperator : Bool := false
  dropped : Bool := false
  deriving DecidableEq

/-- The end of `deliver`, for the one result of the ack. -/
def ackDelivery (result : AckResult) : EventDeliveryResult :=
  match result.status with
  | .accepted | .discarded => { reason := result.reason, terminal := true, reachedOperator := true }
  | _ =>
    if result.reason ≠ "" then { reason := result.reason }
    else { reason := "operator_retryable" }

/-- `deliver`. -/
def deliver (event : AdmissionEvent) : Exchange → EventDeliveryResult
  | .marshalFailed => { reason := "marshal_failed", terminal := true, dropped := true }
  | .requestBuildFailed => { reason := "request_build_failed", terminal := true, dropped := true }
  | .transportError => { reason := "post_failed" }
  | .response statusCode body =>
    if statusCode < 200 ∨ statusCode ≥ 300 then { reason := httpFailureReason statusCode }
    else
      match body with
      | none => { reason := "ack_read_failed" }
      | some none => { reason := "ack_invalid" }
      | some (some results) =>
        match results with
        | [result] =>
          if result.eventID ≠ event.eventID then { reason := "ack_invalid" }
          else ackDelivery result
        | _ => { reason := "ack_invalid" }

/-! ## The reporter -/

/-- `queuedEvent`. -/
structure QueuedEvent where
  key : Nat
  event : AdmissionEvent
  attempts : Nat := 0
  deriving DecidableEq

inductive ReporterReason where
  | queueFull
  | batchFailure
  | retryExhausted
  deriving DecidableEq, Repr

/-- A call of `recordIncident`. -/
structure RecordedIncident where
  reason : ReporterReason
  eventID : String
  detail : String
  deriving DecidableEq

/-- `HTTPAdmissionEventReporter`, with the goroutine and the timers. -/
structure EventReporter where
  queue : List QueuedEvent := []
  inFlight : Option QueuedEvent := none
  timers : List QueuedEvent := []
  /-- The events that `Report` has built; the key of an event is its place. -/
  created : List AdmissionEvent := []
  exchanges : List (Nat × Exchange) := []
  incidents : List (Nat × RecordedIncident) := []

def queueCapacity : Nat := 256

def maxWebhookDeliveryAttempts : Nat := 4

namespace EventReporter

variable (r : EventReporter)

/-- `recordIncident`. -/
def recordIncident (reason : ReporterReason) (q : QueuedEvent) (detail : String) : EventReporter :=
  { r with incidents := r.incidents ++ [(q.key, ⟨reason, q.event.eventID, detail⟩)] }

/-- The `select` of `Report` and of the timers. -/
def offer (q : QueuedEvent) : EventReporter :=
  if r.queue.length < queueCapacity then { r with queue := r.queue ++ [q] }
  else r.recordIncident .queueFull q "webhook admission event queue is full"

/-- `Report`. -/
def report (id : String) (now : Time) (req : ReviewedRequest)
    (response : AdmissionResponse) : EventReporter :=
  match reportedVerdict response with
  | none => r
  | some (verdict, violations) =>
    let event := newAdmissionEvent id now req verdict violations
    let q : QueuedEvent := { key := r.created.length, event := event }
    ({ r with created := r.created ++ [event] } : EventReporter).offer q

/-- `run` receives an event, if it is not busy. -/
def take : EventReporter :=
  match r.inFlight, r.queue with
  | none, q :: rest =>
    { r with queue := rest, inFlight := some { q with attempts := q.attempts + 1 } }
  | _, _ => r

/-- What `run` does with the result of `deliver`. -/
def settle (q : QueuedEvent) (result : EventDeliveryResult) : EventReporter :=
  if result.terminal then
    if result.dropped then r.recordIncident .batchFailure q result.reason else r
  else if q.attempts ≥ maxWebhookDeliveryAttempts then
    r.recordIncident .retryExhausted q result.reason
  else { r with timers := r.timers ++ [q] }

/-- `deliver` returns to `run`. -/
def finish (x : Exchange) : EventReporter :=
  match r.inFlight with
  | none => r
  | some q =>
    ({ r with inFlight := none, exchanges := r.exchanges ++ [(q.key, x)] } : EventReporter).settle q
      (deliver q.event x)

/-- The timer at this place fires. -/
def fire (place : Nat) : EventReporter :=
  match r.timers[place]? with
  | none => r
  | some q => ({ r with timers := r.timers.eraseIdx place } : EventReporter).offer q

end EventReporter

/-- What happens to the reporter. -/
inductive ReporterInput where
  | report (id : String) (now : Time) (req : ReviewedRequest) (response : AdmissionResponse)
  | take
  | finish (x : Exchange)
  | fire (place : Nat)

def EventReporter.step (r : EventReporter) : ReporterInput → EventReporter
  | .report id now req response => r.report id now req response
  | .take => r.take
  | .finish x => r.finish x
  | .fire place => r.fire place

end KubeSentry.Webhook
