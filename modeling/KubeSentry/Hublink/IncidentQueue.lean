import KubeSentry.Admission.Tracker
import KubeSentry.Hublink.EventQueue

/-!
# The member's link incident queue

`internal/operator/hublink/observability.go`: incidents of the webhook arrive
over HTTP, incidents of the operator come from its own tracker, both wait in one
map, and the sync session sends them and removes what the gateway answers.

Two locks are involved.  The map has one, and the tracker has its own.  A
section under the map's lock may call the tracker, and other goroutines may call
the tracker in between.  The calls return nothing to the section, so a section
is modelled as one change of the map together with the calls that it makes.
They go to `owed`, and each is a step of its own.  Until the last one is made
the map is locked.

`enqueueLocalIncidents` takes its snapshot before it locks the map; `taken`
holds the snapshot in between.  `sendLinkIncidents` sends after it has released
the lock; `sending` holds the keys of the batches whose send has not returned.
-/

namespace KubeSentry.Hublink

open GoLib Observability

def operatorIncidentCapacity : Nat := 256

/-- `queuedLinkIncident`, with `none` for the zero time. -/
structure QueuedLinkIncident where
  incident : LinkIncident
  inFlight : Bool := false
  inFlightRevision : Nat := 0
  ackDeadline : Option Time := none
  deriving DecidableEq

/-- A call of the incident tracker. -/
inductive TrackerCall where
  | record (reason : String) (affected : Int) (sampleEventID detail : String) (now : Time)
  | acknowledge (key : String) (revision : Nat)
  deriving DecidableEq

/-! ## Submit -/

section

variable [GoUnicode]

def normalizeWebhookIncident (incoming : Option LinkIncident) : Except IncidentError LinkIncident :=
  match incidentModel incoming, incoming with
  | .error err, _ => .error err
  | .ok model, some wire =>
    if model.component ≠ .webhook then .error (.invalid "HTTP incidents must come from webhook")
    else .ok wire
  | .ok _, none => .error .missingFields

/-- A round of the loop of `SubmitLinkIncidents`. -/
def submitIncident (queue : GoMap QueuedLinkIncident) (incoming : Option LinkIncident) :
    GoMap QueuedLinkIncident × LinkIncidentResult :=
  match normalizeWebhookIncident incoming with
  | .error _ => (queue, linkIncidentACK incoming .discarded "invalid_report")
  | .ok incident =>
    match queue[incident.incidentKey]? with
    | some queued =>
      (if queued.incident.revision < incident.revision then
          queue.insert incident.incidentKey { queued with incident := incident }
        else queue,
        linkIncidentACK (some incident) .accepted "")
    | none =>
      if operatorIncidentCapacity ≤ queue.size then
        (queue, linkIncidentACK (some incident) .retryable "queue_full")
      else
        (queue.insert incident.incidentKey { incident := incident },
          linkIncidentACK (some incident) .accepted "")

/-- The loop of `SubmitLinkIncidents`. -/
def submitIncidents (queue : GoMap QueuedLinkIncident) :
    List (Option LinkIncident) → GoMap QueuedLinkIncident × List LinkIncidentResult
  | [] => (queue, [])
  | incoming :: rest =>
    let (queue, result) := submitIncident queue incoming
    let (queue, results) := submitIncidents queue rest
    (queue, result :: results)

end

/-! ## Enqueue -/

/-- The loop of `enqueueLocalIncidents`.  It stops at the first incident that
does not fit. -/
def enqueueIncidents (now : Time) (queue : GoMap QueuedLinkIncident) :
    List Observability.Incident → GoMap QueuedLinkIncident × List TrackerCall
  | [] => (queue, [])
  | item :: rest =>
    match queue[item.incidentKey]? with
    | some queued =>
      if queued.incident.revision < item.revision then
        enqueueIncidents now
          (queue.insert item.incidentKey { queued with incident := incidentProto item }) rest
      else enqueueIncidents now queue rest
    | none =>
      if operatorIncidentCapacity ≤ queue.size then
        (queue, [.record reasonReportDropped 1 "" "operator incident queue reached capacity" now])
      else
        enqueueIncidents now (queue.insert item.incidentKey { incident := incidentProto item }) rest

/-! ## Send -/

namespace QueuedLinkIncident

/-- In flight, and the deadline has passed. -/
def timedOut (queued : QueuedLinkIncident) (now : Time) : Bool :=
  queued.inFlight &&
    match queued.ackDeadline with
    | none => true
    | some deadline => deadline ≤ now

def cleared (queued : QueuedLinkIncident) : QueuedLinkIncident :=
  { queued with inFlight := false, ackDeadline := none }

def launched (queued : QueuedLinkIncident) (now : Time) : QueuedLinkIncident :=
  { queued with
    inFlight := true, inFlightRevision := queued.incident.revision
    ackDeadline := some (now + eventAckTimeout) }

end QueuedLinkIncident

/-- The variables of the loop of `sendLinkIncidents`. -/
structure SendLoop where
  queue : GoMap QueuedLinkIncident
  incidents : List LinkIncident := []
  keys : List String := []
  calls : List TrackerCall := []

/-- A round of the loop of `sendLinkIncidents`. -/
def SendLoop.round (now : Time) (acc : SendLoop) (key : String) : SendLoop :=
  match acc.queue[key]? with
  | none => acc
  | some queued =>
    let late := queued.timedOut now
    let calls :=
      if late then acc.calls ++ [.record reasonACKTimeout 1 "" key now] else acc.calls
    let queued := if late then queued.cleared else queued
    if queued.inFlight || maxBatchSize ≤ acc.incidents.length then
      { acc with queue := acc.queue.insert key queued, calls := calls }
    else
      { queue := acc.queue.insert key (queued.launched now)
        incidents := acc.incidents ++ [queued.incident]
        keys := acc.keys ++ [key]
        calls := calls }

/-- The loop of `sendLinkIncidents`, in the order of the map iteration. -/
def sendIncidents (order : Shuffle) (now : Time) (queue : GoMap QueuedLinkIncident) : SendLoop :=
  (order.run queue.keys).foldl (SendLoop.round now) { queue := queue }

/-- A round of the loop after a failed send. -/
def clearInFlight (queue : GoMap QueuedLinkIncident) (key : String) : GoMap QueuedLinkIncident :=
  match queue[key]? with
  | none => queue
  | some queued => queue.insert key { queued with inFlight := false }

/-- A round of `failInFlightLinkIncidents`. -/
def failIncident (queue : GoMap QueuedLinkIncident) (key : String) : GoMap QueuedLinkIncident :=
  match queue[key]? with
  | none => queue
  | some queued => queue.insert key queued.cleared

/-! ## Ack -/

/-- A result after which the incident is not sent again. -/
def terminal (result : LinkIncidentResult) : Bool :=
  result.status = .accepted || result.status = .discarded

/-- A round of `ackLinkIncidents`. -/
def ackIncident (acc : GoMap QueuedLinkIncident × List TrackerCall)
    (result : Option LinkIncidentResult) : GoMap QueuedLinkIncident × List TrackerCall :=
  match result with
  | none => acc
  | some result =>
    match acc.1[result.incidentKey]? with
    | none => acc
    | some queued =>
      if result.revision < queued.inFlightRevision then acc
      else if terminal result then
        (if queued.incident.revision ≤ result.revision then acc.1.erase result.incidentKey
          else acc.1.insert result.incidentKey { queued with inFlight := false },
          acc.2 ++ [.acknowledge result.incidentKey result.revision])
      else (acc.1.insert result.incidentKey queued.cleared, acc.2)

/-! ## The system -/

/-- The parts of `Link` that the incidents use. -/
structure IncidentLink where
  incidents : GoMap QueuedLinkIncident := ∅
  tracker : Tracker
  eventConfig : Option AdmissionEventConfig
  /-- The calls that the section under the lock still has to make. -/
  owed : List TrackerCall := []
  /-- The snapshot that `enqueueLocalIncidents` has taken. -/
  taken : Option (Time × List Observability.Incident) := none
  /-- The keys of the batches whose send has not returned. -/
  sending : List (List String) := []

/-- The observation is enabled in this configuration. -/
def observing (config : Option AdmissionEventConfig) : Bool :=
  config.any fun c => c.observationEnabled

/-- `admissionObservationEnabled`. -/
def IncidentLink.admissionObservationEnabled (l : IncidentLink) : Bool :=
  observing l.eventConfig

/-- What happens on the member. -/
inductive IncidentEvent where
  /-- `RecordLinkIncident`, and the `Record` calls of the event queue. -/
  | record (reason : String) (affected : Int) (sampleEventID detail : String) (now : Time)
  /-- A tick of `generateOperatorIncidents`: the snapshot of `enqueueLocalIncidents`. -/
  | snapshot (isLeader : Bool) (order : Shuffle) (now : Time)
  /-- The section of `enqueueLocalIncidents`. -/
  | enqueue
  | submit (isLeader : Bool) (now : Time) (batch : Option (List (Option LinkIncident)))
  /-- The section of `sendLinkIncidents`. -/
  | send (order : Shuffle) (now : Time)
  /-- The send of one of the batches returns. -/
  | sendReturned (index : Nat) (ok : Bool)
  | ack (results : Option (List (Option LinkIncidentResult)))
  | failInFlight
  /-- The section under the lock makes its next call of the tracker. -/
  | trackerCall
  | setEventConfig (config : Option AdmissionEventConfig)

variable (source : Nat → Option String)

def TrackerCall.run (t : Tracker) : TrackerCall → Tracker
  | .record reason affected sampleEventID detail now =>
    t.record source reason affected sampleEventID detail now
  | .acknowledge key revision => t.acknowledge key revision

namespace IncidentLink

/-- `RecordLinkIncident`. -/
def recordLinkIncident (l : IncidentLink) (reason : String) (affected : Int)
    (sampleEventID detail : String) (now : Time) : IncidentLink :=
  if !l.admissionObservationEnabled then l
  else { l with tracker := l.tracker.record source reason affected sampleEventID detail now }

/-- `SubmitLinkIncidents`. -/
def submitLinkIncidents [GoUnicode] (l : IncidentLink) (isLeader : Bool) (now : Time)
    (batch : Option (List (Option LinkIncident))) : IncidentLink × List LinkIncidentResult :=
  let batch := batch.getD []
  if batch.length = 0 then (l, [])
  else if maxBatchSize < batch.length then (l, answerAll .discarded "batch_too_large" batch)
  else if !l.admissionObservationEnabled then
    (l, answerAll .discarded "admission_pipeline_observation_disabled" batch)
  else if !isLeader then
    (l.recordLinkIncident source reasonBatchFailure batch.length "" "not_leader" now,
      answerAll .retryable "not_leader" batch)
  else
    let out := submitIncidents l.incidents batch
    ({ l with incidents := out.1 }, out.2)

/-- `setEventConfig`. -/
def setEventConfig (l : IncidentLink) (config : Option AdmissionEventConfig) : IncidentLink :=
  if observing config then { l with eventConfig := config }
  else { l with eventConfig := config, incidents := ∅, tracker := l.tracker.reset }

/-- A section under the lock of the map; it waits while the lock is held. -/
def locked (l : IncidentLink) (change : IncidentLink → IncidentLink) : IncidentLink :=
  if l.owed = [] then change l else l

/-- One event. -/
def step [GoUnicode] (l : IncidentLink) : IncidentEvent → IncidentLink
  | .record reason affected sampleEventID detail now =>
    l.recordLinkIncident source reason affected sampleEventID detail now
  | .snapshot isLeader order now =>
    if isLeader && l.admissionObservationEnabled && l.taken.isNone then
      let tracker := l.tracker.afterSnapshot source order now
      { l with tracker := tracker, taken := some (now, tracker.items) }
    else l
  | .enqueue =>
    match l.taken with
    | none => l
    | some (now, items) =>
      l.locked fun l =>
        let out := enqueueIncidents now l.incidents items
        { l with incidents := out.1, owed := out.2, taken := none }
  | .submit isLeader now batch =>
    l.locked fun l => (l.submitLinkIncidents source isLeader now batch).1
  | .send order now =>
    l.locked fun l =>
      let out := sendIncidents order now l.incidents
      { l with
        incidents := out.queue, owed := out.calls
        sending := if out.incidents = [] then l.sending else l.sending ++ [out.keys] }
  | .sendReturned index ok =>
    match l.sending[index]? with
    | none => l
    | some keys =>
      if ok then { l with sending := l.sending.eraseIdx index }
      else
        l.locked fun l =>
          { l with
            sending := l.sending.eraseIdx index
            incidents := keys.foldl clearInFlight l.incidents }
  | .ack results =>
    match results with
    | none => l
    | some results =>
      l.locked fun l =>
        let out := results.foldl ackIncident (l.incidents, [])
        { l with incidents := out.1, owed := out.2 }
  | .failInFlight =>
    l.locked fun l => { l with incidents := l.incidents.keys.foldl failIncident l.incidents }
  | .trackerCall =>
    match l.owed with
    | [] => l
    | call :: rest => { l with tracker := call.run source l.tracker, owed := rest }
  | .setEventConfig config => l.locked fun l => l.setEventConfig config

end IncidentLink

end KubeSentry.Hublink
