import KubeSentry.Admission.StoragePolicy
import KubeSentry.GoLib.Run

/-!
# The member's admission event queue

`internal/operator/hublink/client.go`: the queue between the webhook and the
gateway.  An event is submitted, handed to `send`, acknowledged, and failed by a
timeout, a failed send, a retryable ack or the end of a session.

Five loops work on the queue, each under the lock: the loop over a submitted
batch, the two loops of a send tick, the loop after a failed send, the loop over
the results of an ack, and the loop at the end of a session.  `Round` is one
round of one of them, and `Input` what starts them.  `send` itself runs outside
the lock, so its outcome is an input of its own, and several sends may be
pending: a session can end while one is on its way.

`handOffs` is the one field that the source does not have.  It counts how often
an event has been handed to `send`; `attempt` cannot, because it is an `int32`
that wraps around.

The incident tracker is the list of its `Record` calls.
-/

namespace KubeSentry.Hublink

open GoLib

/-! ## State -/

/-- `queuedAdmissionEvent`, with `none` for the zero time. -/
structure QueuedAdmissionEvent where
  event : AdmissionEvent
  retryCount : Nat := 0
  attempt : Int := 0
  inFlight : Bool := false
  ackDeadline : Option Time := none
  handOffs : Nat := 0
  deriving DecidableEq

/-- The incident reasons of this file. -/
inductive IncidentReason where
  | queueFull
  | ackTimeout
  | retryExhausted
  deriving DecidableEq, Repr

/-- A call `incidentTracker.Record(reason, 1, eventID, detail, now)`. -/
structure Incident where
  reason : IncidentReason
  eventID : String
  detail : String
  deriving DecidableEq

/-- The parts of `Link` that the queue uses. -/
structure Link where
  events : GoMap QueuedAdmissionEvent := ∅
  eventConfig : Option AdmissionEventConfig := none
  incidents : List Incident := []
  /-- The ids of the batches that `send` has not returned for. -/
  pending : List (List String) := []

def eventAckTimeout : Int := 5000000000

def reasonGatewayACKTimeout : String := "gateway_ack_timeout"

/-- The result of `admissionDeliveryConfig`. -/
structure DeliveryConfig where
  retryEnabled : Bool
  maxRetryAttempts : Nat
  queueCapacity : Nat
  deriving DecidableEq

/-- `admissionDeliveryConfig`. -/
def admissionDeliveryConfig : Option AdmissionEventConfig → DeliveryConfig
  | none => { retryEnabled := false, maxRetryAttempts := 3, queueCapacity := 1024 }
  | some config =>
    { retryEnabled := config.retryEnabled
      maxRetryAttempts := if config.maxRetryAttempts > 0 then config.maxRetryAttempts.toNat else 3
      queueCapacity := if config.queueCapacity > 0 then config.queueCapacity.toNat else 1024 }

variable (l : Link)

/-- The configuration in force. -/
def Link.delivery : DeliveryConfig :=
  admissionDeliveryConfig l.eventConfig

/-- `incidentTracker.Record`. -/
def Link.record (reason : IncidentReason) (eventID detail : String) : Link :=
  { l with incidents := l.incidents ++ [⟨reason, eventID, detail⟩] }

/-! ## Rounds -/

/-- The extra incident of an ack timeout in `failAdmissionEventLocked`. -/
def Link.noteTimeout (eventID reason : String) : Link :=
  if reason = reasonGatewayACKTimeout then l.record .ackTimeout eventID reason else l

/-- `failAdmissionEventLocked`. -/
def Link.failAdmissionEventLocked (eventID reason : String) : Link :=
  match l.events[eventID]? with
  | none => l
  | some queued =>
    let l := l.noteTimeout eventID reason
    if !l.delivery.retryEnabled || l.delivery.maxRetryAttempts ≤ queued.retryCount then
      ({ l with events := l.events.erase eventID } : Link).record .retryExhausted eventID reason
    else
      { l with
        events := l.events.insert eventID
          { queued with
            retryCount := queued.retryCount + 1, inFlight := false, ackDeadline := none } }

/-- `!queued.ackDeadline.After(now)`. -/
def QueuedAdmissionEvent.overdue (queued : QueuedAdmissionEvent) (now : Time) : Bool :=
  match queued.ackDeadline with
  | none => true
  | some deadline => deadline ≤ now

/-- A round of the loop that looks for missing acks. -/
def Link.timeoutRound (now : Time) (id : String) : Link :=
  match l.events[id]? with
  | none => l
  | some queued =>
    if queued.inFlight && queued.overdue now then
      l.failAdmissionEventLocked id reasonGatewayACKTimeout
    else l

/-- A round of the loop that fills the outgoing batch. -/
def Link.sendRound (now : Time) (id : String) : Link :=
  match l.events[id]? with
  | none => l
  | some queued =>
    if queued.inFlight then l
    else
      { l with
        events := l.events.insert id
          { queued with
            inFlight := true, ackDeadline := some (now + eventAckTimeout)
            attempt := int32 (queued.attempt + 1), handOffs := queued.handOffs + 1 } }

/-- A round of the two loops that fail what is in flight: after a failed send,
and at the end of a session. -/
def Link.failRound (reason id : String) : Link :=
  match l.events[id]? with
  | none => l
  | some queued => if queued.inFlight then l.failAdmissionEventLocked id reason else l

/-- A round of `ackAdmissionEvents`. -/
def Link.ackRound (result : AckResult) : Link :=
  match l.events[result.eventID]? with
  | none => l
  | some queued =>
    if result.deliveryAttempt ≠ 0 ∧ result.deliveryAttempt ≠ queued.attempt then l
    else
      match result.status with
      | .accepted | .discarded => { l with events := l.events.erase result.eventID }
      | .retryable => l.failAdmissionEventLocked result.eventID result.reason
      | .unspecified => l

/-- `shouldDiscardAdmissionEvent`. -/
def shouldDiscardAdmissionEvent (config : Option AdmissionEventConfig) (clusterName : String)
    (event : AdmissionEvent) : Bool :=
  match config with
  | none => false
  | some config =>
    !Admission.shouldStore (config.storagePolicies.map Admission.ruleOf)
      { verdict := event.verdict, clusterName := clusterName, apiGroup := event.apiGroup
        resource := event.resource, namespaceName := event.namespaceName }

/-- The stored copy of a submitted event. -/
def storedEvent (config : Option AdmissionEventConfig) (clusterPrefix : String)
    (event : AdmissionEvent) : AdmissionEvent :=
  let event :=
    match config with
    | none => event
    | some config => { event with storagePolicyVersion := config.version }
  if clusterPrefix ≠ "" then { event with eventID := clusterPrefix ++ "-" ++ event.eventID }
  else event

/-- A round of `SubmitAdmissionEvents`, with the result it appends. -/
def Link.submitRound (clusterName clusterPrefix : String)
    (event : Option AdmissionEvent) : Link × List AckResult :=
  match event with
  | none => (l, [])
  | some event =>
    if event.eventID = "" then (l, [])
    else if shouldDiscardAdmissionEvent l.eventConfig clusterName event then
      (l, [{ eventID := event.eventID, status := .discarded
             reason := "storage_policy_no_retain" }])
    else
      let stored := storedEvent l.eventConfig clusterPrefix event
      if stored.eventID ∈ l.events then
        (l, [{ eventID := event.eventID, status := .accepted }])
      else if l.delivery.queueCapacity ≤ l.events.size then
        (l.record .queueFull event.eventID "operator admission event queue is full",
          [{ eventID := event.eventID, status := .retryable
             reason := "operator_event_queue_full" }])
      else
        ({ l with events := l.events.insert stored.eventID { event := stored } },
          [{ eventID := event.eventID, status := .accepted }])

/-- The loop of `SubmitAdmissionEvents`. -/
def submitLoop (clusterName clusterPrefix : String) (acc : Link × List AckResult)
    (event : Option AdmissionEvent) : Link × List AckResult :=
  ((acc.1.submitRound clusterName clusterPrefix event).1,
    acc.2 ++ (acc.1.submitRound clusterName clusterPrefix event).2)

/-- `SubmitAdmissionEvents`; the results are nil where it returns false. -/
def Link.submitAdmissionEvents (isLeader : Bool) (clusterName clusterPrefix : String)
    (batch : List (Option AdmissionEvent)) : Link × Option (List AckResult) :=
  if !isLeader || batch.length = 0 then (l, none)
  else
    let out := batch.foldl (submitLoop clusterName clusterPrefix) (l, [])
    (out.1, some out.2)

/-- One round of one of the loops. -/
inductive Round where
  | submit (clusterName clusterPrefix : String) (event : Option AdmissionEvent)
  | timeout (now : Time) (id : String)
  | send (now : Time) (id : String)
  | fail (reason id : String)
  | ack (result : Option AckResult)

def Link.round : Round → Link
  | .submit clusterName clusterPrefix event => (l.submitRound clusterName clusterPrefix event).1
  | .timeout now id => l.timeoutRound now id
  | .send now id => l.sendRound now id
  | .fail reason id => l.failRound reason id
  | .ack none => l
  | .ack (some result) => l.ackRound result

/-! ## Inputs -/

/-- What happens to the queue. -/
inductive Input where
  /-- `SubmitAdmissionEvents`, with what it reads besides the queue. -/
  | submit (isLeader : Bool) (clusterName clusterPrefix : String)
      (batch : List (Option AdmissionEvent))
  /-- A tick of `sendAdmissionEvents` up to the call of `send`, with the orders
  of its two ranges. -/
  | tick (now : Time) (timeouts sends : Shuffle)
  /-- The return of a pending `send`. -/
  | sendReturns (index : Nat) (ok : Bool)
  /-- `ackAdmissionEvents`. -/
  | ack (results : List (Option AckResult))
  /-- `failInFlightAdmissionEvents` at the end of a session. -/
  | sessionClosed (order : Shuffle)
  /-- `setEventConfig`. -/
  | setEventConfig (config : Option AdmissionEventConfig)

/-- The rounds of the loop that looks for missing acks. -/
def Link.timeoutRounds (now : Time) (order : Shuffle) : List Round :=
  (order.run l.events.keys).map (Round.timeout now)

/-- The ids that a tick hands to `send`, once the overdue events have failed. -/
def Link.eventIDs (order : Shuffle) : List String :=
  (order.run l.events.keys).filter fun id => l.events[id]?.any fun queued => !queued.inFlight

/-- The rounds that an input runs, in order. -/
def Link.rounds : Input → List Round
  | .submit isLeader clusterName clusterPrefix batch =>
    if !isLeader || batch.length = 0 then []
    else batch.map (Round.submit clusterName clusterPrefix)
  | .tick now timeouts sends =>
    let failed := run Link.round l (l.timeoutRounds now timeouts)
    l.timeoutRounds now timeouts ++ (failed.eventIDs sends).map (Round.send now)
  | .sendReturns index ok =>
    if ok then [] else (l.pending[index]?.getD []).map (Round.fail "send_failed")
  | .ack results => results.map Round.ack
  | .sessionClosed order => (order.run l.events.keys).map (Round.fail "sync_stream_closed")
  | .setEventConfig _ => []

/-- What an input does besides its rounds: a tick starts a send of the ids it
handed over, and a send that returns is over. -/
def Link.finish (before after : Link) : Input → Link
  | .tick now timeouts sends =>
    let ids := (run Link.round before (before.timeoutRounds now timeouts)).eventIDs sends
    if ids.length = 0 then after else { after with pending := after.pending ++ [ids] }
  | .sendReturns index _ => { after with pending := after.pending.eraseIdx index }
  | .setEventConfig config => { after with eventConfig := config }
  | _ => after

/-- One input. -/
def Link.step (a : Input) : Link :=
  l.finish (run Link.round l (l.rounds a)) a

end KubeSentry.Hublink
