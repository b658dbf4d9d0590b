import Mathlib.Data.List.Perm.Basic
import KubeSentry.Webhook.EventReporter

/-!
# Every event is accounted for

An event that `Report` builds is in exactly one place: under way, which means in
the channel, with the goroutine or with a timer; acknowledged; or dropped with one
incident.  `Ledger` says so with counts over the logs, and it does not know
where in the reporter an event is.  A move between two places is a permutation
of the open events, and only four kinds of entry change the ledger: a new event,
an exchange that does not acknowledge, one that does, and an incident.
-/

namespace KubeSentry.Webhook

open GoLib EventReporter

/-! ## What the logs say about an event -/

/-- The exchange is an ACCEPTED or DISCARDED ack for this id. -/
def Exchange.acknowledges (id : String) : Exchange → Bool
  | .response statusCode (some (some [result])) =>
    200 ≤ statusCode && statusCode < 300 && result.eventID = id &&
      (result.status = .accepted || result.status = .discarded)
  | _ => false

/-- How often the event was posted. -/
def postsOf (exchanges : List (Nat × Exchange)) (k : Nat) : Nat :=
  exchanges.countP fun x => x.1 = k && x.2.posted

/-- How often the operator acknowledged the event. -/
def acksOf (exchanges : List (Nat × Exchange)) (k : Nat) (id : String) : Nat :=
  exchanges.countP fun x => x.1 = k && x.2.acknowledges id

/-- How often an incident was recorded for the event. -/
def dropsOf (incidents : List (Nat × RecordedIncident)) (k : Nat) : Nat :=
  incidents.countP fun i => i.1 = k

/-- How often the event is among these. -/
def openOf (events : List QueuedEvent) (k : Nat) : Nat :=
  events.countP fun q => q.key = k

variable (exchanges : List (Nat × Exchange))

@[simp] theorem postsOf_snoc (j : Nat) (x : Exchange) (k : Nat) :
    postsOf (exchanges ++ [(j, x)]) k =
      postsOf exchanges k + if j = k ∧ x.posted = true then 1 else 0 := by
  simp [postsOf, List.countP_append, List.countP_cons]

@[simp] theorem acksOf_snoc (j : Nat) (x : Exchange) (k : Nat) (id : String) :
    acksOf (exchanges ++ [(j, x)]) k id =
      acksOf exchanges k id + if j = k ∧ x.acknowledges id = true then 1 else 0 := by
  simp [acksOf, List.countP_append, List.countP_cons]

@[simp] theorem dropsOf_snoc (incidents : List (Nat × RecordedIncident)) (j : Nat)
    (i : RecordedIncident) (k : Nat) :
    dropsOf (incidents ++ [(j, i)]) k = dropsOf incidents k + if j = k then 1 else 0 := by
  simp [dropsOf, List.countP_append, List.countP_cons]

@[simp] theorem openOf_cons (q : QueuedEvent) (events : List QueuedEvent) (k : Nat) :
    openOf (q :: events) k = openOf events k + if q.key = k then 1 else 0 := by
  simp [openOf, List.countP_cons]

theorem openOf_pos {q : QueuedEvent} {events : List QueuedEvent} (h : q ∈ events) :
    0 < openOf events q.key :=
  List.countP_pos_iff.mpr ⟨q, h, by simp⟩

/-- What `deliver` makes of an exchange: it ends with an ack, it ends with a drop
before anything was posted, or it is to be repeated. -/
theorem deliver_cases (event : AdmissionEvent) (x : Exchange) :
    ((deliver event x).terminal = true ∧ (deliver event x).dropped = false ∧
        x.acknowledges event.eventID = true) ∨
      ((deliver event x).terminal = true ∧ (deliver event x).dropped = true ∧
        x.acknowledges event.eventID = false) ∨
      ((deliver event x).terminal = false ∧ x.acknowledges event.eventID = false) := by
  cases x with
  | marshalFailed => exact .inr (.inl ⟨rfl, rfl, rfl⟩)
  | requestBuildFailed => exact .inr (.inl ⟨rfl, rfl, rfl⟩)
  | transportError => exact .inr (.inr ⟨rfl, rfl⟩)
  | response statusCode body =>
    by_cases hcode : statusCode < 200 ∨ statusCode ≥ 300
    · have hno : Exchange.acknowledges event.eventID (.response statusCode body) = false := by
        unfold Exchange.acknowledges
        split
        · rename_i heq
          injection heq with hstatus hbody
          subst hstatus
          simp only [Bool.and_eq_false_iff, decide_eq_false_iff_not]
          omega
        · rfl
      simp [deliver, hcode, hno]
    · have hrange : 200 ≤ statusCode ∧ statusCode < 300 := by omega
      rcases body with - | - | - | ⟨result, - | ⟨second, rest⟩⟩
      · simp [deliver, hcode, Exchange.acknowledges]
      · simp [deliver, hcode, Exchange.acknowledges]
      · simp [deliver, hcode, Exchange.acknowledges]
      · by_cases hid : result.eventID = event.eventID
        · cases hstatus : result.status with
          | accepted =>
            simp [deliver, hcode, hid, ackDelivery, hstatus, Exchange.acknowledges, hrange]
          | discarded =>
            simp [deliver, hcode, hid, ackDelivery, hstatus, Exchange.acknowledges, hrange]
          | retryable =>
            by_cases hreason : result.reason = "" <;>
              simp [deliver, hcode, hid, ackDelivery, hstatus, Exchange.acknowledges, hreason]
          | unspecified =>
            by_cases hreason : result.reason = "" <;>
              simp [deliver, hcode, hid, ackDelivery, hstatus, Exchange.acknowledges, hreason]
        · simp [deliver, hcode, hid, Exchange.acknowledges]
      · simp [deliver, hcode, Exchange.acknowledges]

/-! ## The ledger -/

/-- Every event is open, acknowledged or dropped, and only one of these. -/
structure Ledger (created : List AdmissionEvent) (exchanges : List (Nat × Exchange))
    (incidents : List (Nat × RecordedIncident)) (events : List QueuedEvent) : Prop where
  known : ∀ q ∈ events, created[q.key]? = some q.event
  posted : ∀ x ∈ exchanges, x.1 < created.length
  dropped : ∀ i ∈ incidents, ∃ e, created[i.1]? = some e ∧ i.2.eventID = e.eventID
  one : ∀ k e, created[k]? = some e →
    openOf events k + acksOf exchanges k e.eventID + dropsOf incidents k = 1

namespace Ledger

variable {created : List AdmissionEvent} {exchanges : List (Nat × Exchange)}
  {incidents : List (Nat × RecordedIncident)} {events : List QueuedEvent} {q : QueuedEvent}

theorem perm {events' : List QueuedEvent} (h : Ledger created exchanges incidents events)
    (hperm : events.Perm events') : Ledger created exchanges incidents events' where
  known q hq := h.known q (hperm.mem_iff.mpr hq)
  posted := h.posted
  dropped := h.dropped
  one k e he := by
    have hcount : openOf events' k = openOf events k := (hperm.countP_eq _).symm
    rw [hcount]
    exact h.one k e he

/-- Two open events are different events. -/
theorem key_ne (h : Ledger created exchanges incidents (q :: events)) {q' : QueuedEvent}
    (hq' : q' ∈ events) : q'.key ≠ q.key := by
  intro heq
  have hone := h.one q.key q.event (h.known q List.mem_cons_self)
  have hpos := openOf_pos hq'
  rw [heq] at hpos
  simp only [openOf_cons, if_true] at hone
  omega

theorem postsOf_eq_zero (h : Ledger created exchanges incidents events) :
    postsOf exchanges created.length = 0 := by
  rw [postsOf, List.countP_eq_zero]
  intro x hx
  have := h.posted x hx
  simp only [Bool.and_eq_true, decide_eq_true_eq, not_and]
  omega

/-- A new event is open. -/
theorem create (h : Ledger created exchanges incidents events) (event : AdmissionEvent) :
    Ledger (created ++ [event]) exchanges incidents
      ({ key := created.length, event := event } :: events) where
  known q hq := by
    rcases List.mem_cons.mp hq with heq | hold
    · subst heq
      simp
    · have hq' := h.known q hold
      rw [List.getElem?_append_left (List.getElem?_eq_some_iff.mp hq').1]
      exact hq'
  posted x hx := by
    have := h.posted x hx
    rw [List.length_append]
    omega
  dropped i hi := by
    obtain ⟨e, he, hid⟩ := h.dropped i hi
    refine ⟨e, ?_, hid⟩
    rw [List.getElem?_append_left (List.getElem?_eq_some_iff.mp he).1]
    exact he
  one k e he := by
    rw [openOf_cons]
    by_cases hold : k < created.length
    · have hne : created.length ≠ k := by omega
      rw [List.getElem?_append_left hold] at he
      have := h.one k e he
      simp only [hne, if_false]
      omega
    · -- The logs and the open events know nothing of the new key.
      have hlast : k = created.length := by
        have := (List.getElem?_eq_some_iff.mp he).1
        rw [List.length_append, List.length_singleton] at this
        omega
      have hopen : openOf events k = 0 := by
        rw [openOf, List.countP_eq_zero]
        intro q hq
        have := (List.getElem?_eq_some_iff.mp (h.known q hq)).1
        simp only [decide_eq_true_eq]
        omega
      have hacks : acksOf exchanges k e.eventID = 0 := by
        rw [acksOf, List.countP_eq_zero]
        intro x hx
        have := h.posted x hx
        simp only [Bool.and_eq_true, decide_eq_true_eq, not_and]
        omega
      have hdrops : dropsOf incidents k = 0 := by
        rw [dropsOf, List.countP_eq_zero]
        intro i hi
        obtain ⟨e', he', -⟩ := h.dropped i hi
        have := (List.getElem?_eq_some_iff.mp he').1
        simp only [decide_eq_true_eq]
        omega
      rw [hopen, hacks, hdrops, hlast]
      simp

variable (h : Ledger created exchanges incidents (q :: events))

include h

/-- An open event is closed by an incident. -/
theorem drop (reason : ReporterReason) (detail : String) :
    Ledger created exchanges (incidents ++ [(q.key, ⟨reason, q.event.eventID, detail⟩)])
      events where
  known q' hq' := h.known q' (List.mem_cons_of_mem q hq')
  posted := h.posted
  dropped := List.forall_mem_append.mpr ⟨h.dropped, List.forall_mem_singleton.mpr
    ⟨q.event, h.known q List.mem_cons_self, rfl⟩⟩
  one k e he := by
    have hone := h.one k e he
    rw [openOf_cons] at hone
    rw [dropsOf_snoc]
    omega

/-- An exchange that acknowledges closes an open event, and no other one does. -/
theorem exchange (x : Exchange) :
    Ledger created (exchanges ++ [(q.key, x)]) incidents
      (if x.acknowledges q.event.eventID then events else q :: events) where
  known q' hq' := by
    refine h.known q' ?_
    split at hq'
    · exact List.mem_cons_of_mem q hq'
    · exact hq'
  posted := List.forall_mem_append.mpr ⟨h.posted, List.forall_mem_singleton.mpr
    (List.getElem?_eq_some_iff.mp (h.known q List.mem_cons_self)).1⟩
  dropped := h.dropped
  one k e he := by
    have hone := h.one k e he
    rw [openOf_cons] at hone
    rw [acksOf_snoc]
    by_cases hk : q.key = k
    · -- What happens to an event shows at its own key only.
      have hevent : q.event = e := by
        have hq := h.known q List.mem_cons_self
        rw [hk, he] at hq
        exact (Option.some.inj hq).symm
      subst hevent
      simp only [hk, if_true, true_and] at hone ⊢
      split
      · omega
      · simp only [openOf_cons, hk, if_true]
        omega
    · simp only [hk, if_false, false_and] at hone ⊢
      split
      · exact hone
      · simpa [hk] using hone

/-- Another attempt is the same event. -/
theorem retry (attempts : Nat) :
    Ledger created exchanges incidents ({ q with attempts := attempts } :: events) where
  known := List.forall_mem_cons.mpr (List.forall_mem_cons.mp h.known)
  posted := h.posted
  dropped := h.dropped
  one k e he := by
    have hone := h.one k e he
    exact hone

end Ledger

/-! ## The reporter -/

/-- The event has an attempt left, and it was posted at most once for each
attempt. -/
def QueuedEvent.Waits (exchanges : List (Nat × Exchange)) (q : QueuedEvent) : Prop :=
  postsOf exchanges q.key ≤ q.attempts ∧ q.attempts < maxWebhookDeliveryAttempts

/-- The event is on an attempt that has not been posted. -/
def QueuedEvent.Flies (exchanges : List (Nat × Exchange)) (q : QueuedEvent) : Prop :=
  postsOf exchanges q.key < q.attempts ∧ q.attempts ≤ maxWebhookDeliveryAttempts

/-- The events in the channel, with the goroutine and with the timers. -/
def EventReporter.underWay (r : EventReporter) : List QueuedEvent :=
  r.queue ++ r.inFlight.toList ++ r.timers

/-- The invariant of the reporter, while a goroutine has these events in its
hand. -/
structure Accounted (r : EventReporter) (hand : List QueuedEvent) : Prop where
  ledger : Ledger r.created r.exchanges r.incidents (hand ++ r.underWay)
  waiting : ∀ q ∈ r.queue ++ r.timers, q.Waits r.exchanges
  flying : ∀ q ∈ r.inFlight, q.Flies r.exchanges
  posts : ∀ k, postsOf r.exchanges k ≤ maxWebhookDeliveryAttempts

namespace Accounted

variable {r : EventReporter} {q : QueuedEvent}

theorem recordIncident (h : Accounted r [q]) (reason : ReporterReason) (detail : String) :
    Accounted (r.recordIncident reason q detail) [] where
  ledger := h.ledger.drop reason detail
  waiting := h.waiting
  flying := h.flying
  posts := h.posts

theorem offer (h : Accounted r [q]) (hq : q.Waits r.exchanges) : Accounted (r.offer q) [] := by
  unfold EventReporter.offer
  split
  · refine ⟨h.ledger.perm ?_, ?_, h.flying, h.posts⟩
    · show ([q] ++ (r.queue ++ r.inFlight.toList ++ r.timers)).Perm
        ((r.queue ++ [q]) ++ r.inFlight.toList ++ r.timers)
      simp only [List.append_assoc]
      exact List.perm_append_comm_assoc [q] r.queue _
    · intro q' hq'
      simp only [List.mem_append, List.mem_singleton] at hq'
      rcases hq' with (hqueue | heq) | htimer
      · exact h.waiting q' (List.mem_append_left _ hqueue)
      · rw [heq]
        exact hq
      · exact h.waiting q' (List.mem_append_right _ htimer)
  · exact h.recordIncident _ _

variable (h : Accounted r [])

include h

theorem report (id : String) (now : Time) (req : ReviewedRequest) (response : AdmissionResponse) :
    Accounted (r.report id now req response) [] := by
  unfold EventReporter.report
  split
  · exact h
  · refine Accounted.offer ⟨h.ledger.create _, h.waiting, h.flying, h.posts⟩ ⟨?_, ?_⟩
    · exact (h.ledger.postsOf_eq_zero).le
    · exact Nat.zero_lt_succ 3

theorem take : Accounted r.take [] := by
  unfold EventReporter.take
  split
  · rename_i q rest hidle hqueue
    have hwaits : q.Waits r.exchanges := by
      refine h.waiting q (List.mem_append_left _ ?_)
      rw [hqueue]
      exact List.mem_cons_self
    have hledger : Ledger r.created r.exchanges r.incidents (q :: (rest ++ r.timers)) := by
      have hall := h.ledger
      simp only [underWay, hidle, hqueue, Option.toList_none, List.append_nil,
        List.nil_append, List.cons_append] at hall
      exact hall
    refine ⟨(hledger.retry (q.attempts + 1)).perm ?_, ?_, ?_, h.posts⟩
    · show List.Perm _ (rest ++ [{ q with attempts := q.attempts + 1 }] ++ r.timers)
      rw [List.append_assoc]
      exact List.perm_middle.symm
    · intro q' hq'
      refine h.waiting q' ?_
      rw [hqueue]
      exact List.mem_cons_of_mem q hq'
    · intro q' hq'
      obtain ⟨hposts, hattempts⟩ := hwaits
      rw [← Option.mem_some_iff.mp hq']
      refine ⟨?_, hattempts⟩
      show postsOf r.exchanges q.key < q.attempts + 1
      omega
  · exact h

/-- The exchange of the event in flight is over, and the event is in the hand of
the goroutine. -/
theorem finish (x : Exchange) : Accounted (r.finish x) [] := by
  unfold EventReporter.finish
  split
  · exact h
  · rename_i q hflying
    obtain ⟨hposts, hattempts⟩ := h.flying q hflying
    have hledger : Ledger r.created r.exchanges r.incidents (q :: (r.queue ++ r.timers)) := by
      refine h.ledger.perm ?_
      simp only [underWay, hflying, Option.toList_some, List.nil_append]
      rw [List.append_assoc]
      exact List.perm_middle
    -- The other events keep their posts, since they have other keys.
    have hwaiting : ∀ q' ∈ r.queue ++ r.timers, q'.Waits (r.exchanges ++ [(q.key, x)]) := by
      intro q' hq'
      have hne : ¬ (q.key = q'.key ∧ x.posted = true) := fun hkey => hledger.key_ne hq' hkey.1.symm
      have hold := h.waiting q' hq'
      unfold QueuedEvent.Waits at hold ⊢
      rw [postsOf_snoc, if_neg hne]
      exact hold
    have hown : postsOf (r.exchanges ++ [(q.key, x)]) q.key ≤ q.attempts := by
      rw [postsOf_snoc]
      split <;> omega
    have hall : ∀ k, postsOf (r.exchanges ++ [(q.key, x)]) k ≤ maxWebhookDeliveryAttempts := by
      intro k
      by_cases hk : q.key = k
      · rw [← hk]
        omega
      · rw [postsOf_snoc, if_neg fun hkey => hk hkey.1]
        exact h.posts k
    have hidle : ∀ q' ∈ (none : Option QueuedEvent), q'.Flies (r.exchanges ++ [(q.key, x)]) :=
      fun q' hq' => nomatch hq'
    have hlog := hledger.exchange x
    unfold EventReporter.settle
    rcases deliver_cases q.event x with ⟨hend, hkept, hack⟩ | ⟨hend, hdropped, hno⟩ | ⟨hopen, hno⟩
    · rw [if_pos hend, if_neg (by simp [hkept])]
      exact ⟨by simpa [underWay, hack] using hlog, hwaiting, hidle, hall⟩
    · rw [if_pos hend, if_pos hdropped]
      refine Accounted.recordIncident ⟨?_, hwaiting, hidle, hall⟩ _ _
      simpa [underWay, hno] using hlog
    · rw [if_neg (by simp [hopen])]
      split
      · refine Accounted.recordIncident ⟨?_, hwaiting, hidle, hall⟩ _ _
        simpa [underWay, hno] using hlog
      · rename_i hleft
        rw [hno, if_neg Bool.false_ne_true] at hlog
        refine ⟨hlog.perm ?_, ?_, hidle, hall⟩
        · show List.Perm _ (r.queue ++ [] ++ (r.timers ++ [q]))
          rw [List.append_nil, ← List.append_assoc]
          exact (List.perm_append_singleton q _).symm
        · rw [← List.append_assoc]
          exact List.forall_mem_append.mpr
            ⟨hwaiting, List.forall_mem_singleton.mpr ⟨hown, Nat.lt_of_not_ge hleft⟩⟩

theorem fire (place : Nat) : Accounted (r.fire place) [] := by
  unfold EventReporter.fire
  split
  · exact h
  · rename_i q hplace
    obtain ⟨hlt, hget⟩ := List.getElem?_eq_some_iff.mp hplace
    have hperm : r.timers.Perm (q :: r.timers.eraseIdx place) := by
      rw [← hget]
      exact (List.getElem_cons_eraseIdx_perm hlt).symm
    have hwaits : q.Waits r.exchanges := by
      refine h.waiting q (List.mem_append_right _ ?_)
      exact List.mem_of_getElem? hplace
    refine Accounted.offer ⟨h.ledger.perm ?_, ?_, h.flying, h.posts⟩ hwaits
    · show (r.queue ++ r.inFlight.toList ++ r.timers).Perm
        (q :: (r.queue ++ r.inFlight.toList ++ r.timers.eraseIdx place))
      exact (hperm.append_left _).trans List.perm_middle
    · intro q' hq'
      refine h.waiting q' ?_
      rcases List.mem_append.mp hq' with hqueue | htimer
      · exact List.mem_append_left _ hqueue
      · exact List.mem_append_right _ (List.mem_of_mem_eraseIdx htimer)

theorem step (input : ReporterInput) : Accounted (r.step input) [] := by
  cases input with
  | report id now req response => exact h.report id now req response
  | take => exact h.take
  | finish x => exact h.finish x
  | fire place => exact h.fire place

end Accounted

theorem accounted_empty : Accounted {} [] where
  ledger :=
    { known := fun q hq => nomatch hq
      posted := fun x hx => nomatch hx
      dropped := fun i hi => nomatch hi
      one := fun k e he => by simp at he }
  waiting q hq := nomatch hq
  flying q hq := nomatch hq
  posts k := Nat.zero_le _

/-- What became of an event. -/
inductive Fate where
  | underWay
  | acknowledged
  | dropped
  deriving DecidableEq

/-- The counts of the event with this key that go with a fate: how often it is
under way, acknowledged and recorded. -/
def Fate.counts : Fate → Nat × Nat × Nat
  | .underWay => (1, 0, 0)
  | .acknowledged => (0, 1, 0)
  | .dropped => (0, 0, 1)

/-- After any sequence of reports, exchanges and timers, an event that `Report`
has built was posted at most four times and has exactly one fate.  The incidents
of an event carry its id. -/
theorem every_event_accounted (inputs : List ReporterInput) (k : Nat) (event : AdmissionEvent)
    (hcreated : (run EventReporter.step {} inputs).created[k]? = some event) :
    let r := run EventReporter.step {} inputs
    postsOf r.exchanges k ≤ 4 ∧ (∃! fate : Fate, fate.counts =
        (openOf r.underWay k, acksOf r.exchanges k event.eventID, dropsOf r.incidents k)) ∧
      ∀ i, (k, i) ∈ r.incidents → i.eventID = event.eventID := by
  have h : Accounted (run EventReporter.step {} inputs) [] :=
    run_invariant_of_step (I := fun r => Accounted r []) (fun r input hr => hr.step input)
      accounted_empty inputs
  have hone := h.ledger.one k event hcreated
  refine ⟨h.posts k, ?_, ?_⟩
  · rw [List.nil_append] at hone
    generalize openOf _ k = opened at hone ⊢
    generalize acksOf _ k _ = acked at hone ⊢
    generalize dropsOf _ k = dropped at hone ⊢
    rcases (by omega : (opened = 1 ∧ acked = 0 ∧ dropped = 0) ∨
        (opened = 0 ∧ acked = 1 ∧ dropped = 0) ∨ (opened = 0 ∧ acked = 0 ∧ dropped = 1)) with
      ⟨rfl, rfl, rfl⟩ | ⟨rfl, rfl, rfl⟩ | ⟨rfl, rfl, rfl⟩
    · exact ⟨.underWay, rfl, fun fate hfate => by cases fate <;> simp_all [Fate.counts]⟩
    · exact ⟨.acknowledged, rfl, fun fate hfate => by cases fate <;> simp_all [Fate.counts]⟩
    · exact ⟨.dropped, rfl, fun fate hfate => by cases fate <;> simp_all [Fate.counts]⟩
  · intro i hi
    obtain ⟨e, he, hid⟩ := h.ledger.dropped (k, i) hi
    rw [hcreated] at he
    rw [hid, Option.some.inj he]

/-- A request that was denied. -/
def deniedRequest : ReviewedRequest where
  uid := "1"
  namespaceName := "default"
  apiGroup := ""
  resource := "pods"
  operation := "CREATE"
  object := .empty

/-- One event: the first post fails, the timer puts the event back, and the
operator accepts it then. -/
def retriedDelivery : List ReporterInput :=
  [.report "E1" 0 deniedRequest { uid := "1", allowed := false },
    .take, .finish .transportError, .fire 0, .take,
    .finish (.response 200 (some (some [{ eventID := "E1", status := .accepted }])))]

theorem every_event_accounted_retried :
    postsOf (run EventReporter.step {} retriedDelivery).exchanges 0 ≤ 4 ∧
      acksOf (run EventReporter.step {} retriedDelivery).exchanges 0 "E1" = 1 ∧
      dropsOf (run EventReporter.step {} retriedDelivery).incidents 0 = 0 := by
  have hacks : acksOf (run EventReporter.step {} retriedDelivery).exchanges 0 "E1" = 1 := by
    decide +kernel
  obtain ⟨hposts, ⟨fate, hfate, -⟩, -⟩ := every_event_accounted retriedDelivery 0
    (newAdmissionEvent "E1" 0 deniedRequest "deny" []) rfl
  refine ⟨hposts, hacks, ?_⟩
  have hid : (newAdmissionEvent "E1" 0 deniedRequest "deny" []).eventID = "E1" := rfl
  cases fate with
  | underWay => exact absurd (congrArg (fun counts => counts.2.1) hfate) (by decide)
  | acknowledged => exact (congrArg (fun counts => counts.2.2) hfate).symm
  | dropped => exact absurd (congrArg (fun counts => counts.2.1) hfate) (by decide)

end KubeSentry.Webhook
