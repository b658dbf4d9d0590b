import KubeSentry.Hublink.EventQueue

/-!
# No silent loss in the event queue

What the queue owes an event that it has accepted.  The event leaves through a
terminal ack result for its current attempt, or through a failed attempt when no
retry is left, and then an incident names it.  While it stays it is handed to
`send` a bounded number of times.

`round_spec` says once what a round can do to the queue.  Every result below is
read off it: `Bounded` is an invariant of the rounds, and an input is a list of
rounds.  An ack is compared with the state of its own round, because two results
in one ack may be about the same event.
-/

namespace KubeSentry.Hublink

open GoLib

/-! ## What a round can do -/

/-- The round is a terminal ack result for the current attempt, or for attempt
zero. -/
def TerminalAck (queued : QueuedAdmissionEvent) (id : String) (r : Round) : Prop :=
  ∃ result : AckResult, r = .ack (some result) ∧ result.eventID = id ∧
    (result.deliveryAttempt = 0 ∨ result.deliveryAttempt = queued.attempt) ∧
    (result.status = .accepted ∨ result.status = .discarded)

/-- The round fails the current attempt of the event. -/
inductive FailedAttempt (queued : QueuedAdmissionEvent) (id : String) :
    Round → String → Prop where
  | timeout (now : Time) (hflight : queued.inFlight = true)
      (hoverdue : queued.overdue now = true) :
      FailedAttempt queued id (.timeout now id) reasonGatewayACKTimeout
  | inFlight (reason : String) (hflight : queued.inFlight = true) :
      FailedAttempt queued id (.fail reason id) reason
  | retryable (result : AckResult) (hid : result.eventID = id)
      (hattempt : result.deliveryAttempt = 0 ∨ result.deliveryAttempt = queued.attempt)
      (hstatus : result.status = .retryable) :
      FailedAttempt queued id (.ack (some result)) result.reason

/-- No retry is left for the event. -/
def Exhausted (d : DeliveryConfig) (queued : QueuedAdmissionEvent) : Prop :=
  d.retryEnabled = false ∨ d.maxRetryAttempts ≤ queued.retryCount

/-- The entry after a failed attempt that is retried. -/
def QueuedAdmissionEvent.retried (queued : QueuedAdmissionEvent) : QueuedAdmissionEvent :=
  { queued with retryCount := queued.retryCount + 1, inFlight := false, ackDeadline := none }

/-- The entry after it has been handed to `send`. -/
def QueuedAdmissionEvent.handed (queued : QueuedAdmissionEvent) (now : Time) :
    QueuedAdmissionEvent :=
  { queued with
    inFlight := true, ackDeadline := some (now + eventAckTimeout)
    attempt := int32 (queued.attempt + 1), handOffs := queued.handOffs + 1 }

/-- What a round does to the queue. -/
inductive RoundEffect (l : Link) (r : Round) (l' : Link) : Prop where
  | same (h : l'.events = l.events)
  | added (id : String) (event : AdmissionEvent) (hfree : id ∉ l.events)
      (hroom : l.events.size < l.delivery.queueCapacity)
      (h : l'.events = l.events.insert id { event := event })
  | handed (id : String) (queued : QueuedAdmissionEvent) (now : Time)
      (hqueued : l.events[id]? = some queued) (hidle : queued.inFlight = false)
      (h : l'.events = l.events.insert id (queued.handed now))
  | retried (id : String) (queued : QueuedAdmissionEvent)
      (hqueued : l.events[id]? = some queued) (hleft : ¬ Exhausted l.delivery queued)
      (h : l'.events = l.events.insert id queued.retried)
  | acked (id : String) (queued : QueuedAdmissionEvent)
      (hqueued : l.events[id]? = some queued) (hack : TerminalAck queued id r)
      (h : l'.events = l.events.erase id)
  | dropped (id reason : String) (queued : QueuedAdmissionEvent)
      (hqueued : l.events[id]? = some queued) (hfailed : FailedAttempt queued id r reason)
      (hexhausted : Exhausted l.delivery queued) (h : l'.events = l.events.erase id)
      (hincident : ⟨.retryExhausted, id, reason⟩ ∈ l'.incidents.drop l.incidents.length)

/-- Noting a timeout only adds incidents. -/
theorem noteTimeout_eq (l : Link) (eventID reason : String) :
    ∃ extra, l.noteTimeout eventID reason = { l with incidents := l.incidents ++ extra } := by
  unfold Link.noteTimeout
  split
  · exact ⟨_, rfl⟩
  · refine ⟨[], ?_⟩
    rw [List.append_nil]

variable {l : Link} {id : String} {queued : QueuedAdmissionEvent} {r : Round} {a : Input}
  {result : AckResult}

/-- What a failure does, by cases on the retries that are left. -/
theorem failAdmissionEventLocked_eq (hqueued : l.events[id]? = some queued) (reason : String) :
    ∃ extra, (Exhausted l.delivery queued ∧ l.failAdmissionEventLocked id reason = { l with
          events := l.events.erase id
          incidents := l.incidents ++ extra ++ [⟨.retryExhausted, id, reason⟩] }) ∨
      (¬ Exhausted l.delivery queued ∧ l.failAdmissionEventLocked id reason = { l with
          events := l.events.insert id queued.retried
          incidents := l.incidents ++ extra }) := by
  obtain ⟨extra, hnote⟩ := noteTimeout_eq l id reason
  refine ⟨extra, ?_⟩
  unfold Link.failAdmissionEventLocked
  rw [hqueued]
  rw [hnote]
  by_cases hexhausted : Exhausted l.delivery queued
  · refine .inl ⟨hexhausted, if_pos ?_⟩
    rw [Bool.or_eq_true, Bool.not_eq_true', decide_eq_true_iff]
    exact hexhausted
  · refine .inr ⟨hexhausted, if_neg ?_⟩
    rw [Bool.or_eq_true, Bool.not_eq_true', decide_eq_true_iff]
    exact hexhausted

/-- What a round does to the link: it keeps the configuration, and it only adds
incidents. -/
structure RoundSpec (l : Link) (r : Round) (l' : Link) : Prop where
  effect : RoundEffect l r l'
  config : l'.eventConfig = l.eventConfig
  incidents : l.incidents <+: l'.incidents

theorem RoundSpec.refl (l : Link) (r : Round) : RoundSpec l r l := ⟨.same rfl, rfl, List.prefix_rfl⟩

/-- A round that changes nothing but the queue. -/
theorem RoundSpec.of_events {events : GoMap QueuedAdmissionEvent}
    (h : RoundEffect l r { l with events := events }) : RoundSpec l r { l with events := events } :=
  ⟨h, rfl, List.prefix_rfl⟩

/-- A failed attempt is retried, or the event is dropped and recorded. -/
theorem fail_spec {reason : String} (hqueued : l.events[id]? = some queued)
    (hfailed : FailedAttempt queued id r reason) :
    RoundSpec l r (l.failAdmissionEventLocked id reason) := by
  obtain ⟨extra, ⟨hexhausted, heq⟩ | ⟨hleft, heq⟩⟩ := failAdmissionEventLocked_eq hqueued reason
  · rw [heq, List.append_assoc]
    refine ⟨.dropped id reason queued hqueued hfailed hexhausted rfl ?_, rfl,
      List.prefix_append _ _⟩
    show _ ∈ (l.incidents ++ (extra ++ [_])).drop _
    rw [List.drop_left]
    exact List.mem_append_right _ List.mem_cons_self
  · rw [heq]
    exact ⟨.retried id queued hqueued hleft rfl, rfl, List.prefix_append _ _⟩

/-- What a round can do. -/
theorem round_spec (l : Link) (r : Round) : RoundSpec l r (l.round r) := by
  cases r with
  | submit clusterName clusterPrefix event =>
    show RoundSpec l _ (l.submitRound clusterName clusterPrefix event).1
    unfold Link.submitRound
    cases event with
    | none => exact .refl l _
    | some event =>
      dsimp only
      split
      · exact .refl l _
      · split
        · exact .refl l _
        · split
          · exact .refl l _
          · split
            · exact ⟨.same rfl, rfl, List.prefix_append _ _⟩
            · rename_i hfree hroom
              exact .of_events (.added _ _ hfree (by omega) rfl)
  | timeout now id =>
    show RoundSpec l _ (l.timeoutRound now id)
    unfold Link.timeoutRound
    cases hqueued : l.events[id]? with
    | none => exact .refl l _
    | some queued =>
      dsimp only
      split
      · rename_i hoverdue
        rw [Bool.and_eq_true] at hoverdue
        exact fail_spec hqueued (.timeout now hoverdue.1 hoverdue.2)
      · exact .refl l _
  | send now id =>
    show RoundSpec l _ (l.sendRound now id)
    unfold Link.sendRound
    cases hqueued : l.events[id]? with
    | none => exact .refl l _
    | some queued =>
      dsimp only
      split
      · exact .refl l _
      · rename_i hidle
        exact .of_events (.handed id queued now hqueued (by simpa using hidle) rfl)
  | fail reason id =>
    show RoundSpec l _ (l.failRound reason id)
    unfold Link.failRound
    cases hqueued : l.events[id]? with
    | none => exact .refl l _
    | some queued =>
      dsimp only
      split
      · rename_i hflight
        exact fail_spec hqueued (.inFlight reason hflight)
      · exact .refl l _
  | ack result =>
    cases result with
    | none => exact .refl l _
    | some result =>
      show RoundSpec l _ (l.ackRound result)
      unfold Link.ackRound
      cases hqueued : l.events[result.eventID]? with
      | none => exact .refl l _
      | some queued =>
        dsimp only
        split
        · exact .refl l _
        · rename_i hattempt
          have hcurrent : result.deliveryAttempt = 0 ∨
              result.deliveryAttempt = queued.attempt := by omega
          cases hstatus : result.status with
          | accepted =>
            exact .of_events
              (.acked _ queued hqueued ⟨result, rfl, rfl, hcurrent, .inl hstatus⟩ rfl)
          | discarded =>
            exact .of_events
              (.acked _ queued hqueued ⟨result, rfl, rfl, hcurrent, .inr hstatus⟩ rfl)
          | retryable => exact fail_spec hqueued (.retryable result rfl hcurrent hstatus)
          | unspecified => exact .refl l _

theorem round_delivery (l : Link) (r : Round) : (l.round r).delivery = l.delivery := by
  unfold Link.delivery
  rw [(round_spec l r).config]

/-! ## Bounds -/

/-- The retries that the configuration allows. -/
def DeliveryConfig.retries (d : DeliveryConfig) : Nat :=
  if d.retryEnabled then d.maxRetryAttempts else 0

/-- Each hand-over but the one in flight has used up a retry. -/
structure QueuedAdmissionEvent.Bounded (d : DeliveryConfig) (queued : QueuedAdmissionEvent) :
    Prop where
  retries : queued.retryCount ≤ d.retries
  handOffs : queued.handOffs ≤ queued.retryCount + if queued.inFlight then 1 else 0

/-- Every entry is bounded, and the queue is within its capacity. -/
structure Link.Bounded (l : Link) : Prop where
  entries : ∀ (id : String) (queued : QueuedAdmissionEvent), l.events[id]? = some queued →
    queued.Bounded l.delivery
  capacity : l.events.size ≤ l.delivery.queueCapacity

theorem QueuedAdmissionEvent.Bounded.handed {d : DeliveryConfig} (h : queued.Bounded d)
    (hidle : queued.inFlight = false) (now : Time) : (queued.handed now).Bounded d := by
  obtain ⟨hretries, hhandOffs⟩ := h
  rw [hidle] at hhandOffs
  refine ⟨hretries, ?_⟩
  show queued.handOffs + 1 ≤ queued.retryCount + 1
  simp only [Bool.false_eq_true, if_false] at hhandOffs
  omega

theorem QueuedAdmissionEvent.Bounded.retried {d : DeliveryConfig} (h : queued.Bounded d)
    (hleft : ¬ Exhausted d queued) : queued.retried.Bounded d := by
  obtain ⟨hretries, hhandOffs⟩ := h
  unfold Exhausted at hleft
  rw [not_or, Bool.not_eq_false] at hleft
  refine ⟨?_, ?_⟩
  · show queued.retryCount + 1 ≤ d.retries
    unfold DeliveryConfig.retries
    rw [if_pos hleft.1]
    omega
  · show queued.handOffs ≤ queued.retryCount + 1 + 0
    split at hhandOffs
    · omega
    · omega

/-- An insert keeps the bounds of the entries. -/
theorem entries_insert (h : l.Bounded) (hqueued : queued.Bounded l.delivery) (id' : String)
    (queued' : QueuedAdmissionEvent) (hget : (l.events.insert id queued)[id']? = some queued') :
    queued'.Bounded l.delivery := by
  rcases getElem?_insert_some.mp hget with ⟨_, heq⟩ | ⟨_, hold⟩
  · exact heq ▸ hqueued
  · exact h.entries id' queued' hold

/-- A write to a queued entry keeps the length of the queue. -/
theorem size_insert_queued (hqueued : l.events[id]? = some queued)
    (queued' : QueuedAdmissionEvent) : (l.events.insert id queued').size = l.events.size := by
  have hmem : l.events.contains id = true :=
    Std.ExtTreeMap.contains_iff_mem.mpr ((mem_iff_getElem? _ _).mpr ⟨queued, hqueued⟩)
  rw [Std.ExtTreeMap.size_insert, if_pos hmem]

/-- A round makes the queue longer only while there is room. -/
theorem round_size_le (l : Link) (r : Round) :
    (l.round r).events.size ≤ max l.events.size l.delivery.queueCapacity := by
  cases (round_spec l r).effect with
  | same h =>
    rw [h]
    exact Nat.le_max_left _ _
  | added id event hfree hroom h =>
    have hsize : (l.events.insert id { event := event }).size ≤ l.events.size + 1 :=
      Std.ExtTreeMap.size_insert_le
    rw [h]
    omega
  | handed id queued now hqueued hidle h =>
    rw [h, size_insert_queued hqueued]
    exact Nat.le_max_left _ _
  | retried id queued hqueued hleft h =>
    rw [h, size_insert_queued hqueued]
    exact Nat.le_max_left _ _
  | acked id queued hqueued hack h =>
    rw [h]
    exact Nat.le_trans Std.ExtTreeMap.size_erase_le (Nat.le_max_left _ _)
  | dropped id reason queued hqueued hfailed hexhausted h hincident =>
    rw [h]
    exact Nat.le_trans Std.ExtTreeMap.size_erase_le (Nat.le_max_left _ _)

theorem Link.Bounded.round (h : l.Bounded) (r : Round) : (l.round r).Bounded := by
  constructor
  · intro id' queued' hget
    rw [round_delivery]
    cases (round_spec l r).effect with
    | same heq =>
      rw [heq] at hget
      exact h.entries id' queued' hget
    | added id event hfree hroom heq =>
      rw [heq] at hget
      exact entries_insert h ⟨Nat.zero_le _, Nat.zero_le _⟩ id' queued' hget
    | handed id queued now hqueued hidle heq =>
      rw [heq] at hget
      exact entries_insert h ((h.entries id queued hqueued).handed hidle now) id' queued' hget
    | retried id queued hqueued hleft heq =>
      rw [heq] at hget
      exact entries_insert h ((h.entries id queued hqueued).retried hleft) id' queued' hget
    | acked id queued hqueued hack heq =>
      rw [heq] at hget
      exact h.entries id' queued' (getElem?_erase_some.mp hget).2
    | dropped id reason queued hqueued hfailed hexhausted heq hincident =>
      rw [heq] at hget
      exact h.entries id' queued' (getElem?_erase_some.mp hget).2
  · rw [round_delivery]
    have hsize := round_size_le l r
    have hcapacity := h.capacity
    omega

/-! ## Inputs -/

/-- The delivery configuration stays as it is. -/
def KeepsDelivery (l : Link) (a : Input) : Prop :=
  ∀ config, a = .setEventConfig config → admissionDeliveryConfig config = l.delivery

theorem run_round_delivery (l : Link) (rounds : List Round) :
    (run Link.round l rounds).delivery = l.delivery := by
  refine run_invariant_of_step (I := fun l' : Link => l'.delivery = l.delivery) ?_ rfl rounds
  intro l' r h
  rw [round_delivery, h]

theorem run_round_incidents (l : Link) (rounds : List Round) :
    l.incidents <+: (run Link.round l rounds).incidents := by
  refine run_invariant_of_step (I := fun l' : Link => l.incidents <+: l'.incidents) ?_
    List.prefix_rfl rounds
  intro l' r h
  exact h.trans (round_spec l' r).incidents

/-- What an input does besides its rounds leaves the queue and the incidents
alone. -/
theorem finish_queue (before after : Link) (a : Input) :
    (before.finish after a).events = after.events ∧
      (before.finish after a).incidents = after.incidents := by
  unfold Link.finish
  split
  · dsimp only
    split
    · exact ⟨rfl, rfl⟩
    · exact ⟨rfl, rfl⟩
  · exact ⟨rfl, rfl⟩
  · exact ⟨rfl, rfl⟩
  · exact ⟨rfl, rfl⟩

theorem step_events (l : Link) (a : Input) :
    (l.step a).events = (run Link.round l (l.rounds a)).events :=
  (finish_queue _ _ _).1

theorem step_incidents (l : Link) (a : Input) :
    (l.step a).incidents = (run Link.round l (l.rounds a)).incidents :=
  (finish_queue _ _ _).2

theorem step_delivery (hkeeps : KeepsDelivery l a) : (l.step a).delivery = l.delivery := by
  have hrun := run_round_delivery l (l.rounds a)
  unfold Link.step Link.finish
  split
  · dsimp only
    split
    · exact hrun
    · exact hrun
  · exact hrun
  · exact hkeeps _ rfl
  · exact hrun

theorem Link.Bounded.step (h : l.Bounded) (hkeeps : KeepsDelivery l a) : (l.step a).Bounded := by
  have hrun : (run Link.round l (l.rounds a)).Bounded :=
    run_invariant_of_step (fun l r hl => hl.round r) h (l.rounds a)
  have hdelivery := run_round_delivery l (l.rounds a)
  constructor
  · intro id queued hget
    rw [step_events] at hget
    rw [step_delivery hkeeps, ← hdelivery]
    exact hrun.entries id queued hget
  · rw [step_events, step_delivery hkeeps, ← hdelivery]
    exact hrun.capacity

/-- What an erase removes. -/
theorem eq_of_not_mem_erase {V : Type} {m : GoMap V} {key : String} (hmem : id ∈ m)
    (hgone : id ∉ m.erase key) : key = id := by
  by_contra hne
  obtain ⟨v, hv⟩ := (mem_iff_getElem? m id).mp hmem
  refine hgone ((mem_iff_getElem? _ _).mpr ⟨v, ?_⟩)
  rw [getElem?_erase_key, if_neg hne]
  exact hv

/-- The round in which an event leaves. -/
theorem round_leaves (hqueued : l.events[id]? = some queued) (hgone : id ∉ (l.round r).events) :
    TerminalAck queued id r ∨ ∃ reason, FailedAttempt queued id r reason ∧
      Exhausted l.delivery queued ∧
      ⟨.retryExhausted, id, reason⟩ ∈ (l.round r).incidents.drop l.incidents.length := by
  have hmem : id ∈ l.events := (mem_iff_getElem? _ _).mpr ⟨queued, hqueued⟩
  -- An insert removes nothing.
  have hinsert : ∀ (key : String) (entry : QueuedAdmissionEvent),
      (l.round r).events = l.events.insert key entry → False := by
    intro key entry heq
    rw [heq] at hgone
    exact hgone (Std.ExtTreeMap.mem_insert.mpr (.inr hmem))
  cases (round_spec l r).effect with
  | same heq =>
    rw [heq] at hgone
    exact absurd hmem hgone
  | added key event hfree hroom heq => exact (hinsert key _ heq).elim
  | handed key entry now hentry hidle heq => exact (hinsert key _ heq).elim
  | retried key entry hentry hleft heq => exact (hinsert key _ heq).elim
  | acked key entry hentry hack heq =>
    rw [heq] at hgone
    obtain rfl := eq_of_not_mem_erase hmem hgone
    rw [hqueued] at hentry
    cases hentry
    exact .inl hack
  | dropped key reason entry hentry hfailed hexhausted heq hincident =>
    rw [heq] at hgone
    obtain rfl := eq_of_not_mem_erase hmem hgone
    rw [hqueued] at hentry
    cases hentry
    exact .inr ⟨reason, hfailed, hexhausted, hincident⟩

/-- An incident of one round is an incident of the whole run. -/
theorem mem_drop_of_prefix {A : Type} {a b c d : List A} (hab : a <+: b) (hcd : c <+: d)
    {x : A} (hx : x ∈ c.drop b.length) : x ∈ d.drop a.length := by
  have hlength := hab.length_le
  have hdrop : c.drop b.length = (c.drop a.length).drop (b.length - a.length) := by
    rw [List.drop_drop]
    congr 1
    omega
  rw [hdrop] at hx
  obtain ⟨rest, hrest⟩ := hcd
  rw [← hrest, List.drop_append]
  exact List.mem_append_left _ (List.mem_of_mem_drop hx)

/-- The input removes the event in one of its rounds: by a terminal ack result
for the attempt that is current in that round or for attempt zero, or by a failed
attempt with no retry left, and then the input records a `retry_exhausted`
incident for the event. -/
def Link.Departure (l : Link) (a : Input) (id : String) : Prop :=
  ∃ before r after queued, l.rounds a = before ++ r :: after ∧
    (run Link.round l before).events[id]? = some queued ∧
    (TerminalAck queued id r ∨ ∃ reason, FailedAttempt queued id r reason ∧
      Exhausted l.delivery queued ∧
      ⟨.retryExhausted, id, reason⟩ ∈ (l.step a).incidents.drop l.incidents.length)

/-- Whatever an input removes departs in this sense. -/
theorem step_leaves (hin : id ∈ l.events) (hout : id ∉ (l.step a).events) : l.Departure a id := by
  unfold Link.Departure
  rw [step_events] at hout
  rw [step_incidents]
  obtain ⟨before, r, after, hrounds, hbefore, hgone⟩ :=
    run_loses (P := fun l' : Link => id ∈ l'.events) hin hout
  obtain ⟨queued, hqueued⟩ := (mem_iff_getElem? _ _).mp hbefore
  refine ⟨before, r, after, queued, hrounds, hqueued, ?_⟩
  rcases round_leaves hqueued hgone with hack | ⟨reason, hfailed, hexhausted, hincident⟩
  · exact .inl hack
  · rw [run_round_delivery] at hexhausted
    refine .inr ⟨reason, hfailed, hexhausted, ?_⟩
    rw [hrounds, run_append, run_cons]
    exact mem_drop_of_prefix (run_round_incidents l before) (run_round_incidents _ after) hincident

/-- A result for an unknown event, or for another attempt than the current one,
changes nothing. -/
theorem ackRound_other_attempt (hother : ∀ queued, l.events[result.eventID]? = some queued →
      result.deliveryAttempt ≠ 0 ∧ result.deliveryAttempt ≠ queued.attempt) :
    l.round (.ack (some result)) = l := by
  show l.ackRound result = l
  unfold Link.ackRound
  cases hqueued : l.events[result.eventID]? with
  | none => rfl
  | some queued => exact if_pos (hother queued hqueued)

/-! ## Runs -/

variable (config : Option AdmissionEventConfig)

/-- The queue after a list of inputs, from an empty one. -/
def queueAfter (inputs : List Input) : Link :=
  run Link.step { eventConfig := config } inputs

/-- The delivery configuration is fixed throughout the run. -/
def FixedDelivery (inputs : List Input) : Prop :=
  Guarded KeepsDelivery Link.step { eventConfig := config } inputs

theorem bounded_empty : ({ eventConfig := config } : Link).Bounded where
  entries id queued hget := by simp at hget
  capacity := Nat.zero_le _

theorem queueAfter_invariant {config : Option AdmissionEventConfig} {inputs : List Input}
    (hfixed : FixedDelivery config inputs) :
    (queueAfter config inputs).Bounded ∧
      (queueAfter config inputs).delivery = admissionDeliveryConfig config := by
  refine run_invariant (I := fun l : Link => l.Bounded ∧
    l.delivery = admissionDeliveryConfig config) ?_ ⟨bounded_empty config, rfl⟩ hfixed
  intro l a h hkeeps
  exact ⟨h.1.step hkeeps, by rw [step_delivery hkeeps, h.2]⟩

/-- The queue in every run under a fixed delivery configuration: an event leaves
it only by a `Departure`; a result for an unknown event or another attempt
changes nothing; an event in the queue has been handed to `send` at most once
more often than there are retries; and no submit makes the queue longer than its
capacity. -/
theorem queue_no_silent_loss {config : Option AdmissionEventConfig} {inputs : List Input}
    (hfixed : FixedDelivery config inputs) :
    (∀ (a : Input) (id : String), id ∈ (queueAfter config inputs).events →
      id ∉ ((queueAfter config inputs).step a).events →
      (queueAfter config inputs).Departure a id) ∧
    (∀ (l : Link) (result : AckResult), (∀ queued, l.events[result.eventID]? = some queued →
        result.deliveryAttempt ≠ 0 ∧ result.deliveryAttempt ≠ queued.attempt) →
      l.round (.ack (some result)) = l) ∧
    (∀ (id : String) (queued : QueuedAdmissionEvent),
      (queueAfter config inputs).events[id]? = some queued →
      queued.handOffs ≤ 1 + (admissionDeliveryConfig config).retries) ∧
    ∀ (isLeader : Bool) (clusterName clusterPrefix : String) (batch : List (Option AdmissionEvent)),
      ((queueAfter config inputs).step
        (.submit isLeader clusterName clusterPrefix batch)).events.size ≤
          (admissionDeliveryConfig config).queueCapacity := by
  obtain ⟨hbounded, hdelivery⟩ := queueAfter_invariant hfixed
  refine ⟨fun a id hin hout => step_leaves hin hout,
    fun l result hother => ackRound_other_attempt hother, ?_, ?_⟩
  · intro id queued hqueued
    obtain ⟨hretries, hhandOffs⟩ := hbounded.entries id queued hqueued
    rw [hdelivery] at hretries
    split at hhandOffs
    · omega
    · omega
  · intro isLeader clusterName clusterPrefix batch
    have hkeeps : KeepsDelivery (queueAfter config inputs)
        (.submit isLeader clusterName clusterPrefix batch) := by
      intro other hother
      cases hother
    have hcapacity := (hbounded.step hkeeps).capacity
    rw [step_delivery hkeeps, hdelivery] at hcapacity
    exact hcapacity

/-- An event is submitted and handed to `send`. -/
def oneEventSent : List Input :=
  [.submit true "prod" "" [some { eventID := "e1" }], .tick 0 Shuffle.id Shuffle.id]

/-- Without retries the end of the session removes the event, which is a
departure. -/
theorem queue_no_silent_loss_closed :
    FixedDelivery none oneEventSent ∧ "e1" ∈ (queueAfter none oneEventSent).events ∧
      (queueAfter none oneEventSent).Departure (.sessionClosed Shuffle.id) "e1" := by
  have hfixed : FixedDelivery none oneEventSent := by
    refine ⟨?_, ?_, trivial⟩
    · intro config hconfig
      cases hconfig
    · intro config hconfig
      cases hconfig
  have hin : "e1" ∈ (queueAfter none oneEventSent).events := by decide +kernel
  exact ⟨hfixed, hin, (queue_no_silent_loss hfixed).1 _ "e1" hin (by decide +kernel)⟩

end KubeSentry.Hublink
