import KubeSentry.Gateway.AdmissionEvents

/-!
# What an ack promises

A member removes an event from its queue when the ack says ACCEPTED or
DISCARDED, so the ack is a promise.  The last theorem says that the promise is
kept under every failure of the repositories.

The ack answers the entries of the batch one by one, in order.  There are three
kinds of ack, and a lemma for each: the results of the loop when the insert
succeeds (`answers_results`), the same results with the accepted ones rewritten
when it fails (`answers_retryAccepted`), and one retryable result for each
entry when the call fails before the loop (`answers_retryable`).  That the
accepted rows are stored is the transaction's own lemma.
-/

namespace KubeSentry.Gateway

open GoLib Database Admission

/-! ## What an ack means -/

/-- No storage rule matches the entry, in a table that has rules. -/
def NoRuleMatches (db : Tables) (clusterName : String) (event : AdmissionEvent) : Prop :=
  db.storagePolicies ≠ [] ∧ ∀ policy ∈ db.storagePolicies,
    (ruleOf policy).matchesEvent
      { verdict := event.verdict, clusterName := clusterName, apiGroup := event.apiGroup
        resource := event.resource, namespaceName := event.namespaceName } = false

/-- The grounds on which an entry may be discarded. -/
def Discardable (env : IngestEnv) (clusterName : String) (event : AdmissionEvent) : Prop :=
  (event.verdict ≠ "audit" ∧ event.verdict ≠ "deny") ∨
    NoRuleMatches env.db clusterName event ∨
      event.occurredAt.getD env.now + retention env.db.admissionSettings ≤ env.now

/-- The result answers the entry, given the table after the call and whether
the call failed. -/
structure Answers (env : IngestEnv) (clusterName : String) (after : EventTable) (failed : Bool)
    (event : AdmissionEvent) (result : AckResult) : Prop where
  eventID : result.eventID = event.eventID
  deliveryAttempt : result.deliveryAttempt = event.deliveryAttempt
  accepted : result.status = .accepted → after.Holds event.eventID
  discarded : result.status = .discarded → Discardable env clusterName event
  otherwise : result.status ≠ .accepted → result.status ≠ .discarded →
    result.status = .retryable ∧ failed = true

variable {event : AdmissionEvent} {cluster : ClusterRow} {env : IngestEnv} {now : Time}
  {row : AdmissionEventRow} {decide : AdmissionEvent → Decision}
  {batch : List (Option AdmissionEvent)} {clusterName : String} {after : EventTable} {failed : Bool}

/-- Every entry has a result that answers it. -/
theorem exists_answer {entries : List AdmissionEvent} {ack : List AckResult}
    (h : List.Forall₂ (Answers env clusterName after failed) entries ack)
    (hevent : event ∈ entries) :
    ∃ result ∈ ack, Answers env clusterName after failed event result := by
  induction h with
  | nil => cases hevent
  | cons hanswer _ ih =>
    rcases List.mem_cons.mp hevent with heq | hrest
    · exact ⟨_, List.mem_cons_self, heq ▸ hanswer⟩
    · obtain ⟨result, hresult, hanswer'⟩ := ih hrest
      exact ⟨result, List.mem_cons_of_mem _ hresult, hanswer'⟩

/-- A storage answer of the code in terms of the rules of the table. -/
theorem noRuleMatches_of_shouldStore {db : Tables}
    (h : shouldStoreAdmissionEvent (orderBy (fun p => p.priority) db.storagePolicies)
      (rowOf cluster now event) = false) : NoRuleMatches db cluster.name event := by
  have hperm := List.perm_insertionSort (fun a b : AdmissionStoragePolicy =>
    a.priority ≤ b.priority) db.storagePolicies
  have hnot := mt (shouldStore_iff _ _).mpr (Bool.eq_false_iff.mp h)
  refine ⟨?_, ?_⟩
  · intro hnil
    refine hnot (.inl ?_)
    rw [hnil]
    rfl
  · intro policy hpolicy
    rw [← Bool.not_eq_true]
    intro hmatch
    exact hnot (.inr ⟨ruleOf policy, List.mem_map_of_mem (hperm.mem_iff.mpr hpolicy), hmatch⟩)

variable {reason : DiscardReason}

/-- A discard of the loop has one of the three grounds. -/
theorem discardable_of_decideEvent (h : decideEvent cluster env.db.admissionSettings
      (orderBy (fun p => p.priority) env.db.storagePolicies) env.now event = .discard reason) :
    Discardable env cluster.name event := by
  unfold decideEvent at h
  dsimp only at h
  split_ifs at h with hverdict hstore helapsed
  · exact .inl hverdict
  · exact .inr (.inl (noRuleMatches_of_shouldStore (by simpa using hstore)))
  · exact .inr (.inr (not_lt.mp helapsed))

/-- A row that the loop accepts is the row of its entry. -/
theorem rowOf_of_decideEvent {settings : AdmissionEventSettings}
    {policies : List AdmissionStoragePolicy}
    (h : decideEvent cluster settings policies now event = .accept row) :
    row = rowOf cluster now event := by
  unfold decideEvent at h
  dsimp only at h
  split_ifs at h
  cases h
  rfl

/-- An accepted result of the loop stands for a row that goes to the database. -/
theorem exists_acceptedRow (hevent : event ∈ deliverable batch)
    (hstatus : ((decide event).result event).status = .accepted) :
    ∃ row ∈ IngestEnv.acceptedRows decide batch, decide event = .accept row := by
  cases hdecide : decide event with
  | discard reason =>
    rw [hdecide] at hstatus
    cases hstatus
  | accept row =>
    refine ⟨row, List.mem_filterMap.mpr ⟨event, hevent, ?_⟩, rfl⟩
    rw [hdecide]
    rfl

/-- Every row that goes to the database comes from an entry of the batch. -/
theorem acceptedRow_entry (hrow : row ∈ IngestEnv.acceptedRows decide batch) :
    ∃ event ∈ deliverable batch, decide event = .accept row := by
  obtain ⟨event, hevent, hsome⟩ := List.mem_filterMap.mp hrow
  refine ⟨event, hevent, ?_⟩
  cases hdecide : decide event with
  | discard reason =>
    rw [hdecide] at hsome
    cases hsome
  | accept row' =>
    rw [hdecide] at hsome
    cases hsome
    rfl

namespace IngestEnv

/-- The decisions of the loop for the rules and settings of the table. -/
def decideFor (env : IngestEnv) (cluster : ClusterRow) : AdmissionEvent → Decision :=
  decideEvent cluster env.db.admissionSettings
    (orderBy (fun p => p.priority) env.db.storagePolicies) env.now

def storeFor (env : IngestEnv) (cluster : ClusterRow) (events : EventTable)
    (batch : List (Option AdmissionEvent)) : BatchOutcome :=
  env.storeBatch cluster env.db.admissionSettings
    (orderBy (fun p => p.priority) env.db.storagePolicies) events batch

theorem getCluster_name [GoUnicode] {env : IngestEnv} {cluster : ClusterRow}
    (h : env.getCluster clusterName = .ok cluster) : cluster.name = clusterName := by
  obtain ⟨found, hfetch, hfound⟩ := bind_ok h
  rw [fetch_ok hfetch] at hfound
  cases hfind : env.db.clusters.find? fun c => c.name = clusterName with
  | none =>
    rw [hfind] at hfound
    cases hfound
  | some row =>
    rw [hfind] at hfound
    cases hfound
    simpa using List.find?_some hfind

/-- The three ways through `handleAdmissionEventBatch`: nothing to do, refused
before the loop, or the loop over the rules and settings of the table.  Which
one it is does not depend on the events that are stored. -/
theorem handleAdmissionEventBatch_cases [GoUnicode] (env : IngestEnv) (clusterName : String)
    (batch : Option (List (Option AdmissionEvent))) :
    (deliverable (batch.getD []) = [] ∧
        ∀ events, env.handleAdmissionEventBatch clusterName events batch =
          { ack := some [], err := none, events := events }) ∨
      (∃ err incidents, ∀ events, env.handleAdmissionEventBatch clusterName events batch =
        refuse events err incidents) ∨
      ∃ cluster : ClusterRow, cluster.name = clusterName ∧
        ∀ events, env.handleAdmissionEventBatch clusterName events batch =
          env.storeFor cluster events (batch.getD []) := by
  unfold handleAdmissionEventBatch
  by_cases hnil : (batch.getD []).length = 0
  · refine .inl ⟨?_, fun _ => if_pos hnil⟩
    rw [List.eq_nil_of_length_eq_zero hnil]
    rfl
  · simp only [if_neg hnil]
    right
    cases env.repos.admission with
    | false => exact .inl ⟨_, _, fun _ => rfl⟩
    | true =>
      cases hcluster : env.getCluster clusterName with
      | error err => exact .inl ⟨_, _, fun _ => rfl⟩
      | ok cluster =>
        cases hsettings : fetch env.faults .admissionGetSettings "get admission event settings: "
            env.db.admissionSettings with
        | error err => exact .inl ⟨_, _, fun _ => rfl⟩
        | ok settings =>
          cases hpolicies : fetch env.faults .admissionListPolicies ""
              (orderBy (fun p => p.priority) env.db.storagePolicies) with
          | error err => exact .inl ⟨_, _, fun _ => rfl⟩
          | ok policies =>
            rw [fetch_ok hsettings, fetch_ok hpolicies]
            exact .inr ⟨cluster, getCluster_name hcluster, fun _ => rfl⟩

/-- What the loop and the insert come to.  The call fails if the insert does. -/
theorem storeFor_spec (env : IngestEnv) (cluster : ClusterRow) (events : EventTable)
    (batch : List (Option AdmissionEvent)) :
    let decide := env.decideFor cluster
    let stored := createEventsIdempotentCount env.tx events (acceptedRows decide batch)
    let out := env.storeFor cluster events batch
    out.ack = some (results decide batch) ∧ out.events = stored.1 ∧
      out.err = match stored.2 with
        | .error err => some err
        | .ok _ => none := by
  dsimp only [storeFor, storeBatch, decideFor]
  split
  · rename_i h
    rw [h]
    exact ⟨rfl, rfl, rfl⟩
  · rename_i h
    rw [h]
    exact ⟨rfl, rfl, rfl⟩

end IngestEnv

open IngestEnv

/-! ## The ack of a call that succeeds -/

/-- A discard of the loop answers its entry. -/
theorem answers_discard (hdecide : env.decideFor cluster event = .discard reason) :
    Answers env cluster.name after failed event (discardedAdmissionEvent event reason) := by
  refine ⟨rfl, rfl, ?_, fun _ => discardable_of_decideEvent hdecide, fun _ h => absurd rfl h⟩
  intro hstatus
  cases hstatus

variable (env : IngestEnv)

/-- The results of the loop answer the entries once the accepted rows are
stored. -/
theorem answers_results (cluster : ClusterRow) (after : EventTable) (failed : Bool)
    (batch : List (Option AdmissionEvent))
    (hdurable : ∀ row ∈ acceptedRows (env.decideFor cluster) batch,
      after.Holds row.eventID) :
    List.Forall₂ (Answers env cluster.name after failed) (deliverable batch)
      (results (env.decideFor cluster) batch) := by
  unfold results
  rw [List.forall₂_map_right_iff, List.forall₂_same]
  intro event hevent
  have hrow : ((env.decideFor cluster event).result event).status = .accepted →
      after.Holds event.eventID := by
    intro hstatus
    obtain ⟨row, hrow, hdecide⟩ := exists_acceptedRow hevent hstatus
    have hstored := hdurable row hrow
    rw [rowOf_of_decideEvent hdecide] at hstored
    exact hstored
  cases hdecide : env.decideFor cluster event with
  | accept row =>
    rw [hdecide] at hrow
    refine ⟨rfl, rfl, hrow, ?_, fun h => absurd rfl h⟩
    intro hstatus
    cases hstatus
  | discard reason => exact answers_discard hdecide

/-! ## The ack of a call that fails -/

theorem answers_retryable (clusterName : String) (after : EventTable) (event : AdmissionEvent)
    (reason : String) :
    Answers env clusterName after true event (retryableAdmissionEvent reason event) := by
  refine ⟨rfl, rfl, ?_, ?_, fun _ _ => ⟨rfl, rfl⟩⟩
  · intro hstatus
    cases hstatus
  · intro hstatus
    cases hstatus

/-- After a failure no result is left accepted, and the others stay. -/
theorem answers_retryAccepted (cluster : ClusterRow) (after : EventTable)
    (batch : List (Option AdmissionEvent)) (reason : String) :
    List.Forall₂ (Answers env cluster.name after true) (deliverable batch)
      ((results (env.decideFor cluster) batch).map (retryAccepted reason)) := by
  unfold results
  rw [List.map_map, List.forall₂_map_right_iff, List.forall₂_same]
  intro event _
  dsimp only [Function.comp_apply]
  cases hdecide : env.decideFor cluster event with
  | accept row => exact answers_retryable env cluster.name after event reason
  | discard discardReason => exact answers_discard hdecide

theorem admissionEventFailureAck_none (batch : Option (List (Option AdmissionEvent)))
    (reason : String) :
    admissionEventFailureAck none batch reason =
      (deliverable (batch.getD [])).map (retryableAdmissionEvent reason) := by
  simp [admissionEventFailureAck]

/-- The loop has answered every entry, so the failure ack adds nothing. -/
theorem admissionEventFailureAck_results (decide : AdmissionEvent → Decision)
    (batch : Option (List (Option AdmissionEvent))) (reason : String) :
    admissionEventFailureAck (some (results decide (batch.getD []))) batch reason =
      (results decide (batch.getD [])).map (retryAccepted reason) := by
  have hids : (results decide (batch.getD [])).map (fun result => result.eventID) =
      (deliverable (batch.getD [])).map fun event => event.eventID := by
    unfold results
    rw [List.map_map]
    refine List.map_congr_left fun event _ => ?_
    show ((decide event).result event).eventID = event.eventID
    cases decide event <;> rfl
  have hmissing : (deliverable (batch.getD [])).filter (fun event =>
      event.eventID ∉ (deliverable (batch.getD [])).map fun event => event.eventID) = [] := by
    rw [List.filter_eq_nil_iff]
    intro event hevent
    simpa using ⟨event, hevent, rfl⟩
  unfold admissionEventFailureAck
  dsimp only [Option.getD_some]
  rw [hids, hmissing, List.map_nil, List.append_nil]

/-! ## Durable acks -/

section

variable [GoUnicode]

/-- The ack answers the entries one by one, in order. -/
theorem answers_sync (env : IngestEnv) (clusterName : String) (events : EventTable)
    (batch : Option (List (Option AdmissionEvent))) :
    List.Forall₂
      (Answers env clusterName (syncAdmissionEventBatch env clusterName events batch).events
        (syncAdmissionEventBatch env clusterName events batch).failed)
      (deliverable (batch.getD [])) (syncAdmissionEventBatch env clusterName events batch).ack := by
  unfold syncAdmissionEventBatch
  dsimp only
  rcases env.handleAdmissionEventBatch_cases clusterName batch with
    ⟨hnil, hout⟩ | ⟨err, incidents, hout⟩ | ⟨cluster, hname, hout⟩
  · rw [hout, hnil]
    exact List.Forall₂.nil
  · rw [hout]
    show List.Forall₂ (Answers env clusterName events true) _
      (admissionEventFailureAck none batch _)
    rw [admissionEventFailureAck_none, List.forall₂_map_right_iff, List.forall₂_same]
    exact fun event _ => answers_retryable env clusterName events event _
  · obtain ⟨hack, hevents, herr⟩ := env.storeFor_spec cluster events (batch.getD [])
    rw [hout, hack, herr, ← hname]
    split
    · show List.Forall₂ (Answers env cluster.name _ true) _ (admissionEventFailureAck _ batch _)
      rw [admissionEventFailureAck_results]
      exact answers_retryAccepted env cluster _ _ _
    · rename_i hcounts
      refine answers_results env cluster _ _ _ ?_
      rw [hevents]
      exact createEventsIdempotentCount_durable hcounts

/-- A call leaves the table as it was, or it is the insert of accepted rows.
The rows stand for entries of the batch and belong to the cluster of the
stream. -/
theorem sync_events_cases (env : IngestEnv) (clusterName : String)
    (batch : Option (List (Option AdmissionEvent))) :
    (∀ events, (syncAdmissionEventBatch env clusterName events batch).events = events) ∨
      ∃ accepted : List AdmissionEventRow,
        (∀ row ∈ accepted, row.clusterName = clusterName ∧
          row.eventID ∈ (deliverable (batch.getD [])).map fun event => event.eventID) ∧
        ∀ events, (syncAdmissionEventBatch env clusterName events batch).events =
          (createEventsIdempotentCount env.tx events accepted).1 := by
  rcases env.handleAdmissionEventBatch_cases clusterName batch with
    ⟨_, hout⟩ | ⟨err, incidents, hout⟩ | ⟨cluster, hname, hout⟩
  · left
    intro events
    show (env.handleAdmissionEventBatch clusterName events batch).events = events
    rw [hout]
  · left
    intro events
    show (env.handleAdmissionEventBatch clusterName events batch).events = events
    rw [hout]
    rfl
  · refine .inr ⟨acceptedRows (env.decideFor cluster) (batch.getD []), ?_, ?_⟩
    · intro row hrow
      obtain ⟨event, hevent, hdecide⟩ := acceptedRow_entry hrow
      rw [rowOf_of_decideEvent hdecide]
      exact ⟨hname, List.mem_map.mpr ⟨event, hevent, rfl⟩⟩
    · intro events
      show (env.handleAdmissionEventBatch clusterName events batch).events = _
      rw [hout, (env.storeFor_spec cluster events _).2.1]

/-- A batch whose entries are all stored leaves the table as it is, whatever
the settings, the rules and the failures are. -/
theorem sync_events_of_holds (env : IngestEnv) (clusterName : String) {events : EventTable}
    {batch : Option (List (Option AdmissionEvent))}
    (hold : ∀ event ∈ deliverable (batch.getD []), events.Holds event.eventID) :
    (syncAdmissionEventBatch env clusterName events batch).events = events := by
  rcases sync_events_cases env clusterName batch with hsame | ⟨accepted, hrows, hout⟩
  · exact hsame events
  · rw [hout]
    refine createEventsIdempotentCount_idempotent env.tx ?_
    intro row hrow
    obtain ⟨event, hevent, heq⟩ := List.mem_map.mp (hrows row hrow).2
    rw [← heq]
    exact hold event hevent

/-- Every entry with an event id gets exactly one result, with its delivery
attempt.  An accepted entry is stored when the ack leaves, a discarded one has
a ground, and any other result is retryable after a failure.  A batch that was
accepted as a whole changes nothing when it is delivered again, in any later
environment and to any table that still has its rows. -/
theorem sync_ack_durable (env : IngestEnv) (clusterName : String) (events : EventTable)
    (batch : Option (List (Option AdmissionEvent))) :
    let out := syncAdmissionEventBatch env clusterName events batch
    List.Forall₂ (Answers env clusterName out.events out.failed) (deliverable (batch.getD []))
        out.ack ∧
      ((∀ result ∈ out.ack, result.status = .accepted) →
        ∀ (later : IngestEnv) (clusterName' : String) (events' : EventTable),
          (∀ eventID, out.events.Holds eventID → events'.Holds eventID) →
          (syncAdmissionEventBatch later clusterName' events' batch).events = events') := by
  intro out
  have hanswers := answers_sync env clusterName events batch
  refine ⟨hanswers, ?_⟩
  intro haccepted later clusterName' events' hkept
  refine sync_events_of_holds later clusterName' ?_
  intro event hevent
  obtain ⟨result, hresult, hanswer⟩ := exists_answer hanswers hevent
  exact hkept _ (hanswer.accepted (haccepted result hresult))

end

attribute [local instance] GoUnicode.ascii

/-- A gateway with one cluster and no storage rule. -/
def openIngest : IngestEnv where
  db := { clusters := [{ id := 7, name := "edge" }] }
  now := 1000

/-- Two deliveries of one event id, a nil entry and an entry without an id. -/
def repeatedBatch : List (Option AdmissionEvent) :=
  [some { eventID := "e1", verdict := "deny", deliveryAttempt := 1 }, none,
    some { eventID := "", verdict := "deny" },
    some { eventID := "e1", verdict := "deny", deliveryAttempt := 2 }]

/-- Both deliveries are accepted, one row is stored, and the batch may come
again. -/
theorem sync_ack_durable_repeated :
    (syncAdmissionEventBatch openIngest "edge" .empty (some repeatedBatch)).ack =
        [{ eventID := "e1", status := .accepted, deliveryAttempt := 1 },
          { eventID := "e1", status := .accepted, deliveryAttempt := 2 }] ∧
      (syncAdmissionEventBatch openIngest "edge" .empty (some repeatedBatch)).events.rows.length
        = 1 ∧
      (syncAdmissionEventBatch openIngest "edge"
          (syncAdmissionEventBatch openIngest "edge" .empty (some repeatedBatch)).events
          (some repeatedBatch)).events =
        (syncAdmissionEventBatch openIngest "edge" .empty (some repeatedBatch)).events := by
  refine ⟨by decide +kernel, by decide +kernel, ?_⟩
  refine (sync_ack_durable openIngest "edge" .empty (some repeatedBatch)).2 ?_ openIngest "edge" _
    fun _ hold => hold
  decide +kernel

end KubeSentry.Gateway
