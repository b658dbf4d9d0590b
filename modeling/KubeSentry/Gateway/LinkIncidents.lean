import KubeSentry.Database.Incidents
import KubeSentry.Gateway.AdmissionEvents
import KubeSentry.Hublink.IncidentDelivery

/-!
# Answers to link incidents

`handleLinkIncidentBatch` of `internal/gateway/observability_reports.go`.  The
handler reads the settings and the cluster, stores the incidents of the batch
one by one, and answers each of them.  A member removes an incident from its
queue and its tracker when the answer is ACCEPTED or DISCARDED, and sends it
again when the answer is RETRYABLE.

An answer is final for a reason if the batch was too large, the observation is
disabled, the incident is invalid or the incident is stored (`Final`).
`AcksFinal` collects what the answers of a batch should satisfy, on the side of
the gateway and on the side of the member.  It fails in one case: a failed read
of the settings is answered like a disabled observation.
-/

namespace KubeSentry.Gateway

open GoLib Database Observability

/-! ## One incident -/

/-- `maxMemberClockLead`: five minutes. -/
def maxMemberClockLead : Int := 5 * 60 * 1000000000

/-- A member's clock that runs ahead is cut back to the time of receipt. -/
def clampTimes (i : Incident) (receivedAt : Time) : Incident :=
  let latest := receivedAt + maxMemberClockLead
  let startedAt := if latest < i.startedAt then receivedAt else i.startedAt
  let lastSeenAt := if latest < i.lastSeenAt then receivedAt else i.lastSeenAt
  { i with
    startedAt := if lastSeenAt < startedAt then lastSeenAt else startedAt
    lastSeenAt := lastSeenAt }

def incidentFromProto [GoUnicode] (wire : Option LinkIncident) (receivedAt : Time) :
    Except IncidentError Incident :=
  match incidentModel wire with
  | .error err => .error err
  | .ok i => validated (clampTimes i receivedAt)

/-- What one call meets.  The clock is past the zero time. -/
structure ReportEnv extends IngestEnv where
  incidents : Bool := true
  clusters : Bool := true
  /-- The database in the `Upsert` of each entry. -/
  txs : Nat → IncidentTx := fun _ => {}
  clock : zeroTime < now

/-- What the loop does for one entry. -/
structure EntryOutcome where
  answer : LinkIncidentResult
  table : IncidentTable
  incidents : List GatewayIncident := []

/-- What one call returns and leaves behind. -/
structure ReportOutcome where
  ack : List LinkIncidentResult
  table : IncidentTable
  incidents : List GatewayIncident := []

namespace ReportEnv

/-- `Admission.GetSettings`. -/
def getSettings (env : ReportEnv) : Except String AdmissionEventSettings :=
  fetch env.faults .admissionGetSettings "get admission event settings: " env.db.admissionSettings

/-- The settings are readable, or nothing reads them. -/
def SettingsReadable (env : ReportEnv) : Prop :=
  env.repos.admission = false ∨ env.faults .admissionGetSettings = none

/-- The check of the settings: whether the batch is dropped. -/
def dropsReports (env : ReportEnv) : Bool :=
  env.repos.admission &&
    match env.getSettings with
    | .error _ => true
    | .ok settings => !settings.observationEnabled

section

variable [GoUnicode] (env : ReportEnv)

/-- The body of the loop, for the entry at position `n`. -/
def storeIncident (cluster : ClusterRow) (n : Nat) (table : IncidentTable)
    (wire : Option LinkIncident) : EntryOutcome :=
  let invalid := { answer := linkIncidentACK wire .discarded "invalid_report", table := table }
  match incidentFromProto wire env.now with
  | .error _ => invalid
  | .ok i =>
    if !i.component.validMember then invalid
    else
      match upsert (env.txs n) table cluster.id cluster.name i env.now with
      | (table, some err) =>
        { answer :=
            { incidentKey := i.incidentKey, revision := i.revision, status := .retryable
              reason := "write_failed" }
          table := table
          incidents := env.record [{ reason := .writeFailed, affected := 1, detail := err }] }
      | (table, none) =>
        { answer :=
            { incidentKey := i.incidentKey, revision := i.revision, status := .accepted }
          table := table }

/-- The loop. -/
def storeIncidents (cluster : ClusterRow) (n : Nat) (table : IncidentTable) :
    List (Option LinkIncident) → ReportOutcome
  | [] => { ack := [], table := table }
  | wire :: rest =>
    let one := env.storeIncident cluster n table wire
    let more := storeIncidents cluster (n + 1) one.table rest
    { ack := one.answer :: more.ack, table := more.table
      incidents := one.incidents ++ more.incidents }

/-- The part before the loop: the cluster, or one answer for every entry. -/
def beforeStore (clusterName : String) (batch : List (Option LinkIncident)) :
    Except (AckStatus × String) ClusterRow :=
  if maxBatchSize < batch.length then .error (.discarded, "batch_too_large")
  else if env.dropsReports then .error (.discarded, "admission_pipeline_observation_disabled")
  else if !env.incidents || !env.clusters then .error (.retryable, "write_failed")
  else
    match env.getCluster clusterName with
    | .error _ => .error (.retryable, "write_failed")
    | .ok cluster => .ok cluster

def handleLinkIncidentBatch (clusterName : String) (table : IncidentTable)
    (batch : Option (List (Option LinkIncident))) : ReportOutcome :=
  let batch := batch.getD []
  if batch.length = 0 then { ack := [], table := table }
  else
    match env.beforeStore clusterName batch with
    | .error (status, reason) => { ack := answerAll status reason batch, table := table }
    | .ok cluster => env.storeIncidents cluster 0 table batch

end

/-! ## What the answers should satisfy -/

variable [GoUnicode]

/-- The incident itself is invalid, whatever the clock says. -/
def Invalid (wire : Option LinkIncident) : Prop :=
  ∀ i, incidentModel wire = .ok i → i.component.validMember = false

variable (env : ReportEnv) (clusterName : String) (table : IncidentTable)
  (batch : List (Option LinkIncident))

/-- The `Upsert` of the entry at position `n`, in the state that the entries
before it leave. -/
def upsertAt (cluster : ClusterRow) (n : Nat) (i : Incident) : IncidentTable × Option String :=
  upsert (env.txs n) (env.storeIncidents cluster 0 table (batch.take n)).table cluster.id
    cluster.name i env.now

/-- The entry was upserted, and the table that the call leaves has it. -/
def Upserted (n : Nat) (wire : Option LinkIncident) : Prop :=
  ∃ cluster i, env.getCluster clusterName = .ok cluster ∧
    incidentFromProto wire env.now = .ok i ∧ i.incidentKey = incidentIdentity wire ∧
    (env.upsertAt table batch cluster n i).2 = none ∧
    Stored (env.handleLinkIncidentBatch clusterName table (some batch)).table cluster.id i

/-- The answers of the batch. -/
def acks : List LinkIncidentResult :=
  (env.handleLinkIncidentBatch clusterName table (some batch)).ack

/-- A terminal answer to the entry at position `n` has a reason. -/
def Final (n : Nat) (wire : Option LinkIncident) : Prop :=
  maxBatchSize < batch.length ∨
    (env.repos.admission = true ∧ env.db.admissionSettings.observationEnabled = false) ∨
    Invalid wire ∨ env.Upserted clusterName table batch n wire

/-- A read of the call fails: the one of the settings, or the one of the
cluster that follows it. -/
def ReadFails : Prop :=
  batch ≠ [] ∧ batch.length ≤ maxBatchSize ∧
    ((env.repos.admission = true ∧ env.faults .admissionGetSettings ≠ none) ∨
      (env.dropsReports = false ∧ env.incidents = true ∧ env.clusters = true ∧
        ∃ err, env.getCluster clusterName = .error err))

/-- The write of the entry at position `n` fails. -/
def WriteFails (n : Nat) (wire : Option LinkIncident) : Prop :=
  ∃ cluster i, env.beforeStore clusterName batch = .ok cluster ∧
    incidentFromProto wire env.now = .ok i ∧ i.component.validMember = true ∧
    (env.upsertAt table batch cluster n i).2 ≠ none

/-- The answers of a batch: one for each incident, terminal only for a reason,
and RETRYABLE after a failed read or write.  On the member, an incident leaves
the queue or is acknowledged to the tracker only for a reason. -/
structure AcksFinal : Prop where
  identity : (env.acks clusterName table batch).map (fun r => (r.incidentKey, r.revision)) =
    batch.map fun wire => (incidentIdentity wire, incidentRevision wire)
  discarded : ∀ (n : Nat) (wire : Option LinkIncident) (r : LinkIncidentResult),
    batch[n]? = some wire → (env.acks clusterName table batch)[n]? = some r →
    r.status = .discarded → maxBatchSize < batch.length ∨
      (env.repos.admission = true ∧ env.db.admissionSettings.observationEnabled = false) ∨
      Invalid wire
  accepted : ∀ (n : Nat) (wire : Option LinkIncident) (r : LinkIncidentResult),
    batch[n]? = some wire → (env.acks clusterName table batch)[n]? = some r →
    r.status = .accepted → env.Upserted clusterName table batch n wire
  readFailed : env.ReadFails clusterName batch →
    ∀ r ∈ env.acks clusterName table batch, r.status = .retryable
  writeFailed : ∀ (n : Nat) (wire : Option LinkIncident) (r : LinkIncidentResult),
    batch[n]? = some wire → (env.acks clusterName table batch)[n]? = some r →
    env.WriteFails clusterName table batch n wire → r.status = .retryable
  kept : ∀ (queue : GoMap Hublink.QueuedLinkIncident) (key : String)
    (q : Hublink.QueuedLinkIncident), queue[key]? = some q →
    (∃ q', (((env.acks clusterName table batch).map some).foldl Hublink.ackIncident
        (queue, [])).1[key]? = some q' ∧ q'.incident = q.incident) ∨
      ∃ n wire, batch[n]? = some wire ∧ incidentIdentity wire = key ∧
        q.incident.revision ≤ incidentRevision wire ∧ env.Final clusterName table batch n wire
  acknowledged : ∀ (queue : GoMap Hublink.QueuedLinkIncident),
    ∀ call ∈ (((env.acks clusterName table batch).map some).foldl Hublink.ackIncident
      (queue, [])).2,
    ∃ n wire, batch[n]? = some wire ∧
      call = .acknowledge (incidentIdentity wire) (incidentRevision wire) ∧
      env.Final clusterName table batch n wire

end ReportEnv

/-! ## One entry -/

section

variable [GoUnicode] {wire : Option LinkIncident} {i : Incident} {receivedAt : Time}

theorem incidentModel_spec (h : incidentModel wire = .ok i) :
    i.incidentKey = incidentIdentity wire ∧ i.revision = incidentRevision wire ∧
      i.validate = none := by
  unfold incidentModel at h
  split at h
  · cases h
  · split at h
    · split at h
      · cases h
      · cases h
      · unfold validated at h
        split at h
        · cases h
        · rename_i hvalid
          cases h
          exact ⟨rfl, rfl, hvalid⟩
    · cases h

omit [GoUnicode] in
theorem clampTimes_times (i : Incident) (hclock : zeroTime < receivedAt)
    (hstarted : i.startedAt ≠ zeroTime) (hseen : i.lastSeenAt ≠ zeroTime) :
    (clampTimes i receivedAt).startedAt ≠ zeroTime ∧
      (clampTimes i receivedAt).lastSeenAt ≠ zeroTime ∧
      (clampTimes i receivedAt).startedAt ≤ (clampTimes i receivedAt).lastSeenAt := by
  have hcut : ∀ t : Time, t ≠ zeroTime →
      (if receivedAt + maxMemberClockLead < t then receivedAt else t) ≠ zeroTime := by
    intro t ht
    split
    · exact hclock.ne'
    · exact ht
  have hs := hcut i.startedAt hstarted
  have hl := hcut i.lastSeenAt hseen
  unfold clampTimes
  dsimp only
  generalize (if receivedAt + maxMemberClockLead < i.startedAt then receivedAt else i.startedAt) =
    startedAt at hs ⊢
  generalize (if receivedAt + maxMemberClockLead < i.lastSeenAt then receivedAt
    else i.lastSeenAt) = lastSeenAt at hl ⊢
  by_cases horder : lastSeenAt < startedAt
  · rw [if_pos horder]
    exact ⟨hl, hl, le_refl _⟩
  · rw [if_neg horder]
    exact ⟨hs, hl, not_lt.mp horder⟩

/-- Cutting the times back keeps an incident valid. -/
theorem clampTimes_validate (hclock : zeroTime < receivedAt) (h : i.validate = none) :
    (clampTimes i receivedAt).validate = none := by
  have hvalid := validate_eq_none_iff.mp h
  have htimes := not_or.mp hvalid.times
  obtain ⟨hstarted, hseen, hle⟩ := clampTimes_times i hclock htimes.1 htimes.2
  refine validate_eq_none_iff.mpr ?_
  -- Only the times differ, so every other check has the outcome that it had.
  exact ⟨hvalid.key, hvalid.reporter, hvalid.revision, hvalid.component, hvalid.reason,
    not_or.mpr ⟨hstarted, hseen⟩, hle, hvalid.count, hvalid.samples, hvalid.detail⟩

/-- A report that the model accepts is accepted at any time. -/
theorem incidentFromProto_of_model (hclock : zeroTime < receivedAt)
    (h : incidentModel wire = .ok i) :
    incidentFromProto wire receivedAt = .ok (clampTimes i receivedAt) := by
  unfold incidentFromProto validated
  rw [h]
  dsimp only
  rw [clampTimes_validate hclock (incidentModel_spec h).2.2]

variable {j : Incident}

theorem incidentFromProto_ok (h : incidentFromProto wire receivedAt = .ok j) :
    ∃ i, incidentModel wire = .ok i ∧ j = clampTimes i receivedAt := by
  unfold incidentFromProto validated at h
  split at h
  · cases h
  · rename_i i hmodel
    split at h
    · cases h
    · cases h
      exact ⟨i, hmodel, rfl⟩

/-- The three outcomes of an entry. -/
theorem ReportEnv.storeIncident_cases (env : ReportEnv) (cluster : ClusterRow) (n : Nat)
    (table : IncidentTable) (wire : Option LinkIncident) :
    let out := env.storeIncident cluster n table wire
    (out.answer.incidentKey = incidentIdentity wire ∧
      out.answer.revision = incidentRevision wire) ∧
    ((Invalid wire ∧ out.answer.status = .discarded ∧ out.table = table) ∨
      ∃ i, incidentFromProto wire env.now = .ok i ∧ i.component.validMember = true ∧
        i.incidentKey = incidentIdentity wire ∧
        out.table = (upsert (env.txs n) table cluster.id cluster.name i env.now).1 ∧
        out.answer.status =
          if (upsert (env.txs n) table cluster.id cluster.name i env.now).2 = none then .accepted
          else .retryable) := by
  unfold storeIncident
  cases hproto : incidentFromProto wire env.now with
  | error err =>
    refine ⟨⟨rfl, rfl⟩, .inl ⟨?_, rfl, rfl⟩⟩
    intro i hmodel
    rw [incidentFromProto_of_model env.clock hmodel] at hproto
    cases hproto
  | ok i =>
    obtain ⟨i0, hmodel, heq⟩ := incidentFromProto_ok hproto
    obtain ⟨hkey, hrevision, _⟩ := incidentModel_spec hmodel
    have hi : i.incidentKey = incidentIdentity wire ∧ i.revision = incidentRevision wire := by
      rw [heq]
      exact ⟨hkey, hrevision⟩
    cases hmember : i.component.validMember with
    | false =>
      dsimp only
      rw [hmember, Bool.not_false, if_pos rfl]
      refine ⟨⟨rfl, rfl⟩, .inl ⟨?_, rfl, rfl⟩⟩
      intro i' hmodel'
      rw [hmodel] at hmodel'
      cases hmodel'
      rw [heq] at hmember
      exact hmember
    | true =>
      dsimp only
      rw [hmember, Bool.not_true, if_neg Bool.false_ne_true]
      cases hupsert : upsert (env.txs n) table cluster.id cluster.name i env.now with
      | mk table' err =>
        cases err with
        | none =>
          exact ⟨hi, .inr ⟨i, rfl, hmember, hi.1, by rw [hupsert], by rw [hupsert]; rfl⟩⟩
        | some err =>
          exact ⟨hi, .inr ⟨i, rfl, hmember, hi.1, by rw [hupsert], by rw [hupsert]; rfl⟩⟩

namespace ReportEnv

variable (env : ReportEnv)

/-! ## The loop -/

variable (cluster : ClusterRow)

theorem storeIncidents_append (before after : List (Option LinkIncident)) :
    ∀ (k : Nat) (table : IncidentTable),
      (env.storeIncidents cluster k table (before ++ after)).table =
        (env.storeIncidents cluster (k + before.length)
          (env.storeIncidents cluster k table before).table after).table := by
  induction before with
  | nil =>
    intro k table
    rfl
  | cons wire rest ih =>
    intro k table
    show (env.storeIncidents cluster (k + 1) _ (rest ++ after)).table = _
    rw [ih, List.length_cons, Nat.add_assoc, Nat.add_comm 1]
    rfl

variable {wire : Option LinkIncident} {batch : List (Option LinkIncident)}

/-- The answer at a position is the one of its entry, in the table that the
entries before it leave. -/
theorem storeIncidents_ack :
    ∀ {n : Nat} (k : Nat) (table : IncidentTable), batch[n]? = some wire →
      (env.storeIncidents cluster k table batch).ack[n]? = some (env.storeIncident cluster (k + n)
          (env.storeIncidents cluster k table (batch.take n)).table wire).answer := by
  induction batch with
  | nil =>
    intro n k table hwire
    cases hwire
  | cons first rest ih =>
    intro n k table hwire
    cases n with
    | zero =>
      cases hwire
      rfl
    | succ n =>
      show (env.storeIncidents cluster (k + 1) _ rest).ack[n]? = _
      rw [ih (k + 1) _ hwire, Nat.add_assoc, Nat.add_comm 1]
      rfl

theorem storeIncidents_identity (batch : List (Option LinkIncident)) :
    ∀ (k : Nat) (table : IncidentTable),
      (env.storeIncidents cluster k table batch).ack.map (fun r => (r.incidentKey, r.revision)) =
        batch.map fun wire => (incidentIdentity wire, incidentRevision wire) := by
  induction batch with
  | nil =>
    intro k table
    rfl
  | cons wire rest ih =>
    intro k table
    obtain ⟨hkey, hrevision⟩ := (env.storeIncident_cases cluster k table wire).1
    unfold storeIncidents
    rw [List.map_cons, List.map_cons, ih, hkey, hrevision]

theorem storeIncidents_stored {c : Int} (batch : List (Option LinkIncident)) :
    ∀ (k : Nat) {table : IncidentTable}, Stored table c j →
      Stored (env.storeIncidents cluster k table batch).table c j := by
  induction batch with
  | nil =>
    intro k table h
    exact h
  | cons wire rest ih =>
    intro k table h
    refine ih (k + 1) ?_
    rcases (env.storeIncident_cases cluster k table wire).2 with ⟨_, _, heq⟩ | ⟨i, _, _, _, heq, _⟩
    · rw [heq]
      exact h
    · rw [heq]
      exact h.upsert _ _ _ _ _

variable {r : LinkIncidentResult}

/-- What the loop does at a position: the entry is invalid and discarded, or it
is upserted and the answer says how that went. -/
theorem storeIncidents_entry (table : IncidentTable) {n : Nat} (hwire : batch[n]? = some wire)
    (hr : (env.storeIncidents cluster 0 table batch).ack[n]? = some r) :
    (Invalid wire ∧ r.status = .discarded) ∨
      ∃ i, incidentFromProto wire env.now = .ok i ∧ i.incidentKey = incidentIdentity wire ∧
        (((env.upsertAt table batch cluster n i).2 ≠ none ∧ r.status = .retryable) ∨
          ((env.upsertAt table batch cluster n i).2 = none ∧ r.status = .accepted ∧
            Stored (env.storeIncidents cluster 0 table batch).table cluster.id i)) := by
  rw [env.storeIncidents_ack cluster 0 table hwire, Nat.zero_add] at hr
  obtain ⟨hlt, hget⟩ := List.getElem?_eq_some_iff.mp hwire
  have hsplit : batch = batch.take n ++ wire :: batch.drop (n + 1) := by
    rw [← hget, ← List.drop_eq_getElem_cons hlt, List.take_append_drop]
  have hlength : (batch.take n).length = n := by
    rw [List.length_take]
    omega
  rcases (env.storeIncident_cases cluster n
      (env.storeIncidents cluster 0 table (batch.take n)).table wire).2 with
    ⟨hinvalid, hstatus, _⟩ | ⟨i, hproto, _, hkey, htable, hstatus⟩
  · cases hr
    exact .inl ⟨hinvalid, hstatus⟩
  · cases hr
    refine .inr ⟨i, hproto, hkey, ?_⟩
    rw [hstatus]
    by_cases hok : (upsert (env.txs n) (env.storeIncidents cluster 0 table (batch.take n)).table
        cluster.id cluster.name i env.now).2 = none
    · rw [if_pos hok]
      refine .inr ⟨hok, rfl, ?_⟩
      conv => rw [hsplit]
      rw [storeIncidents_append, hlength, Nat.zero_add]
      -- The table right after the entry, and then the rest of the batch.
      refine env.storeIncidents_stored cluster (batch.drop (n + 1)) (n + 1) ?_
      rw [htable]
      exact stored_of_upsert hok
    · rw [if_neg hok]
      exact .inl ⟨hok, rfl⟩

/-! ## The reads -/

omit [GoUnicode] in
theorem dropsReports_iff (h : env.SettingsReadable) : env.dropsReports = true ↔
      env.repos.admission = true ∧ env.db.admissionSettings.observationEnabled = false := by
  unfold dropsReports
  rcases h with hadmission | hfault
  · simp [hadmission]
  · have hread : env.getSettings = .ok env.db.admissionSettings := by
      unfold getSettings fetch
      rw [hfault]
    rw [hread]
    simp

omit [GoUnicode] in
theorem dropsReports_of_fault (hadmission : env.repos.admission = true)
    (hfault : env.faults .admissionGetSettings ≠ none) : env.dropsReports = true := by
  obtain ⟨err, herr⟩ := Option.ne_none_iff_exists'.mp hfault
  unfold dropsReports getSettings fetch
  rw [hadmission, herr]
  rfl

/-- The four ways through the part before the loop. -/
theorem beforeStore_cases (clusterName : String) (batch : List (Option LinkIncident)) :
    (maxBatchSize < batch.length ∧
        ∃ reason, env.beforeStore clusterName batch = .error (.discarded, reason)) ∨
      (batch.length ≤ maxBatchSize ∧ env.dropsReports = true ∧
        ∃ reason, env.beforeStore clusterName batch = .error (.discarded, reason)) ∨
      (batch.length ≤ maxBatchSize ∧ env.dropsReports = false ∧
        ∃ reason, env.beforeStore clusterName batch = .error (.retryable, reason)) ∨
      (batch.length ≤ maxBatchSize ∧ env.dropsReports = false ∧
        ∃ cluster, env.getCluster clusterName = .ok cluster ∧
          env.beforeStore clusterName batch = .ok cluster) := by
  unfold beforeStore
  by_cases hover : maxBatchSize < batch.length
  · exact .inl ⟨hover, _, if_pos hover⟩
  rw [if_neg hover]
  have hle : batch.length ≤ maxBatchSize := not_lt.mp hover
  cases hdrops : env.dropsReports with
  | true => exact .inr (.inl ⟨hle, rfl, _, if_pos rfl⟩)
  | false =>
    by_cases hrepos : (!env.incidents || !env.clusters) = true
    · exact .inr (.inr (.inl ⟨hle, rfl, _, if_pos hrepos⟩))
    · rw [if_neg hrepos]
      cases hcluster : env.getCluster clusterName with
      | error err => exact .inr (.inr (.inl ⟨hle, rfl, _, rfl⟩))
      | ok cluster => exact .inr (.inr (.inr ⟨hle, rfl, cluster, rfl, rfl⟩))

variable {clusterName : String}

/-- The empty batch needs no case of its own. -/
theorem handle_eq (table : IncidentTable) :
    env.handleLinkIncidentBatch clusterName table (some batch) =
      match env.beforeStore clusterName batch with
      | .error (status, reason) => { ack := answerAll status reason batch, table := table }
      | .ok cluster => env.storeIncidents cluster 0 table batch := by
  unfold handleLinkIncidentBatch
  dsimp only [Option.getD_some]
  split
  · rename_i hempty
    rw [List.eq_nil_of_length_eq_zero hempty]
    split <;> rfl
  · rfl

/-! ## The answers -/

theorem Invalid.not_member (h : Invalid wire) {i : Incident} {receivedAt : Time}
    (hproto : incidentFromProto wire receivedAt = .ok i) : i.component.validMember = false := by
  obtain ⟨i0, hmodel, heq⟩ := incidentFromProto_ok hproto
  rw [heq]
  exact h i0 hmodel

section

variable {env} {clusterName : String} {table : IncidentTable} {batch : List (Option LinkIncident)}
  (hsettings : batch ≠ [] → batch.length ≤ maxBatchSize → env.SettingsReadable)

include hsettings

/-- The answer at a position. -/
theorem entry_cases {n : Nat} {wire : Option LinkIncident} (hwire : batch[n]? = some wire)
    (hr : (env.acks clusterName table batch)[n]? = some r) :
    r.status = .retryable ∨ (¬ env.WriteFails clusterName table batch n wire ∧
        ((r.status = .discarded ∧ (maxBatchSize < batch.length ∨
            (env.repos.admission = true ∧ env.db.admissionSettings.observationEnabled = false) ∨
            Invalid wire)) ∨
          (r.status = .accepted ∧ env.Upserted clusterName table batch n wire))) := by
  have hne : batch ≠ [] := by
    intro hnil
    rw [hnil] at hwire
    cases hwire
  -- One answer for all entries: nothing is written.
  have hall : ∀ status reason, env.beforeStore clusterName batch = .error (status, reason) →
      r.status = status ∧ ¬ env.WriteFails clusterName table batch n wire := by
    intro status reason herror
    rw [acks, handle_eq, herror] at hr
    dsimp only [answerAll] at hr
    rw [List.getElem?_map, hwire] at hr
    cases hr
    refine ⟨rfl, fun ⟨cluster, i, hok, _⟩ => ?_⟩
    rw [herror] at hok
    cases hok
  rcases env.beforeStore_cases clusterName batch with ⟨hover, reason, herror⟩ |
    ⟨hle, hdrops, reason, herror⟩ | ⟨_, _, reason, herror⟩ | ⟨_, _, cluster, hcluster, hok⟩
  · obtain ⟨hstatus, hwrites⟩ := hall _ _ herror
    exact .inr ⟨hwrites, .inl ⟨hstatus, .inl hover⟩⟩
  · obtain ⟨hstatus, hwrites⟩ := hall _ _ herror
    have hdisabled := (env.dropsReports_iff (hsettings hne hle)).mp hdrops
    exact .inr ⟨hwrites, .inl ⟨hstatus, .inr (.inl hdisabled)⟩⟩
  · exact .inl (hall _ _ herror).1
  · have hrun : env.handleLinkIncidentBatch clusterName table (some batch) =
        env.storeIncidents cluster 0 table batch := by
      rw [handle_eq, hok]
    rw [acks, hrun] at hr
    rcases env.storeIncidents_entry cluster table hwire hr with ⟨hinvalid, hstatus⟩ |
      ⟨i, hproto, hkey, ⟨_, hstatus⟩ | ⟨hnone, hstatus, hstored⟩⟩
    · refine .inr ⟨?_, .inl ⟨hstatus, .inr (.inr hinvalid)⟩⟩
      intro ⟨_, i, _, hproto, hmember, _⟩
      rw [hinvalid.not_member hproto] at hmember
      cases hmember
    · exact .inl hstatus
    · refine .inr ⟨?_, .inr ⟨hstatus, cluster, i, hcluster, hproto, hkey, hnone, hrun ▸ hstored⟩⟩
      intro ⟨cluster', i', hok', hproto', _, hfailed⟩
      rw [hok] at hok'
      rw [hproto] at hproto'
      cases hok'
      cases hproto'
      exact hfailed hnone

theorem retryable_of_readFails (h : env.ReadFails clusterName batch) :
    ∀ r ∈ env.acks clusterName table batch, r.status = .retryable := by
  obtain ⟨hne, hle, hfails⟩ := h
  have hdrops : env.dropsReports = false := by
    rcases hfails with ⟨hadmission, hfault⟩ | ⟨hdrops, _⟩
    · rcases hsettings hne hle with hnone | hnone
      · rw [hadmission] at hnone
        cases hnone
      · exact absurd hnone hfault
    · exact hdrops
  rcases env.beforeStore_cases clusterName batch with ⟨hover, _⟩ | ⟨_, hdrops', _⟩ |
    ⟨_, _, reason, herror⟩ | ⟨_, _, cluster, hcluster, _⟩
  · omega
  · rw [hdrops] at hdrops'
    cases hdrops'
  · intro r hr
    rw [acks, handle_eq, herror] at hr
    obtain ⟨wire, _, heq⟩ := List.mem_map.mp hr
    rw [← heq]
    rfl
  · rcases hfails with ⟨hadmission, hfault⟩ | ⟨_, _, _, err, herr⟩
    · rw [env.dropsReports_of_fault hadmission hfault] at hdrops
      cases hdrops
    · rw [hcluster] at herr
      cases herr

end

variable {env} {clusterName : String} {table : IncidentTable} {batch : List (Option LinkIncident)}

variable (env clusterName table batch) in
theorem acks_identity :
    (env.acks clusterName table batch).map (fun r => (r.incidentKey, r.revision)) =
      batch.map fun wire => (incidentIdentity wire, incidentRevision wire) := by
  cases hbefore : env.beforeStore clusterName batch with
  | error answer =>
    rw [acks, handle_eq, hbefore]
    exact List.map_map
  | ok cluster =>
    rw [acks, handle_eq, hbefore]
    exact env.storeIncidents_identity cluster batch 0 table

/-- A terminal answer belongs to an entry, and it has a reason. -/
theorem terminal_final (hsettings : batch ≠ [] → batch.length ≤ maxBatchSize → env.SettingsReadable)
    (hr : r ∈ env.acks clusterName table batch) (hterminal : Hublink.terminal r = true) :
    ∃ n wire, batch[n]? = some wire ∧ r.incidentKey = incidentIdentity wire ∧
      r.revision = incidentRevision wire ∧ env.Final clusterName table batch n wire := by
  obtain ⟨n, hn⟩ := List.getElem?_of_mem hr
  have hidentity := congrArg (fun pairs => pairs[n]?) (acks_identity env clusterName table batch)
  rw [List.getElem?_map, List.getElem?_map, hn] at hidentity
  obtain ⟨wire, hwire, heq⟩ := Option.map_eq_some_iff.mp hidentity.symm
  obtain ⟨hkey, hrevision⟩ := Prod.mk.inj heq
  refine ⟨n, wire, hwire, hkey.symm, hrevision.symm, ?_⟩
  rcases entry_cases hsettings hwire hn with hretry | ⟨_, ⟨_, hreason⟩ | ⟨_, hupserted⟩⟩
  · unfold Hublink.terminal at hterminal
    rw [hretry] at hterminal
    cases hterminal
  · rcases hreason with hover | hdisabled | hinvalid
    · exact .inl hover
    · exact .inr (.inl hdisabled)
    · exact .inr (.inr (.inl hinvalid))
  · exact .inr (.inr (.inr hupserted))

variable (env clusterName table batch) in
/-- The answers are final for a reason exactly when the call does not fail to
read the settings. -/
theorem acksFinal_iff : env.AcksFinal clusterName table batch ↔
      (batch = [] ∨ maxBatchSize < batch.length ∨ env.SettingsReadable) := by
  constructor
  · intro h
    by_contra hcond
    simp only [not_or, SettingsReadable] at hcond
    obtain ⟨hne, hover, hadmission, hfault⟩ := hcond
    have hadmission' : env.repos.admission = true := Bool.eq_true_of_not_eq_false hadmission
    have hretry := h.readFailed ⟨hne, not_lt.mp hover, .inl ⟨hadmission', hfault⟩⟩
    have hdrops := env.dropsReports_of_fault hadmission' hfault
    rcases env.beforeStore_cases clusterName batch with ⟨hover', _⟩ | ⟨_, _, reason, herror⟩ |
      ⟨_, hdrops', _⟩ | ⟨_, hdrops', _⟩
    · exact hover hover'
    · -- The first entry is discarded.
      obtain ⟨wire, hwire⟩ := List.exists_mem_of_ne_nil _ hne
      rw [acks, handle_eq, herror] at hretry
      have hstatus := hretry _ (List.mem_map_of_mem hwire)
      cases hstatus
    · rw [hdrops] at hdrops'
      cases hdrops'
    · rw [hdrops] at hdrops'
      cases hdrops'
  · intro hcond
    have hsettings : batch ≠ [] → batch.length ≤ maxBatchSize → env.SettingsReadable := by
      intro hne hle
      rcases hcond with hnil | hover | hreadable
      · exact absurd hnil hne
      · omega
      · exact hreadable
    refine ⟨acks_identity env clusterName table batch, ?_, ?_, retryable_of_readFails hsettings,
      ?_, ?_, ?_⟩
    · intro n wire r hwire hr hstatus
      rcases entry_cases hsettings hwire hr with hretry | ⟨_, ⟨_, hreason⟩ | ⟨haccepted, _⟩⟩
      · rw [hstatus] at hretry
        cases hretry
      · exact hreason
      · rw [hstatus] at haccepted
        cases haccepted
    · intro n wire r hwire hr hstatus
      rcases entry_cases hsettings hwire hr with hretry | ⟨_, ⟨hdiscarded, _⟩ | ⟨_, hupserted⟩⟩
      · rw [hstatus] at hretry
        cases hretry
      · rw [hstatus] at hdiscarded
        cases hdiscarded
      · exact hupserted
    · intro n wire r hwire hr hfails
      rcases entry_cases hsettings hwire hr with hretry | ⟨hwrites, _⟩
      · exact hretry
      · exact absurd hfails hwrites
    · intro queue key q hq
      rcases Hublink.ackIncidents_kept ((env.acks clusterName table batch).map some)
        (show (queue, ([] : List Hublink.TrackerCall)).1[key]? = some q from hq) with
        hkept | ⟨r, hr, hterminal, hkey, hle⟩
      · exact .inl hkept
      · obtain ⟨r', hr', heq⟩ := List.mem_map.mp hr
        cases heq
        obtain ⟨n, wire, hwire, hidentity, hrevision, hfinal⟩ :=
          terminal_final hsettings hr' hterminal
        exact .inr ⟨n, wire, hwire, hidentity.symm.trans hkey, hrevision ▸ hle, hfinal⟩
    · intro queue call hcall
      obtain ⟨r, hr, hterminal, heq⟩ := Hublink.ackIncidents_calls call hcall
      obtain ⟨r', hr', hr''⟩ := List.mem_map.mp hr
      cases hr''
      obtain ⟨n, wire, hwire, hidentity, hrevision, hfinal⟩ :=
        terminal_final hsettings hr' hterminal
      refine ⟨n, wire, hwire, ?_, hfinal⟩
      rw [heq, hidentity, hrevision]

end ReportEnv

end

attribute [local instance] GoUnicode.ascii

/-- A gateway with one cluster and an enabled observation. -/
def reportingGateway (faults : Faults) : ReportEnv where
  faults := faults
  db := { clusters := [{ id := 7, name := "edge" }]
          admissionSettings := { observationEnabled := true } }
  now := 1000
  clock := by decide

/-- A valid report of the webhook. -/
def queueFullReport : LinkIncident where
  incidentKey := "w1"
  reporterInstanceID := "webhook-0"
  revision := 2
  component := "webhook"
  reason := "queue_full"
  startedAt := some { seconds := 0, nanos := 100 }
  lastSeenAt := some { seconds := 0, nanos := 200 }
  affectedCount := 3
  sampleEventIDs := ["e1"]
  detail := "queue is full"
  closed := false

/-- The member's queue after it has sent the report. -/
def sentQueue : GoMap Hublink.QueuedLinkIncident :=
  (∅ : GoMap Hublink.QueuedLinkIncident).insert "w1"
    { incident := queueFullReport, inFlight := true, inFlightRevision := 2 }

/-- The read of the settings times out: a valid incident is discarded although
the observation is enabled, and the member drops it.  Without the failure it is
stored. -/
theorem settings_timeout_discards :
    let timeout : Faults := fun call =>
      if call = .admissionGetSettings then some "timeout" else none
    let acks (faults : Faults) :=
      (reportingGateway faults).acks "edge" (fun _ => ∅) [some queueFullReport]
    acks timeout = [{ incidentKey := "w1", revision := 2, status := .discarded
                      reason := "admission_pipeline_observation_disabled" }] ∧
      (((acks timeout).map some).foldl Hublink.ackIncident (sentQueue, [])).1["w1"]? = none ∧
      (reportingGateway timeout).db.admissionSettings.observationEnabled = true ∧
      acks (fun _ => none) = [{ incidentKey := "w1", revision := 2, status := .accepted }] := by
  decide +kernel

end KubeSentry.Gateway
