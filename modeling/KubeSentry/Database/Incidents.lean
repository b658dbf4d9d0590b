import KubeSentry.Admission.Incident

/-!
# The link incident table

`admission_link_incidents` and `IncidentRepo.Upsert` of
`internal/database/repository`: the first report of an incident creates its row,
and every later report is merged into it, field by field.

The unique index is on the cluster and the incident key, so a table is a map of
rows for each cluster.  The columns `created_at` and `updated_at` are left out;
nothing reads them.

An empty slice of sample ids is a nil slice wherever an incident comes from: the
tracker starts with nil, and so does the decoder of the wire message.  The
repository passes it on as `pq.StringArray(nil)`, which is sent as NULL, and the
column is NOT NULL.  PostgreSQL checks that before it looks for a conflict.
-/

namespace KubeSentry.Database

open GoLib Observability

/-- `AdmissionLinkIncident`. -/
structure IncidentRow where
  id : Int
  clusterID : Int
  clusterName : String
  incidentKey : String
  reporterInstanceID : String
  component : Component
  reason : String
  startedAt : Time
  lastSeenAt : Time
  affectedCount : Int
  sampleEventIDs : List String
  detail : String
  closed : Bool
  firstReceivedAt : Time
  lastReceivedAt : Time
  deriving DecidableEq

/-- The rows of a cluster under their incident keys. -/
abbrev IncidentTable := Int → GoMap IncidentRow

/-- What the database does in one `Upsert`: the generated id, the failing
statement if there is one, and whether the commit is reported as failed.  A
failed commit comes with whether the database applied it. -/
structure IncidentTx where
  newID : Int := 1
  insertError : Option String := none
  selectError : Option String := none
  updateError : Option String := none
  commitError : Option (String × Bool) := none
  deriving DecidableEq

/-- The row of a first report. -/
def incidentRow (tx : IncidentTx) (clusterID : Int) (clusterName : String) (i : Incident)
    (receivedAt : Time) : IncidentRow where
  id := tx.newID
  clusterID := clusterID
  clusterName := clusterName
  incidentKey := i.incidentKey
  reporterInstanceID := i.reporterInstanceID
  component := i.component
  reason := i.reason
  startedAt := i.startedAt
  lastSeenAt := i.lastSeenAt
  affectedCount := i.affectedCount
  sampleEventIDs := i.sampleEventIDs
  detail := i.detail
  closed := i.closed
  firstReceivedAt := receivedAt
  lastReceivedAt := receivedAt

/-- The row after a later report. -/
def mergeIncident (stored : IncidentRow) (clusterName : String) (i : Incident)
    (receivedAt : Time) : IncidentRow :=
  { stored with
    clusterName := clusterName
    reporterInstanceID := i.reporterInstanceID
    affectedCount := max stored.affectedCount i.affectedCount
    lastSeenAt := max stored.lastSeenAt i.lastSeenAt
    lastReceivedAt := max stored.lastReceivedAt receivedAt
    sampleEventIDs := mergeSampleEventIDs stored.sampleEventIDs i.sampleEventIDs
    closed := stored.closed || i.closed
    -- Only a report that is at least as fresh may replace the detail.
    detail := if i.lastSeenAt < stored.lastSeenAt then stored.detail else i.detail }

/-- The database's error for a NULL in `sample_event_ids`. -/
def notNullError : String :=
  "null value in column \"sample_event_ids\" of relation \"admission_link_incidents\" " ++
    "violates not-null constraint"

/-- The statements of the transaction: the row that is written, or the error. -/
def upsertStatements (tx : IncidentTx) (stored : Option IncidentRow) (clusterID : Int)
    (clusterName : String) (i : Incident) (receivedAt : Time) : Except String IncidentRow :=
  if i.sampleEventIDs = [] then .error notNullError
  else
    match tx.insertError, stored with
    | some err, _ => .error err
    | none, none => .ok (incidentRow tx clusterID clusterName i receivedAt)
    | none, some stored =>
      match tx.selectError, tx.updateError with
      | some err, _ => .error err
      | none, some err => .error err
      | none, none => .ok (mergeIncident stored clusterName i receivedAt)

/-- The table with a row set. -/
def IncidentTable.set (table : IncidentTable) (clusterID : Int) (key : String) (row : IncidentRow) :
    IncidentTable :=
  fun c => if c = clusterID then (table c).insert key row else table c

/-- `Upsert`: the table afterwards, and the error if there is one. -/
def upsert [GoUnicode] (tx : IncidentTx) (table : IncidentTable) (clusterID : Int)
    (clusterName : String) (i : Incident) (receivedAt : Time) : IncidentTable × Option String :=
  match i.validate with
  | some err => (table, some err)
  | none =>
    match upsertStatements tx (table clusterID)[i.incidentKey]? clusterID clusterName i
        receivedAt with
    | .error err => (table, some err)
    | .ok row =>
      match tx.commitError with
      | none => (table.set clusterID i.incidentKey row, none)
      | some (err, applied) =>
        (if applied then table.set clusterID i.incidentKey row else table, some err)

/-! ## Stored reports -/

/-- The table has a row that covers the report. -/
def Stored (table : IncidentTable) (clusterID : Int) (i : Incident) : Prop :=
  ∃ row, (table clusterID)[i.incidentKey]? = some row ∧ i.affectedCount ≤ row.affectedCount ∧
    i.lastSeenAt ≤ row.lastSeenAt ∧ (i.closed = true → row.closed = true)

theorem getElem?_set (table : IncidentTable) (clusterID : Int) (key : String) (row : IncidentRow)
    (c : Int) (k : String) :
    (table.set clusterID key row c)[k]? =
      if c = clusterID ∧ k = key then some row else (table c)[k]? := by
  unfold IncidentTable.set
  by_cases hcluster : c = clusterID
  · rw [if_pos hcluster, getElem?_insert_key]
    by_cases hkey : key = k
    · rw [if_pos hkey, if_pos ⟨hcluster, hkey.symm⟩]
    · rw [if_neg hkey, if_neg fun h => hkey h.2.symm]
  · rw [if_neg hcluster, if_neg fun h => hcluster h.1]

/-- What an `Upsert` does to the table: nothing, or it writes the row of the
incident.  Without an error it writes. -/
theorem upsert_cases [GoUnicode] (tx : IncidentTx) (table : IncidentTable) (clusterID : Int)
    (clusterName : String) (i : Incident) (receivedAt : Time) :
    (∃ row, upsertStatements tx (table clusterID)[i.incidentKey]? clusterID clusterName i
        receivedAt = .ok row ∧
      (upsert tx table clusterID clusterName i receivedAt).1 =
        table.set clusterID i.incidentKey row) ∨
      ((upsert tx table clusterID clusterName i receivedAt).1 = table ∧
        (upsert tx table clusterID clusterName i receivedAt).2 ≠ none) := by
  unfold upsert
  cases i.validate with
  | some err => exact .inr ⟨rfl, by simp⟩
  | none =>
    cases upsertStatements tx (table clusterID)[i.incidentKey]? clusterID clusterName i
        receivedAt with
    | error err => exact .inr ⟨rfl, by simp⟩
    | ok row =>
      cases tx.commitError with
      | none => exact .inl ⟨row, rfl, rfl⟩
      | some failure =>
        obtain ⟨err, applied⟩ := failure
        cases applied with
        | true => exact .inl ⟨row, rfl, rfl⟩
        | false => exact .inr ⟨rfl, by simp⟩

variable {tx : IncidentTx} {clusterID : Int} {clusterName : String} {i : Incident}
  {receivedAt : Time} {stored : Option IncidentRow} {row : IncidentRow} {table : IncidentTable}

section

variable (h : upsertStatements tx stored clusterID clusterName i receivedAt = .ok row)

include h

/-- The row that the statements write. -/
theorem upsertStatements_ok :
    stored = none ∧ row = incidentRow tx clusterID clusterName i receivedAt ∨
      ∃ old, stored = some old ∧ row = mergeIncident old clusterName i receivedAt := by
  unfold upsertStatements at h
  split at h
  · cases h
  · split at h
    · cases h
    · exact .inl ⟨rfl, (Except.ok.inj h).symm⟩
    · split at h
      · cases h
      · cases h
      · exact .inr ⟨_, rfl, (Except.ok.inj h).symm⟩

/-- The row covers the report, and what the stored row covered. -/
theorem upsertStatements_covers :
    (i.affectedCount ≤ row.affectedCount ∧ i.lastSeenAt ≤ row.lastSeenAt ∧
        (i.closed = true → row.closed = true)) ∧
      ∀ old, stored = some old → old.affectedCount ≤ row.affectedCount ∧
        old.lastSeenAt ≤ row.lastSeenAt ∧ (old.closed = true → row.closed = true) := by
  rcases upsertStatements_ok h with ⟨hstored, heq⟩ | ⟨old, hstored, heq⟩
  · subst heq
    refine ⟨⟨le_refl _, le_refl _, id⟩, fun old hold => ?_⟩
    rw [hstored] at hold
    cases hold
  · subst heq
    refine ⟨⟨le_max_right _ _, le_max_right _ _, fun hclosed => ?_⟩, fun old' hold => ?_⟩
    · exact Bool.or_eq_true_iff.mpr (.inr hclosed)
    · rw [hstored] at hold
      cases hold
      exact ⟨le_max_left _ _, le_max_left _ _, fun hclosed =>
        Bool.or_eq_true_iff.mpr (.inl hclosed)⟩

end

theorem stored_of_upsert [GoUnicode]
    (h : (upsert tx table clusterID clusterName i receivedAt).2 = none) :
    Stored (upsert tx table clusterID clusterName i receivedAt).1 clusterID i := by
  rcases upsert_cases tx table clusterID clusterName i receivedAt
    with ⟨row, hrow, htable⟩ | ⟨_, hne⟩
  · refine ⟨row, ?_, (upsertStatements_covers hrow).1⟩
    rw [htable, getElem?_set, if_pos ⟨rfl, rfl⟩]
  · exact absurd h hne

/-- No `Upsert` takes a stored report away. -/
theorem Stored.upsert [GoUnicode] {c : Int} {j : Incident} (h : Stored table c j) (tx : IncidentTx)
    (clusterID : Int) (clusterName : String) (i : Incident) (receivedAt : Time) :
    Stored (upsert tx table clusterID clusterName i receivedAt).1 c j := by
  rcases upsert_cases tx table clusterID clusterName i receivedAt
    with ⟨row, hrow, htable⟩ | ⟨heq, _⟩
  · obtain ⟨old, hold, haffected, hseen, hclosed⟩ := h
    rw [htable]
    by_cases hsame : c = clusterID ∧ j.incidentKey = i.incidentKey
    · obtain ⟨hc, hkey⟩ := hsame
      rw [hc, hkey] at hold
      obtain ⟨haffected', hseen', hclosed'⟩ := (upsertStatements_covers hrow).2 old hold
      refine ⟨row, ?_, haffected.trans haffected', hseen.trans hseen',
        fun h => hclosed' (hclosed h)⟩
      rw [getElem?_set, if_pos ⟨hc, hkey⟩]
    · refine ⟨old, ?_, haffected, hseen, hclosed⟩
      rw [getElem?_set, if_neg hsame]
      exact hold
  · rw [heq]
    exact h

end KubeSentry.Database
