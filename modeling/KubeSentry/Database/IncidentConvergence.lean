import KubeSentry.Admission.TrackerHistory
import KubeSentry.Database.Incidents

/-!
# Stored incidents converge

The revisions of an incident may reach the database in any order, and each may
come several times.  The row converges all the same: once the highest revision
has been stored, the row has its fields, and nothing that comes later changes
them.

The merge is a join on a chain of revisions.  `Below row top` says that the row
comes from revisions before `top`, and `Matches row top` that it has the fields
of `top`.  A revision before `top` keeps both (`Below.merge`, `Matches.merge`),
and `top` itself leads from the first to the second (`Below.merge_top`).

Only a revision that the table accepts is stored.  `Storable` says what that
takes.
-/

namespace KubeSentry.Database

open GoLib Observability

/-! ## The merge -/

/-- The row has the fields of the revision. -/
structure Matches (row : IncidentRow) (top : Incident) : Prop where
  affectedCount : row.affectedCount = top.affectedCount
  lastSeenAt : row.lastSeenAt = top.lastSeenAt
  detail : row.detail = top.detail
  sampleEventIDs : row.sampleEventIDs = top.sampleEventIDs
  closed : row.closed = top.closed

/-- The row has fields of revisions up to `top`. -/
structure Below (row : IncidentRow) (top : Incident) : Prop where
  affectedCount : row.affectedCount ≤ top.affectedCount
  lastSeenAt : row.lastSeenAt ≤ top.lastSeenAt
  detail : row.lastSeenAt = top.lastSeenAt → row.detail = top.detail
  sampleEventIDs : row.sampleEventIDs <+: top.sampleEventIDs
  closed : row.closed = true → top.closed = true

section

variable {row : IncidentRow} {i top : Incident} (hsamples : Samples top.sampleEventIDs)
  (clusterName : String) (receivedAt : Time)

include hsamples

theorem Below.merge (h : Below row top) (hi : Older i top) :
    Below (mergeIncident row clusterName i receivedAt) top where
  affectedCount := max_le h.affectedCount hi.affectedCount
  lastSeenAt := max_le h.lastSeenAt hi.lastSeenAt
  detail heq := by
    dsimp only [mergeIncident] at heq ⊢
    split
    · rename_i hold
      rw [max_eq_left hold.le] at heq
      exact h.detail heq
    · rename_i hfresh
      rw [max_eq_right (not_lt.mp hfresh)] at heq
      exact hi.detail heq
  sampleEventIDs := by
    dsimp only [mergeIncident]
    rcases mergeSampleEventIDs_prefixes h.sampleEventIDs hi.sampleEventIDs hsamples with
      ⟨heq, _⟩ | ⟨heq, _⟩
    · rw [heq]
      exact h.sampleEventIDs
    · rw [heq]
      exact hi.sampleEventIDs
  closed hclosed := by
    rcases Bool.or_eq_true_iff.mp hclosed with hrow | hnew
    · exact h.closed hrow
    · exact hi.closed hnew

theorem Matches.merge (h : Matches row top) (hi : Older i top) :
    Matches (mergeIncident row clusterName i receivedAt) top where
  affectedCount := by
    dsimp only [mergeIncident]
    rw [h.affectedCount]
    exact max_eq_left hi.affectedCount
  lastSeenAt := by
    dsimp only [mergeIncident]
    rw [h.lastSeenAt]
    exact max_eq_left hi.lastSeenAt
  detail := by
    dsimp only [mergeIncident]
    rw [h.lastSeenAt, h.detail]
    split
    · rfl
    · rename_i hfresh
      exact hi.detail (le_antisymm hi.lastSeenAt (not_lt.mp hfresh))
  sampleEventIDs := by
    dsimp only [mergeIncident]
    rw [h.sampleEventIDs]
    refine mergeSampleEventIDs_of_subset hi.sampleEventIDs.subset ?_
    intro v hv
    exact (hsamples.trimmed v (hi.sampleEventIDs.subset hv)).2
  closed := by
    dsimp only [mergeIncident]
    rw [h.closed]
    cases hclosed : i.closed with
    | false => exact Bool.or_false _
    | true => rw [hi.closed hclosed, Bool.or_true]

/-- The highest revision brings its own fields. -/
theorem Below.merge_top (h : Below row top) :
    Matches (mergeIncident row clusterName top receivedAt) top where
  affectedCount := max_eq_right h.affectedCount
  lastSeenAt := max_eq_right h.lastSeenAt
  detail := if_neg (not_lt.mpr h.lastSeenAt)
  sampleEventIDs := mergeSampleEventIDs_extend h.sampleEventIDs hsamples
  closed := by
    dsimp only [mergeIncident]
    cases hclosed : row.closed with
    | false => exact Bool.false_or _
    | true => rw [h.closed hclosed, Bool.true_or]

end

/-! ## A sequence of upserts -/

/-- One `Upsert` of a revision; the database does not fail. -/
structure UpsertCall where
  incident : Incident
  clusterName : String
  receivedAt : Time
  newID : Int := 1

section

variable [GoUnicode]

/-- The table accepts the revision: it is valid, and its sample list is not
NULL. -/
def Storable (i : Incident) : Prop :=
  i.validate = none ∧ i.sampleEventIDs ≠ []

def upsertStep (clusterID : Int) (table : IncidentTable) (c : UpsertCall) : IncidentTable :=
  (upsert { newID := c.newID } table clusterID c.clusterName c.incident c.receivedAt).1

/-- The row after an `Upsert` of the revision. -/
def storedAfter (clusterID : Int) (stored : Option IncidentRow) (c : UpsertCall) : IncidentRow :=
  match stored with
  | none => incidentRow { newID := c.newID } clusterID c.clusterName c.incident c.receivedAt
  | some row => mergeIncident row c.clusterName c.incident c.receivedAt

/-- A revision is stored, or the table stays as it is. -/
theorem upsertStep_cases (clusterID : Int) (table : IncidentTable) (c : UpsertCall) :
    (Storable c.incident ∧ (upsertStep clusterID table c clusterID)[c.incident.incidentKey]? =
        some (storedAfter clusterID (table clusterID)[c.incident.incidentKey]? c)) ∨
      (¬ Storable c.incident ∧ upsertStep clusterID table c = table) := by
  unfold upsertStep upsert
  cases hvalid : c.incident.validate with
  | some err =>
    refine .inr ⟨?_, rfl⟩
    intro h
    rw [h.1] at hvalid
    cases hvalid
  | none =>
    by_cases hsamples : c.incident.sampleEventIDs = []
    · refine .inr ⟨fun h => h.2 hsamples, ?_⟩
      dsimp only [upsertStatements]
      rw [if_pos hsamples]
    · refine .inl ⟨⟨hvalid, hsamples⟩, ?_⟩
      dsimp only [upsertStatements]
      rw [if_neg hsamples]
      cases (table clusterID)[c.incident.incidentKey]? with
      | none =>
        dsimp only [IncidentTable.set, storedAfter]
        rw [if_pos rfl, getElem?_insert_key, if_pos rfl]
      | some row =>
        dsimp only [IncidentTable.set, storedAfter]
        rw [if_pos rfl, getElem?_insert_key, if_pos rfl]

variable {clusterID : Int} {table : IncidentTable} {c : UpsertCall} {top : Incident}

/-- Before the highest revision arrives. -/
theorem upsertStep_below (hi : Older c.incident top) (hsamples : Samples top.sampleEventIDs)
    (h : ∀ row, (table clusterID)[top.incidentKey]? = some row → Below row top) :
    ∀ row, (upsertStep clusterID table c clusterID)[top.incidentKey]? = some row →
      Below row top := by
  intro row hrow
  rcases upsertStep_cases clusterID table c with ⟨_, hstored⟩ | ⟨_, hsame⟩
  · rw [hi.key, hrow] at hstored
    rw [Option.some.inj hstored]
    cases hbefore : (table clusterID)[top.incidentKey]? with
    | none => exact ⟨hi.affectedCount, hi.lastSeenAt, hi.detail, hi.sampleEventIDs, hi.closed⟩
    | some row0 => exact (h row0 hbefore).merge hsamples c.clusterName c.receivedAt hi
  · rw [hsame] at hrow
    exact h row hrow

/-- When it arrives. -/
theorem upsertStep_top (hstorable : Storable c.incident)
    (hsamples : Samples c.incident.sampleEventIDs)
    (h : ∀ row, (table clusterID)[c.incident.incidentKey]? = some row → Below row c.incident) :
    ∃ row, (upsertStep clusterID table c clusterID)[c.incident.incidentKey]? = some row ∧
      Matches row c.incident := by
  rcases upsertStep_cases clusterID table c with ⟨_, hstored⟩ | ⟨hnot, _⟩
  · refine ⟨_, hstored, ?_⟩
    cases hbefore : (table clusterID)[c.incident.incidentKey]? with
    | none => exact ⟨rfl, rfl, rfl, rfl, rfl⟩
    | some row => exact (h row hbefore).merge_top hsamples c.clusterName c.receivedAt
  · exact absurd hstorable hnot

/-- After it has arrived. -/
theorem upsertStep_matches (hi : Older c.incident top) (hsamples : Samples top.sampleEventIDs)
    (h : ∃ row, (table clusterID)[top.incidentKey]? = some row ∧ Matches row top) :
    ∃ row, (upsertStep clusterID table c clusterID)[top.incidentKey]? = some row ∧
      Matches row top := by
  obtain ⟨row, hrow, hmatches⟩ := h
  rcases upsertStep_cases clusterID table c with ⟨_, hstored⟩ | ⟨_, hsame⟩
  · rw [hi.key, hrow] at hstored
    exact ⟨_, hstored, hmatches.merge hsamples c.clusterName c.receivedAt hi⟩
  · rw [hsame]
    exact ⟨row, hrow, hmatches⟩

theorem upserts_converge (hstorable : Storable top) (hsamples : Samples top.sampleEventIDs)
    {calls : List UpsertCall} (holder : ∀ c ∈ calls, Older c.incident top)
    (hsent : ∃ c ∈ calls, c.incident = top)
    (h : ∀ row, (table clusterID)[top.incidentKey]? = some row → Below row top) :
    ∃ row, (run (upsertStep clusterID) table calls clusterID)[top.incidentKey]? = some row ∧
      Matches row top := by
  obtain ⟨c, hc, htop⟩ := hsent
  subst htop
  -- The calls before the highest revision, the highest revision, and the rest.
  obtain ⟨before, after, heq⟩ := List.append_of_mem hc
  subst heq
  have hbefore : ∀ d ∈ before, Older d.incident c.incident :=
    fun d hd => holder d (List.mem_append_left _ hd)
  have hafter : ∀ d ∈ after, Older d.incident c.incident :=
    fun d hd => holder d (List.mem_append_right _ (List.mem_cons_of_mem _ hd))
  rw [run_append, run_cons]
  have hfirst : ∀ row,
      (run (upsertStep clusterID) table before clusterID)[c.incident.incidentKey]? =
      some row → Below row c.incident :=
    List.foldlRecOn before (upsertStep clusterID)
      (motive := fun table => ∀ row, (table clusterID)[c.incident.incidentKey]? = some row →
        Below row c.incident) h
      fun table hbelow d hd => upsertStep_below (hbefore d hd) hsamples hbelow
  exact List.foldlRecOn after (upsertStep clusterID)
    (motive := fun table => ∃ row, (table clusterID)[c.incident.incidentKey]? = some row ∧
      Matches row c.incident) (upsertStep_top hstorable hsamples hfirst)
    fun table hmatches d hd => upsertStep_matches (hafter d hd) hsamples hmatches

/-! ## The revisions of a tracker -/

/-- The row of an incident has the fields of its highest revision, in whatever
order and however often its revisions are stored. -/
theorem incident_converges {source : Nat → Option String} (hdistinct : Tracker.Distinct source)
    {component : Component} {instanceID : String} {inputs : List TrackerInput}
    (htimes : inputs.Pairwise TrackerInput.Precedes) {top : Incident}
    (htop : RevisionOf source (newTracker component instanceID) inputs top)
    (hhighest : ∀ i, RevisionOf source (newTracker component instanceID) inputs i →
      i.incidentKey = top.incidentKey → i.revision ≤ top.revision)
    (hfits : ∀ i, RevisionOf source (newTracker component instanceID) inputs i →
      i.incidentKey = top.incidentKey → i.Fits)
    (hstorable : Storable top) {calls : List UpsertCall}
    (hcalls : ∀ c ∈ calls, c.incident.incidentKey = top.incidentKey ∧
      RevisionOf source (newTracker component instanceID) inputs c.incident)
    (hsent : ∃ c ∈ calls, c.incident = top) {clusterID : Int} {table : IncidentTable}
    (hnew : (table clusterID)[top.incidentKey]? = none) :
    ∃ row, (run (upsertStep clusterID) table calls clusterID)[top.incidentKey]? = some row ∧
      Matches row top := by
  have hrounds := callRounds_pairwise source htimes (newTracker component instanceID)
  have holder := older_of_highest hdistinct hrounds hfits htop hhighest
  have hsamples := (produced_typed hdistinct hrounds hfits htop).samples
  refine upserts_converge hstorable hsamples ?_ hsent ?_
  · intro c hc
    exact holder c.incident (hcalls c hc).2 (hcalls c hc).1
  · intro row hrow
    rw [hnew] at hrow
    cases hrow

end

attribute [local instance] GoUnicode.ascii

def oneKey (n : Nat) : Option String :=
  if n = 0 then some "k0" else none

/-- Two occurrences of the same trouble, with the given event ids. -/
def twoRecords (first second : String) : List TrackerInput :=
  [.record "queue_full" 1 (by omega) first "one batch" 10,
    .record "queue_full" 2 (by omega) second "two more" 20]

/-- The second revision of their incident. -/
def secondRevision (samples : List String) : Incident where
  incidentKey := "k0"
  reporterInstanceID := "op"
  revision := 2
  component := .operator
  reason := "queue_full"
  startedAt := 10
  lastSeenAt := 20
  affectedCount := 3
  sampleEventIDs := samples
  detail := "two more"
  closed := false

theorem incidentModel_incidentProto_second : incidentModel (some (incidentProto
    (secondRevision ["e1"]))) = .ok (secondRevision ["e1"]) :=
  incidentModel_incidentProto (by decide +kernel) rfl rfl

/-- The revisions of the two occurrences. -/
def recorded (first second : String) : List Incident :=
  (callRounds oneKey (newTracker .operator "op") (twoRecords first second)).inits.flatMap
    fun before => (run (Tracker.round oneKey) (newTracker .operator "op") before).held

theorem revisionOf_twoRecords (first second : String) (i : Incident) :
    RevisionOf oneKey (newTracker .operator "op") (twoRecords first second) i ↔
      i ∈ recorded first second :=
  produced_iff_mem oneKey _ _ i

theorem oneKey_distinct : Tracker.Distinct oneKey := by
  intro m n key hm hn
  unfold oneKey at hm hn
  split at hm
  · split at hn
    · omega
    · cases hn
  · cases hm

theorem twoRecords_precedes (first second : String) :
    (twoRecords first second).Pairwise TrackerInput.Precedes := by
  refine List.pairwise_pair.mpr ?_
  intro s hs
  have heq : (10 : Time) = s := Option.some.inj hs
  rw [← heq]
  exact (by decide : (10 : Int) < 20)

/-- The second revision is stored twice, with the first one between. -/
theorem incident_converges_two_records :
    let top := secondRevision ["e1", "e2"]
    let calls : List UpsertCall := (top :: recorded "e1" "e2").map fun i =>
      { incident := i, clusterName := "alpha", receivedAt := 30 }
    ∃ row, (run (upsertStep 7) (fun _ => ∅) calls 7)["k0"]? = some row ∧ Matches row top := by
  intro top calls
  have hrevisions : ∀ i ∈ recorded "e1" "e2", i.incidentKey = top.incidentKey ∧
      i.revision ≤ top.revision ∧ i.revision ≠ 0 ∧ 0 < i.affectedCount := by decide +kernel
  have hmem : top ∈ recorded "e1" "e2" := by decide +kernel
  have hstorable : Storable top := by
    unfold Storable
    decide +kernel
  have hcalls : ∀ c ∈ calls, c.incident.incidentKey = top.incidentKey ∧
      RevisionOf oneKey (newTracker .operator "op") (twoRecords "e1" "e2") c.incident := by
    intro c hc
    obtain ⟨i, hi, heq⟩ := List.mem_map.mp hc
    have hi' : i ∈ recorded "e1" "e2" := by
      rcases List.mem_cons.mp hi with hfirst | hrest
      · exact hfirst ▸ hmem
      · exact hrest
    rw [← heq]
    exact ⟨(hrevisions i hi').1, (revisionOf_twoRecords _ _ i).mpr hi'⟩
  refine incident_converges oneKey_distinct (twoRecords_precedes "e1" "e2")
    ((revisionOf_twoRecords _ _ top).mpr hmem) ?_ ?_ hstorable hcalls
    ⟨_, List.mem_map_of_mem List.mem_cons_self, rfl⟩ rfl
  · intro i hi _
    exact (hrevisions i ((revisionOf_twoRecords _ _ i).mp hi)).2.1
  · intro i hi _
    exact (hrevisions i ((revisionOf_twoRecords _ _ i).mp hi)).2.2

/-- An incident without event ids: its highest revision is sent, and there is no
row. -/
theorem incident_without_samples_not_stored :
    let top := secondRevision []
    RevisionOf oneKey (newTracker .operator "op") (twoRecords "" "") top ∧
      (∀ i, RevisionOf oneKey (newTracker .operator "op") (twoRecords "" "") i →
        i.incidentKey = top.incidentKey → i.revision ≤ top.revision) ∧
      top.validate = none ∧
      (run (upsertStep 7) (fun _ => ∅)
        [{ incident := top, clusterName := "alpha", receivedAt := 30 }] 7)["k0"]? = none := by
  intro top
  have hrevisions : ∀ i ∈ recorded "" "", i.revision ≤ top.revision := by decide +kernel
  refine ⟨(revisionOf_twoRecords _ _ top).mpr (by decide +kernel), ?_, by decide +kernel,
    by decide +kernel⟩
  intro i hi _
  exact hrevisions i ((revisionOf_twoRecords _ _ i).mp hi)

end KubeSentry.Database
