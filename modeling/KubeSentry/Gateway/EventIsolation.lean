import KubeSentry.GoLib.Run
import KubeSentry.Gateway.AckDurability

/-!
# What other clusters can do to the events of one

All clusters share one event table, and its unique index is on the event id
alone.  The senders choose the ids.  An event whose id some other cluster has
used first is a duplicate: it is acknowledged, and no row is written.

`Unclaimed c calls` says that this does not happen to the cluster `c`: no other
cluster sends an id that `c` sends later.  Under this condition the rows and
the acks of `c` depend on the calls of `c` only.  The comparison goes through
the run without the other clusters: `Agree` relates the two tables, an insert
of another cluster keeps it on one side (`Agree.insert_other`), and an insert
of `c` keeps it on both (`Agree.insert_both`).
-/

namespace KubeSentry.Gateway

open GoLib Database

/-! ## Runs -/

/-- One call of `handleAdmissionEventBatch`: what it meets, the cluster of the
stream and the batch. -/
structure IngestCall where
  env : IngestEnv
  clusterName : String
  batch : Option (List (Option AdmissionEvent))

/-- The ids of the events that the batch carries. -/
def IngestCall.eventIDs (call : IngestCall) : List String :=
  (deliverable (call.batch.getD [])).map fun event => event.eventID

/-- The event table, and the acks that were sent with the cluster they went to. -/
structure Ingest where
  events : EventTable
  sent : List (String × List AckResult) := []
  deriving DecidableEq

/-- The rows that are stored with a cluster. -/
def Ingest.rowsOf (s : Ingest) (c : String) : List AdmissionEventRow :=
  s.events.rows.filter fun row => row.clusterName = c

/-- The acks that a cluster got. -/
def Ingest.acksTo (s : Ingest) (c : String) : List (List AckResult) :=
  (s.sent.filter fun ack => ack.1 = c).map fun ack => ack.2

def ingestStep [GoUnicode] (s : Ingest) (call : IngestCall) : Ingest :=
  let out := syncAdmissionEventBatch call.env call.clusterName s.events call.batch
  { events := out.events, sent := s.sent ++ [(call.clusterName, out.ack)] }

/-- The ids that `c` sends in these calls. -/
def sentBy (c : String) (calls : List IngestCall) : List String :=
  (calls.filter fun call => call.clusterName = c).flatMap fun call => call.eventIDs

/-- No other cluster sends an id that `c` sends later. -/
def Unclaimed (c : String) : List IngestCall → Prop
  | [] => True
  | call :: later =>
    (call.clusterName ≠ c → ∀ eventID ∈ call.eventIDs, eventID ∉ sentBy c later) ∧
      Unclaimed c later

variable {c : String} {ids : List String} {t t' : EventTable} {events : List AdmissionEventRow}

theorem sentBy_cons_of_ne {call : IngestCall} (h : call.clusterName ≠ c) (later : List IngestCall) :
    sentBy c (call :: later) = sentBy c later := by
  unfold sentBy
  rw [List.filter_cons_of_neg (by simpa using h)]

theorem sentBy_cons_of_eq {call : IngestCall} (h : call.clusterName = c) (later : List IngestCall) :
    sentBy c (call :: later) = call.eventIDs ++ sentBy c later := by
  unfold sentBy
  rw [List.filter_cons_of_pos (by simpa using h), List.flatMap_cons]

theorem acksTo_append (s : Ingest) (events : EventTable) (c clusterName : String)
    (ack : List AckResult) :
    ({ events := events, sent := s.sent ++ [(clusterName, ack)] } : Ingest).acksTo c =
      s.acksTo c ++ if clusterName = c then [ack] else [] := by
  unfold Ingest.acksTo
  by_cases h : clusterName = c <;> simp [h]

/-! ## Two tables -/

/-- The tables have the same rows of `c`, and they hold the same ids among
`ids`. -/
structure Agree (c : String) (ids : List String) (t t' : EventTable) : Prop where
  rows : t.rows.filter (fun row => row.clusterName = c) =
    t'.rows.filter fun row => row.clusterName = c
  holds : ∀ eventID ∈ ids, (t.Holds eventID ↔ t'.Holds eventID)

theorem Agree.mono {ids' : List String} (h : Agree c ids t t') (hsub : ids' ⊆ ids) :
    Agree c ids' t t' :=
  ⟨h.rows, fun eventID hid => h.holds eventID (hsub hid)⟩

/-- An insert of another cluster's row under an id that does not matter. -/
theorem Agree.insert_other (h : Agree c ids t t') (row : AdmissionEventRow)
    (hcluster : row.clusterName ≠ c) (hid : row.eventID ∉ ids) :
    Agree c ids (t.insertOnConflictDoNothing row).1 t' := by
  refine ⟨?_, ?_⟩
  · rw [← h.rows]
    unfold EventTable.insertOnConflictDoNothing
    split
    · rfl
    · show (t.rows ++ [row]).filter _ = _
      rw [List.filter_append, List.filter_cons_of_neg (by simpa using hcluster), List.filter_nil,
        List.append_nil]
  · intro eventID hmem
    rw [EventTable.holds_insertOnConflictDoNothing, ← h.holds eventID hmem]
    refine ⟨?_, Or.inl⟩
    intro hor
    rcases hor with hold | heq
    · exact hold
    · exact absurd (heq ▸ hmem) hid

/-- The insert of one row into both tables, under an id on which they agree. -/
theorem Agree.insert_both (h : Agree c ids t t') (row : AdmissionEventRow)
    (hid : row.eventID ∈ ids) :
    Agree c ids (t.insertOnConflictDoNothing row).1 (t'.insertOnConflictDoNothing row).1 := by
  refine ⟨?_, ?_⟩
  · unfold EventTable.insertOnConflictDoNothing
    by_cases hold : t.Holds row.eventID
    · rw [dif_pos hold, dif_pos ((h.holds row.eventID hid).mp hold)]
      exact h.rows
    · rw [dif_neg hold, dif_neg (fun h' => hold ((h.holds row.eventID hid).mpr h'))]
      show (t.rows ++ [row]).filter _ = (t'.rows ++ [row]).filter _
      rw [List.filter_append, List.filter_append, h.rows]
  · intro eventID hmem
    rw [EventTable.holds_insertOnConflictDoNothing, EventTable.holds_insertOnConflictDoNothing,
      h.holds eventID hmem]

/-! ## The transaction -/

theorem Agree.createEvents_other (hagree : Agree c ids t t') (tx : Transaction)
    (hother : ∀ event ∈ events, event.clusterName ≠ c ∧ event.eventID ∉ ids) :
    Agree c ids (createEventsIdempotentCount tx t events).1 t' := by
  refine createEventsIdempotentCount_keeps (P := fun t => Agree c ids t t') tx hagree ?_
  intro event hevent n t h
  obtain ⟨hcluster, hid⟩ := hother event hevent
  exact h.insert_other (tx.rowOf n event) hcluster hid

theorem Agree.createEvents_both (hagree : Agree c ids t t') (tx : Transaction)
    (hids : ∀ event ∈ events, event.eventID ∈ ids) :
    Agree c ids (createEventsIdempotentCount tx t events).1
      (createEventsIdempotentCount tx t' events).1 := by
  refine (createEventsIdempotentCount_rel _ _ hagree ?_).1
  intro event hevent n t t' h
  exact h.insert_both (tx.rowOf n event) (hids event hevent)

/-! ## The call -/

/-- Whether the insert of a call fails does not depend on what is stored. -/
theorem storeFor_failed_independent (env : IngestEnv) (cluster : ClusterRow)
    (events events' : EventTable) (batch : List (Option AdmissionEvent)) :
    (env.storeFor cluster events batch).err.isSome =
      (env.storeFor cluster events' batch).err.isSome := by
  have hboth := (@createEventsIdempotentCount_rel Any env.tx
    (IngestEnv.acceptedRows (env.decideFor cluster) batch) events events' trivial
    fun _ _ _ _ _ _ => trivial).2
  rw [(env.storeFor_spec cluster events batch).2.2, (env.storeFor_spec cluster events' batch).2.2]
  rcases hboth with ⟨err, hstored, hstored'⟩ | ⟨counts, counts', hstored, hstored'⟩
  · rw [hstored, hstored']
  · rw [hstored, hstored']

section

variable [GoUnicode]

/-- The ack does not depend on what is stored. -/
theorem sync_ack_independent (env : IngestEnv) (clusterName : String) (events events' : EventTable)
    (batch : Option (List (Option AdmissionEvent))) :
    (syncAdmissionEventBatch env clusterName events batch).ack =
      (syncAdmissionEventBatch env clusterName events' batch).ack := by
  unfold syncAdmissionEventBatch
  dsimp only
  rcases env.handleAdmissionEventBatch_cases clusterName batch with
    ⟨_, hout⟩ | ⟨err, incidents, hout⟩ | ⟨cluster, _, hout⟩
  · rw [hout, hout]
  · rw [hout, hout]
    rfl
  · rw [hout, hout, storeFor_failed_independent env cluster events events',
      (env.storeFor_spec cluster events _).1, (env.storeFor_spec cluster events' _).1]

/-! ## One step of the two runs -/

/-- What relates a run to the run of the calls of `c` alone: the tables agree
on everything that the remaining calls of `c` look at. -/
structure Related (c : String) (later : List IngestCall) (s s' : Ingest) : Prop where
  unclaimed : Unclaimed c later
  events : Agree c (sentBy c later) s.events s'.events
  acks : s.acksTo c = s'.acksTo c

variable {c : String} {call : IngestCall} {later : List IngestCall} {s s' : Ingest}

/-- A call of another cluster. -/
theorem Related.hidden (hcluster : call.clusterName ≠ c) (h : Related c (call :: later) s s') :
    Related c later (ingestStep s call) s' := by
  obtain ⟨⟨hclaim, hlater⟩, hagree, hacks⟩ := h
  rw [sentBy_cons_of_ne hcluster] at hagree
  refine ⟨hlater, ?_, ?_⟩
  · show Agree c _ (syncAdmissionEventBatch call.env call.clusterName s.events call.batch).events _
    rcases sync_events_cases call.env call.clusterName call.batch
      with hsame | ⟨accepted, hrows, hout⟩
    · rw [hsame]
      exact hagree
    · rw [hout]
      refine hagree.createEvents_other call.env.tx ?_
      intro row hrow
      obtain ⟨hname, hid⟩ := hrows row hrow
      exact ⟨hname ▸ hcluster, hclaim hcluster row.eventID hid⟩
  · rw [ingestStep, acksTo_append, if_neg hcluster, List.append_nil]
    exact hacks

/-- A call of `c`, made in both runs. -/
theorem Related.visible (hcluster : call.clusterName = c) (h : Related c (call :: later) s s') :
    Related c later (ingestStep s call) (ingestStep s' call) := by
  obtain ⟨⟨_, hlater⟩, hagree, hacks⟩ := h
  rw [sentBy_cons_of_eq hcluster] at hagree
  refine ⟨hlater, ?_, ?_⟩
  · refine Agree.mono ?_ (List.subset_append_right call.eventIDs _)
    show Agree c _ (syncAdmissionEventBatch call.env call.clusterName s.events call.batch).events
      (syncAdmissionEventBatch call.env call.clusterName s'.events call.batch).events
    rcases sync_events_cases call.env call.clusterName call.batch
      with hsame | ⟨accepted, hrows, hout⟩
    · rw [hsame, hsame]
      exact hagree
    · rw [hout, hout]
      refine hagree.createEvents_both call.env.tx ?_
      intro row hrow
      exact List.mem_append_left _ (hrows row hrow).2
  · rw [ingestStep, ingestStep, acksTo_append, acksTo_append, hacks,
      sync_ack_independent call.env call.clusterName s.events s'.events]

/-- A run and the run of the calls of `c` alone. -/
theorem related_run {calls : List IngestCall} (hunclaimed : Unclaimed c calls) (start : Ingest) :
    Related c [] (run ingestStep start calls)
      (run ingestStep start (calls.filter fun call => call.clusterName = c)) := by
  refine run_filter (R := Related c) ?_ ?_ ⟨hunclaimed, ⟨rfl, fun _ _ => Iff.rfl⟩, rfl⟩
  · intro call later s s' hcluster h
    exact h.hidden (by simpa using hcluster)
  · intro call later s s' hcluster h
    exact h.visible (by simpa using hcluster)

/-- Two runs with the same calls of `c`, from the same table, store the same
rows of `c` and send `c` the same acks, whatever the other clusters do, if no
other cluster sends an id that `c` sends later. -/
theorem events_isolated {c : String} {start : Ingest} {calls calls' : List IngestCall}
    (hsame : (calls.filter fun call => call.clusterName = c) =
      calls'.filter fun call => call.clusterName = c)
    (hunclaimed : Unclaimed c calls) (hunclaimed' : Unclaimed c calls') :
    (run ingestStep start calls).rowsOf c = (run ingestStep start calls').rowsOf c ∧
      (run ingestStep start calls).acksTo c = (run ingestStep start calls').acksTo c := by
  have h := related_run hunclaimed start
  have h' := related_run hunclaimed' start
  rw [← hsame] at h'
  exact ⟨h.events.rows.trans h'.events.rows.symm, h.acks.trans h'.acks.symm⟩

end

/-! ## An event id that another cluster used first -/

attribute [local instance] GoUnicode.ascii

/-- A gateway with the clusters `edge` and `rogue`. -/
def sharedIngest : IngestEnv where
  db := { openIngest.db with
    clusters := [{ id := 7, name := "edge" }, { id := 8, name := "rogue" }] }
  now := 1000

/-- A call of a cluster with one deny event. -/
def denyCall (clusterName eventID : String) : IngestCall where
  env := sharedIngest
  clusterName := clusterName
  batch := some [some { eventID := eventID, verdict := "deny", deliveryAttempt := 1 }]

/-- The event of `edge` is stored when `edge` is alone and is not stored when
`rogue` has sent the id before.  It is accepted both times. -/
theorem events_claimed_by_other :
    ([denyCall "rogue" "e1", denyCall "edge" "e1"].filter fun call => call.clusterName = "edge") =
        ([denyCall "edge" "e1"].filter fun call => call.clusterName = "edge") ∧
      ((run ingestStep { events := .empty } [denyCall "edge" "e1"]).rowsOf "edge").length = 1 ∧
      (run ingestStep { events := .empty }
        [denyCall "rogue" "e1", denyCall "edge" "e1"]).rowsOf "edge" = [] ∧
      (run ingestStep { events := .empty }
          [denyCall "rogue" "e1", denyCall "edge" "e1"]).acksTo "edge" =
        [[{ eventID := "e1", status := .accepted, deliveryAttempt := 1 }]] :=
  ⟨rfl, by decide +kernel, by decide +kernel, by decide +kernel⟩

/-- With an id of its own `rogue` changes nothing for `edge`, before and after. -/
theorem events_isolated_own_ids :
    ((run ingestStep { events := .empty } [denyCall "edge" "e1"]).rowsOf "edge").length = 1 ∧
      (run ingestStep { events := .empty }
          [denyCall "rogue" "e2", denyCall "edge" "e1", denyCall "rogue" "e1"]).rowsOf "edge" =
        (run ingestStep { events := .empty } [denyCall "edge" "e1"]).rowsOf "edge" := by
  have hrogue : Unclaimed "edge"
      [denyCall "rogue" "e2", denyCall "edge" "e1", denyCall "rogue" "e1"] :=
    ⟨fun _ => by decide +kernel, fun h => absurd rfl h, fun _ => by decide +kernel, trivial⟩
  have halone : Unclaimed "edge" [denyCall "edge" "e1"] := ⟨fun h => absurd rfl h, trivial⟩
  exact ⟨by decide +kernel, (events_isolated (by rfl) hrogue halone).1⟩

end KubeSentry.Gateway
