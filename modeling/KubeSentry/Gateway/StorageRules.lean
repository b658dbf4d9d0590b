import KubeSentry.Database.AdmissionCleanup
import KubeSentry.Gateway.AckDurability
import KubeSentry.Hublink.EventQueue

/-!
# One set of storage rules

The storage rules are applied in three places, each to its own view of an event: by the
member that submits it (`SubmitAdmissionEvents`, on the rules that `renderFor` has sent
along), by the gateway that receives it (`handleAdmissionEventBatch`) and by the cleanup of
the stored rows.  `storage_rules_agree` says that the three views and the three copies of
the rules come to the same answer, which only depends on the set of rules.
-/

namespace KubeSentry.Gateway

open GoLib Database Admission

/-! ## The rules and the views -/

/-- What the rules see of an event of the cluster. -/
def ruleEvent (clusterName : String) (event : AdmissionEvent) : RuleEvent where
  verdict := event.verdict
  clusterName := clusterName
  apiGroup := event.apiGroup
  resource := event.resource
  namespaceName := event.namespaceName

theorem shouldStore_congr {rules rules' : List Rule} (h : ∀ rule, rule ∈ rules' ↔ rule ∈ rules)
    (event : RuleEvent) : shouldStore rules' event = shouldStore rules event := by
  have hempty : rules' = [] ↔ rules = [] := by
    simp only [List.eq_nil_iff_forall_not_mem, h]
  rw [Bool.eq_iff_iff, shouldStore_iff, shouldStore_iff, hempty]
  simp only [h]

variable {repos : Repos} {faults : Faults} {db : Tables} {res : RenderResult}

/-- The member gets the rules of the table. -/
theorem config_rules [Digest] {res' : RenderResult} (hadmission : repos.admission = true)
    (h : withAdmissionEventConfig repos faults db res = .ok res') :
    ∃ config, res'.admissionEventConfig = some config ∧
      config.storagePolicies.map ruleOf = storedRules db := by
  unfold withAdmissionEventConfig at h
  rw [hadmission] at h
  obtain ⟨settings, -, h⟩ := bind_ok h
  obtain ⟨policies, hpolicies, h⟩ := bind_ok h
  rw [fetch_ok hpolicies] at h
  split at h
  · obtain ⟨platform, -, h⟩ := bind_ok h
    cases h
    exact ⟨_, rfl, List.map_map⟩
  · cases h
    exact ⟨_, rfl, List.map_map⟩

theorem renderFor_rules [Digest] [Apimachinery] [GoUnicode] {cluster : String}
    (hadmission : repos.admission = true) (h : renderFor repos faults db cluster = .ok res) :
    ∃ config, res.admissionEventConfig = some config ∧
      config.storagePolicies.map ruleOf = storedRules db := by
  obtain ⟨rows, -, h⟩ := bind_ok h
  unfold attachTasks at h
  split at h
  · exact config_rules hadmission h
  · obtain ⟨tasks, -, h⟩ := bind_ok h
    exact config_rules hadmission h

/-! ## The member -/

section

open Hublink

/-- The result of a submitted event that the rules do not store. -/
def Discarded (event : AdmissionEvent) (result : AckResult) : Prop :=
  result = { eventID := event.eventID, status := .discarded, reason := "storage_policy_no_retain" }

/-- A round answers an event that it does not skip, and keeps the configuration. -/
theorem submitRound_spec (l : Link) (clusterName clusterPrefix : String) (event : AdmissionEvent) :
    (l.submitRound clusterName clusterPrefix event).1.eventConfig = l.eventConfig ∧
      (event.eventID ≠ "" → ∃ result, (l.submitRound clusterName clusterPrefix event).2 = [result] ∧
        (Discarded event result ↔
          shouldDiscardAdmissionEvent l.eventConfig clusterName event = true)) := by
  unfold Link.submitRound
  dsimp only
  by_cases hid : event.eventID = ""
  · rw [if_pos hid]
    exact ⟨rfl, fun hne => absurd hid hne⟩
  · rw [if_neg hid]
    cases hdiscard : shouldDiscardAdmissionEvent l.eventConfig clusterName event with
    | true => exact ⟨rfl, fun _ => ⟨_, rfl, by simp [Discarded]⟩⟩
    | false =>
      rw [if_neg Bool.false_ne_true]
      split
      · exact ⟨rfl, fun _ => ⟨_, rfl, by simp [Discarded]⟩⟩
      · split <;> exact ⟨rfl, fun _ => ⟨_, rfl, by simp [Discarded]⟩⟩

/-- The loop answers the events in order. -/
theorem foldl_submitLoop_spec (clusterName clusterPrefix : String)
    (batch : List (Option AdmissionEvent)) (l : Link) (acc : List AckResult) :
    ∃ results, (batch.foldl (submitLoop clusterName clusterPrefix) (l, acc)).2 = acc ++ results ∧
      List.Forall₂ (fun event result => Discarded event result ↔
        shouldDiscardAdmissionEvent l.eventConfig clusterName event = true)
        (deliverable batch) results := by
  induction batch generalizing l acc with
  | nil => exact ⟨[], by simp, .nil⟩
  | cons entry rest ih =>
    rw [List.foldl_cons]
    cases entry with
    | none =>
      obtain ⟨results, hout, hall⟩ := ih l acc
      exact ⟨results, by simpa [submitLoop, Link.submitRound] using hout, hall⟩
    | some event =>
      obtain ⟨hconfig, hanswer⟩ := submitRound_spec l clusterName clusterPrefix event
      obtain ⟨results, hout, hall⟩ := ih (l.submitRound clusterName clusterPrefix event).1
        (acc ++ (l.submitRound clusterName clusterPrefix event).2)
      rw [hconfig] at hall
      by_cases hid : event.eventID = ""
      · refine ⟨results, ?_, by simpa [deliverable, hid] using hall⟩
        simpa [submitLoop, Link.submitRound, hid] using hout
      · obtain ⟨result, hresult, hdiscard⟩ := hanswer hid
        refine ⟨result :: results, ?_, ?_⟩
        · rw [submitLoop, hout, hresult, List.append_assoc]
          rfl
        · have hdeliverable : deliverable (some event :: rest) = event :: deliverable rest := by
            simp [deliverable, hid]
          rw [hdeliverable]
          exact .cons hdiscard hall

end

/-! ## Agreement -/

/-- Entry `k` of the batch is discarded by the member. -/
def MemberDiscards (l : Hublink.Link) (clusterName clusterPrefix : String)
    (batch : List (Option AdmissionEvent)) (k : Nat) (event : AdmissionEvent) : Prop :=
  ∃ results result,
    (l.submitAdmissionEvents true clusterName clusterPrefix batch).2 = some results ∧
      results[k]? = some result ∧ Discarded event result

/-- Entry `k` of the batch is answered with `storage_policy_no_match` by the gateway. -/
def GatewayDiscards [GoUnicode] (env : IngestEnv) (clusterName : String) (events : EventTable)
    (batch : List (Option AdmissionEvent)) (k : Nat) (event : AdmissionEvent) : Prop :=
  ∃ results, (env.handleAdmissionEventBatch clusterName events (some batch)).ack = some results ∧
    results[k]? = some (discardedAdmissionEvent event .storagePolicyNoMatch)

/-- `CleanupAll` deletes the row of the table, and the rules are the reason. -/
def CleanupDiscards (db : Tables) (now : Time) (table : EventTable) (row : AdmissionEventRow) :
    Prop :=
  (cleanupConfig db now now).expiry (candidateOf row) = some .rules ∧
    row ∈ table.rows ∧ ∃ outcome, cleanupAll (fun _ => none) {} db table now = some outcome ∧
      row ∉ outcome.table.rows

variable {batch : List (Option AdmissionEvent)} {k : Nat} {event : AdmissionEvent}

theorem length_ne_zero_of_deliverable (h : (deliverable batch)[k]? = some event) :
    batch.length ≠ 0 := by
  intro hempty
  rw [List.eq_nil_of_length_eq_zero hempty] at h
  cases h

variable {clusterName : String}

theorem memberDiscards_iff {l : Hublink.Link} {config : AdmissionEventConfig}
    {clusterPrefix : String} (hconfig : l.eventConfig = some config)
    (hevent : (deliverable batch)[k]? = some event) :
    MemberDiscards l clusterName clusterPrefix batch k event ↔
      shouldStore (config.storagePolicies.map ruleOf) (ruleEvent clusterName event) = false := by
  have hnonempty := length_ne_zero_of_deliverable hevent
  obtain ⟨results, hout, hall⟩ := foldl_submitLoop_spec clusterName clusterPrefix batch l []
  have hrun : (l.submitAdmissionEvents true clusterName clusterPrefix batch).2 = some results := by
    simp [Hublink.Link.submitAdmissionEvents, hnonempty, hout]
  obtain ⟨hlength, hget⟩ := List.forall₂_iff_get.mp hall
  obtain ⟨hk, hkevent⟩ := List.getElem?_eq_some_iff.mp hevent
  have hanswer := hget k hk (hlength ▸ hk)
  rw [List.get_eq_getElem, List.get_eq_getElem, hkevent, hconfig] at hanswer
  have hrules : Hublink.shouldDiscardAdmissionEvent (some config) clusterName event = true ↔
      shouldStore (config.storagePolicies.map ruleOf) (ruleEvent clusterName event) = false := by
    simp [Hublink.shouldDiscardAdmissionEvent, ruleEvent]
  rw [← hrules, ← hanswer]
  constructor
  · intro h
    obtain ⟨results', result, hrun', hresult, hdiscarded⟩ := h
    rw [hrun] at hrun'
    cases hrun'
    rw [(List.getElem?_eq_some_iff.mp hresult).2]
    exact hdiscarded
  · intro h
    exact ⟨results, _, hrun, List.getElem?_eq_getElem (hlength ▸ hk), h⟩

theorem gatewayDiscards_iff [GoUnicode] {env : IngestEnv} {cluster : ClusterRow}
    (hadmission : env.repos.admission = true) (hfaults : env.faults = fun _ => none)
    (hcluster : (env.db.clusters.find? fun c => c.name = clusterName) = some cluster)
    (hevent : (deliverable batch)[k]? = some event)
    (hverdict : event.verdict = "audit" ∨ event.verdict = "deny") (events : EventTable) :
    GatewayDiscards env clusterName events batch k event ↔
      shouldStore (storedRules env.db) (ruleEvent clusterName event) = false := by
  have hnonempty := length_ne_zero_of_deliverable hevent
  have hname : cluster.name = clusterName := by simpa using List.find?_some hcluster
  have hack : (env.handleAdmissionEventBatch clusterName events (some batch)).ack =
      some (IngestEnv.results (decideEvent cluster env.db.admissionSettings
        (orderBy (fun p => p.priority) env.db.storagePolicies) env.now) batch) := by
    unfold IngestEnv.handleAdmissionEventBatch
    simp only [Option.getD_some, hnonempty, if_false, hadmission, Bool.not_true,
      Bool.false_eq_true, IngestEnv.getCluster, hfaults, fetch, hcluster]
    exact (env.storeFor_spec cluster events batch).1
  have hstore : shouldStoreAdmissionEvent (orderBy (fun p => p.priority) env.db.storagePolicies)
      (rowOf cluster env.now event) =
      shouldStore (storedRules env.db) (ruleEvent clusterName event) := by
    rw [← hname]
    rfl
  have hvalid : ¬ (event.verdict ≠ "audit" ∧ event.verdict ≠ "deny") := by tauto
  unfold GatewayDiscards
  rw [hack]
  simp only [Option.some.injEq, exists_eq_left', IngestEnv.results, List.getElem?_map, hevent,
    Option.map_some, decideEvent, hstore, if_neg hvalid]
  cases shouldStore (storedRules env.db) (ruleEvent clusterName event) with
  | false => simp [Decision.result]
  | true =>
    simp only [Bool.not_true, Bool.false_eq_true, if_false]
    split
    · simp [Decision.result, discardedAdmissionEvent, DiscardReason.text]
    · simp [Decision.result, acceptedAdmissionEvent, discardedAdmissionEvent]

theorem cleanupDiscards_iff {now : Time} {table : EventTable} {row : AdmissionEventRow}
    (hrow : row ∈ table.rows) (hids : (table.rows.map fun row => row.id).Nodup)
    (hpos : ∀ row ∈ table.rows, 0 < row.id) (hpast : row.createdAt ≤ now) :
    CleanupDiscards db now table row ↔
      shouldStore (storedRules db) (admissionEventOf row) = false := by
  have hview : (candidateOf row).storageEvent = admissionEventOf row := rfl
  have hrules : (cleanupConfig db now now).expiry (candidateOf row) = some .rules ↔
      shouldStore (storedRules db) (admissionEventOf row) = false := by
    unfold CleanupConfig.expiry
    rw [hview]
    show (if !shouldStore (storedRules db) _ then _ else _) = _ ↔ _
    cases shouldStore (storedRules db) (admissionEventOf row) with
    | false => simp
    | true =>
      simp only [Bool.not_true, Bool.false_eq_true, if_false]
      split <;> simp
  have hall := @cleanup_eq db _ hids hpos now now
  refine ⟨fun h => hrules.mp h.1, fun h => ⟨hrules.mpr h, hrow, _, hall, ?_⟩⟩
  have hdeletes : (cleanupConfig db now now).deletes row = true :=
    CleanupConfig.deletes_iff.mpr ⟨hpast, fun hstored => absurd (h.symm.trans hstored) (by simp)⟩
  simp [EventTable.filter, hdeletes]

/-- The member, the gateway and the cleanup discard the same events for their rules, and
what they discard depends on the set of rules only. -/
theorem storage_rules_agree [Digest] [Apimachinery] [GoUnicode] (env : IngestEnv)
    (hadmission : env.repos.admission = true) (hfaults : env.faults = fun _ => none)
    (clusterName : String) (cluster : ClusterRow)
    (hcluster : (env.db.clusters.find? fun c => c.name = clusterName) = some cluster)
    (faults : Faults) (res : RenderResult)
    (hrender : renderFor env.repos faults env.db clusterName = .ok res) (l : Hublink.Link)
    (hconfig : l.eventConfig = res.admissionEventConfig) (clusterPrefix : String)
    (event : AdmissionEvent) (hverdict : event.verdict = "audit" ∨ event.verdict = "deny")
    (submitted sent : List (Option AdmissionEvent)) (k n : Nat)
    (hsubmitted : (deliverable submitted)[k]? = some event)
    (hsent : (deliverable sent)[n]? = some event) (events table : EventTable) (statement : Nat)
    (hstored : env.tx.rowOf statement (rowOf cluster env.now event) ∈ table.rows)
    (hids : (table.rows.map fun row => row.id).Nodup) (hpos : ∀ row ∈ table.rows, 0 < row.id)
    (now : Time) (hpast : env.tx.createdAt statement ≤ now) :
    let row := env.tx.rowOf statement (rowOf cluster env.now event)
    (MemberDiscards l clusterName clusterPrefix submitted k event ↔
        GatewayDiscards env clusterName events sent n event) ∧
      (GatewayDiscards env clusterName events sent n event ↔
        CleanupDiscards env.db now table row) ∧
      ∀ policies : List AdmissionStoragePolicy,
        (∀ rule, rule ∈ policies.map ruleOf ↔ rule ∈ env.db.storagePolicies.map ruleOf) →
        (CleanupDiscards { env.db with storagePolicies := policies } now table row ↔
          CleanupDiscards env.db now table row) := by
  intro row
  have hcreated : row.createdAt ≤ now := hpast
  obtain ⟨config, hres, hrules⟩ := renderFor_rules hadmission hrender
  rw [hres] at hconfig
  have hname : cluster.name = clusterName := by simpa using List.find?_some hcluster
  have hview : admissionEventOf row = ruleEvent clusterName event := by
    rw [← hname]
    rfl
  rw [memberDiscards_iff hconfig hsubmitted, hrules,
    gatewayDiscards_iff hadmission hfaults hcluster hsent hverdict,
    cleanupDiscards_iff hstored hids hpos hcreated, hview]
  refine ⟨Iff.rfl, Iff.rfl, fun policies hsame => ?_⟩
  rw [cleanupDiscards_iff hstored hids hpos hcreated, hview]
  have hset : ∀ rule, rule ∈ storedRules { env.db with storagePolicies := policies } ↔
      rule ∈ storedRules env.db := by
    intro rule
    have hsort : ∀ l : List AdmissionStoragePolicy,
        rule ∈ (orderBy (fun p => p.priority) l).map ruleOf ↔ rule ∈ l.map ruleOf := fun l =>
      ((List.perm_insertionSort _ l).map ruleOf).mem_iff
    exact (hsort policies).trans ((hsame rule).trans (hsort _).symm)
  rw [shouldStore_congr hset]

attribute [local instance] Apimachinery.basic GoUnicode.ascii Digest.names

/-- A gateway that stores denied events, with one member. -/
def denyEnv : IngestEnv where
  db := { denyTables with clusters := [{ id := 7, tenantID := some 1, name := "prod" }] }
  now := 0

def auditedEvent : AdmissionEvent where
  eventID := "E1"
  verdict := "audit"

/-- The table with the row of the event, had it been stored. -/
def auditedTable : EventTable :=
  (EventTable.empty.insertOnConflictDoNothing
    (denyEnv.tx.rowOf 0 (rowOf { id := 7, tenantID := some 1, name := "prod" } 0 auditedEvent))).1

/-- An audited event: the gateway discards it, and so do the member and the cleanup. -/
theorem storage_rules_agree_audit :
    ∃ res, renderFor denyEnv.repos (fun _ => none) denyEnv.db "prod" = .ok res ∧
      MemberDiscards { eventConfig := res.admissionEventConfig } "prod" "" [some auditedEvent] 0
        auditedEvent ∧
      ∃ row, CleanupDiscards denyEnv.db 0 auditedTable row := by
  have hgateway : GatewayDiscards denyEnv "prod" .empty [some auditedEvent] 0 auditedEvent :=
    ⟨_, rfl, by decide +kernel⟩
  have hrender : ∃ res, renderFor denyEnv.repos (fun _ => none) denyEnv.db "prod" = .ok res :=
    ⟨_, rfl⟩
  obtain ⟨res, hres⟩ := hrender
  obtain ⟨hmember, hcleanup, -⟩ := storage_rules_agree denyEnv rfl rfl "prod" _ rfl _ res hres
    { eventConfig := res.admissionEventConfig } rfl "" auditedEvent (.inl rfl) [some auditedEvent]
    [some auditedEvent] 0 0 rfl rfl .empty auditedTable 0 (by decide +kernel)
    (by decide +kernel) (by decide +kernel) 0 le_rfl
  exact ⟨res, hres, hmember.mpr hgateway, _, hcleanup.mp hgateway⟩

end KubeSentry.Gateway
