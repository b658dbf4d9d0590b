import Mathlib.Tactic.Linarith
import KubeSentry.GoLib.Paging
import KubeSentry.Admission.StoragePolicy
import KubeSentry.Database.AdmissionEvents
import KubeSentry.Database.Rows

/-!
# Cleaning up admission events

`Cleanup` and `CleanupAll` of `internal/database/repository/admission_repo.go`.
Both page through the table by primary key, delete the rows of a page that the
current configuration no longer keeps, and stop after a page that is not full.
They differ in the age that a row must have to be looked at.

The loop deletes from the table it pages through.  Since a page is cut by the key
of its last row, and not by a number of rows, the deletion does not move the
rows that are still to come; `cleanup_eq_filter` says that all the pages together
are one filter.

The table is the list of its rows that are not soft-deleted; nothing soft-deletes
an event.  `CleanupFaults` numbers the pages from 0.
-/

namespace KubeSentry.Database

open GoLib Admission

/-! ## One page -/

/-- `admissionCleanupBatchSize`. -/
def admissionCleanupBatchSize : Nat := 1000

/-- `minAdmissionRetention`. -/
def minAdmissionRetention : Int := 24 * 3600 * 1000000000

/-- `admissionCleanupCandidate`. -/
structure CleanupCandidate where
  id : Int
  clusterName : String
  verdict : String
  apiGroup : String
  resource : String
  namespaceName : String
  createdAt : Time
  deriving DecidableEq

/-- The columns that the scan selects. -/
def candidateOf (row : AdmissionEventRow) : CleanupCandidate where
  id := row.id
  clusterName := row.clusterName
  verdict := row.verdict
  apiGroup := row.apiGroup
  resource := row.resource
  namespaceName := row.namespaceName
  createdAt := row.createdAt

/-- `storageEvent`. -/
def CleanupCandidate.storageEvent (c : CleanupCandidate) : RuleEvent where
  verdict := c.verdict
  clusterName := c.clusterName
  apiGroup := c.apiGroup
  resource := c.resource
  namespaceName := c.namespaceName

/-- Why a candidate is deleted. -/
inductive ExpiryReason where
  | rules
  | retention
  deriving DecidableEq, Repr

/-- What a pass works with. -/
structure CleanupConfig where
  rules : List Rule
  retention : Int
  now : Time
  notAfter : Time

/-- The body of the loop over the candidates. -/
def CleanupConfig.expiry (config : CleanupConfig) (c : CleanupCandidate) : Option ExpiryReason :=
  if !shouldStore config.rules c.storageEvent then some .rules
  else if ¬ c.createdAt + config.retention > config.now then some .retention
  else none

/-- The scan of one page. -/
def CleanupConfig.scan (config : CleanupConfig) (table : EventTable) (cursor : Int) :
    List CleanupCandidate :=
  (page (fun row => row.id) (fun row => decide (row.createdAt ≤ config.notAfter)) cursor
    admissionCleanupBatchSize table.rows).map candidateOf

/-- The ids to delete. -/
def CleanupConfig.expired (config : CleanupConfig) (candidates : List CleanupCandidate) :
    List Int :=
  (candidates.filter fun c => (config.expiry c).isSome).map fun c => c.id

/-- The rows of the table that satisfy a condition. -/
def EventTable.filter (table : EventTable) (p : AdmissionEventRow → Bool) : EventTable where
  rows := table.rows.filter p
  unique := table.unique.sublist (List.filter_sublist.map _)

/-- `DELETE … WHERE id IN (…)`, with the number of rows deleted. -/
def EventTable.deleteIDs (table : EventTable) (ids : List Int) : EventTable × Nat :=
  let kept := table.filter fun row => row.id ∉ ids
  (kept, table.rows.length - kept.rows.length)

/-! ## The loop -/

/-- The statements that fail, by page. -/
structure CleanupFaults where
  scan : Nat → Option String := fun _ => none
  delete : Nat → Option String := fun _ => none

/-- What a cleanup leaves behind and returns. -/
structure CleanupOutcome where
  table : EventTable
  deleted : Nat
  err : Option String := none
  deriving DecidableEq

/-- The loop of `cleanup`, with none where the fuel does not suffice. -/
def CleanupConfig.loop (config : CleanupConfig) (faults : CleanupFaults) :
    (fuel pageNo : Nat) → EventTable → (cursor : Int) → (deleted : Nat) → Option CleanupOutcome
  | 0, _, _, _, _ => none
  | fuel + 1, pageNo, table, cursor, deleted =>
    match faults.scan pageNo with
    | some err =>
      some { table, deleted, err := some ("scan admission event cleanup candidates: " ++ err) }
    | none =>
      let candidates := config.scan table cursor
      match candidates.getLast? with
      | none => some { table, deleted }
      | some last =>
        let ids := config.expired candidates
        if ids.length > 0 then
          match faults.delete pageNo with
          | some err =>
            some { table, deleted, err := some ("delete expired admission events: " ++ err) }
          | none =>
            let (table', affected) := table.deleteIDs ids
            if candidates.length < admissionCleanupBatchSize then
              some { table := table', deleted := deleted + affected }
            else config.loop faults fuel (pageNo + 1) table' last.id (deleted + affected)
        else if candidates.length < admissionCleanupBatchSize then some { table, deleted }
        else config.loop faults fuel (pageNo + 1) table last.id deleted

/-- `time.Duration(settings.DefaultRetentionDays) * 24 * time.Hour`. -/
def cleanupRetention (settings : AdmissionEventSettings) : Int :=
  settings.defaultRetentionDays * 24 * 3600 * 1000000000

/-- `admissionRulesOf` on the rows of `ListPolicies`. -/
def storedRules (db : Tables) : List Rule :=
  (orderBy (fun p => p.priority) db.storagePolicies).map ruleOf

/-- What a pass reads before the loop. -/
def cleanupConfig (db : Tables) (now notAfter : Time) : CleanupConfig where
  rules := storedRules db
  retention := cleanupRetention db.admissionSettings
  now := now
  notAfter := notAfter

/-- `cleanup`.  Every page but the last one has a row that no later page has, so
the length of the table is enough fuel. -/
def cleanup (reads : Faults) (faults : CleanupFaults) (db : Tables) (table : EventTable)
    (now notAfter : Time) : Option CleanupOutcome :=
  match fetch reads .admissionGetSettings "get admission event settings: "
      db.admissionSettings with
  | .error err => some { table, deleted := 0, err := some err }
  | .ok _ =>
    match fetch reads .admissionListPolicies "" db.storagePolicies with
    | .error err => some { table, deleted := 0, err := some err }
    | .ok _ =>
      (cleanupConfig db now notAfter).loop faults (table.rows.length + 1) 0 table 0 0

/-- `Cleanup`. -/
def routineCleanup (reads : Faults) (faults : CleanupFaults) (db : Tables) (table : EventTable)
    (now : Time) : Option CleanupOutcome :=
  cleanup reads faults db table now (now - minAdmissionRetention)

/-- `CleanupAll`. -/
def cleanupAll (reads : Faults) (faults : CleanupFaults) (db : Tables) (table : EventTable)
    (now : Time) : Option CleanupOutcome :=
  cleanup reads faults db table now now

/-! ## All pages together -/

namespace CleanupConfig

/-- The pass deletes this row when it gets to it. -/
def deletes (config : CleanupConfig) (row : AdmissionEventRow) : Bool :=
  decide (row.createdAt ≤ config.notAfter) && (config.expiry (candidateOf row)).isSome

/-- The rows that are left of a table after the pages above the cursor. -/
def leftAfter (config : CleanupConfig) (table : EventTable) (cursor : Int) : EventTable :=
  table.filter fun row => !(config.deletes row && decide (cursor < row.id))

/-- The rows of the page at the cursor. -/
def pageRows (config : CleanupConfig) (table : EventTable) (cursor : Int) :
    List AdmissionEventRow :=
  page (fun row => row.id) (fun row => decide (row.createdAt ≤ config.notAfter)) cursor
    admissionCleanupBatchSize table.rows

/-- The rows from the cursor on. -/
def pendingRows (config : CleanupConfig) (table : EventTable) (cursor : Int) :
    List AdmissionEventRow :=
  pending (fun row => row.id) (fun row => decide (row.createdAt ≤ config.notAfter)) cursor
    table.rows

variable {config : CleanupConfig} {table : EventTable} {cursor : Int} {row : AdmissionEventRow}
  {p q : AdmissionEventRow → Bool}

theorem deletes_iff : config.deletes row = true ↔ row.createdAt ≤ config.notAfter ∧
    (shouldStore config.rules (candidateOf row).storageEvent = true →
      row.createdAt + config.retention ≤ config.now) := by
  have hcreated : (candidateOf row).createdAt = row.createdAt := rfl
  unfold deletes expiry
  rw [hcreated]
  cases shouldStore config.rules (candidateOf row).storageEvent <;>
    by_cases hold : config.now < row.createdAt + config.retention <;>
    simp [hold, not_le.mpr, not_lt.mp]

theorem filter_congr (h : ∀ row ∈ table.rows, p row = q row) : table.filter p = table.filter q := by
  unfold EventTable.filter
  simp only [List.filter_congr h]

theorem mem_pendingRows_of_deletes (hdeletes : config.deletes row = true) :
    row ∈ config.pendingRows table cursor ↔ row ∈ table.rows ∧ cursor < row.id := by
  unfold pendingRows
  unfold deletes at hdeletes
  rw [Bool.and_eq_true] at hdeletes
  rw [mem_pending, hdeletes.1]
  simp

section

variable (hids : (table.rows.map fun row => row.id).Nodup)

include hids

/-- The ids that a page deletes are those of its rows that the pass deletes. -/
theorem mem_expired_iff (hrow : row ∈ table.rows) :
    row.id ∈ config.expired (config.scan table cursor) ↔
      config.deletes row = true ∧ row ∈ config.pageRows table cursor := by
  unfold expired scan deletes
  simp only [List.mem_map, List.mem_filter, Bool.and_eq_true, decide_eq_true_eq]
  constructor
  · intro h
    obtain ⟨c, ⟨⟨row', hpage, hcandidate⟩, hexpired⟩, hid⟩ := h
    have hpending := mem_pending.mp (mem_pending_of_mem_page hids hpage)
    rw [← hcandidate] at hid hexpired
    have hsame : row' = row := List.inj_on_of_nodup_map hids hpending.1 hrow hid
    rw [hsame] at hpage hexpired hpending
    exact ⟨⟨decide_eq_true_eq.mp hpending.2.1, hexpired⟩, hpage⟩
  · intro h
    exact ⟨candidateOf row, ⟨⟨row, h.2, rfl⟩, h.1.2⟩, rfl⟩

/-- What a page leaves of the table. -/
theorem deleteIDs_scan :
    (table.deleteIDs (config.expired (config.scan table cursor))).1 = table.filter fun row =>
        !(config.deletes row && decide (row ∈ config.pageRows table cursor)) := by
  refine filter_congr fun row hrow => ?_
  simp [mem_expired_iff hids hrow]

/-- Nothing is left to do after a page that is not full. -/
theorem deleteIDs_of_short
    (hshort : (config.pageRows table cursor).length < admissionCleanupBatchSize) :
    (table.deleteIDs (config.expired (config.scan table cursor))).1 =
      config.leftAfter table cursor := by
  rw [deleteIDs_scan hids]
  refine filter_congr fun row hrow => ?_
  cases hdeletes : config.deletes row with
  | false => rfl
  | true =>
    have hpage : row ∈ config.pageRows table cursor ↔ row ∈ config.pendingRows table cursor :=
      ⟨mem_pending_of_mem_page hids, mem_page_of_short hids hshort⟩
    simp only [hpage, mem_pendingRows_of_deletes hdeletes, hrow, true_and]

/-- The pages after this one go on where it ends. -/
theorem leftAfter_deleteIDs {last : AdmissionEventRow}
    (hlast : (config.pageRows table cursor).getLast? = some last) :
    config.leftAfter (table.deleteIDs (config.expired (config.scan table cursor))).1 last.id =
      config.leftAfter table cursor := by
  have hend := mem_pending.mp (mem_pending_of_mem_page hids (List.mem_of_getLast? hlast))
  rw [deleteIDs_scan hids]
  unfold leftAfter EventTable.filter
  simp only [List.filter_filter]
  congr 1
  refine List.filter_congr fun row hrow => ?_
  cases hdeletes : config.deletes row with
  | false => rfl
  | true =>
    have hpage : row ∈ config.pageRows table cursor ↔ cursor < row.id ∧ row.id ≤ last.id := by
      refine (mem_page_iff hids hlast).trans (and_congr_left fun _ => ?_)
      exact (mem_pendingRows_of_deletes hdeletes).trans (and_iff_right hrow)
    rw [Bool.eq_iff_iff]
    simp only [hpage, Bool.true_and, Bool.and_eq_true, Bool.not_eq_true', decide_eq_false_iff_not]
    omega

end

/-- One round of the loop without failures. -/
theorem loop_succ (fuel pageNo deleted : Nat) :
    config.loop {} (fuel + 1) pageNo table cursor deleted =
      match (config.pageRows table cursor).getLast? with
      | none => some { table, deleted }
      | some last =>
        let (table', affected) := table.deleteIDs (config.expired (config.scan table cursor))
        if (config.pageRows table cursor).length < admissionCleanupBatchSize then
          some { table := table', deleted := deleted + affected }
        else config.loop {} fuel (pageNo + 1) table' last.id (deleted + affected) := by
  have hscan : config.scan table cursor = (config.pageRows table cursor).map candidateOf := rfl
  have hnone : table.deleteIDs [] = (table, 0) := by
    simp [EventTable.deleteIDs, EventTable.filter]
  rw [loop]
  simp only [hscan, List.getLast?_map, List.length_map]
  cases (config.pageRows table cursor).getLast? with
  | none => rfl
  | some last =>
    generalize config.expired ((config.pageRows table cursor).map candidateOf) = ids
    cases ids with
    | nil => simp [hnone, candidateOf]
    | cons id ids => rfl

/-- The loop is one filter, and counts what it deletes. -/
theorem loop_eq (fuel pageNo : Nat) (hids : (table.rows.map fun row => row.id).Nodup)
    (hfuel : (config.pendingRows table cursor).length < fuel) (deleted : Nat) :
    config.loop {} fuel pageNo table cursor deleted =
      some
        { table := config.leftAfter table cursor
          deleted := deleted +
            (table.rows.length - (config.leftAfter table cursor).rows.length) } := by
  induction fuel generalizing pageNo table cursor deleted with
  | zero => omega
  | succ fuel ih =>
    rw [loop_succ]
    cases hlast : (config.pageRows table cursor).getLast? with
    | none =>
      have hempty := List.getLast?_eq_none_iff.mp hlast
      have hleft : config.leftAfter table cursor = table := by
        rw [← deleteIDs_of_short hids (by rw [hempty]; decide), deleteIDs_scan hids, hempty]
        simp [EventTable.filter]
      simp [hleft]
    | some last =>
      dsimp only
      split
      · rename_i hshort
        simp only [EventTable.deleteIDs, ← deleteIDs_of_short hids hshort]
      · have hsub : (table.deleteIDs (config.expired (config.scan table cursor))).1.rows.Sublist
            table.rows := List.filter_sublist
        have hfewer : (config.pendingRows (table.deleteIDs (config.expired
            (config.scan table cursor))).1 last.id).length <
            (config.pendingRows table cursor).length := length_pending_lt hids hlast hsub
        rw [ih _ (hids.sublist (hsub.map _)) (by omega), leftAfter_deleteIDs hids hlast]
        have hleft : (config.leftAfter table cursor).rows.length ≤
            (table.deleteIDs (config.expired (config.scan table cursor))).1.rows.length := by
          rw [← leftAfter_deleteIDs hids hlast]
          exact List.length_filter_le _ _
        have hle := hsub.length_le
        simp only [EventTable.deleteIDs] at hleft hle ⊢
        congr 2
        omega

end CleanupConfig

/-- The rows that the configuration keeps: those with a time that is still to
come, and those that the rules store and that are not too old. -/
def keptRows (db : Tables) (now : Time) (table : EventTable) : EventTable :=
  table.filter fun row => decide (now < row.createdAt) ||
    (shouldStore (storedRules db) (candidateOf row).storageEvent &&
      decide (now < row.createdAt + cleanupRetention db.admissionSettings))

theorem cleanup_eq {db : Tables} {table : EventTable}
    (hids : (table.rows.map fun row => row.id).Nodup) (hpos : ∀ row ∈ table.rows, 0 < row.id)
    (now notAfter : Time) :
    cleanup (fun _ => none) {} db table now notAfter =
      some
        { table := table.filter fun row => !(cleanupConfig db now notAfter).deletes row
          deleted := table.rows.length - (table.filter fun row =>
            !(cleanupConfig db now notAfter).deletes row).rows.length } := by
  have hall : (cleanupConfig db now notAfter).leftAfter table 0 =
      table.filter fun row => !(cleanupConfig db now notAfter).deletes row :=
    CleanupConfig.filter_congr fun row hrow => by simp [hpos row hrow]
  have hfuel : ((cleanupConfig db now notAfter).pendingRows table 0).length <
      table.rows.length + 1 := Nat.lt_succ_of_le (List.length_filter_le _ _)
  have hloop := CleanupConfig.loop_eq (table.rows.length + 1) 0 hids hfuel 0
  rw [hall, Nat.zero_add] at hloop
  exact hloop

/-- The pages of `CleanupAll` together are one filter.  If the rules store every row, the
routine pass leaves the same table.  The schema has no retention above 365 days, so the
product of `cleanupRetention` stays far below 64 bits. -/
theorem cleanup_eq_filter (db : Tables) (table : EventTable) (now : Time)
    (hids : (table.rows.map fun row => row.id).Nodup) (hpos : ∀ row ∈ table.rows, 0 < row.id)
    (hdays : 1 ≤ db.admissionSettings.defaultRetentionDays) :
    cleanupAll (fun _ => none) {} db table now =
        some
          { table := keptRows db now table
            deleted := table.rows.length - (keptRows db now table).rows.length } ∧
      ((∀ row ∈ table.rows,
          shouldStore (storedRules db) (candidateOf row).storageEvent = true) →
        (routineCleanup (fun _ => none) {} db table now).map (·.table) =
          some (keptRows db now table)) := by
  constructor
  · have hkept : (table.filter fun row => !(cleanupConfig db now now).deletes row) =
        keptRows db now table := by
      refine CleanupConfig.filter_congr fun row _ => ?_
      rw [Bool.eq_iff_iff, Bool.not_eq_true', ← Bool.not_eq_true, CleanupConfig.deletes_iff]
      simp only [cleanupConfig, Bool.or_eq_true, Bool.and_eq_true, decide_eq_true_eq, ← not_le]
      tauto
    rw [cleanupAll, cleanup_eq hids hpos, hkept]
  · intro hstored
    have hkept : (table.filter fun row =>
        !(cleanupConfig db now (now - minAdmissionRetention)).deletes row) =
        keptRows db now table := by
      refine CleanupConfig.filter_congr fun row hrow => ?_
      rw [Bool.eq_iff_iff, Bool.not_eq_true', ← Bool.not_eq_true, CleanupConfig.deletes_iff]
      simp only [cleanupConfig, hstored row hrow, true_implies, Bool.true_and, Bool.or_eq_true,
        decide_eq_true_eq]
      have hretention : minAdmissionRetention ≤ cleanupRetention db.admissionSettings := by
        unfold minAdmissionRetention cleanupRetention
        omega
      have hday : 0 < minAdmissionRetention := by decide
      constructor
      · intro hleft
        by_contra hgone
        rw [not_or, not_lt, not_lt] at hgone
        exact hleft ⟨by linarith, hgone.2⟩
      · intro hkept hleft
        rcases hkept with hnew | hnew <;> linarith
    rw [routineCleanup, cleanup_eq hids hpos, hkept]
    rfl

/-- Denied events are stored for a day. -/
def denyTables : Tables where
  admissionSettings := { defaultRetentionDays := 1 }
  storagePolicies :=
    [{ priority := 1, matchMode := .include, verdicts := ["deny"], clusters := [], gvks := []
       namespaces := [] }]

/-- A denied event, an audited one and one from the next minute. -/
def threeEvents : EventTable where
  rows :=
    [{ id := 3, eventID := "a", clusterID := 7, clusterName := "prod", occurredAt := 0
       verdict := "deny" },
      { id := 1, eventID := "b", clusterID := 7, clusterName := "prod", occurredAt := 0
        verdict := "audit" },
      { id := 2, eventID := "c", clusterID := 7, clusterName := "prod", occurredAt := 0
        verdict := "audit", createdAt := 60000000000 }]
  unique := by decide

theorem cleanup_eq_filter_three :
    (cleanupAll (fun _ => none) {} denyTables threeEvents 1).map
      (fun outcome => (outcome.table.rows.map (·.id), outcome.deleted)) = some ([3, 2], 1) := by
  rw [(cleanup_eq_filter denyTables threeEvents 1 (by decide) (by decide) (by decide)).1]
  decide +kernel

end KubeSentry.Database
