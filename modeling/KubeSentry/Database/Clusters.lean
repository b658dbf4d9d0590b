import KubeSentry.Database.Rows
import KubeSentry.GoLib.Table

/-!
# Cluster rows and uninstall tasks

The tables behind the life of a cluster, with the writes of `ClusterRepo` and
`UninstallTaskRepo`.  A table carries what its unique indexes enforce: a write
that would break one of them fails.

`ClusterColumns` is the map that a column-scoped `Updates` takes: the columns it
names, with their new values.  `ClusterTable.save` is gorm's `Save`, which writes
every column and inserts the row if there is none.

Left out are `created_at` and `updated_at` of a cluster and everything about
soft deletes: the operations of this development delete no cluster and no task.
-/

namespace KubeSentry.Database

open GoLib Table

/-! ## Clusters -/

/-- `gatewaymodel.ClusterPhase…`; `unset` is the empty string. -/
inductive ClusterPhase where
  | unset
  | registering
  | online
  | offline
  | uninstalling
  | uninstalled
  | uninstallFailed
  deriving DecidableEq, Repr

/-- The phases that an uninstall task owns. -/
def ClusterPhase.Removing (phase : ClusterPhase) : Prop :=
  phase = .uninstalling ∨ phase = .uninstalled

instance (phase : ClusterPhase) : Decidable phase.Removing :=
  inferInstanceAs (Decidable (_ ∨ _))

/-- A full row of `clusters`. -/
structure ClusterRecord extends ClusterRow where
  clusterUID : String := ""
  phase : ClusterPhase := .unset
  operatorVersion : String := ""
  kubernetesVersion : String := ""
  apiServerAddress : String := ""
  nodeCount : Int := 0
  readyNodeCount : Int := 0
  lastHeartbeatAt : Option Time := none
  observabilityOnboardedAt : Option Time := none
  regTokenHash : String := ""
  authTokenHash : String := ""
  deriving DecidableEq

/-- The columns that an update names. -/
structure ClusterColumns where
  tenantID : Option (Option Nat) := none
  labels : Option Labels := none
  clusterUID : Option String := none
  phase : Option ClusterPhase := none
  operatorVersion : Option String := none
  kubernetesVersion : Option String := none
  apiServerAddress : Option String := none
  nodeCount : Option Int := none
  readyNodeCount : Option Int := none
  lastHeartbeatAt : Option (Option Time) := none
  regTokenHash : Option String := none
  authTokenHash : Option String := none
  deriving DecidableEq

/-- The row after an update. -/
def ClusterColumns.apply (w : ClusterColumns) (c : ClusterRecord) : ClusterRecord :=
  { c with
    tenantID := w.tenantID.getD c.tenantID
    labels := w.labels.getD c.labels
    clusterUID := w.clusterUID.getD c.clusterUID
    phase := w.phase.getD c.phase
    operatorVersion := w.operatorVersion.getD c.operatorVersion
    kubernetesVersion := w.kubernetesVersion.getD c.kubernetesVersion
    apiServerAddress := w.apiServerAddress.getD c.apiServerAddress
    nodeCount := w.nodeCount.getD c.nodeCount
    readyNodeCount := w.readyNodeCount.getD c.readyNodeCount
    lastHeartbeatAt := w.lastHeartbeatAt.getD c.lastHeartbeatAt
    regTokenHash := w.regTokenHash.getD c.regTokenHash
    authTokenHash := w.authTokenHash.getD c.authTokenHash }

/-- The live rows of `clusters`: ids are a primary key, and `clusters_name_key`
makes the names unique. -/
structure ClusterTable where
  rows : List ClusterRecord
  ids_nodup : (rows.map fun c => c.id).Nodup
  names_nodup : (rows.map fun c => c.name).Nodup

namespace ClusterTable

variable (t : ClusterTable)

/-- The row of an id. -/
def byID (id : Int) : Option ClusterRecord :=
  Table.lookup (fun c : ClusterRecord => c.id) id t.rows

/-- `GetByName`. -/
def getByName (name : String) : Option ClusterRecord :=
  Table.lookup (fun c : ClusterRecord => c.name) name t.rows

/-- `Updates(columns)` with `Where("id = ?")`. -/
def updates (id : Int) (w : ClusterColumns) : ClusterTable where
  rows := Table.modify (fun c : ClusterRecord => c.id) id w.apply t.rows
  ids_nodup := by
    rw [map_modify (f := w.apply) fun _ => rfl]
    exact t.ids_nodup
  names_nodup := by
    rw [map_modify (f := w.apply) fun _ => rfl]
    exact t.names_nodup

/-- The rows with one more row, or with a row of its id replaced. -/
def savedRows (c : ClusterRecord) : List ClusterRecord :=
  if (t.byID c.id).isSome then
    t.rows.map fun r => if r.id = c.id then c else r
  else t.rows ++ [c]

theorem savedRows_ids (c : ClusterRecord) : ((t.savedRows c).map fun r => r.id).Nodup := by
  unfold savedRows
  split
  · have hids : (t.rows.map fun r => if r.id = c.id then c else r).map (fun r => r.id) =
        t.rows.map fun r => r.id := by
      rw [List.map_map]
      refine List.map_congr_left fun r _ => ?_
      show (if r.id = c.id then c else r).id = r.id
      split
      · rename_i heq
        exact heq.symm
      · rfl
    rw [hids]
    exact t.ids_nodup
  · rename_i hnone
    have habsent : t.byID c.id = none := by simpa using hnone
    have hnew : ∀ r ∈ t.rows, r.id ≠ c.id := lookup_none habsent
    rw [List.map_append, List.nodup_append]
    refine ⟨t.ids_nodup, List.nodup_singleton _, ?_⟩
    intro id hid id' hid'
    obtain ⟨r, hr, heq⟩ := List.mem_map.mp hid
    rw [List.map_cons, List.map_nil, List.mem_singleton] at hid'
    rw [← heq, hid']
    exact hnew r hr

/-- `Save`: every column, or a new row; `none` is a violation of the unique
name. -/
def save (c : ClusterRecord) : Option ClusterTable :=
  if h : ((t.savedRows c).map fun r => r.name).Nodup then
    some { rows := t.savedRows c, ids_nodup := t.savedRows_ids c, names_nodup := h }
  else none

variable {t : ClusterTable} {c : ClusterRecord}

theorem mem_of_byID {id : Int} (h : t.byID id = some c) : c ∈ t.rows ∧ c.id = id :=
  lookup_some h

theorem byID_of_mem (h : c ∈ t.rows) : t.byID c.id = some c :=
  lookup_of_mem t.ids_nodup h

theorem mem_of_getByName {name : String} (h : t.getByName name = some c) :
    c ∈ t.rows ∧ c.name = name :=
  lookup_some h

theorem byID_of_getByName {name : String} (h : t.getByName name = some c) : t.byID c.id = some c :=
  byID_of_mem (mem_of_getByName h).1

/-- An update changes the row of its id and no other. -/
theorem byID_updates (t : ClusterTable) (id id' : Int) (w : ClusterColumns) :
    (t.updates id w).byID id' = if id' = id then (t.byID id).map w.apply else t.byID id' := by
  refine lookup_modify (K := Int) ?_ t.rows
  intro c hid
  exact hid

theorem mem_updates {id : Int} {w : ClusterColumns} {c' : ClusterRecord} :
    c' ∈ (t.updates id w).rows ↔ ∃ c ∈ t.rows, c' = if c.id = id then w.apply c else c :=
  mem_modify

/-- A save over an existing row replaces that row. -/
theorem rows_of_save {t' : ClusterTable} (h : t.save c = some t') (hrow : (t.byID c.id).isSome) :
    t'.rows = Table.modify (fun r : ClusterRecord => r.id) c.id (fun _ => c) t.rows := by
  unfold save at h
  split at h
  · cases h
    exact if_pos hrow
  · cases h

theorem byID_of_save {t' : ClusterTable} (h : t.save c = some t') (hrow : (t.byID c.id).isSome)
    (id : Int) : t'.byID id = if id = c.id then some c else t.byID id := by
  have hlookup : t'.byID id =
      if id = c.id then (t.byID c.id).map fun _ => c else t.byID id := by
    unfold byID
    rw [rows_of_save h hrow]
    exact lookup_modify (f := fun _ => c) (fun _ _ => rfl) t.rows
  obtain ⟨old, hold⟩ := Option.isSome_iff_exists.mp hrow
  rw [hlookup, hold]
  rfl

end ClusterTable

/-! ## Uninstall tasks -/

/-- The two statuses of a finished task. -/
def UninstallTaskStatus.succeeded : UninstallTaskStatus := .finished "Succeeded"

def UninstallTaskStatus.failed : UninstallTaskStatus := .finished "Failed"

/-- `Pending`, `Received` or `Running`. -/
def UninstallTaskStatus.isActive : UninstallTaskStatus → Bool
  | .finished _ => false
  | _ => true

/-- A full row of `cluster_uninstall_tasks`. -/
structure UninstallTaskRecord extends UninstallTaskRow where
  requestedAt : Time
  receivedAt : Option Time := none
  completedAt : Option Time := none
  error : String := ""
  deriving DecidableEq

/-- The clusters of the active tasks. -/
def activeClusters (rows : List UninstallTaskRecord) : List Int :=
  (rows.filter fun t => t.status.isActive).map fun t => t.clusterID

/-- The rows of `cluster_uninstall_tasks`: ids are a primary key, and
`cluster_uninstall_tasks_active_cluster_key` allows a cluster one active task. -/
structure TaskTable where
  rows : List UninstallTaskRecord
  ids_nodup : (rows.map fun t => t.id).Nodup
  active_nodup : (activeClusters rows).Nodup

namespace TaskTable

/-- The table after a write, unless an index refuses it. -/
def checked (rows : List UninstallTaskRecord) : Option TaskTable :=
  if h : (rows.map fun t => t.id).Nodup ∧ (activeClusters rows).Nodup then
    some { rows := rows, ids_nodup := h.1, active_nodup := h.2 }
  else none

variable {t t' : TaskTable} {id : Int} {task : UninstallTaskRecord} {expected : UninstallTaskStatus}
  {f : UninstallTaskRecord → UninstallTaskRecord}

theorem rows_of_checked {rows : List UninstallTaskRecord} (h : checked rows = some t) :
    t.rows = rows := by
  unfold checked at h
  split at h
  · cases h
    rfl
  · cases h

/-- `GetByID`. -/
def getByID (t : TaskTable) (id : Int) : Option UninstallTaskRecord :=
  Table.lookup (fun r : UninstallTaskRecord => r.id) id t.rows

/-- `HasActive`. -/
def hasActive (t : TaskTable) (clusterID : Int) : Bool :=
  t.rows.any fun r => r.clusterID = clusterID && r.status.isActive

/-- The outcome of a write. -/
inductive Outcome where
  | written (t : TaskTable)
  /-- `ErrConflict`: no row matches. -/
  | conflict
  /-- A unique index refuses the write. -/
  | violation

/-- `Create` of a task for a cluster, with its defaults. -/
def create (t : TaskTable) (clusterID id : Int) (now : Time) : Option TaskTable :=
  checked (t.rows ++
    [{ id := id, clusterID := clusterID, status := .pending, createdAt := now, attempts := 1
       requestedAt := now }])

/-- An `UPDATE … WHERE id = ? AND status = ?`. -/
def updateFrom (t : TaskTable) (id : Int) (expected : UninstallTaskStatus)
    (f : UninstallTaskRecord → UninstallTaskRecord) : Outcome :=
  match t.getByID id with
  | none => .conflict
  | some task =>
    if task.status = expected then
      match checked (Table.modify (fun r : UninstallTaskRecord => r.id) id f t.rows) with
      | some t' => .written t'
      | none => .violation
    else .conflict

/-- The columns that `Transition` writes. -/
def transitioned (next : UninstallTaskStatus) (message : String) (now : Time)
    (task : UninstallTaskRecord) : UninstallTaskRecord :=
  { task with
    status := next
    error := message
    receivedAt := if next = .received then some now else task.receivedAt
    completedAt := if next = .succeeded ∨ next = .failed then some now else task.completedAt }

def transition (t : TaskTable) (id : Int) (expected next : UninstallTaskStatus) (message : String)
    (now : Time) : Outcome :=
  t.updateFrom id expected (transitioned next message now)

/-- The columns that `Retry` writes. -/
def requeued (now : Time) (task : UninstallTaskRecord) : UninstallTaskRecord :=
  { task with
    status := .pending
    error := ""
    requestedAt := now
    receivedAt := none
    completedAt := none
    attempts := task.attempts + 1 }

def retry (t : TaskTable) (id : Int) (now : Time) : Outcome :=
  t.updateFrom id .failed (requeued now)

theorem mem_of_getByID (h : t.getByID id = some task) : task ∈ t.rows ∧ task.id = id :=
  lookup_some h

theorem getByID_of_mem (h : task ∈ t.rows) : t.getByID task.id = some task :=
  lookup_of_mem t.ids_nodup h

theorem rows_of_create {clusterID : Int} {now : Time} (h : t.create clusterID id now = some t') :
    t'.rows = t.rows ++
      [{ id := id, clusterID := clusterID, status := .pending, createdAt := now, attempts := 1
         requestedAt := now }] :=
  rows_of_checked h

/-- A conditional update that went through found its row in the expected
status. -/
theorem updateFrom_written (h : t.updateFrom id expected f = .written t') :
    ∃ task, t.getByID id = some task ∧ task.status = expected ∧
      t'.rows = Table.modify (fun r : UninstallTaskRecord => r.id) id f t.rows := by
  unfold updateFrom at h
  cases htask : t.getByID id with
  | none =>
    rw [htask] at h
    cases h
  | some task =>
    rw [htask] at h
    dsimp only at h
    by_cases hstatus : task.status = expected
    · rw [if_pos hstatus] at h
      refine ⟨task, rfl, hstatus, ?_⟩
      split at h
      · rename_i t'' hchecked
        cases h
        exact rows_of_checked hchecked
      · cases h
    · rw [if_neg hstatus] at h
      cases h

/-- What a conditional update does to a row of the table. -/
theorem updateFrom_row (h : t.updateFrom id expected f = .written t') (hmem : task ∈ t.rows) :
    (task.id ≠ id ∧ task ∈ t'.rows) ∨
      (task.id = id ∧ task.status = expected ∧ f task ∈ t'.rows) := by
  obtain ⟨found, hfound, hstatus, hrows⟩ := updateFrom_written h
  have hrow : (if task.id = id then f task else task) ∈ t'.rows := by
    rw [hrows]
    exact mem_modify.mpr ⟨task, hmem, rfl⟩
  by_cases hid : task.id = id
  · rw [if_pos hid] at hrow
    have hsame : some task = some found := by
      rw [← hfound, ← hid]
      exact (getByID_of_mem hmem).symm
    cases hsame
    exact .inr ⟨hid, hstatus, hrow⟩
  · rw [if_neg hid] at hrow
    exact .inl ⟨hid, hrow⟩

/-- A conditional update adds no row. -/
theorem updateFrom_old (hid : ∀ r, (f r).id = r.id) (h : t.updateFrom id expected f = .written t')
    {task' : UninstallTaskRecord} (hmem : task' ∈ t'.rows) :
    ∃ task ∈ t.rows, task.id = task'.id := by
  obtain ⟨_, _, _, hrows⟩ := updateFrom_written h
  rw [hrows] at hmem
  obtain ⟨task, htask, heq⟩ := mem_modify.mp hmem
  refine ⟨task, htask, ?_⟩
  rw [heq]
  split
  · exact (hid task).symm
  · rfl

/-- Two active tasks of a cluster are the same one. -/
theorem active_unique (t : TaskTable) {task' : UninstallTaskRecord} (h : task ∈ t.rows)
    (h' : task' ∈ t.rows) (hactive : task.status.isActive = true)
    (hactive' : task'.status.isActive = true) (hcluster : task.clusterID = task'.clusterID) :
    task = task' :=
  List.inj_on_of_nodup_map t.active_nodup (List.mem_filter.mpr ⟨h, hactive⟩)
    (List.mem_filter.mpr ⟨h', hactive'⟩) hcluster

end TaskTable

end KubeSentry.Database
