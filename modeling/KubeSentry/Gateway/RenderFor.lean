import KubeSentry.Database.Rows
import KubeSentry.Gateway.RenderSpec

/-!
# `renderFor`

`Server.renderFor` of `internal/gateway/server.go` reads the rows, converts
them (`convert.go`) and renders one cluster's snapshot.  It also attaches the
cluster's uninstall tasks and the delivery configuration, and folds both into
the hash.

The repositories of exceptions, uninstall tasks, admission settings and
platform settings are optional in the server's configuration; `Repos` says
which of them are set.  The switches that `withAdmissionEventConfig` sets on
the server itself are left out: no snapshot depends on them.
-/

namespace KubeSentry.Gateway

open GoLib Database

/-! ## Row conversion -/

def toGatewayCluster (c : ClusterRow) : Cluster :=
  { name := c.name, labels := c.labels }

def toV1alpha1Policy (p : PolicyRow) : Policy :=
  { name := p.name, labels := p.labels, annotations := p.annotations
    spec :=
      { matching := p.matching, enforcementMode := p.enforcementMode
        rego := p.rego, description := p.description } }

def toV1alpha1Group (g : GroupRow) : PolicyGroup :=
  { name := g.name, labels := g.labels, annotations := g.annotations, spec := g.spec }

def toGatewayDist (d : DistributionRow) : PolicyDistribution :=
  { name := d.name, spec := d.spec }

def toV1alpha1Exception (e : ExceptionRow) : PolicyException :=
  { name := e.name, labels := e.labels, annotations := e.annotations, spec := e.spec }

/-- The condition of `distributionsForCluster`: the row belongs to the system
or to the cluster's tenant. -/
def visibleTo (tenantID : Option Nat) : Owner → Bool
  | .system => true
  | .tenant id => tenantID = some id

def distributionsForCluster (distributions : List DistributionRow) (tenantID : Option Nat) :
    List DistributionRow :=
  distributions.filter fun d => visibleTo tenantID d.owner

/-! ## Hashes -/

def toProtoUninstallTasks (tasks : List UninstallTaskRow) : List UninstallTask :=
  tasks.map fun t => { taskID := t.id, attempt := int32 t.attempts }

section

variable [Digest]

def hashWithUninstallTasks (base : String) (tasks : List UninstallTask) : String :=
  if tasks = [] then base
  else
    let parts := base :: tasks.map fun t => toString t.taskID ++ ":" ++ toString t.attempt
    Digest.sha256Hex (",".intercalate parts)

def hashWithAdmissionEventConfig (base : String) : Option AdmissionEventConfig → String
  | none => base
  | some config => Digest.sha256Hex (base ++ "," ++ Digest.marshalConfig config)

/-! ## The server -/

/-- The optional repositories that are configured. -/
structure Repos where
  exceptions : Bool := true
  uninstallTasks : Bool := true
  admission : Bool := true
  platform : Bool := true
  deriving DecidableEq

/-- `withAdmissionEventConfig`. -/
def withAdmissionEventConfig (repos : Repos) (faults : Faults) (db : Tables)
    (res : RenderResult) : Except String RenderResult :=
  if !repos.admission then .ok res
  else do
    let settings ← fetch faults .admissionGetSettings "get admission event settings: "
      db.admissionSettings
    let policies ← fetch faults .admissionListPolicies ""
      (orderBy (fun p => p.priority) db.storagePolicies)
    let platformObservationEnabled ←
      if repos.platform then
        fetch faults .platformGetSettings "get platform observability settings: "
          db.platformObservationEnabled
      else pure false
    let config : AdmissionEventConfig :=
      { version := toString settings.storagePolicyVersion
        defaultRetentionDays := int32 settings.defaultRetentionDays
        storagePolicies := policies.map fun p => { p with priority := int32 p.priority }
        retryEnabled := settings.retryEnabled
        maxRetryAttempts := int32 settings.maxRetryAttempts
        queueCapacity := int32 settings.queueCapacity
        observationEnabled := settings.observationEnabled
        platformObservationEnabled := platformObservationEnabled }
    .ok { res with
      admissionEventConfig := some config
      hash := hashWithAdmissionEventConfig res.hash (some config) }

/-- The row that `renderFor` works on: a missing cluster is an empty row. -/
def clusterRow (db : Tables) (cluster : String) : ClusterRow :=
  (db.clusters.find? fun c => c.name = cluster).getD { name := cluster }

/-- The rows that `renderFor` has read before it renders. -/
structure SnapshotRows where
  cl : ClusterRow
  dists : List DistributionRow
  groups : List GroupRow
  policies : List PolicyRow
  exceptions : List ExceptionRow

/-- The first half of `renderFor`: the reads, in order. -/
def readSnapshotRows [GoUnicode] (repos : Repos) (faults : Faults) (db : Tables)
    (cluster : String) : Except String SnapshotRows := do
  let cl ← fetch faults .clustersGetByName ("get cluster " ++ quote cluster ++ ": ")
    (clusterRow db cluster)
  let dists ← fetch faults .distributionsList "list policy distributions: " db.distributions
  let groups ← fetch faults .groupsList "list policy groups: " db.groups
  let policies ← fetch faults .policiesList "list policies: " db.policies
  let exceptions ←
    if repos.exceptions then
      fetch faults .exceptionsList "list policy exceptions: " db.exceptions
    else pure []
  return { cl, dists, groups, policies, exceptions }

/-- The last part of `renderFor`: the uninstall tasks and the configuration. -/
def attachTasks (repos : Repos) (faults : Faults) (db : Tables) (cl : ClusterRow)
    (res : RenderResult) : Except String RenderResult :=
  if !repos.uninstallTasks || cl.id = 0 then
    withAdmissionEventConfig repos faults db res
  else do
    let tasks ← fetch faults .uninstallTasksListActive
      ("list active uninstall tasks for cluster " ++ toString cl.id ++ ": ")
      (db.activeTasks cl.id)
    let tasks := toProtoUninstallTasks tasks
    withAdmissionEventConfig repos faults db
      { res with uninstallTasks := tasks, hash := hashWithUninstallTasks res.hash tasks }

variable [Apimachinery] [GoUnicode]

/-- The call of the renderer inside `renderFor`. -/
def renderRows (cl : ClusterRow) (dists : List DistributionRow) (groups : List GroupRow)
    (policies : List PolicyRow) (exceptions : List ExceptionRow) : RenderResult :=
  renderWithExceptions (toGatewayCluster cl) (dists.map toGatewayDist)
    (groups.map toV1alpha1Group) (policies.map toV1alpha1Policy)
    (exceptions.map toV1alpha1Exception)

/-- `renderFor`. -/
def renderFor (repos : Repos) (faults : Faults) (db : Tables) (cluster : String) :
    Except String RenderResult := do
  let rows ← readSnapshotRows repos faults db cluster
  let res := renderRows rows.cl (distributionsForCluster rows.dists rows.cl.tenantID)
    rows.groups rows.policies rows.exceptions
  attachTasks repos faults db rows.cl res

end

/-! ## Runs without and with failing reads -/

variable (repos : Repos)

/-- The exception rows that a server with these repositories sees. -/
def readExceptions (exceptions : List ExceptionRow) : List ExceptionRow :=
  if repos.exceptions then exceptions else []

/-- The rows that the reads return when none of them fails. -/
def snapshotRows (db : Tables) (cluster : String) : SnapshotRows where
  cl := clusterRow db cluster
  dists := db.distributions
  groups := db.groups
  policies := db.policies
  exceptions := readExceptions repos db.exceptions

/-- Whether the reads fail does not depend on the database content. -/
theorem uniform_readSnapshotRows [GoUnicode] (faults : Faults) (cluster : String) :
    Uniform (fun db => readSnapshotRows repos faults db cluster)
      (fun db => snapshotRows repos db cluster) := by
  refine (uniform_fetch faults _ _ fun db => clusterRow db cluster).bind ?_
  refine (uniform_fetch faults _ _ fun db => db.distributions).bind ?_
  refine (uniform_fetch faults _ _ fun db => db.groups).bind ?_
  refine (uniform_fetch faults _ _ fun db => db.policies).bind ?_
  cases hexceptions : repos.exceptions with
  | true =>
    refine (uniform_fetch faults _ _ fun db => db.exceptions).bind ?_
    simp only [snapshotRows, readExceptions, hexceptions]
    exact .inr fun _ => rfl
  | false =>
    simp only [snapshotRows, readExceptions, hexceptions]
    exact .inr fun _ => rfl

variable [Digest] [Apimachinery] [GoUnicode]

/-- The snapshot of a database before tasks and configuration are attached. -/
def baseSnapshot (db : Tables) (cluster : String) : RenderResult :=
  renderRows (clusterRow db cluster)
    (distributionsForCluster db.distributions (clusterRow db cluster).tenantID)
    db.groups db.policies (readExceptions repos db.exceptions)

/-- A run of `renderFor` fails before it has rendered, for every content alike,
or renders the base snapshot and attaches the rest. -/
theorem renderFor_cases (faults : Faults) (cluster : String) :
    (∃ err, ∀ db, renderFor repos faults db cluster = .error err) ∨
      ∀ db, renderFor repos faults db cluster =
        attachTasks repos faults db (clusterRow db cluster) (baseSnapshot repos db cluster) := by
  rcases uniform_readSnapshotRows repos faults cluster with ⟨err, herr⟩ | hok
  · left
    refine ⟨err, fun db => ?_⟩
    have hread : readSnapshotRows repos faults db cluster = .error err := herr db
    rw [renderFor, hread]
    rfl
  · right
    intro db
    have hread : readSnapshotRows repos faults db cluster =
        .ok (snapshotRows repos db cluster) := hok db
    rw [renderFor, hread]
    rfl

omit [Apimachinery] [GoUnicode] in
/-- The configuration and the tasks leave the object list alone. -/
theorem attachTasks_objects (db : Tables) (cl : ClusterRow) (res : RenderResult) :
    ∃ res', attachTasks repos (fun _ => none) db cl res = .ok res' ∧
      res'.objects = res.objects := by
  have hconfig : ∀ res : RenderResult,
      ∃ res', withAdmissionEventConfig repos (fun _ => none) db res = .ok res' ∧
        res'.objects = res.objects := by
    intro res
    rw [withAdmissionEventConfig]
    cases repos.admission with
    | false => exact ⟨res, rfl, rfl⟩
    | true => cases repos.platform <;> exact ⟨_, rfl, rfl⟩
  rw [attachTasks]
  split
  · exact hconfig res
  · exact hconfig _

variable {repos : Repos} {db : Tables}

omit [Apimachinery] [GoUnicode] in
theorem withAdmissionEventConfig_objects {faults : Faults} {res res' : RenderResult}
    (h : withAdmissionEventConfig repos faults db res = .ok res') : res'.objects = res.objects := by
  unfold withAdmissionEventConfig at h
  split at h
  · cases h
    rfl
  · obtain ⟨settings, _, h⟩ := bind_ok h
    obtain ⟨policies, _, h⟩ := bind_ok h
    split at h
    · obtain ⟨enabled, _, h⟩ := bind_ok h
      cases h
      rfl
    · cases h
      rfl

/-- Whatever `renderFor` returns has the objects of the base snapshot. -/
theorem renderFor_objects_of_ok {faults : Faults} {cluster : String} {res : RenderResult}
    (h : renderFor repos faults db cluster = .ok res) :
    res.objects = (baseSnapshot repos db cluster).objects := by
  rcases renderFor_cases repos faults cluster with ⟨err, herr⟩ | hok
  · rw [herr] at h
    cases h
  · rw [hok, attachTasks] at h
    split at h
    · exact withAdmissionEventConfig_objects h
    · obtain ⟨tasks, _, h⟩ := bind_ok h
      have hobjects := withAdmissionEventConfig_objects h
      exact hobjects

/-- With no failing read `renderFor` returns the base snapshot's objects. -/
theorem renderFor_objects (repos : Repos) (db : Tables) (cluster : String) :
    ∃ res, renderFor repos (fun _ => none) db cluster = .ok res ∧
      res.objects = (baseSnapshot repos db cluster).objects := by
  have hread : readSnapshotRows repos (fun _ => none) db cluster =
      .ok (snapshotRows repos db cluster) := by
    rw [readSnapshotRows, snapshotRows, readExceptions]
    cases repos.exceptions <;> rfl
  rw [renderFor, hread]
  exact attachTasks_objects repos db (clusterRow db cluster) (baseSnapshot repos db cluster)

/-- `renderFor` depends on the groups and exceptions through the base snapshot
only. -/
theorem renderFor_congr {db' : Tables} {cluster : String}
    (hcluster : clusterRow db' cluster = clusterRow db cluster)
    (hsettings : db'.admissionSettings = db.admissionSettings)
    (hstorage : db'.storagePolicies = db.storagePolicies)
    (hplatform : db'.platformObservationEnabled = db.platformObservationEnabled)
    (htasks : db'.activeTasks (clusterRow db cluster).id =
      db.activeTasks (clusterRow db cluster).id)
    (hbase : baseSnapshot repos db' cluster = baseSnapshot repos db cluster) (faults : Faults) :
    renderFor repos faults db' cluster = renderFor repos faults db cluster := by
  rcases renderFor_cases repos faults cluster with ⟨err, herr⟩ | hok
  · rw [herr, herr]
  · rw [hok, hok, hcluster, hbase]
    simp only [attachTasks, withAdmissionEventConfig, hsettings, hstorage, hplatform, htasks]

end KubeSentry.Gateway
