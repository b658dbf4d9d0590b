import KubeSentry.Database.Clusters
import KubeSentry.GoLib.Interleave

/-!
# The operations on a cluster

What the gateway and the console do to cluster rows and uninstall tasks, as
programs of repository calls: `Register`, `flushOnce` and
`handleUninstallTaskReport` of the gateway, and `CreateUninstall`,
`RetryUninstall` and `ReissueToken` of the console.  Between two calls of one
operation any other operation may make its own.  A transaction is one call, since
nobody sees it half done, and any call may fail.

The time, the heartbeats in memory, new ids and new tokens come with the call
that uses them or that comes right before their use.

`HubState.history` is a ghost: what the writes meant to change, which tokens were
issued and used, and which tasks were requeued.

Left out are change notifications, the audit incident of a refused token, and the
install record of a reissue, which nothing here reads.
-/

namespace KubeSentry.Cluster

open GoLib Database Gateway

/-! ## State -/

/-- Something that the operations have done. -/
inductive HubEvent where
  /-- A write meant to set these columns. -/
  | wrote (clusterID : Int) (columns : ClusterColumns)
  /-- A registration token was handed out. -/
  | issued (token : String)
  /-- A `Register` call with this token succeeded. -/
  | registered (token : String)
  /-- A task went back to Pending. -/
  | retried (taskID : Int)
  deriving DecidableEq

structure HubState where
  clusters : ClusterTable
  tasks : TaskTable
  history : List HubEvent := []

/-- `ClusterInventory`. -/
structure ClusterInventory where
  kubernetesVersion : String := ""
  apiServerAddress : String := ""
  nodeCount : Int := 0
  readyNodeCount : Int := 0
  deriving DecidableEq

/-- What `flushOnce` reads of a `HeartbeatInfo`. -/
structure HeartbeatInfo where
  lastSeen : Time
  operatorVersion : String := ""
  inventory : Option ClusterInventory := none
  deriving DecidableEq

/-- What the environment decides about a call: the error of the driver, if any,
the time, the result of `model.NewID`, the result of `NewToken`, and the
heartbeats in memory. -/
structure CallInput where
  fault : Option String := none
  now : Time := 0
  newID : Int := 0
  newToken : Except String String := .error "no entropy"
  heartbeats : GoMap HeartbeatInfo := ∅

abbrev HubProg (R : Type) := Prog HubState CallInput R

/-- The errors of the repositories. -/
inductive RepoError where
  /-- `gorm.ErrRecordNotFound`, with the text of the wrapped error. -/
  | notFound (text : String)
  /-- `ErrConflict`. -/
  | conflict
  | failed (text : String)
  deriving DecidableEq

def RepoError.text : RepoError → String
  | .notFound text => text
  | .conflict => "conflict"
  | .failed text => text

/-! ## Repository calls -/

namespace HubState

/-- A column-scoped update. -/
def updates (s : HubState) (id : Int) (w : ClusterColumns) : HubState :=
  { s with clusters := s.clusters.updates id w, history := s.history ++ [.wrote id w] }

def setTasks (s : HubState) (tasks : TaskTable) : HubState :=
  { s with tasks := tasks }

def record (s : HubState) (e : HubEvent) : HubState :=
  { s with history := s.history ++ [e] }

end HubState

section

variable [GoUnicode]

def getByName (name : String) : HubProg (Except RepoError ClusterRecord) :=
  .read fun s i =>
    let context := "get cluster " ++ quote name ++ ": "
    match i.fault with
    | some err => .error (.failed (context ++ err))
    | none =>
      match s.clusters.getByName name with
      | none => .error (.notFound (context ++ "record not found"))
      | some cl => .ok cl

end

def listClusters : HubProg (Except RepoError (List ClusterRecord)) :=
  .read fun s i =>
    match i.fault with
    | some err => .error (.failed ("list clusters: " ++ err))
    | none => .ok s.clusters.rows

variable (id : Int)

/-- `Updates` of some columns of a cluster. -/
def updateCluster (w : ClusterColumns) : HubProg (Except RepoError Unit) :=
  .atomic fun s i =>
    match i.fault with
    | some err => (s, .error (.failed err))
    | none => (s.updates id w, .ok ())

/-- The columns of `UpdateHeartbeat`. -/
def heartbeatColumns (phase : ClusterPhase) (lastHeartbeatAt : Option Time)
    (operatorVersion : String) : ClusterColumns where
  phase := some phase
  lastHeartbeatAt := some lastHeartbeatAt
  operatorVersion := some operatorVersion

def updateHeartbeat (phase : ClusterPhase) (lastHeartbeatAt : Option Time)
    (operatorVersion : String) : HubProg (Except RepoError Unit) :=
  updateCluster id (heartbeatColumns phase lastHeartbeatAt operatorVersion)

/-- The columns of `UpdateInventory`: nothing that is empty, and the node counts
only together. -/
def inventoryColumns (inv : ClusterInventory) : ClusterColumns where
  kubernetesVersion := if inv.kubernetesVersion = "" then none else some inv.kubernetesVersion
  apiServerAddress := if inv.apiServerAddress = "" then none else some inv.apiServerAddress
  nodeCount := if 0 < inv.nodeCount then some inv.nodeCount else none
  readyNodeCount := if 0 < inv.nodeCount then some inv.readyNodeCount else none

def updateInventory (inv : ClusterInventory) : HubProg (Except RepoError Unit) :=
  if inventoryColumns inv = {} then .ret (.ok ())
  else updateCluster id (inventoryColumns inv)

def updateLabels (labels : Labels) : HubProg (Except RepoError Unit) :=
  updateCluster id { labels := some labels }

def updateRegToken (hash : String) : HubProg (Except RepoError Unit) :=
  updateCluster id { regTokenHash := some hash }

def updatePhase (phase : ClusterPhase) : HubProg (Except RepoError Unit) :=
  updateCluster id { phase := some phase }

def assignTenant (tenantID : Option Nat) : HubProg (Except RepoError Unit) :=
  updateCluster id { tenantID := some tenantID }

def getTask : HubProg (Except RepoError UninstallTaskRecord) :=
  .read fun s i =>
    let context := "get uninstall task " ++ toString id ++ ": "
    match i.fault with
    | some err => .error (.failed (context ++ err))
    | none =>
      match s.tasks.getByID id with
      | none => .error (.notFound (context ++ "record not found"))
      | some task => .ok task

def hasActive (clusterID : Int) : HubProg (Except RepoError Bool) :=
  .read fun s i =>
    match i.fault with
    | some err => .error (.failed ("count active uninstall tasks: " ++ err))
    | none => .ok (s.tasks.hasActive clusterID)

/-- The violation of a unique index, as the driver reports it. -/
def uniqueViolation : RepoError :=
  .failed "duplicate key value violates unique constraint"

def transitionTask (expected next : UninstallTaskStatus) (message : String) :
    HubProg (Except RepoError Unit) :=
  .atomic fun s i =>
    match i.fault with
    | some err => (s, .error (.failed err))
    | none =>
      match s.tasks.transition id expected next message i.now with
      | .written tasks => (s.setTasks tasks, .ok ())
      | .conflict => (s, .error .conflict)
      | .violation => (s, .error uniqueViolation)

/-! ## The heartbeat flush -/

/-- The row that `flushOnce` wants to write for a row of its list, if any.  Rows
that an uninstall task owns are skipped. -/
def flushed (offlineAfter : Int) (now : Time) (info : Option HeartbeatInfo) (cl : ClusterRecord) :
    Option ClusterRecord :=
  let offline := if cl.phase = .online then some { cl with phase := .offline } else none
  if cl.phase.Removing then none
  else
    match info with
    | some info =>
      if now - info.lastSeen ≤ offlineAfter then
        some { cl with
          phase := .online
          lastHeartbeatAt := some info.lastSeen
          operatorVersion := info.operatorVersion }
      else offline
    | none => offline

/-- The writes for one row; the result is whether the loop goes on. -/
def flushRow (offlineAfter : Int) (now : Time) (heartbeats : GoMap HeartbeatInfo)
    (cl : ClusterRecord) : HubProg Bool :=
  match flushed offlineAfter now heartbeats[cl.name]? cl with
  | none => pure true
  | some cl' => do
    match ← updateHeartbeat cl.id cl'.phase cl'.lastHeartbeatAt cl'.operatorVersion with
    | .error _ => pure false
    | .ok () =>
      match heartbeats[cl.name]?.bind fun info => info.inventory with
      | none => pure true
      | some inv =>
        match ← updateInventory cl.id inv with
        | .error _ => pure false
        | .ok () => pure true

def flushOnce (offlineAfter : Int) : HubProg Unit := do
  match ← listClusters with
  | .error _ => pure ()
  | .ok all =>
    let (heartbeats, now) ← Prog.read fun _ i => (i.heartbeats, i.now)
    Prog.forWhile (flushRow offlineAfter now heartbeats) all

/-! ## Registration -/

section

variable [Digest]

/-- `gatewayauth.HashToken`. -/
def hashToken (token : String) : String :=
  Digest.sha256Hex token

structure RegisterRequest where
  clusterName : String
  registrationToken : String
  clusterUID : String
  operatorVersion : String := ""
  deriving DecidableEq

/-- The gRPC codes of `Register`. -/
inductive Code where
  | invalidArgument
  | notFound
  | internal
  | failedPrecondition
  | permissionDenied
  | alreadyExists
  deriving DecidableEq

structure Status where
  code : Code
  message : String
  deriving DecidableEq

variable (req : RegisterRequest)

/-- The columns that a registration sets.  The phase is set only if there is none
yet, or it is Registering already. -/
def registeredColumns (cl : ClusterRecord) (token : String) : ClusterColumns where
  authTokenHash := some (hashToken token)
  clusterUID := some req.clusterUID
  operatorVersion := some req.operatorVersion
  phase := if cl.phase = .unset ∨ cl.phase = .registering then some .registering else none
  regTokenHash := some ""

/-- The row that `Register` saves: the row it has read, with these columns
set. -/
def registered (cl : ClusterRecord) (token : String) : ClusterRecord :=
  (registeredColumns req cl token).apply cl

/-- The effect of the final `Update` of `Register`. -/
def HubState.saveRegistration (s : HubState) (req : RegisterRequest) (cl : ClusterRecord)
    (token : String) : Option HubState :=
  (s.clusters.save (registered req cl token)).map fun clusters =>
    { s with
      clusters := clusters
      history := s.history ++
        [.wrote cl.id (registeredColumns req cl token), .registered req.registrationToken] }

/-- `NewToken` and the final `Update`. -/
def saveRegistration (cl : ClusterRecord) : HubProg (Except Status String) :=
  .atomic fun s i =>
    match i.newToken with
    | .error err => (s, .error ⟨.internal, "issue token: generate token: " ++ err⟩)
    | .ok token =>
      match i.fault with
      | some err => (s, .error ⟨.internal, "update cluster: " ++ err⟩)
      | none =>
        match s.saveRegistration req cl token with
        | none => (s, .error ⟨.internal, "update cluster: " ++ uniqueViolation.text⟩)
        | some s' => (s', .ok token)

/-- `Register`. -/
def register [GoUnicode] : HubProg (Except Status String) := do
  if req.clusterName = "" ∨ req.registrationToken = "" ∨ req.clusterUID = "" then
    pure (.error ⟨.invalidArgument,
      "cluster_name, registration_token and cluster_uid are required"⟩)
  else
    match ← getByName req.clusterName with
    | .error (.notFound _) => pure (.error ⟨.notFound, "cluster not registered on gateway"⟩)
    | .error err => pure (.error ⟨.internal, "get cluster: " ++ err.text⟩)
    | .ok cl =>
      if cl.phase.Removing then
        pure (.error ⟨.failedPrecondition,
          "cluster is being uninstalled or has been uninstalled"⟩)
      else if cl.regTokenHash ≠ hashToken req.registrationToken then
        pure (.error ⟨.permissionDenied, "invalid registration token"⟩)
      else
        match ← listClusters with
        | .error err => pure (.error ⟨.internal, "list clusters: " ++ err.text⟩)
        | .ok all =>
          match all.find? fun other =>
              other.name ≠ req.clusterName && other.clusterUID = req.clusterUID with
          | some other =>
            pure (.error ⟨.alreadyExists,
              "cluster UID already registered as " ++ quote other.name⟩)
          | none =>
            if cl.clusterUID ≠ "" ∧ cl.clusterUID ≠ req.clusterUID then
              pure (.error ⟨.permissionDenied,
                "cluster UID does not match previously registered identity"⟩)
            else saveRegistration req cl

/-! ## The console -/

/-- The errors of the console services. -/
inductive ServiceError where
  | forbidden
  | notFound
  | conflict (message : String)
  | failed (text : String)
  deriving DecidableEq

/-- The transaction of `ReissueToken`. -/
def HubState.issueToken (s : HubState) (id : Int) (token : String) : HubState :=
  (s.updates id { regTokenHash := some (hashToken token) }).record (.issued token)

def issueToken (id : Int) : HubProg (Except ServiceError String) :=
  .atomic fun s i =>
    match i.newToken with
    | .error err => (s, .error (.failed ("generate token: generate token: " ++ err)))
    | .ok token =>
      match i.fault with
      | some err => (s, .error (.failed ("reissue token: " ++ err)))
      | none => (s.issueToken id token, .ok token)

/-- `ReissueToken`, with install parameters that are valid. -/
def reissueToken [GoUnicode] (systemAdmin : Bool) (name : String) :
    HubProg (Except ServiceError String) := do
  if systemAdmin = false then pure (.error .forbidden)
  else
    match ← getByName name with
    | .error (.notFound _) => pure (.error .notFound)
    | .error err => pure (.error (.failed ("get cluster: " ++ err.text)))
    | .ok cl =>
      if cl.phase ≠ .registering then
        pure (.error (.conflict "token can only be reissued while the cluster is Registering"))
      else issueToken cl.id

end

structure UninstallTaskView where
  id : Int
  status : UninstallTaskStatus
  requestedAt : Time
  deriving DecidableEq

/-- The effect of the transaction of `CreateUninstall`. -/
def HubState.createTask (s : HubState) (clusterID id : Int) (now : Time) : Option HubState :=
  (s.tasks.create clusterID id now).map fun tasks =>
    (s.setTasks tasks).updates clusterID { phase := some .uninstalling }

def createTask (clusterID : Int) : HubProg (Except ServiceError UninstallTaskView) :=
  .atomic fun s i =>
    match i.fault with
    | some err => (s, .error (.failed ("create uninstall task: " ++ err)))
    | none =>
      match s.createTask clusterID i.newID i.now with
      | none => (s, .error (.failed ("create uninstall task: " ++ uniqueViolation.text)))
      | some s' => (s', .ok { id := i.newID, status := .pending, requestedAt := i.now })

/-- The effect of the transaction of `RetryUninstall`. -/
def HubState.retryTask (s : HubState) (clusterID taskID : Int) (tasks : TaskTable) : HubState :=
  ((s.setTasks tasks).updates clusterID { phase := some .uninstalling }).record (.retried taskID)

def retryTask (clusterID taskID : Int) : HubProg (Except ServiceError Unit) :=
  .atomic fun s i =>
    match i.fault with
    | some err => (s, .error (.failed ("retry uninstall task: " ++ err)))
    | none =>
      match s.tasks.retry taskID i.now with
      | .written tasks => (s.retryTask clusterID taskID tasks, .ok ())
      | .conflict => (s, .error (.conflict "only a failed uninstall task can be retried"))
      | .violation =>
        (s, .error (.failed ("retry uninstall task: " ++ uniqueViolation.text)))

variable [GoUnicode]

/-- `CreateUninstall`. -/
def createUninstall (systemAdmin : Bool) (name : String) :
    HubProg (Except ServiceError UninstallTaskView) := do
  if systemAdmin = false then pure (.error .forbidden)
  else
    match ← getByName name with
    | .error (.notFound _) => pure (.error .notFound)
    | .error err => pure (.error (.failed err.text))
    | .ok cl =>
      if cl.phase ≠ .online then
        pure (.error (.conflict "only an online cluster can be uninstalled"))
      else
        match ← hasActive cl.id with
        | .error err => pure (.error (.failed ("check uninstall task: " ++ err.text)))
        | .ok true => pure (.error (.conflict "cluster already has an active uninstall task"))
        | .ok false => createTask cl.id

/-- `RetryUninstall`. -/
def retryUninstall (systemAdmin : Bool) (name : String) (taskID : Int) :
    HubProg (Except ServiceError Unit) := do
  if systemAdmin = false then pure (.error .forbidden)
  else
    match ← getByName name with
    | .error (.notFound _) => pure (.error .notFound)
    | .error err => pure (.error (.failed err.text))
    | .ok cl =>
      match ← getTask taskID with
      | .error _ => pure (.error .notFound)
      | .ok task =>
        if task.clusterID ≠ cl.id then pure (.error .notFound)
        else retryTask cl.id taskID

/-! ## Reports of the member -/

/-- `UninstallTaskReport.State`. -/
inductive ReportState where
  | unspecified
  | received
  | succeeded
  | failed
  deriving DecidableEq

structure UninstallTaskReport where
  taskID : Int
  state : ReportState
  error : String := ""
  deriving DecidableEq

/-- The expected and the next status for a report. -/
def ReportState.move : ReportState → Option (UninstallTaskStatus × UninstallTaskStatus)
  | .unspecified => none
  | .received => some (.pending, .received)
  | .succeeded => some (.received, .succeeded)
  | .failed => some (.received, .failed)

/-- The phase that a cluster gets after a task has moved on. -/
def ReportState.phase : ReportState → Option ClusterPhase
  | .unspecified => none
  | .received => none
  | .succeeded => some .uninstalled
  | .failed => some .online

/-- `handleUninstallTaskReport`.  A failed self-uninstall brings the cluster back
to Online. -/
def handleUninstallTaskReport (clusterName : String) (report : UninstallTaskReport) :
    HubProg Unit := do
  if report.taskID = 0 then pure ()
  else
    match ← getByName clusterName with
    | .error _ => pure ()
    | .ok cl =>
      match ← getTask report.taskID with
      | .error _ => pure ()
      | .ok task =>
        if task.clusterID ≠ cl.id then pure ()
        else
          match report.state.move with
          | none => pure ()
          | some (expected, next) =>
            match ← transitionTask task.id expected next report.error with
            | .error _ => pure ()
            | .ok () =>
              match report.state.phase with
              | none => pure ()
              | some phase =>
                let _ ← updatePhase cl.id phase
                pure ()

end KubeSentry.Cluster
