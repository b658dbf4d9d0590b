import KubeSentry.Gateway.Render

/-!
# Database rows and repository reads

The tables that `renderFor` reads, as `internal/database/repository` returns
them, and the uniqueness that the migrations put on them.  A table is the list
of its live rows in the order a query returns them.  No query of this file
asks for an order except where noted, so any list order is a database state.

`owner_type` and `tenant_id` are one field here: the schema's CHECK makes the
tenant id present exactly when the owner is a tenant.

A repository call may fail for reasons outside the database content.  `Faults`
says which calls fail and with what text.
-/

namespace KubeSentry.Database

open GoLib

/-! ## Rows -/

/-- The owner columns of a row. -/
inductive Owner where
  | system
  | tenant (id : Nat)
  deriving DecidableEq, Repr

/-- `COALESCE(tenant_id, 0)`. -/
def Owner.key : Owner → Nat
  | .system => 0
  | .tenant id => id

structure ClusterRow where
  id : Int := 0
  tenantID : Option Nat := none
  name : String
  labels : Labels := ∅
  deriving DecidableEq

structure PolicyRow where
  name : String
  labels : Labels := ∅
  annotations : Labels := ∅
  matching : PolicyMatch := {}
  enforcementMode : EnforcementMode := .unset
  rego : String := ""
  description : String := ""
  deriving DecidableEq

structure GroupRow where
  owner : Owner
  name : String
  spec : PolicyGroupSpec := {}
  labels : Labels := ∅
  annotations : Labels := ∅
  deriving DecidableEq

structure ExceptionRow where
  owner : Owner
  name : String
  spec : PolicyExceptionSpec := {}
  labels : Labels := ∅
  annotations : Labels := ∅
  deriving DecidableEq

structure DistributionRow where
  owner : Owner
  name : String
  spec : Gateway.PolicyDistributionSpec := {}
  deriving DecidableEq

/-- The states of an uninstall task. -/
inductive UninstallTaskStatus where
  | pending
  | received
  | running
  | finished (text : String)
  deriving DecidableEq, Repr

structure UninstallTaskRow where
  id : Int
  clusterID : Int
  status : UninstallTaskStatus
  createdAt : Time
  attempts : Int
  deriving DecidableEq

structure AdmissionEventSettings where
  defaultRetentionDays : Int := 14
  retryEnabled : Bool := false
  maxRetryAttempts : Int := 3
  queueCapacity : Int := 1024
  storagePolicyVersion : Int := 1
  observationEnabled : Bool := false
  deriving DecidableEq

/-- The tables behind `renderFor`.  The two settings tables hold one row each,
which their migrations insert. -/
structure Tables where
  clusters : List ClusterRow := []
  policies : List PolicyRow := []
  groups : List GroupRow := []
  exceptions : List ExceptionRow := []
  distributions : List DistributionRow := []
  uninstallTasks : List UninstallTaskRow := []
  admissionSettings : AdmissionEventSettings := {}
  storagePolicies : List AdmissionStoragePolicy := []
  platformObservationEnabled : Bool := false
  deriving DecidableEq

/-- The unique indexes of the schema.  Groups, exceptions and distributions
are unique per owner only. -/
structure Tables.Valid (db : Tables) : Prop where
  clusterNames : (db.clusters.map fun c => c.name).Nodup
  policyNames : (db.policies.map fun p => p.name).Nodup
  groupKeys : (db.groups.map fun g => (g.owner.key, g.name)).Nodup
  exceptionKeys : (db.exceptions.map fun e => (e.owner.key, e.name)).Nodup
  distributionKeys : (db.distributions.map fun d => (d.owner.key, d.name)).Nodup

/-! ## Reads -/

/-- The repository calls of `renderFor`. -/
inductive RepoCall where
  | clustersGetByName
  | distributionsList
  | groupsList
  | policiesList
  | exceptionsList
  | uninstallTasksListActive
  | admissionGetSettings
  | admissionListPolicies
  | platformGetSettings
  deriving DecidableEq, Repr

/-- The calls that fail, with the text of the driver's error. -/
abbrev Faults := RepoCall → Option String

/-- A read that wraps the driver's error in the repository's own text. -/
def fetch {A : Type} (faults : Faults) (call : RepoCall) (context : String) (rows : A) :
    Except String A :=
  match faults call with
  | some err => .error (context ++ err)
  | none => .ok rows

/-- A read that returns has returned the rows. -/
theorem fetch_ok {A : Type} {faults : Faults} {call : RepoCall} {context : String} {rows a : A}
    (h : fetch faults call context rows = .ok a) : a = rows := by
  unfold fetch at h
  split at h
  · cases h
  · cases h
    rfl

/-- Two actions in sequence return only if both do. -/
theorem bind_ok {E A B : Type} {action : Except E A} {next : A → Except E B} {b : B}
    (h : (action >>= next) = .ok b) : ∃ a, action = .ok a ∧ next a = .ok b := by
  cases action with
  | error err => cases h
  | ok a => exact ⟨a, rfl, h⟩

/-- A read whose failure does not depend on what the database holds. -/
def Uniform {A : Type} (action : Tables → Except String A) (value : Tables → A) : Prop :=
  (∃ err, ∀ db, action db = .error err) ∨ ∀ db, action db = .ok (value db)

theorem uniform_fetch {A : Type} (faults : Faults) (call : RepoCall) (context : String)
    (rows : Tables → A) : Uniform (fun db => fetch faults call context (rows db)) rows := by
  cases h : faults call with
  | some err =>
    left
    refine ⟨context ++ err, fun db => ?_⟩
    show fetch faults call context (rows db) = _
    rw [fetch, h]
  | none =>
    right
    intro db
    show fetch faults call context (rows db) = _
    rw [fetch, h]

/-- Reads in sequence. -/
theorem Uniform.bind {A B : Type} {action : Tables → Except String A} {value : Tables → A}
    {next : A → Tables → Except String B} {value' : Tables → B} (h : Uniform action value)
    (hnext : Uniform (fun db => next (value db) db) value') :
    Uniform (fun db => action db >>= fun a => next a db) value' := by
  rcases h with ⟨err, herr⟩ | hok
  · left
    refine ⟨err, fun db => ?_⟩
    show (action db >>= fun a => next a db) = _
    rw [herr]
    rfl
  · rcases hnext with ⟨err, herr⟩ | hok'
    · left
      refine ⟨err, fun db => ?_⟩
      show (action db >>= fun a => next a db) = _
      rw [hok]
      exact herr db
    · right
      intro db
      show (action db >>= fun a => next a db) = _
      rw [hok]
      exact hok' db

/-- `Order(key ASC)`: equal keys stay in table order. -/
def orderBy {A : Type} (key : A → Int) (rows : List A) : List A :=
  rows.insertionSort fun a b => key a ≤ key b

/-- The rows of `ListActiveByClusterID`. -/
def Tables.activeTasks (db : Tables) (clusterID : Int) : List UninstallTaskRow :=
  orderBy (fun t => t.createdAt) (db.uninstallTasks.filter fun t =>
    t.clusterID = clusterID ∧
      (t.status = .pending ∨ t.status = .received ∨ t.status = .running))

end KubeSentry.Database
