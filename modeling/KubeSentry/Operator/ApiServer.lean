import KubeSentry.Api.Types

/-!
# The API server of a member cluster

The operator keeps its state in custom resources.  This file is the part of
the Kubernetes API server that its calls rely on: a store per kind, and what
create, update, status update and delete do to it.

* A create stamps the creation time and generation 1, and drops the status:
  the resources have a status subresource.
* An update replaces metadata and spec, keeps the status, and raises the
  generation when the spec changes.
* A delete removes an object without finalizers and marks one with finalizers.

A call may also fail for reasons of its own; `ApiFaults` says which ones do.
A read and the write that follows it are one step here.  The server's
optimistic locking rejects a write whose object has changed since the read, so
an interleaving is a fault of the write.  Stored times keep their full
precision.
-/

namespace KubeSentry.Operator

open GoLib

/-- The kinds that the operator manages. -/
inductive ApiKind where
  | policy
  | policyGroup
  | policyException
  deriving DecidableEq, Repr

inductive ApiVerb where
  | get
  | list
  | create
  | update
  | updateStatus
  | delete
  deriving DecidableEq, Repr

/-- A call to the API server; a list has no name. -/
structure ApiCall where
  verb : ApiVerb
  kind : ApiKind
  name : String := ""
  deriving DecidableEq

/-- The calls that fail, with the text of the error. -/
abbrev ApiFaults := ApiCall → Option String

/-- The objects of a member cluster. -/
structure Member where
  policies : GoMap Policy := ∅
  groups : GoMap PolicyGroup := ∅
  exceptions : GoMap PolicyException := ∅

/-! ## One resource type -/

/-- How the server reads and writes objects of type `T` with specs of type `S`. -/
structure Resource (T S : Type) where
  kind : ApiKind
  objectMeta : T → ObjectMeta
  spec : T → S
  /-- A new object with an empty status. -/
  fresh : ObjectMeta → S → T
  /-- The object with other metadata and spec, and its own status. -/
  put : T → ObjectMeta → S → T

def policies : Resource Policy PolicySpec where
  kind := .policy
  objectMeta p := p.toObjectMeta
  spec p := p.spec
  fresh objectMeta spec := { objectMeta with spec := spec }
  put _ objectMeta spec := { objectMeta with spec := spec }

def policyGroups : Resource PolicyGroup PolicyGroupSpec where
  kind := .policyGroup
  objectMeta g := g.toObjectMeta
  spec g := g.spec
  fresh objectMeta spec := { objectMeta with spec := spec }
  put _ objectMeta spec := { objectMeta with spec := spec }

def policyExceptions : Resource PolicyException PolicyExceptionSpec where
  kind := .policyException
  objectMeta e := e.toObjectMeta
  spec e := e.spec
  fresh objectMeta spec := { objectMeta with spec := spec }
  put e objectMeta spec := { objectMeta with spec := spec, status := e.status }

section

variable {T S : Type} (r : Resource T S) (faults : ApiFaults) (now : Time)

/-- `Create` of an object with the given name, labels, annotations and spec. -/
def Resource.create (name : String) (labels annotations : Labels) (spec : S)
    (store : GoMap T) : Except String (GoMap T) :=
  match faults ⟨.create, r.kind, name⟩ with
  | some err => .error err
  | none =>
    let objectMeta : ObjectMeta :=
      { name := name, labels := labels, annotations := annotations
        generation := 1, creationTimestamp := now }
    .ok (store.insert name (r.fresh objectMeta spec))

/-- `Update` of the object that was just read under `name`. -/
def Resource.update [DecidableEq S] (name : String) (existing : T)
    (labels annotations : Labels) (spec : S) (store : GoMap T) : Except String (GoMap T) :=
  match faults ⟨.update, r.kind, name⟩ with
  | some err => .error err
  | none =>
    let old := r.objectMeta existing
    let objectMeta : ObjectMeta :=
      { old with
        labels := labels, annotations := annotations
        generation := if spec = r.spec existing then old.generation else old.generation + 1 }
    .ok (store.insert name (r.put existing objectMeta spec))

/-- `Delete` of the object that is stored under `name`. -/
def Resource.delete (name : String) (existing : T) (store : GoMap T) : Except String (GoMap T) :=
  match faults ⟨.delete, r.kind, name⟩ with
  | some err => .error err
  | none =>
    let old := r.objectMeta existing
    if old.finalizers = [] then .ok (store.erase name)
    else
      .ok (store.insert name
        (r.put existing { old with deletionTimestamp := old.deletionTimestamp.or (some now) }
          (r.spec existing)))

/-- A delete fails, removes the object, or marks it. -/
theorem Resource.delete_cases (name : String) (existing : T) (store : GoMap T) :
    (∃ err, r.delete faults now name existing store = .error err) ∨
      r.delete faults now name existing store = .ok (store.erase name) ∨
      ∃ deletionTimestamp, r.delete faults now name existing store =
        .ok (store.insert name (r.put existing
          { r.objectMeta existing with deletionTimestamp := deletionTimestamp }
          (r.spec existing))) := by
  unfold Resource.delete
  cases faults ⟨.delete, r.kind, name⟩ with
  | some err => exact .inl ⟨err, rfl⟩
  | none =>
    by_cases hfinalizers : (r.objectMeta existing).finalizers = []
    · exact .inr (.inl (if_pos hfinalizers))
    · exact .inr (.inr ⟨_, if_neg hfinalizers⟩)

end

/-- `Status().Update` of the exception that was just read under `name`. -/
def updateExceptionStatus (faults : ApiFaults) (name : String) (pex : PolicyException)
    (store : GoMap PolicyException) : Except String (GoMap PolicyException) :=
  match faults ⟨.updateStatus, .policyException, name⟩ with
  | some err => .error err
  | none => .ok (store.insert name pex)

end KubeSentry.Operator
