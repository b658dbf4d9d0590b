import KubeSentry.Gateway.Render
import KubeSentry.Operator.ApiServer

/-!
# Applying a snapshot on a member

`internal/operator/hublink/apply.go`: the operator of a member cluster writes
the objects of a `DesiredState` into its API server and prunes the managed
objects that the snapshot no longer has.

Objects without the managed-by label belong to somebody else.  They are never
overwritten: an equal spec counts as applied, another one is an error.

`upsertObject` decodes the spec first.  `SpecDecoder` is `json.Unmarshal` on
the three spec types; its laws say that it reads back what was encoded.  A nil
slice or map equals an empty one here, where the source compares with
`reflect.DeepEqual`.
-/

namespace KubeSentry.Hublink

open GoLib Operator Gateway

/-- `DesiredState`: the objects and the trace id of the push. -/
structure DesiredState where
  objects : List ManagedObject
  traceID : String := ""

/-- `json.Unmarshal` of a spec. -/
class SpecDecoder where
  policy : ObjectSpec → Except String PolicySpec
  policyGroup : ObjectSpec → Except String PolicyGroupSpec
  policyException : ObjectSpec → Except String PolicyExceptionSpec
  policy_encoded : ∀ spec, policy (.policy spec) = .ok spec
  policyGroup_encoded : ∀ spec, policyGroup (.policyGroup spec) = .ok spec
  policyException_encoded : ∀ spec, policyException (.policyException spec) = .ok spec

/-- A decoder that accepts nothing but the spec's own type; for runs on
concrete inputs. -/
@[reducible] def SpecDecoder.strict : SpecDecoder where
  policy
    | .policy spec => .ok spec
    | _ => .error "not a policy spec"
  policyGroup
    | .policyGroup spec => .ok spec
    | _ => .error "not a group spec"
  policyException
    | .policyException spec => .ok spec
    | _ => .error "not an exception spec"
  policy_encoded _ := rfl
  policyGroup_encoded _ := rfl
  policyException_encoded _ := rfl

/-! ## Spec comparison -/

/-- `sortedByName`. -/
def sortedByName (refs : List PolicyRef) : List PolicyRef :=
  refs.insertionSort fun a b => a.name ≤ b.name

/-- `groupSpecsEqual`: `byName` is compared as a set. -/
def groupSpecsEqual (a b : PolicyGroupSpec) : Bool :=
  sortedByName a.policies.byName = sortedByName b.policies.byName &&
    { a with policies := { a.policies with byName := [] } } =
      { b with policies := { b.policies with byName := [] } }

/-- `mergeTraceAnnotation`: an empty trace id keeps the annotations. -/
def mergeTraceAnnotation (existing : Labels) (traceID : String) : Labels :=
  if traceID = "" then existing else existing.insert lastTraceIDAnnotation traceID

/-- The object carries a non-empty managed-by label. -/
def isManaged (labels : Labels) : Bool :=
  labels.getD managedByLabel "" ≠ ""

/-! ## Upsert -/

/-- A store after a write attempt, and the error if there was one. -/
abbrev Written (T : Type) := GoMap T × Option String

/-- The store and error of a call that may fail. -/
def written {T : Type} (store : GoMap T) : Except String (GoMap T) → Written T
  | .ok store' => (store', none)
  | .error err => (store, some err)

section

variable {T S : Type} [DecidableEq S] (r : Resource T S) (faults : ApiFaults) (now : Time)
  (traceID : String) (obj : ManagedObject)

/-- The frame that the three cases of `upsertObject` share: decode, read,
create if absent, refuse an unmanaged object, and otherwise `managed`. -/
def upsertWith (same : S → S → Bool) (decoded : Except String S)
    (managed : T → S → Except String (GoMap T)) (store : GoMap T) : Written T :=
  match decoded with
  | .error err => (store, some ("decode spec: " ++ err))
  | .ok spec =>
    match faults ⟨.get, r.kind, obj.name⟩ with
    | some err => (store, some err)
    | none =>
      match store[obj.name]? with
      | none =>
        written store
          (r.create faults now obj.name obj.labels ( mergeTraceAnnotation ∅ traceID) spec store)
      | some existing =>
        if !isManaged (r.objectMeta existing).labels then
          (store, if same (r.spec existing) spec then none
            else some "conflicts with existing unmanaged object")
        else written store (managed existing spec)

/-- The update of a managed `Policy` or `PolicyGroup`: skipped when nothing
changes. -/
def updateChanged (same : S → S → Bool) (store : GoMap T) (existing : T) (spec : S) :
    Except String (GoMap T) :=
  let annotations := mergeTraceAnnotation (r.objectMeta existing).annotations traceID
  if same (r.spec existing) spec && (r.objectMeta existing).labels = obj.labels &&
      (r.objectMeta existing).annotations = annotations then .ok store
  else r.update faults obj.name existing obj.labels annotations spec store

end

section

variable [SpecDecoder] (faults : ApiFaults) (now : Time) (traceID : String)
  (obj : ManagedObject)

def upsertPolicy (store : GoMap Policy) : Written Policy :=
  upsertWith policies faults now traceID obj (fun a b => a = b) (SpecDecoder.policy obj.spec)
    (updateChanged policies faults traceID obj (fun a b => a = b) store) store

def upsertPolicyGroup (store : GoMap PolicyGroup) : Written PolicyGroup :=
  upsertWith policyGroups faults now traceID obj groupSpecsEqual
    (SpecDecoder.policyGroup obj.spec)
    (updateChanged policyGroups faults traceID obj groupSpecsEqual store) store

/-- A managed exception is updated even when nothing changes. -/
def upsertPolicyException (store : GoMap PolicyException) : Written PolicyException :=
  upsertWith policyExceptions faults now traceID obj (fun a b => a = b)
    (SpecDecoder.policyException obj.spec)
    (fun existing spec => policyExceptions.update faults obj.name existing obj.labels
      ( mergeTraceAnnotation existing.annotations traceID) spec store) store

end

/-! ## Prune -/

/-- One loop of `pruneManaged`: delete the labelled objects that `keep` does
not name. -/
def pruneStore {T S : Type} (r : Resource T S) (faults : ApiFaults) (now : Time)
    (kindText : String) (keep : String → Bool) (store : GoMap T) : GoMap T × List String :=
  let managed := store.toList.filter fun e => managedByLabel ∈ (r.objectMeta e.2).labels
  managed.foldl (fun acc e =>
    if keep e.1 then acc
    else
      match r.delete faults now e.1 e.2 acc.1 with
      | .ok store' => (store', acc.2)
      | .error err => (acc.1, acc.2 ++ ["prune " ++ kindText ++ " " ++ e.1 ++ ": " ++ err]))
    (store, [])

/-- `pruneManaged`: groups, then policies, then exceptions.  A failing list
ends it. -/
def pruneManaged (faults : ApiFaults) (now : Time) (inSnapshot : Kind → String → Bool)
    (m : Member) : Member × List String :=
  match faults ⟨.list, .policyGroup, ""⟩ with
  | some err => (m, ["list managed groups: " ++ err])
  | none =>
    let (groups, errs) := pruneStore policyGroups faults now "PolicyGroup"
      (inSnapshot .policyGroup) m.groups
    let m := { m with groups := groups }
    match faults ⟨.list, .policy, ""⟩ with
    | some err => (m, ["list managed policies: " ++ err])
    | none =>
      let (policies, errs') := pruneStore Operator.policies faults now "Policy"
        (inSnapshot .policy) m.policies
      let m := { m with policies := policies }
      match faults ⟨.list, .policyException, ""⟩ with
      | some err => (m, ["list managed exceptions: " ++ err])
      | none =>
        let (exceptions, errs'') := pruneStore policyExceptions faults now "PolicyException"
          (inSnapshot .policyException) m.exceptions
        ({ m with exceptions := exceptions }, errs ++ errs' ++ errs'')

/-! ## Apply -/

variable [SpecDecoder] [GoUnicode]

/-- The `Kind` text. -/
def kindText : Kind → String
  | .policy => "Policy"
  | .policyGroup => "PolicyGroup"
  | .policyException => "PolicyException"
  | .other text => text

/-- One call of `upsertObject`, with the error prefixed as `applyDesiredState`
does. -/
def upsertObject (faults : ApiFaults) (now : Time) (traceID : String)
    (acc : Member × List String) (obj : ManagedObject) : Member × List String :=
  let report (err : Option String) : List String :=
    acc.2 ++ (err.map fun e => kindText obj.kind ++ " " ++ obj.name ++ ": " ++ e).toList
  match obj.kind with
  | .policy =>
    let (store, err) := upsertPolicy faults now traceID obj acc.1.policies
    ({ acc.1 with policies := store }, report err)
  | .policyGroup =>
    let (store, err) := upsertPolicyGroup faults now traceID obj acc.1.groups
    ({ acc.1 with groups := store }, report err)
  | .policyException =>
    let (store, err) := upsertPolicyException faults now traceID obj acc.1.exceptions
    ({ acc.1 with exceptions := store }, report err)
  | .other text => (acc.1, report (some ("unknown kind " ++ quote text)))

/-- The kinds that `applyDesiredState` knows. -/
def knownKind : Kind → Bool
  | .other _ => false
  | _ => true

/-- `applyDesiredState`: the member afterwards, and the joined errors. -/
def applyDesiredState (faults : ApiFaults) (now : Time) (m : Member) (ds : DesiredState) :
    Member × Option String :=
  let unknown := (ds.objects.filter fun o => !knownKind o.kind).map fun o =>
    "unknown kind " ++ quote (kindText o.kind) ++ " for object " ++ quote o.name
  let valid := ds.objects.filter fun o => knownKind o.kind
  let ofKind (kind : Kind) := valid.filter fun o => o.kind = kind
  let order := ofKind .policy ++ ofKind .policyGroup ++ ofKind .policyException
  let (m, errs) := order.foldl (upsertObject faults now ds.traceID) (m, unknown)
  let inSnapshot (kind : Kind) (name : String) : Bool :=
    valid.any fun o => o.kind = kind && o.name = name
  let (m, pruneErrs) := pruneManaged faults now inSnapshot m
  -- `pruneManaged` joins its own errors into one.
  let errs := if pruneErrs = [] then errs else errs ++ ["; ".intercalate pruneErrs]
  (m, if errs = [] then none else some ("; ".intercalate errs))

end KubeSentry.Hublink
