import KubeSentry.Hublink.ApplyRules

/-!
# Applying a snapshot converges

What `applyDesiredState` makes of a member cluster.  Every object is settled by
itself, so the two passes are loops of local writes and the result is known
object by object.

* `KindRule` is what the proofs use of a kind: the rule of its upsert, and how
  the objects of its store are seen as objects of the member.
* `applyDesiredState_eq` is the call as two loops, with the joined errors.
* `getObject_applyDesiredState` is the result for one kind and name.

The rest reads off from these: objects without the managed-by label stay, a
result without an error means equal specs and nothing else left, errors stay
with their object, and a second run changes nothing.
-/

namespace KubeSentry.Hublink

open GoLib Operator Gateway UpsertRule

/-! ## The objects of a member -/

/-- An object on the member, of one of the three kinds. -/
inductive StoredObject where
  | policy (p : Policy)
  | policyGroup (g : PolicyGroup)
  | policyException (e : PolicyException)

namespace StoredObject

def objectMeta : StoredObject → ObjectMeta
  | .policy p => p.toObjectMeta
  | .policyGroup g => g.toObjectMeta
  | .policyException e => e.toObjectMeta

/-- The spec is the one of the snapshot object.  A group may list its policies
in another order. -/
def HasSpec [SpecDecoder] (obj : ManagedObject) : StoredObject → Prop
  | .policy p => SpecDecoder.policy obj.spec = .ok p.spec
  | .policyGroup g => ∃ spec, SpecDecoder.policyGroup obj.spec = .ok spec ∧
      g.spec.policies.byName.Perm spec.policies.byName ∧
      { g.spec with policies := { g.spec.policies with byName := [] } } =
        { spec with policies := { spec.policies with byName := [] } }
  | .policyException e => SpecDecoder.policyException obj.spec = .ok e.spec

/-- The object after the delete of its name. -/
def pruned (faults : ApiFaults) (now : Time) (name : String) : StoredObject → Option StoredObject
  | .policy p => (Hublink.pruned policies faults now name p).map .policy
  | .policyGroup g => (Hublink.pruned policyGroups faults now name g).map .policyGroup
  | .policyException e => (Hublink.pruned policyExceptions faults now name e).map .policyException

end StoredObject

/-- The object of a kind and a name. -/
def getObject (m : Member) : Kind → String → Option StoredObject
  | .policy, name => m.policies[name]?.map .policy
  | .policyGroup, name => m.groups[name]?.map .policyGroup
  | .policyException, name => m.exceptions[name]?.map .policyException
  | .other _, _ => none

/-- A store is what its objects are. -/
theorem store_ext {T : Type} {wrap : T → StoredObject} (hwrap : Function.Injective wrap)
    {store store' : GoMap T}
    (h : ∀ name : String, store[name]?.map wrap = store'[name]?.map wrap) : store = store' :=
  Std.ExtTreeMap.ext_getElem? fun name => Option.map_injective hwrap (h name)

/-- A member is what its objects are. -/
theorem member_ext {m m' : Member}
    (h : ∀ kind name, getObject m kind name = getObject m' kind name) : m = m' := by
  have hpolicies := store_ext (fun _ _ => StoredObject.policy.inj) (h .policy)
  have hgroups := store_ext (fun _ _ => StoredObject.policyGroup.inj) (h .policyGroup)
  have hexceptions := store_ext (fun _ _ => StoredObject.policyException.inj) (h .policyException)
  cases m
  cases m'
  cases hpolicies
  cases hgroups
  cases hexceptions
  rfl

section

variable [SpecDecoder] [GoUnicode]

/-- The key of a snapshot object. -/
def objectKey (obj : ManagedObject) : Kind × String :=
  (obj.kind, obj.name)

/-- The upsert of one object on a member, with its error. -/
def upsertAlone (faults : ApiFaults) (now : Time) (traceID : String) (obj : ManagedObject)
    (m : Member) : Member × List String :=
  upsertObject faults now traceID (m, []) obj

/-- What an upsert makes of the object under its key. -/
def settledObject (faults : ApiFaults) (now : Time) (traceID : String) (obj : ManagedObject)
    (m : Member) : Kind → Option StoredObject
  | .policy =>
    (policyRule.settled faults now traceID obj (SpecDecoder.policy obj.spec)
      m.policies[obj.name]?).map .policy
  | .policyGroup =>
    (policyGroupRule.settled faults now traceID obj (SpecDecoder.policyGroup obj.spec)
      m.groups[obj.name]?).map .policyGroup
  | .policyException =>
    (policyExceptionRule.settled faults now traceID obj (SpecDecoder.policyException obj.spec)
      m.exceptions[obj.name]?).map .policyException
  | .other _ => none

/-- The `Kind` of an API kind. -/
def kindOf : ApiKind → Kind
  | .policy => .policy
  | .policyGroup => .policyGroup
  | .policyException => .policyException

/-- The list calls that come before the deletes of a kind succeed. -/
def reached (faults : ApiFaults) : Kind → Bool
  | .policyGroup => (faults ⟨.list, .policyGroup, ""⟩).isNone
  | .policy =>
    (faults ⟨.list, .policyGroup, ""⟩).isNone && (faults ⟨.list, .policy, ""⟩).isNone
  | .policyException =>
    (faults ⟨.list, .policyGroup, ""⟩).isNone && (faults ⟨.list, .policy, ""⟩).isNone &&
      (faults ⟨.list, .policyException, ""⟩).isNone
  | .other _ => false

omit [SpecDecoder] [GoUnicode] in
/-- The stores after the prune: pruned if their loop is reached. -/
theorem pruneManaged_stores (faults : ApiFaults) (now : Time) (inSnapshot : Kind → String → Bool)
    (m : Member) :
    (pruneManaged faults now inSnapshot m).1 =
      { groups :=
          if reached faults .policyGroup then
            (pruneStore policyGroups faults now "PolicyGroup" (inSnapshot .policyGroup) m.groups).1
          else m.groups
        policies := if reached faults .policy then
            (pruneStore policies faults now "Policy" (inSnapshot .policy) m.policies).1
          else m.policies
        exceptions := if reached faults .policyException then
            (pruneStore policyExceptions faults now "PolicyException"
              (inSnapshot .policyException) m.exceptions).1
          else m.exceptions } := by
  unfold pruneManaged
  cases hgroups : faults ⟨.list, .policyGroup, ""⟩ with
  | some err => simp [reached, hgroups]
  | none =>
    cases hpolicies : faults ⟨.list, .policy, ""⟩ with
    | some err => simp [reached, hgroups, hpolicies]
    | none =>
      cases hexceptions : faults ⟨.list, .policyException, ""⟩ with
      | some err => simp [reached, hgroups, hpolicies, hexceptions]
      | none => simp [reached, hgroups, hpolicies, hexceptions]

variable {faults faults' : ApiFaults} {now : Time} {m m' : Member} {kind : Kind}
  {obj : ManagedObject} {name : String} {v : StoredObject} {ds ds' : DesiredState}

omit [SpecDecoder] [GoUnicode] in
/-- A prune without errors has reached every kind and deleted what it should. -/
theorem pruneManaged_no_errors {inSnapshot : Kind → String → Bool}
    (h : (pruneManaged faults now inSnapshot m).2 = []) :
    (∀ kind, knownKind kind = true → reached faults kind = true) ∧
      (pruneStore policyGroups faults now "PolicyGroup" (inSnapshot .policyGroup) m.groups).2 = [] ∧
      (pruneStore policies faults now "Policy" (inSnapshot .policy) m.policies).2 = [] ∧
      (pruneStore policyExceptions faults now "PolicyException" (inSnapshot .policyException)
        m.exceptions).2 = [] := by
  unfold pruneManaged at h
  cases hgroups : faults ⟨.list, .policyGroup, ""⟩ with
  | some err =>
    rw [hgroups] at h
    cases h
  | none =>
    cases hpolicies : faults ⟨.list, .policy, ""⟩ with
    | some err =>
      rw [hgroups, hpolicies] at h
      cases h
    | none =>
      cases hexceptions : faults ⟨.list, .policyException, ""⟩ with
      | some err =>
        rw [hgroups, hpolicies, hexceptions] at h
        cases h
      | none =>
        rw [hgroups, hpolicies, hexceptions] at h
        rw [List.append_eq_nil_iff, List.append_eq_nil_iff] at h
        refine ⟨?_, h.1.1, h.1.2, h.2⟩
        intro kind hkind
        cases kind with
        | other text => cases hkind
        | _ => simp [reached, hgroups, hpolicies, hexceptions]

/-! ## The rule of a kind -/

/-- What the proofs use of a kind: the rule of its upsert, and how the objects
of its store are seen as objects of the member. -/
structure KindRule (kind : Kind) where
  T : Type
  S : Type
  decidableEq : DecidableEq S
  rule : UpsertRule T S
  decode : ManagedObject → Except String S
  store : Member → GoMap T
  wrap : T → StoredObject
  lawful : rule.Lawful
  kind_eq : kindOf rule.resource.kind = kind := by rfl
  wrap_injective : Function.Injective wrap
  objectMeta_wrap : ∀ v, (wrap v).objectMeta = rule.resource.objectMeta v := by exact fun _ => rfl
  hasSpec_wrap : ∀ {obj spec v}, decode obj = .ok spec →
    rule.same (rule.resource.spec v) spec = true → (wrap v).HasSpec obj
  pruned_wrap : ∀ faults now name v,
    (wrap v).pruned faults now name =
      (Hublink.pruned rule.resource faults now name v).map wrap := by exact fun _ _ _ _ => rfl
  getObject_eq : ∀ m name, getObject m kind name = (store m)[name]?.map wrap := by
    exact fun _ _ => rfl
  settledObject_eq : ∀ faults now traceID obj m,
    settledObject faults now traceID obj m kind =
      (rule.settled faults now traceID obj (decode obj) (store m)[obj.name]?).map wrap := by
    exact fun _ _ _ _ _ => rfl
  store_upsertAlone : ∀ faults now traceID obj m,
    store (upsertAlone faults now traceID obj m).1 =
      if obj.kind = kind then (rule.upsert faults now traceID obj (decode obj) (store m)).1
      else store m
  errors_upsertAlone : ∀ faults now traceID obj m, obj.kind = kind →
    (upsertAlone faults now traceID obj m).2 =
      ((rule.outcome faults now traceID obj (decode obj) (store m)[obj.name]?).2.map fun e =>
        kindText kind ++ " " ++ obj.name ++ ": " ++ e).toList
  store_pruneManaged : ∀ faults now keep m,
    store (pruneManaged faults now keep m).1 =
      if reached faults kind then
        (pruneStore rule.resource faults now (kindText kind) (keep kind) (store m)).1
      else store m
  errors_pruneManaged : ∀ {faults now keep m}, (pruneManaged faults now keep m).2 = [] →
    (pruneStore rule.resource faults now (kindText kind) (keep kind) (store m)).2 = []

attribute [instance] KindRule.decidableEq

def policyKind : KindRule .policy where
  T := Policy
  S := PolicySpec
  decidableEq := inferInstance
  rule := policyRule
  decode obj := SpecDecoder.policy obj.spec
  store := Member.policies
  wrap := .policy
  lawful := policyRule_lawful
  wrap_injective _ _ h := StoredObject.policy.inj h
  hasSpec_wrap hdecoded hsame := by
    rw [← of_decide_eq_true hsame] at hdecoded
    exact hdecoded
  store_upsertAlone faults now traceID obj m := by
    unfold upsertAlone upsertObject
    rw [← upsertPolicy_eq]
    cases obj.kind <;> rfl
  errors_upsertAlone faults now traceID obj m hkind := by
    unfold upsertAlone upsertObject
    rw [hkind]
    dsimp only
    rw [upsertPolicy_eq]
    rfl
  store_pruneManaged _ _ _ _ := congrArg Member.policies (pruneManaged_stores ..)
  errors_pruneManaged h := (pruneManaged_no_errors h).2.2.1

def policyGroupKind : KindRule .policyGroup where
  T := PolicyGroup
  S := PolicyGroupSpec
  decidableEq := inferInstance
  rule := policyGroupRule
  decode obj := SpecDecoder.policyGroup obj.spec
  store := Member.groups
  wrap := .policyGroup
  lawful := policyGroupRule_lawful
  wrap_injective _ _ h := StoredObject.policyGroup.inj h
  hasSpec_wrap hdecoded hsame := by
    rename_i obj spec v
    have hequal : groupSpecsEqual v.spec spec = true := hsame
    unfold groupSpecsEqual at hequal
    rw [Bool.and_eq_true, decide_eq_true_eq, decide_eq_true_eq] at hequal
    refine ⟨spec, hdecoded, ?_, hequal.2⟩
    have hsorted : ∀ refs, (sortedByName refs).Perm refs := fun refs =>
      List.perm_insertionSort _ refs
    exact (hsorted _).symm.trans (hequal.1 ▸ hsorted _)
  store_upsertAlone faults now traceID obj m := by
    unfold upsertAlone upsertObject
    rw [← upsertPolicyGroup_eq]
    cases obj.kind <;> rfl
  errors_upsertAlone faults now traceID obj m hkind := by
    unfold upsertAlone upsertObject
    rw [hkind]
    dsimp only
    rw [upsertPolicyGroup_eq]
    rfl
  store_pruneManaged _ _ _ _ := congrArg Member.groups (pruneManaged_stores ..)
  errors_pruneManaged h := (pruneManaged_no_errors h).2.1

def policyExceptionKind : KindRule .policyException where
  T := PolicyException
  S := PolicyExceptionSpec
  decidableEq := inferInstance
  rule := policyExceptionRule
  decode obj := SpecDecoder.policyException obj.spec
  store := Member.exceptions
  wrap := .policyException
  lawful := policyExceptionRule_lawful
  wrap_injective _ _ h := StoredObject.policyException.inj h
  hasSpec_wrap hdecoded hsame := by
    rw [← of_decide_eq_true hsame] at hdecoded
    exact hdecoded
  store_upsertAlone faults now traceID obj m := by
    unfold upsertAlone upsertObject
    rw [← upsertPolicyException_eq]
    cases obj.kind <;> rfl
  errors_upsertAlone faults now traceID obj m hkind := by
    unfold upsertAlone upsertObject
    rw [hkind]
    dsimp only
    rw [upsertPolicyException_eq]
    rfl
  store_pruneManaged _ _ _ _ := congrArg Member.exceptions (pruneManaged_stores ..)
  errors_pruneManaged h := (pruneManaged_no_errors h).2.2.2

theorem KindRule.known (k : KindRule kind) : knownKind kind = true := by
  rw [← k.kind_eq]
  cases k.rule.resource.kind <;> rfl

/-- A kind has a rule, or it is another text. -/
theorem kind_cases (kind : Kind) : Nonempty (KindRule kind) ∨ ∃ text, kind = .other text := by
  cases kind with
  | policy => exact .inl ⟨policyKind⟩
  | policyGroup => exact .inl ⟨policyGroupKind⟩
  | policyException => exact .inl ⟨policyExceptionKind⟩
  | other text => exact .inr ⟨text, rfl⟩

/-! ## The two passes, object by object -/

/-- An upsert changes the object under its key and no other. -/
theorem getObject_upsertAlone (faults : ApiFaults) (now : Time) (traceID : String)
    (obj : ManagedObject) (m : Member) (kind : Kind) (name : String) :
    getObject (upsertAlone faults now traceID obj m).1 kind name =
      if obj.kind = kind ∧ obj.name = name then settledObject faults now traceID obj m kind
      else getObject m kind name := by
  rcases kind_cases kind with ⟨⟨k⟩⟩ | ⟨text, htext⟩
  · rw [k.getObject_eq, k.getObject_eq, k.settledObject_eq, k.store_upsertAlone]
    by_cases hkind : obj.kind = kind
    · rw [if_pos hkind, upsert_getElem?]
      by_cases hname : obj.name = name
      · rw [if_pos hname.symm, if_pos ⟨hkind, hname⟩]
      · rw [if_neg fun h => hname h.symm, if_neg fun h => hname h.2]
    · rw [if_neg hkind, if_neg fun h => hkind h.1]
  · rw [htext]
    exact (ite_self none).symm

/-- What an upsert does depends on its own object only: the calls for it and
what is stored. -/
theorem upsertAlone_congr (hfaults : ∀ verb apiKind, kindOf apiKind = obj.kind →
      faults ⟨verb, apiKind, obj.name⟩ = faults' ⟨verb, apiKind, obj.name⟩)
    (h : getObject m obj.kind obj.name = getObject m' obj.kind obj.name) (now : Time)
    (traceID : String) :
    settledObject faults now traceID obj m obj.kind =
        settledObject faults' now traceID obj m' obj.kind ∧
      (upsertAlone faults now traceID obj m).2 = (upsertAlone faults' now traceID obj m').2 := by
  rcases kind_cases obj.kind with ⟨⟨k⟩⟩ | ⟨text, htext⟩
  · rw [k.getObject_eq, k.getObject_eq] at h
    have hstored := Option.map_injective k.wrap_injective h
    have hcalls := k.rule.outcome_congr now traceID (k.decode obj)
      fun verb => hfaults verb k.rule.resource.kind k.kind_eq
    rw [k.settledObject_eq, k.settledObject_eq, k.errors_upsertAlone faults _ _ _ _ rfl,
      k.errors_upsertAlone faults' _ _ _ _ rfl]
    unfold UpsertRule.settled
    rw [hstored, hcalls]
    exact ⟨rfl, rfl⟩
  · unfold upsertAlone upsertObject
    rw [htext]
    exact ⟨rfl, rfl⟩

/-- The upserts are local writes. -/
theorem upsertAlone_local (faults : ApiFaults) (now : Time) (traceID : String) :
    LocalWrite (fun (m : Member) (k : Kind × String) => getObject m k.1 k.2) objectKey
      (upsertAlone faults now traceID) where
  other obj m k hk := by
    rw [getObject_upsertAlone, if_neg]
    intro h
    exact hk (Prod.ext h.1.symm h.2.symm)
  own obj m m' hsame := by
    obtain ⟨hsettled, herrors⟩ := upsertAlone_congr (fun _ _ _ => rfl) hsame now traceID
    refine ⟨?_, herrors⟩
    rw [getObject_upsertAlone, getObject_upsertAlone, if_pos ⟨rfl, rfl⟩, if_pos ⟨rfl, rfl⟩]
    exact hsettled

/-- The prune changes the objects outside the snapshot whose kind it reaches. -/
theorem getObject_pruneManaged (faults : ApiFaults) (now : Time) (keep : Kind → String → Bool)
    (m : Member) (kind : Kind) (name : String) :
    getObject (pruneManaged faults now keep m).1 kind name =
      if reached faults kind = true ∧ keep kind name = false then
        (getObject m kind name).bind (StoredObject.pruned faults now name)
      else getObject m kind name := by
  rcases kind_cases kind with ⟨⟨k⟩⟩ | ⟨text, htext⟩
  · rw [k.getObject_eq, k.getObject_eq, k.store_pruneManaged]
    by_cases hreached : reached faults kind = true
    · rw [if_pos hreached, pruneStore_getElem?]
      cases hkeep : keep kind name with
      | true => simp
      | false =>
        rw [if_neg Bool.false_ne_true, if_pos ⟨hreached, rfl⟩]
        cases (k.store m)[name]? with
        | none => rfl
        | some v => exact (k.pruned_wrap faults now name v).symm
    · rw [if_neg hreached, if_neg fun h => hreached h.1]
  · rw [htext]
    exact (if_neg fun h => Bool.false_ne_true h.1).symm

/-- An object of the member is an object of a known kind. -/
theorem stored_cases (h : getObject m kind name = some v) :
    ∃ (k : KindRule kind) (t : k.T), (k.store m)[name]? = some t ∧ v = k.wrap t := by
  rcases kind_cases kind with ⟨⟨k⟩⟩ | ⟨text, htext⟩
  · rw [k.getObject_eq] at h
    obtain ⟨t, ht, heq⟩ := Option.map_eq_some_iff.mp h
    exact ⟨k, t, ht, heq.symm⟩
  · rw [htext] at h
    cases h

theorem settledObject_unlabelled (faults : ApiFaults) (now : Time) (traceID : String)
    (h : getObject m obj.kind obj.name = some v) (hlabel : managedByLabel ∉ v.objectMeta.labels) :
    settledObject faults now traceID obj m obj.kind = some v := by
  obtain ⟨k, t, ht, hv⟩ := stored_cases h
  rw [hv, k.objectMeta_wrap] at hlabel
  rw [k.settledObject_eq, ht, settled_unmanaged hlabel, hv]
  rfl

theorem settledObject_kept (faults : ApiFaults) (now : Time) (traceID : String)
    (h : getObject m obj.kind obj.name = some v) :
    ∃ v', settledObject faults now traceID obj m obj.kind = some v' ∧
      v'.objectMeta.deletionTimestamp = v.objectMeta.deletionTimestamp := by
  obtain ⟨k, t, ht, hv⟩ := stored_cases h
  obtain ⟨t', hsettled, htime⟩ :=
    @UpsertRule.settled_kept _ _ _ k.rule faults now traceID obj (k.decode obj) k.lawful t
  refine ⟨k.wrap t', by rw [k.settledObject_eq, ht, hsettled]; rfl, ?_⟩
  rw [hv, k.objectMeta_wrap, k.objectMeta_wrap, htime]

theorem settledObject_of_no_error {traceID : String}
    (h : (upsertAlone faults now traceID obj m).2 = []) :
    ∃ v, settledObject faults now traceID obj m obj.kind = some v ∧ v.HasSpec obj := by
  rcases kind_cases obj.kind with ⟨⟨k⟩⟩ | ⟨text, htext⟩
  · rw [k.errors_upsertAlone _ _ _ _ _ rfl, Option.toList_eq_nil_iff, Option.map_eq_none_iff] at h
    obtain ⟨spec, t, hdecoded, hsettled, hsame⟩ := settled_of_no_error k.lawful h
    exact ⟨k.wrap t, by rw [k.settledObject_eq, hsettled]; rfl, k.hasSpec_wrap hdecoded hsame⟩
  · unfold upsertAlone upsertObject at h
    rw [htext] at h
    cases h

/-- The second upsert finds the object as the first one leaves it. -/
theorem settledObject_settled (now now' : Time) (traceID : String)
    (h : getObject m' obj.kind obj.name =
      settledObject (fun _ => none) now traceID obj m obj.kind) :
    settledObject (fun _ => none) now' traceID obj m' obj.kind =
      settledObject (fun _ => none) now traceID obj m obj.kind := by
  rcases kind_cases obj.kind with ⟨⟨k⟩⟩ | ⟨text, htext⟩
  · rw [k.getObject_eq, k.settledObject_eq] at h
    have hstored := Option.map_injective k.wrap_injective h
    rw [k.settledObject_eq, k.settledObject_eq, hstored, settled_settled k.lawful]
  · rw [htext]
    rfl

/-- An object without the managed-by label is not pruned. -/
theorem pruned_of_unlabelled (faults : ApiFaults) (now : Time) (name : String)
    (h : getObject m kind name = some v) (hlabel : managedByLabel ∉ v.objectMeta.labels) :
    v.pruned faults now name = some v := by
  obtain ⟨k, t, _, hv⟩ := stored_cases h
  rw [hv, k.objectMeta_wrap] at hlabel
  rw [hv, k.pruned_wrap, pruned, if_neg hlabel]
  rfl

theorem bind_pruned_pruned (now now' : Time) (name : String) (m : Member) (kind : Kind) :
    ((getObject m kind name).bind (StoredObject.pruned (fun _ => none) now name)).bind
        (StoredObject.pruned (fun _ => none) now' name) =
      (getObject m kind name).bind (StoredObject.pruned (fun _ => none) now name) := by
  cases h : getObject m kind name with
  | none => rfl
  | some v =>
    obtain ⟨k, t, _, hv⟩ := stored_cases h
    rw [Option.bind_some, hv, k.pruned_wrap]
    have htwice := @pruned_pruned _ _ k.rule now k.lawful now' name t
    cases hpruned : Hublink.pruned k.rule.resource (fun _ => none) now name t with
    | none => rfl
    | some t' =>
      rw [hpruned, Option.bind_some] at htwice
      rw [Option.map_some, Option.bind_some, k.pruned_wrap, htwice]
      rfl

/-- A prune without errors deletes or marks what has the label and is not kept. -/
theorem pruneManaged_marked {keep : Kind → String → Bool}
    (h : (pruneManaged faults now keep m).2 = []) (hkeep : keep kind name = false)
    {v' : StoredObject} (hstored : getObject m kind name = some v)
    (hlabel : managedByLabel ∈ v.objectMeta.labels)
    (hleft : getObject (pruneManaged faults now keep m).1 kind name = some v') :
    v'.objectMeta.deletionTimestamp ≠ none := by
  obtain ⟨k, t, ht, hv⟩ := stored_cases hstored
  rw [hv, k.objectMeta_wrap] at hlabel
  have hfault := pruneStore_no_errors _ _ _ (k.errors_pruneManaged h) ht hlabel
  rw [hkeep] at hfault
  rw [getObject_pruneManaged, if_pos ⟨(pruneManaged_no_errors h).1 kind k.known, hkeep⟩, hstored,
    Option.bind_some, hv, k.pruned_wrap] at hleft
  obtain ⟨t', hpruned, heq⟩ := Option.map_eq_some_iff.mp hleft
  rw [← heq, k.objectMeta_wrap]
  exact pruned_marked k.lawful (hfault.resolve_left Bool.false_ne_true) hlabel hpruned

/-! ## The whole call -/

/-- The known objects of a snapshot, in the order of the upserts. -/
def upsertOrder (ds : DesiredState) : List ManagedObject :=
  let valid := ds.objects.filter fun o => knownKind o.kind
  let ofKind (kind : Kind) := valid.filter fun o => o.kind = kind
  ofKind .policy ++ ofKind .policyGroup ++ ofKind .policyException

/-- The snapshot names the object. -/
def inSnapshot (ds : DesiredState) (kind : Kind) (name : String) : Bool :=
  (ds.objects.filter fun o => knownKind o.kind).any fun o => o.kind = kind && o.name = name

/-- The errors for the objects of unknown kinds. -/
def unknownErrors (ds : DesiredState) : List String :=
  (ds.objects.filter fun o => !knownKind o.kind).map fun o =>
    "unknown kind " ++ quote (kindText o.kind) ++ " for object " ++ quote o.name

/-- The one error that `applyDesiredState` makes of a list. -/
def joinErrors (errs : List String) : Option String :=
  if errs = [] then none else some ("; ".intercalate errs)

/-- No two objects of the snapshot have the same kind and name. -/
def DistinctObjects (ds : DesiredState) : Prop :=
  (ds.objects.map objectKey).Nodup

section

omit [SpecDecoder] [GoUnicode]

/-- The upserts go through the known objects, kind by kind. -/
theorem upsertOrder_perm (ds : DesiredState) :
    (upsertOrder ds).Perm (ds.objects.filter fun o => knownKind o.kind) := by
  unfold upsertOrder
  dsimp only
  induction ds.objects with
  | nil => rfl
  | cons o rest ih =>
    cases hkind : o.kind with
    | policy => simpa [hkind, knownKind] using ih
    | policyGroup =>
      simp only [List.filter_cons, hkind, knownKind, if_true, List.append_assoc] at ih ⊢
      exact List.perm_middle.trans (ih.cons o)
    | policyException =>
      simp only [List.filter_cons, hkind, knownKind, if_true] at ih ⊢
      exact List.perm_middle.trans (ih.cons o)
    | other text => simpa [hkind, knownKind] using ih

theorem mem_upsertOrder : obj ∈ upsertOrder ds ↔ obj ∈ ds.objects ∧ knownKind obj.kind = true := by
  rw [(upsertOrder_perm ds).mem_iff, List.mem_filter]

theorem upsertOrder_nodup (h : DistinctObjects ds) : ((upsertOrder ds).map objectKey).Nodup :=
  ((upsertOrder_perm ds).map objectKey).nodup_iff.mpr (h.sublist (List.filter_sublist.map _))

/-- A rendered snapshot names no object twice. -/
theorem rendered_distinct (st : RenderState) (traceID : String) :
    DistinctObjects { objects := st.objects, traceID } := by
  have hkeys : ∀ {A : Type} (kind : Kind) (store : GoMap A),
      (store.toList.map fun e => (kind, e.1)).Nodup := by
    intro A kind store
    have hnodup := (toList_keys_nodup store).map (Prod.mk_right_injective kind)
    rwa [List.map_map] at hnodup
  simp only [DistinctObjects, RenderState.objects, List.map_append, List.map_map, List.nodup_append]
  refine ⟨⟨hkeys .policy _, hkeys .policyGroup _, ?_⟩, hkeys .policyException _, ?_⟩ <;>
    grind [objectKey, policyObject, groupObject, exceptionObject]

theorem inSnapshot_iff : inSnapshot ds kind name = true ↔
      ∃ obj ∈ ds.objects, knownKind obj.kind = true ∧ obj.kind = kind ∧ obj.name = name := by
  unfold inSnapshot
  simp only [List.any_eq_true, List.mem_filter, Bool.and_eq_true, decide_eq_true_eq]
  exact exists_congr fun obj => and_assoc

theorem inSnapshot_cases (ds : DesiredState) (kind : Kind) (name : String) :
    (∃ obj ∈ ds.objects, obj.kind = kind ∧ obj.name = name) ∨ inSnapshot ds kind name = false := by
  cases hnamed : inSnapshot ds kind name with
  | true =>
    obtain ⟨obj, hobj, _, hkey⟩ := inSnapshot_iff.mp hnamed
    exact .inl ⟨obj, hobj, hkey⟩
  | false => exact .inr rfl

/-- Two calls agree on an object: it is stored alike and named alike, its own
calls fail alike, and so do the lists. -/
structure AgreeOn (kind : Kind) (name : String) (faults faults' : ApiFaults) (m m' : Member)
    (ds ds' : DesiredState) : Prop where
  stored : getObject m kind name = getObject m' kind name
  named : ∀ obj : ManagedObject, obj.kind = kind → obj.name = name →
    (obj ∈ ds.objects ↔ obj ∈ ds'.objects)
  traceID : ds.traceID = ds'.traceID
  calls : ∀ verb apiKind, kindOf apiKind = kind →
    faults ⟨verb, apiKind, name⟩ = faults' ⟨verb, apiKind, name⟩
  lists : ∀ apiKind, faults ⟨.list, apiKind, ""⟩ = faults' ⟨.list, apiKind, ""⟩

theorem AgreeOn.inSnapshot_eq (h : AgreeOn kind name faults faults' m m' ds ds') :
    inSnapshot ds kind name = inSnapshot ds' kind name := by
  rw [Bool.eq_iff_iff, inSnapshot_iff, inSnapshot_iff]
  refine exists_congr fun obj => ?_
  constructor
  · intro hobj
    exact ⟨(h.named obj hobj.2.2.1 hobj.2.2.2).mp hobj.1, hobj.2⟩
  · intro hobj
    exact ⟨(h.named obj hobj.2.2.1 hobj.2.2.2).mpr hobj.1, hobj.2⟩

theorem AgreeOn.reached_eq (h : AgreeOn kind name faults faults' m m' ds ds') :
    reached faults kind = reached faults' kind := by
  cases kind with
  | other text => rfl
  | _ => simp only [reached, h.lists]

end

/-- The upserts leave every other object alone. -/
theorem getObject_upserts_other (faults : ApiFaults) (now : Time) (m : Member)
    (hother : inSnapshot ds kind name = false) :
    getObject (writeAll (upsertAlone faults now ds.traceID) (upsertOrder ds) m).1 kind name =
      getObject m kind name := by
  refine (upsertAlone_local faults now ds.traceID).writeAll_other (k := (kind, name)) m ?_
  intro hmem
  obtain ⟨obj, hobj, hkey⟩ := List.mem_map.mp hmem
  obtain ⟨hobj, hknown⟩ := mem_upsertOrder.mp hobj
  have hnamed := inSnapshot_iff.mpr
    ⟨obj, hobj, hknown, congrArg Prod.fst hkey, congrArg Prod.snd hkey⟩
  rw [hnamed] at hother
  cases hother

/-- The delete of an object is one call. -/
theorem pruned_congr (now : Time) (hcalls : ∀ verb apiKind, kindOf apiKind = kind →
      faults ⟨verb, apiKind, name⟩ = faults' ⟨verb, apiKind, name⟩) :
    (getObject m kind name).bind (StoredObject.pruned faults now name) =
      (getObject m kind name).bind (StoredObject.pruned faults' now name) := by
  cases h : getObject m kind name with
  | none => rfl
  | some v =>
    obtain ⟨k, t, _, hv⟩ := stored_cases h
    rw [Option.bind_some, Option.bind_some, hv, k.pruned_wrap, k.pruned_wrap]
    unfold Hublink.pruned
    rw [hcalls .delete k.rule.resource.kind k.kind_eq]

section

variable (hdistinct : DistinctObjects ds)

include hdistinct

/-- The call is two loops of local writes. -/
theorem applyDesiredState_eq (faults : ApiFaults) (now : Time) (m : Member) :
    let upserted := (writeAll (upsertAlone faults now ds.traceID) (upsertOrder ds) m).1
    let pruned := pruneManaged faults now (inSnapshot ds) upserted
    applyDesiredState faults now m ds = (pruned.1, joinErrors (unknownErrors ds ++
        ((upsertOrder ds).flatMap fun obj => (upsertAlone faults now ds.traceID obj m).2) ++
        (joinErrors pruned.2).toList)) := by
  intro upserted pruned
  have hloop : (upsertOrder ds).foldl (upsertObject faults now ds.traceID) (m, unknownErrors ds) =
      (upserted, unknownErrors ds ++
        (upsertOrder ds).flatMap fun obj => (upsertAlone faults now ds.traceID obj m).2) := by
    rw [← (upsertAlone_local faults now ds.traceID).foldl_eq (fun _ errs => errs)
      (upsertOrder_nodup hdistinct) m (unknownErrors ds)]
    refine congrArg (fun step => (upsertOrder ds).foldl step (m, unknownErrors ds)) ?_
    funext acc obj
    unfold upsertAlone upsertObject
    cases obj.kind <;> rfl
  -- The errors of the prune count as one.
  have hprune : ∀ errs pruneErrs : List String,
      (if pruneErrs = [] then errs else errs ++ ["; ".intercalate pruneErrs]) =
        errs ++ (joinErrors pruneErrs).toList := by
    intro errs pruneErrs
    unfold joinErrors
    split
    · exact (List.append_nil errs).symm
    · rfl
  have happly : ∀ acc,
      (upsertOrder ds).foldl (upsertObject faults now ds.traceID) (m, unknownErrors ds) = acc →
      applyDesiredState faults now m ds = ((pruneManaged faults now (inSnapshot ds) acc.1).1,
          joinErrors (if (pruneManaged faults now (inSnapshot ds) acc.1).2 = [] then acc.2
            else acc.2 ++ ["; ".intercalate (pruneManaged faults now (inSnapshot ds)
              acc.1).2])) := by
    intro acc hacc
    rw [← hacc]
    rfl
  rw [happly _ hloop, hprune]

/-- An object of the snapshot ends up as its own upsert leaves it. -/
theorem getObject_apply_named (faults : ApiFaults) (now : Time) (m : Member)
    (hobj : obj ∈ ds.objects) :
    getObject (applyDesiredState faults now m ds).1 obj.kind obj.name =
      settledObject faults now ds.traceID obj m obj.kind := by
  rcases kind_cases obj.kind with ⟨⟨k⟩⟩ | ⟨text, htext⟩
  · have hmem : obj ∈ upsertOrder ds := mem_upsertOrder.mpr ⟨hobj, k.known⟩
    have hnamed : inSnapshot ds obj.kind obj.name = true :=
      inSnapshot_iff.mpr ⟨obj, hobj, k.known, rfl, rfl⟩
    rw [applyDesiredState_eq hdistinct, getObject_pruneManaged, hnamed,
      if_neg fun h => by cases h.2]
    have hown := (upsertAlone_local faults now ds.traceID).writeAll_own
      (upsertOrder_nodup hdistinct) m obj hmem
    refine hown.trans ?_
    unfold objectKey
    rw [getObject_upsertAlone, if_pos ⟨rfl, rfl⟩]
  · rw [htext]
    rfl

/-- Every other object is pruned, if the prune gets to its kind. -/
theorem getObject_apply_other (faults : ApiFaults) (now : Time) (m : Member)
    (hother : inSnapshot ds kind name = false) :
    getObject (applyDesiredState faults now m ds).1 kind name = if reached faults kind then
        (getObject m kind name).bind (StoredObject.pruned faults now name)
      else getObject m kind name := by
  rw [applyDesiredState_eq hdistinct, getObject_pruneManaged,
    getObject_upserts_other faults now m hother, hother]
  by_cases hreached : reached faults kind = true
  · rw [if_pos ⟨hreached, rfl⟩, if_pos hreached]
  · rw [if_neg fun h => hreached h.1, if_neg hreached]

/-! ## Convergence -/

theorem apply_keeps_unlabelled (faults : ApiFaults) (now : Time)
    (hstored : getObject m kind name = some v) (hlabel : managedByLabel ∉ v.objectMeta.labels) :
    getObject (applyDesiredState faults now m ds).1 kind name = some v := by
  rcases inSnapshot_cases ds kind name with ⟨obj, hobj, rfl, rfl⟩ | hother
  · rw [getObject_apply_named hdistinct faults now m hobj]
    exact settledObject_unlabelled faults now ds.traceID hstored hlabel
  · rw [getObject_apply_other hdistinct faults now m hother, hstored, Option.bind_some,
      pruned_of_unlabelled faults now name hstored hlabel]
    exact ite_self _

/-- No error means none from an unknown kind, an upsert or the prune. -/
theorem apply_no_error (h : (applyDesiredState faults now m ds).2 = none) :
    (∀ obj ∈ ds.objects, knownKind obj.kind = true ∧
      (upsertAlone faults now ds.traceID obj m).2 = []) ∧
      (pruneManaged faults now (inSnapshot ds)
        (writeAll (upsertAlone faults now ds.traceID) (upsertOrder ds) m).1).2 = [] := by
  have hjoin : ∀ errs, joinErrors errs = none → errs = [] := by
    intro errs herrs
    by_contra hne
    unfold joinErrors at herrs
    rw [if_neg hne] at herrs
    cases herrs
  rw [applyDesiredState_eq hdistinct] at h
  have hall := hjoin _ h
  rw [List.append_eq_nil_iff, List.append_eq_nil_iff] at hall
  obtain ⟨⟨hunknown, hupserts⟩, hprune⟩ := hall
  refine ⟨fun obj hobj => ?_, hjoin _ (Option.toList_eq_nil_iff.mp hprune)⟩
  have hknown : knownKind obj.kind = true := by
    have hnot := List.filter_eq_nil_iff.mp (List.map_eq_nil_iff.mp hunknown) obj hobj
    simpa using hnot
  exact ⟨hknown, List.flatMap_eq_nil_iff.mp hupserts obj (mem_upsertOrder.mpr ⟨hobj, hknown⟩)⟩

/-- Calls that agree on an object leave it alike. -/
theorem apply_local (hdistinct' : DistinctObjects ds') (now : Time)
    (h : AgreeOn kind name faults faults' m m' ds ds') :
    getObject (applyDesiredState faults now m ds).1 kind name =
      getObject (applyDesiredState faults' now m' ds').1 kind name := by
  rcases inSnapshot_cases ds kind name with ⟨obj, hobj, rfl, rfl⟩ | hother
  · rw [getObject_apply_named hdistinct faults now m hobj,
      getObject_apply_named hdistinct' faults' now m' ((h.named obj rfl rfl).mp hobj), h.traceID]
    exact (upsertAlone_congr h.calls h.stored now ds'.traceID).1
  · have hother' := h.inSnapshot_eq.symm.trans hother
    rw [getObject_apply_other hdistinct faults now m hother,
      getObject_apply_other hdistinct' faults' now m' hother', h.stored, h.reached_eq,
      pruned_congr now h.calls]

/-- A second call finds everything settled. -/
theorem apply_twice (now now' : Time) (m : Member) :
    let settled := (applyDesiredState (fun _ => none) now m ds).1
    (applyDesiredState (fun _ => none) now' settled ds).1 = settled := by
  intro settled
  refine member_ext fun kind name => ?_
  rcases inSnapshot_cases ds kind name with ⟨obj, hobj, rfl, rfl⟩ | hother
  · have hfirst := getObject_apply_named hdistinct (fun _ => none) now m hobj
    rw [getObject_apply_named hdistinct _ now' settled hobj, hfirst]
    exact settledObject_settled now now' ds.traceID hfirst
  · rw [getObject_apply_other hdistinct _ now' settled hother,
      getObject_apply_other hdistinct _ now m hother]
    split
    · exact bind_pruned_pruned now now' name m kind
    · rfl

/-- No error means that the snapshot is there and nothing else is left. -/
theorem apply_settled (h : (applyDesiredState faults now m ds).2 = none) :
    (∀ obj ∈ ds.objects, ∃ v,
      getObject (applyDesiredState faults now m ds).1 obj.kind obj.name = some v ∧ v.HasSpec obj) ∧
      ∀ kind name v, getObject m kind name = some v → managedByLabel ∈ v.objectMeta.labels →
        inSnapshot ds kind name = false →
        ∀ v', getObject (applyDesiredState faults now m ds).1 kind name = some v' →
          v'.objectMeta.deletionTimestamp ≠ none := by
  obtain ⟨hupserts, hprune⟩ := apply_no_error hdistinct h
  constructor
  · intro obj hobj
    rw [getObject_apply_named hdistinct faults now m hobj]
    exact settledObject_of_no_error (hupserts obj hobj).2
  · intro kind name v hstored hlabel hother v' hleft
    rw [applyDesiredState_eq hdistinct] at hleft
    refine pruneManaged_marked hprune hother ?_ hlabel hleft
    rw [getObject_upserts_other faults now m hother]
    exact hstored

end

/-- `applyDesiredState` converges and keeps to what is managed.

1. An object without the managed-by label is never touched.
2. Without an error, every object of the snapshot exists with an equal spec, and
   every other labelled object is gone or marked for deletion.
3. An object of the snapshot is never pruned, whatever fails.
4. What happens to an object, and the error of its upsert, depend on that object
   alone: two calls that agree on it leave it alike.  In particular an error on
   another object changes nothing.
5. Applied again without faults, the state changes nothing. -/
theorem applyDesiredState_converges (faults : ApiFaults) (now : Time) (m : Member)
    (ds : DesiredState) (hdistinct : DistinctObjects ds) :
    let result := applyDesiredState faults now m ds
    (∀ kind name v, getObject m kind name = some v → managedByLabel ∉ v.objectMeta.labels →
      getObject result.1 kind name = some v) ∧
    (result.2 = none →
      (∀ obj ∈ ds.objects, ∃ v, getObject result.1 obj.kind obj.name = some v ∧ v.HasSpec obj) ∧
      ∀ kind name v, getObject m kind name = some v → managedByLabel ∈ v.objectMeta.labels →
        (∀ obj ∈ ds.objects, (obj.kind, obj.name) ≠ (kind, name)) →
        getObject result.1 kind name = none ∨ ∃ v', getObject result.1 kind name = some v' ∧
            v'.objectMeta.deletionTimestamp ≠ none) ∧
    (∀ obj ∈ ds.objects, ∀ v, getObject m obj.kind obj.name = some v →
      ∃ v', getObject result.1 obj.kind obj.name = some v' ∧
        v'.objectMeta.deletionTimestamp = v.objectMeta.deletionTimestamp) ∧
    (∀ kind name faults' m' ds', DistinctObjects ds' →
      AgreeOn kind name faults faults' m m' ds ds' →
      getObject result.1 kind name = getObject (applyDesiredState faults' now m' ds').1 kind name ∧
        ∀ obj ∈ ds.objects, (obj.kind, obj.name) = (kind, name) →
          (upsertAlone faults now ds.traceID obj m).2 =
            (upsertAlone faults' now ds'.traceID obj m').2) ∧
    (∃ pruneErrors, result.2 = joinErrors (unknownErrors ds ++
      ((upsertOrder ds).flatMap fun obj => (upsertAlone faults now ds.traceID obj m).2) ++
      pruneErrors)) ∧
    ∀ now', let settled := (applyDesiredState (fun _ => none) now m ds).1
      (applyDesiredState (fun _ => none) now' settled ds).1 = settled := by
  intro result
  refine ⟨?_, ?_, ?_, ?_, ?_, fun now' => apply_twice hdistinct now now' m⟩
  · intro kind name v hstored hlabel
    exact apply_keeps_unlabelled hdistinct faults now hstored hlabel
  · intro hnone
    obtain ⟨hspecs, hrest⟩ := apply_settled hdistinct hnone
    refine ⟨hspecs, fun kind name v hstored hlabel hother => ?_⟩
    have hout : inSnapshot ds kind name = false := by
      rw [← Bool.not_eq_true, inSnapshot_iff]
      intro ⟨obj, hobj, _, hkind, hname⟩
      exact hother obj hobj (Prod.ext hkind hname)
    cases hleft : getObject result.1 kind name with
    | none => exact .inl rfl
    | some v' => exact .inr ⟨v', rfl, hrest kind name v hstored hlabel hout v' hleft⟩
  · intro obj hobj v hstored
    rw [getObject_apply_named hdistinct faults now m hobj]
    exact settledObject_kept faults now ds.traceID hstored
  · intro kind name faults' m' ds' hdistinct' hagree
    refine ⟨apply_local hdistinct hdistinct' now hagree, fun obj _ hkey => ?_⟩
    cases hkey
    rw [hagree.traceID]
    exact (upsertAlone_congr hagree.calls hagree.stored now ds'.traceID).2
  · exact ⟨_, congrArg Prod.snd (applyDesiredState_eq hdistinct faults now m)⟩

end

attribute [local instance] GoUnicode.ascii SpecDecoder.strict

def managedLabels : Labels :=
  (∅ : Labels).insert managedByLabel "hub"

def migration : PolicyExceptionSpec where
  allPolicies := true
  matching := { namespaces := ["default"] }
  duration := "1h"
  reason := "migration"

/-- A member with one managed exception. -/
def staleMember : Member where
  exceptions := (∅ : GoMap PolicyException).insert "stale"
    { name := "stale", labels := managedLabels, spec := migration }

def freshObject : ManagedObject where
  kind := .policyException
  name := "fresh"
  labels := managedLabels
  spec := .policyException migration

/-- The exception of the snapshot arrives and the other one goes. -/
theorem applyDesiredState_converges_replaces :
    let ds : DesiredState := { objects := [freshObject] }
    let result := applyDesiredState (fun _ => none) 0 staleMember ds
    DistinctObjects ds ∧ result.2 = none ∧
      (∃ v, getObject result.1 .policyException "fresh" = some v ∧ v.HasSpec freshObject) ∧
      (getObject result.1 .policyException "stale" = none ∨
        ∃ v, getObject result.1 .policyException "stale" = some v ∧
          v.objectMeta.deletionTimestamp ≠ none) := by
  have hdistinct : DistinctObjects { objects := [freshObject] } := List.nodup_singleton _
  have hnone : (applyDesiredState (fun _ => none) 0 staleMember
      { objects := [freshObject] }).2 = none := by decide +kernel
  obtain ⟨hspecs, hrest⟩ :=
    (applyDesiredState_converges (fun _ => none) 0 staleMember _ hdistinct).2.1 hnone
  refine ⟨hdistinct, hnone, hspecs freshObject (List.mem_singleton_self _), ?_⟩
  refine hrest .policyException "stale"
    (.policyException { name := "stale", labels := managedLabels, spec := migration }) ?_ ?_ ?_
  · simp [getObject, staleMember]
  · decide +kernel
  · decide +kernel

end KubeSentry.Hublink
