import KubeSentry.GoLib.LocalWrite
import KubeSentry.Hublink.Apply

/-!
# One upsert and one prune

What `applyDesiredState` does to a single object.  An upsert reads and writes the
object of its own name, and so does a delete.

* `UpsertRule` collects what differs between the three kinds: the resource, the
  comparison of specs, and whether an unchanged object is written.  `outcome` is
  the upsert of one object, and `settled` the object afterwards.
* `pruned` is the delete of one object, and `pruneStore_getElem?` the prune of a
  store, name by name.

An object without the managed-by label stays.  An upsert without an error leaves
an equal spec.  A second upsert and a second delete change nothing.
-/

namespace KubeSentry.Hublink

open GoLib Operator Gateway

/-! ## One upsert -/

/-- What the three cases of `upsertObject` differ in.  `skips` says that a
managed object is not written when nothing changes. -/
structure UpsertRule (T S : Type) where
  resource : Resource T S
  same : S → S → Bool
  skips : Bool

def policyRule : UpsertRule Policy PolicySpec where
  resource := policies
  same a b := a = b
  skips := true

def policyGroupRule : UpsertRule PolicyGroup PolicyGroupSpec where
  resource := policyGroups
  same := groupSpecsEqual
  skips := true

def policyExceptionRule : UpsertRule PolicyException PolicyExceptionSpec where
  resource := policyExceptions
  same a b := a = b
  skips := false

namespace UpsertRule

/-- The metadata of an object that is created. -/
def createdMeta (now : Time) (traceID : String) (obj : ManagedObject) : ObjectMeta where
  name := obj.name
  labels := obj.labels
  annotations := mergeTraceAnnotation ∅ traceID
  generation := 1
  creationTimestamp := now

section

variable {T S : Type} [DecidableEq S] (rule : UpsertRule T S) (faults : ApiFaults) (now : Time)
  (traceID : String) (obj : ManagedObject) (decoded : Except String S)

/-- The metadata of an object that is updated. -/
def updatedMeta (existing : T) (spec : S) : ObjectMeta :=
  { rule.resource.objectMeta existing with
    labels := obj.labels
    annotations := mergeTraceAnnotation (rule.resource.objectMeta existing).annotations traceID
    generation :=
      if spec = rule.resource.spec existing then (rule.resource.objectMeta existing).generation
      else (rule.resource.objectMeta existing).generation + 1 }

/-- The object is as the snapshot has it. -/
def unchanged (existing : T) (spec : S) : Bool :=
  rule.skips && (rule.same (rule.resource.spec existing) spec &&
    (rule.resource.objectMeta existing).labels = obj.labels &&
    (rule.resource.objectMeta existing).annotations =
      mergeTraceAnnotation (rule.resource.objectMeta existing).annotations traceID)

/-- The upsert of one object: what is written, if anything, and the error, if
there is one. -/
def outcome (stored : Option T) : Option T × Option String :=
  match decoded with
  | .error err => (none, some ("decode spec: " ++ err))
  | .ok spec =>
    match faults ⟨.get, rule.resource.kind, obj.name⟩ with
    | some err => (none, some err)
    | none =>
      match stored with
      | none =>
        match faults ⟨.create, rule.resource.kind, obj.name⟩ with
        | some err => (none, some err)
        | none => (some (rule.resource.fresh (createdMeta now traceID obj) spec), none)
      | some existing =>
        if !isManaged (rule.resource.objectMeta existing).labels then
          (none, if rule.same (rule.resource.spec existing) spec then none
            else some "conflicts with existing unmanaged object")
        else if rule.unchanged traceID obj existing spec then (none, none)
        else
          match faults ⟨.update, rule.resource.kind, obj.name⟩ with
          | some err => (none, some err)
          | none =>
            (some (rule.resource.put existing (rule.updatedMeta traceID obj existing spec) spec),
              none)

/-- The object after its upsert. -/
def settled (stored : Option T) : Option T :=
  (rule.outcome faults now traceID obj decoded stored).1.or stored

/-- The upsert on a store. -/
def upsert (store : GoMap T) : Written T :=
  (match (rule.outcome faults now traceID obj decoded store[obj.name]?).1 with
    | some v => store.insert obj.name v
    | none => store,
    (rule.outcome faults now traceID obj decoded store[obj.name]?).2)

/-- `upsertWith` has the shape of `outcome`, for both ways to write a managed
object. -/
theorem upsertWith_eq (managed : T → S → Except String (GoMap T)) (store : GoMap T)
    (hmanaged : ∀ existing spec, managed existing spec =
      if rule.unchanged traceID obj existing spec then .ok store
      else rule.resource.update faults obj.name existing obj.labels
        ( mergeTraceAnnotation (rule.resource.objectMeta existing).annotations traceID) spec
        store) :
    upsertWith rule.resource faults now traceID obj rule.same decoded managed store =
      rule.upsert faults now traceID obj decoded store := by
  unfold upsertWith upsert outcome
  cases decoded with
  | error err => rfl
  | ok spec =>
    cases faults ⟨.get, rule.resource.kind, obj.name⟩ with
    | some err => rfl
    | none =>
      cases store[obj.name]? with
      | none =>
        dsimp only [Resource.create]
        cases faults ⟨.create, rule.resource.kind, obj.name⟩ <;> rfl
      | some existing =>
        dsimp only
        rw [hmanaged]
        by_cases hunmanaged : (!isManaged (rule.resource.objectMeta existing).labels) = true
        · rw [if_pos hunmanaged, if_pos hunmanaged]
        · rw [if_neg hunmanaged, if_neg hunmanaged]
          by_cases hsame : rule.unchanged traceID obj existing spec = true
          · rw [if_pos hsame, if_pos hsame]
            rfl
          · rw [if_neg hsame, if_neg hsame]
            dsimp only [Resource.update]
            cases faults ⟨.update, rule.resource.kind, obj.name⟩ <;> rfl

end

/-- What the proofs use of a rule: the accessors of its resource, and that the
comparison is reflexive. -/
structure Lawful {T S : Type} (rule : UpsertRule T S) : Prop where
  objectMeta_fresh : ∀ objectMeta spec,
    rule.resource.objectMeta (rule.resource.fresh objectMeta spec) = objectMeta
  spec_fresh : ∀ objectMeta spec,
    rule.resource.spec (rule.resource.fresh objectMeta spec) = spec
  objectMeta_put : ∀ e objectMeta spec,
    rule.resource.objectMeta (rule.resource.put e objectMeta spec) = objectMeta
  spec_put : ∀ e objectMeta spec, rule.resource.spec (rule.resource.put e objectMeta spec) = spec
  put_self : ∀ e, rule.resource.put e (rule.resource.objectMeta e) (rule.resource.spec e) = e
  same_refl : ∀ spec, rule.same spec spec = true

theorem policyRule_lawful : Lawful policyRule where
  objectMeta_fresh _ _ := rfl
  spec_fresh _ _ := rfl
  objectMeta_put _ _ _ := rfl
  spec_put _ _ _ := rfl
  put_self _ := rfl
  same_refl _ := decide_eq_true rfl

theorem policyGroupRule_lawful : Lawful policyGroupRule where
  objectMeta_fresh _ _ := rfl
  spec_fresh _ _ := rfl
  objectMeta_put _ _ _ := rfl
  spec_put _ _ _ := rfl
  put_self _ := rfl
  same_refl spec := by simp [policyGroupRule, groupSpecsEqual]

theorem policyExceptionRule_lawful : Lawful policyExceptionRule where
  objectMeta_fresh _ _ := rfl
  spec_fresh _ _ := rfl
  objectMeta_put _ _ _ := rfl
  spec_put _ _ _ := rfl
  put_self _ := rfl
  same_refl _ := decide_eq_true rfl

section

variable [SpecDecoder] (faults : ApiFaults) (now : Time) (traceID : String) (obj : ManagedObject)

theorem upsertPolicy_eq (store : GoMap Policy) : upsertPolicy faults now traceID obj store =
      policyRule.upsert faults now traceID obj (SpecDecoder.policy obj.spec) store := by
  refine policyRule.upsertWith_eq faults now traceID obj _ _ store fun existing spec => ?_
  rfl

theorem upsertPolicyGroup_eq (store : GoMap PolicyGroup) :
    upsertPolicyGroup faults now traceID obj store =
      policyGroupRule.upsert faults now traceID obj (SpecDecoder.policyGroup obj.spec) store := by
  refine policyGroupRule.upsertWith_eq faults now traceID obj _ _ store fun existing spec => ?_
  rfl

theorem upsertPolicyException_eq (store : GoMap PolicyException) :
    upsertPolicyException faults now traceID obj store =
      policyExceptionRule.upsert faults now traceID obj (SpecDecoder.policyException obj.spec)
        store :=
  policyExceptionRule.upsertWith_eq faults now traceID obj _ _ store fun _ _ => rfl

end

/-! ## What one upsert does -/

variable {T S : Type} [DecidableEq S] {rule : UpsertRule T S} {faults : ApiFaults} {now : Time}
  {traceID : String} {obj : ManagedObject} {decoded : Except String S}

theorem isManaged_of_not_mem {labels : Labels} (h : managedByLabel ∉ labels) :
    isManaged labels = false := by
  unfold isManaged
  rw [Std.ExtTreeMap.getD_eq_fallback h]
  rfl

variable (rule faults now traceID obj decoded) in
/-- The ways an upsert can go: it fails, the stored object will do, it creates,
or it updates a managed object. -/
theorem outcome_cases (stored : Option T) :
    (∃ err, rule.outcome faults now traceID obj decoded stored = (none, some err)) ∨
      ∃ spec, decoded = .ok spec ∧ ((∃ existing, stored = some existing ∧
            rule.outcome faults now traceID obj decoded stored = (none, none) ∧
            rule.same (rule.resource.spec existing) spec = true ∧
            (isManaged (rule.resource.objectMeta existing).labels = false ∨
              rule.unchanged traceID obj existing spec = true)) ∨
          (stored = none ∧ rule.outcome faults now traceID obj decoded stored =
            (some (rule.resource.fresh (createdMeta now traceID obj) spec), none)) ∨
          ∃ existing, stored = some existing ∧
            isManaged (rule.resource.objectMeta existing).labels = true ∧
            rule.outcome faults now traceID obj decoded stored =
              (some (rule.resource.put existing (rule.updatedMeta traceID obj existing spec) spec),
                none)) := by
  unfold outcome
  cases decoded with
  | error err => exact .inl ⟨_, rfl⟩
  | ok spec =>
    cases faults ⟨.get, rule.resource.kind, obj.name⟩ with
    | some err => exact .inl ⟨_, rfl⟩
    | none =>
      cases stored with
      | none =>
        cases faults ⟨.create, rule.resource.kind, obj.name⟩ with
        | some err => exact .inl ⟨_, rfl⟩
        | none => exact .inr ⟨spec, rfl, .inr (.inl ⟨rfl, rfl⟩)⟩
      | some existing =>
        dsimp only
        cases hmanaged : isManaged (rule.resource.objectMeta existing).labels with
        | false =>
          cases hsame : rule.same (rule.resource.spec existing) spec with
          | true => exact .inr ⟨spec, rfl, .inl ⟨existing, rfl, rfl, hsame, .inl hmanaged⟩⟩
          | false => exact .inl ⟨_, rfl⟩
        | true =>
          cases hunchanged : rule.unchanged traceID obj existing spec with
          | true =>
            have hsame := hunchanged
            unfold unchanged at hsame
            simp only [Bool.and_eq_true] at hsame
            exact .inr ⟨spec, rfl, .inl ⟨existing, rfl, rfl, hsame.2.1.1, .inr hunchanged⟩⟩
          | false =>
            cases faults ⟨.update, rule.resource.kind, obj.name⟩ with
            | some err => exact .inl ⟨_, rfl⟩
            | none => exact .inr ⟨spec, rfl, .inr (.inr ⟨existing, rfl, hmanaged, rfl⟩)⟩

variable (rule now traceID decoded) in
/-- An upsert looks only at the calls for its own object. -/
theorem outcome_congr {faults' : ApiFaults}
    (h : ∀ verb, faults ⟨verb, rule.resource.kind, obj.name⟩ =
      faults' ⟨verb, rule.resource.kind, obj.name⟩) (stored : Option T) :
    rule.outcome faults now traceID obj decoded stored =
      rule.outcome faults' now traceID obj decoded stored := by
  unfold outcome
  rw [h, h, h]

/-- An object without the managed-by label is not written. -/
theorem settled_unmanaged {existing : T}
    (h : managedByLabel ∉ (rule.resource.objectMeta existing).labels) :
    rule.settled faults now traceID obj decoded (some existing) = some existing := by
  unfold settled
  rcases rule.outcome_cases faults now traceID obj decoded (some existing) with ⟨err, heq⟩ |
    ⟨spec, _, ⟨_, _, heq, _⟩ | ⟨hnone, _⟩ | ⟨existing', hstored, hmanaged, _⟩⟩
  · rw [heq]
    rfl
  · rw [heq]
    rfl
  · cases hnone
  · cases hstored
    rw [isManaged_of_not_mem h] at hmanaged
    cases hmanaged

/-- An upsert without an error leaves an object with the spec. -/
theorem settled_of_no_error (hlawful : Lawful rule) {stored : Option T}
    (h : (rule.outcome faults now traceID obj decoded stored).2 = none) :
    ∃ spec v, decoded = .ok spec ∧ rule.settled faults now traceID obj decoded stored = some v ∧
      rule.same (rule.resource.spec v) spec = true := by
  unfold settled
  rcases rule.outcome_cases faults now traceID obj decoded stored with ⟨err, heq⟩ |
    ⟨spec, hdecoded, ⟨existing, hstored, heq, hsame, _⟩ | ⟨_, heq⟩ | ⟨existing, _, _, heq⟩⟩
  · rw [heq] at h
    cases h
  · exact ⟨spec, existing, hdecoded, by rw [heq, hstored]; rfl, hsame⟩
  · refine ⟨spec, _, hdecoded, by rw [heq]; rfl, ?_⟩
    rw [hlawful.spec_fresh]
    exact hlawful.same_refl spec
  · refine ⟨spec, _, hdecoded, by rw [heq]; rfl, ?_⟩
    rw [hlawful.spec_put]
    exact hlawful.same_refl spec

/-- An upsert removes nothing and marks nothing for deletion. -/
theorem settled_kept (hlawful : Lawful rule) (existing : T) :
    ∃ v, rule.settled faults now traceID obj decoded (some existing) = some v ∧
      (rule.resource.objectMeta v).deletionTimestamp =
        (rule.resource.objectMeta existing).deletionTimestamp := by
  unfold settled
  rcases rule.outcome_cases faults now traceID obj decoded (some existing) with ⟨err, heq⟩ |
    ⟨spec, _, ⟨_, _, heq, _⟩ | ⟨hnone, _⟩ | ⟨existing', hstored, _, heq⟩⟩
  · exact ⟨existing, by rw [heq]; rfl, rfl⟩
  · exact ⟨existing, by rw [heq]; rfl, rfl⟩
  · cases hnone
  · cases hstored
    refine ⟨_, by rw [heq]; rfl, ?_⟩
    rw [hlawful.objectMeta_put]
    rfl

theorem mergeTrace_twice (annotations : Labels) (traceID : String) :
    mergeTraceAnnotation ( mergeTraceAnnotation annotations traceID) traceID =
      mergeTraceAnnotation annotations traceID := by
  unfold mergeTraceAnnotation
  split
  · rfl
  · refine Std.ExtTreeMap.ext_getElem? fun k => ?_
    rw [getElem?_insert_key, getElem?_insert_key]
    split
    · rfl
    · rfl

/-- What an upsert leaves alone: an unmanaged object, an unchanged one, and one
that already has the labels, the annotations and the spec. -/
theorem settled_eq_self (hlawful : Lawful rule) {spec : S} {v : T}
    (h : isManaged (rule.resource.objectMeta v).labels = false ∨
      rule.unchanged traceID obj v spec = true ∨
      ((rule.resource.objectMeta v).labels = obj.labels ∧
        mergeTraceAnnotation (rule.resource.objectMeta v).annotations traceID =
          (rule.resource.objectMeta v).annotations ∧ rule.resource.spec v = spec)) :
    rule.settled (fun _ => none) now traceID obj (.ok spec) (some v) = some v := by
  unfold settled outcome
  dsimp only
  cases hmanaged : isManaged (rule.resource.objectMeta v).labels with
  | false => rfl
  | true =>
    cases hunchanged : rule.unchanged traceID obj v spec with
    | true => rfl
    | false =>
      rw [hmanaged, hunchanged] at h
      obtain ⟨hlabels, hannotations, hspec⟩ := (h.resolve_left (by decide)).resolve_left (by decide)
      have hmeta : rule.updatedMeta traceID obj v spec = rule.resource.objectMeta v := by
        unfold updatedMeta
        rw [hannotations, if_pos hspec.symm, ← hlabels]
      have hput : rule.resource.put v (rule.updatedMeta traceID obj v spec) spec = v := by
        rw [hmeta, ← hspec]
        exact hlawful.put_self v
      rw [if_neg Bool.false_ne_true, hput]
      rfl

/-- A second upsert changes nothing. -/
theorem settled_settled (hlawful : Lawful rule) (now' : Time) (stored : Option T) :
    rule.settled (fun _ => none) now' traceID obj decoded
        (rule.settled (fun _ => none) now traceID obj decoded stored) =
      rule.settled (fun _ => none) now traceID obj decoded stored := by
  cases hdecoded : decoded with
  | error err => rfl
  | ok spec =>
    cases stored with
    | none =>
      -- The created object has what the snapshot asks for.
      refine settled_eq_self hlawful (.inr (.inr ?_))
      rw [hlawful.objectMeta_fresh, hlawful.spec_fresh]
      exact ⟨rfl, mergeTrace_twice ∅ traceID, rfl⟩
    | some existing =>
      -- Either the first upsert already leaves the object alone, or it updates it.
      by_cases hleft : isManaged (rule.resource.objectMeta existing).labels = false ∨
          rule.unchanged traceID obj existing spec = true
      · have hself : ∀ t, rule.settled (fun _ => none) t traceID obj (.ok spec) (some existing) =
            some existing :=
          fun t => settled_eq_self hlawful (hleft.imp_right .inl)
        rw [hself, hself]
      · rw [not_or, Bool.not_eq_false, Bool.not_eq_true] at hleft
        have hupdated : rule.settled (fun _ => none) now traceID obj (.ok spec) (some existing) =
            some (rule.resource.put existing
              (rule.updatedMeta traceID obj existing spec) spec) := by
          unfold settled outcome
          dsimp only
          rw [hleft.1, hleft.2, Bool.not_true, if_neg Bool.false_ne_true, if_neg Bool.false_ne_true]
          rfl
        rw [hupdated]
        refine settled_eq_self hlawful (.inr (.inr ?_))
        rw [hlawful.objectMeta_put, hlawful.spec_put]
        exact ⟨rfl, mergeTrace_twice _ traceID, rfl⟩

/-- The upsert on a store, name by name. -/
theorem upsert_getElem? (store : GoMap T) (k : String) :
    (rule.upsert faults now traceID obj decoded store).1[k]? =
      if k = obj.name then rule.settled faults now traceID obj decoded store[obj.name]?
      else store[k]? := by
  unfold upsert settled
  by_cases hk : k = obj.name
  · rw [if_pos hk, hk]
    cases (rule.outcome faults now traceID obj decoded store[obj.name]?).1 with
    | none => rfl
    | some v =>
      exact Std.ExtTreeMap.getElem?_insert_self
  · rw [if_neg hk]
    cases (rule.outcome faults now traceID obj decoded store[obj.name]?).1 with
    | none => rfl
    | some v =>
      dsimp only
      rw [getElem?_insert_key, if_neg fun h => hk h.symm]

end UpsertRule

/-! ## Prune -/

section

variable {T S : Type} (r : Resource T S) (faults : ApiFaults) (now : Time)

/-- A labelled object after the delete of its name. -/
def pruned (name : String) (v : T) : Option T :=
  if managedByLabel ∈ (r.objectMeta v).labels then
    match faults ⟨.delete, r.kind, name⟩ with
    | some _ => some v
    | none =>
      if (r.objectMeta v).finalizers = [] then none
      else
        some (r.put v
          { r.objectMeta v with
            deletionTimestamp := (r.objectMeta v).deletionTimestamp.or (some now) }
          (r.spec v))
  else some v

/-- One round of `pruneStore`. -/
def pruneEntry (keep : String → Bool) (e : String × T) (store : GoMap T) : Written T :=
  if keep e.1 then (store, none) else written store (r.delete faults now e.1 e.2 store)

variable {k : String} {e : String × T} {store : GoMap T} {v : T}

theorem pruneEntry_other (keep : String → Bool) (e : String × T) (store : GoMap T) (hk : k ≠ e.1) :
    (pruneEntry r faults now keep e store).1[k]? = store[k]? := by
  unfold pruneEntry
  split
  · rfl
  · rcases r.delete_cases faults now e.1 e.2 store with ⟨err, heq⟩ | heq | ⟨t, heq⟩
    · rw [heq]
      rfl
    · rw [heq]
      exact (getElem?_erase_key store e.1 k).trans (if_neg hk.symm)
    · rw [heq]
      exact (getElem?_insert_key store e.1 k _).trans (if_neg hk.symm)

/-- A round for a labelled object that is stored. -/
theorem pruneEntry_own (keep : String → Bool) (hstored : store[e.1]? = some e.2)
    (hlabel : managedByLabel ∈ (r.objectMeta e.2).labels) :
    (pruneEntry r faults now keep e store).1[e.1]? =
        (if keep e.1 then some e.2 else pruned r faults now e.1 e.2) ∧
      ((pruneEntry r faults now keep e store).2 = none →
        keep e.1 = true ∨ faults ⟨.delete, r.kind, e.1⟩ = none) := by
  unfold pruneEntry
  cases hkeep : keep e.1 with
  | true => exact ⟨hstored, fun _ => .inl rfl⟩
  | false =>
    unfold pruned Resource.delete
    rw [if_pos hlabel]
    cases hfault : faults ⟨.delete, r.kind, e.1⟩ with
    | some err => exact ⟨hstored, fun h => by cases h⟩
    | none =>
      refine ⟨?_, fun _ => .inr rfl⟩
      by_cases hfinalizers : (r.objectMeta e.2).finalizers = []
      · rw [if_pos hfinalizers, if_pos hfinalizers]
        exact Std.ExtTreeMap.getElem?_erase_self
      · rw [if_neg hfinalizers, if_neg hfinalizers]
        exact Std.ExtTreeMap.getElem?_insert_self

theorem pruneEntry_local (keep : String → Bool) :
    LocalWrite (fun (store : GoMap T) (k : String) => store[k]?) Prod.fst
      (pruneEntry r faults now keep) where
  other e store k hk := pruneEntry_other r faults now keep e store hk
  own e store store' hsame := by
    unfold pruneEntry
    cases keep e.1 with
    | true => exact ⟨hsame, rfl⟩
    | false =>
      unfold Resource.delete
      cases faults ⟨.delete, r.kind, e.1⟩ with
      | some err => exact ⟨hsame, rfl⟩
      | none =>
        by_cases hfinalizers : (r.objectMeta e.2).finalizers = []
        · rw [if_pos hfinalizers, if_pos hfinalizers]
          refine ⟨?_, rfl⟩
          exact Std.ExtTreeMap.getElem?_erase_self.trans Std.ExtTreeMap.getElem?_erase_self.symm
        · rw [if_neg hfinalizers, if_neg hfinalizers]
          refine ⟨?_, rfl⟩
          exact Std.ExtTreeMap.getElem?_insert_self.trans Std.ExtTreeMap.getElem?_insert_self.symm

/-- The labelled objects of a store. -/
def labelled (store : GoMap T) : List (String × T) :=
  store.toList.filter fun e => managedByLabel ∈ (r.objectMeta e.2).labels

theorem mem_labelled : e ∈ labelled r store ↔
      store[e.1]? = some e.2 ∧ managedByLabel ∈ (r.objectMeta e.2).labels := by
  unfold labelled
  rw [List.mem_filter, decide_eq_true_iff]
  exact and_congr_left' (mem_toList_iff store e.1 e.2)

theorem labelled_keys_nodup (store : GoMap T) : ((labelled r store).map Prod.fst).Nodup := by
  have hkeys : (store.toList.map Prod.fst).Nodup := by
    rw [Std.ExtTreeMap.map_fst_toList_eq_keys]
    exact keys_nodup store
  exact hkeys.sublist (List.filter_sublist.map Prod.fst)

/-- `pruneStore` is a loop of local writes. -/
theorem pruneStore_eq (text : String) (keep : String → Bool) (store : GoMap T) :
    pruneStore r faults now text keep store =
      ((writeAll (pruneEntry r faults now keep) (labelled r store) store).1,
        (labelled r store).flatMap fun e =>
          ((pruneEntry r faults now keep e store).2.map fun err =>
            "prune " ++ text ++ " " ++ e.1 ++ ": " ++ err).toList) := by
  have hloop := (pruneEntry_local r faults now keep).foldl_eq
    (fun e err => (err.map fun err => "prune " ++ text ++ " " ++ e.1 ++ ": " ++ err).toList)
    (labelled_keys_nodup r store) store []
  rw [List.nil_append] at hloop
  rw [← hloop]
  refine congrArg (fun step => (labelled r store).foldl step (store, [])) ?_
  funext acc e
  unfold pruneEntry
  cases keep e.1 with
  | true => exact Prod.ext rfl (List.append_nil _).symm
  | false =>
    cases r.delete faults now e.1 e.2 acc.1 with
    | ok store' => exact Prod.ext rfl (List.append_nil _).symm
    | error err => rfl

/-- The prune of a store, name by name. -/
theorem pruneStore_getElem? (text : String) (keep : String → Bool) (store : GoMap T) (k : String) :
    (pruneStore r faults now text keep store).1[k]? =
      if keep k then store[k]? else store[k]?.bind (pruned r faults now k) := by
  rw [pruneStore_eq]
  have hlocal := pruneEntry_local r faults now keep
  by_cases hmem : k ∈ (labelled r store).map Prod.fst
  · obtain ⟨e, he, hek⟩ := List.mem_map.mp hmem
    obtain ⟨hstored, hlabel⟩ := (mem_labelled r).mp he
    have hown := hlocal.writeAll_own (labelled_keys_nodup r store) store e he
    rw [hek] at hown
    refine hown.trans ?_
    have hentry := (pruneEntry_own r faults now keep hstored hlabel).1
    rw [hek] at hentry hstored
    rw [hentry, hstored]
    rfl
  · refine (hlocal.writeAll_other store hmem).trans ?_
    cases hstored : store[k]? with
    | none => split <;> rfl
    | some v =>
      have hunlabelled : managedByLabel ∉ (r.objectMeta v).labels := by
        intro hlabel
        exact hmem (List.mem_map_of_mem (f := Prod.fst)
          ((mem_labelled r (e := (k, v))).mpr ⟨hstored, hlabel⟩))
      have hpruned : pruned r faults now k v = some v := if_neg hunlabelled
      split
      · rfl
      · exact hpruned.symm

/-- A prune without errors has deleted everything it should. -/
theorem pruneStore_no_errors {text : String} {keep : String → Bool}
    (h : (pruneStore r faults now text keep store).2 = []) (hstored : store[k]? = some v)
    (hlabel : managedByLabel ∈ (r.objectMeta v).labels) :
    keep k = true ∨ faults ⟨.delete, r.kind, k⟩ = none := by
  rw [pruneStore_eq] at h
  have hmem : (k, v) ∈ labelled r store := (mem_labelled r).mpr ⟨hstored, hlabel⟩
  have hentry := List.flatMap_eq_nil_iff.mp h (k, v) hmem
  refine (pruneEntry_own r faults now keep (e := (k, v)) hstored hlabel).2 ?_
  cases herr : (pruneEntry r faults now keep (k, v) store).2 with
  | none => rfl
  | some err =>
    rw [herr] at hentry
    cases hentry

end

variable {T S : Type} {rule : UpsertRule T S} {now : Time}

/-- A labelled object that is left after its delete is marked. -/
theorem pruned_marked (hlawful : rule.Lawful) {faults : ApiFaults} {name : String} {v v' : T}
    (hfault : faults ⟨.delete, rule.resource.kind, name⟩ = none)
    (hlabel : managedByLabel ∈ (rule.resource.objectMeta v).labels)
    (h : pruned rule.resource faults now name v = some v') :
    (rule.resource.objectMeta v').deletionTimestamp ≠ none := by
  unfold pruned at h
  rw [if_pos hlabel, hfault] at h
  dsimp only at h
  split at h
  · cases h
  · cases h
    rw [hlawful.objectMeta_put]
    cases (rule.resource.objectMeta v).deletionTimestamp <;> simp

/-- A second delete changes nothing. -/
theorem pruned_pruned (hlawful : rule.Lawful) (now' : Time) (name : String) (v : T) :
    (pruned rule.resource (fun _ => none) now name v).bind
        (pruned rule.resource (fun _ => none) now' name) =
      pruned rule.resource (fun _ => none) now name v := by
  unfold pruned
  by_cases hlabel : managedByLabel ∈ (rule.resource.objectMeta v).labels
  · rw [if_pos hlabel]
    by_cases hfinalizers : (rule.resource.objectMeta v).finalizers = []
    · rw [if_pos hfinalizers]
      rfl
    · rw [if_neg hfinalizers, Option.bind_some, hlawful.objectMeta_put, if_pos hlabel,
        if_neg hfinalizers, hlawful.spec_put]
      -- The time of the first delete stays.
      have htime : ((rule.resource.objectMeta v).deletionTimestamp.or (some now)).or (some now') =
          (rule.resource.objectMeta v).deletionTimestamp.or (some now) := by
        cases (rule.resource.objectMeta v).deletionTimestamp <;> rfl
      rw [htime]
      have hself := hlawful.put_self (rule.resource.put v { rule.resource.objectMeta v with
          deletionTimestamp := (rule.resource.objectMeta v).deletionTimestamp.or (some now) }
        (rule.resource.spec v))
      rw [hlawful.objectMeta_put, hlawful.spec_put] at hself
      rw [hself]
  · rw [if_neg hlabel, Option.bind_some, if_neg hlabel]

end KubeSentry.Hublink
