import KubeSentry.Operator.PolicyVersions
import KubeSentry.Webhook.PolicyCache

/-!
# What the webhook makes of a policy's status

`syncPolicy` of `cmd/webhook/main.go` is the event handler of the webhook's policy
informer: it keeps a policy in the cache while its phase is Ready and its rego compiles,
and drops it otherwise.  `getElem?_syncPolicy` says which entry it leaves.

The reconciler answers a rollback to a version that is not there with phase Invalid, and
leaves the spec as it is.  The second part follows such a reconcile from the API calls to
the cache.  Nobody else touches the policy meanwhile, so that the four calls of the
reconcile can only fail for reasons of their own: `WriteLost` lists the ways in which the
new status does not reach the server.  In all other cases the policy that was enforced
before is not in the cache any more.

`DefaultMode` of a compiled policy is set by `syncPolicy` and read by nothing.
-/

namespace KubeSentry.Webhook

open GoLib

section

variable {Query : Type}

/-! ## The event handler -/

def setPolicy (c : PolicyCache Query) (name : String) (p : CompiledPolicy Query) :
    PolicyCache Query :=
  { c with policies := c.policies.insert name p }

def deletePolicy (c : PolicyCache Query) (name : String) : PolicyCache Query :=
  { c with policies := c.policies.erase name }

/-- The entry that `syncPolicy` makes of a policy and its query. -/
def compiledPolicy (p : PolicyObject) (query : Query) : CompiledPolicy Query where
  name := p.name
  description := p.spec.description
  matching := p.spec.matching
  query := query
  referencedBy := p.status.referencedBy

variable (compileRego : String → Except String Query)

def syncPolicy (c : PolicyCache Query) (p : PolicyObject) : PolicyCache Query :=
  if p.status.phase ≠ .ready then deletePolicy c p.name
  else
    match compileRego p.spec.rego with
    | .error _ => deletePolicy c p.name
    | .ok query => setPolicy c p.name (compiledPolicy p query)

/-- The entry of a policy after its event. -/
def observed (p : PolicyObject) : Option (CompiledPolicy Query) :=
  if p.status.phase ≠ .ready then none
  else
    match compileRego p.spec.rego with
    | .error _ => none
    | .ok query => some (compiledPolicy p query)

/-- An event decides the entry of its policy, whatever the cache held, and no other. -/
theorem getElem?_syncPolicy (c : PolicyCache Query) (p : PolicyObject) (name : String) :
    (syncPolicy compileRego c p).policies[name]? =
      if p.name = name then observed compileRego p else c.policies[name]? := by
  have hdelete : (deletePolicy c p.name).policies[name]? =
      if p.name = name then none else c.policies[name]? := getElem?_erase_key _ _ _
  unfold syncPolicy observed
  by_cases hphase : p.status.phase ≠ .ready
  · rw [if_pos hphase, if_pos hphase, hdelete]
  · rw [if_neg hphase, if_neg hphase]
    cases compileRego p.spec.rego with
    | error err => exact hdelete
    | ok query => exact getElem?_insert_key c.policies p.name name (compiledPolicy p query)

end

/-! ## A rollback to a version that is not there -/

section

open Operator Operator.PolicyReconciler

/-- The policy with the status that the failed rollback asks for. -/
def rollbackFailed (p : PolicyObject) (targetVersion : Int) : PolicyObject :=
  { p with status := { p.status with
      phase := .invalid
      message := "rollback target version " ++ toString targetVersion ++ " not found" } }

/-- The answers to the calls of the reconcile: the read of the policy, the list of the
versions, the read before the status update, and the update. -/
structure RollbackCalls where
  get : ApiInput := {}
  list : ApiInput := {}
  getLatest : ApiInput := {}
  update : ApiInput := {}

/-- The new status does not reach the server: a read failed, or the update failed and
was not carried out. -/
def RollbackCalls.WriteLost (calls : RollbackCalls) : Prop :=
  calls.get.fault.isSome ∨ calls.list.fault.isSome ∨ calls.getLatest.fault.isSome ∨
    (calls.update.fault.isSome ∧ calls.update.carriedOut = false)

instance (calls : RollbackCalls) : Decidable calls.WriteLost :=
  inferInstanceAs (Decidable (_ ∨ _ ∨ _ ∨ _))

variable {s : PolicyWorld}

theorem exec_updateStatus_latest (desired : PolicyObject) (input : ApiInput) :
    ((updateStatus s.policy desired).exec s [input]).1 =
        (if input.fault.isSome ∧ input.carriedOut = false then s
         else s.writeStatus s.policy desired) ∧
      ∀ err, ((updateStatus s.policy desired).exec s [input]).2.1 = .error err →
        err.reason = .other := by
  obtain ⟨now, fault, carriedOut⟩ := input
  unfold updateStatus apiWrite
  simp only [Prog.atomic, Prog.exec, List.headD_cons, if_pos]
  cases fault with
  | none => exact ⟨rfl, fun err h => by cases h⟩
  | some text =>
    cases carriedOut with
    | true => exact ⟨rfl, fun err h => by cases h; rfl⟩
    | false => exact ⟨rfl, fun err h => by cases h; rfl⟩

/-- Without others no round meets a conflict, and the first one is the last. -/
theorem exec_updatePolicyStatus (desired : PolicyObject) (getLatest update : ApiInput) :
    ((updatePolicyStatus desired).exec s [getLatest, update]).1 =
      if getLatest.fault.isSome ∨ (update.fault.isSome ∧ update.carriedOut = false) then s
      else s.writeStatus s.policy desired := by
  cases hfault : getLatest.fault with
  | some text =>
    have hbody : (updateLatestStatus desired).exec s [getLatest, update] =
        (s, .error ⟨.other, text⟩, [update]) := exec_apiRead_fault hfault _ s [update]
    rw [updatePolicyStatus, exec_retryOnConflict, hbody]
    · simp
    · intro err herr
      rw [hbody] at herr
      cases herr
      simp
  | none =>
    obtain ⟨hstate, herror⟩ := exec_updateStatus_latest (s := s) desired update
    have hbody : (updateLatestStatus desired).exec s [getLatest, update] =
        (updateStatus s.policy desired).exec s [update] := exec_apiRead_ok hfault _ s [update]
    rw [updatePolicyStatus, exec_retryOnConflict, hbody]
    · simpa using hstate
    · intro err herr
      rw [hbody] at herr
      simp [herror err herr]

variable [GoUnicode] [RegoCompiler]

/-- The state that a reconcile without others leaves. -/
def reconciled (versionHistoryLimit : Nat) (s : PolicyWorld) (calls : RollbackCalls) :
    PolicyWorld :=
  ((reconcile versionHistoryLimit).exec s
    [calls.get, calls.list, calls.getLatest, calls.update]).1

theorem reconciled_missing {targetVersion : Int}
    (hrollback : s.policy.spec.rollbackTo = some targetVersion)
    (hmissing : s.versions.find? targetVersion = none) (versionHistoryLimit : Nat)
    (calls : RollbackCalls) :
    reconciled versionHistoryLimit s calls =
      if calls.WriteLost then s
      else s.writeStatus s.policy (rollbackFailed s.policy targetVersion) := by
  unfold reconciled
  rw [PolicyReconciler.reconcile, getPolicy]
  cases hget : calls.get.fault with
  | some text =>
    have hlost : calls.WriteLost := .inl (by simp [hget])
    rw [exec_apiRead_fault hget, if_pos hlost]
    rfl
  | none =>
    rw [exec_apiRead_ok hget]
    simp only [hrollback]
    rw [handleRollback]
    cases hlist : calls.list.fault with
    | some text =>
      have hlost : calls.WriteLost := .inr (.inl (by simp [hlist]))
      rw [exec_apiRead_fault hlist, if_pos hlost]
      rfl
    | none =>
      have hlost : calls.WriteLost ↔ calls.getLatest.fault.isSome ∨
          (calls.update.fault.isSome ∧ calls.update.carriedOut = false) := by
        simp [RollbackCalls.WriteLost, hget, hlist]
      rw [exec_apiRead_ok hlist, if_congr hlost rfl rfl, ← exec_updatePolicyStatus]
      simp only [hmissing]
      -- the outcome of the write decides only what the reconcile returns
      rw [Prog.exec_bind, PolicyReconciler.setInvalid, ← rollbackFailed]
      generalize (updatePolicyStatus (rollbackFailed s.policy targetVersion)).exec s
        [calls.getLatest, calls.update] = outcome
      obtain ⟨s', r, rest⟩ := outcome
      cases r <;> rfl

variable {Query : Type} (compileRego : String → Except String Query)

/-- The policy has an entry before and after, with one query and one match. -/
def StaysCached (name : String) (before after : PolicyCache Query) : Prop :=
  ∃ entry entry' : CompiledPolicy Query, before.policies[name]? = some entry ∧
    after.policies[name]? = some entry' ∧ entry'.query = entry.query ∧
      entry'.matching = entry.matching

/-- A policy that is enforced, and whose spec asks for a version that is not there, stays in
the cache exactly if the reconcile does not get its status to the server. -/
theorem failed_rollback_stays_cached_iff {targetVersion : Int} {query : Query}
    (hready : s.policy.status.phase = .ready)
    (hcompiles : compileRego s.policy.spec.rego = .ok query)
    (hrollback : s.policy.spec.rollbackTo = some targetVersion)
    (hmissing : s.versions.find? targetVersion = none) (versionHistoryLimit : Nat)
    (calls : RollbackCalls) (c : PolicyCache Query) :
    StaysCached s.policy.name (syncPolicy compileRego c s.policy)
        (syncPolicy compileRego (syncPolicy compileRego c s.policy)
          (reconciled versionHistoryLimit s calls).policy) ↔
      calls.WriteLost := by
  have hname : (reconciled versionHistoryLimit s calls).policy.name = s.policy.name := by
    rw [reconciled_missing hrollback hmissing]
    split
    · rfl
    · rfl
  have hbefore : observed compileRego s.policy = some (compiledPolicy s.policy query) := by
    simp [observed, hready, hcompiles]
  unfold StaysCached
  rw [getElem?_syncPolicy, if_pos rfl, getElem?_syncPolicy, if_pos hname, hbefore]
  rw [reconciled_missing hrollback hmissing]
  by_cases hlost : calls.WriteLost
  · rw [if_pos hlost, hbefore]
    exact iff_of_true ⟨_, _, rfl, rfl, rfl, rfl⟩ hlost
  · have hdropped : observed compileRego
        (s.writeStatus s.policy (rollbackFailed s.policy targetVersion)).policy = none := by
      simp [observed, PolicyWorld.writeStatus, rollbackFailed]
    rw [if_neg hlost, hdropped]
    refine iff_of_false ?_ hlost
    intro ⟨entry, entry', _, hentry, _⟩
    cases hentry

end

open Operator Operator.PolicyReconciler

attribute [local instance] GoUnicode.ascii RegoCompiler.lenient

/-- A policy at version 3 whose spec asks for version 1, which has been pruned. -/
def prunedTarget : PolicyWorld where
  policy :=
    { name := "require-labels"
      spec := { PolicySpec.auditPods "package kubesentry" with rollbackTo := some 1 }
      generation := 4
      status := { phase := .ready, currentVersion := 3, observedGeneration := 3 } }
  versions := .empty

/-- No call fails, and the policy is dropped. -/
theorem failed_rollback_drops_policy :
    prunedTarget.policy.status.phase = .ready ∧
      prunedTarget.policy.spec.rollbackTo = some 1 ∧
      prunedTarget.versions.find? 1 = none ∧
      (syncPolicy Except.ok {} prunedTarget.policy).policies["require-labels"]? =
        some (compiledPolicy prunedTarget.policy "package kubesentry") ∧
      (syncPolicy Except.ok (syncPolicy Except.ok {} prunedTarget.policy)
        (reconciled 10 prunedTarget {}).policy).policies["require-labels"]? = none := by
  refine ⟨rfl, rfl, rfl, ?_, ?_⟩
  · rfl
  · rw [getElem?_syncPolicy]
    rfl

theorem failed_rollback_stays_cached_lost_write :
    StaysCached "require-labels" (syncPolicy Except.ok {} prunedTarget.policy)
      (syncPolicy Except.ok (syncPolicy Except.ok {} prunedTarget.policy)
        (reconciled 10 prunedTarget { update := { fault := some "timeout" } }).policy) :=
  (failed_rollback_stays_cached_iff Except.ok (s := prunedTarget) rfl rfl rfl rfl 10
    { update := { fault := some "timeout" } } {}).mpr (by decide)

end KubeSentry.Webhook
