import KubeSentry.Operator.PolicyVersions
import KubeSentry.Operator.GroupReconciler

/-!
# Two writers of one status

The policy reconciler owns six fields of a policy's status, and the policy group
reconciler owns `referencedBy`, but a status update carries all of them.  Both writers
read the policy, change their fields in what they have read, and send it back; the server
refuses the update if the policy has changed since.

Here both run at once on one policy.  Each of them works on its own view of the shared
world, with the programs that `PolicyVersions` and `GroupReconciler` have for them.  Users
edit the policy at the same time.  Two lists record the updates that the server has
accepted: `writes` has what the policy reconciler wanted to store, and `refreshes` the
references that the group reconciler sent.

A stored policy has a new resource version after each change (`Newer`), and so an update
that is not refused finds the policy that the writer has read.  Then the update changes
the writer's own fields only, and in every run the status is put together from the last
updates of both.
-/

namespace KubeSentry.Operator.SharedStatus

open GoLib Prog

/-! ## A change shows in the resource version -/

/-- The second policy is the first one at a later time. -/
def Newer (p p' : PolicyObject) : Prop :=
  p' = p ∨ p.resourceVersion < p'.resourceVersion

variable {p p' : PolicyObject}

theorem Newer.trans {p'' : PolicyObject} (h : Newer p p') (h' : Newer p' p'') : Newer p p'' := by
  rcases h with heq | hlt
  · rw [heq] at h'
    exact h'
  · rcases h' with heq' | hlt'
    · rw [heq']
      exact .inr hlt
    · exact .inr (hlt.trans hlt')

/-- The check of the server: an unchanged resource version is an unchanged policy. -/
theorem Newer.eq_of_resourceVersion (h : Newer p p')
    (hversion : p.resourceVersion = p'.resourceVersion) : p' = p := by
  rcases h with heq | hlt
  · exact heq
  · omega

/-! ## The shared world -/

structure SharedWorld where
  policy : PolicyObject
  cluster : GroupReconciler.GroupWorld
  versions : PolicyReconciler.VersionTable
  writes : List PolicyReconciler.StatusWrite := []
  refreshes : List (List String) := []

namespace SharedWorld

/-- What the policy reconciler works on. -/
def policyView (s : SharedWorld) : PolicyReconciler.PolicyWorld where
  policy := s.policy
  versions := s.versions
  writes := s.writes

def putPolicyView (s : SharedWorld) (t : PolicyReconciler.PolicyWorld) : SharedWorld :=
  { s with policy := t.policy, versions := t.versions, writes := t.writes }

/-- What the group reconciler works on.  The next revision is above all others. -/
def clusterView (name : String) (s : SharedWorld) : GroupReconciler.GroupWorld :=
  { s.cluster with
    policies := s.cluster.policies.insert name s.policy
    revision := max s.cluster.revision s.policy.resourceVersion }

/-- A change of the policy is an accepted update with the references `refs`. -/
def putClusterView (name : String) (refs : List String) (s : SharedWorld)
    (t : GroupReconciler.GroupWorld) : SharedWorld :=
  match t.policies[name]? with
  | none => { s with cluster := t }
  | some policy =>
    { s with
      policy := policy
      cluster := t
      refreshes := if policy = s.policy then s.refreshes else s.refreshes ++ [refs] }

/-- The status with the fields of the last accepted updates, and the fields of `initial`
where there was none. -/
def lastWritten (initial : PolicyStatus) (s : SharedWorld) : PolicyStatus :=
  { (s.writes.getLast?.map (·.policy.status)).getD initial with
    referencedBy := s.refreshes.getLast?.getD initial.referencedBy }

def Composed (initial : PolicyStatus) (s : SharedWorld) : Prop :=
  s.policy.status = s.lastWritten initial

/-- The others may have written later versions of the policy. -/
def Later (s s' : SharedWorld) : Prop :=
  Newer s.policy s'.policy

theorem Later.refl (s : SharedWorld) : s.Later s := .inl rfl

theorem Later.trans (s s' s'' : SharedWorld) (h : s.Later s') (h' : s'.Later s'') : s.Later s'' :=
  Newer.trans h h'

end SharedWorld

open SharedWorld

/-- The operations on the policy: the two status updates of the policy reconciler, the
body of the loop of `refreshReferencedBy` for this policy with the references that the
groups gave, and an edit of the spec. -/
inductive StatusOp where
  | setInvalid (policy : PolicyObject) (msg : String)
  | updateReady (versionHistoryLimit : Nat) (policy : PolicyObject) (version : Int) (now : Time)
  | refreshReferencedBy (refs : List String)
  | editSpec (spec : PolicySpec)

open PolicyReconciler (updatePolicyStatus readyPolicy) in
def StatusOp.code (name : String) : StatusOp → ApiProg SharedWorld Unit
  | .setInvalid policy msg => do
    let _ ← (PolicyReconciler.setInvalid policy msg).focus
      policyView putPolicyView
  | .updateReady versionHistoryLimit policy version now => do
    let _ ← (updatePolicyStatus (readyPolicy versionHistoryLimit policy version now)).focus
      policyView putPolicyView
  | .refreshReferencedBy refs => do
    let _ ← (retryOnConflict (GroupReconciler.refreshLatestPolicy name refs) 3).focus
      (clusterView name) (putClusterView name refs)
  | .editSpec spec =>
    .atomic fun s _ => ({ s with policy := PolicyReconciler.editSpec spec s.policy }, ())

/-! ## The policy reconciler in its view -/

section

open PolicyReconciler

/-- A call stores nothing, or the fields of `desired` in the policy as it is. -/
def StoresStatus (desired : PolicyObject) (s s' : PolicyWorld) : Prop :=
  s' = s ∨ s' = s.writeStatus s.policy desired

theorem ensures_updateLatestStatus (desired : PolicyObject) (s0 : PolicyWorld) :
    Ensures (fun s s' => Newer s.policy s'.policy) Any
      (StoresStatus desired) Any s0 (updateLatestStatus desired) := by
  refine ensures_bind (ensures_apiRead (fun s _ _ => .inl rfl) (fun s text _ => trivial) ?_)
  intro s i _ _
  refine ensures_apiWrite_of_fail (fun s => .inl rfl) (fun _ _ _ => trivial) ?_
  intro s' i' s'' hnewer _ hwrite
  -- the update is accepted only if nobody has changed the policy since it was read
  split at hwrite
  · rename_i hversion
    have hread : s'.policy = s.policy := hnewer.eq_of_resourceVersion hversion
    cases hwrite
    rw [← hread]
    exact ⟨.inr rfl, trivial, fun _ => trivial⟩
  · cases hwrite

theorem ensures_updatePolicyStatus (desired : PolicyObject) (s0 : PolicyWorld) :
    Ensures (fun s s' => Newer s.policy s'.policy) Any
      (StoresStatus desired) Any s0 (updatePolicyStatus desired) := by
  refine ensures_retryOnConflict (P := fun _ => True) (fun s1 _ => ?_) 3 trivial
  exact ensures_mono (fun _ _ _ => ⟨trivial, fun _ _ _ => trivial⟩)
    (ensures_updateLatestStatus desired s1)

end

/-! ## The group reconciler in its view -/

section

open GroupReconciler

/-- The policy is there, in a later state. -/
def KeepsPolicy (name : String) (s s' : GroupWorld) : Prop :=
  ∀ p, s.policies[name]? = some p → ∃ p', s'.policies[name]? = some p' ∧ Newer p p'

theorem KeepsPolicy.trans {name : String} (s s' s'' : GroupWorld) (h : KeepsPolicy name s s')
    (h' : KeepsPolicy name s' s'') : KeepsPolicy name s s'' := by
  intro p hp
  obtain ⟨p', hp', hnewer⟩ := h p hp
  obtain ⟨p'', hp'', hnewer'⟩ := h' p' hp'
  exact ⟨p'', hp'', hnewer.trans hnewer'⟩

/-- A call stores nothing, or the references in the policy as it is. -/
def StoresReferences (name : String) (refs : List String) (s s' : GroupWorld) : Prop :=
  s' = s ∨ ∃ p, s.policies[name]? = some p ∧
    s' = s.putPolicy name { p with status := { p.status with referencedBy := refs } }

theorem ensures_refreshLatestPolicy (name : String) (refs : List String) (s0 : GroupWorld) :
    Ensures (KeepsPolicy name) Any (StoresReferences name refs)
      Any s0 (refreshLatestPolicy name refs) := by
  refine ensures_bind (ensures_apiRead (fun s _ _ => .inl rfl) (fun s text _ => trivial) ?_)
  intro s i _ _
  cases hread : s.policies[name]? with
  | none => exact trivial
  | some pol =>
    show Ensures _ _ _ _ s (if pol.status.referencedBy = refs then .ret (.ok ())
      else writeReferencedBy name pol refs)
    split
    · exact trivial
    · refine ensures_apiWrite_of_fail (fun s => .inl rfl) (fun _ _ _ => trivial) ?_
      intro s' i' s'' hkeeps _ hwrite
      obtain ⟨stored, hstored, hnewer⟩ := hkeeps pol hread
      rw [hstored] at hwrite
      dsimp only at hwrite
      split at hwrite
      · cases hwrite
      · rename_i hversion
        have hsame : stored = pol := hnewer.eq_of_resourceVersion (not_not.mp hversion).symm
        cases hwrite
        rw [hsame]
        exact ⟨.inr ⟨pol, hsame ▸ hstored, rfl⟩, trivial, fun _ => trivial⟩

end

/-! ## What a call does to the shared world -/

/-- The four things that a call can do. -/
inductive StatusStep (s s' : SharedWorld) : Prop where
  | unchanged (policy : s'.policy = s.policy) (writes : s'.writes = s.writes)
    (refreshes : s'.refreshes = s.refreshes)
  | reconciled (w : PolicyReconciler.StatusWrite)
    (version : s.policy.resourceVersion < s'.policy.resourceVersion) (status : s'.policy.status =
      { w.policy.status with referencedBy := s.policy.status.referencedBy })
    (writes : s'.writes = s.writes ++ [w]) (refreshes : s'.refreshes = s.refreshes)
  | refreshed (refs : List String)
    (version : s.policy.resourceVersion < s'.policy.resourceVersion)
    (status : s'.policy.status = { s.policy.status with referencedBy := refs })
    (writes : s'.writes = s.writes) (refreshes : s'.refreshes = s.refreshes ++ [refs])
  | edited (version : s.policy.resourceVersion < s'.policy.resourceVersion)
    (status : s'.policy.status = s.policy.status) (writes : s'.writes = s.writes)
    (refreshes : s'.refreshes = s.refreshes)

variable {s s' : SharedWorld}

theorem StatusStep.later (h : StatusStep s s') : s.Later s' := by
  cases h with
  | unchanged policy => exact .inl policy
  | reconciled w version => exact .inr version
  | refreshed refs version => exact .inr version
  | edited version => exact .inr version

/-- Each writer leaves the fields of the other as they are. -/
theorem StatusStep.composed (h : StatusStep s s') {initial : PolicyStatus}
    (hs : s.Composed initial) : s'.Composed initial := by
  unfold Composed lastWritten at hs ⊢
  cases h with
  | unchanged policy writes refreshes => rw [policy, writes, refreshes, hs]
  | reconciled w version status writes refreshes =>
    rw [status, writes, refreshes, hs]
    simp
  | refreshed refs version status writes refreshes =>
    rw [status, writes, refreshes, hs]
    simp
  | edited version status writes refreshes => rw [status, writes, refreshes, hs]

theorem statusStep_putPolicyView {desired : PolicyObject} {t : PolicyReconciler.PolicyWorld}
    (h : StoresStatus desired s.policyView t) : StatusStep s (s.putPolicyView t) := by
  rcases h with hsame | hstored
  · rw [hsame]
    exact .unchanged rfl rfl rfl
  · rw [hstored]
    exact .reconciled ⟨desired, s.versions⟩ (Nat.lt_succ_self _) rfl rfl rfl

variable {name : String}

theorem statusStep_putClusterView {refs : List String} {t : GroupReconciler.GroupWorld}
    (h : StoresReferences name refs (s.clusterView name) t) :
    StatusStep s (s.putClusterView name refs t) := by
  have hview : (s.clusterView name).policies[name]? = some s.policy := by
    simp [clusterView]
  unfold putClusterView
  rcases h with hsame | ⟨p, hp, hstored⟩
  · rw [hsame, hview]
    exact .unchanged rfl rfl (if_pos rfl)
  · rw [hview] at hp
    cases hp
    -- the revision of the view is above the version of the policy
    have hversion : s.policy.resourceVersion < (s.clusterView name).revision + 1 :=
      Nat.lt_succ_of_le (Nat.le_max_right _ _)
    generalize hnew : ({ s.policy with
      status := { s.policy.status with referencedBy := refs }
      resourceVersion := (s.clusterView name).revision + 1 } : PolicyObject) = new
    have hlookup : t.policies[name]? = some new := by
      rw [hstored, ← hnew]
      simp [GroupReconciler.GroupWorld.putPolicy]
    have hlater : s.policy.resourceVersion < new.resourceVersion := by
      rw [← hnew]
      exact hversion
    have hchanged : new ≠ s.policy := by
      intro heq
      rw [heq] at hlater
      omega
    rw [hlookup]
    exact .refreshed refs hlater (by rw [← hnew]) rfl (if_neg hchanged)

/-- The policy in the view is the one that was put there. -/
theorem keepsPolicy_putClusterView (refs : List String) (s : SharedWorld)
    (t : GroupReconciler.GroupWorld) :
    KeepsPolicy name t ((s.putClusterView name refs t).clusterView name) := by
  intro p hp
  refine ⟨p, ?_, .inl rfl⟩
  unfold putClusterView
  rw [hp]
  simp [clusterView]

theorem ensures_focus_updatePolicyStatus (desired : PolicyObject) (s0 : SharedWorld) :
    Ensures Later Any StatusStep
      Any s0 ((PolicyReconciler.updatePolicyStatus desired).focus
        policyView putPolicyView) := by
  have hpart := ensures_updatePolicyStatus desired s0.policyView
  refine ensures_focus policyView putPolicyView
    (fun _ _ _ h h' => h.trans h') (fun _ _ h => h) ?_ (fun _ _ _ _ _ => trivial) (.inl rfl) hpart
  intro s t hstores
  exact ⟨statusStep_putPolicyView hstores, .inl rfl⟩

theorem ensures_focus_refreshLatestPolicy (name : String) (refs : List String) (s0 : SharedWorld) :
    Ensures Later Any StatusStep Any s0
      ((retryOnConflict (GroupReconciler.refreshLatestPolicy name refs) 3).focus
        (clusterView name) (putClusterView name refs)) := by
  have hpart : Ensures (KeepsPolicy name) Any (StoresReferences name refs)
      Any (s0.clusterView name)
      (retryOnConflict (GroupReconciler.refreshLatestPolicy name refs) 3) := by
    refine ensures_retryOnConflict (P := fun _ => True) (fun s1 _ => ?_) 3 trivial
    exact ensures_mono (fun _ _ _ => ⟨trivial, fun _ _ _ => trivial⟩)
      (ensures_refreshLatestPolicy name refs s1)
  refine ensures_focus (clusterView name) (putClusterView name refs)
    KeepsPolicy.trans ?_ ?_ (fun _ _ _ _ _ => trivial) (fun p hp => ⟨p, hp, .inl rfl⟩) hpart
  · intro s s' hnewer p hp
    have hview : (s.clusterView name).policies[name]? = some s.policy := by
      simp [clusterView]
    rw [hview] at hp
    cases hp
    exact ⟨s'.policy, by simp [clusterView], hnewer⟩
  · intro s t hstores
    exact ⟨statusStep_putClusterView hstores, keepsPolicy_putClusterView refs s t⟩

theorem statusStep_editSpec (spec : PolicySpec) (s : SharedWorld) :
    StatusStep s { s with policy := PolicyReconciler.editSpec spec s.policy } := by
  unfold PolicyReconciler.editSpec
  split
  · exact .unchanged rfl rfl rfl
  · exact .edited (Nat.lt_succ_self _) rfl rfl rfl

theorem ensures_code (name : String) (op : StatusOp) (s0 : SharedWorld) :
    Ensures Later Any StatusStep Any s0 (op.code name) := by
  cases op with
  | setInvalid policy msg =>
    exact ensures_bind (ensures_focus_updatePolicyStatus _ s0)
  | updateReady limit policy version now =>
    exact ensures_bind (ensures_focus_updatePolicyStatus _ s0)
  | refreshReferencedBy refs =>
    exact ensures_bind (ensures_focus_refreshLatestPolicy name refs s0)
  | editSpec spec => exact ensures_atomic fun s _ _ _ => ⟨statusStep_editSpec spec s, trivial⟩

/-! ## Runs -/

/-- The world before the first call. -/
def SharedWorld.start (policy : PolicyObject) (cluster : GroupReconciler.GroupWorld)
    (versions : PolicyReconciler.VersionTable) : SharedWorld where
  policy := policy
  cluster := cluster
  versions := versions

/-- After any run the status is put together from the last accepted updates: the phase,
the message, the observed generation, the current version, the time of the last sync and
the history are the policy reconciler's, and `referencedBy` is the group reconciler's. -/
theorem status_eq_lastWritten (name : String) (policy : PolicyObject)
    (cluster : GroupReconciler.GroupWorld) (versions : PolicyReconciler.VersionTable)
    (events : List (PoolEvent StatusOp ApiInput)) :
    let s := (run (Pool.step (fun _ => ()) (StatusOp.code name))
      { shared := SharedWorld.start policy cluster versions } events).shared
    s.policy.status = s.lastWritten policy.status := by
  have hcode : ∀ (op : StatusOp) s0, Ensures Later
      (fun s _ => s.Composed policy.status ∧ True) StatusStep Any s0
      (op.code name) := by
    intro op s0
    exact ensures_of_ok (fun _ _ _ => trivial) (ensures_code name op s0)
  have hlater : ∀ (_ : StatusOp) s s', StatusStep s s' → s.Later s' := fun _ _ _ h => h.later
  have hstart : (SharedWorld.start policy cluster versions).Composed policy.status := rfl
  refine (run_rely Later.refl Later.trans hlater hcode
    (fun _ _ _ hs hstep => hstep.composed hs) hstart ?_).2
  exact guarded_mono (fun _ _ _ _ _ _ => trivial) (guarded_true _ _ events)

-- the first update of the policy reconciler is refused, and the second one keeps the
-- references that were written in between
example :
    let s := (run (Pool.step (fun _ => ()) (StatusOp.code "p"))
      { shared := .start { name := "p" } {} .empty }
      [.spawn (.setInvalid { name := "p" } "bad"), .spawn (.refreshReferencedBy ["g"]),
        .advance 0 {}, .advance 1 {}, .advance 1 {}, .advance 0 {}, .advance 0 {},
        .advance 0 {}]).shared
    s.policy.status.phase = .invalid ∧ s.policy.status.referencedBy = ["g"] ∧
      s.writes.length = 1 := by
  decide +kernel

end KubeSentry.Operator.SharedStatus
