import KubeSentry.Operator.PolicyVersions

/-!
# The current version can be restored

A reconcile that crashes after it has stored a version leaves a version above
`status.currentVersion`, and the next reconcile may have another spec.  It tries eight
numbers, so all versions have numbers up to eight above the current one (`Bounded`).
With a limit of eight or more the pruning therefore only takes versions that are not
above the current one (`beyond_le_currentVersion`): it spares the version that the
reconcile has just settled on, and no number is used twice.

The first section has one rule for each part of the reconciler, for any environment
that leaves the versions alone.  `VersionStep` says once what a
call of a reconcile does, and both the invariant and the comparison of two moments of a
run follow from it.
-/

namespace KubeSentry.Operator.PolicyReconciler

open GoLib Prog VersionTable

/-! ## Rules for the parts of a reconcile -/

/-- The others leave the versions alone and keep `K` of the policy. -/
structure Leaves (K : PolicyObject → Prop) (s s' : PolicyWorld) : Prop where
  versions : s'.versions = s.versions
  policy : K s.policy → K s'.policy

theorem policyVersionMatchesSpec_build (policy : PolicyObject) (version : Int) (now : Time) :
    policyVersionMatchesSpec (buildPolicyVersion policy version now) policy = true := by
  simp [policyVersionMatchesSpec, buildPolicyVersion]

/-- The version is stored under its number, and nothing else has changed. -/
def Created (policy : PolicyObject) (t : VersionTable) (n : Int) (t' : VersionTable) : Prop :=
  ∃ now, ∃ hfree : t.find? (buildPolicyVersion policy n now).spec.version = none,
    t' = t.insert (buildPolicyVersion policy n now) hfree

/-- The loop has settled on `n`: the numbers below it are taken by other specs, and `n`
has the spec of the policy. -/
structure Settled (policy : PolicyObject) (t : VersionTable) (first n : Int) (t' : VersionTable) :
    Prop where
  from_first : first ≤ n
  taken : ∀ m, first ≤ m → m < n →
    ∃ pv, t.find? m = some pv ∧ policyVersionMatchesSpec pv policy = false
  stored : (t' = t ∧ ∃ pv, t.find? n = some pv ∧ policyVersionMatchesSpec pv policy = true) ∨
    Created policy t n t'

variable {policy : PolicyObject} {t t' : VersionTable} {n : Int} {s s' : PolicyWorld}

theorem Created.find?_eq (h : Created policy t n t') :
    ∃ now, t'.find? n = some (buildPolicyVersion policy n now) := by
  obtain ⟨now, hfree, rfl⟩ := h
  exact ⟨now, VersionTable.find?_eq_some_iff.mpr
    ⟨(mem_insert hfree).mpr (.inr rfl), rfl⟩⟩

variable {first : Int}

theorem Settled.find?_eq (h : Settled policy t first n t') :
    ∃ pv, t'.find? n = some pv ∧ policyVersionMatchesSpec pv policy = true := by
  rcases h.stored with ⟨rfl, hfound⟩ | hcreated
  · exact hfound
  · obtain ⟨now, hfound⟩ := hcreated.find?_eq
    exact ⟨_, hfound, policyVersionMatchesSpec_build policy n now⟩

section

variable {rely : PolicyWorld → PolicyWorld → Prop} {ok : PolicyWorld → ApiInput → Prop}
  {does : PolicyWorld → PolicyWorld → Prop} {t : VersionTable}
  {K : PolicyObject → Prop}

/-- The versions are `t`, and `K` holds of the policy. -/
def PolicyWorld.Has (s : PolicyWorld) (t : VersionTable) (K : PolicyObject → Prop) : Prop :=
  s.versions = t ∧ K s.policy

theorem Leaves.has {s s' : PolicyWorld} (h : Leaves K s s') (hs : s.Has t K) : s'.Has t K :=
  ⟨h.versions.trans hs.1, h.policy hs.2⟩

variable {s0 : PolicyWorld} {limit : Nat}

/-- Some of the versions beyond the limit are gone, and no others. -/
structure Pruned (limit : Nat) (t t' : VersionTable) : Prop where
  old : ∀ r ∈ t'.rows, r ∈ t.rows
  kept : ∀ r ∈ t.rows, r ∉ beyond (·.spec.version) limit t.rows → r ∈ t'.rows

theorem Pruned.erase {t t' : VersionTable} (h : Pruned limit t t') {pv : PolicyVersion}
    (hpv : pv ∈ beyond (·.spec.version) limit t.rows) :
    Pruned limit t (t'.erase pv.spec.version) := by
  refine ⟨fun r hr => h.old r (mem_erase.mp hr).1, fun r hr hbeyond => ?_⟩
  refine mem_erase.mpr ⟨h.kept r hr hbeyond, fun hversion => hbeyond ?_⟩
  have hmem := ((mem_beyond t.distinct).mp hpv).1
  rw [List.inj_on_of_nodup_map t.distinct hr hmem hversion]
  exact hpv

section

variable (hrely : ∀ s s', rely s s' → Leaves K s s') (hsame : ∀ s, does s s)

include hrely hsame

variable {policy : PolicyObject}

theorem ensures_createVersion {n : Int}
    (hcreate : ∀ (s : PolicyWorld) now hfree, s.Has t K → does s { s with
      versions := s.versions.insert (buildPolicyVersion policy n now) hfree }) (hs : s0.Has t K) :
    Ensures rely ok does (fun s r => K s.policy ∧
        (r = .ok () → Created policy t n s.versions) ∧
        ∀ err, r = .error err → err.reason = .alreadyExists → s.versions = t) s0
      (createVersion policy n) := by
  refine ensures_apiWrite_of_fail hsame (fun s err h => ?_) fun s i s' h _ hwrite => ?_
  · obtain ⟨hversions, hk⟩ := (hrely _ _ h).has hs
    exact ⟨hk, fun hr => (by cases hr), fun _ _ _ => hversions⟩
  · have hhas := (hrely _ _ h).has hs
    obtain ⟨rfl, hk⟩ := hhas
    dsimp only at hwrite
    split at hwrite
    next hfree =>
      cases hwrite
      refine ⟨hcreate s i.now hfree ⟨rfl, hk⟩,
        ⟨hk, fun _ => ⟨i.now, hfree, rfl⟩, fun _ hr => by cases hr⟩, fun text => ?_⟩
      refine ⟨hk, fun hr => (by cases hr), fun err' hr hexists => ?_⟩
      cases hr
      cases hexists
    next => cases hwrite

theorem ensures_settleVersion [GoUnicode] {attempts : Nat}
    (hcreate : ∀ (s : PolicyWorld) n now hfree, s.Has t K → first ≤ n → n < first + attempts →
      does s { s with versions := s.versions.insert (buildPolicyVersion policy n now) hfree })
    (hs : s0.Has t K) :
    Ensures rely ok does (fun s r => K s.policy ∧ ∀ n, r = .ok n →
        n < first + attempts ∧ Settled policy t first n s.versions) s0
      (settleVersion policy attempts first) := by
  induction attempts generalizing first s0 with
  | zero => exact ⟨hs.2, fun n hn => by cases hn⟩
  | succ attempts ih =>
    refine ensures_bind (ensures_mono (fun s r hr => ?_)
      (ensures_createVersion (n := first) hrely hsame
        (fun s now hfree h => hcreate s first now hfree h le_rfl (by omega)) hs))
    obtain ⟨hk, hcreated, hexists⟩ := hr
    have hrange : first < first + (attempts + 1 : Nat) := by omega
    have hnone : ∀ m, first ≤ m → m < first →
        ∃ pv, t.find? m = some pv ∧ policyVersionMatchesSpec pv policy = false :=
      fun m h h' => absurd h (by omega)
    cases r with
    | ok u =>
      refine ⟨hk, fun n hn => ?_⟩
      cases hn
      exact ⟨hrange, le_rfl, hnone, .inr (hcreated rfl)⟩
    | error err =>
      dsimp only
      split
      case isFalse => exact ⟨hk, fun n hn => by cases hn⟩
      case isTrue hreason =>
        refine ensures_bind
          (ensures_apiRead (fun s _ _ => hsame s) (fun s' err h => ?_) fun s' _ h _ => ?_)
        · exact ⟨(hrely _ _ h).policy hk, fun n hn => by cases hn⟩
        · have hhas : s'.Has t K := (hrely _ _ h).has ⟨hexists err rfl hreason, hk⟩
          rw [hhas.1]
          cases hfound : t.find? first with
          | none => exact ⟨hhas.2, fun n hn => by cases hn⟩
          | some existing =>
            dsimp only
            split
            next hmatches =>
              refine ⟨hhas.2, fun n hn => ?_⟩
              cases hn
              exact ⟨hrange, le_rfl, hnone, .inl ⟨hhas.1, existing, hfound, hmatches⟩⟩
            next hmatches =>
              -- the number is taken by another spec, and the next round goes on above it
              refine ensures_mono (fun s'' r hr => ⟨hr.1, fun n hn => ?_⟩)
                (ih (fun s1 n now hfree h hn hn' =>
                  hcreate s1 n now hfree h (by omega) (by omega)) hhas)
              obtain ⟨hlt, hsettled⟩ := hr.2 n hn
              have hfirst := hsettled.from_first
              refine ⟨by omega, by omega, fun m hm hm' => ?_, hsettled.stored⟩
              rcases eq_or_lt_of_le hm with rfl | hlt'
              · exact ⟨existing, hfound, by simpa using hmatches⟩
              · exact hsettled.taken m (by omega) hm'

variable (hdelete : ∀ (s : PolicyWorld) pv, pv ∈ beyond (·.spec.version) limit t.rows →
  K s.policy → does s { s with versions := s.versions.erase pv.spec.version })

include hdelete

theorem ensures_deleteVersions {items : List PolicyVersion}
    (hitems : ∀ pv ∈ items, pv ∈ beyond (·.spec.version) limit t.rows)
    (hk : K s0.policy) (hpruned : Pruned limit t s0.versions) :
    Ensures rely ok does (fun s _ => K s.policy ∧ Pruned limit t s.versions) s0
      (deleteVersions items) := by
  induction items generalizing s0 with
  | nil => exact ⟨hk, hpruned⟩
  | cons pv rest ih =>
    have hpv := hitems pv List.mem_cons_self
    have hdeleted : Ensures rely ok does
        (fun s _ => K s.policy ∧ Pruned limit t s.versions) s0 (deleteVersion pv) := by
      refine ensures_apiWrite_of_fail hsame (fun s err h => ?_) fun s _ s' h _ hwrite => ?_
      · have hkept := hrely _ _ h
        rw [hkept.versions]
        exact ⟨hkept.policy hk, hpruned⟩
      · have hkept := hrely _ _ h
        have hk' := hkept.policy hk
        have hpruned' : Pruned limit t s.versions := by
          rw [hkept.versions]
          exact hpruned
        split at hwrite
        next =>
          cases hwrite
          exact ⟨hdelete s pv hpv hk', ⟨hk', hpruned'.erase hpv⟩,
            fun _ => ⟨hk', hpruned'.erase hpv⟩⟩
        next => cases hwrite
    refine ensures_bind (ensures_mono (fun s r hr => ?_) hdeleted)
    cases r with
    | ok u => exact ih (fun p hp => hitems p (List.mem_cons_of_mem _ hp)) hr.1 hr.2
    | error err => exact hr

theorem ensures_pruneVersions (hs : s0.Has t K) :
    Ensures rely ok does (fun s _ => K s.policy ∧ Pruned limit t s.versions) s0
      (pruneVersions limit) := by
  have hstart : ∀ s, rely s0 s → s.Has t K ∧ Pruned limit t s.versions := by
    intro s h
    have hhas := (hrely _ _ h).has hs
    refine ⟨hhas, ?_⟩
    rw [hhas.1]
    exact ⟨fun _ hr => hr, fun _ hr _ => hr⟩
  refine ensures_bind
    (ensures_apiRead (fun s _ _ => hsame s) (fun s err h => ?_) fun s _ h _ => ?_)
  · exact ⟨(hstart s h).1.2, (hstart s h).2⟩
  · obtain ⟨hhas, hpruned⟩ := hstart s h
    rw [hhas.1]
    dsimp only
    split
    next => exact ⟨hhas.2, hpruned⟩
    next => exact ensures_deleteVersions hrely hsame hdelete (fun _ h => h) hhas.2 hpruned

end

/-- A status update is made at most once, in a state that the others have kept. -/
theorem ensures_updatePolicyStatus {P Q : PolicyWorld → Prop}
    (hrely : ∀ s s', rely s s' → P s → P s') (hsame : ∀ s, does s s) {desired : PolicyObject}
    (hwrite : ∀ s latest, P s →
      does s (s.writeStatus latest desired) ∧ Q (s.writeStatus latest desired)) (hs : P s0) :
    Ensures rely ok does (fun s _ => P s ∨ Q s) s0 (updatePolicyStatus desired) := by
  refine ensures_retryOnConflict (P := P) (fun s0 hs => ?_) 3 hs
  refine ensures_bind
    (ensures_apiRead (fun s _ _ => hsame s) (fun s err h => ?_) fun s _ h _ => ?_)
  · exact ⟨.inl (hrely _ _ h hs), fun _ _ _ => hrely _ _ h hs⟩
  · have hP := hrely _ _ h hs
    refine ensures_apiWrite_of_fail hsame (fun s' err h' => ?_) fun s' _ s'' h' _ hdone => ?_
    · exact ⟨.inl (hrely _ _ h' hP), fun _ _ _ => hrely _ _ h' hP⟩
    · split at hdone
      next =>
        cases hdone
        obtain ⟨hdoes, hQ⟩ := hwrite s' s.policy (hrely _ _ h' hP)
        refine ⟨hdoes, ⟨.inr hQ, fun _ hr => by cases hr⟩, fun text => ⟨.inr hQ, ?_⟩⟩
        intro err' hr hconflict
        cases hr
        cases hconflict
      next => cases hdone

/-- `P` is kept by the others, by the refusal of the policy and by a patch. -/
structure Undisturbed (rely does : PolicyWorld → PolicyWorld → Prop) (policy : PolicyObject)
    (P : PolicyWorld → Prop) : Prop where
  rely : ∀ s s', rely s s' → P s → P s'
  same : ∀ s, does s s
  refused : ∀ s latest desired, P s → desired.status.phase = .invalid →
    desired.status.currentVersion = policy.status.currentVersion →
    does s (s.writeStatus latest desired) ∧ P (s.writeStatus latest desired)
  patched : ∀ s spec, P s → does s { s with policy := editSpec spec s.policy } ∧
    P { s with policy := editSpec spec s.policy }

variable {policy : PolicyObject} {P : PolicyWorld → Prop} (h : Undisturbed rely does policy P)
  (hs : P s0)

include h hs

theorem ensures_setInvalid {msg : String} :
    Ensures rely ok does (fun s _ => P s) s0 (setInvalid policy msg) :=
  ensures_mono (fun _ _ hr => hr.elim id id) (ensures_updatePolicyStatus h.rely h.same
    (fun s latest hP => h.refused s latest _ hP rfl rfl) hs)

theorem ensures_patchPolicy {base modified : PolicySpec} :
    Ensures rely ok does (fun s _ => P s) s0 (patchPolicy base modified) := by
  refine ensures_apiWrite_of_fail h.same (fun s _ hrely => h.rely _ _ hrely hs)
    fun s _ s' hrely _ hwrite => ?_
  cases hwrite
  obtain ⟨hdoes, hP⟩ := h.patched s _ (h.rely _ _ hrely hs)
  exact ⟨hdoes, hP, fun _ => hP⟩

theorem ensures_handleRollback {target : Int} :
    Ensures rely ok does (fun s _ => P s) s0 (handleRollback policy target) := by
  refine ensures_bind (ensures_apiRead (fun s _ _ => h.same s)
    (fun s _ hrely => h.rely _ _ hrely hs) fun s _ hrely _ => ?_)
  have hs' := h.rely _ _ hrely hs
  cases s.versions.find? target with
  | none =>
    refine ensures_bind (ensures_mono (fun _ r hr => ?_) (ensures_setInvalid h hs'))
    cases r <;> exact hr
  | some pv =>
    refine ensures_bind (ensures_mono (fun _ r hr => ?_) (ensures_patchPolicy h hs'))
    cases r <;> exact hr

end

/-! ## What a call does -/

/-- The version has the rego, match and enforcement mode of the policy. -/
structure Captures (pv : PolicyVersion) (policy : PolicyObject) : Prop where
  rego : pv.spec.rego = policy.spec.rego
  matching : pv.spec.matching = policy.spec.matching
  enforcementMode : pv.spec.enforcementMode = policy.spec.enforcementMode

variable {pv : PolicyVersion} {cv : Int} {latest desired : PolicyObject} {s1 : PolicyWorld}

theorem status_editSpec (spec : PolicySpec) (p : PolicyObject) :
    (editSpec spec p).status = p.status := by
  unfold editSpec
  split <;> rfl

/-- What the others leave alone: the versions and `currentVersion`. -/
structure VersionsKept (s s' : PolicyWorld) : Prop where
  versions : s'.versions = s.versions
  currentVersion : s'.currentVersion = s.currentVersion

theorem VersionsKept.leaves (h : VersionsKept s s') (cv : Int) :
    Leaves (fun p => p.status.currentVersion = cv) s s' :=
  ⟨h.versions, fun hs => h.currentVersion.trans hs⟩

/-- What a call of a reconcile can do. -/
inductive VersionStep (s : PolicyWorld) : PolicyWorld → Prop where
  | same : VersionStep s s
  | created (pv : PolicyVersion) (hfree : s.versions.find? pv.spec.version = none)
    (habove : s.currentVersion < pv.spec.version)
    (hbelow : pv.spec.version ≤ s.currentVersion + maxVersionCollisionRetries) :
    VersionStep s { s with versions := s.versions.insert pv hfree }
  | deleted (version : Int) (hold : version ≤ s.currentVersion) :
    VersionStep s { s with versions := s.versions.erase version }
  | patched (spec : PolicySpec) : VersionStep s { s with policy := editSpec spec s.policy }
  | wroteReady (latest desired : PolicyObject) (hphase : desired.status.phase = .ready)
    (habove : s.currentVersion < desired.status.currentVersion)
    (hstored : ∃ pv, s.versions.find? desired.status.currentVersion = some pv ∧
      Captures pv desired) :
    VersionStep s (s.writeStatus latest desired)
  | wroteInvalid (latest desired : PolicyObject) (hphase : desired.status.phase ≠ .ready)
    (hcurrent : desired.status.currentVersion = s.currentVersion) :
    VersionStep s (s.writeStatus latest desired)

/-- All versions have numbers that a reconcile could have reached. -/
def Bounded (t : VersionTable) (cv : Int) : Prop :=
  ∀ pv ∈ t.rows, pv.spec.version ≤ cv + maxVersionCollisionRetries

/-- The pruning only takes versions that are not above the current one. -/
theorem beyond_le_currentVersion {limit : Nat} (hlimit : maxVersionCollisionRetries ≤ limit)
    (hbound : Bounded t cv) (hpv : pv ∈ beyond (·.spec.version) limit t.rows) :
    pv.spec.version ≤ cv := by
  by_contra habove
  have hcount := ((mem_beyond t.distinct).mp hpv).2
  have hfew : countAbove (·.spec.version) pv.spec.version t.rows ≤ 7 := by
    refine countAbove_le t.distinct fun r hr => ?_
    have hr' : r.spec.version ≤ cv + (8 : Nat) := hbound r hr
    push_cast at hr' ⊢
    omega
  unfold maxVersionCollisionRetries at hlimit
  omega

theorem Settled.bounded (h : Settled policy t (cv + 1) n t')
    (hn : n < cv + 1 + maxVersionCollisionRetries) (hbound : Bounded t cv) : Bounded t' cv := by
  rcases h.stored with ⟨rfl, _⟩ | ⟨now, hfree, rfl⟩
  · exact hbound
  · intro pv hpv
    rcases (mem_insert hfree).mp hpv with hold | rfl
    · exact hbound pv hold
    · change n ≤ cv + maxVersionCollisionRetries
      omega

section

variable {limit : Nat} {policy : PolicyObject} {s0 : PolicyWorld}
  {ok : PolicyWorld → ApiInput → Prop}

theorem undisturbed_currentVersion : Undisturbed VersionsKept VersionStep policy
    fun s => s.currentVersion = policy.status.currentVersion where
  rely _ _ h hs := h.currentVersion.trans hs
  same _ := .same
  refused s latest desired hs hphase hcv :=
    ⟨.wroteInvalid latest desired (by simp [hphase]) (hcv.trans hs.symm), hcv⟩
  patched s spec hs := ⟨.patched spec, (congrArg _ (status_editSpec spec s.policy)).trans hs⟩

theorem ensures_publishVersion (hlimit : maxVersionCollisionRetries ≤ limit) {t : VersionTable}
    {cv n : Int} (hbound : Bounded t cv) (hn : cv < n)
    (hstored : ∃ pv, t.find? n = some pv ∧ policyVersionMatchesSpec pv policy = true)
    (hs : s0.Has t fun p => p.status.currentVersion = cv) :
    Ensures VersionsKept ok VersionStep Any s0 (publishVersion limit policy n) := by
  obtain ⟨pv, hfound, hmatches⟩ := hstored
  obtain ⟨hmem, hversion⟩ := VersionTable.find?_eq_some_iff.mp hfound
  have hspared : pv ∉ beyond (·.spec.version) limit t.rows := by
    intro hbeyond
    have := beyond_le_currentVersion hlimit hbound hbeyond
    omega
  refine ensures_bind (ensures_mono (fun s _ hr => ?_)
    (ensures_pruneVersions (fun _ _ h => h.leaves cv) (fun _ => .same) (fun s pv hpv hcv => ?_) hs))
  · obtain ⟨hcv, hpruned⟩ := hr
    have hkept : s.versions.find? n = some pv :=
      VersionTable.find?_eq_some_iff.mpr ⟨hpruned.kept pv hmem hspared, hversion⟩
    refine ensures_bind (ensures_clock (fun _ _ _ => .same) fun s' now h => ?_)
    refine ensures_bind (ensures_mono (fun _ r _ => ?_) (ensures_updatePolicyStatus
      (P := fun s => s.currentVersion = cv ∧ s.versions.find? n = some pv) (Q := fun _ => True)
      (fun s s' h hs => ?_) (fun _ => .same) (fun s latest hs => ⟨?_, trivial⟩) ?_))
    · cases r <;> exact trivial
    · rw [h.versions]
      exact ⟨h.currentVersion.trans hs.1, hs.2⟩
    · refine .wroteReady latest _ rfl ?_ ⟨pv, hs.2, ?_⟩
      · rw [hs.1]
        exact hn
      · obtain ⟨hrego, hmode, hmatch⟩ := of_decide_eq_true hmatches
        exact ⟨hrego, hmatch, hmode⟩
    · rw [h.versions]
      exact ⟨h.currentVersion.trans hcv, hkept⟩
  · exact .deleted _ ((beyond_le_currentVersion hlimit hbound hpv).trans hcv.ge)

/-- Every call of a reconcile is a step of `VersionStep`. -/
theorem ensures_reconcile [GoUnicode] [RegoCompiler] (hlimit : maxVersionCollisionRetries ≤ limit)
    (hok : ∀ s i, ok s i → Bounded s.versions s.currentVersion) (s0 : PolicyWorld) :
    Ensures VersionsKept ok VersionStep Any s0 (reconcile limit) := by
  refine ensures_bind (ensures_apiRead (fun _ _ _ => .same) (fun _ _ _ => trivial) ?_)
  intro s i _ hs
  have hbound := hok s i hs
  dsimp only
  split
  next target _ =>
    exact ensures_mono (fun _ _ _ => trivial)
      (ensures_handleRollback undisturbed_currentVersion rfl)
  next =>
    split
    next => exact trivial
    next =>
      split
      next msg _ =>
        refine ensures_bind (ensures_mono (fun _ r _ => ?_)
          (ensures_setInvalid undisturbed_currentVersion rfl))
        cases r <;> exact trivial
      next =>
        have hhas : s.Has s.versions fun p => p.status.currentVersion = s.currentVersion :=
          ⟨rfl, rfl⟩
        refine ensures_bind (ensures_mono (fun s' r hr => ?_)
          (ensures_settleVersion (fun _ _ h => h.leaves s.currentVersion) (fun _ => .same)
            (fun s1 n now hfree h hn hn' => ?_) hhas))
        · cases r with
          | error err => exact trivial
          | ok n =>
            obtain ⟨hn, hsettled⟩ := hr.2 n rfl
            have hfirst := hsettled.from_first
            exact ensures_publishVersion hlimit (hsettled.bounded hn hbound) (by omega)
              hsettled.find?_eq ⟨rfl, hr.1⟩
        · have hcv : s1.currentVersion = s.policy.status.currentVersion := h.2
          exact .created _ hfree (show _ < n by omega) (show n ≤ _ by omega)

end

/-! ## What a run keeps -/

/-- Every Ready status named a version that had the spec of the policy when it was
written, and each named a higher one than the status before. -/
structure Restorable (s : PolicyWorld) : Prop where
  stored : ∀ w ∈ s.readyWrites, ∃ pv,
    w.versions.find? w.policy.status.currentVersion = some pv ∧ Captures pv w.policy
  increasing : (s.readyWrites.map (·.policy.status.currentVersion)).Pairwise (· < ·)

structure VersionInv (s : PolicyWorld) : Prop extends Restorable s where
  bounded : Bounded s.versions s.currentVersion
  last : ∀ w ∈ s.readyWrites, w.policy.status.currentVersion ≤ s.currentVersion

theorem readyWrites_writeStatus_ready (h : desired.status.phase = .ready) :
    (s.writeStatus latest desired).readyWrites = s.readyWrites ++ [⟨desired, s.versions⟩] := by
  unfold PolicyWorld.readyWrites PolicyWorld.writeStatus
  rw [List.filter_append, List.filter_cons_of_pos (by simpa using h), List.filter_nil]

theorem readyWrites_writeStatus_other (h : desired.status.phase ≠ .ready) :
    (s.writeStatus latest desired).readyWrites = s.readyWrites := by
  unfold PolicyWorld.readyWrites PolicyWorld.writeStatus
  rw [List.filter_append, List.filter_cons_of_neg (by simpa using h), List.filter_nil,
    List.append_nil]

section

variable (h : VersionInv s)

include h

/-- A change of the policy that keeps `currentVersion`. -/
theorem VersionInv.withPolicy (hcv : policy.status.currentVersion = s.currentVersion) :
    VersionInv { s with policy := policy } where
  stored := h.stored
  increasing := h.increasing
  bounded pv hpv := by
    change pv.spec.version ≤ policy.status.currentVersion + _
    rw [hcv]
    exact h.bounded pv hpv
  last w hw := by
    change _ ≤ policy.status.currentVersion
    rw [hcv]
    exact h.last w hw

theorem VersionInv.edit (e : PolicyEdit) : VersionInv (s.edit e) := by
  cases e with
  | spec spec =>
    refine h.withPolicy ?_
    rw [status_editSpec]
    rfl
  | referencedBy groups => exact h.withPolicy rfl

theorem VersionInv.step (hstep : VersionStep s s') : VersionInv s' := by
  cases hstep with
  | same => exact h
  | created pv hfree habove hbelow =>
    refine { h with bounded := fun r hr => ?_ }
    rcases (mem_insert hfree).mp hr with hold | rfl
    · exact h.bounded r hold
    · exact hbelow
  | deleted version hold =>
    exact { h with bounded := fun r hr => h.bounded r (mem_erase.mp hr).1 }
  | patched spec =>
    refine h.withPolicy ?_
    rw [status_editSpec]
    rfl
  | wroteReady latest desired hphase habove hstored =>
    have hcv : (s.writeStatus latest desired).currentVersion = desired.status.currentVersion := rfl
    refine ⟨⟨?_, ?_⟩, ?_, ?_⟩
    · rw [readyWrites_writeStatus_ready hphase]
      intro w hw
      rcases List.mem_append.mp hw with hold | hnew
      · exact h.stored w hold
      · rw [List.mem_singleton.mp hnew]
        exact hstored
    · rw [readyWrites_writeStatus_ready hphase, List.map_append, List.pairwise_append]
      refine ⟨h.increasing, List.pairwise_singleton _ _, fun a ha b hb => ?_⟩
      obtain ⟨w, hw, rfl⟩ := List.mem_map.mp ha
      rw [List.map_singleton, List.mem_singleton] at hb
      rw [hb]
      exact lt_of_le_of_lt (h.last w hw) habove
    · intro pv hpv
      have := h.bounded pv hpv
      omega
    · rw [readyWrites_writeStatus_ready hphase, hcv]
      intro w hw
      rcases List.mem_append.mp hw with hold | hnew
      · exact (h.last w hold).trans habove.le
      · rw [List.mem_singleton.mp hnew]
  | wroteInvalid latest desired hphase hcurrent =>
    have hcv : (s.writeStatus latest desired).currentVersion = s.currentVersion := hcurrent
    refine ⟨⟨?_, ?_⟩, ?_, ?_⟩
    · rw [readyWrites_writeStatus_other hphase]
      exact h.stored
    · rw [readyWrites_writeStatus_other hphase]
      exact h.increasing
    · rw [hcv]
      exact h.bounded
    · rw [readyWrites_writeStatus_other hphase, hcv]
      exact h.last

end

/-! ## Two moments of a run -/

/-- A version that exists at both moments is the same object, and one above the current
version still exists. -/
structure Preserves (s1 s : PolicyWorld) : Prop where
  content : ∀ pv ∈ s1.versions.rows, ∀ pv' ∈ s.versions.rows,
    pv'.spec.version = pv.spec.version → pv' = pv
  above : ∀ pv ∈ s1.versions.rows, s.currentVersion < pv.spec.version → pv ∈ s.versions.rows

theorem Preserves.refl (s : PolicyWorld) : Preserves s s :=
  ⟨fun _ hpv _ hpv' heq => List.inj_on_of_nodup_map s.versions.distinct hpv' hpv heq,
    fun _ hpv _ => hpv⟩

theorem Preserves.of_le (h : Preserves s1 s) (hversions : s'.versions = s.versions)
    (hcv : s.currentVersion ≤ s'.currentVersion) : Preserves s1 s' := by
  constructor
  · rw [hversions]
    exact h.content
  · rw [hversions]
    exact fun pv hpv habove => h.above pv hpv (lt_of_le_of_lt hcv habove)

theorem Preserves.step (h : Preserves s1 s) (hstep : VersionStep s s') : Preserves s1 s' := by
  cases hstep with
  | same => exact h
  | created pv hfree habove hbelow =>
    constructor
    · intro pv1 hpv1 pv' hpv' heq
      rcases (mem_insert hfree).mp hpv' with hold | rfl
      · exact h.content pv1 hpv1 pv' hold heq
      · -- the earlier version would still be there, but its number is free
        have hmem := h.above pv1 hpv1 (by rw [← heq]; exact habove)
        exact absurd heq.symm (Table.lookup_none hfree pv1 hmem)
    · intro pv1 hpv1 habove1
      exact (mem_insert hfree).mpr (.inl (h.above pv1 hpv1 habove1))
  | deleted version hold =>
    constructor
    · intro pv1 hpv1 pv' hpv'
      exact h.content pv1 hpv1 pv' (mem_erase.mp hpv').1
    · intro pv1 hpv1 habove1
      refine mem_erase.mpr ⟨h.above pv1 hpv1 habove1, fun heq => ?_⟩
      rw [heq] at habove1
      exact absurd hold (not_le.mpr habove1)
  | patched spec =>
    refine h.of_le rfl ?_
    change _ ≤ (editSpec spec s.policy).status.currentVersion
    rw [status_editSpec]
    exact le_rfl
  | wroteReady latest desired hphase habove hstored => exact h.of_le rfl habove.le
  | wroteInvalid latest desired hphase hcurrent => exact h.of_le rfl hcurrent.ge

/-! ## Runs -/

theorem versionsKept_edit (s : PolicyWorld) (e : PolicyEdit) : VersionsKept s (s.edit e) := by
  cases e with
  | spec spec =>
    refine ⟨rfl, ?_⟩
    change (editSpec spec s.policy).status.currentVersion = _
    rw [status_editSpec]
    rfl
  | referencedBy groups => exact ⟨rfl, rfl⟩

section

variable [GoUnicode] [RegoCompiler] {limit : Nat}

theorem controller_sound (hlimit : maxVersionCollisionRetries ≤ limit) :
    (controller limit).Sound Any VersionInv (fun _ _ => VersionInv) VersionsKept
      (fun _ _ => VersionStep) (fun _ _ _ _ => True) where
  refl _ := ⟨rfl, rfl⟩
  trans _ _ _ h h' := ⟨h'.versions.trans h.versions, h'.currentVersion.trans h.currentVersion⟩
  idle_environment _ e _ h := h.edit e
  mid_environment _ s e _ h := ⟨versionsKept_edit s e, h.edit e⟩
  starts _ s h := ⟨h, ensures_reconcile hlimit (fun _ _ h => h.bounded) s⟩
  mid_call _ _ _ _ h hstep := h.step hstep
  idle_finish _ _ _ _ _ h _ _ _ := h
  idle_crash _ _ h _ := h

variable {w : Worker Unit PolicyWorld ApiInput (ApiResult Bool)}

/-- What an event does to the objects: nothing, a change by others, or a step of a
reconcile. -/
theorem shared_step {e : WorkerEvent Unit PolicyEdit ApiInput}
    (h : (controller limit).Calls (fun _ _ => VersionInv) (fun _ _ => VersionStep) w e) :
    VersionsKept w.shared ((controller limit).step w e).shared ∨
      VersionStep w.shared ((controller limit).step w e).shared := by
  obtain ⟨shared, job⟩ := w
  cases e with
  | environment e => exact .inl (versionsKept_edit shared e)
  | call i =>
    rcases h i rfl with heq | ⟨_, _, _, hstep⟩
    · rw [heq]
      exact .inl ⟨rfl, rfl⟩
    · exact .inr hstep
  | start task => cases job <;> exact .inl ⟨rfl, rfl⟩
  | finish =>
    cases job with
    | none => exact .inl ⟨rfl, rfl⟩
    | some job =>
      obtain ⟨_, _, prog⟩ := job
      cases prog <;> exact .inl ⟨rfl, rfl⟩
  | crash => cases job <;> exact .inl ⟨rfl, rfl⟩

theorem preserves_run {events : List (WorkerEvent Unit PolicyEdit ApiInput)}
    (h : Guarded ((controller limit).Calls (fun _ _ => VersionInv) (fun _ _ => VersionStep))
      (controller limit).step w events) :
    Preserves w.shared (run (controller limit).step w events).shared := by
  refine run_invariant (I := fun w' : Worker Unit PolicyWorld ApiInput (ApiResult Bool) =>
    Preserves w.shared w'.shared) (fun w' e hw hcalls => ?_) (Preserves.refl w.shared) h
  rcases shared_step hcalls with hkept | hstep
  · exact hw.of_le hkept.versions hkept.currentVersion.ge
  · exact hw.step hstep

/-- The objects after a run of the controller. -/
def worldAfter (limit : Nat) (start : PolicyWorld)
    (events : List (WorkerEvent Unit PolicyEdit ApiInput)) : PolicyWorld :=
  (run (controller limit).step { shared := start } events).shared

/-- In every run from a policy without versions, with any edits, failures and crashes:
each Ready status named a stored version with the spec of the policy, and a higher one
than the Ready status before.  A version that exists at two moments is the same. -/
theorem current_version_restorable (hlimit : maxVersionCollisionRetries ≤ limit)
    {start : PolicyWorld} (hversions : start.versions.rows = []) (hwrites : start.writes = [])
    (events later : List (WorkerEvent Unit PolicyEdit ApiInput)) :
    Restorable (worldAfter limit start events) ∧
      ∀ pv ∈ (worldAfter limit start events).versions.rows,
        ∀ pv' ∈ (worldAfter limit start (events ++ later)).versions.rows,
          pv'.spec.version = pv.spec.version → pv' = pv := by
  have hstart : VersionInv start := by
    have hnone : start.readyWrites = [] := by
      unfold PolicyWorld.readyWrites
      rw [hwrites, List.filter_nil]
    refine ⟨⟨?_, ?_⟩, ?_, ?_⟩
    · rw [hnone]
      exact List.forall_mem_nil _
    · rw [hnone]
      exact List.Pairwise.nil
    · unfold Bounded
      rw [hversions]
      exact List.forall_mem_nil _
    · rw [hnone]
      exact List.forall_mem_nil _
  have hsound : (controller limit).Sound _ _ _ _ _ _ := controller_sound hlimit
  obtain ⟨_, hmiddle⟩ := hsound.run (w := { shared := start }) hstart (guarded_true _ _ events)
  obtain ⟨hlater, _⟩ := hsound.run hmiddle (guarded_true _ _ later)
  unfold worldAfter
  refine ⟨?_, ?_⟩
  · unfold Controller.Holds at hmiddle
    split at hmiddle
    next => exact hmiddle.toRestorable
    next => exact hmiddle.1.toRestorable
  · rw [run_append]
    exact (preserves_run hlater).content

end

attribute [local instance] GoUnicode.ascii RegoCompiler.lenient

def newPolicy : PolicyWorld where
  policy := { name := "no-root", generation := 1, uid := "u1", spec := .auditPods "package a" }
  versions := .empty

/-- A reconcile crashes after it has stored version 1, the spec is edited, and the next
reconcile finds version 1 taken. -/
def crashAndEdit : List (WorkerEvent Unit PolicyEdit ApiInput) :=
  [.start (), .call {}, .call {}, .crash,
    .environment (.spec (.auditPods "package b")), .start ()] ++
    List.replicate 8 (.call {}) ++ [.finish]

theorem current_version_restorable_crash :
    (worldAfter 8 newPolicy crashAndEdit).readyWrites.map (·.policy.status.currentVersion) = [2] ∧
      Restorable (worldAfter 8 newPolicy crashAndEdit) :=
  ⟨by decide +kernel, (current_version_restorable le_rfl rfl rfl crashAndEdit []).1⟩

end KubeSentry.Operator.PolicyReconciler
