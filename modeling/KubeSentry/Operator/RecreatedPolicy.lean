import KubeSentry.Operator.VersionHistory

/-!
# A policy that is created again

The versions of a deleted policy stay until the garbage collector removes them.  A new
policy of the same name starts at version 1 again, and its first reconcile meets them:
a leftover with the same content is taken for a version of the new policy, and one with
another content makes the reconcile go on to the next number.  The pruning then counts
the leftovers too.

So the new policy keeps its snapshot exactly if the number that the reconcile settles on
is free, and fewer leftovers than the limit have higher numbers (`Unhindered`).  One
direction follows from the rules for the parts of the reconciler, with any failures of
the calls; for the other, `solo_reconcile` follows the run without failures.
-/

namespace KubeSentry.Operator.PolicyReconciler

open GoLib Prog VersionTable

/-- The version that the status names is one of this policy and has its content. -/
def PolicyWorld.Owned (s : PolicyWorld) : Prop :=
  ∃ pv, s.versions.find? s.currentVersion = some pv ∧ pv.ownerUID = s.policy.uid ∧
    Captures pv s.policy

/-- Every reconcile from `s` that ends in phase Ready leaves such a version. -/
def KeepsSnapshot [GoUnicode] [RegoCompiler] (limit : Nat) (s : PolicyWorld) : Prop :=
  ∀ s' r, (reconcile limit).Runs s s' r → s'.policy.status.phase = .ready → s'.Owned

/-- The number is free, or its version has the content of the policy. -/
def Usable (policy : PolicyObject) (t : VersionTable) (n : Int) : Prop :=
  ∀ pv, t.find? n = some pv → policyVersionMatchesSpec pv policy = true

/-- The first of the eight numbers that the reconcile can use. -/
structure FirstUsable (policy : PolicyObject) (t : VersionTable) (n : Int) : Prop where
  pos : 1 ≤ n
  le : n ≤ maxVersionCollisionRetries
  usable : Usable policy t n
  taken : ∀ m, 1 ≤ m → m < n → ¬ Usable policy t m

/-- The reconcile comes to a free number, if it comes to one at all, and fewer versions
than the limit are above it. -/
def Unhindered [RegoCompiler] (limit : Nat) (s : PolicyWorld) : Prop :=
  s.policy.spec.rollbackTo = none → RegoCompiler.compileRego s.policy.spec.rego = none →
    ∀ n, FirstUsable s.policy s.versions n →
      s.versions.find? n = none ∧ countAbove (·.spec.version) n s.versions.rows < limit

variable {policy : PolicyObject} {t : VersionTable} {n : Int} {pv : PolicyVersion}
  {s0 s : PolicyWorld} {S : Type}

/-- A number that cannot be used has a version with another content. -/
theorem not_usable_iff : ¬ Usable policy t n ↔
      ∃ pv, t.find? n = some pv ∧ policyVersionMatchesSpec pv policy = false := by
  simp [Usable]

theorem Settled.firstUsable {t' : VersionTable} (h : Settled policy t 1 n t')
    (hn : n < 1 + maxVersionCollisionRetries) : FirstUsable policy t n where
  pos := h.from_first
  le := by omega
  usable := by
    rcases h.stored with ⟨_, pv, hfound, hmatches⟩ | ⟨now, hfree, _⟩
    · intro pv' hfound'
      rw [hfound] at hfound'
      cases hfound'
      exact hmatches
    · intro pv' hfound'
      exact absurd (hfree.symm.trans hfound') (Option.some_ne_none _).symm
  taken m hm hm' := not_usable_iff.mpr (h.taken m hm hm')

theorem countAbove_insert (hfree : t.find? pv.spec.version = none) :
    countAbove (·.spec.version) pv.spec.version (t.insert pv hfree).rows =
      countAbove (·.spec.version) pv.spec.version t.rows := by
  unfold countAbove VersionTable.insert
  simp

/-! ## Enough room -/

/-- Alone, a reconcile finds the objects as it left them. -/
theorem leaves_self (K : PolicyObject → Prop) (s s' : PolicyWorld) (h : s' = s) :
    Leaves K s s' := by
  rw [h]
  exact ⟨rfl, fun hk => hk⟩

/-- A snapshot with fewer than `limit` versions above it survives the pruning. -/
theorem ensures_publishVersion_owned {limit : Nat} (hfound : t.find? n = some pv)
    (howner : pv.ownerUID = policy.uid) (hcaptures : Captures pv policy)
    (hroom : countAbove (·.spec.version) n t.rows < limit) (hphase : policy.status.phase ≠ .ready)
    (hs : s0.Has t (· = policy)) :
    Alone (fun s _ => s.policy.status.phase = .ready → s.Owned) s0
      (publishVersion limit policy n) := by
  obtain ⟨hmem, hversion⟩ := VersionTable.find?_eq_some_iff.mp hfound
  have hspared : pv ∉ beyond (·.spec.version) limit t.rows := by
    intro hbeyond
    have hcount := ((mem_beyond t.distinct).mp hbeyond).2
    rw [hversion] at hcount
    omega
  refine ensures_bind (ensures_mono (fun s _ hr => ?_)
    (ensures_pruneVersions (leaves_self _) (fun _ => trivial) (fun _ _ _ _ => trivial) hs))
  obtain ⟨rfl, hpruned⟩ := hr
  have hkept : s.versions.find? n = some pv :=
    VersionTable.find?_eq_some_iff.mpr ⟨hpruned.kept pv hmem hspared, hversion⟩
  refine ensures_bind (ensures_clock (fun _ _ _ => trivial) fun s' now h => ?_)
  subst h
  have hupdate : Alone (fun s _ => s = s' ∨ s.Owned) s'
      (updatePolicyStatus (readyPolicy limit s'.policy n now)) := by
    refine ensures_updatePolicyStatus (P := (· = s')) (fun _ _ h h' => h.trans h')
      (fun _ => trivial) (fun s1 latest h => ⟨trivial, ?_⟩) rfl
    rw [h]
    exact ⟨pv, hkept, howner, hcaptures.rego, hcaptures.matching, hcaptures.enforcementMode⟩
  refine ensures_bind (ensures_mono (fun s1 r h => ?_) hupdate)
  have hend : s1.policy.status.phase = .ready → s1.Owned := by
    rcases h with rfl | howned
    · exact fun hready => absurd hready hphase
    · exact fun _ => howned
  cases r <;> exact hend

theorem undisturbed_phase : Undisturbed (fun s s' => s' = s) Any policy
    fun s => s.policy.status.phase ≠ .ready where
  rely _ _ h hs := h ▸ hs
  same _ := trivial
  refused s latest desired _ hphase _ := by
    refine ⟨trivial, fun hready => ?_⟩
    cases hphase.symm.trans hready
  patched s spec hs := ⟨trivial, fun hready =>
    hs ((congrArg _ (status_editSpec spec s.policy)).symm.trans hready)⟩

/-- With any failures of the calls, an unhindered reconcile keeps the snapshot. -/
theorem Unhindered.keepsSnapshot [GoUnicode] [RegoCompiler] {limit : Nat} {start : PolicyWorld}
    (hstatus : start.policy.status = {}) (h : Unhindered limit start) :
    KeepsSnapshot limit start := by
  have hphase : start.policy.status.phase ≠ .ready := by
    rw [hstatus]
    intro hready
    cases hready
  intro s' r hrun
  suffices hensures : Alone (fun s _ => s.policy.status.phase = .ready → s.Owned) start
      (reconcile limit) from
    Ensures.runs hrun hensures
  refine ensures_bind (ensures_apiRead (fun _ _ _ => trivial) (fun s _ hs => ?_)
    fun s _ hs _ => ?_)
  · subst hs
    exact fun hready => absurd hready hphase
  · subst hs
    dsimp only
    split
    next target _ =>
      exact ensures_mono (fun _ _ hother hready => absurd hready hother)
        (ensures_handleRollback undisturbed_phase hphase)
    next hrollback =>
      split
      next hskip => exact absurd hskip.2 hphase
      next =>
        split
        next msg _ =>
          refine ensures_bind (ensures_mono (fun _ r hother => ?_)
            (ensures_setInvalid undisturbed_phase hphase))
          cases r <;> exact fun hready => absurd hready hother
        next hcompiles =>
          have hfirst : s.policy.status.currentVersion + 1 = 1 := by
            rw [hstatus]
            rfl
          rw [hfirst]
          have hhas : s.Has s.versions (· = s.policy) := ⟨rfl, rfl⟩
          refine ensures_bind (ensures_mono (fun s1 r hr => ?_)
            (ensures_settleVersion (leaves_self _) (fun _ => trivial) (fun _ _ _ _ _ _ _ => trivial)
              hhas))
          cases r with
          | error err =>
            have hpolicy : s1.policy = s.policy := hr.1
            rw [← hpolicy] at hphase
            exact fun hready => absurd hready hphase
          | ok n =>
            obtain ⟨hn, hsettled⟩ := hr.2 n rfl
            obtain ⟨hfree, hroom⟩ := h hrollback hcompiles n (hsettled.firstUsable hn)
            rcases hsettled.stored with ⟨_, pv, hfound, _⟩ | ⟨now, hfree', hinsert⟩
            · exact absurd (hfree.symm.trans hfound) (Option.some_ne_none _).symm
            · have hfound : s1.versions.find? n = some (buildPolicyVersion s.policy n now) := by
                rw [hinsert]
                exact VersionTable.find?_eq_some_iff.mpr
                  ⟨(mem_insert hfree').mpr (.inr rfl), rfl⟩
              refine ensures_publishVersion_owned hfound rfl ⟨rfl, rfl, rfl⟩ ?_ hphase ⟨rfl, hr.1⟩
              rw [hinsert]
              exact lt_of_eq_of_lt (countAbove_insert hfree') hroom

/-! ## The run without failures -/

theorem solo_apiRead {R : Type} (f : S → ApiResult R) (s : S) :
    (apiRead f).solo {} s = (s, f s) := rfl

theorem solo_apiWrite_ok {f : S → ApiInput → ApiResult S} {s s' : S} (h : f s {} = .ok s') :
    (apiWrite f).solo {} s = (s', .ok ()) := by
  simp only [apiWrite, Prog.atomic, solo, h]

theorem solo_apiWrite_error {f : S → ApiInput → ApiResult S} {s : S} {err : ApiError}
    (h : f s {} = .error err) : (apiWrite f).solo {} s = (s, .error err) := by
  simp only [apiWrite, Prog.atomic, solo, h]

theorem solo_createVersion_taken (policy : PolicyObject) (htaken : s.versions.find? n ≠ none) :
    ∃ err, err.reason = .alreadyExists ∧ (createVersion policy n).solo {} s = (s, .error err) :=
  ⟨_, rfl, solo_apiWrite_error (dif_neg htaken)⟩

theorem solo_getVersion (hfound : s.versions.find? n = some pv) :
    (getVersion policy n).solo {} s = (s, .ok pv) := by
  unfold getVersion
  rw [solo_apiRead, hfound]

/-- The loop comes to the first number that it can use. -/
theorem solo_settleVersion [GoUnicode] {first : Int} (attempts : Nat) (hfirst : first ≤ n)
    (hlast : n < first + attempts) (husable : Usable policy s.versions n)
    (htaken : ∀ m, first ≤ m → m < n → ¬ Usable policy s.versions m) :
    ∃ t', (settleVersion policy attempts first).solo {} s = ({ s with versions := t' }, .ok n) ∧
      (t' = s.versions ∧ s.versions.find? n ≠ none ∨ Created policy s.versions n t') := by
  induction attempts generalizing first with
  | zero => exact absurd hlast (by simpa using hfirst)
  | succ attempts ih =>
    rw [settleVersion, solo_bind]
    cases hfound : s.versions.find? first with
    | none =>
      have heq : first = n := by
        by_contra hne
        refine htaken first le_rfl (lt_of_le_of_ne hfirst hne) fun pv hpv => ?_
        rw [hfound] at hpv
        cases hpv
      subst heq
      rw [createVersion, solo_apiWrite_ok (dif_pos hfound)]
      exact ⟨_, rfl, .inr ⟨0, hfound, rfl⟩⟩
    | some existing =>
      obtain ⟨err, hreason, hcreate⟩ := solo_createVersion_taken policy
        (show s.versions.find? first ≠ none by rw [hfound]; exact Option.some_ne_none _)
      rw [hcreate]
      dsimp only
      rw [if_pos hreason, solo_bind, solo_getVersion hfound]
      dsimp only
      rcases eq_or_lt_of_le hfirst with heq | hlt
      · subst heq
        rw [if_pos (husable existing hfound)]
        exact ⟨_, rfl, .inl ⟨rfl, by rw [hfound]; exact Option.some_ne_none _⟩⟩
      · obtain ⟨pv, hpv, hmismatch⟩ := not_usable_iff.mp (htaken first le_rfl hlt)
        rw [hfound] at hpv
        cases hpv
        rw [if_neg (by simp [hmismatch])]
        exact ih (by omega) (by push_cast at hlast ⊢; omega) fun m hm hm' => htaken m (by omega) hm'

theorem solo_deleteVersions {items : List PolicyVersion}
    (hitems : ∀ pv ∈ items, pv ∈ s.versions.rows) (hdistinct : (items.map (·.spec.version)).Nodup) :
    ∃ t', (deleteVersions items).solo {} s = ({ s with versions := t' }, .ok ()) ∧
      (∀ r ∈ t'.rows, r ∈ s.versions.rows) ∧ ∀ r ∈ items, r ∉ t'.rows := by
  induction items generalizing s with
  | nil => exact ⟨s.versions, rfl, fun _ h => h, List.forall_mem_nil _⟩
  | cons pv rest ih =>
    obtain ⟨hnew, hrest⟩ := List.nodup_cons.mp hdistinct
    have hpresent : (s.versions.find? pv.spec.version).isSome := by
      rw [VersionTable.find?_eq_some_iff.mpr ⟨hitems pv List.mem_cons_self, rfl⟩]
      rfl
    have hdelete : (deleteVersion pv).solo {} s =
        ({ s with versions := s.versions.erase pv.spec.version }, .ok ()) :=
      solo_apiWrite_ok (if_pos hpresent)
    have hleft : ∀ r ∈ rest, r ∈ (s.versions.erase pv.spec.version).rows := by
      intro r hr
      refine mem_erase.mpr ⟨hitems r (List.mem_cons_of_mem _ hr), fun heq => hnew ?_⟩
      exact List.mem_map.mpr ⟨r, hr, heq⟩
    obtain ⟨t', hsolo, hold, hgone⟩ :=
      ih (s := { s with versions := s.versions.erase pv.spec.version }) hleft hrest
    refine ⟨t', ?_, fun r hr => (mem_erase.mp (hold r hr)).1, fun r hr => ?_⟩
    · rw [deleteVersions, solo_bind, hdelete]
      exact hsolo
    · rcases List.mem_cons.mp hr with rfl | hmem
      · exact fun hr' => (mem_erase.mp (hold r hr')).2 rfl
      · exact hgone r hmem

theorem solo_pruneVersions (limit : Nat) (s : PolicyWorld) :
    ∃ t', (pruneVersions limit).solo {} s = ({ s with versions := t' }, .ok ()) ∧
      (∀ r ∈ t'.rows, r ∈ s.versions.rows) ∧
      ∀ r ∈ beyond (·.spec.version) limit s.versions.rows, r ∉ t'.rows := by
  unfold pruneVersions
  rw [solo_bind, solo_apiRead]
  dsimp only
  split
  next hfew =>
    refine ⟨s.versions, rfl, fun _ h => h, fun r hr => ?_⟩
    unfold beyond at hr
    rw [Nat.sub_eq_zero_of_le hfew, List.take_zero] at hr
    exact absurd hr List.not_mem_nil
  next =>
    refine solo_deleteVersions (fun pv hpv => ((mem_beyond s.versions.distinct).mp hpv).1) ?_
    have hsorted : ((sortByKey (·.spec.version) s.versions.rows).map (·.spec.version)).Nodup :=
      ((perm_sortByKey s.versions.rows).map _).nodup_iff.mpr s.versions.distinct
    exact hsorted.sublist ((List.take_sublist _ _).map _)

theorem solo_retryOnConflict {body : ApiProg S (ApiResult Unit)} {s s' : S}
    (h : body.solo {} s = (s', .ok ())) (retries : Nat) :
    (retryOnConflict body retries).solo {} s = (s', .ok ()) := by
  cases retries with
  | zero => exact h
  | succ retries =>
    rw [retryOnConflict, solo_bind, h]
    rfl

theorem solo_updatePolicyStatus {desired : PolicyObject} :
    (updatePolicyStatus desired).solo {} s = (s.writeStatus s.policy desired, .ok ()) := by
  refine solo_retryOnConflict ?_ 3
  unfold updateLatestStatus
  rw [solo_bind]
  exact solo_apiWrite_ok (if_pos rfl)

/-- A reconcile without failures ends in phase Ready with the number `n`. -/
theorem solo_reconcile [GoUnicode] [RegoCompiler] (limit : Nat) (hstatus : s.policy.status = {})
    (hrollback : s.policy.spec.rollbackTo = none)
    (hcompiles : RegoCompiler.compileRego s.policy.spec.rego = none)
    (hn : FirstUsable s.policy s.versions n) :
    ∃ s' r t', (reconcile limit).Runs s s' r ∧ s'.policy.status.phase = .ready ∧
      s'.currentVersion = n ∧ s'.policy.uid = s.policy.uid ∧
      (t' = s.versions ∧ s.versions.find? n ≠ none ∨ Created s.policy s.versions n t') ∧
      (∀ r ∈ s'.versions.rows, r ∈ t'.rows) ∧
      ∀ r ∈ beyond (·.spec.version) limit t'.rows, r ∉ s'.versions.rows := by
  have hskip : ¬ (s.policy.status.observedGeneration = s.policy.generation ∧
      s.policy.status.phase = .ready) := by
    rw [hstatus]
    exact fun h => by cases h.2
  have hfirst : s.policy.status.currentVersion + 1 = 1 := by
    rw [hstatus]
    rfl
  obtain ⟨t', hsettle, hstored⟩ := solo_settleVersion maxVersionCollisionRetries
    hn.pos (by have := hn.le; omega) hn.usable hn.taken
  obtain ⟨t'', hprune, hold, hgone⟩ := solo_pruneVersions limit { s with versions := t' }
  have hsolo : (reconcile limit).solo {} s =
      (PolicyWorld.writeStatus { s with versions := t'' } s.policy
        (readyPolicy limit s.policy n 0), .ok false) := by
    unfold reconcile
    rw [solo_bind, getPolicy, solo_apiRead]
    dsimp only
    rw [hrollback]
    rw [if_neg hskip, hcompiles]
    dsimp only
    rw [hfirst, solo_bind, hsettle]
    unfold publishVersion
    rw [solo_bind, hprune]
    dsimp only
    change solo {} (updatePolicyStatus (readyPolicy limit s.policy n 0) >>= _)
      { s with versions := t'' } = _
    rw [solo_bind, solo_updatePolicyStatus]
    rfl
  have hruns := runs_solo {} (reconcile limit) s
  rw [hsolo] at hruns
  exact ⟨_, _, t', hruns, rfl, rfl, rfl, hstored, hold, hgone⟩

/-- The new policy keeps its snapshot exactly if the leftovers do not hinder it. -/
theorem keepsSnapshot_iff [GoUnicode] [RegoCompiler] {limit : Nat} {start : PolicyWorld}
    (hstatus : start.policy.status = {})
    (hleftover : ∀ pv ∈ start.versions.rows, pv.ownerUID ≠ start.policy.uid) :
    KeepsSnapshot limit start ↔ Unhindered limit start := by
  refine ⟨fun h hrollback hcompiles n hn => ?_, Unhindered.keepsSnapshot hstatus⟩
  obtain ⟨s', r, t', hruns, hphase, hcv, huid, hstored, hold, hgone⟩ :=
    solo_reconcile limit hstatus hrollback hcompiles hn
  obtain ⟨pv, hfound, howner, _⟩ := h s' r hruns hphase
  rw [hcv] at hfound
  rw [huid] at howner
  obtain ⟨hmem, hversion⟩ := VersionTable.find?_eq_some_iff.mp hfound
  rcases hstored with ⟨rfl, _⟩ | ⟨now, hfree, rfl⟩
  · exact absurd howner (hleftover pv (hold pv hmem))
  · refine ⟨hfree, ?_⟩
    by_contra hroom
    -- the new version has too many versions above it, and the pruning takes it
    refine hgone pv ?_ hmem
    refine (mem_beyond (distinct _)).mpr ⟨hold pv hmem, ?_⟩
    rw [hversion]
    have hcount := countAbove_insert hfree
    change countAbove _ n _ = countAbove _ n _ at hcount
    omega

attribute [local instance] GoUnicode.ascii RegoCompiler.lenient

/-- A version of the earlier policy. -/
def leftover (version : Int) : PolicyVersion where
  ownerUID := "u1"
  spec :=
    { policyRef := "no-root", version := version, rego := "package a"
      matching := (PolicySpec.auditPods "").matching, enforcementMode := .audit, createdAt := 0 }

/-- A new policy next to the versions 2 and 3 of an earlier one. -/
def recreated : PolicyWorld where
  policy := { name := "no-root", generation := 1, uid := "u2", spec := .auditPods "package b" }
  versions := ⟨[leftover 2, leftover 3], by decide⟩

theorem keepsSnapshot_iff_recreated : KeepsSnapshot 2 recreated ↔ Unhindered 2 recreated :=
  keepsSnapshot_iff rfl (by decide)

/-- With a limit of two, the reconcile stores version 1, deletes it as the lowest of
three and writes it to the status. -/
theorem new_snapshot_pruned : ((reconcile 2).solo {} recreated).1.policy.status.phase = .ready ∧
      ((reconcile 2).solo {} recreated).1.currentVersion = 1 ∧
      ((reconcile 2).solo {} recreated).1.versions.find? 1 = none ∧
      ¬ KeepsSnapshot 2 recreated := by
  have hphase : ((reconcile 2).solo {} recreated).1.policy.status.phase = .ready := by
    decide +kernel
  have hcv : ((reconcile 2).solo {} recreated).1.currentVersion = 1 := by decide +kernel
  have hgone : ((reconcile 2).solo {} recreated).1.versions.find? 1 = none := by decide +kernel
  refine ⟨hphase, hcv, hgone, fun h => ?_⟩
  obtain ⟨pv, hfound, _⟩ := h _ _ (runs_solo {} (reconcile 2) recreated) hphase
  cases hfound

end KubeSentry.Operator.PolicyReconciler
