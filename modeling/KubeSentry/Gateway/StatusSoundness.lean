import KubeSentry.Gateway.DistributionStatus

/-!
# Synced means applied

A status row that says Synced should tell the truth about both sides: the
latest completed render matched the distribution without an error, and the last
time the member applied the hash of the row, it succeeded.

The rows do not follow by themselves.  The periodic report repeats the last
success, also after a later attempt of the same hash has failed.  `markReported`
works with the render that was sent last, while `markPushed` works with the
latest one, and the hash is the same for both if only the matched set or the
render errors differ.  It also looks the distribution up by its name alone.
`Steady` is what a run needs so that none of this shows.

The proof is a rely-guarantee argument.  The two ghost lists only grow
(`Grows`), so what a goroutine knows about them stays true while others run.
-/

namespace KubeSentry.Gateway

open GoLib Prog

/-! ## The property and the condition -/

variable (s : SyncState)

/-- The outcome of the member's latest attempt to apply the hash. -/
def SyncState.lastAttempt (hash : String) : Option Bool :=
  (s.attempts.find? fun a => a.1 = hash).map fun a => a.2

/-- Every Synced row tells the truth. -/
def SyncedMeansApplied : Prop :=
  ∀ d row, s.rows d = some row → row.status = .synced →
    (∃ r ref, s.renders.head? = some r ∧ ref.id = d ∧ r.Clean ref) ∧
      s.lastAttempt row.appliedVersionHash = some true

/-- What the environment may decide: a completed render does not lose what an
earlier one matched without an error, a distribution that is found by its name
is the one that the renders meant, and an apply does not fail after it has
succeeded with the same hash. -/
def Steady : SyncReply → Prop
  | .rendered r => ∀ r' ∈ s.renders, ∀ d, r'.Clean d → r.Clean d
  | .dist d => ∀ r ∈ s.renders, d.name ∈ r.res.matched → d ∈ r.dists
  | .applyFailed _ _ => ∀ hash ∈ s.toMember.head?, (hash, true) ∉ s.attempts
  | _ => True

/-! ## The invariant -/

/-- The ghost lists only grow. -/
structure Grows (s s' : SyncState) : Prop where
  renders : ∀ r ∈ s.renders, r ∈ s'.renders
  attempts : ∀ a ∈ s.attempts, a ∈ s'.attempts

theorem Grows.refl : Grows s s := ⟨fun _ h => h, fun _ h => h⟩

theorem Grows.trans (s' s'' : SyncState) (h : Grows s s') (h' : Grows s' s'') : Grows s s'' :=
  ⟨fun r hr => h'.renders r (h.renders r hr), fun a ha => h'.attempts a (h.attempts a ha)⟩

/-- The member has applied the hash successfully, and a completed render has
matched the distribution without an error. -/
def Earned (d : Int) (hash : String) : Prop :=
  (hash, true) ∈ s.attempts ∧ ∃ r ∈ s.renders, ∃ ref : DistributionRef, ref.id = d ∧ r.Clean ref

variable {s s' s0 : SyncState} {d : Int} {rep : StatusReport} {last : CompletedRender}
  {hash : String} {R : Type} {f : SyncState → SyncReply → R} {entry : StatusRow}

theorem Earned.mono (h : Earned s d hash) (hgrows : Grows s s') : Earned s' d hash := by
  obtain ⟨hattempt, r, hr, ref, hid, hclean⟩ := h
  exact ⟨hgrows.attempts _ hattempt, r, hgrows.renders r hr, ref, hid, hclean⟩

/-- A report without an error is about a hash that was applied. -/
def TrueReport (s : SyncState) (rep : StatusReport) : Prop :=
  rep.applyError = "" → rep.appliedVersion = "" ∨ (rep.appliedVersion, true) ∈ s.attempts

theorem TrueReport.mono (h : TrueReport s rep) (hgrows : Grows s s') : TrueReport s' rep := by
  intro herror
  rcases h herror with hempty | hattempt
  · exact .inl hempty
  · exact .inr (hgrows.attempts _ hattempt)

/-- The invariant of a session. -/
structure Truthful (s : SyncState) : Prop where
  rows : ∀ d row, s.rows d = some row → row.status = .synced → Earned s d row.appliedVersionHash
  last : ∀ r, s.last = some r → r ∈ s.renders
  reports : ∀ rep ∈ s.toGateway, TrueReport s rep
  applied : s.lastApplied = "" ∨ (s.lastApplied, true) ∈ s.attempts
  latest : ∀ r ∈ s.renders, ∀ d, r.Clean d → ∃ r', s.renders.head? = some r' ∧ r'.Clean d
  attempts : ∀ hash, (hash, true) ∈ s.attempts → s.lastAttempt hash = some true

theorem Truthful.synced (h : Truthful s) : SyncedMeansApplied s := by
  intro d row hrow hstatus
  obtain ⟨hattempt, r, hr, ref, hid, hclean⟩ := h.rows d row hrow hstatus
  obtain ⟨r', hhead, hclean'⟩ := h.latest r hr ref hclean
  exact ⟨⟨r', ref, hhead, hid, hclean'⟩, h.attempts _ hattempt⟩

/-- What every call of a session does. -/
def KeepsTruth (s s' : SyncState) : Prop :=
  Truthful s' ∧ Grows s s'

/-- What a goroutine ensures, from the state that its last call left. -/
abbrev SyncEnsures {R : Type} (post : SyncState → R → Prop) (s0 : SyncState) (p : SyncProg R) :
    Prop :=
  Ensures Grows (fun s i => Truthful s ∧ Steady s i) KeepsTruth post s0 p

theorem ensures_readCall {post : SyncState → R → Prop}
    (h : ∀ s i, Grows s0 s → Truthful s → Steady s i → post s (f s i)) :
    SyncEnsures post s0 (.read f) :=
  ensures_read fun s i hgrows hok => ⟨⟨hok.1, .refl s⟩, h s i hgrows hok.1 hok.2⟩

/-- A read whose result does not matter for what follows. -/
theorem ensures_bindRead {R' : Type} {post : SyncState → R' → Prop} {next : R → SyncProg R'}
    (h : ∀ s, Grows s0 s → ∀ r, SyncEnsures post s (next r)) :
    SyncEnsures post s0 (Prog.read f >>= next) :=
  ensures_bind (ensures_readCall fun s i hgrows _ _ => h s hgrows (f s i))

/-! ## Rows -/

/-- A row may be set to anything that is not Synced, or to what is earned. -/
theorem Truthful.setRow (h : Truthful s) (d : Int) (row : Option StatusRow)
    (hrow : ∀ r, row = some r → r.status = .synced → Earned s d r.appliedVersionHash) :
    KeepsTruth s (s.setRow d row) := by
  have hgrows : Grows s (s.setRow d row) := ⟨fun _ hr => hr, fun _ ha => ha⟩
  refine ⟨⟨?_, h.last, h.reports, h.applied, h.latest, h.attempts⟩, hgrows⟩
  intro d' row' hrow' hstatus
  refine Earned.mono ?_ hgrows
  unfold SyncState.setRow at hrow'
  dsimp only at hrow'
  split at hrow'
  · rename_i hd
    rw [hd]
    exact hrow row' hrow' hstatus
  · exact h.rows d' row' hrow' hstatus

/-- An entry that may be written: its status is set, and a Synced entry is
earned. -/
def Writable (s : SyncState) (d : Int) (entry : StatusRow) : Prop :=
  entry.status ≠ .unset ∧
    (entry.status = .synced → entry.appliedVersionHash ≠ "" ∧
      Earned s d entry.appliedVersionHash)

theorem Writable.mono (h : Writable s d entry) (hgrows : Grows s s') : Writable s' d entry :=
  ⟨h.1, fun hstatus => ⟨(h.2 hstatus).1, (h.2 hstatus).2.mono hgrows⟩⟩

theorem Truthful.upsertClusterStatus (h : Truthful s) (hentry : Writable s d entry) :
    KeepsTruth s (s.upsertClusterStatus d entry) := by
  unfold SyncState.upsertClusterStatus
  split
  · split
    · refine h.setRow d _ fun r hr hstatus => ?_
      cases hr
      rw [if_neg hentry.1] at hstatus
      obtain ⟨hhash, hearned⟩ := hentry.2 hstatus
      rw [if_neg hhash]
      exact hearned
    · exact ⟨h, .refl s⟩
  · split
    · have hcreated : Truthful { s with created := s.created + 1 } :=
        ⟨h.rows, h.last, h.reports, h.applied, h.latest, h.attempts⟩
      have hkeeps := hcreated.setRow d (some { entry with id := s.created + 1 })
        fun r hr hstatus => by
          cases hr
          exact (hentry.2 hstatus).2
      exact ⟨hkeeps.1, ⟨fun _ hr => hr, fun _ ha => ha⟩⟩
    · exact ⟨h, .refl s⟩

/-- A mutator writes only what may be written. -/
def Sober (s : SyncState) (d : Int) (mutate : StatusRow → StatusRow) : Prop :=
  ∀ e, mutate e = e ∨ Writable s d (mutate e)

theorem setClusterStatus_ensures {mutate : StatusRow → StatusRow} (h : Sober s0 d mutate) :
    SyncEnsures (fun s _ => Grows s0 s) s0 (Session.setClusterStatus d mutate) := by
  refine ensures_bindRead fun s hgrows found => ?_
  cases found with
  | none => exact ensures_ret hgrows
  | some cur =>
    dsimp only
    by_cases hsame : (cur.getD {}).status = (mutate (cur.getD {})).status ∧
        (cur.getD {}).appliedVersionHash = (mutate (cur.getD {})).appliedVersionHash ∧
        (cur.getD {}).lastError = (mutate (cur.getD {})).lastError
    · rw [if_pos hsame]
      exact ensures_ret hgrows
    · rw [if_neg hsame]
      refine ensures_atomic fun s' i hgrows' hok => ?_
      have hback := hgrows.trans _ _ _ hgrows'
      have hentry : Writable s' d (mutate (cur.getD {})) := by
        rcases h (cur.getD {}) with heq | hwritable
        · rw [heq] at hsame
          exact absurd ⟨rfl, rfl, rfl⟩ hsame
        · exact hwritable.mono hback
      cases i with
      | ok =>
        have hkeeps := hok.1.upsertClusterStatus hentry
        exact ⟨hkeeps, hback.trans _ _ _ hkeeps.2⟩
      | _ => exact ⟨⟨hok.1, .refl s'⟩, hback⟩

/-! ## The gateway -/

theorem sober_renderFailed (s : SyncState) (d : Int) (text : String) :
    Sober s d (Session.renderFailed text) := by
  intro e
  exact .inr ⟨by simp [Session.renderFailed], fun hstatus => by cases hstatus⟩

theorem sober_awaitReport (s : SyncState) (d : Int) (hash : String) :
    Sober s d (Session.awaitReport hash) := by
  intro e
  unfold Session.awaitReport
  split
  · exact .inl rfl
  · exact .inr ⟨by simp, fun hstatus => by cases hstatus⟩

/-- A report without an error makes a row Synced; it is earned. -/
theorem sober_reported (hversion : rep.appliedVersion ≠ "")
    (hearned : rep.applyError = "" → Earned s d rep.appliedVersion) :
    Sober s d (Session.reported rep) := by
  intro e
  unfold Session.reported
  split
  · exact .inr ⟨by simp, fun hstatus => by cases hstatus⟩
  · rename_i herror
    exact .inr ⟨by simp, fun _ => ⟨hversion, hearned (not_not.mp herror)⟩⟩

theorem markDistribution_ensures (r : CompletedRender) (d : DistributionRef) (s0 : SyncState) :
    SyncEnsures (fun s _ => Grows s0 s) s0 (Session.markDistribution r d) := by
  unfold Session.markDistribution
  split
  · exact setClusterStatus_ensures (sober_renderFailed _ _ _)
  · split
    · exact setClusterStatus_ensures (sober_awaitReport _ _ _)
    · refine ensures_atomic fun s i hgrows hok => ?_
      cases i with
      | ok =>
        have hkeeps := hok.1.setRow d.id none fun r hr => by cases hr
        exact ⟨hkeeps, hgrows.trans _ _ _ hkeeps.2⟩
      | _ => exact ⟨⟨hok.1, .refl s⟩, hgrows⟩

theorem markPushed_ensures (r : CompletedRender) (s0 : SyncState) :
    SyncEnsures Any s0 (Session.markPushed r) := by
  refine ensures_bindRead fun s _ found => ?_
  cases found with
  | false => exact ensures_ret trivial
  | true =>
    refine ensures_bindRead fun s' _ dists => ?_
    cases dists with
    | none => exact ensures_ret trivial
    | some dists =>
      refine ensures_forEach (P := fun _ => True) (fun d _ s1 _ => ?_) trivial
      exact ensures_mono (fun _ _ _ => trivial) (markDistribution_ensures r d s1)

/-- What the loop over a report knows: the render is one of the session, and the
report is true. -/
structure Reporting (last : CompletedRender) (rep : StatusReport) (s : SyncState) : Prop where
  last : last ∈ s.renders
  report : TrueReport s rep

theorem Reporting.mono (h : Reporting last rep s) (hgrows : Grows s s') : Reporting last rep s' :=
  ⟨hgrows.renders _ h.last, h.report.mono hgrows⟩

theorem reportDistribution_ensures {name : String} (hversion : rep.appliedVersion ≠ "")
    (hname : name ∈ last.res.matched) (h : Reporting last rep s0) :
    SyncEnsures (fun s _ => Reporting last rep s) s0
      (Session.reportDistribution last rep name) := by
  unfold Session.reportDistribution
  split
  · exact ensures_ret h
  · rename_i herror
    refine ensures_bind (ensures_readCall fun s i hgrows htruth hsteady => ?_)
    have hreporting := h.mono hgrows
    cases i with
    | dist d =>
      by_cases hd : d.name = name
      · dsimp only
        rw [if_pos hd]
        -- The distribution that is found is the one that the render matched.
        have hmem : d ∈ last.dists := hsteady last hreporting.last (hd ▸ hname)
        have hclean : last.Clean d := ⟨hmem, hd ▸ not_not.mp herror⟩
        have hearned : rep.applyError = "" → Earned s d.id rep.appliedVersion := by
          intro hsuccess
          rcases hreporting.report hsuccess with hempty | hattempt
          · exact absurd hempty hversion
          · exact ⟨hattempt, last, hreporting.last, d, rfl, hclean⟩
        exact ensures_mono (fun _ _ hback => hreporting.mono hback)
          (setClusterStatus_ensures (sober_reported hversion hearned))
      · dsimp only
        rw [if_neg hd]
        exact ensures_ret hreporting
    | _ => exact ensures_ret hreporting

theorem markReported_ensures (h : Reporting last rep s0) :
    SyncEnsures Any s0 (Session.markReported last rep) := by
  unfold Session.markReported
  split
  · exact ensures_ret trivial
  · rename_i hversion
    refine ensures_bindRead fun s hgrows found => ?_
    cases found with
    | false => exact ensures_ret trivial
    | true =>
      refine ensures_mono (fun _ _ _ => trivial)
        (ensures_forEach (P := Reporting last rep) (fun name hname s1 h1 => ?_)
          (h.mono hgrows))
      exact reportDistribution_ensures (not_or.mp hversion).1 hname h1

/-- A completed render keeps the invariant if it does not lose anything. -/
theorem Truthful.rendered {s : SyncState} (h : Truthful s) {r : CompletedRender}
    (hsteady : Steady s (.rendered r)) : KeepsTruth s { s with renders := r :: s.renders } := by
  have hgrows : Grows s { s with renders := r :: s.renders } :=
    ⟨fun _ hr => List.mem_cons_of_mem _ hr, fun _ ha => ha⟩
  refine ⟨⟨?_, ?_, ?_, h.applied, ?_, h.attempts⟩, hgrows⟩
  · intro d row hrow hstatus
    exact (h.rows d row hrow hstatus).mono hgrows
  · intro r' hr'
    exact hgrows.renders r' (h.last r' hr')
  · intro rep hrep
    exact (h.reports rep hrep).mono hgrows
  · intro r' hr' d hclean
    refine ⟨r, rfl, ?_⟩
    rcases List.mem_cons.mp hr' with hnew | hold
    · exact hnew ▸ hclean
    · exact hsteady r' hold d hclean

theorem push_ensures (forceSend : Bool) (s0 : SyncState) :
    SyncEnsures Any s0 (Session.push forceSend) := by
  -- The render is completed, and its result is one of the session's renders.
  have hrender : SyncEnsures (fun s found => ∀ r, found = some r → r ∈ s.renders) s0
      Session.renderFor := by
    refine ensures_atomic fun s i _ hok => ?_
    cases i with
    | rendered r =>
      refine ⟨hok.1.rendered hok.2, fun r' hr' => ?_⟩
      cases hr'
      exact List.mem_cons_self
    | _ => exact ⟨⟨hok.1, .refl s⟩, fun r' hr' => by cases hr'⟩
  refine ensures_bind (ensures_mono (fun s found hfound => ?_) hrender)
  cases found with
  | none => exact ensures_ret trivial
  | some r =>
    have hmem : r ∈ s.renders := hfound r rfl
    refine ensures_bindRead fun s' hgrows last => ?_
    split
    · refine ensures_bind (ensures_atomic fun s1 i hgrows' hok => ?_)
      have hmem' : r ∈ s1.renders := hgrows'.renders r (hgrows.renders r hmem)
      have htruth := hok.1
      cases i with
      | ok =>
        refine ⟨⟨⟨htruth.rows, htruth.last, htruth.reports, htruth.applied, htruth.latest,
          htruth.attempts⟩, ⟨fun _ hr => hr, fun _ ha => ha⟩⟩, ?_⟩
        refine ensures_bind (ensures_atomic fun s2 j hgrows2 hok2 => ?_)
        have htruth2 := hok2.1
        refine ⟨⟨⟨htruth2.rows, ?_, htruth2.reports, htruth2.applied, htruth2.latest,
          htruth2.attempts⟩, ⟨fun _ hr => hr, fun _ ha => ha⟩⟩, markPushed_ensures r _⟩
        intro r' hr'
        cases hr'
        exact hgrows2.renders r hmem'
      | _ => exact ⟨⟨htruth, .refl s1⟩, ensures_ret trivial⟩
    · exact markPushed_ensures r s'

theorem recv_ensures (s0 : SyncState) : SyncEnsures Any s0 Session.recv := by
  refine ensures_bind (ensures_atomic fun s i _ hok => ?_)
  have htruth := hok.1
  refine ⟨⟨⟨htruth.rows, htruth.last, ?_, htruth.applied, htruth.latest, htruth.attempts⟩,
    ⟨fun _ hr => hr, fun _ ha => ha⟩⟩, ?_⟩
  · intro rep hrep
    exact htruth.reports rep (List.mem_of_mem_tail hrep)
  · cases hhead : s.toGateway.head? with
    | none => exact ensures_ret trivial
    | some rep =>
      have hreport := htruth.reports rep (List.mem_of_head? hhead)
      refine ensures_bind (ensures_readCall fun s' _ hgrows htruth' _ => ?_)
      cases hlast : s'.last with
      | none => exact ensures_ret trivial
      | some last =>
        refine markReported_ensures ⟨htruth'.last last hlast, ?_⟩
        exact TrueReport.mono (s := { s with toGateway := s.toGateway.tail }) hreport hgrows

/-! ## The member -/

theorem lastAttempt_cons (s : SyncState) (hash : String) (outcome : Bool) (h : String) :
    SyncState.lastAttempt { s with attempts := (hash, outcome) :: s.attempts } h =
      if hash = h then some outcome else s.lastAttempt h := by
  unfold SyncState.lastAttempt
  by_cases heq : hash = h
  · simp [heq]
  · simp [heq]

/-- An attempt keeps the invariant if it does not fail after a success. -/
theorem Truthful.attempted (h : Truthful s) {outcome : Bool}
    (hsteady : outcome = false → (hash, true) ∉ s.attempts) (rest : List String) :
    KeepsTruth s { s with toMember := rest, attempts := (hash, outcome) :: s.attempts } := by
  have hgrows : Grows s { s with toMember := rest, attempts := (hash, outcome) :: s.attempts } :=
    ⟨fun _ hr => hr, fun _ ha => List.mem_cons_of_mem _ ha⟩
  refine ⟨⟨?_, h.last, ?_, ?_, h.latest, ?_⟩, hgrows⟩
  · intro d row hrow hstatus
    exact (h.rows d row hrow hstatus).mono hgrows
  · intro rep hrep
    exact (h.reports rep hrep).mono hgrows
  · rcases h.applied with hempty | hattempt
    · exact .inl hempty
    · exact .inr (hgrows.attempts _ hattempt)
  · intro hash' hmem
    refine (lastAttempt_cons s hash outcome hash').trans ?_
    by_cases heq : hash = hash'
    · rw [if_pos heq]
      cases houtcome : outcome with
      | true => rfl
      | false =>
        -- The success is an earlier one, and this attempt may not fail.
        rcases List.mem_cons.mp hmem with hnew | hold
        · rw [houtcome] at hnew
          cases hnew
        · exact absurd (heq ▸ hold) (hsteady houtcome)
    · rw [if_neg heq]
      rcases List.mem_cons.mp hmem with hnew | hold
      · exact absurd (Prod.mk.inj hnew).1.symm heq
      · exact h.attempts hash' hold

theorem sendReport_ensures (h : TrueReport s0 rep) :
    SyncEnsures Any s0 (Session.sendReport rep) := by
  refine ensures_atomic fun s i hgrows hok => ?_
  have htruth := hok.1
  cases i with
  | ok =>
    refine ⟨⟨⟨htruth.rows, htruth.last, ?_, htruth.applied, htruth.latest, htruth.attempts⟩,
      ⟨fun _ hr => hr, fun _ ha => ha⟩⟩, trivial⟩
    exact List.forall_mem_append.mpr
      ⟨htruth.reports, List.forall_mem_singleton.mpr (show TrueReport s rep from h.mono hgrows)⟩
  | _ => exact ⟨⟨htruth, .refl s⟩, trivial⟩

theorem applyNext_ensures (s0 : SyncState) :
    SyncEnsures (fun s out => ∀ hash, out = some (hash, "") → (hash, true) ∈ s.attempts) s0
      Session.applyNext := by
  refine ensures_atomic fun s i _ hok => ?_
  have htruth := hok.1
  cases hnext : s.toMember with
  | nil => exact ⟨⟨htruth, .refl s⟩, fun hash hout => by cases hout⟩
  | cons hash rest =>
    cases i with
    | ok =>
      refine ⟨htruth.attempted (fun houtcome => by cases houtcome) rest, fun hash' hout => ?_⟩
      cases hout
      exact List.mem_cons_self
    | applyFailed text htext =>
      refine ⟨htruth.attempted (fun _ => hok.2 hash ?_) rest, fun hash' hout => ?_⟩
      · rw [hnext]
        rfl
      · cases hout
        exact absurd rfl htext
    | _ =>
      exact ⟨⟨⟨htruth.rows, htruth.last, htruth.reports, htruth.applied, htruth.latest,
        htruth.attempts⟩, ⟨fun _ hr => hr, fun _ ha => ha⟩⟩, fun hash' hout => by cases hout⟩

theorem apply_ensures (s0 : SyncState) : SyncEnsures Any s0 Session.apply := by
  refine ensures_bind (ensures_mono (fun s out hout => ?_) (applyNext_ensures s0))
  cases out with
  | none => exact ensures_ret trivial
  | some outcome =>
    obtain ⟨hash, text⟩ := outcome
    dsimp only
    split
    · rename_i htext
      have hattempt : (hash, true) ∈ s.attempts := hout hash (by rw [htext])
      refine ensures_bind (ensures_atomic fun s' i hgrows hok => ?_)
      have htruth := hok.1
      have hattempt' := hgrows.attempts _ hattempt
      exact ⟨⟨⟨htruth.rows, htruth.last, htruth.reports, .inr hattempt', htruth.latest,
        htruth.attempts⟩, ⟨fun _ hr => hr, fun _ ha => ha⟩⟩,
        sendReport_ensures fun _ => .inr hattempt'⟩
    · rename_i htext
      exact sendReport_ensures fun herror => absurd herror htext

theorem code_ensures (op : SessionOp) (s0 : SyncState) : SyncEnsures Any s0 op.code := by
  cases op with
  | push forceSend => exact push_ensures forceSend s0
  | recv => exact recv_ensures s0
  | apply => exact apply_ensures s0
  | periodic =>
    exact ensures_bind (ensures_readCall fun _ _ _ htruth _ =>
      sendReport_ensures fun _ => htruth.applied)

/-! ## Runs -/

/-- A session that starts with the given rows. -/
def startSession (rows : Int → Option StatusRow) : SessionPool where
  shared := { rows := rows }

/-- In a steady run of a session that starts without Synced rows, Synced means
applied. -/
theorem synced_means_applied {rows : Int → Option StatusRow}
    (hrows : ∀ d row, rows d = some row → row.status ≠ .synced)
    {events : List (PoolEvent SessionOp SyncReply)}
    (hsteady : Guarded (fun pool e => ∀ k i, e = .advance k i → Steady pool.shared i)
      sessionStep (startSession rows) events) :
    SyncedMeansApplied (run sessionStep (startSession rows) events).shared := by
  have hstart : Truthful { rows := rows } := by
    refine ⟨fun d row hrow hstatus => absurd hstatus (hrows d row hrow), fun r hr => ?_,
      fun rep hrep => ?_, .inl rfl, fun r hr => ?_, fun hash hmem => ?_⟩
    · cases hr
    · cases hrep
    · cases hr
    · cases hmem
  exact (run_rely Grows.refl Grows.trans (fun _ _ _ h => h.2) code_ensures (fun _ _ _ _ h => h.1)
    hstart hsteady).2.synced

/-! ## A snapshot that fails on the second attempt -/

/-- One distribution and a render that matches it. -/
def baseDistribution : DistributionRef := { id := 1, name := "base" }

def baseRender : CompletedRender where
  res := { hash := "h1", objects := [], matched := ["base"], errors := ∅ }
  dists := [baseDistribution]
  names := rfl

/-- A goroutine that starts and makes its calls without interruption. -/
def uninterrupted (op : SessionOp) (k : Nat) (inputs : List SyncReply) :
    List (PoolEvent SessionOp SyncReply) :=
  .spawn op :: inputs.map (.advance k)

/-- A round of `pushLoop`, an apply that succeeds, and its report. -/
def firstRound : List (PoolEvent SessionOp SyncReply) :=
  uninterrupted (.push false) 0
      [.rendered baseRender, .ok, .ok, .ok, .ok, .dists [baseDistribution], .ok, .ok] ++
    uninterrupted .apply 1 [.ok, .ok, .ok] ++
    uninterrupted .recv 2 [.ok, .ok, .ok, .dist baseDistribution, .ok, .ok]

/-- The resync, an apply of the same snapshot that fails, and its report. -/
def resyncRound (h : "forbidden" ≠ "") : List (PoolEvent SessionOp SyncReply) :=
  uninterrupted (.push true) 3
      [.rendered baseRender, .ok, .ok, .ok, .ok, .dists [baseDistribution], .ok] ++
    uninterrupted .apply 4 [.applyFailed "forbidden" h, .ok] ++
    uninterrupted .recv 5 [.ok, .ok, .ok, .dist baseDistribution, .ok, .ok]

/-- The periodic report that follows. -/
def periodicRound : List (PoolEvent SessionOp SyncReply) :=
  uninterrupted .periodic 6 [.ok, .ok] ++
    uninterrupted .recv 7 [.ok, .ok, .ok, .dist baseDistribution, .ok, .ok]

/-- After the first round the row says Synced, and that is true. -/
theorem synced_means_applied_first_round :
    ((run sessionStep (startSession fun _ => none) firstRound).shared.rows 1).map
        (fun row => (row.status, row.appliedVersionHash)) = some (.synced, "h1") ∧
      SyncedMeansApplied (run sessionStep (startSession fun _ => none) firstRound).shared := by
  refine ⟨by decide +kernel, synced_means_applied (fun d row hrow => by cases hrow) ?_⟩
  have hspawn : ∀ (s : SyncState) (op : SessionOp) (k : Nat) (i : SyncReply),
      PoolEvent.spawn op = .advance k i → Steady s i := by
    intro s op k i heq
    cases heq
  have hok : ∀ (s : SyncState) (n k : Nat) (i : SyncReply),
      PoolEvent.advance (T := SessionOp) n .ok = .advance k i → Steady s i := by
    intro s n k i heq
    cases heq
    exact trivial
  -- There is no earlier render when the only one completes.
  refine ⟨hspawn _ _, fun k i heq => ?_, hok _ _, hok _ _, hok _ _, hok _ _, fun k i heq => ?_,
    hok _ _, hok _ _, hspawn _ _, hok _ _, hok _ _, hok _ _, hspawn _ _, hok _ _, hok _ _, hok _ _,
    fun k i heq => ?_, hok _ _, hok _ _, trivial⟩
  · cases heq
    intro r hr
    cases hr
  · cases heq
    exact trivial
  · cases heq
    intro r hr _
    rw [List.mem_singleton.mp hr]
    exact List.mem_singleton.mpr rfl

/-- The resync fails, and the periodic report makes the row Synced again. -/
theorem periodic_report_hides_failure :
    let before := run sessionStep (startSession fun _ => none)
      (firstRound ++ resyncRound (by decide))
    let after := run sessionStep before periodicRound
    (before.shared.rows 1).map (fun row => row.status) = some .error ∧
      (after.shared.rows 1).map (fun row => (row.status, row.appliedVersionHash)) =
        some (.synced, "h1") ∧
      after.shared.lastAttempt "h1" = some false := by
  decide +kernel

end KubeSentry.Gateway
