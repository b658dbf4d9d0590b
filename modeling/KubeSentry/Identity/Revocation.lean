import KubeSentry.Identity.Coverage

/-!
# Revoked sessions stay revoked

An operation that ends sessions is complete when it has returned, and then no call of
`Authenticate` that starts afterwards accepts the token of a session that it covers.  The
sessions are `Dead` in the state that the last call of the operation left, and nothing
brings a dead session back: `Later` keeps every session with its token and its lifetime.

The condition is `Orderly`.  A session is created while its user and the tenant of the user
are active, which `LoginSucceeded` does not check, and the database does not fail where its
error is dropped: under `Logout`, and when `Authenticate` revokes an idle session.  Without
the first, `Logout` can leave a session open whose user is disabled at the time, and an
`Authenticate` that reads the session before and the user after the user is enabled again
accepts it.
-/

namespace KubeSentry.Identity

open GoLib Fallible IdentityRepo Credentials

section

variable [Credentials]

/-! ## What `Authenticate` has seen -/

/-- The call that read the time. -/
def TimeTaken (now : Time) (past : Past) : Prop :=
  ∃ call ∈ past, call.1.clock ≤ now ∧ call.2.clock = now

/-- The call that read the session, in a state in which all that it stands for holds. -/
def SessionSeen (token : String) (now : Time) (r : Session) (past : Past) : Prop :=
  ∃ call ∈ past, (∃ row ∈ call.1.sessions.rows, row.row = r) ∧
    r.tokenHash = tokenHash token ∧ r.revokedAt = none ∧ now < r.expiresAt ∧
    call.1.Live r.userID

/-- The call that read the settings. -/
def WithinIdle (auth : AuthService) (now : Time) (r : Session) (past : Past) : Prop :=
  ∃ call ∈ past, now - r.lastSeenAt ≤ auth.idleLimit call.1.settings

/-- The session was open, not expired and not idle, and its user and tenant were active. -/
def AdmittedFor (auth : AuthService) (token : String) (past : Past) : Prop :=
  ∃ now r, TimeTaken now past ∧ SessionSeen token now r past ∧ WithinIdle auth now r past

/-- What is known once the session has been read. -/
def Seen (token : String) (now : Time) (r : Session) (past : Past) : Prop :=
  TimeTaken now past ∧ SessionSeen token now r past

variable {past : Past} {token : String} {auth : AuthService} {v : IdentityServer}

omit [Credentials] in
theorem exists_append {P : IdentityState × IdentityState → Prop} (h : ∃ call ∈ past, P call)
    (more : Past) : ∃ call ∈ past ++ more, P call := by
  obtain ⟨call, hcall, hP⟩ := h
  exact ⟨call, List.mem_append_left _ hcall, hP⟩

omit [Credentials] in
theorem mem_last (past : Past) (call : IdentityState × IdentityState) : call ∈ past ++ [call] :=
  List.mem_append_right _ (List.mem_singleton.mpr rfl)

theorem Seen.append {now : Time} {r : Session} (h : Seen token now r past) (more : Past) :
    Seen token now r (past ++ more) :=
  ⟨exists_append h.1 more, exists_append h.2 more⟩

section

variable {ok : IdentityState → IdentityInput → Prop} (hok : ∀ s i, ok s i → Consistent s)

include hok

theorem along_getActiveSession {token : String} {now : Time} {past : Past}
    (htime : TimeTaken now past) :
    Along Later ok (fun _ _ _ => True) (fun past found => Seen token now found.1.row past)
      Any past (getActiveSession (tokenHash token) now) := by
  have hlive : Along Later ok (fun _ _ _ => True)
      (fun past session => Seen token now session.row past) Any past
      (liveSession (tokenHash token) now) := by
    unfold liveSession query
    refine along_compute (fun _ _ => trivial) (fun s i session hs h => ?_) fun _ _ _ _ _ => trivial
    obtain ⟨hr, htoken, hopen, hexpires⟩ := liveSession_ok
      (query_ok (f := fun s => s.liveSession (tokenHash token) now) h)
    have hsession : SessionSeen token now session.row (past ++ [(s, s.tick i.elapsed)]) :=
      ⟨_, mem_last _ _, ⟨session, hr, rfl⟩, htoken, hopen, hexpires, hok s i hs session hr hopen⟩
    exact ⟨exists_append htime _, hsession⟩
  refine along_try hlive fun past session hseen => ?_
  have happend : ∀ past c, Seen token now session.row past →
      Seen token now session.row (past ++ [c]) := fun past c h => h.append [c]
  refine along_quiet (fun _ _ _ _ => trivial) happend hseen makes_queryActive
    fun past user hseen => ?_
  refine along_quiet (fun _ _ _ _ => trivial) happend hseen (makes_checkTenant _)
    fun past _ hseen => ?_
  exact along_pure hseen

theorem along_authenticate (auth : AuthService) (token : String) :
    Along Later ok (fun _ _ _ => True) (fun past _ => AdmittedFor auth token past)
      Any [] (auth.authenticate token) := by
  have htime : Along Later ok (fun _ _ _ => True) (fun past now => TimeTaken now past)
      Any [] timeNow := by
    refine along_compute (fun _ _ => trivial) (fun s i now _ h => ?_) fun _ _ _ _ _ => trivial
    cases h
    exact ⟨_, mem_last [] _, (later_tick s i.elapsed).clock, rfl⟩
  refine along_try htime fun past now htime => ?_
  refine along_attempt (along_getActiveSession hok htime) ?_ ?_
  · intro past found hseen
    have hsettings : Along Later ok (fun _ _ _ => True)
        (fun past settings => Seen token now found.1.row past ∧
          ∃ call ∈ past, settings = call.1.settings) Any past
        getSecuritySettings := by
      unfold getSecuritySettings query
      refine along_compute (fun _ _ => trivial) (fun s i settings _ h => ?_)
        fun _ _ _ _ _ => trivial
      have heq := query_ok (f := fun s => .ok s.settings) h
      cases heq
      exact ⟨hseen.append _, _, mem_last _ _, rfl⟩
    refine along_try hsettings fun past settings hread => along_ite (fun _ => ?_) fun hidle => ?_
    · exact along_quiet (P := fun _ => True) (fun _ _ _ _ => trivial) (fun _ _ _ => trivial) trivial
        (.attempted (makes_revokeSession _ _)) fun _ _ _ => along_fail trivial
    · have hadmitted : AdmittedFor auth token past := by
        obtain ⟨⟨htime, hsession⟩, call, hcall, hsettings⟩ := hread
        refine ⟨now, found.1.row, htime, hsession, call, hcall, ?_⟩
        rw [← hsettings]
        exact not_lt.mp hidle
      refine along_quiet (fun _ _ _ _ => trivial) ?_ hadmitted (makes_touchSession _ _)
        fun past _ hadmitted => along_pure hadmitted
      intro past c h
      obtain ⟨now, r, htime, hsession, hidle⟩ := h
      exact ⟨now, r, exists_append htime _, exists_append hsession _, exists_append hidle _⟩
  · intro past err _
    exact along_quiet (P := fun _ => True) (fun _ _ _ _ => trivial) (fun _ _ _ => trivial) trivial
      makes_query fun _ _ _ => along_fail trivial

end

/-! ## Every operation of a server -/

/-- What a result of the operation says. -/
structure IdentityOp.Returns (auth : AuthService) (op : IdentityOp) (past : Past)
    (result : Except IdentityError IdentityResult) : Prop where
  ended : ∀ s, Prog.lastLeft past = some s → op.Ended s result
  admitted : ∀ token principal, op = .authenticate token → result = .ok (.admitted principal) →
    AdmittedFor auth token past

theorem IdentityOp.along_returns (auth : AuthService) (op : IdentityOp) :
    Prog.Along Later op.Allowed (fun _ _ _ => True) (op.Returns auth) [] (op.code auth) := by
  have hended : Prog.Along Later op.Allowed (fun _ _ _ => True)
      (fun past result => ∀ s, Prog.lastLeft past = some s → op.Ended s result) []
      (op.code auth) :=
    Prog.along_mono (fun _ _ h => h.2) (Prog.along_of_ensures Later.refl (P := fun _ => True)
      (fun _ _ _ _ => trivial) (fun _ _ _ => trivial) trivial (op.ensures_ended auth))
  have hadmitted : Prog.Along Later op.Allowed (fun _ _ _ => True)
      (fun past result => ∀ token principal, op = .authenticate token →
        result = .ok (.admitted principal) → AdmittedFor auth token past) [] (op.code auth) := by
    by_cases hop : ∃ token, op = .authenticate token
    · obtain ⟨token, hop⟩ := hop
      rw [hop]
      have hcall : Along Later (IdentityOp.Allowed (.authenticate token)) (fun _ _ _ => True)
          (fun past _ => AdmittedFor auth token past) Any []
          (mapResult .admitted (auth.authenticate token)) :=
        along_try (along_authenticate (fun _ _ h => h.1) auth token) fun _ _ h => along_pure h
      refine Prog.along_mono ?_ hcall
      intro past result hresult token' principal htoken heq
      cases htoken
      rw [heq] at hresult
      exact hresult
    · refine Prog.along_mono ?_ hended
      intro past result _ token principal htoken
      exact absurd ⟨token, htoken⟩ hop
  refine Prog.along_weaken (fun _ _ _ _ => trivial) ?_ (Prog.along_and hended hadmitted)
  intro past result h
  exact ⟨h.1, h.2⟩

namespace IdentityServer

/-- What the operations have returned is right. -/
def Accountable (auth : AuthService) (v : IdentityServer) : Prop :=
  v.Justified Later (fun op s i => op.Allowed s i) (fun _ _ _ _ => True)
    (fun op past result => op.Returns auth past result) 0

/-- The operations from the index `first` on have started after the state `s0`. -/
def StartedAfter (s0 : IdentityState) (first : Nat) (v : IdentityServer) : Prop :=
  v.Justified Later (fun _ s _ => Later s0 s) (fun _ _ _ _ => True)
    (fun _ past _ => ∀ call ∈ past, Later s0 call.1) first

end IdentityServer

/-! ## Orderly runs -/

/-- The session is created for an active user, and no call of `Logout` fails. -/
def OrderlyCall (s s' : IdentityState) (i : IdentityInput) (c : IdentityCall) : Prop :=
  (c.op.IsLogout → i.fault = none) ∧
    ∀ r' ∈ s'.sessions.rows, (∀ r ∈ s.sessions.rows, r.id ≠ r'.id) → s.Live r'.row.userID

/-- The same, and no `RevokeSession` of an idle session fails. -/
def Orderly (auth : AuthService) (v : IdentityServer) (e : IdentityEvent) : Prop :=
  (∀ c ∈ (v.step auth e).calls, c.result? ≠ some IdentityOp.leftIdle) ∧
    match e with
    | .spawn _ => True
    | .advance k i => ∀ c ∈ v.calls[k]?,
      OrderlyCall v.shared (v.step auth (.advance k i)).shared i c

theorem consistent_step {e : IdentityEvent} (hrunning : v.Running) (horderly : Orderly auth v e)
    (h : Consistent v.shared) : Consistent (v.step auth e).shared := by
  rcases hrunning.does auth e with heq | ⟨k, i, c, he, hc, hdoes⟩
  · rw [heq]
    exact h
  · intro r' hr' hopen
    refine hdoes.follows.safe r' hr' hopen ?_
    by_cases hnew : Opens v.shared.sessions (v.step auth e).shared.sessions r'
    · rw [he] at horderly hnew
      exact (horderly.2 c hc).2 r' hnew.1 hnew.2
    · obtain ⟨r, hr, _, hsame⟩ := hdoes.follows.later.sessions.earlier hr' hnew
      rw [hsame.userID]
      exact h r hr (hsame.unrevoked hopen)

/-- What holds throughout an orderly run. -/
structure InOrder (auth : AuthService) (v : IdentityServer) : Prop where
  running : v.Running
  consistent : Consistent v.shared
  revoked : ∀ c ∈ v.calls, c.result? ≠ some IdentityOp.leftIdle
  accountable : IdentityServer.Accountable auth v

theorem inOrder_start (auth : AuthService) {s : IdentityState} (h : Consistent s) :
    InOrder auth { shared := s } := by
  refine ⟨IdentityServer.running_start s, h, fun c hc => ?_, fun k c _ hc => ?_⟩
  · cases hc
  · cases hc

theorem InOrder.step (h : InOrder auth v) (e : IdentityEvent) (horderly : Orderly auth v e) :
    InOrder auth (v.step auth e) := by
  refine ⟨h.running.step auth e, consistent_step h.running horderly h.consistent, horderly.1, ?_⟩
  refine Server.Justified.step Later.refl (fun _ _ _ => Later.trans)
    (fun op => op.along_returns auth) h.accountable (h.running.later auth e) ?_
  intro k i c he hc _
  rw [he] at horderly
  exact ⟨h.consistent, (horderly.2 c hc).1⟩

theorem InOrder.run (h : InOrder auth v) {events : List IdentityEvent}
    (hguard : Guarded (Orderly auth) (IdentityServer.step auth) v events) :
    InOrder auth (run (IdentityServer.step auth) v events) :=
  run_invariant (I := InOrder auth) (fun _ e h horderly => h.step e horderly) h hguard

/-- The operations that start in the second part of a run. -/
theorem startedAfter_run (auth : AuthService) (hv : v.Running) (events : List IdentityEvent) :
    IdentityServer.StartedAfter v.shared v.calls.length
      (run (IdentityServer.step auth) v events) := by
  have hstep : ∀ (w : IdentityServer) (e : IdentityEvent), w.Running ∧ Later v.shared w.shared ∧
        IdentityServer.StartedAfter v.shared v.calls.length w →
      (w.step auth e).Running ∧
        Later v.shared (w.step auth e).shared ∧
        IdentityServer.StartedAfter v.shared v.calls.length (w.step auth e) := by
    intro w e hw
    obtain ⟨hrunning, hlater, hstarted⟩ := hw
    refine ⟨hrunning.step auth e, hlater.trans (hrunning.later auth e), ?_⟩
    refine Server.Justified.step Later.refl (fun _ _ _ => Later.trans) (fun op => ?_) hstarted
      (hrunning.later auth e) fun _ _ _ _ _ _ => hlater
    refine Prog.along_found (P := Later v.shared) (fun _ _ h => h) ?_
    intro c hc
    cases hc
  have hstart : IdentityServer.StartedAfter v.shared v.calls.length v := by
    intro k c hk hc
    rw [List.getElem?_eq_none hk] at hc
    cases hc
  exact (run_invariant_of_step hstep ⟨hv, .refl _, hstart⟩ events).2.2

/-! ## The result -/

/-- A session that was dead when the call started is not one that it admits. -/
theorem not_admitted_of_dead {s0 : IdentityState} (hlater : ∀ call ∈ past, Later s0 call.1)
    {r : Stored Session} (hr : r ∈ s0.sessions.rows)
    (htoken : r.row.tokenHash = tokenHash token) (hdead : Dead s0 r.row) :
    ¬ AdmittedFor auth token past := by
  intro hadmitted
  obtain ⟨now, row, ⟨time, htime, hclock, _⟩, ⟨call, hcall, ⟨found, hfound, heq⟩, hsame, hopen,
    hexpires, _⟩, _⟩ := hadmitted
  obtain ⟨r', hr', _, hsession⟩ := (hlater call hcall).sessions r hr
  have hrow : r' = found := by
    refine eq_of_token hr' hfound ?_
    rw [hsession.tokenHash, htoken, heq, hsame]
  rw [hrow, heq] at hsession
  rcases hdead with hrevoked | hexpired
  · exact hrevoked (hsession.unrevoked hopen)
  · have hbefore := hexpired.trans ((hlater time htime).clock.trans hclock)
    rw [hsession.expiresAt] at hexpires
    exact absurd hexpires (not_lt.mpr hbefore)

/-- The operation has returned, and the session of the token is one that it covers. -/
def HasEnded (c : IdentityCall) (token : String) : Prop :=
  ∃ result left, c.result? = some result ∧ Prog.lastLeft c.found = some left ∧
    ∃ r ∈ left.sessions.rows, r.row.tokenHash = tokenHash token ∧
      c.op.Covers result left r.row

/-- The operation is a call of `Authenticate` with the token, and has succeeded. -/
def HasAdmitted (c : IdentityCall) (token : String) : Prop :=
  c.op = .authenticate token ∧ ∃ principal, c.result? = some (.ok (.admitted principal))

theorem InOrder.admittedFor (h : InOrder auth v) {k : Nat} {c : IdentityCall}
    (hc : v.calls[k]? = some c) (hadmitted : HasAdmitted c token) :
    AdmittedFor auth token c.found := by
  obtain ⟨hop, principal, hresult⟩ := hadmitted
  exact (h.accountable.result (Nat.zero_le k) hc hresult).admitted token principal hop rfl

/-- The session of the token is dead once the operation has returned. -/
theorem InOrder.dead (h : InOrder auth v) {c : IdentityCall} (hc : c ∈ v.calls)
    (hended : HasEnded c token) :
    ∃ r ∈ v.shared.sessions.rows, r.row.tokenHash = tokenHash token ∧
      Dead v.shared r.row := by
  obtain ⟨result, left, hresult, hleft, r, hr, htoken, hcovers⟩ := hended
  obtain ⟨j, hj⟩ := List.getElem?_of_mem hc
  have hrevoked : result ≠ IdentityOp.leftIdle :=
    fun heq => h.revoked c hc (hresult.trans (congrArg some heq))
  have hdead := (h.accountable.result (Nat.zero_le j) hj hresult).ended left hleft hrevoked r hr
    hcovers
  obtain ⟨pair, hpair, hpairLeft⟩ := Option.map_eq_some_iff.mp hleft
  have hlater : Later left v.shared := by
    rw [← hpairLeft]
    exact (h.accountable j c (Nat.zero_le j) hj).1 pair (List.mem_of_getLast? hpair)
  obtain ⟨r', hr', _, hsame⟩ := hlater.sessions r hr
  exact ⟨r', hr', hsame.tokenHash.trans htoken, hdead.later hsame hlater⟩

/-- In an orderly run, an operation that has returned has ended the sessions that it covers:
no `Authenticate` that starts later succeeds with one of their tokens.  And what
`Authenticate` admits is a session that was open, not expired and not idle, of a user
who was active and in an active tenant. -/
theorem revocation_is_permanent (auth : AuthService) (s : IdentityState)
    (pre post : List IdentityEvent) (hstart : Consistent s)
    (horderly : Guarded (Orderly auth) (IdentityServer.step auth) { shared := s } (pre ++ post)) :
    let middle := run (IdentityServer.step auth) { shared := s } pre
    let final := run (IdentityServer.step auth) { shared := s } (pre ++ post)
    (∀ c ∈ middle.calls, ∀ token, HasEnded c token → ∀ k c', middle.calls.length ≤ k →
        final.calls[k]? = some c' → ¬ HasAdmitted c' token) ∧
      ∀ c ∈ final.calls, ∀ token, HasAdmitted c token → AdmittedFor auth token c.found := by
  intro middle final
  have hmiddle : InOrder auth middle :=
    (inOrder_start auth hstart).run (guarded_append.mp horderly).1
  have hfinal : InOrder auth final := (inOrder_start auth hstart).run horderly
  refine ⟨?_, fun c hc token hadmitted => ?_⟩
  · intro c hc token hended k c' hk hc' hadmitted
    obtain ⟨r, hr, htoken, hdead⟩ := hmiddle.dead hc hended
    have hstarted : IdentityServer.StartedAfter middle.shared middle.calls.length final := by
      have hrun := startedAfter_run auth hmiddle.running post
      rw [← run_append] at hrun
      exact hrun
    obtain ⟨principal, hresult⟩ := hadmitted.2
    exact not_admitted_of_dead (hstarted.result hk hc' hresult) hr htoken hdead
      (hfinal.admittedFor hc' hadmitted)
  · obtain ⟨k, hk⟩ := List.getElem?_of_mem hc
    exact hfinal.admittedFor hk hadmitted

/-- A `Logout` that has returned, found in the list. -/
theorem hasEnded_of_logout {k : Nat} (hop : v.calls[k]?.map (·.op) = some (.logout token))
    (hresult : v.calls[k]?.bind (·.result?) = some (.ok .done))
    (hleft : ∃ left ∈ v.calls[k]?.bind fun c => Prog.lastLeft c.found,
      ∃ r ∈ left.sessions.rows, r.row.tokenHash = tokenHash token) :
    ∃ c ∈ v.calls, HasEnded c token := by
  obtain ⟨left, hleft, r, hr, htoken⟩ := hleft
  obtain ⟨c, hc, hopc⟩ := Option.map_eq_some_iff.mp hop
  have hleft : (v.calls[k]?.bind fun c => Prog.lastLeft c.found) = some left := hleft
  rw [hc] at hresult hleft
  refine ⟨c, List.mem_of_getElem? hc, .ok .done, left, hresult, hleft, r, hr, htoken, ?_⟩
  rw [hopc]
  exact htoken

end

/-! ## Two runs -/

attribute [local instance] Credentials.plain

instance (op : IdentityOp) : Decidable op.IsLogout :=
  match op with
  | .logout _ => .isTrue trivial
  | .authenticate _ | .initializeAdmin _ | .login _ _ _ | .activate _ _ | .changePassword _ _ _ _
  | .createTenant _ _ | .setTenantStatus _ _ _ | .createUser _ _ | .regenerateActivation _ _
  | .unlockUser _ _ | .forceLogout _ _ | .forcePasswordChange _ _ | .setUserStatus _ _ _
  | .resetPassword _ _ _ | .deleteUser _ _ | .updateSettings _ _ => .isFalse id

instance (s : IdentityState) (tenantID : Option Int) : Decidable (s.TenantActive tenantID) :=
  inferInstanceAs (Decidable (∀ id ∈ tenantID, ∃ t ∈ s.tenants.rows, _))

instance (s : IdentityState) (userID : Int) : Decidable (s.Live userID) :=
  inferInstanceAs (Decidable (∃ u ∈ s.users.rows, _))

instance (s s' : IdentityState) (i : IdentityInput) (c : IdentityCall) :
    Decidable (OrderlyCall s s' i c) :=
  inferInstanceAs (Decidable (_ ∧ ∀ r' ∈ s'.sessions.rows, _))

instance (auth : AuthService) (v : IdentityServer) (e : IdentityEvent) :
    Decidable (Orderly auth v e) :=
  match e with
  | .spawn _ => inferInstanceAs (Decidable (_ ∧ True))
  | .advance k i => inferInstanceAs (Decidable (_ ∧ ∀ c ∈ v.calls[k]?,
      OrderlyCall v.shared (v.step auth (.advance k i)).shared i c))

def calls (k n : Nat) : List IdentityEvent :=
  List.replicate n (.advance k { token := "t" })

/-- The administrator logs in and out. -/
def loginLogout : List IdentityEvent :=
  [.spawn (.login "admin" "secret" [])] ++ calls 0 5 ++ [.spawn (.logout "t")] ++ calls 1 5

def authenticateAfter : List IdentityEvent :=
  [.spawn (.authenticate "t")] ++ calls 2 5

theorem revocation_is_permanent_logout :
    let middle := run (IdentityServer.step {}) { shared := twoAdmins } loginLogout
    let final := run (IdentityServer.step {}) { shared := twoAdmins }
      (loginLogout ++ authenticateAfter)
    (∃ c ∈ middle.calls, HasEnded c "t") ∧ final.calls.length = 3 ∧
      ∀ k c', middle.calls.length ≤ k → final.calls[k]? = some c' → ¬ HasAdmitted c' "t" := by
  intro middle final
  have hended : ∃ c ∈ middle.calls, HasEnded c "t" :=
    hasEnded_of_logout (k := 1) (by decide +kernel) (by decide +kernel) (by decide +kernel)
  obtain ⟨c, hc, hcovered⟩ := hended
  have hpermanent := revocation_is_permanent {} twoAdmins loginLogout authenticateAfter
    (fun r hr => by cases hr) (by decide +kernel)
  exact ⟨⟨c, hc, hcovered⟩, by decide +kernel, hpermanent.1 c hc "t" hcovered⟩

/-- A login of a user who is disabled before it takes effect, and a `Logout` of its session. -/
def logoutWhileDisabled : List IdentityEvent :=
  [.spawn (.login "admin" "secret" [])] ++ calls 0 4 ++
    [.spawn (.setUserStatus { userID := 2, role := .systemAdmin } 1 .disabled)] ++ calls 1 3 ++
    calls 0 1 ++ [.spawn (.logout "t")] ++ calls 2 3

/-- An `Authenticate` that reads the session, then the user is enabled, and it goes on. -/
def authenticateAcross : List IdentityEvent :=
  [.spawn (.authenticate "t")] ++ calls 3 2 ++
    [.spawn (.setUserStatus { userID := 2, role := .systemAdmin } 1 .active)] ++ calls 4 3 ++
    calls 3 3

/-- `Logout` has returned, and a later `Authenticate` with the same token succeeds. -/
theorem logout_while_disabled_is_undone :
    let middle := run (IdentityServer.step {}) { shared := twoAdmins } logoutWhileDisabled
    let final := run (IdentityServer.step {}) { shared := twoAdmins }
      (logoutWhileDisabled ++ authenticateAcross)
    (∃ c ∈ middle.calls, HasEnded c "t") ∧
      ∃ k c', middle.calls.length ≤ k ∧ final.calls[k]? = some c' ∧ HasAdmitted c' "t" := by
  intro middle final
  refine ⟨hasEnded_of_logout (k := 2) (by decide +kernel) (by decide +kernel) (by decide +kernel),
    3, ?_⟩
  have hop : final.calls[3]?.map (·.op) = some (.authenticate "t") := by decide +kernel
  obtain ⟨c', hc', hopc⟩ := Option.map_eq_some_iff.mp hop
  have hresult : final.calls[3]?.bind (·.result?) = some (.ok (.admitted
      { userID := 1, username := "admin", role := .systemAdmin, lastLoginAt := some 0 })) := by
    decide +kernel
  rw [hc'] at hresult
  exact ⟨c', by decide +kernel, hc', hopc, _, hresult⟩

end KubeSentry.Identity
