import KubeSentry.Identity.Transactions

/-!
# The calls of the identity operations

`IdentityOp.makes` says what each call of an operation does, for every operation, and
`IdentityServer.Running` carries it to servers: in any interleaving an event is such a
call or changes nothing.

The platform never loses its last administrator: the two operations that could take one
away count the others in the transaction that does it.
-/

namespace KubeSentry.Identity

open GoLib Fallible IdentityRepo

section

/-! ## Operations -/

def HasToken (s : IdentityState) (tokenHash : String) (id : Int) : Prop :=
  ∃ r ∈ s.sessions.rows, r.id = id ∧ r.row.tokenHash = tokenHash

variable {tokenHash : String} {s s' : IdentityState}

theorem HasToken.later {id : Int} (h : HasToken s tokenHash id) (hlater : Later s s') :
    HasToken s' tokenHash id := by
  obtain ⟨r, hr, hid, htoken⟩ := h
  obtain ⟨r', hr', hid', hsame⟩ := hlater.sessions r hr
  exact ⟨r', hr', hid'.trans hid, hsame.tokenHash.trans htoken⟩

/-- The session that `GetActiveSession` reads. -/
theorem liveSession_ok {now : Time} {session : Stored Session}
    (h : s.liveSession tokenHash now = .ok session) :
    session ∈ s.sessions.rows ∧ session.row.tokenHash = tokenHash ∧
      session.row.revokedAt = none ∧ session.row.expiresAt > now := by
  unfold IdentityState.liveSession at h
  split at h
  · rename_i found hfind
    cases h
    exact ⟨List.mem_of_find?_eq_some hfind, by simpa using List.find?_some hfind⟩
  · cases h

variable [Credentials] {spared : Session → String → Prop}

theorem makes_checkTenant (tenantID : Option Int) : Quietly spared (checkTenant tenantID) := by
  cases tenantID with
  | none => exact .pure trivial
  | some id => exact makes_queryActive

theorem makes_getActiveSession (tokenHash : String) (now : Time) :
    Quietly spared (getActiveSession tokenHash now) :=
  .seq makes_query fun _ _ => .seq makes_queryActive fun _ _ =>
    .seq (makes_checkTenant _) fun _ _ => .pure trivial

theorem makes_authorizedUser (actor : Principal) (userID : Int) :
    Quietly spared (IdentityService.authorizedUser actor userID) := by
  refine .guard fun _ => .seq (.mapError makes_query) fun user _ => .guard fun _ => .pure trivial

theorem ensures_checkTenant {P : IdentityState → Prop} {s0 : IdentityState} (h : P s0)
    (hstable : ∀ s s', P s → Later s s' → P s') (tenantID : Option Int) :
    Ensures Later Any (Quiet spared) (fun s _ => P s) Any s0 (checkTenant tenantID) := by
  unfold checkTenant
  cases tenantID with
  | none => exact ensures_pure h
  | some id =>
    exact ensures_compute (fun _ _ _ _ hlater _ => hstable _ _ h hlater) fun _ _ _ _ _ _ => trivial

theorem ensures_getActiveSession (tokenHash : String) (now : Time) (s0 : IdentityState) :
    Ensures Later Any (Quiet spared) (fun s found => HasToken s tokenHash found.1.id)
      Any s0 (getActiveSession tokenHash now) := by
  have hstable : ∀ id s s', HasToken s tokenHash id → Later s s' → HasToken s' tokenHash id :=
    fun _ _ _ h hlater => h.later hlater
  have hlive : Ensures Later Any (Quiet spared)
      (fun s (r : Stored Session) => HasToken s tokenHash r.id) Any s0
      (liveSession tokenHash now) := by
    unfold liveSession query
    refine ensures_compute (fun s i r _ _ h => ?_) fun _ _ _ _ _ _ => trivial
    obtain ⟨hr, htoken, _⟩ := liveSession_ok
      (query_ok (f := fun s => s.liveSession tokenHash now) h)
    exact ⟨r, hr, rfl, htoken⟩
  refine ensures_try hlive fun s session hsession => ?_
  unfold activeUser queryActive
  refine ensures_pass hsession (hstable session.id) (fun _ _ _ => trivial) fun s user hsession => ?_
  exact ensures_try (ensures_checkTenant hsession (hstable session.id) _) fun s _ hsession =>
    ensures_pure hsession

namespace AuthService

theorem makes_initializeAdmin (password : String) :
    Quietly spared (AuthService.initializeAdmin password) := by
  refine .seq makes_query fun settings _ => .guard fun _ => ?_
  refine .seq (makes_generateFromPassword password) fun hash hset => ?_
  refine .seq makes_timeNow fun now _ => ?_
  exact .seq (Identity.makes_initializeAdmin hset.ne_empty now) fun won _ => .refuse

theorem makes_loginTenant (tenantID : Option Int) : Quietly spared (loginTenant tenantID) := by
  cases tenantID with
  | none => exact .pure trivial
  | some id => exact .attempt makes_query (fun _ _ => .refuse) fun _ => .fail

theorem makes_authenticate (auth : AuthService) (token : String) :
    Quietly spared (auth.authenticate token) := by
  refine .seq makes_timeNow fun now _ => .attempt (makes_getActiveSession ..) ?_ ?_
  · intro found _
    refine .seq makes_query fun settings _ => .ite (fun _ => ?_) fun _ => ?_
    · exact .attempt (makes_revokeSession ..) (fun _ _ => .fail) fun _ => .fail
    · exact .seq (makes_touchSession ..) fun _ _ => .pure trivial
  · intro err
    exact .seq makes_query fun settings _ => .fail

theorem makes_logout (token : String) : Quietly spared (AuthService.logout token) := by
  refine .seq makes_timeNow fun now _ => .attempt (makes_getActiveSession ..)
    (fun found _ => ?_) fun _ => .pure trivial
  exact .seq makes_timeNow fun at' _ => makes_revokeSession ..

theorem makes_activate (code password : String) :
    Quietly spared (AuthService.activate code password) := by
  refine .seq makes_query fun settings _ => .guard fun _ => ?_
  refine .attempt makes_query (fun token _ => ?_) fun _ => .fail
  refine .seq makes_timeNow fun now _ => .guard fun _ => ?_
  refine .seq (makes_generateFromPassword password) fun hash hset => ?_
  exact .seq makes_timeNow fun at' _ => .mapError (makes_activateUser hset.ne_empty)

theorem makes_refuseReused (user : Stored User) (newPassword : String)
    (settings : SecuritySettings) : Quietly spared (refuseReused user newPassword settings) :=
  .ite (fun _ => .seq (.ite (fun _ => .pure trivial) fun _ => makes_query) fun _ _ => .refuse)
    fun _ => .pure trivial

/-- The session that is kept is the one of the token. -/
def KeepsOwn (sessionToken : String) (kept : Option Int) (s : IdentityState) : Prop :=
  ∀ id, kept = some id →
    sessionToken ≠ "" ∧ HasToken s (Credentials.tokenHash sessionToken) id

theorem ensures_keptSession (sessionToken : String) (userID : Int) (s0 : IdentityState) :
    Ensures Later Any (Quiet spared) (fun s kept => KeepsOwn sessionToken kept s)
      Any s0 (keptSession sessionToken userID) := by
  refine ensures_ite (fun _ => ensures_pure ?_) fun hne => ?_
  · intro id hid
    cases hid
  · refine ensures_try (makes_timeNow.ensures s0) fun s now _ => ?_
    refine ensures_attempt (ensures_getActiveSession _ now s) (fun s found hfound => ?_)
      fun s err _ => ensures_fail trivial
    refine ensures_guard fun _ => ensures_pure fun id hid => ?_
    cases hid
    exact ⟨hne, hfound⟩

/-- The session that `ChangePassword` is called from. -/
def OwnSession (sessionToken : String) (r : Session) : Prop :=
  sessionToken ≠ "" ∧ r.tokenHash = Credentials.tokenHash sessionToken

/-- That session, and the password that its user has after the call. -/
def Spared (sessionToken newPassword : String) (r : Session) (password : String) : Prop :=
  OwnSession sessionToken r ∧ password = newPassword

/-- All other sessions of the user are revoked. -/
theorem ensures_changePassword (principal : Principal)
    (sessionToken currentPassword newPassword : String) (s0 : IdentityState) :
    Ensures Later Any (Quiet (Spared sessionToken newPassword))
      (fun s _ => ∀ r ∈ s.sessions.rows, r.row.revokedAt = none →
        r.row.userID = principal.userID → OwnSession sessionToken r.row)
      Any s0
      (AuthService.changePassword principal sessionToken currentPassword newPassword) := by
  refine makes_query.andThen fun s settings _ => ?_
  refine (makes_getUser _).andThen fun s user huser => ?_
  refine ensures_guard fun _ => ensures_guard fun _ => ?_
  refine (makes_refuseReused ..).andThen fun s _ _ => ?_
  refine (makes_generateFromPassword newPassword).andThen fun s hash hset => ?_
  refine ensures_try (ensures_keptSession _ _ s) fun s kept hkept => ?_
  have hstable : ∀ s s', KeepsOwn sessionToken kept s → Later s s' →
      KeepsOwn sessionToken kept s' :=
    fun _ _ h hlater id hid => ⟨(h id hid).1, (h id hid).2.later hlater⟩
  refine ensures_pass hkept hstable (fun _ _ _ => trivial) fun s now hkept => ?_
  refine ensures_execute fun s1 i s' _ hlater h => ?_
  cases h
  have hown : ∀ r ∈ (s1.tick i.elapsed).sessions.rows, some r.id = kept →
      OwnSession sessionToken r.row := by
    intro r hr hid
    obtain ⟨hne, r', hr', hid', htoken⟩ := hstable _ _ hkept hlater r.id hid.symm
    rw [← (s1.tick i.elapsed).sessions.eq_of_id hr' hr hid']
    exact ⟨hne, htoken⟩
  refine ⟨quiet_changePassword hset fun r hr hid => ⟨hown r hr hid, rfl⟩,
    fun r hr hopen hid => ?_⟩
  obtain ⟨hr, hsel⟩ := not_selected_of_open hr hopen
  refine hown r hr ?_
  simpa [hopen, hid, huser] using hsel

end AuthService

namespace IdentityService

variable (actor : Principal) (userID : Int)

theorem makes_createTenant (name : String) :
    Quietly spared (IdentityService.createTenant actor name) :=
  .guard fun _ => .guard fun _ => Identity.makes_createTenant _

theorem makes_requireActiveTenant (tenantID : Option Int) :
    Quietly spared (requireActiveTenant tenantID) := by
  cases tenantID with
  | none => exact .pure trivial
  | some id => exact .seq (.mapError makes_query) fun _ _ => .refuse

theorem makes_createUser (req : CreateUserRequest) :
    Quietly spared (IdentityService.createUser actor req) := by
  refine .guard fun _ => .guard fun _ => .guard fun _ => ?_
  refine .seq (makes_requireActiveTenant _) fun _ _ => .seq makes_query fun settings _ => ?_
  refine .seq makes_newSessionToken fun code _ => .seq makes_timeNow fun now _ => ?_
  exact makes_createUserWithActivation ..

theorem makes_regenerateActivation : Quietly spared (regenerateActivation actor userID) := by
  refine .seq (makes_authorizedUser ..) fun target _ => .guard fun _ => .guard fun _ => ?_
  refine .seq makes_query fun settings _ => .seq makes_newSessionToken fun code _ => ?_
  refine .seq makes_timeNow fun now _ => .seq makes_timeNow fun at' _ => ?_
  exact makes_replaceActivationToken ..

theorem makes_unlockUser : Quietly spared (IdentityService.unlockUser actor userID) := by
  refine .seq (makes_authorizedUser ..) fun _ _ => .guard fun _ => ?_
  exact makes_updateUser _ (fun _ => rfl) (fun _ => rfl) (fun _ => rfl) fun _ => rfl

theorem makes_forcePasswordChange : Quietly spared (forcePasswordChange actor userID) := by
  refine .seq (makes_authorizedUser ..) fun _ _ => .guard fun _ => .guard fun _ => ?_
  exact makes_updateUser _ (fun _ => rfl) (fun _ => rfl) (fun _ => rfl) fun _ => rfl

end IdentityService

theorem makes_updateSettings (actor : Principal) (settings : SecuritySettings) :
    Quietly spared (Identity.updateSettings actor settings) := by
  refine .guard fun _ => .guard fun _ => makes_execute fun s s' h => ?_
  cases h
  exact .of_eq le_rfl rfl rfl rfl

/-! ## Transactions that end the sessions of a user -/

/-- The user has no open session. -/
def UserEnded (userID : Int) (s : IdentityState) : Prop :=
  ∀ r ∈ s.sessions.rows, r.row.revokedAt = none → r.row.userID ≠ userID

omit [Credentials] in
theorem userEnded_revoked {userID : Int} {at' : Time}
    (h : s'.sessions = (s.revokeSessionsOf userID at').sessions) : UserEnded userID s' := by
  intro r hr hopen
  rw [h] at hr
  simpa using not_selected_of_openWhere hr hopen

variable {ok : IdentityState → IdentityInput → Prop} {s0 : IdentityState} (actor : Principal)
  (userID : Int)

theorem ensures_forceLogout : Ensures Later ok (Quiet spared) (fun s _ => UserEnded userID s) Any s0
      (IdentityService.forceLogout actor userID) := by
  refine (makes_authorizedUser ..).andThen fun s target _ => ?_
  refine ensures_guard fun _ => ?_
  refine ensures_execute fun s i s' _ _ h => ?_
  cases h
  exact ⟨quiet_revoke _ _ _, userEnded_revoked rfl⟩

theorem ensures_setUserStatus (status : UserStatus) :
    Ensures Later ok (Quiet spared) (fun s _ => UserEnded userID s) Any s0
      (IdentityService.setUserStatus actor userID status) := by
  refine (makes_authorizedUser ..).andThen fun s target _ => ?_
  refine ensures_guard fun hvalid => ensures_guard fun _ => ?_
  refine makes_timeNow.andThen fun s now _ => ?_
  refine ensures_execute fun s i s' _ _ h => ?_
  split at h
  · cases h
  · rename_i user huser
    split at h
    · cases h
    · rename_i hallowed
      cases h
      exact ⟨quiet_setStatus huser (not_not.mp hvalid) hallowed, userEnded_revoked rfl⟩

theorem ensures_resetPassword (password : String) :
    Ensures Later ok (Quiet spared) (fun s _ => UserEnded userID s) Any s0
      (IdentityService.resetPassword actor userID password) := by
  refine (makes_authorizedUser ..).andThen fun s target _ => ?_
  refine ensures_guard fun _ => ensures_guard fun _ => ?_
  refine (makes_generateFromPassword password).andThen fun s hash hset => ?_
  refine makes_timeNow.andThen fun s now _ => ?_
  refine ensures_execute fun s i s' _ _ h => ?_
  split at h
  · cases h
  · cases h
    exact ⟨quiet_setPassword hset.ne_empty, userEnded_revoked rfl⟩

theorem ensures_deleteUser : Ensures Later ok (Quiet spared) (fun s _ => UserEnded userID s) Any s0
      (IdentityService.deleteUser actor userID) := by
  refine (makes_authorizedUser ..).andThen fun s target _ => ?_
  refine ensures_guard fun _ => ensures_guard fun _ => ?_
  refine makes_timeNow.andThen fun s now _ => ?_
  refine ensures_execute fun s i s' _ _ h => ?_
  split at h
  · cases h
  · rename_i user huser
    split at h
    · cases h
    · rename_i hallowed
      cases h
      exact ⟨quiet_deleteUser huser hallowed, userEnded_revoked rfl⟩

/-- The users of the tenant have no open session. -/
def TenantEnded (tenantID : Int) (s : IdentityState) : Prop :=
  ∀ r ∈ s.sessions.rows, r.row.revokedAt = none → ∀ u ∈ s.users.rows, u.id = r.row.userID →
    u.row.tenantID ≠ some tenantID

theorem ensures_setTenantStatus (tenantID : Int) (status : UserStatus) :
    Ensures Later ok (Quiet spared) (fun s _ => TenantEnded tenantID s) Any s0
      (IdentityService.setTenantStatus actor tenantID status) := by
  refine ensures_guard fun _ => ensures_guard fun _ => ?_
  refine makes_timeNow.andThen fun s now _ => ?_
  refine ensures_execute fun s i s' _ _ h => ?_
  split at h
  · cases h
  · cases h
    refine ⟨quiet_setTenantStatus, fun r hr hopen u hu hid htenant => ?_⟩
    have hfree : (s.tick i.elapsed).ofTenant tenantID r.row = false :=
      not_selected_of_openWhere hr hopen
    refine List.any_eq_false.mp hfree u hu ?_
    simp [hid, htenant]

/-! ## Logins -/

/-- The login has the only open session of its user. -/
def OnlySession (login : LoginResult) (s : IdentityState) : Prop :=
  ∀ r ∈ s.sessions.rows, r.row.revokedAt = none → r.row.userID = login.user.id →
    r.row.tokenHash = Credentials.tokenHash login.token

theorem ensures_loginSucceeded (session : Session) (at' : Time) (remoteIP : String)
    (allowConcurrent : Bool) :
    Ensures Later ok (Follows spared)
      (fun s _ => allowConcurrent = false → ∀ r ∈ s.sessions.rows, r.row.revokedAt = none →
        r.row.userID = userID → r.row.tokenHash = session.tokenHash) Any s0
      (IdentityRepo.loginSucceeded userID session at' remoteIP allowConcurrent) := by
  refine ensures_transaction (fun s elapsed => (quiet_tick s elapsed).1)
    (fun _ _ _ h => h.of_tick) ?_ fun _ _ _ _ _ _ => trivial
  intro s i s' a _ _ h
  have hok := execute_ok
    (f := fun s => s.loginSucceeded userID session at' remoteIP allowConcurrent) h
  refine ⟨follows_loginSucceeded hok, fun hsingle r hr hopen hid => ?_⟩
  rw [(loginSucceeded_ok hok).2.1, hsingle] at hr
  rcases List.mem_append.mp hr with hold | hnew
  · exact absurd hid (userEnded_revoked rfl r hold hopen)
  · rw [List.mem_singleton.mp hnew]
    rfl

theorem ensures_openSession (auth : AuthService) (user : Stored User) (password : String)
    (now : Time) (settings : SecuritySettings) (remoteIPs : List String) :
    Ensures Later ok (Follows spared)
      (fun s login => login.allowConcurrent = false → OnlySession login s) Any s0
      (auth.openSession user password now settings remoteIPs) := by
  refine (makes_newSessionToken.mono fun _ _ h => h.1).andThen fun s token _ => ?_
  exact ensures_try (ensures_loginSucceeded _ _ _ _ _) fun s _ hs => ensures_pure hs

theorem ensures_login (auth : AuthService) (username password : String) (remoteIPs : List String) :
    Ensures Later ok (Follows spared)
      (fun s login => login.allowConcurrent = false → OnlySession login s) Any s0
      (auth.login username password remoteIPs) := by
  have hquiet : ∀ s s', Quiet spared s s' → Follows spared s s' := fun _ _ h => h.1
  have hread : Ensures Later ok (Follows spared) Any Any s0
      (getUserByUsername (GoUnicode.toLower (trimSpace username))) :=
    Prog.ensures_of_ok (fun _ _ _ => trivial) ((makes_query.mono hquiet).ensures s0)
  refine ensures_attempt hread (fun s user _ => ?_) fun _ _ _ => ensures_fail trivial
  refine ensures_guard fun _ => ?_
  refine (makes_timeNow.mono hquiet).andThen fun s now _ => ?_
  refine ensures_guard fun _ => ?_
  refine (makes_query.mono hquiet).andThen fun s settings _ => ?_
  refine ensures_ite (fun _ => ?_) fun _ => ?_
  · refine ((AuthService.makes_loginTenant _).mono hquiet).andThen fun s _ _ => ?_
    exact ensures_openSession auth user password now settings remoteIPs
  · exact ((Makes.attempted (makes_recordLoginFailure ..)).mono hquiet).andThen
      fun s _ _ => ensures_fail trivial

end

/-! ## All operations -/

namespace IdentityOp

/-- `ChangePassword` spares the session that it is called from. -/
def Spares [Credentials] : IdentityOp → Session → String → Prop
  | .changePassword _ sessionToken _ newPassword => AuthService.Spared sessionToken newPassword
  | _ => fun _ _ => False

def IsLogin : IdentityOp → Prop
  | .login _ _ _ => True
  | _ => False

/-- What a call of the operation does. -/
structure Does [Credentials] (op : IdentityOp) (s s' : IdentityState) : Prop where
  follows : Follows op.Spares s s'
  quiet : ¬ op.IsLogin → NoneOpened s s'

theorem makes [Credentials] (auth : AuthService) (op : IdentityOp) :
    Makes op.Does (fun _ => True) (op.code auth) := by
  have hquiet : ∀ {A : Type} {p : IdentityProg A} {f : A → IdentityResult},
      Makes (Quiet op.Spares) (fun _ => True) p →
        Makes op.Does (fun _ => True) (mapResult f p) := by
    intro A p f hp
    exact .seq (hp.mono fun _ _ h => ⟨h.1, fun _ => h.2⟩) fun _ _ => .pure trivial
  cases op with
  | login username password remoteIPs =>
    have hlogin : Makes (Follows (Spares (.login username password remoteIPs))) (fun _ => True)
        (auth.login username password remoteIPs) :=
      .of_ensures fun _ => ensures_login auth username password remoteIPs
    exact .seq (hlogin.mono fun _ _ h => ⟨h, fun hnot => absurd trivial hnot⟩) fun _ _ =>
      .pure trivial
  | initializeAdmin password => exact hquiet (AuthService.makes_initializeAdmin ..)
  | authenticate token => exact hquiet (AuthService.makes_authenticate ..)
  | logout token => exact hquiet (AuthService.makes_logout ..)
  | activate code password => exact hquiet (AuthService.makes_activate ..)
  | changePassword => exact hquiet (.of_ensures (AuthService.ensures_changePassword _ _ _ _))
  | createTenant => exact hquiet (IdentityService.makes_createTenant ..)
  | setTenantStatus => exact hquiet (.of_ensures fun _ => ensures_setTenantStatus ..)
  | createUser => exact hquiet (IdentityService.makes_createUser ..)
  | regenerateActivation => exact hquiet (IdentityService.makes_regenerateActivation ..)
  | unlockUser => exact hquiet (IdentityService.makes_unlockUser ..)
  | forceLogout => exact hquiet (.of_ensures fun _ => ensures_forceLogout ..)
  | forcePasswordChange => exact hquiet (IdentityService.makes_forcePasswordChange ..)
  | setUserStatus => exact hquiet (.of_ensures fun _ => ensures_setUserStatus ..)
  | resetPassword => exact hquiet (.of_ensures fun _ => ensures_resetPassword ..)
  | deleteUser => exact hquiet (.of_ensures fun _ => ensures_deleteUser ..)
  | updateSettings => exact hquiet (makes_updateSettings ..)

end IdentityOp

/-! ## Servers -/

section

variable [Credentials]

namespace IdentityServer

/-- Every operation that has started is somewhere in its program. -/
def Running (v : IdentityServer) : Prop :=
  v.Justified Later (fun _ _ _ => True) (fun op _ s s' => op.Does s s') (fun _ _ _ => True) 0

theorem running_start (s : IdentityState) : Running { shared := s } := by
  intro k c _ hc
  cases hc

variable {v : IdentityServer}

/-- An event is a call of an operation that has started, or changes nothing. -/
theorem Running.does (h : v.Running) (auth : AuthService) (e : IdentityEvent) :
    (v.step auth e).shared = v.shared ∨
      ∃ k i c, e = .advance k i ∧ v.calls[k]? = some c ∧
        c.op.Does v.shared (v.step auth e).shared := by
  have hmoves := Server.Justified.moves (fun op => op.code auth) h e fun _ _ _ _ _ _ => trivial
  refine hmoves.imp id fun ⟨k, i, c, he, hc, hdoes⟩ => ?_
  exact ⟨k, i, c, he, hc, hdoes (Nat.zero_le k)⟩

theorem Running.later (h : v.Running) (auth : AuthService) (e : IdentityEvent) :
    Later v.shared (v.step auth e).shared := by
  rcases h.does auth e with heq | ⟨_, _, _, _, _, hdoes⟩
  · rw [heq]
    exact .refl _
  · exact hdoes.follows.later

theorem Running.step (h : v.Running) (auth : AuthService) (e : IdentityEvent) :
    Running (v.step auth e) := by
  refine Server.Justified.step Later.refl (fun _ _ _ => Later.trans) (fun op => ?_) h
    (h.later auth e) fun _ _ _ _ _ _ => trivial
  exact Prog.along_mono (fun _ _ _ => trivial) (Prog.along_of_ensures Later.refl
    (P := fun _ => True) (fun _ _ _ hdoes => hdoes) (fun _ _ _ => trivial) trivial
    (op.makes auth).ensures)

theorem Running.run (h : v.Running) (auth : AuthService) (events : List IdentityEvent) :
    Running (run (IdentityServer.step auth) v events) :=
  run_invariant_of_step (I := Running) (fun _ e h => Running.step h auth e) h events

/-- From any point of a history on, no session is lost, no revoked one is open again, no
user moves to another tenant and no id of a deleted user is reused. -/
theorem run_later (auth : AuthService) (s : IdentityState) (pre post : List IdentityEvent) :
    Later (run (IdentityServer.step auth) { shared := s } pre).shared
      (run (IdentityServer.step auth) { shared := s } (pre ++ post)).shared := by
  rw [run_append]
  have hrunning := (running_start s).run auth pre
  generalize run (IdentityServer.step auth) { shared := s } pre = now at hrunning ⊢
  refine (run_invariant_of_step (I := fun v => Running v ∧ Later now.shared v.shared) ?_
    ⟨hrunning, .refl _⟩ post).2
  intro v e hv
  exact ⟨hv.1.step auth e, hv.2.trans (hv.1.later auth e)⟩

end IdentityServer

/-! ## The last administrator -/

theorem hasAdmin_step {v : IdentityServer} (hv : v.Running) (auth : AuthService)
    (e : IdentityEvent) (h : v.shared.HasAdmin) : (v.step auth e).shared.HasAdmin := by
  rcases hv.does auth e with heq | ⟨_, _, _, _, _, hdoes⟩
  · rw [heq]
    exact h
  · exact hdoes.follows.admins h

/-- Once the platform has an administrator who can log in, it has one ever after. -/
theorem admin_never_lost (auth : AuthService) (s : IdentityState) (pre post : List IdentityEvent)
    (h : (run (IdentityServer.step auth) { shared := s } pre).shared.HasAdmin) :
    (run (IdentityServer.step auth) { shared := s } (pre ++ post)).shared.HasAdmin := by
  rw [run_append]
  have hrunning := (IdentityServer.running_start s).run auth pre
  have hkept : ∀ (v : IdentityServer) (e : IdentityEvent), v.Running ∧ v.shared.HasAdmin →
      (v.step auth e).Running ∧ (v.step auth e).shared.HasAdmin := by
    intro v e hv
    exact ⟨hv.1.step auth e, hasAdmin_step hv.1 auth e hv.2⟩
  exact (run_invariant_of_step hkept ⟨hrunning, h⟩ post).2

end

attribute [local instance] Credentials.plain

instance (s : IdentityState) : Decidable s.HasAdmin :=
  inferInstanceAs (Decidable (∃ u ∈ s.users.rows, _))

def administrator (username : String) : User :=
  { username := username, passwordHash := "#secret", role := .systemAdmin, status := .active }

/-- A platform with two administrators, whose ids are 1 and 2. -/
def twoAdmins : IdentityState :=
  { users := ((RowStore.empty.insert 0 (administrator "admin")).bind fun t =>
      t.insert 0 (administrator "root")).getD .empty }

/-- Each administrator disables the other, one call of each in turn. -/
def rivals : List IdentityEvent :=
  [.spawn (.setUserStatus { userID := 1, role := .systemAdmin } 2 .disabled),
    .spawn (.setUserStatus { userID := 2, role := .systemAdmin } 1 .disabled),
    .advance 0 {}, .advance 1 {}, .advance 0 {}, .advance 1 {}, .advance 0 {}, .advance 1 {}]

theorem admin_never_lost_rivals : twoAdmins.enabledAdmins.length = 2 ∧
      (run (IdentityServer.step {}) { shared := twoAdmins }
        rivals).shared.enabledAdmins.length = 1 ∧
      (run (IdentityServer.step {}) { shared := twoAdmins } ([] ++ rivals)).shared.HasAdmin :=
  ⟨by decide +kernel, by decide +kernel,
    admin_never_lost {} twoAdmins [] rivals (by decide +kernel)⟩

end KubeSentry.Identity
