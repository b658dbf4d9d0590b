import KubeSentry.Identity.Operations

/-!
# The sessions that an operation ends

`IdentityOp.Covers` lists the operations that revoke sessions, with the sessions that each
is meant to end and the result that says it has.  `IdentityOp.ensures_ended` is what each
of them ensures: when it returns that result, the sessions it covers are `Dead`, that is
revoked or past their absolute lifetime.

For most operations this is one transaction.  `Logout` and `Authenticate` are different:
they drop errors.  `Authenticate` ignores whether `RevokeSession` worked, and `Logout`
returns `nil` whenever `GetActiveSession` fails.  So `RevokeSession` has to work, and two
conditions make up for the rest.  The database calls of `Logout` must not fail, and the
state must be `Consistent`: the user and the tenant of an open session are active, so that a
session that `GetActiveSession` refuses is not one that it may accept later.
-/

namespace KubeSentry.Identity

open GoLib Fallible IdentityRepo

/-! ## Dead sessions -/

def Dead (s : IdentityState) (r : Session) : Prop :=
  r.revokedAt ≠ none ∨ r.expiresAt ≤ s.clock

/-- The user and the tenant of every open session are active. -/
def Consistent (s : IdentityState) : Prop :=
  ∀ r ∈ s.sessions.rows, r.row.revokedAt = none → s.Live r.row.userID

def TokenDead (s : IdentityState) (tokenHash : String) : Prop :=
  ∀ r ∈ s.sessions.rows, r.row.tokenHash = tokenHash → Dead s r.row

theorem Dead.later {s s' : IdentityState} {r r' : Session} (h : Dead s r)
    (hsame : SameSession r r') (hlater : Later s s') : Dead s' r' := by
  rcases h with hrevoked | hexpired
  · exact .inl fun hopen => hrevoked (hsame.unrevoked hopen)
  · refine .inr ?_
    rw [hsame.expiresAt]
    exact hexpired.trans hlater.clock

/-- A token belongs to one session. -/
theorem eq_of_token {t : RowStore sessionKeys} {r r' : Stored Session} (hr : r ∈ t.rows)
    (hr' : r' ∈ t.rows) (htoken : r.row.tokenHash = r'.row.tokenHash) : r = r' :=
  t.eq_of_key hr hr' (List.mem_singleton.mpr rfl) (List.mem_singleton.mpr htoken)

/-! ## `GetActiveSession` -/

/-- The session that the first query has found. -/
def SessionRead (tokenHash : String) (session : Stored Session) (s : IdentityState) : Prop :=
  ∃ r ∈ s.sessions.rows, r.id = session.id ∧ r.row.tokenHash = tokenHash ∧
    r.row.userID = session.row.userID

variable {tokenHash : String} {session : Stored Session} {s0 : IdentityState}

theorem SessionRead.later (s s' : IdentityState) (h : SessionRead tokenHash session s)
    (hlater : Later s s') : SessionRead tokenHash session s' := by
  obtain ⟨r, hr, hid, htoken, huser⟩ := h
  obtain ⟨r', hr', hid', hsame⟩ := hlater.sessions r hr
  exact ⟨r', hr', hid'.trans hid, hsame.tokenHash.trans htoken, hsame.userID.trans huser⟩

/-- The session is not open unless its user is live. -/
theorem SessionRead.dead {s : IdentityState} (h : SessionRead tokenHash session s)
    (hconsistent : Consistent s) (hnot : ¬ s.Live session.row.userID) : TokenDead s tokenHash := by
  intro r hr htoken
  obtain ⟨r', hr', _, htoken', huser⟩ := h
  have heq : r' = r := eq_of_token hr' hr (htoken'.trans htoken.symm)
  refine .inl fun hopen => hnot ?_
  rw [← huser, heq]
  exact hconsistent r hr hopen

/-- The user that the second query has found. -/
def UserFound (session : Stored Session) (user : Stored User) (s : IdentityState) : Prop :=
  user.id = session.row.userID ∧
    ∃ t : IdentityState, user ∈ t.users.rows ∧ UsersLater t.users s.users

variable {user : Stored User}

theorem UserFound.later (s s' : IdentityState) (h : UserFound session user s)
    (hlater : Later s s') : UserFound session user s' := by
  obtain ⟨hid, t, huser, husers⟩ := h
  exact ⟨hid, t, huser, husers.trans hlater.users⟩

variable [Credentials] {spared : Session → String → Prop}

/-- A database call that works, in a consistent state. -/
def Reliable (s : IdentityState) (i : IdentityInput) : Prop :=
  Consistent s ∧ i.fault = none

variable {A : Type} {good : IdentityState → A → Prop}

/-- A query of `GetActiveSession` after the first. -/
theorem ensures_queryActive {f : IdentityState → Option A}
    (hgood : ∀ s a, Later s0 s → f s = some a → good s a)
    (hbad : ∀ s, Later s0 s → Consistent s → f s = none → TokenDead s tokenHash) :
    Ensures Later Reliable (Quiet spared) good (fun s _ => TokenDead s tokenHash) s0
      (queryActive f) := by
  refine ensures_compute ?_ ?_
  · intro s i a _ hlater h
    split at h
    · rename_i hresult
      cases h
      exact hgood _ _ hlater hresult
    · cases h
  · intro s i err hok hlater h
    refine hbad _ hlater hok.1 ?_
    cases hresult : f (s.tick i.elapsed) with
    | none => rfl
    | some a =>
      rw [hok.2, hresult] at h
      cases h

variable {now : Time}

theorem ensures_liveSession (tokenHash : String) (hnow : now ≤ s0.clock) :
    Ensures Later Reliable (Quiet spared) (fun s session => SessionRead tokenHash session s)
      (fun s _ => TokenDead s tokenHash) s0 (liveSession tokenHash now) := by
  unfold liveSession query
  refine ensures_compute ?_ ?_
  · intro s i session _ _ h
    obtain ⟨hr, htoken, _⟩ := liveSession_ok
      (query_ok (f := fun s => s.liveSession tokenHash now) h)
    exact ⟨session, hr, rfl, htoken, rfl⟩
  · intro s i err hok hlater h r hr htoken
    rw [hok.2] at h
    unfold IdentityState.liveSession at h
    dsimp only at h
    split at h
    · cases h
    · rename_i hnone
      have hdead := List.find?_eq_none.mp hnone r hr
      by_cases hopen : r.row.revokedAt = none
      · refine .inr (le_trans ?_ (hnow.trans hlater.clock))
        simpa [htoken, hopen] using hdead
      · exact .inl hopen

theorem ensures_activeUser (h : SessionRead tokenHash session s0) :
    Ensures Later Reliable (Quiet spared)
      (fun s user => SessionRead tokenHash session s ∧ UserFound session user s)
      (fun s _ => TokenDead s tokenHash) s0 (activeUser session.row.userID) := by
  refine ensures_queryActive ?_ ?_
  · intro s user hlater hresult
    obtain ⟨user', huser, hactive⟩ := Option.bind_eq_some_iff.mp hresult
    split at hactive
    · cases hactive
      obtain ⟨hmem, hid⟩ := Table.lookup_some huser
      exact ⟨SessionRead.later _ _ h hlater, hid, s, hmem, .refl _⟩
    · cases hactive
  · intro s hlater hconsistent hresult
    refine (SessionRead.later _ _ h hlater).dead hconsistent fun hlive => ?_
    obtain ⟨u, hu, hid, hactive, _⟩ := hlive
    have hfound : s.users.byID session.row.userID = some u :=
      (Table.lookup_iff s.users.ids_nodup).mpr ⟨hu, hid⟩
    simp [hfound, hactive] at hresult

theorem ensures_checkTenant_dead (h : SessionRead tokenHash session s0)
    (huser : UserFound session user s0) :
    Ensures Later Reliable (Quiet spared) (fun s _ => SessionRead tokenHash session s)
      (fun s _ => TokenDead s tokenHash) s0 (checkTenant user.row.tenantID) := by
  cases htenantID : user.row.tenantID with
  | none => exact ensures_pure h
  | some id =>
    refine ensures_queryActive (fun s _ hlater _ => SessionRead.later _ _ h hlater) ?_
    intro s hlater hconsistent hresult
    refine (SessionRead.later _ _ h hlater).dead hconsistent fun hlive => ?_
    obtain ⟨u, hu, hid, _, htenant⟩ := hlive
    obtain ⟨huid, t, hmem, husers⟩ := UserFound.later _ _ huser hlater
    have hsame := husers.same hmem hu (hid.trans huid.symm)
    obtain ⟨tenant, hin, htid, hactive⟩ := htenant id (hsame.trans htenantID)
    have hfound : s.tenants.byID id = some tenant :=
      (Table.lookup_iff s.tenants.ids_nodup).mpr ⟨hin, htid⟩
    simp [hfound, hactive] at hresult

/-- `GetActiveSession` refuses a session for good. -/
theorem ensures_getActiveSession_dead (tokenHash : String) (hnow : now ≤ s0.clock) :
    Ensures Later Reliable (Quiet spared) (fun s found => SessionRead tokenHash found.1 s)
      (fun s _ => TokenDead s tokenHash) s0 (getActiveSession tokenHash now) := by
  refine ensures_try (ensures_liveSession tokenHash hnow) fun s session hsession => ?_
  refine ensures_try (ensures_activeUser hsession) fun s user hread => ?_
  exact ensures_try (ensures_checkTenant_dead hread.1 hread.2) fun s _ hsession =>
    ensures_pure hsession

/-! ## `Logout` and `Authenticate` -/

variable {ok : IdentityState → IdentityInput → Prop} {id : Int}

/-- `RevokeSession` of the session of a token. -/
theorem ensures_revokeSession (h : HasToken s0 tokenHash id) (at' : Time) :
    Ensures Later ok (Quiet spared) (fun s _ => TokenDead s tokenHash) Any s0
      (revokeSession id at') := by
  refine ensures_execute ?_
  intro s i s' _ hlater hresult
  cases hresult
  refine ⟨quiet_revoke _ _ _, fun r hr htoken => .inl fun hopen => ?_⟩
  obtain ⟨hold, hother⟩ := not_selected_of_open hr hopen
  obtain ⟨r', hr', hid, htoken'⟩ := h.later hlater
  rw [eq_of_token hr' hold (htoken'.trans htoken.symm)] at hid
  exact of_decide_eq_false hother hid

variable {bad : IdentityState → IdentityError → Prop} {P : IdentityState → Prop}

theorem ensures_timeNow (h : P s0) (hstable : ∀ s s', P s → Later s s' → P s') :
    Ensures Later ok (Quiet spared) (fun s now => now ≤ s.clock ∧ P s) bad s0 timeNow := by
  refine ensures_compute ?_ ?_
  · intro s i now _ hlater hresult
    cases hresult
    exact ⟨le_rfl, hstable _ _ h hlater⟩
  · intro s i err _ _ hresult
    cases hresult

theorem ensures_logout (token : String) : Ensures Later Reliable (Quiet spared)
      (fun s _ => TokenDead s (Credentials.tokenHash token)) Any s0
      (AuthService.logout token) := by
  refine ensures_try (ensures_timeNow (P := fun _ => True) trivial fun _ _ _ _ => trivial)
    fun s now hnow => ?_
  refine ensures_attempt (ensures_getActiveSession_dead _ hnow.1) (fun s found hfound => ?_)
    fun s err hdead => ensures_pure hdead
  refine ensures_try (ensures_timeNow hfound SessionRead.later) fun s at' hread => ?_
  obtain ⟨r, hr, hid, htoken, _⟩ := hread.2
  exact ensures_revokeSession ⟨r, hr, hid, htoken⟩ at'

/-- The error says that an idle session was revoked only if it was. -/
def IdleDead (tokenHash : String) (s : IdentityState) (err : IdentityError) : Prop :=
  err = .authentication (.idle true) → TokenDead s tokenHash

omit [Credentials] in
theorem idleDead_of_ne {s : IdentityState} {err : IdentityError}
    (h : err ≠ .authentication (.idle true)) : IdleDead tokenHash s err :=
  fun hidle => absurd hidle h

/-- The settings are read, and what follows. -/
theorem ensures_settings {B : Type} {good : IdentityState → B → Prop}
    {f : SecuritySettings → IdentityProg B} (h : P s0) (hstable : ∀ s s', P s → Later s s' → P s')
    (hf : ∀ s settings, P s →
      Ensures Later ok (Quiet spared) good (IdleDead tokenHash) s (f settings)) :
    Ensures Later ok (Quiet spared) good (IdleDead tokenHash) s0 (getSecuritySettings >>= f) := by
  have hread : Ensures Later ok (Quiet spared) (fun s _ => P s) (IdleDead tokenHash) s0
      getSecuritySettings := by
    unfold getSecuritySettings query
    refine ensures_compute (fun _ _ _ _ hlater _ => hstable s0 _ h hlater) ?_
    intro s i err _ _ hresult
    refine idleDead_of_ne ?_
    split at hresult <;> cases hresult
    simp
  exact ensures_try hread hf

theorem ensures_touchSession (at' : Time) :
    Ensures Later ok (Quiet spared) Any (IdleDead tokenHash) s0 (touchSession id at') := by
  refine ensures_execute ?_ ?_
  · intro s i s' _ _ hresult
    cases hresult
    exact ⟨quiet_touch _ id at', trivial⟩
  · intro s i err _ _ hfailed
    rcases hfailed with ⟨text, hdatabase⟩ | herror
    · refine idleDead_of_ne ?_
      simp [hdatabase]
    · cases herror

theorem ensures_authenticate (auth : AuthService) (token : String) :
    Ensures Later ok (Quiet spared) Any (IdleDead (Credentials.tokenHash token)) s0
      (auth.authenticate token) := by
  refine ensures_try (ensures_timeNow (P := fun _ => True) trivial fun _ _ _ _ => trivial)
    fun s now _ => ?_
  have hactive : Ensures Later Any (Quiet spared) _ _ s _ :=
    ensures_getActiveSession (Credentials.tokenHash token) now s
  refine ensures_attempt (Prog.ensures_of_ok (fun _ _ _ => trivial) hactive) ?_ ?_
  · intro s found hfound
    have hstable : ∀ s s', HasToken s (Credentials.tokenHash token) found.1.id → Later s s' →
        HasToken s' (Credentials.tokenHash token) found.1.id := fun _ _ h hlater => h.later hlater
    refine ensures_settings hfound hstable fun s settings hfound => ?_
    refine ensures_ite (fun _ => ?_) fun _ => ?_
    · exact ensures_attempt (ensures_revokeSession hfound now)
        (fun s _ hdead => ensures_fail fun _ => hdead)
        fun s err _ => ensures_fail (idleDead_of_ne (by simp [Except.isOk, Except.toBool]))
    · exact ensures_try (ensures_touchSession now) fun s _ _ => ensures_pure trivial
  · intro s err _
    exact ensures_settings (P := fun _ => True) trivial (fun _ _ _ _ => trivial)
      fun s settings _ => ensures_fail (idleDead_of_ne (by simp))

/-! ## All operations -/

namespace IdentityOp

/-- The sessions that the operation is meant to end when it succeeds.  `s` is the state that
its last call left. -/
def EndsOnSuccess : IdentityOp → IdentityResult → IdentityState → Session → Prop
  | .logout token, _, _, r => r.tokenHash = Credentials.tokenHash token
  | .forceLogout _ userID, _, _, r => r.userID = userID
  | .setUserStatus _ userID _, _, _, r => r.userID = userID
  | .resetPassword _ userID _, _, _, r => r.userID = userID
  | .deleteUser _ userID, _, _, r => r.userID = userID
  | .setTenantStatus _ tenantID _, _, s, r =>
    ∃ u ∈ s.users.rows, u.id = r.userID ∧ u.row.tenantID = some tenantID
  | .changePassword principal sessionToken _ _, _, _, r =>
    r.userID = principal.userID ∧ ¬ AuthService.OwnSession sessionToken r
  | .login _ _ _, result, _, r =>
    ∃ opened, result = .loggedIn opened ∧ opened.allowConcurrent = false ∧
      r.userID = opened.user.id ∧ r.tokenHash ≠ Credentials.tokenHash opened.token
  | _, _, _, _ => False

/-- The session that `Authenticate` ends because it was idle. -/
def EndsOnIdle : IdentityOp → Session → Prop
  | .authenticate token, r => r.tokenHash = Credentials.tokenHash token
  | _, _ => False

variable (op : IdentityOp)

def Covers (result : Except IdentityError IdentityResult) (s : IdentityState)
    (r : Session) : Prop :=
  match result with
  | .ok result => op.EndsOnSuccess result s r
  | .error err => (∃ revoked, err = .authentication (.idle revoked)) ∧ op.EndsOnIdle r

def IsLogout : IdentityOp → Prop
  | .logout _ => True
  | _ => False

/-- What a call of the operation may count on. -/
def Allowed (s : IdentityState) (i : IdentityInput) : Prop :=
  Consistent s ∧ (op.IsLogout → i.fault = none)

/-- The result of an `Authenticate` that could not revoke the idle session. -/
def leftIdle : Except IdentityError IdentityResult := .error (.authentication (.idle false))

/-- The sessions that the operation covers are dead. -/
def Ended (s : IdentityState) (result : Except IdentityError IdentityResult) : Prop :=
  result ≠ leftIdle → ∀ r ∈ s.sessions.rows, op.Covers result s r.row → Dead s r.row

variable {s0 : IdentityState}

/-- The rule for one operation. -/
theorem ended_of_ensures {op : IdentityOp} {f : A → IdentityResult} {p : IdentityProg A}
    {does : IdentityState → IdentityState → Prop} (h : Ensures Later op.Allowed does good bad s0 p)
    (hgood : ∀ s a, good s a → op.Ended s (.ok (f a)))
    (hbad : ∀ s err, bad s err → op.Ended s (.error err)) :
    Prog.Ensures Later op.Allowed Any op.Ended s0 (mapResult f p) := by
  have hmapped : Ensures Later op.Allowed does (fun s result => op.Ended s (.ok result))
      (fun s err => op.Ended s (.error err)) s0 (mapResult f p) :=
    ensures_try (ensures_mono h hgood hbad) fun _ _ hs => ensures_pure hs
  refine Prog.ensures_weaken (fun _ _ => id) (fun _ _ _ => trivial) ?_ hmapped
  intro s result hresult
  cases result with
  | ok result => exact hresult
  | error err => exact hresult

/-- The rule for operations whose errors cover nothing. -/
theorem ended_of_success (hidle : ∀ r, ¬ op.EndsOnIdle r)
    {f : A → IdentityResult} {p : IdentityProg A} {does : IdentityState → IdentityState → Prop}
    (h : Ensures Later op.Allowed does good bad s0 p)
    (hgood : ∀ s a, good s a → ∀ r ∈ s.sessions.rows, op.EndsOnSuccess (f a) s r.row →
      Dead s r.row) :
    Prog.Ensures Later op.Allowed Any op.Ended s0 (mapResult f p) :=
  ended_of_ensures h (fun s a ha _ => hgood s a ha)
    fun _ _ _ _ r _ hcovers => absurd hcovers.2 (hidle r.row)

/-- The rule for the operations that end the sessions of a user. -/
theorem ended_of_userEnded (userID : Int)
    (hop : ∀ result s r, op.EndsOnSuccess result s r → r.userID = userID)
    (hidle : ∀ r, ¬ op.EndsOnIdle r) {p : IdentityProg Unit}
    (h : Ensures Later op.Allowed (Quiet fun _ _ => False) (fun s _ => UserEnded userID s) Any
      s0 p) :
    Prog.Ensures Later op.Allowed Any op.Ended s0 (mapResult (fun _ => .done) p) := by
  refine ended_of_success op hidle h ?_
  intro s _ hended r hr hcovers
  exact .inl fun hopen => hended r hr hopen (hop .done s r.row hcovers)

theorem ensures_ended (auth : AuthService) (op : IdentityOp) (s0 : IdentityState) :
    Prog.Ensures Later op.Allowed Any op.Ended s0 (op.code auth) := by
  have hnone : (∀ result s r, ¬ op.EndsOnSuccess result s r) → (∀ r, ¬ op.EndsOnIdle r) →
      Prog.Ensures Later op.Allowed Any op.Ended s0 (op.code auth) := by
    intro hsuccess hidle
    refine Prog.ensures_weaken (fun _ _ _ => trivial) (fun _ _ _ => trivial) ?_
      ((op.makes auth).ensures s0)
    intro s result _ _ r _ hcovers
    cases result with
    | ok result => exact absurd hcovers (hsuccess result s r.row)
    | error err => exact absurd hcovers.2 (hidle r.row)
  cases op with
  | logout token =>
    have h : Ensures Later Reliable (Quiet fun _ _ => False) _ _ s0 _ := ensures_logout token
    refine ended_of_success (.logout token) (fun _ h => h)
      (Prog.ensures_of_ok (fun s i hok => ⟨hok.1, hok.2 trivial⟩) h) ?_
    intro s _ hdead r hr hcovers
    exact hdead r hr hcovers
  | authenticate token =>
    have h : Ensures Later (Allowed (.authenticate token)) (Quiet fun _ _ => False) _ _ s0 _ :=
      ensures_authenticate auth token
    refine ended_of_ensures h ?_ ?_
    · intro s _ _ _ r _ hcovers
      exact hcovers.elim
    · intro s err hdead hrevoked r hr hcovers
      obtain ⟨⟨revoked, hidle⟩, htoken⟩ := hcovers
      cases revoked with
      | true => exact hdead hidle r hr htoken
      | false => exact absurd (congrArg Except.error hidle) hrevoked
  | forceLogout actor userID =>
    exact ended_of_userEnded (.forceLogout actor userID) userID (fun _ _ _ h => h) (fun _ h => h)
      (ensures_forceLogout actor userID)
  | setUserStatus actor userID status =>
    exact ended_of_userEnded (.setUserStatus actor userID status) userID (fun _ _ _ h => h)
      (fun _ h => h) (ensures_setUserStatus actor userID status)
  | resetPassword actor userID password =>
    exact ended_of_userEnded (.resetPassword actor userID password) userID (fun _ _ _ h => h)
      (fun _ h => h) (ensures_resetPassword actor userID password)
  | deleteUser actor userID =>
    exact ended_of_userEnded (.deleteUser actor userID) userID (fun _ _ _ h => h) (fun _ h => h)
      (ensures_deleteUser actor userID)
  | setTenantStatus actor tenantID status =>
    have h : Ensures Later (Allowed (.setTenantStatus actor tenantID status))
        (Quiet fun _ _ => False) _ _ s0 _ := ensures_setTenantStatus actor tenantID status
    refine ended_of_success (.setTenantStatus actor tenantID status) (fun _ h => h) h ?_
    intro s _ hended r hr hcovers
    obtain ⟨u, hu, hid, htenant⟩ := hcovers
    exact .inl fun hopen => hended r hr hopen u hu hid htenant
  | changePassword principal sessionToken currentPassword newPassword =>
    have h := AuthService.ensures_changePassword principal sessionToken currentPassword newPassword
      s0
    refine ended_of_success (.changePassword principal sessionToken currentPassword newPassword)
      (fun _ h => h) (Prog.ensures_of_ok (fun _ _ _ => trivial) h) ?_
    intro s _ hended r hr hcovers
    exact .inl fun hopen => hcovers.2 (hended r hr hopen hcovers.1)
  | login username password remoteIPs =>
    have h : Ensures Later (Allowed (.login username password remoteIPs))
        (Follows fun _ _ => False) _ _ s0 _ := ensures_login auth username password remoteIPs
    refine ended_of_success (.login username password remoteIPs) (fun _ h => h) h ?_
    intro s opened hended r hr hcovers
    obtain ⟨opened', heq, hsingle, hid, htoken⟩ := hcovers
    cases heq
    exact .inl fun hopen => htoken (hended hsingle r hr hopen hid)
  | _ => exact hnone (fun _ _ _ h => h) fun _ h => h

end IdentityOp

end KubeSentry.Identity
