import KubeSentry.Identity.Operations

/-!
# When a login takes effect

`Login` reads the user once, checks what it has read, and creates the session in a later
transaction, which looks at neither the status nor the lock nor the password.  The session
is therefore as good as the user was when the login began: `LoginChecked` is what the
program has established at that point.

`Steady` is what is missing: the account that the login has read is the account in the
state in which its transaction takes place, and is not locked then.  In a run of such logins
every session is valid at the moment it is created, and no session survives a change of the
password of its user, except those that the `ChangePassword` which set it has spared.
-/

namespace KubeSentry.Identity

open GoLib Fallible IdentityRepo

section

variable [Credentials]

/-! ## What a login has checked -/

/-- The name that `Login` looks up. -/
def loginName (username : String) : String :=
  GoUnicode.toLower (trimSpace username)

/-- The first call of the program has found the user. -/
def UserRead (username : String) (user : Stored User) (past : Past) : Prop :=
  ∃ first, past.head? = some first ∧ first.1.byUsername (loginName username) = some user

variable {user : Stored User} {past : Past} {password : String}

theorem UserRead.append {username : String} (h : UserRead username user past) (more : Past) :
    UserRead username user (past ++ more) := by
  obtain ⟨first, hfirst, huser⟩ := h
  refine ⟨first, ?_, huser⟩
  rw [List.head?_append, hfirst]
  rfl

/-- The session is for a user that the login has found active, with the password that it was
called with. -/
structure LoginChecked (username password : String) (past : Past) (r : Session)
    (user : Stored User) : Prop where
  read : UserRead username user past
  active : user.row.status = .active
  matches' : Credentials.compare user.row.passwordHash password = true
  userID : r.userID = user.id
  openedWith : r.openedWith = password

/-- A call of a login opens no session that has not been checked. -/
def OpensChecked (username password : String) (past : Past) (s s' : IdentityState) : Prop :=
  ∀ r', Opens s.sessions s'.sessions r' → ∃ user, LoginChecked username password past r'.row user

theorem opensChecked_of_none {username : String} (past : Past) (s s' : IdentityState)
    (h : NoneOpened s s') : OpensChecked username password past s s' :=
  fun r' hopens => absurd hopens (h r')

theorem along_loginSucceeded {username : String} {userID : Int} {session : Session}
    (hchecked : LoginChecked username password past { session with userID := userID } user)
    (at' : Time) (remoteIP : String) (allowConcurrent : Bool) :
    Along Later Any (OpensChecked username password) Any Any past
      (IdentityRepo.loginSucceeded userID session at' remoteIP allowConcurrent) := by
  refine along_transaction ?_ ?_ fun _ _ _ _ => trivial
  · intro s elapsed r' hopens
    exact absurd hopens not_opens_self
  · intro s i s' a _ h
    refine ⟨fun r' hopens => ⟨user, ?_⟩, trivial⟩
    have hok := execute_ok
      (f := fun s => s.loginSucceeded userID session at' remoteIP allowConcurrent) h
    rw [opens_loginSucceeded hok hopens]
    exact hchecked

theorem along_openSession {username : String} (auth : AuthService) (settings : SecuritySettings)
    (remoteIPs : List String) (now : Time) (hread : UserRead username user past)
    (hactive : user.row.status = .active)
    (hmatches : Credentials.compare user.row.passwordHash password = true) :
    Along Later Any (OpensChecked username password) Any
      Any past (auth.openSession user password now settings remoteIPs) := by
  refine along_quiet opensChecked_of_none (fun past c h => h.append [c]) hread
    makes_newSessionToken fun past token hread => ?_
  exact along_try (along_loginSucceeded ⟨hread, hactive, hmatches, rfl, rfl⟩ _ _ _) fun _ _ _ =>
    along_pure trivial

theorem along_login (auth : AuthService) (username password : String) (remoteIPs : List String) :
    Along Later Any (OpensChecked username password) Any
      Any [] (auth.login username password remoteIPs) := by
  have huser : Along Later Any (OpensChecked username password)
      (fun past user => UserRead username user past) Any []
      (getUserByUsername (loginName username)) := by
    unfold getUserByUsername query
    refine along_compute (fun s elapsed r' hopens => absurd hopens not_opens_self)
      (fun s i user _ h => ?_) fun _ _ _ _ _ => trivial
    have hfound := query_ok (f := fun s => first (s.byUsername (loginName username))) h
    exact ⟨(s, s.tick i.elapsed), rfl, first_ok hfound⟩
  refine along_attempt huser ?_ fun _ _ _ => along_fail trivial
  intro past user hread
  have happend : ∀ past c, UserRead username user past → UserRead username user (past ++ [c]) :=
    fun past c h => h.append [c]
  refine along_guard (fun _ => trivial) fun husable => ?_
  have hactive : user.row.status = .active := by
    by_contra hnot
    exact husable (.inl hnot)
  refine along_quiet opensChecked_of_none happend hread makes_timeNow fun past now hread => ?_
  refine along_guard (fun _ => trivial) fun _ => ?_
  refine along_quiet opensChecked_of_none happend hread makes_query fun past settings hread => ?_
  refine along_ite (fun hmatches => ?_) fun _ => ?_
  · refine along_quiet opensChecked_of_none happend hread (AuthService.makes_loginTenant _)
      fun past _ hread => ?_
    exact along_openSession auth settings remoteIPs now hread hactive hmatches
  · exact along_quiet opensChecked_of_none happend hread
      (.attempted (makes_recordLoginFailure ..)) fun _ _ _ => along_fail trivial

/-! ## Servers -/

namespace IdentityOp

/-- Only a login opens a session, and only one that it has checked. -/
def Admits (op : IdentityOp) (past : Past) (s s' : IdentityState) : Prop :=
  ∀ r', Opens s.sessions s'.sessions r' → ∃ username password remoteIPs user,
    op = .login username password remoteIPs ∧ LoginChecked username password past r'.row user

theorem along_admits (auth : AuthService) (op : IdentityOp) :
    Prog.Along Later Any op.Admits Any [] (op.code auth) := by
  have hquiet : ¬ op.IsLogin → Prog.Along Later Any op.Admits Any [] (op.code auth) := by
    intro hnot
    refine Prog.along_mono (fun _ _ _ => trivial) (Prog.along_of_ensures Later.refl
      (P := fun _ => True) (fun _ s s' hdoes r' hopens => ?_) (fun _ _ _ => trivial) trivial
      (op.makes auth).ensures)
    exact absurd hopens (hdoes.quiet hnot r')
  cases op with
  | login username password remoteIPs =>
    have hlogin : Along Later Any (OpensChecked username password) Any
        Any [] (mapResult .loggedIn (auth.login username password remoteIPs)) :=
      along_try (along_login auth username password remoteIPs) fun _ _ _ => along_pure trivial
    refine Prog.along_weaken (fun past s s' h => ?_) (fun _ _ _ => trivial) hlogin
    intro r' hopens
    obtain ⟨user, hchecked⟩ := h r' hopens
    exact ⟨username, password, remoteIPs, user, rfl, hchecked⟩
  | _ => exact hquiet id

/-- The name that the operation logs in with. -/
def username : IdentityOp → Option String
  | .login username _ _ => some username
  | _ => none

end IdentityOp

namespace IdentityServer

/-- Every operation has checked what it needs to open a session. -/
def Admitting (v : IdentityServer) : Prop :=
  v.Justified Later (fun _ _ _ => True) (fun op past s s' => op.Admits past s s')
    (fun _ _ _ => True) 0

theorem admitting_start (s : IdentityState) : Admitting { shared := s } := by
  intro k c _ hc
  cases hc

theorem Admitting.step {v : IdentityServer} (h : v.Admitting) (hv : v.Running)
    (auth : AuthService) (e : IdentityEvent) : Admitting (v.step auth e) :=
  Server.Justified.step Later.refl (fun _ _ _ => Later.trans) (fun op => op.along_admits auth) h
    (hv.later auth e) fun _ _ _ _ _ _ => trivial

end IdentityServer

/-! ## Logins that take effect -/

/-- What a login depends on of its account, apart from the lock. -/
def account (s : IdentityState) (username : String) : Option (Int × UserStatus × String) :=
  (s.byUsername (loginName username)).map fun u => (u.id, u.row.status, u.row.passwordHash)

def OpensAny (t t' : RowStore sessionKeys) : Prop :=
  ∃ r' ∈ t'.rows, ∀ r ∈ t.rows, r.id ≠ r'.id

/-- A login that creates a session has read the account as it still is, and the account is
not locked. -/
def SteadyCall (s s' : IdentityState) (c : IdentityCall) : Prop :=
  OpensAny s.sessions s'.sessions → ∀ username ∈ c.op.username, ∀ first ∈ c.found.head?,
    account s username = account first.1 username ∧
      ∀ u ∈ s.byUsername (loginName username), ¬ lockedAt u.row s'.clock

def Steady (auth : AuthService) (v : IdentityServer) : IdentityEvent → Prop
  | .spawn _ => True
  | .advance k i => ∀ c ∈ v.calls[k]?,
    SteadyCall v.shared (v.step auth (.advance k i)).shared c

/-- The session is for a user who is active and not locked, and the password is right. -/
def ValidAt (s : IdentityState) (now : Time) (r : Session) : Prop :=
  ∃ u ∈ s.users.rows, u.id = r.userID ∧ u.row.status = .active ∧ ¬ lockedAt u.row now ∧
    Credentials.compare u.row.passwordHash r.openedWith = true

/-- Every session that the event creates is valid at that moment. -/
def ValidLogins (auth : AuthService) (v : IdentityServer) (e : IdentityEvent) : Prop :=
  ∀ r', Opens v.shared.sessions (v.step auth e).shared.sessions r' →
    ValidAt v.shared (v.step auth e).shared.clock r'.row

theorem account_some {s : IdentityState} {username : String} {t : IdentityState}
    (huser : t.byUsername (loginName username) = some user)
    (h : account s username = account t username) :
    ∃ u, s.byUsername (loginName username) = some u ∧ u.id = user.id ∧
      u.row.status = user.row.status ∧ u.row.passwordHash = user.row.passwordHash := by
  unfold account at h
  rw [huser] at h
  obtain ⟨u, hu, heq⟩ := Option.map_eq_some_iff.mp h
  simp only [Prod.mk.injEq] at heq
  exact ⟨u, hu, heq⟩

variable {auth : AuthService} {v : IdentityServer} {e : IdentityEvent}

/-- What a login has checked still holds in a steady one. -/
theorem validLogins_of_steady (hadmitting : v.Admitting) (hsteady : Steady auth v e) :
    ValidLogins auth v e := by
  intro r' hopens
  have hmoves := Server.Justified.moves (fun op => op.code auth) hadmitting e
    fun _ _ _ _ _ _ => trivial
  rcases hmoves with heq | ⟨k, i, c, he, hc, hadmits⟩
  · have hsame : (v.step auth e).shared = v.shared := heq
    rw [hsame] at hopens
    exact absurd hopens not_opens_self
  · obtain ⟨username, password, remoteIPs, user, hop, hchecked⟩ :=
      hadmits (Nat.zero_le k) r' hopens
    obtain ⟨first, hfirst, huser⟩ := hchecked.read
    rw [he] at hsteady hopens
    have hname : username ∈ c.op.username := by
      rw [hop]
      rfl
    obtain ⟨haccount, hunlocked⟩ := hsteady c hc ⟨r', hopens⟩ username hname first hfirst
    obtain ⟨u, hu, hid, hstatus, hhash⟩ := account_some huser haccount
    refine ⟨u, List.mem_of_find?_eq_some hu, hid.trans hchecked.userID.symm,
      hstatus.trans hchecked.active, he ▸ hunlocked u hu, ?_⟩
    rw [hhash, hchecked.openedWith]
    exact hchecked.matches'

/-! ## Sessions and passwords -/

theorem IdentityOp.Spares.same {op : IdentityOp} {a b : Session} {password : String}
    (h : op.Spares a password) (htoken : b.tokenHash = a.tokenHash) : op.Spares b password := by
  cases op with
  | changePassword => exact ⟨⟨h.1.1, htoken.trans h.1.2⟩, h.2⟩
  | _ => exact h.elim

/-- Every open session was opened with the password that its user has. -/
def SessionsMatch (s : IdentityState) : Prop :=
  ∀ r ∈ s.sessions.rows, r.row.revokedAt = none → s.Matches r.row.openedWith r.row.userID

/-- A `ChangePassword` that was called from the session sets the password. -/
def SetFrom (v : IdentityServer) (r : Session) (password : String) : Prop :=
  ∃ c ∈ v.calls, c.op.Spares r password

/-- The password of the user of an open session is the one that it was opened with, or one
that was set from it. -/
def OwnPasswords (v : IdentityServer) : Prop :=
  ∀ r ∈ v.shared.sessions.rows, r.row.revokedAt = none →
    ∃ password, (password = r.row.openedWith ∨ SetFrom v r.row password) ∧
      v.shared.Matches password r.row.userID

theorem SetFrom.step {r r' : Session} {password : String} (h : SetFrom v r password)
    (htoken : r'.tokenHash = r.tokenHash) : SetFrom (v.step auth e) r' password := by
  obtain ⟨c, hc, hspares⟩ := h
  obtain ⟨c', hc', hop⟩ := Server.exists_op_step (fun op => op.code auth) hc e
  exact ⟨c', hc', hop ▸ hspares.same htoken⟩

theorem ownPasswords_step (hrunning : v.Running) (hvalid : ValidLogins auth v e)
    (h : OwnPasswords v) : OwnPasswords (v.step auth e) := by
  intro r' hr' hopen
  -- The password before the event.
  have hbefore : ∃ password, (password = r'.row.openedWith ∨
      SetFrom (v.step auth e) r'.row password) ∧
        v.shared.Matches password r'.row.userID := by
    by_cases hnew : Opens v.shared.sessions (v.step auth e).shared.sessions r'
    · obtain ⟨u, hu, hid, _, _, hmatch⟩ := hvalid r' hnew
      exact ⟨r'.row.openedWith, .inl rfl, u, hu, hid, hmatch⟩
    · obtain ⟨r, hr, _, hsame⟩ := (hrunning.later auth e).sessions.earlier hr' hnew
      obtain ⟨password, hown, hmatch⟩ := h r hr (hsame.unrevoked hopen)
      rw [hsame.openedWith, hsame.userID]
      exact ⟨password, hown.imp_right fun hset => hset.step hsame.tokenHash, hmatch⟩
  obtain ⟨password, hown, hmatch⟩ := hbefore
  rcases hrunning.does auth e with heq | ⟨k, i, c, he, hc, hdoes⟩
  · rw [heq]
    exact ⟨password, hown, hmatch⟩
  · rcases hdoes.follows.matched r' hr' hopen password hmatch with hkept | ⟨changed, hspares, hset⟩
    · exact ⟨password, hown, hkept⟩
    · have hfrom : SetFrom v r'.row changed := ⟨c, List.mem_of_getElem? hc, hspares⟩
      exact ⟨changed, .inr (hfrom.step rfl), hset⟩

/-- In a run of steady logins every session is valid at the moment it is created, and the
password of the user of an open session is the one that it was opened with or one that a
`ChangePassword` called from it has set. -/
theorem steady_logins_are_valid (auth : AuthService) (s : IdentityState)
    (events : List IdentityEvent) (hstart : SessionsMatch s)
    (hsteady : Guarded (Steady auth) (IdentityServer.step auth) { shared := s } events) :
    Guarded (ValidLogins auth) (IdentityServer.step auth) { shared := s } events ∧
      OwnPasswords (run (IdentityServer.step auth) { shared := s } events) := by
  have hstep : ∀ (v : IdentityServer) (e : IdentityEvent),
      v.Running ∧ v.Admitting ∧ OwnPasswords v → Steady auth v e →
        ((v.step auth e).Running ∧ (v.step auth e).Admitting ∧
          OwnPasswords (v.step auth e)) ∧ ValidLogins auth v e := by
    intro v e hv hsteady
    obtain ⟨hrunning, hadmitting, hown⟩ := hv
    have hvalid := validLogins_of_steady hadmitting hsteady
    exact ⟨⟨hrunning.step auth e, hadmitting.step hrunning auth e,
      ownPasswords_step hrunning hvalid hown⟩, hvalid⟩
  obtain ⟨hvalid, _, _, hown⟩ := guarded_invariant hstep
    ⟨IdentityServer.running_start s, IdentityServer.admitting_start s,
      fun r hr hopen => ⟨_, .inl rfl, hstart r hr hopen⟩⟩ hsteady
  exact ⟨hvalid, hown⟩

end

/-! ## Logins that are overtaken -/

attribute [local instance] Credentials.plain

instance (t t' : RowStore sessionKeys) : Decidable (OpensAny t t') :=
  inferInstanceAs (Decidable (∃ r' ∈ t'.rows, _))

instance (s s' : IdentityState) (c : IdentityCall) : Decidable (SteadyCall s s' c) :=
  inferInstanceAs (Decidable (_ → ∀ username ∈ c.op.username, ∀ first ∈ c.found.head?, _))

instance (auth : AuthService) (v : IdentityServer) (e : IdentityEvent) :
    Decidable (Steady auth v e) :=
  match e with
  | .spawn _ => .isTrue trivial
  | .advance k i => inferInstanceAs (Decidable (∀ c ∈ v.calls[k]?,
      SteadyCall v.shared (v.step auth (.advance k i)).shared c))

instance (s : IdentityState) (now : Time) (r : Session) : Decidable (ValidAt s now r) :=
  inferInstanceAs (Decidable (∃ u ∈ s.users.rows, _))

/-- A login of the administrator alone. -/
def loginAlone : List IdentityEvent :=
  [.spawn (.login "admin" "secret" []), .advance 0 {}, .advance 0 {}, .advance 0 {},
    .advance 0 { token := "t" }, .advance 0 {}]

theorem steady_logins_are_valid_alone :
    (run (IdentityServer.step {}) { shared := twoAdmins } loginAlone).shared.sessions.rows.map
        (·.row.openedWith) = ["secret"] ∧
      Guarded (ValidLogins {}) (IdentityServer.step {}) { shared := twoAdmins } loginAlone ∧
      OwnPasswords (run (IdentityServer.step {}) { shared := twoAdmins } loginAlone) :=
  ⟨by decide +kernel, steady_logins_are_valid {} twoAdmins loginAlone
    (fun r hr => by cases hr) (by decide +kernel)⟩

/-- The login reads the user, and the password is reset before the login goes on. -/
def overtakenLogin : List IdentityEvent :=
  [.spawn (.login "admin" "secret" []), .advance 0 {},
    .spawn (.resetPassword { userID := 2, role := .systemAdmin } 1 "another secret"),
    .advance 1 {}, .advance 1 {}, .advance 1 {}, .advance 1 {},
    .advance 0 {}, .advance 0 {}, .advance 0 { token := "t" }]

/-- The last call of the login creates a session with the old password, and nothing revokes
it. -/
theorem overtaken_login_opens_session :
    let before := run (IdentityServer.step {}) { shared := twoAdmins } overtakenLogin
    let after := before.step {} (.advance 0 {})
    before.calls[1]?.bind (·.result?) = some (.ok .done) ∧
      ∃ r' ∈ after.shared.sessions.rows, (∀ r ∈ before.shared.sessions.rows, r.id ≠ r'.id) ∧
        r'.row.openedWith = "secret" ∧ r'.row.revokedAt = none ∧
        ¬ ValidAt before.shared after.shared.clock r'.row := by
  decide +kernel

end KubeSentry.Identity
