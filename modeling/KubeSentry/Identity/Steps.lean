import KubeSentry.Identity.Services

/-!
# What a call does to the identity tables

`Follows` says what any call of an identity operation can do: time goes on, no session is
lost or brought back (`SessionsLater`), no user moves to another tenant (`UsersLater`), the
platform keeps its last administrator, and the user of a session that is still open after
the call is as active as before and has the same password.  The last part has an
exception: `ChangePassword` spares the session that it is called from, whose user then has
the new password.

`Opens` singles out the sessions that a call creates.  Only the last call of `Login`
creates one; every other call is `Quiet`.
-/

namespace KubeSentry.Identity

open GoLib

/-! ## Sessions -/

/-- Two states of one session. -/
structure SameSession (a b : Session) : Prop where
  userID : b.userID = a.userID
  tokenHash : b.tokenHash = a.tokenHash
  expiresAt : b.expiresAt = a.expiresAt
  openedWith : b.openedWith = a.openedWith
  revoked : a.revokedAt.isSome → b.revokedAt.isSome

theorem SameSession.refl (a : Session) : SameSession a a :=
  ⟨rfl, rfl, rfl, rfl, id⟩

variable {a b : Session}

theorem SameSession.trans {c : Session} (h : SameSession a b) (h' : SameSession b c) :
    SameSession a c where
  userID := h'.userID.trans h.userID
  tokenHash := h'.tokenHash.trans h.tokenHash
  expiresAt := h'.expiresAt.trans h.expiresAt
  openedWith := h'.openedWith.trans h.openedWith
  revoked := h'.revoked ∘ h.revoked

theorem SameSession.unrevoked (h : SameSession a b) (hopen : b.revokedAt = none) :
    a.revokedAt = none := by
  cases hrevoked : a.revokedAt with
  | none => rfl
  | some at' =>
    have hsome := h.revoked (by rw [hrevoked]; rfl)
    rw [hopen] at hsome
    cases hsome

/-- Every session is still there. -/
def SessionsLater (t t' : RowStore sessionKeys) : Prop :=
  ∀ r ∈ t.rows, ∃ r' ∈ t'.rows, r'.id = r.id ∧ SameSession r.row r'.row

theorem SessionsLater.refl (t : RowStore sessionKeys) : SessionsLater t t :=
  fun r hr => ⟨r, hr, rfl, .refl _⟩

variable {t : RowStore sessionKeys} {s : IdentityState} {t' : RowStore sessionKeys}

theorem SessionsLater.trans {t'' : RowStore sessionKeys} (h : SessionsLater t t')
    (h' : SessionsLater t' t'') : SessionsLater t t'' := by
  intro r hr
  obtain ⟨r', hr', hid, hsame⟩ := h r hr
  obtain ⟨r'', hr'', hid', hsame'⟩ := h' r' hr'
  exact ⟨r'', hr'', hid'.trans hid, hsame.trans hsame'⟩

/-- The sessions that were not there before. -/
def Opens (t t' : RowStore sessionKeys) (r' : Stored Session) : Prop :=
  r' ∈ t'.rows ∧ ∀ r ∈ t.rows, r.id ≠ r'.id

variable {r' : Stored Session}

/-- A session that was there is a later state of itself. -/
theorem SessionsLater.earlier (h : SessionsLater t t') (hr' : r' ∈ t'.rows)
    (hold : ¬ Opens t t' r') : ∃ r ∈ t.rows, r'.id = r.id ∧ SameSession r.row r'.row := by
  have hfound : ∃ r ∈ t.rows, r.id = r'.id := by
    by_contra hnone
    refine hold ⟨hr', fun r hr hid => hnone ⟨r, hr, hid⟩⟩
  obtain ⟨r, hr, hid⟩ := hfound
  obtain ⟨r'', hr'', hid', hsame⟩ := h r hr
  rw [t'.eq_of_id hr'' hr' (hid'.trans hid)] at hsame
  exact ⟨r, hr, hid.symm, hsame⟩

theorem not_opens_self : ¬ Opens t t r' :=
  fun hopens => hopens.2 r' hopens.1 rfl

section

variable {t t' : RowStore sessionKeys} {g : Stored Session → Stored Session}

/-- An update of some rows. -/
theorem sessionsLater_of_map (hrows : t'.rows = t.rows.map g)
    (hg : ∀ r, (g r).id = r.id ∧ SameSession r.row (g r).row) : SessionsLater t t' := by
  intro r hr
  refine ⟨g r, ?_, hg r⟩
  rw [hrows]
  exact List.mem_map_of_mem hr

theorem not_opens_of_map (hrows : t'.rows = t.rows.map g) (hg : ∀ r, (g r).id = r.id)
    (r' : Stored Session) : ¬ Opens t t' r' := by
  intro hopens
  have hmem := hopens.1
  rw [hrows] at hmem
  obtain ⟨r, hr, heq⟩ := List.mem_map.mp hmem
  refine hopens.2 r hr ?_
  rw [← heq]
  exact (hg r).symm

end

/-! ## Users -/

namespace IdentityState

def HasAdmin (s : IdentityState) : Prop :=
  ∃ u ∈ s.users.rows, u.row.role = .systemAdmin ∧ u.row.status = .active ∧ u.row.passwordHash ≠ ""

/-- The user exists and has the property. -/
def UserWith (s : IdentityState) (P : User → Prop) (userID : Int) : Prop :=
  ∃ u ∈ s.users.rows, u.id = userID ∧ P u.row

def TenantActive (s : IdentityState) (tenantID : Option Int) : Prop :=
  ∀ id, tenantID = some id → ∃ t ∈ s.tenants.rows, t.id = id ∧ t.row.status = .active

/-- The user is active, and so is the tenant of the user. -/
def Live (s : IdentityState) (userID : Int) : Prop :=
  s.UserWith (fun u => u.status = .active ∧ s.TenantActive u.tenantID) userID

/-- The password is the one of the user. -/
def Matches [Credentials] (s : IdentityState) (password : String) (userID : Int) : Prop :=
  s.UserWith (fun u => Credentials.compare u.passwordHash password = true) userID

end IdentityState

section

variable {s : IdentityState} {userID : Int} {f : User → User} {P : User → Prop}
  (hf : ∀ u, (f u).username = u.username)

theorem mem_updateUser {u' : Stored User} :
    u' ∈ (s.updateUser userID f hf).users.rows ↔
      ∃ u ∈ s.users.rows, u' = if u.id = userID then RowStore.touched (s.users.now 0) f u else u :=
  Table.mem_modify

theorem userWith_updateUser (hP : ∀ u, P u → P (f u)) {id : Int} (h : s.UserWith P id) :
    (s.updateUser userID f hf).UserWith P id := by
  obtain ⟨u, hu, hid, hrow⟩ := h
  refine ⟨_, (mem_updateUser hf).mpr ⟨u, hu, rfl⟩, ?_⟩
  split
  · exact ⟨hid, hP u.row hrow⟩
  · exact ⟨hid, hrow⟩

theorem userWith_updateUser_ne {id : Int} (hne : id ≠ userID) (h : s.UserWith P id) :
    (s.updateUser userID f hf).UserWith P id := by
  obtain ⟨u, hu, hid, hrow⟩ := h
  have hsame : ¬ u.id = userID := fun heq => hne (hid.symm.trans heq)
  exact ⟨u, (mem_updateUser hf).mpr ⟨u, hu, (if_neg hsame).symm⟩, hid, hrow⟩

theorem hasAdmin_iff : s.HasAdmin ↔ ∃ id, s.UserWith
    (fun u => u.role = .systemAdmin ∧ u.status = .active ∧ u.passwordHash ≠ "") id := by
  constructor
  · intro h
    obtain ⟨u, hu, henabled⟩ := h
    exact ⟨u.id, u, hu, rfl, henabled⟩
  · intro h
    obtain ⟨_, u, hu, _, henabled⟩ := h
    exact ⟨u, hu, henabled⟩

theorem hasAdmin_updateUser
    (hadmin : ∀ u, u.role = .systemAdmin → u.status = .active → u.passwordHash ≠ "" →
      (f u).role = .systemAdmin ∧ (f u).status = .active ∧ (f u).passwordHash ≠ "")
    (h : s.HasAdmin) : (s.updateUser userID f hf).HasAdmin := by
  obtain ⟨id, hwith⟩ := hasAdmin_iff.mp h
  refine hasAdmin_iff.mpr ⟨id, userWith_updateUser hf (fun u hu => ?_) hwith⟩
  exact hadmin u hu.1 hu.2.1 hu.2.2

end

/-- Users stay in their tenant, and the ids of deleted users are not used again. -/
structure UsersLater (t t' : RowStore userKeys) : Prop where
  nextID : t.nextID ≤ t'.nextID
  tenantID : ∀ u' ∈ t'.rows, t.nextID ≤ u'.id ∨
    ∃ u ∈ t.rows, u.id = u'.id ∧ u.row.tenantID = u'.row.tenantID

theorem UsersLater.refl (t : RowStore userKeys) : UsersLater t t :=
  ⟨le_rfl, fun u' hu' => .inr ⟨u', hu', rfl, rfl⟩⟩

theorem UsersLater.trans {t t' t'' : RowStore userKeys} (h : UsersLater t t')
    (h' : UsersLater t' t'') : UsersLater t t'' := by
  refine ⟨h.nextID.trans h'.nextID, fun u'' hu'' => ?_⟩
  rcases h'.tenantID u'' hu'' with hnew | ⟨u', hu', hid', htenant'⟩
  · exact .inl (h.nextID.trans hnew)
  · rcases h.tenantID u' hu' with hnew | ⟨u, hu, hid, htenant⟩
    · exact .inl (hid' ▸ hnew)
    · exact .inr ⟨u, hu, hid.trans hid', htenant.trans htenant'⟩

theorem UsersLater.same {t t' : RowStore userKeys} (h : UsersLater t t') {u u' : Stored User}
    (hu : u ∈ t.rows) (hu' : u' ∈ t'.rows) (hid : u'.id = u.id) :
    u'.row.tenantID = u.row.tenantID := by
  rcases h.tenantID u' hu' with hnew | ⟨v, hv, hvid, htenant⟩
  · have hbelow := t.ids_below u hu
    omega
  · rw [← t.eq_of_id hv hu (hvid.trans hid)]
    exact htenant.symm

theorem usersLater_updateUser {userID : Int} {f : User → User}
    (hf : ∀ u, (f u).username = u.username) (htenant : ∀ u, (f u).tenantID = u.tenantID) :
    UsersLater s.users (s.updateUser userID f hf).users := by
  refine ⟨le_rfl, fun u' hu' => .inr ?_⟩
  obtain ⟨u, hu, heq⟩ := (mem_updateUser hf).mp hu'
  refine ⟨u, hu, ?_⟩
  rw [heq]
  split
  · exact ⟨rfl, (htenant u.row).symm⟩
  · exact ⟨rfl, rfl⟩

theorem usersLater_delete (t : RowStore userKeys) (userID : Int) : UsersLater t (t.delete userID) :=
  ⟨le_rfl, fun u' hu' => .inr ⟨u', (RowStore.mem_rows_delete.mp hu').1, rfl, rfl⟩⟩

/-! ## Administrators -/

theorem mem_enabledAdmins {u : Stored User} :
    u ∈ s.enabledAdmins ↔ u ∈ s.users.rows ∧ u.row.role = .systemAdmin ∧
      u.row.status = .active ∧ u.row.passwordHash ≠ "" := by
  unfold IdentityState.enabledAdmins
  rw [List.mem_filter, decide_eq_true_iff]

/-- Two administrators are not one. -/
theorem exists_other_admin (htwo : ¬ s.enabledAdmins.length ≤ 1) (k : Int) :
    ∃ u ∈ s.enabledAdmins, u.id ≠ k := by
  have hnodup : (s.enabledAdmins.map fun u => u.id).Nodup :=
    s.users.ids_nodup.sublist (List.filter_sublist.map _)
  match hadmins : s.enabledAdmins with
  | [] => simp [hadmins] at htwo
  | [u] => simp [hadmins] at htwo
  | u :: u' :: rest =>
    rw [hadmins] at hnodup
    have hne : u.id ≠ u'.id := by
      intro heq
      simp [heq] at hnodup
    by_cases hk : u.id = k
    · exact ⟨u', by simp, fun heq => hne (hk.trans heq.symm)⟩
    · exact ⟨u, by simp, hk⟩

/-- The rule of both operations that take an administrator away: the user who changes is
no enabled administrator, or is not the only one. -/
theorem exists_admin_ne (h : s.HasAdmin) {user : Stored User} (huser : user ∈ s.users.rows)
    (hallowed : user.row.role = .systemAdmin → user.row.status = .active →
      ¬ s.enabledAdmins.length ≤ 1) :
    ∃ u ∈ s.users.rows, u.id ≠ user.id ∧ u.row.role = .systemAdmin ∧ u.row.status = .active ∧
      u.row.passwordHash ≠ "" := by
  obtain ⟨u, hu, hrole, hstatus, hhash⟩ := h
  by_cases hid : u.id = user.id
  · have heq : u = user := s.users.eq_of_id hu huser hid
    rw [heq] at hrole hstatus
    obtain ⟨other, hother, hne⟩ := exists_other_admin (hallowed hrole hstatus) user.id
    obtain ⟨hmem, henabled⟩ := mem_enabledAdmins.mp hother
    exact ⟨other, hmem, hne, henabled⟩
  · exact ⟨u, hu, hid, hrole, hstatus, hhash⟩

/-! ## Calls -/

/-- What holds of two states of one run, however far apart. -/
structure Later (s s' : IdentityState) : Prop where
  clock : s.clock ≤ s'.clock
  sessions : SessionsLater s.sessions s'.sessions
  users : UsersLater s.users s'.users

theorem Later.refl (s : IdentityState) : Later s s :=
  ⟨le_rfl, .refl _, .refl _⟩

theorem later_tick (s : IdentityState) (elapsed : Nat) : Later s (s.tick elapsed) :=
  ⟨Int.le_add_of_nonneg_right (Int.natCast_nonneg elapsed), .refl _, .refl _⟩

variable {s'' : IdentityState}

theorem Later.trans {s' : IdentityState} (h : Later s s') (h' : Later s' s'') : Later s s'' :=
  ⟨h.clock.trans h'.clock, h.sessions.trans h'.sessions, h.users.trans h'.users⟩

variable [Credentials]

/-- What any call does.  `spared` relates a session that is kept to the new password. -/
structure Follows (spared : Session → String → Prop) (s s' : IdentityState) : Prop where
  later : Later s s'
  admins : s.HasAdmin → s'.HasAdmin
  safe : ∀ r' ∈ s'.sessions.rows, r'.row.revokedAt = none →
    s.Live r'.row.userID → s'.Live r'.row.userID
  matched : ∀ r' ∈ s'.sessions.rows, r'.row.revokedAt = none → ∀ password,
    s.Matches password r'.row.userID → s'.Matches password r'.row.userID ∨
      ∃ changed, spared r'.row changed ∧ s'.Matches changed r'.row.userID

def NoneOpened (s s' : IdentityState) : Prop :=
  ∀ r', ¬ Opens s.sessions s'.sessions r'

/-- A call that opens no session. -/
def Quiet (spared : Session → String → Prop) (s s' : IdentityState) : Prop :=
  Follows spared s s' ∧ NoneOpened s s'

variable {spared : Session → String → Prop} {s s' : IdentityState}

/-- A call that leaves every user active and with the same password. -/
theorem Follows.of_users (hlater : Later s s') (hadmins : s.HasAdmin → s'.HasAdmin)
    (hlive : ∀ userID, s.Live userID → s'.Live userID)
    (hmatches : ∀ password userID, s.Matches password userID → s'.Matches password userID) :
    Follows spared s s' where
  later := hlater
  admins := hadmins
  safe := fun r' _ _ => hlive r'.row.userID
  matched := fun r' _ _ password h => .inl (hmatches password r'.row.userID h)

/-- A call that leaves the users and the tenants, and opens no session. -/
theorem Quiet.of_sessions {g : Stored Session → Stored Session} (hclock : s.clock ≤ s'.clock)
    (husers : s'.users = s.users) (htenants : s'.tenants = s.tenants)
    (hrows : s'.sessions.rows = s.sessions.rows.map g)
    (hg : ∀ r, (g r).id = r.id ∧ SameSession r.row (g r).row) : Quiet spared s s' := by
  refine ⟨.of_users ⟨hclock, sessionsLater_of_map hrows hg, husers ▸ .refl _⟩ ?_ ?_ ?_,
    not_opens_of_map hrows fun r => (hg r).1⟩
  · unfold IdentityState.HasAdmin
    rw [husers]
    exact id
  · unfold IdentityState.Live IdentityState.UserWith IdentityState.TenantActive
    rw [husers, htenants]
    exact fun _ h => h
  · unfold IdentityState.Matches IdentityState.UserWith
    rw [husers]
    exact fun _ _ h => h

/-- A call that also writes other tables. -/
theorem Quiet.and_more (h : Quiet spared s s') (hclock : s''.clock = s'.clock)
    (husers : s''.users = s'.users) (htenants : s''.tenants = s'.tenants)
    (hsessions : s''.sessions = s'.sessions) : Quiet spared s s'' := by
  obtain ⟨⟨⟨hc, hs, hu⟩, ha, hlive, hmatch⟩, hnone⟩ := h
  obtain ⟨tenants, users, sessions, tokens, history, settings, clock⟩ := s''
  cases hclock
  cases husers
  cases htenants
  cases hsessions
  exact ⟨⟨⟨hc, hs, hu⟩, ha, hlive, hmatch⟩, hnone⟩

/-- A call that writes none of the three tables. -/
theorem Quiet.of_eq (hclock : s.clock ≤ s'.clock) (husers : s'.users = s.users)
    (htenants : s'.tenants = s.tenants) (hsessions : s'.sessions = s.sessions) :
    Quiet spared s s' := by
  refine .of_sessions hclock husers htenants ?_ fun r => ⟨rfl, .refl _⟩
  rw [hsessions]
  exact List.map_id' _ |>.symm

theorem quiet_tick (s : IdentityState) (elapsed : Nat) : Quiet spared s (s.tick elapsed) :=
  .of_eq (later_tick s elapsed).clock rfl rfl rfl

variable {elapsed : Nat}

/-- The step of a call and the time before it. -/
theorem Follows.of_tick (h : Follows spared (s.tick elapsed) s') : Follows spared s s' where
  later := (later_tick s elapsed).trans h.later
  admins := h.admins
  safe := h.safe
  matched := h.matched

theorem Quiet.of_tick (h : Quiet spared (s.tick elapsed) s') : Quiet spared s s' :=
  ⟨h.1.of_tick, h.2⟩

/-! ## Revocations -/

section

variable (s) (sel : Stored Session → Bool) (at' : Time)

omit [Credentials] in
theorem revoke_map : ∃ g, (s.revoke sel at').sessions.rows = s.sessions.rows.map g ∧
    ∀ r, (g r).id = r.id ∧ SameSession r.row (g r).row := by
  refine ⟨_, rfl, fun r => ?_⟩
  split
  · exact ⟨rfl, rfl, rfl, rfl, rfl, fun _ => rfl⟩
  · exact ⟨rfl, .refl _⟩

theorem quiet_revoke : Quiet spared s (s.revoke sel at') := by
  obtain ⟨g, hrows, hg⟩ := revoke_map s sel at'
  exact .of_sessions le_rfl rfl rfl hrows hg

variable {s sel at'}

omit [Credentials] in
/-- A session that is open after the revocation was not selected. -/
theorem not_selected_of_open (hr' : r' ∈ (s.revoke sel at').sessions.rows)
    (hopen : r'.row.revokedAt = none) : r' ∈ s.sessions.rows ∧ sel r' = false := by
  obtain ⟨r, hr, heq⟩ := List.mem_map.mp hr'
  split at heq
  · rw [← heq] at hopen
    cases hopen
  · rename_i hsel
    rw [← heq]
    exact ⟨hr, by simpa using hsel⟩

end

omit [Credentials] in
theorem not_selected_of_openWhere {sel : Session → Bool} {at' : Time}
    (hr' : r' ∈ (s.revokeWhere sel at').sessions.rows) (hopen : r'.row.revokedAt = none) :
    sel r'.row = false := by
  simpa [hopen] using (not_selected_of_open hr' hopen).2

/-- A call that revokes the sessions of the users it takes something from. -/
theorem Quiet.of_revoked (sel : Session → Bool) (at' : Time)
    (hsessions : s'.sessions = (s.revokeWhere sel at').sessions)
    (hclock : s.clock ≤ s'.clock) (husers : UsersLater s.users s'.users)
    (hadmins : s.HasAdmin → s'.HasAdmin)
    (hlive : ∀ r, sel r = false → s.Live r.userID → s'.Live r.userID)
    (hmatches : ∀ r, sel r = false → ∀ password, s.Matches password r.userID →
      s'.Matches password r.userID) : Quiet spared s s' := by
  obtain ⟨g, hrows, hg⟩ := revoke_map s (fun r => sel r.row && r.row.revokedAt.isNone) at'
  unfold IdentityState.revokeWhere at hsessions
  rw [← hsessions] at hrows
  refine ⟨⟨⟨hclock, sessionsLater_of_map hrows hg, husers⟩, hadmins, fun r' hr' hopen => ?_,
    fun r' hr' hopen password h => .inl ?_⟩, not_opens_of_map hrows fun r => (hg r).1⟩
  · rw [hsessions] at hr'
    exact hlive r'.row (not_selected_of_openWhere hr' hopen)
  · rw [hsessions] at hr'
    exact hmatches r'.row (not_selected_of_openWhere hr' hopen) password h

/-! ## Users and tenants that change -/

variable {userID : Int} {at' : Time} {f : User → User} {user : Stored User} {status : UserStatus}

/-- An update of a user that leaves the role, the status and the tenant, and a password
that is set. -/
theorem quiet_updateUser (hf : ∀ u, (f u).username = u.username) (hrole : ∀ u, (f u).role = u.role)
    (hstatus : ∀ u, (f u).status = u.status) (htenant : ∀ u, (f u).tenantID = u.tenantID)
    (hadmin : ∀ u, u.passwordHash ≠ "" → (f u).passwordHash ≠ "")
    (hmatches : ∀ u ∈ s.users.rows, u.id = userID → u.row.passwordHash ≠ "" →
      (f u.row).passwordHash = u.row.passwordHash) : Quiet spared s (s.updateUser userID f hf) := by
  refine ⟨.of_users ⟨le_rfl, .refl _, usersLater_updateUser hf htenant⟩
    (hasAdmin_updateUser hf fun u hr hs hh => ?_)
    (fun _ => userWith_updateUser hf fun u hu => ?_) (fun password id h => ?_),
    fun _ => not_opens_self⟩
  · exact ⟨(hrole u).trans hr, (hstatus u).trans hs, hadmin u hh⟩
  · rw [hstatus, htenant]
    exact hu
  · obtain ⟨u, hu, hid, hmatch⟩ := h
    refine ⟨_, (mem_updateUser hf).mpr ⟨u, hu, rfl⟩, ?_⟩
    split
    · rename_i hsame
      have hset : u.row.passwordHash ≠ "" := by
        intro hempty
        rw [hempty, Credentials.compare_empty] at hmatch
        cases hmatch
      refine ⟨hid, ?_⟩
      show Credentials.compare (f u.row).passwordHash password = true
      rw [hmatches u hu hsame hset]
      exact hmatch
    · exact ⟨hid, hmatch⟩

/-- An update of a user that also revokes the sessions of the user. -/
theorem quiet_updateAndRevoke (hf : ∀ u, (f u).username = u.username)
    (htenant : ∀ u, (f u).tenantID = u.tenantID)
    (hadmins : s.HasAdmin → (s.updateUser userID f hf).HasAdmin) :
    Quiet spared s ((s.updateUser userID f hf).revokeSessionsOf userID at') := by
  refine .of_revoked (fun r => r.userID = userID) at' rfl le_rfl
    (usersLater_updateUser hf htenant) hadmins ?_ ?_
  · intro r hother hlive
    exact userWith_updateUser_ne hf (of_decide_eq_false hother) hlive
  · intro r hother _ hmatch
    exact userWith_updateUser_ne hf (of_decide_eq_false hother) hmatch

theorem quiet_setStatus (huser : s.users.byID userID = some user)
    (hstatus : status = .active ∨ status = .disabled) (hallowed :
      ¬ (user.row.role = .systemAdmin ∧ status = .disabled ∧ s.enabledAdmins.length ≤ 1)) :
    Quiet spared s ((s.updateUser userID (fun u => { u with status := status })
      fun _ => rfl).revokeSessionsOf userID at') := by
  obtain ⟨hmem, hid⟩ := Table.lookup_some huser
  refine quiet_updateAndRevoke _ (fun _ => rfl) fun hadmin => ?_
  rcases hstatus with hactive | hdisabled
  · exact hasAdmin_updateUser _ (fun u hrole _ hhash => ⟨hrole, hactive, hhash⟩) hadmin
  · obtain ⟨u, hu, hne, henabled⟩ := exists_admin_ne hadmin hmem
      fun hrole _ hone => hallowed ⟨hrole, hdisabled, hone⟩
    have hsame : ¬ u.id = userID := fun heq => hne (heq.trans hid.symm)
    exact ⟨u, (mem_updateUser _).mpr ⟨u, hu, (if_neg hsame).symm⟩, henabled⟩

theorem quiet_setPassword {passwordHash : String} (hset : passwordHash ≠ "") :
    Quiet spared s ((s.updateUser userID (fun u => { u with passwordHash := passwordHash })
      fun _ => rfl).revokeSessionsOf userID at') :=
  quiet_updateAndRevoke _ (fun _ => rfl)
    (hasAdmin_updateUser _ fun _ hrole hstatus _ => ⟨hrole, hstatus, hset⟩)

theorem quiet_deleteUser (huser : s.users.byID userID = some user)
    (hallowed : ¬ (user.row.role = .systemAdmin ∧ user.row.status = .active ∧
      s.enabledAdmins.length ≤ 1)) :
    Quiet spared s { s.revokeSessionsOf userID at' with
      users := (s.revokeSessionsOf userID at').users.delete userID } := by
  obtain ⟨hmem, hid⟩ := Table.lookup_some huser
  refine .of_revoked (fun r => r.userID = userID) at' rfl le_rfl (usersLater_delete _ _)
    (fun hadmin => ?_) ?_ ?_
  · obtain ⟨u, hu, hne, henabled⟩ := exists_admin_ne hadmin hmem
      fun hrole hactive hone => hallowed ⟨hrole, hactive, hone⟩
    exact ⟨u, RowStore.mem_rows_delete.mpr ⟨hu, fun heq => hne (heq.trans hid.symm)⟩, henabled⟩
  · intro r hother hlive
    obtain ⟨u, hu, huid, hactive⟩ := hlive
    have hne : u.id ≠ userID := huid ▸ of_decide_eq_false hother
    exact ⟨u, RowStore.mem_rows_delete.mpr ⟨hu, hne⟩, huid, hactive⟩
  · intro r hother _ hmatches
    obtain ⟨u, hu, huid, hmatch⟩ := hmatches
    have hne : u.id ≠ userID := huid ▸ of_decide_eq_false hother
    exact ⟨u, RowStore.mem_rows_delete.mpr ⟨hu, hne⟩, huid, hmatch⟩

theorem quiet_setTenantStatus {id : Int} :
    Quiet spared s { s.revokeWhere (s.ofTenant id) at' with
      tenants := s.tenants.update id 0 (fun t => { t with status := status }) fun _ => rfl } := by
  refine .of_revoked (s.ofTenant id) at' rfl le_rfl (.refl _) (fun hadmin => hadmin) ?_
    fun _ _ _ hmatches => hmatches
  intro r hfree hlive
  obtain ⟨u, hu, huid, hactive, htenant⟩ := hlive
  refine ⟨u, hu, huid, hactive, fun tenantID htenantID => ?_⟩
  obtain ⟨t, ht, htid, htactive⟩ := htenant tenantID htenantID
  have hother : ¬ t.id = id := by
    intro heq
    refine (List.any_eq_false.mp hfree) u hu ?_
    simp [huid, htenantID, ← htid, heq]
  exact ⟨t, Table.mem_modify.mpr ⟨t, ht, (if_neg hother).symm⟩, htid, htactive⟩

end KubeSentry.Identity
