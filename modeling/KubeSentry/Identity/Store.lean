import KubeSentry.Api.Types
import KubeSentry.GoLib.Fallible
import KubeSentry.GoLib.RowStore

/-!
# The identity tables

Users, tenants, sessions, activation tokens, the password history and the security
settings, with the calls of `internal/database/repository/identity_repo.go`.

A transaction is one call, and so is a single statement; `GetActiveSession` makes three
queries, which are three calls.  A call may fail with any text, and then it has done
nothing.  Time passes before each call, and `clock` is the time of the last one.

Deleted users are gone from the table, because every query skips them; their ids and
the token hashes of sessions are never used again.  `updated_at` is written and not
read.  The password history has the newest row first, which is the order of
`created_at` and of the ids.

`Credentials` has what belongs to other libraries: bcrypt is an exact match, and nothing
is assumed about the hash of a session token.  `openedWith` of a session is not a column:
it is the password that the login presented, for the statements about logins.
-/

namespace KubeSentry.Identity

open GoLib

/-! ## Rows -/

inductive Role where
  | systemAdmin
  | tenantAdmin
  | viewer
  | other (text : String)
  deriving DecidableEq, Repr

inductive UserStatus where
  | active
  | disabled
  | other (text : String)
  deriving DecidableEq, Repr

structure Tenant where
  name : String
  status : UserStatus
  deriving DecidableEq

structure User where
  username : String
  passwordHash : String := ""
  role : Role
  status : UserStatus
  tenantID : Option Int := none
  lastLoginAt : Option Time := none
  lastLoginIP : String := ""
  passwordChangedAt : Option Time := none
  mustChangePassword : Bool := false
  failedLoginCount : Int := 0
  lockedUntil : Option Time := none
  deriving DecidableEq

structure Session where
  userID : Int
  tokenHash : String
  expiresAt : Time
  lastSeenAt : Time
  revokedAt : Option Time := none
  openedWith : String := ""
  deriving DecidableEq

structure UserActivationToken where
  userID : Int
  tokenHash : String
  expiresAt : Time
  usedAt : Option Time := none
  deriving DecidableEq

structure PasswordHistory where
  userID : Int
  passwordHash : String
  deriving DecidableEq

structure SecuritySettings where
  activationLifetimeHours : Int := 24
  passwordLifetimeDays : Int := 0
  passwordMinLength : Int := 12
  passwordHistoryCount : Int := 5
  maxFailedLoginAttempts : Int := 5
  lockoutDurationMinutes : Int := 15
  sessionIdleMinutes : Int := 30
  sessionAbsoluteMinutes : Int := 480
  allowConcurrentSessions : Bool := false
  deriving DecidableEq

def tenantKeys (t : Tenant) : List String := [t.name]

def userKeys (u : User) : List String := [u.username]

def sessionKeys (s : Session) : List String := [s.tokenHash]

structure IdentityState where
  tenants : RowStore tenantKeys := .empty
  users : RowStore userKeys := .empty
  sessions : RowStore sessionKeys := .empty
  tokens : List UserActivationToken := []
  history : List PasswordHistory := []
  settings : SecuritySettings := {}
  clock : Time := 0

def minute : Time := 60000000000

def hour : Time := 60 * minute

/-- bcrypt and SHA-256, next to `strings.ToLower`.  `generate` takes the salt as its second
argument, and refuses a password that is too long. -/
class Credentials extends GoUnicode where
  generate : String → String → Option String
  compare : String → String → Bool
  tokenHash : String → String
  compare_generate : ∀ {password salt hash : String}, generate password salt = some hash →
    ∀ candidate, compare hash candidate = true ↔ candidate = password
  compare_empty : ∀ candidate, compare "" candidate = false

/-- Hashes are the passwords behind a mark; for runs on concrete values. -/
@[reducible] def Credentials.plain : Credentials where
  toGoUnicode := .ascii
  generate password _ := some ("#" ++ password)
  compare hash candidate := hash = "#" ++ candidate
  tokenHash token := token
  compare_generate := by
    intro password salt hash hgenerate candidate
    cases hgenerate
    simp [eq_comm]
  compare_empty := by
    intro candidate
    simp

/-- The hash is one of the password. -/
def Generated [Credentials] (password hash : String) : Prop :=
  ∃ salt, Credentials.generate password salt = some hash

section

variable [Credentials] {password hash : String} (h : Generated password hash)

include h

theorem Generated.compare : Credentials.compare hash password = true := by
  obtain ⟨salt, hgenerate⟩ := h
  exact (Credentials.compare_generate hgenerate password).mpr rfl

theorem Generated.ne_empty : hash ≠ "" := by
  intro heq
  have hmatch := h.compare
  rw [heq, Credentials.compare_empty] at hmatch
  cases hmatch

end

/-! ## Errors -/

/-- The cause is not part of `ErrAuthentication`; it is here for the statements, with the fate
of an idle session. -/
inductive AuthenticationCause where
  | inactive
  | idle (revoked : Bool)
  deriving DecidableEq, Repr

inductive IdentityError where
  | recordNotFound
  | uniqueViolation
  | inactiveSession
  | lastSystemAdmin
  | database (text : String)
  | bcrypt
  | forbidden
  | notFound
  | invalidIdentity
  | defaultAdmin
  | invalidCredentials
  | invalidPassword
  | alreadyInitialized
  | authentication (cause : AuthenticationCause)
  | activationInvalid
  | accountLocked
  | passwordReused
  | currentPasswordIncorrect
  deriving DecidableEq, Repr

/-! ## Calls -/

/-- What the environment decides about a call: how much time has passed, the error of the
driver, and the random values. -/
structure IdentityInput where
  elapsed : Nat := 0
  fault : Option String := none
  token : String := ""
  salt : String := ""
  deriving DecidableEq

instance : Inhabited IdentityInput := ⟨{}⟩

abbrev IdentityProg := Fallible IdentityState IdentityInput IdentityError

namespace IdentityState

def tick (s : IdentityState) (elapsed : Nat) : IdentityState :=
  { s with clock := s.clock + elapsed }

end IdentityState

/-- What a call leaves and returns: it takes place after `elapsed`, and an error leaves
the tables as they are. -/
def performed {A : Type} (f : IdentityState → Except IdentityError (IdentityState × A))
    (s : IdentityState) (i : IdentityInput) : IdentityState × Except IdentityError A :=
  match i.fault with
  | some text => (s.tick i.elapsed, .error (.database text))
  | none =>
    match f (s.tick i.elapsed) with
    | .error err => (s.tick i.elapsed, .error err)
    | .ok (s', a) => (s', .ok a)

def transaction {A : Type} (f : IdentityState → Except IdentityError (IdentityState × A)) :
    IdentityProg A :=
  Prog.atomic (performed f)

/-- A transaction that returns nothing. -/
def execute (f : IdentityState → Except IdentityError IdentityState) : IdentityProg Unit :=
  transaction fun s => (f s).map fun s' => (s', ())

/-- A call that writes nothing. -/
def compute {A : Type} (f : IdentityState → IdentityInput → Except IdentityError A) :
    IdentityProg A :=
  Prog.atomic fun s i => (s.tick i.elapsed, f (s.tick i.elapsed) i)

def query {A : Type} (f : IdentityState → Except IdentityError A) : IdentityProg A :=
  compute fun s i =>
    match i.fault with
    | some text => .error (.database text)
    | none => f s

/-- `time.Now`. -/
def timeNow : IdentityProg Time :=
  compute fun s _ => .ok s.clock

/-- `newSessionToken`, without the hash. -/
def newSessionToken : IdentityProg String :=
  compute fun _ i =>
    match i.fault with
    | some text => .error (.database text)
    | none => .ok i.token

/-- `bcrypt.GenerateFromPassword`. -/
def generateFromPassword [Credentials] (password : String) : IdentityProg String :=
  compute fun _ i =>
    match Credentials.generate password i.salt with
    | some hash => .ok hash
    | none => .error .bcrypt

/-! ## Changes of the tables -/

/-- The columns that a user writes with a new password. -/
def User.withPassword (passwordHash : String) (at' : Time) (u : User) : User :=
  { u with
    passwordHash := passwordHash
    passwordChangedAt := some at'
    mustChangePassword := false
    failedLoginCount := 0
    lockedUntil := none }

/-- The columns that a login writes. -/
def User.afterLogin (at' : Time) (remoteIP : String) (u : User) : User :=
  { u with
    lastLoginAt := some at'
    lastLoginIP := remoteIP
    failedLoginCount := 0
    lockedUntil := none }

namespace IdentityState

variable (s : IdentityState)

/-- `UPDATE users … WHERE id = userID` of other columns than the name. -/
def updateUser (userID : Int) (f : User → User)
    (hf : ∀ u, (f u).username = u.username) : IdentityState :=
  { s with users := s.users.update userID 0 f fun u => congrArg (fun name => [name]) (hf u) }

/-- `UPDATE sessions SET revoked_at = at WHERE …`. -/
def revoke (sel : Stored Session → Bool) (at' : Time) : IdentityState :=
  { s with
    sessions := s.sessions.updateWhere sel 0 (fun r => { r with revokedAt := some at' })
      fun _ => rfl }

/-- The same for the sessions that are not revoked. -/
def revokeWhere (sel : Session → Bool) (at' : Time) : IdentityState :=
  s.revoke (fun r => sel r.row && r.row.revokedAt.isNone) at'

def revokeSessionsOf (userID : Int) (at' : Time) : IdentityState :=
  s.revokeWhere (fun r => r.userID = userID) at'

def touch (id : Int) (at' : Time) : IdentityState :=
  { s with
    sessions := s.sessions.updateWhere (fun r => r.id = id && r.row.revokedAt.isNone) 0
      (fun r => { r with lastSeenAt := at' }) fun _ => rfl }

/-- Whether the session is of a user of the tenant. -/
def ofTenant (tenantID : Int) (r : Session) : Bool :=
  s.users.rows.any fun u => u.id = r.userID && u.row.tenantID = some tenantID

def addHistory (userID : Int) (passwordHash : String) : IdentityState :=
  { s with history := { userID := userID, passwordHash := passwordHash } :: s.history }

/-- A token hash is unique, and so is the user of an unused token. -/
def insertToken (token : UserActivationToken) : Except IdentityError IdentityState :=
  if s.tokens.any fun t =>
      t.tokenHash = token.tokenHash || (t.usedAt.isNone && t.userID = token.userID) then
    .error .uniqueViolation
  else .ok { s with tokens := s.tokens ++ [token] }

def byUsername (username : String) : Option (Stored User) :=
  s.users.rows.find? fun u => u.row.username = username

/-- Without concurrent sessions a login ends the sessions of the user. -/
def endOthers (userID : Int) (at' : Time) (allowConcurrent : Bool) : IdentityState :=
  if allowConcurrent then s else s.revokeSessionsOf userID at'

def recordLogin (userID : Int) (at' : Time) (remoteIP : String) : IdentityState :=
  s.updateUser userID (User.afterLogin at' remoteIP) fun _ => rfl

/-- The transaction of `ChangePassword`. -/
def changePassword (userID : Int) (passwordHash : String)
    (keepSessionID : Option Int) (at' : Time) : IdentityState :=
  ((s.updateUser userID (User.withPassword passwordHash at') fun _ => rfl).addHistory userID
    passwordHash).revoke
      (fun r => r.row.userID = userID && r.row.revokedAt.isNone && some r.id != keepSessionID) at'

/-- The transaction of `LoginSucceeded`. -/
def loginSucceeded (userID : Int) (session : Session) (at' : Time)
    (remoteIP : String) (allowConcurrent : Bool) : Except IdentityError IdentityState :=
  match s.users.byID userID with
  | none => .error .recordNotFound
  | some _ =>
    let s := (s.endOthers userID at' allowConcurrent).recordLogin userID at' remoteIP
    match s.sessions.insert 0 { session with userID := userID } with
    | some sessions => .ok { s with sessions := sessions }
    | none => .error .uniqueViolation

def liveSession (tokenHash : String) (now : Time) : Except IdentityError (Stored Session) :=
  match s.sessions.rows.find? fun r =>
      r.row.tokenHash = tokenHash ∧ r.row.revokedAt = none ∧ r.row.expiresAt > now with
  | some session => .ok session
  | none => .error .inactiveSession

/-- The system administrators that can log in. -/
def enabledAdmins : List (Stored User) :=
  s.users.rows.filter fun u =>
    u.row.role = .systemAdmin ∧ u.row.status = .active ∧ u.row.passwordHash ≠ ""

end IdentityState

/-! ## The repository -/

namespace IdentityRepo

/-- `First`, by its id. -/
def first {A : Type} : Option A → Except IdentityError A
  | some a => .ok a
  | none => .error .recordNotFound

def createTenant (tenant : Tenant) : IdentityProg Unit :=
  execute fun s =>
    match s.tenants.insert 0 tenant with
    | some tenants => .ok { s with tenants := tenants }
    | none => .error .uniqueViolation

def getTenant (id : Int) : IdentityProg (Stored Tenant) :=
  query fun s => first (s.tenants.byID id)

def setTenantStatusAndRevoke (id : Int) (status : UserStatus) (at' : Time) : IdentityProg Unit :=
  execute fun s =>
    match s.tenants.byID id with
    | none => .error .recordNotFound
    | some _ =>
      .ok { s.revokeWhere (s.ofTenant id) at' with
            tenants := s.tenants.update id 0 (fun t => { t with status := status }) fun _ => rfl }

def createUserWithActivation (user : User) (tokenHash : String) (expiresAt : Time) :
    IdentityProg Unit :=
  execute fun s =>
    match s.users.insert 0 user with
    | some users =>
      { s with users := users }.insertToken
        { userID := s.users.nextID, tokenHash := tokenHash, expiresAt := expiresAt }
    | none => .error .uniqueViolation

variable (userID : Int)

def replaceActivationToken (tokenHash : String) (expiresAt at' : Time) : IdentityProg Unit :=
  execute fun s =>
    let tokens := s.tokens.map fun t =>
      if t.userID = userID ∧ t.usedAt = none then { t with usedAt := some at' } else t
    { s with tokens := tokens }.insertToken
      { userID := userID, tokenHash := tokenHash, expiresAt := expiresAt }

def getActivationToken (tokenHash : String) : IdentityProg UserActivationToken :=
  query fun s => first (s.tokens.find? fun t => t.tokenHash = tokenHash ∧ t.usedAt = none)

def activateUser (tokenHash passwordHash : String) (at' : Time) : IdentityProg Unit :=
  execute fun s =>
    match s.tokens.find? fun t => t.userID = userID ∧ t.tokenHash = tokenHash ∧ t.usedAt = none ∧
        t.expiresAt > at' with
    | none => .error .recordNotFound
    | some _ =>
      match s.users.byID userID with
      | none => .error .recordNotFound
      | some user =>
        if user.row.status = .active ∧ user.row.passwordHash = "" then
          .ok { (s.updateUser userID (User.withPassword passwordHash at')
                  fun _ => rfl).addHistory userID passwordHash with
                tokens := s.tokens.map fun t =>
                  if t.tokenHash = tokenHash then { t with usedAt := some at' } else t }
        else .error .recordNotFound

def listPasswordHashes (limit : Int) : IdentityProg (List String) :=
  if limit ≤ 0 then pure []
  else query fun s =>
    .ok (((s.history.filter fun h => h.userID = userID).take limit.toNat).map (·.passwordHash))

def recordLoginFailure (maxAttempts lockoutMinutes : Int) (at' : Time) : IdentityProg Unit :=
  execute fun s =>
    match s.users.byID userID with
    | none => .error .recordNotFound
    | some user =>
      let count := user.row.failedLoginCount + 1
      .ok (s.updateUser userID (fun u =>
        { u with
          failedLoginCount := count
          lockedUntil :=
            if count ≥ maxAttempts then some (at' + lockoutMinutes * minute) else u.lockedUntil })
        fun _ => rfl)

def loginSucceeded (session : Session) (at' : Time) (remoteIP : String)
    (allowConcurrent : Bool) : IdentityProg Unit :=
  execute fun s => s.loginSucceeded userID session at' remoteIP allowConcurrent

def changePassword (passwordHash : String) (keepSessionID : Option Int)
    (at' : Time) : IdentityProg Unit :=
  execute fun s => .ok (s.changePassword userID passwordHash keepSessionID at')

def getSecuritySettings : IdentityProg SecuritySettings :=
  query fun s => .ok s.settings

def updateSecuritySettings (settings : SecuritySettings) : IdentityProg Unit :=
  execute fun s => .ok { s with settings := settings }

def unlockUser : IdentityProg Unit :=
  execute fun s =>
    .ok (s.updateUser userID (fun u => { u with failedLoginCount := 0, lockedUntil := none })
      fun _ => rfl)

def requirePasswordChange : IdentityProg Unit :=
  execute fun s =>
    .ok (s.updateUser userID (fun u => { u with mustChangePassword := true }) fun _ => rfl)

def getUserByUsername (username : String) : IdentityProg (Stored User) :=
  query fun s => first (s.byUsername username)

def getUser (id : Int) : IdentityProg (Stored User) :=
  query fun s => first (s.users.byID id)

/-- Whether this call has set the password. -/
def initializeAdmin (passwordHash : String) (at' : Time) : IdentityProg Bool :=
  transaction fun s =>
    match s.users.rows.find? fun u => u.row.username = "admin" ∧ u.row.role = .systemAdmin with
    | none => .error .recordNotFound
    | some admin =>
      if admin.row.passwordHash ≠ "" then .ok (s, false)
      else
        .ok ((s.updateUser admin.id (fun u =>
          { u with passwordHash := passwordHash, passwordChangedAt := some at' })
          fun _ => rfl).addHistory admin.id passwordHash, true)

/-- A query whose errors are all `ErrInactiveSession`. -/
def queryActive {A : Type} (f : IdentityState → Option A) : IdentityProg A :=
  compute fun s i =>
    match i.fault, f s with
    | none, some a => .ok a
    | _, _ => .error .inactiveSession

/-- The third query of `GetActiveSession`. -/
def checkTenant (tenantID : Option Int) : IdentityProg Unit :=
  match tenantID with
  | none => pure ()
  | some id => queryActive fun s =>
    (s.tenants.byID id).bind fun tenant => if tenant.row.status = .active then some () else none

/-- The second query of `GetActiveSession`. -/
def activeUser : IdentityProg (Stored User) :=
  queryActive fun s =>
    (s.users.byID userID).bind fun user => if user.row.status = .active then some user else none

/-- The first query of `GetActiveSession`. -/
def liveSession (tokenHash : String) (now : Time) : IdentityProg (Stored Session) :=
  query fun s => s.liveSession tokenHash now

def getActiveSession (tokenHash : String) (now : Time) :
    IdentityProg (Stored Session × Stored User) := do
  let session ← liveSession tokenHash now
  let user ← activeUser session.row.userID
  checkTenant user.row.tenantID
  return (session, user)

def touchSession (id : Int) (at' : Time) : IdentityProg Unit :=
  execute fun s => .ok (s.touch id at')

def revokeSession (id : Int) (at' : Time) : IdentityProg Unit :=
  execute fun s => .ok (s.revoke (fun r => r.id = id) at')

/-- Its time is the one of the call. -/
def revokeUserSessions : IdentityProg Unit :=
  execute fun s => .ok (s.revokeSessionsOf userID s.clock)

def setUserStatusAndRevoke (status : UserStatus) (at' : Time) : IdentityProg Unit :=
  execute fun s =>
    match s.users.byID userID with
    | none => .error .recordNotFound
    | some user =>
      if user.row.role = .systemAdmin ∧ status = .disabled ∧ s.enabledAdmins.length ≤ 1 then
        .error .lastSystemAdmin
      else
        .ok ((s.updateUser userID (fun u => { u with status := status }) fun _ => rfl)
          |>.revokeSessionsOf userID at')

def setUserPasswordAndRevoke (passwordHash : String) (at' : Time) : IdentityProg Unit :=
  execute fun s =>
    match s.users.byID userID with
    | none => .error .recordNotFound
    | some _ =>
      .ok ((s.updateUser userID (fun u => { u with passwordHash := passwordHash }) fun _ => rfl)
        |>.revokeSessionsOf userID at')

def deleteUserAndRevoke (at' : Time) : IdentityProg Unit :=
  execute fun s =>
    match s.users.byID userID with
    | none => .error .recordNotFound
    | some user =>
      if user.row.role = .systemAdmin ∧ user.row.status = .active ∧ s.enabledAdmins.length ≤ 1 then
        .error .lastSystemAdmin
      else
        let s := s.revokeSessionsOf userID at'
        .ok { s with users := s.users.delete userID }

end IdentityRepo

/-! ## Calls that have succeeded -/

variable {A : Type} {s : IdentityState} {a : A}

theorem execute_ok {f : IdentityState → Except IdentityError IdentityState} {s' : IdentityState}
    {a : Unit} (h : (f s).map (fun s' => (s', ())) = .ok (s', a)) : f s = .ok s' := by
  cases hresult : f s with
  | ok s1 =>
    rw [hresult] at h
    cases h
    rfl
  | error err =>
    rw [hresult] at h
    cases h

theorem query_ok {f : IdentityState → Except IdentityError A} {fault : Option String}
    (h : (match fault with
      | some text => Except.error (IdentityError.database text)
      | none => f s) = .ok a) : f s = .ok a := by
  cases fault with
  | some text => cases h
  | none => exact h

theorem first_ok {o : Option A} (h : IdentityRepo.first o = .ok a) : o = some a := by
  cases o with
  | none => cases h
  | some a' =>
    cases h
    rfl

theorem generate_ok [Credentials] {password hash : String} {salt : String}
    (h : (match Credentials.generate password salt with
      | some hash => Except.ok hash
      | none => .error IdentityError.bcrypt) = .ok hash) :
    Credentials.generate password salt = some hash := by
  split at h
  · cases h
    assumption
  · cases h

end KubeSentry.Identity
