import KubeSentry.GoLib.History
import KubeSentry.Identity.Store

/-!
# Authentication and identity services

`AuthService`, `IdentityService` and `SecuritySettingsService` of
`internal/console/service`, as programs of repository calls.  Between two calls of one
operation other operations may run.

`IdentityOp` lists the operations that write, with their arguments.  Any principal may be
the actor of an operation; how the console finds the principal of a request is
`Authenticate`.  Views for the console and the operations that only read are left out.

Durations are counts of nanoseconds.  `AuthService` has the two fallback durations of the
service.
-/

namespace KubeSentry.Identity

open GoLib Fallible IdentityRepo Credentials

structure Principal where
  userID : Int
  username : String := ""
  role : Role
  tenantID : Option Int := none
  lastLoginAt : Option Time := none
  passwordExpiresAt : Option Time := none
  mustChangePassword : Bool := false
  deriving DecidableEq

structure AuthService where
  absoluteDuration : Time := 24 * hour
  idleDuration : Time := 30 * minute

/-- What `Login` returns.  `allowConcurrent` is what it has read of the settings. -/
structure LoginResult where
  token : String
  user : Stored User
  allowConcurrent : Bool
  deriving DecidableEq

inductive IdentityResult where
  | done
  | loggedIn (login : LoginResult)
  | admitted (principal : Principal)
  deriving DecidableEq

section

variable [Credentials]

/-! ## Passwords -/

def minimumPasswordLength : Int := 12

/-- The least number of bytes that the settings ask for. -/
def requiredLength (settings : SecuritySettings) : Int :=
  if settings.passwordMinLength > 0 then settings.passwordMinLength else minimumPasswordLength

/-- `len` of a string. -/
def byteLength (text : String) : Int := text.utf8ByteSize

def validatePasswordLength (password : String) (settings : SecuritySettings) : IdentityProg Unit :=
  refuseIf (byteLength password < requiredLength settings) .invalidPassword

def passwordWasUsed (password : String) (hashes : List String) : Bool :=
  hashes.any fun hash => hash ≠ "" && Credentials.compare hash password

def passwordExpiry (user : User) (settings : SecuritySettings) : Option Time × Bool :=
  match user.passwordChangedAt with
  | none => (none, user.mustChangePassword)
  | some changedAt =>
    if settings.passwordLifetimeDays ≤ 0 then (none, user.mustChangePassword)
    else (some (changedAt + settings.passwordLifetimeDays * (24 * hour)), user.mustChangePassword)

def lockedAt (user : User) (now : Time) : Prop :=
  ∃ until' ∈ user.lockedUntil, until' > now

instance (user : User) (now : Time) : Decidable (lockedAt user now) := by
  unfold lockedAt
  infer_instance

/-! ## `AuthService` -/

namespace AuthService

def initializeAdmin (password : String) : IdentityProg Unit := do
  let settings ← getSecuritySettings
  validatePasswordLength password settings
  let hash ← generateFromPassword password
  let now ← timeNow
  let won ← IdentityRepo.initializeAdmin hash now
  refuseIf (won = false) .alreadyInitialized

/-- The tenant of the user that logs in. -/
def loginTenant (tenantID : Option Int) : IdentityProg Unit :=
  match tenantID with
  | none => pure ()
  | some id => do
    match ← attempt (getTenant id) with
    | .error _ => fail .invalidCredentials
    | .ok tenant => refuseIf (tenant.row.status ≠ .active) .invalidCredentials

/-- The end of `Login`, after its checks. -/
def openSession (auth : AuthService) (user : Stored User) (password : String) (now : Time)
    (settings : SecuritySettings) (remoteIPs : List String) : IdentityProg LoginResult := do
  let token ← newSessionToken
  let absolute := settings.sessionAbsoluteMinutes * minute
  let duration := if absolute ≤ 0 then auth.absoluteDuration else absolute
  let remoteIP := remoteIPs.headD ""
  loginSucceeded user.id
    { userID := user.id
      tokenHash := tokenHash token
      expiresAt := now + duration
      lastSeenAt := now
      openedWith := password }
    now remoteIP settings.allowConcurrentSessions
  return {
    token := token
    user := { user with row := user.row.afterLogin now remoteIP }
    allowConcurrent := settings.allowConcurrentSessions }

def login (auth : AuthService) (username password : String) (remoteIPs : List String) :
    IdentityProg LoginResult := do
  match ← attempt (getUserByUsername (GoUnicode.toLower (trimSpace username))) with
  | .error _ => fail .invalidCredentials
  | .ok user =>
    refuseIf (user.row.status ≠ .active ∨ user.row.passwordHash = "") .invalidCredentials
    let now ← timeNow
    refuseIf (lockedAt user.row now) .accountLocked
    let settings ← getSecuritySettings
    if Credentials.compare user.row.passwordHash password then
      loginTenant user.row.tenantID
      openSession auth user password now settings remoteIPs
    else
      -- an error of the repository is dropped
      let _ : Except IdentityError Unit ← attempt (recordLoginFailure user.id
        settings.maxFailedLoginAttempts settings.lockoutDurationMinutes now)
      fail .invalidCredentials

def idleLimit (auth : AuthService) (settings : SecuritySettings) : Time :=
  if settings.sessionIdleMinutes * minute ≤ 0 then auth.idleDuration
  else settings.sessionIdleMinutes * minute

def principalOf (user : Stored User) (settings : SecuritySettings) (now : Time) : Principal :=
  let expiry := passwordExpiry user.row settings
  { userID := user.id
    username := user.row.username
    role := user.row.role
    tenantID := user.row.tenantID
    lastLoginAt := user.row.lastLoginAt
    passwordExpiresAt := expiry.1
    mustChangePassword := expiry.2 || expiry.1.any fun expiresAt => expiresAt ≤ now }

def authenticate (auth : AuthService) (token : String) : IdentityProg Principal := do
  let now ← timeNow
  let found ← attempt (getActiveSession (tokenHash token) now)
  let settings ← getSecuritySettings
  match found with
  | .error _ => fail (.authentication .inactive)
  | .ok (session, user) =>
    if now - session.row.lastSeenAt > auth.idleLimit settings then
      let result : Except IdentityError Unit ← attempt (revokeSession session.id now)
      fail (.authentication (.idle result.isOk))
    else
      touchSession session.id now
      return principalOf user settings now

def logout (token : String) : IdentityProg Unit := do
  let now ← timeNow
  match ← attempt (getActiveSession (tokenHash token) now) with
  | .error _ => return ()
  | .ok (session, _) =>
    let at' ← timeNow
    revokeSession session.id at'

def activate (code password : String) : IdentityProg Unit := do
  let settings ← getSecuritySettings
  validatePasswordLength password settings
  match ← attempt (getActivationToken (tokenHash code)) with
  | .error _ => fail .activationInvalid
  | .ok token =>
    let now ← timeNow
    refuseIf (token.expiresAt ≤ now) .activationInvalid
    let hash ← generateFromPassword password
    let at' ← timeNow
    mapError (fun _ => .activationInvalid)
      (activateUser token.userID (tokenHash code) hash at')

/-- The session that `ChangePassword` keeps. -/
def keptSession (sessionToken : String) (userID : Int) : IdentityProg (Option Int) :=
  if sessionToken = "" then pure none
  else do
    let now ← timeNow
    match ← attempt (getActiveSession (tokenHash sessionToken) now) with
    | .error _ => fail (.authentication .inactive)
    | .ok (session, _) =>
      refuseIf (session.row.userID ≠ userID) (.authentication .inactive)
      return some session.id

/-- The check against the passwords that have been used. -/
def refuseReused (user : Stored User) (newPassword : String) (settings : SecuritySettings) :
    IdentityProg Unit :=
  if settings.passwordHistoryCount > 0 then do
    let hashes ← listPasswordHashes user.id settings.passwordHistoryCount
    refuseIf (passwordWasUsed newPassword (hashes ++ [user.row.passwordHash])) .passwordReused
  else pure ()

def changePassword (principal : Principal) (sessionToken currentPassword newPassword : String) :
    IdentityProg Unit := do
  let settings ← getSecuritySettings
  let user ← getUser principal.userID
  refuseIf (Credentials.compare user.row.passwordHash currentPassword = false)
    .currentPasswordIncorrect
  validatePasswordLength newPassword settings
  refuseReused user newPassword settings
  let hash ← generateFromPassword newPassword
  let keepSessionID ← keptSession sessionToken user.id
  let now ← timeNow
  IdentityRepo.changePassword user.id hash keepSessionID now

end AuthService

/-! ## `IdentityService` -/

namespace IdentityService

def validStatus (status : UserStatus) : Prop :=
  status = .active ∨ status = .disabled

instance (status : UserStatus) : Decidable (validStatus status) :=
  inferInstanceAs (Decidable (_ ∨ _))

variable (actor : Principal)

def authorizedUser (userID : Int) : IdentityProg (Stored User) := do
  refuseIf (actor.role = .viewer) .forbidden
  let user ← mapError
    (fun err => if err = .recordNotFound then .notFound else err) (getUser userID)
  refuseIf (actor.role = .tenantAdmin ∧
    (actor.tenantID = none ∨ user.row.tenantID = none ∨ actor.tenantID ≠ user.row.tenantID))
    .notFound
  return user

/-- A tenant administrator manages viewers only. -/
def refuseOverreach (target : Stored User) : IdentityProg Unit :=
  refuseIf (actor.role = .tenantAdmin ∧ target.row.role ≠ .viewer) .forbidden

def createTenant (name : String) : IdentityProg Unit := do
  refuseIf (actor.role ≠ .systemAdmin) .forbidden
  refuseIf (trimSpace name = "") .invalidIdentity
  IdentityRepo.createTenant { name := trimSpace name, status := .active }

def setTenantStatus (tenantID : Int) (status : UserStatus) :
    IdentityProg Unit := do
  refuseIf (actor.role ≠ .systemAdmin) .forbidden
  refuseIf (¬ validStatus status) .invalidIdentity
  let now ← timeNow
  setTenantStatusAndRevoke tenantID status now

structure CreateUserRequest where
  username : String
  role : Role
  tenantID : Option Int := none
  deriving DecidableEq

/-- The tenant of a new user. -/
def requireActiveTenant (tenantID : Option Int) : IdentityProg Unit :=
  match tenantID with
  | none => pure ()
  | some id => do
    let tenant ← mapError (fun _ => .invalidIdentity) (getTenant id)
    refuseIf (tenant.row.status ≠ .active) .invalidIdentity

def createUser (req : CreateUserRequest) : IdentityProg Unit := do
  let username := GoUnicode.toLower (trimSpace req.username)
  refuseIf (username = "") .invalidIdentity
  refuseIf (if actor.role = .tenantAdmin then
      actor.tenantID = none ∨ req.role ≠ .viewer ∨ req.tenantID = none ∨
        req.tenantID ≠ actor.tenantID
    else actor.role ≠ .systemAdmin) .forbidden
  refuseIf ((req.role = .systemAdmin ↔ req.tenantID ≠ none) ∨
    (req.role ≠ .systemAdmin ∧ req.role ≠ .tenantAdmin ∧ req.role ≠ .viewer)) .invalidIdentity
  requireActiveTenant req.tenantID
  let settings ← getSecuritySettings
  let code ← newSessionToken
  let now ← timeNow
  createUserWithActivation
    { username := username, role := req.role, status := .active, tenantID := req.tenantID }
    (tokenHash code) (now + settings.activationLifetimeHours * hour)

def regenerateActivation (userID : Int) : IdentityProg Unit := do
  let target ← authorizedUser actor userID
  refuseOverreach actor target
  refuseIf (target.row.passwordHash ≠ "") .invalidIdentity
  let settings ← getSecuritySettings
  let code ← newSessionToken
  let now ← timeNow
  let at' ← timeNow
  replaceActivationToken target.id (tokenHash code)
    (now + settings.activationLifetimeHours * hour) at'

def unlockUser (userID : Int) : IdentityProg Unit := do
  let target ← authorizedUser actor userID
  refuseOverreach actor target
  IdentityRepo.unlockUser userID

def forceLogout (userID : Int) : IdentityProg Unit := do
  let target ← authorizedUser actor userID
  refuseOverreach actor target
  revokeUserSessions userID

def forcePasswordChange (userID : Int) : IdentityProg Unit := do
  let target ← authorizedUser actor userID
  refuseOverreach actor target
  refuseIf (target.row.passwordHash = "") .invalidIdentity
  requirePasswordChange userID

def setUserStatus (userID : Int) (status : UserStatus) :
    IdentityProg Unit := do
  let target ← authorizedUser actor userID
  refuseIf (¬ validStatus status) .invalidIdentity
  refuseOverreach actor target
  let now ← timeNow
  setUserStatusAndRevoke userID status now

def resetPassword (userID : Int) (password : String) : IdentityProg Unit := do
  let target ← authorizedUser actor userID
  -- not the length that the settings ask for
  refuseIf (byteLength password < minimumPasswordLength) .invalidPassword
  refuseOverreach actor target
  let hash ← generateFromPassword password
  let now ← timeNow
  setUserPasswordAndRevoke userID hash now

def deleteUser (userID : Int) : IdentityProg Unit := do
  let target ← authorizedUser actor userID
  refuseIf (target.row.username = "admin") .defaultAdmin
  refuseOverreach actor target
  let now ← timeNow
  deleteUserAndRevoke userID now

end IdentityService

/-! ## `SecuritySettingsService` -/

def validSecuritySettings (v : SecuritySettings) : Prop :=
  1 ≤ v.activationLifetimeHours ∧ v.activationLifetimeHours ≤ 720 ∧
    0 ≤ v.passwordLifetimeDays ∧ v.passwordLifetimeDays ≤ 3650 ∧
    8 ≤ v.passwordMinLength ∧ v.passwordMinLength ≤ 128 ∧
    0 ≤ v.passwordHistoryCount ∧ v.passwordHistoryCount ≤ 24 ∧
    1 ≤ v.maxFailedLoginAttempts ∧ v.maxFailedLoginAttempts ≤ 100 ∧
    1 ≤ v.lockoutDurationMinutes ∧ v.lockoutDurationMinutes ≤ 10080 ∧
    1 ≤ v.sessionIdleMinutes ∧ v.sessionIdleMinutes ≤ 10080 ∧
    1 ≤ v.sessionAbsoluteMinutes ∧ v.sessionAbsoluteMinutes ≤ 43200 ∧
    v.sessionIdleMinutes ≤ v.sessionAbsoluteMinutes

instance (v : SecuritySettings) : Decidable (validSecuritySettings v) := by
  unfold validSecuritySettings
  infer_instance

def updateSettings (actor : Principal) (settings : SecuritySettings) : IdentityProg Unit := do
  refuseIf (actor.role ≠ .systemAdmin) .forbidden
  refuseIf (¬ validSecuritySettings settings) .invalidIdentity
  updateSecuritySettings settings

end

/-! ## Operations -/

inductive IdentityOp where
  | initializeAdmin (password : String)
  | login (username password : String) (remoteIPs : List String)
  | authenticate (token : String)
  | logout (token : String)
  | activate (code password : String)
  | changePassword (principal : Principal) (sessionToken currentPassword newPassword : String)
  | createTenant (actor : Principal) (name : String)
  | setTenantStatus (actor : Principal) (tenantID : Int) (status : UserStatus)
  | createUser (actor : Principal) (req : IdentityService.CreateUserRequest)
  | regenerateActivation (actor : Principal) (userID : Int)
  | unlockUser (actor : Principal) (userID : Int)
  | forceLogout (actor : Principal) (userID : Int)
  | forcePasswordChange (actor : Principal) (userID : Int)
  | setUserStatus (actor : Principal) (userID : Int) (status : UserStatus)
  | resetPassword (actor : Principal) (userID : Int) (password : String)
  | deleteUser (actor : Principal) (userID : Int)
  | updateSettings (actor : Principal) (settings : SecuritySettings)
  deriving DecidableEq

/-- The program with another result. -/
def mapResult {A : Type} (f : A → IdentityResult) (p : IdentityProg A) :
    IdentityProg IdentityResult :=
  p >>= fun a => pure (f a)

def IdentityOp.code [Credentials] (auth : AuthService) : IdentityOp → IdentityProg IdentityResult
  | .initializeAdmin password =>
    mapResult (fun _ => .done) (AuthService.initializeAdmin password)
  | .login username password remoteIPs =>
    mapResult .loggedIn (auth.login username password remoteIPs)
  | .authenticate token => mapResult .admitted (auth.authenticate token)
  | .logout token => mapResult (fun _ => .done) (AuthService.logout token)
  | .activate code password => mapResult (fun _ => .done) (AuthService.activate code password)
  | .changePassword principal sessionToken currentPassword newPassword =>
    mapResult (fun _ => .done)
      (AuthService.changePassword principal sessionToken currentPassword newPassword)
  | .createTenant actor name => mapResult (fun _ => .done) (IdentityService.createTenant actor name)
  | .setTenantStatus actor tenantID status =>
    mapResult (fun _ => .done) (IdentityService.setTenantStatus actor tenantID status)
  | .createUser actor req => mapResult (fun _ => .done) (IdentityService.createUser actor req)
  | .regenerateActivation actor userID =>
    mapResult (fun _ => .done) (IdentityService.regenerateActivation actor userID)
  | .unlockUser actor userID => mapResult (fun _ => .done) (IdentityService.unlockUser actor userID)
  | .forceLogout actor userID =>
    mapResult (fun _ => .done) (IdentityService.forceLogout actor userID)
  | .forcePasswordChange actor userID =>
    mapResult (fun _ => .done) (IdentityService.forcePasswordChange actor userID)
  | .setUserStatus actor userID status =>
    mapResult (fun _ => .done) (IdentityService.setUserStatus actor userID status)
  | .resetPassword actor userID password =>
    mapResult (fun _ => .done) (IdentityService.resetPassword actor userID password)
  | .deleteUser actor userID => mapResult (fun _ => .done) (IdentityService.deleteUser actor userID)
  | .updateSettings actor settings =>
    mapResult (fun _ => .done) (Identity.updateSettings actor settings)

abbrev IdentityCall :=
  Call IdentityOp IdentityState IdentityInput (Except IdentityError IdentityResult)

/-- The console with any number of operations under way. -/
abbrev IdentityServer :=
  Server IdentityOp IdentityState IdentityInput (Except IdentityError IdentityResult)

abbrev IdentityEvent := PoolEvent IdentityOp IdentityInput

def IdentityServer.step [Credentials] (auth : AuthService) (v : IdentityServer)
    (e : IdentityEvent) : IdentityServer :=
  Server.step (fun op => op.code auth) v e

end KubeSentry.Identity
