import KubeSentry.Identity.Services

/-!
# The calls that set a password

`InitializeAdmin`, `Activate`, `ChangePassword` and `ResetPassword`, each one alone, with any
arguments, elapsed times and database errors.

`PasswordCall.outcome` says what such a call does to the tables: when it fails, nothing, and
when it succeeds, it sets the password of one user after the checks of `Checked`.  All but
the reset add the new hash to the history.

`Ends s good p` is the rule for programs alone: what they find is in the tables of `s`.
-/

namespace KubeSentry.Identity

open GoLib Fallible IdentityRepo

/-! ## Stored passwords -/

namespace IdentityState

def passwordHash (s : IdentityState) (userID : Int) : Option String :=
  (s.users.byID userID).map fun u => u.row.passwordHash

/-- The history of the user, with the newest hash first. -/
def hashesOf (s : IdentityState) (userID : Int) : List String :=
  (s.history.filter fun h => h.userID = userID).map (·.passwordHash)

/-- The password is the current one of the user. -/
def HasPassword [Credentials] (s : IdentityState) (userID : Int) (password : String) : Prop :=
  ∃ hash ∈ s.passwordHash userID, Credentials.compare hash password = true

variable {s : IdentityState} {userID : Int} {hash : String}

theorem hasPassword_iff [Credentials] (h : s.passwordHash userID = some hash) (password : String) :
    s.HasPassword userID password ↔ Credentials.compare hash password = true := by
  unfold HasPassword
  rw [h]
  simp

variable {user : Stored User}

theorem passwordHash_of_byID (h : s.users.byID userID = some user) :
    s.passwordHash userID = some user.row.passwordHash := by
  unfold passwordHash
  rw [h]
  rfl

theorem passwordHash_of_mem (h : user ∈ s.users.rows) :
    s.passwordHash user.id = some user.row.passwordHash :=
  passwordHash_of_byID (Table.lookup_of_mem s.users.ids_nodup h)

theorem passwordHash_modify {s' : IdentityState} {now : Time} {f : User → User}
    (hrows : s'.users.rows = Table.modify (fun u : Stored User => u.id) userID
      (RowStore.touched now f) s.users.rows) (hhash : ∀ u, (f u).passwordHash = hash) (id : Int) :
    s'.passwordHash id =
      if id = userID then (s.passwordHash id).map fun _ => hash else s.passwordHash id := by
  have hid : ∀ u : Stored User, u.id = userID → (RowStore.touched now f u).id = userID :=
    fun _ h => h
  unfold passwordHash RowStore.byID
  rw [hrows, Table.lookup_modify hid]
  by_cases heq : id = userID
  · rw [if_pos heq, if_pos heq, heq, Option.map_map, Option.map_map]
    refine congrArg (Option.map · _) (funext fun u => ?_)
    exact hhash u.row
  · rw [if_neg heq, if_neg heq]

end IdentityState

/-- The tables that the policy reads are as they were. -/
structure Unchanged (s s' : IdentityState) : Prop where
  users : s'.users = s.users
  history : s'.history = s.history
  settings : s'.settings = s.settings

variable {s s' : IdentityState} {userID : Int} {hash : String} {recorded : Bool}

theorem Unchanged.tick (h : Unchanged s s') (elapsed : Nat) : Unchanged s (s'.tick elapsed) :=
  ⟨h.users, h.history, h.settings⟩

theorem Unchanged.passwordHash (h : Unchanged s s') (userID : Int) :
    s'.passwordHash userID = s.passwordHash userID := by
  unfold IdentityState.passwordHash
  rw [h.users]

theorem Unchanged.hashesOf (h : Unchanged s s') (userID : Int) :
    s'.hashesOf userID = s.hashesOf userID := by
  unfold IdentityState.hashesOf
  rw [h.history]

/-- The hash of one user is a new one, and stands in the history if it is recorded. -/
structure Sets (s s' : IdentityState) (userID : Int) (hash : String) (recorded : Bool) :
    Prop where
  settings : s'.settings = s.settings
  passwordHash : ∀ id, s'.passwordHash id =
    if id = userID then (s.passwordHash id).map fun _ => hash else s.passwordHash id
  history : s'.history =
    if recorded then { userID := userID, passwordHash := hash } :: s.history else s.history

theorem Sets.passwordHash_self {old : String} (h : Sets s s' userID hash recorded)
    (hold : s.passwordHash userID = some old) : s'.passwordHash userID = some hash := by
  rw [h.passwordHash, if_pos rfl, hold]
  rfl

theorem Sets.hashesOf (h : Sets s s' userID hash recorded) (id : Int) :
    s'.hashesOf id =
      if recorded = true ∧ id = userID then hash :: s.hashesOf id else s.hashesOf id := by
  unfold IdentityState.hashesOf
  rw [h.history]
  cases recorded with
  | false => simp
  | true =>
    by_cases hid : id = userID
    · simp [hid]
    · simp [hid, Ne.symm hid]

theorem sets_of_modify {s1 : IdentityState} (h : Unchanged s s1) {now : Time} (f : User → User)
    (hhash : ∀ u, (f u).passwordHash = hash)
    (hrows : s'.users.rows = Table.modify (fun u : Stored User => u.id) userID
      (RowStore.touched now f) s1.users.rows) (hhistory : s'.history =
      if recorded then { userID := userID, passwordHash := hash } :: s1.history else s1.history)
    (hsettings : s'.settings = s1.settings) : Sets s s' userID hash recorded := by
  refine ⟨hsettings.trans h.settings, fun id => ?_, ?_⟩
  · rw [← h.passwordHash id]
    exact IdentityState.passwordHash_modify hrows hhash id
  · rw [← h.history, hhistory]

/-! ## Programs alone -/

/-- Alone, from a state that is `Unchanged` since `s`: an error changes nothing, and a value
comes with `good`. -/
structure Ends {A : Type} (s : IdentityState) (good : IdentityState → A → Prop)
    (p : IdentityProg A) : Prop where
  ensures : ∀ s0, Unchanged s s0 → Ensures (fun s s' => s' = s) Any
    Any good (fun s' _ => Unchanged s s') s0 p

/-- The program reads a value, and changes nothing. -/
def Reads {A : Type} (s : IdentityState) (found : A → Prop) (p : IdentityProg A) : Prop :=
  Ends s (fun s' a => Unchanged s s' ∧ found a) p

namespace Ends

variable {A B : Type} {s : IdentityState} {good : IdentityState → B → Prop} {found : A → Prop}
  {p : IdentityProg A}

theorem seq {f : A → IdentityProg B} (hp : Reads s found p)
    (hf : ∀ a, found a → Ends s good (f a)) : Ends s good (p >>= f) :=
  ⟨fun s0 h => ensures_try (hp.ensures s0 h) fun s' a ha => (hf a ha.2).ensures s' ha.1⟩

variable {err : IdentityError}

theorem guard {c : Prop} [Decidable c] {f : Unit → IdentityProg B} (hf : ¬ c → Ends s good (f ())) :
    Ends s good (refuseIf c err >>= f) :=
  ⟨fun s0 h => ensures_guard (fun hc => (hf hc).ensures s0 h) fun _ => h⟩

theorem fail : Ends s good (Fallible.fail err) :=
  ⟨fun _ h => ensures_fail h⟩

theorem attempt {f : Except IdentityError A → IdentityProg B} (hp : Reads s found p)
    (hok : ∀ a, found a → Ends s good (f (.ok a))) (herror : ∀ err, Ends s good (f (.error err))) :
    Ends s good (Fallible.attempt p >>= f) :=
  ⟨fun s0 h => ensures_attempt (hp.ensures s0 h) (fun s' a ha => (hok a ha.2).ensures s' ha.1)
    fun s' err h' => (herror err).ensures s' h'⟩

theorem mapError {f : IdentityError → IdentityError} {p : IdentityProg B} (hp : Ends s good p) :
    Ends s good (Fallible.mapError f p) :=
  ⟨fun s0 h => ensures_mapError (hp.ensures s0 h)⟩

theorem transaction {f : IdentityState → Except IdentityError (IdentityState × B)}
    (hf : ∀ s1 s' b, Unchanged s s1 → f s1 = .ok (s', b) → good s' b) :
    Ends s good (Identity.transaction f) := by
  refine ⟨fun s0 h => Prog.ensures_atomic fun s1 i heq _ => ⟨trivial, ?_⟩⟩
  have hnow : Unchanged s (s1.tick i.elapsed) := by
    rw [heq]
    exact h.tick i.elapsed
  unfold performed
  split
  · exact hnow
  · split
    · exact hnow
    · rename_i s' b hresult
      exact hf _ s' b hnow hresult

theorem execute {good : IdentityState → Unit → Prop}
    {f : IdentityState → Except IdentityError IdentityState}
    (hf : ∀ s1 s', Unchanged s s1 → f s1 = .ok s' → good s' ()) :
    Ends s good (Identity.execute f) := by
  exact transaction fun s1 s' _ h hresult => hf s1 s' h (execute_ok hresult)

end Ends

namespace Reads

variable {A B : Type} {s : IdentityState} {found : A → Prop} {found' : B → Prop}

theorem pure {a : A} (ha : found a) : Reads s found (Pure.pure a) :=
  ⟨fun _ h => ensures_pure ⟨h, ha⟩⟩

theorem ite {c : Prop} [Decidable c] {p q : IdentityProg A} (hp : c → Reads s found p)
    (hq : ¬ c → Reads s found q) : Reads s found (if c then p else q) :=
  ⟨fun s0 h => ensures_ite (fun hc => (hp hc).ensures s0 h) fun hc => (hq hc).ensures s0 h⟩

variable {f : IdentityState → IdentityInput → Except IdentityError A}

theorem compute (hf : ∀ s1 i a, Unchanged s s1 → f s1 i = .ok a → found a) :
    Reads s found (Identity.compute f) := by
  refine ⟨fun s0 h => Prog.ensures_atomic fun s1 i heq _ => ⟨trivial, ?_⟩⟩
  have hnow : Unchanged s (s1.tick i.elapsed) := by
    rw [heq]
    exact h.tick i.elapsed
  cases hresult : f (s1.tick i.elapsed) i with
  | ok a => exact ⟨hnow, hf _ i a hnow hresult⟩
  | error err => exact hnow

theorem any : Reads s (fun _ => True) (Identity.compute f) :=
  compute fun _ _ _ _ _ => trivial

theorem query {f : IdentityState → Except IdentityError A}
    (hf : ∀ s1 a, Unchanged s s1 → f s1 = .ok a → found a) : Reads s found (Identity.query f) := by
  exact compute fun s1 i a h hresult => hf s1 a h (query_ok hresult)

end Reads

/-! ## The calls -/

section

variable {s : IdentityState}

theorem reads_settings : Reads s (fun settings => settings = s.settings) getSecuritySettings := by
  refine .query fun s1 settings h hresult => ?_
  cases hresult
  exact h.settings

theorem reads_now : Reads s (fun _ => True) timeNow :=
  .compute fun _ _ _ _ _ => trivial

theorem reads_generated [Credentials] (password : String) :
    Reads s (Generated password) (generateFromPassword password) :=
  .compute fun _ i _ _ hresult => ⟨i.salt, generate_ok hresult⟩

theorem reads_user (id : Int) :
    Reads s (fun user => s.passwordHash id = some user.row.passwordHash ∧ user.id = id)
      (getUser id) := by
  refine .query fun s1 user h hresult => ?_
  have huser := first_ok hresult
  rw [← h.passwordHash]
  exact ⟨IdentityState.passwordHash_of_byID huser, (Table.lookup_some huser).2⟩

theorem reads_hashes (id limit : Int) (hlimit : 0 < limit) :
    Reads s (fun hashes => hashes = (s.hashesOf id).take limit.toNat)
      (listPasswordHashes id limit) := by
  unfold listPasswordHashes
  rw [if_neg (not_le.mpr hlimit)]
  refine .query fun s1 hashes h hresult => ?_
  cases hresult
  rw [List.map_take]
  show (s1.hashesOf id).take limit.toNat = _
  rw [h.hashesOf id]

theorem reads_activeSession (tokenHash : String) (now : Time) :
    Reads s (fun _ => True) (getActiveSession tokenHash now) := by
  have huser : ∀ userID, Reads s (fun _ => True) (activeUser userID) := by
    intro userID
    unfold activeUser queryActive
    exact .any
  have htenant : ∀ tenantID, Reads s (fun _ => True) (checkTenant tenantID) := by
    intro tenantID
    unfold checkTenant queryActive
    cases tenantID with
    | none => exact .pure trivial
    | some id => exact .any
  unfold getActiveSession IdentityRepo.liveSession
  exact .seq .any fun session _ => .seq (huser _) fun user _ => .seq (htenant _) fun _ _ =>
    Reads.pure trivial

theorem reads_keptSession [Credentials] (sessionToken : String) (userID : Int) :
    Reads s (fun _ => True) (AuthService.keptSession sessionToken userID) := by
  refine .ite (fun _ => .pure trivial) fun _ => ?_
  refine .seq .any fun now _ => .attempt (reads_activeSession _ now) (fun session _ => ?_)
    fun _ => .fail
  exact .guard fun _ => Reads.pure trivial

theorem reads_authorizedUser (actor : Principal) (userID : Int) :
    Reads s (fun _ => True) (IdentityService.authorizedUser actor userID) :=
  .guard fun _ => .seq (.mapError (reads_user userID)) fun _ _ => .guard fun _ => Reads.pure trivial

end

/-! ## What a call writes -/

inductive PasswordCall where
  | initializeAdmin (password : String)
  | activate (code password : String)
  | changePassword (principal : Principal) (sessionToken currentPassword newPassword : String)
  | resetPassword (actor : Principal) (userID : Int) (password : String)

namespace PasswordCall

def code [Credentials] : PasswordCall → IdentityProg Unit
  | .initializeAdmin password => AuthService.initializeAdmin password
  | .activate code password => AuthService.activate code password
  | .changePassword principal sessionToken currentPassword newPassword =>
    AuthService.changePassword principal sessionToken currentPassword newPassword
  | .resetPassword actor userID password => IdentityService.resetPassword actor userID password

/-- The password that the call sets. -/
def password : PasswordCall → String
  | .initializeAdmin password => password
  | .activate _ password => password
  | .changePassword _ _ _ newPassword => newPassword
  | .resetPassword _ _ password => password

def isReset : PasswordCall → Bool
  | .resetPassword _ _ _ => true
  | _ => false

/-- What the call has checked before it sets the password of the user, whose hash was
`old`. -/
def Checked [Credentials] (s : IdentityState) (userID : Int) (old : String) :
    PasswordCall → Prop
  | .initializeAdmin password => requiredLength s.settings ≤ byteLength password ∧ old = ""
  | .activate _ password => requiredLength s.settings ≤ byteLength password ∧ old = ""
  | .changePassword principal _ _ newPassword =>
    requiredLength s.settings ≤ byteLength newPassword ∧ principal.userID = userID ∧
      (0 < s.settings.passwordHistoryCount → passwordWasUsed newPassword
        ((s.hashesOf userID).take s.settings.passwordHistoryCount.toNat ++ [old]) = false)
  | .resetPassword _ target _ => target = userID

def Writes [Credentials] (c : PasswordCall) (s s' : IdentityState) : Prop :=
  ∃ userID old hash salt, s.passwordHash userID = some old ∧
    Credentials.generate c.password salt = some hash ∧ c.Checked s userID old ∧
    Sets s s' userID hash (!c.isReset)

end PasswordCall

variable [Credentials] {s : IdentityState}

theorem ends_initializeAdmin (password : String) :
    Ends s (fun s' _ => (PasswordCall.initializeAdmin password).Writes s s')
      (AuthService.initializeAdmin password) := by
  refine .seq reads_settings fun settings hsettings => .guard fun hlength => ?_
  refine .seq (reads_generated password) fun hash ⟨salt, hgenerate⟩ =>
    .seq reads_now fun now _ => ?_
  have hcall : Ends s (fun s' won => if won = true then
      (PasswordCall.initializeAdmin password).Writes s s' else Unchanged s s')
      (IdentityRepo.initializeAdmin hash now) := by
    refine .transaction fun s1 s' won h hresult => ?_
    split at hresult
    · cases hresult
    · rename_i admin hadmin
      split at hresult
      · cases hresult
        exact h
      · rename_i hempty
        cases hresult
        have hold : s.passwordHash admin.id = some "" := by
          have hmem := List.mem_of_find?_eq_some hadmin
          rw [← h.passwordHash, IdentityState.passwordHash_of_mem hmem, not_not.mp hempty]
        rw [hsettings] at hlength
        refine ⟨admin.id, "", hash, salt, hold, hgenerate, ⟨not_lt.mp hlength, rfl⟩, ?_⟩
        exact sets_of_modify h
          (fun u => { u with passwordHash := hash, passwordChangedAt := some now })
          (fun _ => rfl) rfl rfl rfl
  refine ⟨fun s0 h => ensures_try (hcall.ensures s0 h) fun s' won hwon => ?_⟩
  cases won with
  | true => exact hwon
  | false => exact hwon

theorem ends_activate (code password : String) :
    Ends s (fun s' _ => (PasswordCall.activate code password).Writes s s')
      (AuthService.activate code password) := by
  refine .seq reads_settings fun settings hsettings => .guard fun hlength => ?_
  refine .attempt (.query fun _ _ _ _ => trivial) (fun token _ => ?_) fun _ => .fail
  refine .seq reads_now fun now _ => .guard fun _ => ?_
  refine .seq (reads_generated password) fun hash ⟨salt, hgenerate⟩ =>
    .seq reads_now fun at' _ => ?_
  refine .mapError (.execute fun s1 s' h hresult => ?_)
  split at hresult
  · cases hresult
  · split at hresult
    · cases hresult
    · rename_i user huser
      split at hresult
      · rename_i hready
        cases hresult
        have hold : s.passwordHash token.userID = some "" := by
          rw [← h.passwordHash, IdentityState.passwordHash_of_byID huser, hready.2]
        rw [hsettings] at hlength
        refine ⟨token.userID, "", hash, salt, hold, hgenerate, ⟨not_lt.mp hlength, rfl⟩, ?_⟩
        exact sets_of_modify h (User.withPassword hash at') (fun _ => rfl) rfl rfl rfl
      · cases hresult

theorem reads_refuseReused (user : Stored User) (newPassword : String) :
    Reads s (fun _ => 0 < s.settings.passwordHistoryCount → passwordWasUsed newPassword
        ((s.hashesOf user.id).take s.settings.passwordHistoryCount.toNat ++
          [user.row.passwordHash]) = false)
      (AuthService.refuseReused user newPassword s.settings) := by
  refine .ite (fun hcount => ?_) fun hcount => .pure fun h => absurd h hcount
  refine .seq (reads_hashes user.id _ hcount) fun hashes hhashes => ?_
  refine Reads.ite (fun _ => .fail) fun hunused => .pure fun _ => ?_
  rw [← hhashes]
  exact Bool.eq_false_iff.mpr hunused

theorem ends_changePassword (principal : Principal)
    (sessionToken currentPassword newPassword : String) :
    Ends s (fun s' _ => (PasswordCall.changePassword principal sessionToken currentPassword
        newPassword).Writes s s')
      (AuthService.changePassword principal sessionToken currentPassword newPassword) := by
  refine .seq reads_settings fun settings hsettings => ?_
  rw [hsettings]
  refine .seq (reads_user principal.userID) fun user ⟨hold, huser⟩ => .guard fun _ =>
    .guard fun hlength => .seq (reads_refuseReused user newPassword) fun _ hunused => ?_
  refine .seq (reads_generated newPassword) fun hash ⟨salt, hgenerate⟩ =>
    .seq (reads_keptSession sessionToken user.id) fun keepSessionID _ => .seq reads_now fun now _ =>
      .execute fun s1 s' h hresult => ?_
  cases hresult
  rw [← huser] at hold
  refine ⟨user.id, user.row.passwordHash, hash, salt, hold, hgenerate,
    ⟨not_lt.mp hlength, huser.symm, hunused⟩, ?_⟩
  exact sets_of_modify h (User.withPassword hash now) (fun _ => rfl) rfl rfl rfl

theorem ends_resetPassword (actor : Principal) (userID : Int) (password : String) :
    Ends s (fun s' _ => (PasswordCall.resetPassword actor userID password).Writes s s')
      (IdentityService.resetPassword actor userID password) := by
  refine .seq (reads_authorizedUser actor userID) fun target _ => .guard fun _ => .guard fun _ => ?_
  refine .seq (reads_generated password) fun hash ⟨salt, hgenerate⟩ =>
    .seq reads_now fun now _ => ?_
  refine .execute fun s1 s' h hresult => ?_
  split at hresult
  · cases hresult
  · rename_i user huser
    cases hresult
    have hold : s.passwordHash userID = some user.row.passwordHash := by
      rw [← h.passwordHash, IdentityState.passwordHash_of_byID huser]
    refine ⟨userID, user.row.passwordHash, hash, salt, hold, hgenerate, rfl, ?_⟩
    exact sets_of_modify h (fun u => { u with passwordHash := hash }) (fun _ => rfl) rfl rfl rfl

/-- A call that succeeds sets one password, and a call that fails sets none. -/
theorem PasswordCall.outcome (c : PasswordCall) (s : IdentityState) (inputs : List IdentityInput) :
    Outcome (fun s' _ => c.Writes s s') (fun s' _ => Unchanged s s')
      (c.code.exec s inputs).1 (c.code.exec s inputs).2.1 := by
  have hends : Ends s (fun s' _ => c.Writes s s') c.code := by
    cases c with
    | initializeAdmin password => exact ends_initializeAdmin password
    | activate code password => exact ends_activate code password
    | changePassword principal sessionToken currentPassword newPassword =>
      exact ends_changePassword principal sessionToken currentPassword newPassword
    | resetPassword actor userID password => exact ends_resetPassword actor userID password
  exact (hends.ensures s ⟨rfl, rfl, rfl⟩).exec inputs

end KubeSentry.Identity
