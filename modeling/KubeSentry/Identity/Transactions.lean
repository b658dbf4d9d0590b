import KubeSentry.Identity.Steps

/-!
# The transactions of the identity repository

`Makes does good p` is the rule for programs: among operations that lead from a state to
`Later` ones, every call of `p` is a step of `does`, and every value that `p` returns is
`good`.

Every transaction but `LoginSucceeded` is `Quiet`; that one `Follows`, and opens the one
session it is called with.
-/

namespace KubeSentry.Identity

open GoLib Fallible IdentityRepo

/-! ## Rules -/

structure Makes {A : Type} (does : IdentityState → IdentityState → Prop) (good : A → Prop)
    (p : IdentityProg A) : Prop where
  ensures : ∀ s0, Ensures Later Any does (fun _ a => good a) Any s0 p

namespace Makes

variable {A B : Type} {does does' : IdentityState → IdentityState → Prop} {good : B → Prop}
  {mid : A → Prop} {p : IdentityProg A} {c : Prop} {err : IdentityError}

theorem seq {f : A → IdentityProg B} (hp : Makes does mid p)
    (hf : ∀ a, mid a → Makes does good (f a)) : Makes does good (p >>= f) :=
  ⟨fun s0 => ensures_try (hp.ensures s0) fun s a ha => (hf a ha).ensures s⟩

theorem guard [Decidable c] {f : Unit → IdentityProg B} (hf : ¬ c → Makes does good (f ())) :
    Makes does good (refuseIf c err >>= f) :=
  ⟨fun s0 => ensures_guard fun hc => (hf hc).ensures s0⟩

theorem fail : Makes does good (Fallible.fail err) := ⟨fun _ => ensures_fail trivial⟩

theorem pure {b : B} (hb : good b) : Makes does good (Pure.pure b) := ⟨fun _ => ensures_pure hb⟩

theorem ite [Decidable c] {p q : IdentityProg B} (hp : c → Makes does good p)
    (hq : ¬ c → Makes does good q) : Makes does good (if c then p else q) :=
  ⟨fun s0 => ensures_ite (fun hc => (hp hc).ensures s0) fun hc => (hq hc).ensures s0⟩

theorem refuse [Decidable c] : Makes does (fun _ => True) (refuseIf c err) :=
  .ite (fun _ => .fail) fun _ => .pure trivial

theorem mapError {f : IdentityError → IdentityError} {p : IdentityProg B}
    (hp : Makes does good p) : Makes does good (Fallible.mapError f p) :=
  ⟨fun s0 => ensures_mapError (hp.ensures s0)⟩

theorem mono {p : IdentityProg B} (hp : Makes does good p) (h : ∀ s s', does s s' → does' s s') :
    Makes does' good p :=
  ⟨fun s0 => Prog.ensures_weaken (fun _ _ => id) h (fun _ _ => id) (hp.ensures s0)⟩

theorem attempt {f : Except IdentityError A → IdentityProg B} (hp : Makes does mid p)
    (hok : ∀ a, mid a → Makes does good (f (.ok a)))
    (herror : ∀ err, Makes does good (f (.error err))) :
    Makes does good (Fallible.attempt p >>= f) :=
  ⟨fun s0 => ensures_attempt (hp.ensures s0) (fun s a ha => (hok a ha).ensures s)
    fun s err _ => (herror err).ensures s⟩

variable {post : IdentityState → B → Prop} {bad : IdentityState → IdentityError → Prop}

/-- A part whose errors do not matter, and what follows. -/
theorem andThen {ok : IdentityState → IdentityInput → Prop} {f : A → IdentityProg B}
    {s0 : IdentityState} (hp : Makes does mid p)
    (hf : ∀ s a, mid a → Ensures Later ok does post bad s (f a))
    (hbad : ∀ s err, bad s err := by exact fun _ _ => trivial) :
    Ensures Later ok does post bad s0 (p >>= f) := by
  have hcalls : Ensures Later ok does (fun _ a => mid a) Any s0 p :=
    Prog.ensures_of_ok (fun _ _ _ => trivial) (hp.ensures s0)
  exact ensures_try (ensures_mono hcalls (fun _ _ h => h) fun s err _ => hbad s err) hf

theorem of_ensures {p : IdentityProg B} (h : ∀ s0, Ensures Later Any does post bad s0 p) :
    Makes does (fun _ => True) p :=
  ⟨fun s0 => ensures_mono (h s0) (fun _ _ _ => trivial) fun _ _ _ => trivial⟩

theorem attempted (hp : Makes does mid p) : Makes does (fun _ => True)
      (Fallible.attempt p : IdentityProg (Except IdentityError A)) := by
  refine ⟨fun s0 => Prog.ensures_bind (Prog.ensures_mono ?_ (hp.ensures s0))⟩
  intro s r _
  exact trivial

end Makes

/-- The program makes quiet steps. -/
abbrev Quietly [Credentials] {A : Type} (spared : Session → String → Prop) (p : IdentityProg A) :
    Prop :=
  Makes (Quiet spared) (fun _ => True) p

/-! ## Calls -/

/-- What the calls of a program have found and left. -/
abbrev Past := List (IdentityState × IdentityState)

variable [Credentials] {spared : Session → String → Prop} {A : Type}
  {ok : IdentityState → IdentityInput → Prop} {bad : IdentityState → IdentityError → Prop}
  {f : IdentityState → IdentityInput → Except IdentityError A} {s0 s : IdentityState} {userID : Int}
  {passwordHash : String}

/-- A call that writes nothing.  It takes place in `s.tick i.elapsed`, which is later than
all that the program has seen. -/
theorem ensures_compute {good : IdentityState → A → Prop}
    (hgood : ∀ s i a, ok s i → Later s0 (s.tick i.elapsed) → f (s.tick i.elapsed) i = .ok a →
      good (s.tick i.elapsed) a) (hbad : ∀ s i err, ok s i → Later s0 (s.tick i.elapsed) →
      f (s.tick i.elapsed) i = .error err → bad (s.tick i.elapsed) err) :
    Ensures Later ok (Quiet spared) good bad s0 (compute f) := by
  refine Prog.ensures_atomic fun s i hlater hok => ?_
  have hquiet : Quiet spared s (s.tick i.elapsed) := quiet_tick s i.elapsed
  have hnow := hlater.trans hquiet.1.later
  refine ⟨hquiet, ?_⟩
  cases hresult : f (s.tick i.elapsed) i with
  | ok a => exact hgood s i a hok hnow hresult
  | error err => exact hbad s i err hok hnow hresult

/-- A call that writes nothing, and what follows: a fact that time keeps is still there. -/
theorem ensures_pass {B : Type} {good : IdentityState → B → Prop} {g : A → IdentityProg B}
    {P : IdentityState → Prop} (h : P s0) (hstable : ∀ s s', P s → Later s s' → P s')
    (hbad : ∀ s err, P s → bad s err)
    (hg : ∀ s a, P s → Ensures Later ok (Quiet spared) good bad s (g a)) :
    Ensures Later ok (Quiet spared) good bad s0 (compute f >>= g) := by
  have hcall : Ensures Later ok (Quiet spared) (fun s _ => P s) bad s0 (compute f) :=
    ensures_compute (fun _ _ _ _ hlater _ => hstable _ _ h hlater)
      fun _ _ _ _ hlater _ => hbad _ _ (hstable _ _ h hlater)
  exact ensures_try hcall hg

variable {past : Past}

omit [Credentials] in
/-- The same with the history of the program. -/
theorem along_compute {good : Past → IdentityState → IdentityState → Prop} {fine : Past → A → Prop}
    {bad : Past → IdentityError → Prop} (htick : ∀ s elapsed, good past s (s.tick elapsed))
    (hfine : ∀ s i a, ok s i → f (s.tick i.elapsed) i = .ok a →
      fine (past ++ [(s, s.tick i.elapsed)]) a)
    (hbad : ∀ s i err, ok s i → f (s.tick i.elapsed) i = .error err →
      bad (past ++ [(s, s.tick i.elapsed)]) err) :
    Along Later ok good fine bad past (compute f) := by
  intro s i _ hok
  refine ⟨htick s i.elapsed, ?_⟩
  show Prog.Along Later ok good _ _ (Prog.ret (f (s.tick i.elapsed) i))
  cases hresult : f (s.tick i.elapsed) i with
  | ok a => exact hfine s i a hok hresult
  | error err => exact hbad s i err hok hresult

theorem makes_compute {good : A → Prop} (hgood : ∀ s i a, f s i = .ok a → good a) :
    Makes (Quiet spared) good (compute f) :=
  ⟨fun _ => ensures_compute (fun _ i a _ _ h => hgood _ i a h) fun _ _ _ _ _ _ => trivial⟩

theorem makes_read : Quietly spared (compute f) := makes_compute fun _ _ _ _ => trivial

section

variable {A : Type} {does : IdentityState → IdentityState → Prop}
  {f : IdentityState → Except IdentityError (IdentityState × A)}
  {ok : IdentityState → IdentityInput → Prop}

omit [Credentials] in
/-- A transaction takes place in `s.tick i.elapsed`, or fails. -/
theorem ensures_transaction {good : IdentityState → A → Prop}
    {bad : IdentityState → IdentityError → Prop} {s0 : IdentityState}
    (htick : ∀ s elapsed, does s (s.tick elapsed))
    (hof : ∀ s s' elapsed, does (s.tick elapsed) s' → does s s')
    (hgood : ∀ s i s' a, ok s i → Later s0 (s.tick i.elapsed) →
      f (s.tick i.elapsed) = .ok (s', a) → does (s.tick i.elapsed) s' ∧ good s' a)
    (hbad : ∀ s i err, ok s i → Later s0 (s.tick i.elapsed) →
      (∃ text, err = .database text) ∨ f (s.tick i.elapsed) = .error err →
        bad (s.tick i.elapsed) err) :
    Ensures Later ok does good bad s0 (transaction f) := by
  refine Prog.ensures_atomic fun s i hlater hok => ?_
  have hnow : Later s0 (s.tick i.elapsed) := hlater.trans (later_tick s i.elapsed)
  unfold performed
  split
  · rename_i text _
    exact ⟨htick s i.elapsed, hbad s i _ hok hnow (.inl ⟨text, rfl⟩)⟩
  · split
    · rename_i err hresult
      exact ⟨htick s i.elapsed, hbad s i err hok hnow (.inr hresult)⟩
    · rename_i s' a hresult
      obtain ⟨hdoes, hpost⟩ := hgood s i s' a hok hnow hresult
      exact ⟨hof s s' i.elapsed hdoes, hpost⟩

omit [Credentials] in
theorem along_transaction {good : Past → IdentityState → IdentityState → Prop}
    {fine : Past → A → Prop} {bad : Past → IdentityError → Prop}
    (htick : ∀ s elapsed, good past s (s.tick elapsed))
    (hfine : ∀ s i s' a, ok s i → f (s.tick i.elapsed) = .ok (s', a) →
      good past s s' ∧ fine (past ++ [(s, s')]) a)
    (hbad : ∀ s i err, ok s i → bad (past ++ [(s, s.tick i.elapsed)]) err) :
    Along Later ok good fine bad past (transaction f) := by
  intro s i _ hok
  show good past s (performed f s i).1 ∧ Prog.Along Later ok good _
    (past ++ [(s, (performed f s i).1)]) (Prog.ret (performed f s i).2)
  unfold performed
  split
  · exact ⟨htick s i.elapsed, hbad s i _ hok⟩
  · split
    · exact ⟨htick s i.elapsed, hbad s i _ hok⟩
    · rename_i s' a hresult
      exact hfine s i s' a hok hresult

omit [Credentials] in
theorem makes_transaction (htick : ∀ s elapsed, does s (s.tick elapsed))
    (hof : ∀ s s' elapsed, does (s.tick elapsed) s' → does s s')
    (hf : ∀ s s' a, f s = .ok (s', a) → does s s') : Makes does (fun _ => True) (transaction f) :=
  ⟨fun _ => ensures_transaction htick hof (fun _ _ s' a _ _ h => ⟨hf _ s' a h, trivial⟩)
    fun _ _ _ _ _ _ => trivial⟩

end

theorem ensures_execute {good : IdentityState → Unit → Prop}
    {f : IdentityState → Except IdentityError IdentityState}
    (hgood : ∀ s i s', ok s i → Later s0 (s.tick i.elapsed) → f (s.tick i.elapsed) = .ok s' →
      Quiet spared (s.tick i.elapsed) s' ∧ good s' ())
    (hbad : ∀ s i err, ok s i → Later s0 (s.tick i.elapsed) → (∃ text, err = .database text) ∨
      f (s.tick i.elapsed) = .error err → bad (s.tick i.elapsed) err := by
        exact fun _ _ _ _ _ _ => trivial) :
    Ensures Later ok (Quiet spared) good bad s0 (execute f) := by
  refine ensures_transaction quiet_tick (fun _ _ _ h => h.of_tick) ?_ ?_
  · intro s i s' a hok hlater h
    exact hgood s i s' hok hlater (execute_ok h)
  · intro s i err hok hlater h
    refine hbad s i err hok hlater (h.imp id fun herror => ?_)
    cases hresult : f (s.tick i.elapsed) with
    | ok s1 =>
      rw [hresult] at herror
      cases herror
    | error err' =>
      rw [hresult] at herror
      cases herror
      rfl

theorem makes_execute {f : IdentityState → Except IdentityError IdentityState}
    (hf : ∀ s s', f s = .ok s' → Quiet spared s s') : Quietly spared (execute f) :=
  makes_transaction quiet_tick (fun _ _ _ h => h.of_tick) fun s s' _ h => hf s s' (execute_ok h)

/-- A part that opens no session, and what follows: a fact that the history keeps as it
grows. -/
theorem along_quiet {B : Type} {good : Past → IdentityState → IdentityState → Prop}
    {fine : Past → B → Prop} {p : IdentityProg A} {f : A → IdentityProg B} {P : Past → Prop}
    (hgood : ∀ past s s', NoneOpened s s' → good past s s')
    (happend : ∀ past c, P past → P (past ++ [c])) (hP : P past)
    (hp : Makes (Quiet fun _ _ => False) (fun _ => True) p)
    (hf : ∀ past a, P past → Along Later ok good fine Any past (f a)) :
    Along Later ok good fine Any past (p >>= f) := by
  have hcalls : ∀ s0, Ensures Later ok (Quiet fun _ _ => False) Any Any
      s0 p := fun s0 => Prog.ensures_of_ok (fun _ _ _ => trivial) (hp.ensures s0)
  exact along_pass Later.refl (fun past s s' h => hgood past s s' h.2) happend hP hcalls
    (fun _ _ _ => trivial) hf

theorem makes_timeNow : Quietly spared timeNow := makes_read

theorem makes_newSessionToken : Quietly spared newSessionToken := makes_read

theorem makes_query {f : IdentityState → Except IdentityError A} : Quietly spared (query f) :=
  makes_read

theorem makes_queryActive {f : IdentityState → Option A} : Quietly spared (queryActive f) :=
  makes_read

theorem makes_getUser (id : Int) :
    Makes (Quiet spared) (fun user => user.id = id) (getUser id) := by
  unfold getUser query
  refine makes_compute fun s i user h => ?_
  exact (Table.lookup_some (first_ok (query_ok (f := fun s => first (s.users.byID id)) h))).2

theorem makes_generateFromPassword (password : String) :
    Makes (Quiet spared) (Generated password) (generateFromPassword password) :=
  makes_compute fun _ i _ h => ⟨i.salt, generate_ok h⟩

/-! ## Transactions -/

theorem makes_createTenant (tenant : Tenant) :
    Quietly spared (IdentityRepo.createTenant tenant) := by
  refine makes_execute fun s s' h => ?_
  cases hinsert : s.tenants.insert 0 tenant with
  | none =>
    rw [hinsert] at h
    cases h
  | some tenants =>
    rw [hinsert] at h
    cases h
    refine ⟨.of_users ⟨le_rfl, .refl _, .refl _⟩ id (fun userID hlive => ?_) (fun _ _ h => h),
      fun _ => not_opens_self⟩
    obtain ⟨u, hu, hid, hactive, htenant⟩ := hlive
    refine ⟨u, hu, hid, hactive, fun id heq => ?_⟩
    obtain ⟨t, ht, htid⟩ := htenant id heq
    refine ⟨t, ?_, htid⟩
    rw [(RowStore.rows_insert hinsert).1]
    exact List.mem_append_left _ ht

omit [Credentials] in
theorem insertToken_some {s' : IdentityState} {token : UserActivationToken}
    (h : s.insertToken token = .ok s') : s' = { s with tokens := s.tokens ++ [token] } := by
  unfold IdentityState.insertToken at h
  split at h
  · cases h
  · cases h
    rfl

theorem quiet_insertUser {user : User} {users : RowStore userKeys}
    (h : s.users.insert 0 user = some users) : Quiet spared s { s with users := users } := by
  have hrows := (RowStore.rows_insert h).1
  have hold : ∀ u ∈ s.users.rows, u ∈ users.rows := by
    intro u hu
    rw [hrows]
    exact List.mem_append_left _ hu
  have hlater : UsersLater s.users users := by
    refine ⟨?_, fun u' hu' => ?_⟩
    · rw [RowStore.nextID_insert h]
      omega
    · rw [hrows] at hu'
      rcases List.mem_append.mp hu' with hu | hnew
      · exact .inr ⟨u', hu, rfl, rfl⟩
      · rw [List.mem_singleton.mp hnew]
        exact .inl le_rfl
  refine ⟨.of_users ⟨le_rfl, .refl _, hlater⟩ ?_ ?_ ?_, fun _ => not_opens_self⟩
  · intro hadmin
    obtain ⟨u, hu, henabled⟩ := hadmin
    exact ⟨u, hold u hu, henabled⟩
  · intro userID hlive
    obtain ⟨u, hu, hactive⟩ := hlive
    exact ⟨u, hold u hu, hactive⟩
  · intro password userID hmatches
    obtain ⟨u, hu, hmatch⟩ := hmatches
    exact ⟨u, hold u hu, hmatch⟩

theorem makes_createUserWithActivation (user : User) (tokenHash : String) (expiresAt : Time) :
    Quietly spared (createUserWithActivation user tokenHash expiresAt) := by
  refine makes_execute fun s s' h => ?_
  cases hinsert : s.users.insert 0 user with
  | none =>
    rw [hinsert] at h
    cases h
  | some users =>
    rw [hinsert] at h
    rw [insertToken_some h]
    exact (quiet_insertUser hinsert).and_more rfl rfl rfl rfl

theorem makes_replaceActivationToken (userID : Int) (tokenHash : String) (expiresAt at' : Time) :
    Quietly spared (replaceActivationToken userID tokenHash expiresAt at') := by
  refine makes_execute fun s s' h => ?_
  rw [insertToken_some h]
  exact .of_eq le_rfl rfl rfl rfl

variable {at' : Time}

theorem makes_activateUser {tokenHash : String} (hset : passwordHash ≠ "") :
    Quietly spared (activateUser userID tokenHash passwordHash at') := by
  refine makes_execute fun s s' h => ?_
  split at h
  · cases h
  · split at h
    · cases h
    · rename_i user huser
      split at h
      · rename_i hfresh
        cases h
        have hupdated : Quiet spared s
            (s.updateUser userID (User.withPassword passwordHash at') fun _ => rfl) := by
          refine quiet_updateUser _ (fun _ => rfl) (fun _ => rfl) (fun _ => rfl)
            (fun _ _ => hset) ?_
          intro u hu hid hhash
          obtain ⟨hmem, huid⟩ := Table.lookup_some huser
          rw [s.users.eq_of_id hu hmem (hid.trans huid.symm)] at hhash
          exact absurd hfresh.2 hhash
        exact hupdated.and_more rfl rfl rfl rfl
      · cases h

/-- An update that leaves all that the sessions depend on. -/
theorem makes_updateUser {f : User → User} (hf : ∀ u, (f u).username = u.username)
    (hrole : ∀ u, (f u).role = u.role) (hstatus : ∀ u, (f u).status = u.status)
    (htenant : ∀ u, (f u).tenantID = u.tenantID)
    (hhash : ∀ u, (f u).passwordHash = u.passwordHash) :
    Quietly spared (execute fun s => .ok (s.updateUser userID f hf)) := by
  refine makes_execute fun s s' h => ?_
  cases h
  exact quiet_updateUser hf hrole hstatus htenant (fun u h => hhash u ▸ h)
    fun u _ _ _ => hhash u.row

theorem makes_recordLoginFailure (userID maxAttempts lockoutMinutes : Int) (at' : Time) :
    Quietly spared (recordLoginFailure userID maxAttempts lockoutMinutes at') := by
  refine makes_execute fun s s' h => ?_
  split at h
  · cases h
  · cases h
    exact quiet_updateUser _ (fun _ => rfl) (fun _ => rfl) (fun _ => rfl) (fun _ h => h)
      fun _ _ _ _ => rfl

theorem makes_initializeAdmin (hset : passwordHash ≠ "") (at' : Time) :
    Quietly spared (IdentityRepo.initializeAdmin passwordHash at') := by
  refine makes_transaction quiet_tick (fun _ _ _ h => h.of_tick) fun s s' won h => ?_
  split at h
  · cases h
  · rename_i admin hadmin
    split at h
    · cases h
      exact .of_eq le_rfl rfl rfl rfl
    · rename_i hempty
      cases h
      have hmem := List.mem_of_find?_eq_some hadmin
      have hupdated : Quiet spared s (s.updateUser admin.id (fun u =>
          { u with passwordHash := passwordHash, passwordChangedAt := some at' })
          fun _ => rfl) := by
        refine quiet_updateUser _ (fun _ => rfl) (fun _ => rfl) (fun _ => rfl) (fun _ _ => hset) ?_
        intro u hu hid hhash
        rw [s.users.eq_of_id hu hmem hid] at hhash
        exact absurd hhash hempty
      exact hupdated.and_more rfl rfl rfl rfl

theorem quiet_touch (s : IdentityState) (id : Int) (at' : Time) :
    Quiet spared s (s.touch id at') := by
  refine .of_sessions le_rfl rfl rfl rfl fun r => ?_
  split
  · exact ⟨rfl, rfl, rfl, rfl, rfl, fun h => h⟩
  · exact ⟨rfl, .refl _⟩

theorem makes_touchSession (id : Int) (at' : Time) : Quietly spared (touchSession id at') := by
  refine makes_execute fun s s' h => ?_
  cases h
  exact quiet_touch s id at'

theorem makes_revokeSession (id : Int) (at' : Time) : Quietly spared (revokeSession id at') := by
  refine makes_execute fun s s' h => ?_
  cases h
  exact quiet_revoke _ _ _

theorem quiet_changePassword {password : String} (hset : Generated password passwordHash)
    {keepSessionID : Option Int}
    (hkept : ∀ r ∈ s.sessions.rows, some r.id = keepSessionID → spared r.row password) :
    Quiet spared s (s.changePassword userID passwordHash keepSessionID at') := by
  have hf : ∀ u, (User.withPassword passwordHash at' u).username = u.username := fun _ => rfl
  obtain ⟨g, hrows, hg⟩ := revoke_map ((s.updateUser userID (User.withPassword passwordHash at')
    hf).addHistory userID passwordHash)
    (fun r => r.row.userID = userID && r.row.revokedAt.isNone && some r.id != keepSessionID) at'
  have hadmins : s.HasAdmin →
      (s.updateUser userID (User.withPassword passwordHash at') hf).HasAdmin :=
    hasAdmin_updateUser hf fun _ hrole hstatus _ => ⟨hrole, hstatus, hset.ne_empty⟩
  refine ⟨⟨⟨le_rfl, sessionsLater_of_map hrows hg, usersLater_updateUser hf fun _ => rfl⟩, hadmins,
    fun r' _ _ hlive => ?_, fun r' hr' hopen old hmatch => ?_⟩,
    not_opens_of_map hrows fun r => (hg r).1⟩
  · exact userWith_updateUser hf (fun _ h => h) hlive
  · obtain ⟨hr, hsel⟩ := not_selected_of_open hr' hopen
    by_cases hown : r'.row.userID = userID
    · refine .inr ⟨password, hkept r' hr (by simpa [hopen, hown] using hsel), ?_⟩
      obtain ⟨u, hu, hid, _⟩ := hmatch
      refine ⟨_, (mem_updateUser hf).mpr ⟨u, hu, rfl⟩, ?_⟩
      rw [if_pos (hid.trans hown)]
      exact ⟨hid, hset.compare⟩
    · exact .inl (userWith_updateUser_ne hf hown hmatch)

/-! ## Logins -/

variable {s s' : IdentityState} {userID : Int} {session : Session} {at' : Time}
  {remoteIP : String} {allowConcurrent : Bool}

omit [Credentials] in
theorem endOthers_map (s : IdentityState) (userID : Int) (at' : Time) (allowConcurrent : Bool) :
    ∃ g, (s.endOthers userID at' allowConcurrent).sessions.rows = s.sessions.rows.map g ∧
      ∀ r, (g r).id = r.id ∧ SameSession r.row (g r).row := by
  unfold IdentityState.endOthers
  split
  · exact ⟨id, (List.map_id _).symm, fun r => ⟨rfl, .refl _⟩⟩
  · exact revoke_map s _ at'

variable (h : s.loginSucceeded userID session at' remoteIP allowConcurrent = .ok s')

include h

omit [Credentials] in
theorem loginSucceeded_ok :
    (∃ user, s.users.byID userID = some user) ∧
      s'.sessions.rows = (s.endOthers userID at' allowConcurrent).sessions.rows ++
        [(s.endOthers userID at' allowConcurrent).sessions.newRow 0
          { session with userID := userID }] ∧
      s'.users = (s.recordLogin userID at' remoteIP).users ∧ s'.tenants = s.tenants ∧
      s'.clock = s.clock := by
  unfold IdentityState.loginSucceeded at h
  split at h
  · cases h
  · rename_i user huser
    dsimp only at h
    split at h
    · rename_i sessions hinsert
      cases h
      refine ⟨⟨user, huser⟩, (RowStore.rows_insert hinsert).1, ?_⟩
      unfold IdentityState.endOthers
      split
      · exact ⟨rfl, rfl, rfl⟩
      · exact ⟨rfl, rfl, rfl⟩
    · cases h

omit [Credentials] in
/-- The session of the login is the only new one. -/
theorem opens_loginSucceeded {r' : Stored Session} (hopens : Opens s.sessions s'.sessions r') :
    r'.row = { session with userID := userID } := by
  obtain ⟨_, hrows, _⟩ := loginSucceeded_ok h
  obtain ⟨g, hmap, hg⟩ := endOthers_map s userID at' allowConcurrent
  have hmem := hopens.1
  rw [hrows] at hmem
  rcases List.mem_append.mp hmem with hold | hnew
  · exact absurd ⟨hold, hopens.2⟩ (not_opens_of_map hmap (fun r => (hg r).1) r')
  · rw [List.mem_singleton.mp hnew]
    rfl

theorem follows_loginSucceeded : Follows spared s s' := by
  obtain ⟨_, hrows, husers, htenants, hclock⟩ := loginSucceeded_ok h
  have hsessions : SessionsLater s.sessions s'.sessions := by
    intro r hr
    obtain ⟨g, hmap, hg⟩ := endOthers_map s userID at' allowConcurrent
    obtain ⟨r', hr', hsame⟩ := sessionsLater_of_map hmap hg r hr
    refine ⟨r', ?_, hsame⟩
    rw [hrows]
    exact List.mem_append_left _ hr'
  have hf : ∀ u, (User.afterLogin at' remoteIP u).username = u.username := fun _ => rfl
  have hlater : UsersLater s.users s'.users := by
    rw [husers]
    exact usersLater_updateUser hf fun _ => rfl
  refine .of_users ⟨le_of_eq hclock.symm, hsessions, hlater⟩ ?_ ?_ ?_
  · intro hadmin
    have hkept : (s.recordLogin userID at' remoteIP).HasAdmin :=
      hasAdmin_updateUser _ (fun _ hrole hstatus hhash => ⟨hrole, hstatus, hhash⟩) hadmin
    unfold IdentityState.HasAdmin
    rw [husers]
    exact hkept
  · intro id hlive
    have hkept : (s.recordLogin userID at' remoteIP).Live id :=
      userWith_updateUser hf (fun _ hu => hu) hlive
    unfold IdentityState.Live IdentityState.UserWith IdentityState.TenantActive
    rw [husers, htenants]
    exact hkept
  · intro password id hmatches
    have hkept : (s.recordLogin userID at' remoteIP).Matches password id :=
      userWith_updateUser hf (fun _ hu => hu) hmatches
    unfold IdentityState.Matches IdentityState.UserWith
    rw [husers]
    exact hkept

end KubeSentry.Identity
