import KubeSentry.Operator.ApiServer

/-!
# The exception reconciler

`internal/operator/exception_reconciler.go`: the lifecycle of a
`PolicyException` on a member cluster.

A reconcile reads the object, decides on its phase, and writes the status or
deletes the object.  It returns the exceptions of the member afterwards
together with the result for the controller runtime; the two are separate
because a write can precede an error.  The clock is read several times in one
reconcile of the source and once here.
-/

namespace KubeSentry.Operator

open GoLib

/-- `ctrl.Result`. -/
structure ReconcileResult where
  requeue : Bool := false
  requeueAfter : Option Int := none
  deriving DecidableEq

/-- The member's exceptions after a reconcile, and what it returned. -/
abbrev Outcome := GoMap PolicyException × Except String ReconcileResult

/-! ## Validation -/

/-- `validateOneOf`: an error message, if any. -/
def validateOneOf (s : PolicyExceptionSpec) : Option String :=
  let count := (if s.policyRefs ≠ [] then 1 else 0) + (if s.policyGroupRefs ≠ [] then 1 else 0) +
    if s.allPolicies then 1 else 0
  if count ≠ 1 then
    some ("exactly one of spec.policyRefs/policyGroupRefs/allPolicies must be set (got " ++
      toString count ++ ")")
  else none

section

variable [GoUnicode]

/-- One loop of `validateRefs`: the first name that is missing, or the first
failing read. -/
def validateNames {T : Type} (faults : ApiFaults) (kind : ApiKind) (field kindText : String)
    (store : GoMap T) : List String → Except String (Option String)
  | [] => .ok none
  | name :: rest =>
    match faults ⟨.get, kind, name⟩ with
    | some err => .error ("get " ++ kindText ++ " " ++ quote name ++ ": " ++ err)
    | none =>
      if name ∈ store then validateNames faults kind field kindText store rest
      else .ok (some (field ++ "[" ++ quote name ++ "] not found"))

/-- `validateRefs`. -/
def validateRefs (faults : ApiFaults) (m : Member) (spec : PolicyExceptionSpec) :
    Except String (Option String) := do
  match ← validateNames faults .policy "spec.policyRefs" "Policy" m.policies spec.policyRefs with
  | some msg => return some msg
  | none =>
    validateNames faults .policyGroup "spec.policyGroupRefs" "PolicyGroup" m.groups
      spec.policyGroupRefs

/-- Steps 1 to 4 of `Reconcile`: a message, or the two parsed durations. -/
def validateSpec (spec : PolicyExceptionSpec) : Except String (Int × Int) :=
  match validateOneOf spec with
  | some msg => .error msg
  | none =>
    if trimSpace spec.reason = "" then .error "spec.reason must not be empty or whitespace"
    else
      match parseDuration spec.duration with
      | .error err => .error ("spec.duration " ++ quote spec.duration ++ ": " ++ err)
      | .ok d =>
        if d ≤ 0 then .error ("spec.duration must be positive, got " ++ quote spec.duration)
        else if spec.retainAfterExpiry = "" then .ok (d, 0)
        else
          match parseDuration spec.retainAfterExpiry with
          | .error err =>
            .error ("spec.retainAfterExpiry " ++ quote spec.retainAfterExpiry ++ ": " ++ err)
          | .ok retain =>
            if retain < 0 then
              .error ("spec.retainAfterExpiry must be non-negative, got " ++
                quote spec.retainAfterExpiry)
            else .ok (d, retain)

end

/-! ## Status writes -/

section

variable (faults : ApiFaults) (now : Time) (store : GoMap PolicyException) (name : String)
  (pex : PolicyException)

/-- A status write; `phase` is the text in the error. -/
def writeStatus (phase : String) (status : PolicyExceptionStatus) (result : ReconcileResult) :
    Outcome :=
  match updateExceptionStatus faults name { pex with status := status } store with
  | .error err => (store, .error ("update status (" ++ phase ++ "): " ++ err))
  | .ok store => (store, .ok result)

/-- `setInvalid`. -/
def setInvalid (msg : String) : Outcome :=
  writeStatus faults store name pex "Invalid"
    { pex.status with phase := .invalid, message := msg, observedGeneration := pex.generation } {}

/-- The status of an object in a phase with a time window. -/
def windowStatus (phase : ExceptionPhase) (effective expires : Time) : PolicyExceptionStatus :=
  { phase := phase, message := "", effectiveAt := some effective, expiresAt := some expires
    observedGeneration := pex.generation }

/-- `setActive`: the write is skipped when nothing changes. -/
def setActive (effective expires : Time) : Outcome :=
  let result : ReconcileResult := { requeueAfter := some (expires - now) }
  if pex.status = windowStatus pex .active effective expires then (store, .ok result)
  else
    writeStatus faults store name pex "Active" (windowStatus pex .active effective expires) result

/-- `setExpired`: deletion is left to the next reconcile. -/
def setExpired (effective expires : Time) : Outcome :=
  writeStatus faults store name pex "Expired" (windowStatus pex .expired effective expires)
    { requeue := true }

/-- The retention of `handleExpired`, which ignores a parse error. -/
def retainAfterExpiry (spec : PolicyExceptionSpec) : Int :=
  if spec.retainAfterExpiry = "" then 0
  else
    match parseDuration spec.retainAfterExpiry with
    | .ok retain => retain
    | .error _ => 0

/-- The rest of `handleExpired` once the expiry time is known. -/
def handleExpiredAt (expiresAt : Time) : Outcome :=
  let deleteAt := expiresAt + retainAfterExpiry pex.spec
  if deleteAt ≤ now then
    match policyExceptions.delete faults now name pex store with
    | .error err => (store, .error ("delete expired PolicyException: " ++ err))
    | .ok store => (store, .ok {})
  else (store, .ok { requeueAfter := some (deleteAt - now) })

/-- `handleExpired`. -/
def handleExpired : Outcome :=
  match pex.status.expiresAt with
  | some expiresAt => handleExpiredAt faults now store name pex expiresAt
  | none =>
    let pex := { pex with status := { pex.status with expiresAt := some now } }
    match updateExceptionStatus faults name pex store with
    | .error err =>
      (store, .error ("update status (Expired, missing ExpiresAt): " ++ err))
    | .ok store => handleExpiredAt faults now store name pex now

end

/-! ## Reconcile -/

variable [GoUnicode]

/-- `Reconcile` of an object that is not expired yet. -/
def reconcileLive (faults : ApiFaults) (now : Time) (m : Member) (name : String)
    (pex : PolicyException) : Outcome :=
  match validateSpec pex.spec with
  | .error msg => setInvalid faults m.exceptions name pex msg
  | .ok (d, _) =>
    match validateRefs faults m pex.spec with
    | .error err => (m.exceptions, .error err)
    | .ok (some msg) => setInvalid faults m.exceptions name pex msg
    | .ok none =>
      let expiresAt := pex.creationTimestamp + d
      if now < expiresAt then
        setActive faults now m.exceptions name pex pex.creationTimestamp expiresAt
      else setExpired faults m.exceptions name pex pex.creationTimestamp expiresAt

/-- `Reconcile`. -/
def reconcile (faults : ApiFaults) (now : Time) (m : Member) (name : String) : Outcome :=
  match faults ⟨.get, .policyException, name⟩ with
  | some err => (m.exceptions, .error err)
  | none =>
    match m.exceptions[name]? with
    | none => (m.exceptions, .ok {})
    | some pex =>
      if pex.status.phase = .expired then handleExpired faults now m.exceptions name pex
      else reconcileLive faults now m name pex

/-! ## What a reconcile writes -/

section

omit [GoUnicode]

variable {faults : ApiFaults} {now : Time} {store : GoMap PolicyException} {name : String}
  {pex : PolicyException}

/-- A status write stores the new status or leaves the store as it is. -/
theorem writeStatus_store (phase : String) (status : PolicyExceptionStatus)
    (result : ReconcileResult) :
    (writeStatus faults store name pex phase status result).1 = store ∨
      (writeStatus faults store name pex phase status result).1 =
        store.insert name { pex with status := status } := by
  unfold writeStatus updateExceptionStatus
  cases faults ⟨.updateStatus, .policyException, name⟩ with
  | some err => exact .inl rfl
  | none => exact .inr rfl

/-- `handleExpiredAt` deletes the object, marks it, or leaves the store. -/
theorem handleExpiredAt_store (expiresAt : Time) :
    (handleExpiredAt faults now store name pex expiresAt).1 = store ∨
      (handleExpiredAt faults now store name pex expiresAt).1 = store.erase name ∨
      ∃ deletionTimestamp, (handleExpiredAt faults now store name pex expiresAt).1 =
        store.insert name { pex with deletionTimestamp := deletionTimestamp } := by
  unfold handleExpiredAt
  dsimp only
  split
  · rcases policyExceptions.delete_cases faults now name pex store with ⟨err, h⟩ | h | ⟨t, h⟩
    · rw [h]
      exact .inl rfl
    · rw [h]
      exact .inr (.inl rfl)
    · rw [h]
      exact .inr (.inr ⟨t, rfl⟩)
  · exact .inl rfl

variable {key : String} {e : PolicyException}

/-- What stands under another name, or under a name with phase `Expired`. -/
theorem handleExpiredAt_getElem? (expiresAt : Time)
    (he : (handleExpiredAt faults now store name pex expiresAt).1[key]? = some e) :
    store[key]? = some e ∨ name = key ∧ e.status = pex.status := by
  rcases handleExpiredAt_store expiresAt with h | h | ⟨t, h⟩
  · rw [h] at he
    exact .inl he
  · rw [h] at he
    exact .inl (getElem?_erase_some.mp he).2
  · rw [h] at he
    rcases getElem?_insert_some.mp he with ⟨hkey, heq⟩ | ⟨_, hold⟩
    · exact .inr ⟨hkey, heq ▸ rfl⟩
    · exact .inl hold

/-- `handleExpired` keeps the phase of what it leaves under its own name, and
touches no other name. -/
theorem handleExpired_getElem? (he : (handleExpired faults now store name pex).1[key]? = some e) :
    store[key]? = some e ∨ name = key ∧ e.status.phase = pex.status.phase := by
  unfold handleExpired at he
  cases hexpires : pex.status.expiresAt with
  | some expiresAt =>
    rw [hexpires] at he
    rcases handleExpiredAt_getElem? expiresAt he with h | ⟨hkey, hstatus⟩
    · exact .inl h
    · exact .inr ⟨hkey, by rw [hstatus]⟩
  | none =>
    rw [hexpires] at he
    unfold updateExceptionStatus at he
    cases hfault : faults ⟨.updateStatus, .policyException, name⟩ with
    | some err =>
      rw [hfault] at he
      exact .inl he
    | none =>
      rw [hfault] at he
      rcases handleExpiredAt_getElem? now he with h | ⟨hkey, hstatus⟩
      · rcases getElem?_insert_some.mp h with ⟨hkey, heq⟩ | ⟨_, hold⟩
        · exact .inr ⟨hkey, heq ▸ rfl⟩
        · exact .inl hold
      · exact .inr ⟨hkey, by rw [hstatus]⟩

/-- A status write touches no other name. -/
theorem writeStatus_getElem?_ne (phase : String) (status : PolicyExceptionStatus)
    (result : ReconcileResult) (hkey : name ≠ key) :
    (writeStatus faults store name pex phase status result).1[key]? = store[key]? := by
  rcases writeStatus_store phase status result with h | h
  · rw [h]
  · rw [h, getElem?_insert_key, if_neg hkey]

end

variable {name : String} {faults : ApiFaults} {e pex : PolicyException} {key : String} {now : Time}
  {m : Member} {store : GoMap PolicyException} {result : ReconcileResult}
  {spec : PolicyExceptionSpec}

/-- `reconcileLive` touches no other name. -/
theorem reconcileLive_getElem?_ne (faults : ApiFaults) (now : Time) (m : Member)
    (pex : PolicyException) (hkey : name ≠ key) :
    (reconcileLive faults now m name pex).1[key]? = m.exceptions[key]? := by
  unfold reconcileLive
  split
  · exact writeStatus_getElem?_ne _ _ _ hkey
  · split
    · rfl
    · exact writeStatus_getElem?_ne _ _ _ hkey
    · dsimp only
      split
      · unfold setActive
        split
        · rfl
        · exact writeStatus_getElem?_ne _ _ _ hkey
      · exact writeStatus_getElem?_ne _ _ _ hkey

/-- Expiry is final for the reconciler: whatever stands under a name that was
absent or expired before a reconcile, of this name or another, is expired after
it. -/
theorem reconcile_expired (hended : ∀ e, m.exceptions[key]? = some e → e.status.phase = .expired)
    (he : (reconcile faults now m name).1[key]? = some e) : e.status.phase = .expired := by
  unfold reconcile at he
  split at he
  · exact hended e he
  · split at he
    · exact hended e he
    · rename_i pex hpex
      split at he
      · rename_i hphase
        rcases handleExpired_getElem? he with hkept | ⟨-, hstatus⟩
        · exact hended e hkept
        · rw [hstatus, hphase]
      · rename_i hphase
        -- A live object is not the one that has ended.
        have hkey : name ≠ key := by
          intro heq
          subst heq
          exact hphase (hended pex hpex)
        rw [reconcileLive_getElem?_ne faults now m pex hkey] at he
        exact hended e he

/-! ## What an active exception has passed -/

omit [GoUnicode] in
/-- A status write that succeeds stores the object with the new status. -/
theorem writeStatus_ok {store' : GoMap PolicyException} {phase : String}
    {status : PolicyExceptionStatus} {result' : ReconcileResult}
    (h : writeStatus faults store name pex phase status result = (store', .ok result'))
    (he : store'[name]? = some e) : e = { pex with status := status } := by
  unfold writeStatus updateExceptionStatus at h
  cases hfault : faults ⟨.updateStatus, .policyException, name⟩ with
  | some err =>
    rw [hfault] at h
    cases h
  | none =>
    rw [hfault] at h
    cases h
    rw [getElem?_insert_key, if_pos rfl] at he
    exact (Option.some.inj he).symm

/-- A successful reconcile of a live object that leaves it active has accepted
its spec. -/
theorem reconcileLive_active (hpex : m.exceptions[name]? = some pex)
    (h : reconcileLive faults now m name pex = (store, .ok result)) (he : store[name]? = some e)
    (hactive : e.status.phase = .active) : ∃ durations, validateSpec e.spec = .ok durations := by
  unfold reconcileLive at h
  cases hspec : validateSpec pex.spec with
  | error msg =>
    rw [hspec] at h
    rw [writeStatus_ok h he] at hactive
    cases hactive
  | ok durations =>
    obtain ⟨d, retain⟩ := durations
    simp only [hspec] at h
    split at h
    · exact absurd h (by simp)
    · rw [writeStatus_ok h he] at hactive
      cases hactive
    · split at h
      · unfold setActive at h
        split at h
        · cases h
          rw [hpex] at he
          cases he
          exact ⟨(d, retain), hspec⟩
        · rw [writeStatus_ok h he]
          exact ⟨(d, retain), hspec⟩
      · rw [writeStatus_ok h he] at hactive
        cases hactive

/-- A reconcile has put the object in phase Active: it succeeded, and it left
the object in this phase. -/
def PutActive (pex : PolicyException) : Prop :=
  ∃ (faults : ApiFaults) (now : Time) (m : Member) (name : String)
    (store : GoMap PolicyException) (result : ReconcileResult),
    reconcile faults now m name = (store, .ok result) ∧ store[name]? = some pex ∧
      pex.status.phase = .active

theorem PutActive.active (h : PutActive pex) : pex.status.phase = .active := by
  obtain ⟨-, -, -, -, -, -, -, -, hactive⟩ := h
  exact hactive

/-- The spec of an object in phase Active is valid. -/
theorem PutActive.validateSpec (h : PutActive pex) :
    ∃ durations, validateSpec pex.spec = .ok durations := by
  obtain ⟨faults, now, m, name, store, result, hreconcile, hpex, hactive⟩ := h
  unfold reconcile at hreconcile
  split at hreconcile
  · exact absurd hreconcile (by simp)
  · split at hreconcile
    · rename_i hnone
      cases hreconcile
      rw [hnone] at hpex
      exact absurd hpex (by simp)
    · rename_i old hold
      split at hreconcile
      · rename_i hexpired
        have hstore : store = (handleExpired faults now m.exceptions name old).1 :=
          (congrArg Prod.fst hreconcile).symm
        rw [hstore] at hpex
        rcases handleExpired_getElem? hpex with hkept | ⟨-, hphase⟩
        · rw [hold] at hkept
          cases hkept
          rw [hexpired] at hactive
          exact absurd hactive (by decide)
        · rw [hphase, hexpired] at hactive
          exact absurd hactive (by decide)
      · exact reconcileLive_active hold hreconcile hpex hactive

omit [GoUnicode] in
/-- `validateOneOf` leaves exactly one kind of target. -/
theorem validateOneOf_target (h : validateOneOf spec = none) :
    spec.policyRefs ≠ [] ∨ spec.policyGroupRefs ≠ [] ∨ spec.allPolicies = true := by
  by_contra hnone
  rw [not_or, not_or, not_not, not_not, Bool.not_eq_true] at hnone
  obtain ⟨hrefs, hgroups, hall⟩ := hnone
  simp [validateOneOf, hrefs, hgroups, hall] at h

theorem validateSpec_target {durations : Int × Int} (h : validateSpec spec = .ok durations) :
    spec.policyRefs ≠ [] ∨ spec.policyGroupRefs ≠ [] ∨ spec.allPolicies = true := by
  refine validateOneOf_target ?_
  unfold Operator.validateSpec at h
  cases honeOf : validateOneOf spec with
  | none => rfl
  | some msg =>
    rw [honeOf] at h
    exact absurd h (by simp)

end KubeSentry.Operator
