import KubeSentry.GoLib.Run
import KubeSentry.Operator.ExceptionReconciler

/-!
# Runs of the exception reconciler

One `PolicyException` over time: reconciles at any times, edits of its spec, and policies and
groups that come and go.  A failing API call may end a reconcile at any point.

`Reconciled` says everything that one reconcile can do to the object.  The three parts of the
lifecycle are read off it: what the phase `Active` requires, that `Expired` is final, and when
the object is deleted.
-/

namespace KubeSentry.Operator

open GoLib

section

variable [GoUnicode]

/-! ## What the phase Active requires -/

/-- The object may be active at the time. -/
structure MayBeActive (m : Member) (pex : PolicyException) (now : Time) : Prop where
  oneTarget :
    pex.spec.policyRefs ≠ [] ∧ pex.spec.policyGroupRefs = [] ∧ pex.spec.allPolicies = false ∨
      pex.spec.policyRefs = [] ∧ pex.spec.policyGroupRefs ≠ [] ∧ pex.spec.allPolicies = false ∨
      pex.spec.policyRefs = [] ∧ pex.spec.policyGroupRefs = [] ∧ pex.spec.allPolicies = true
  reason : trimSpace pex.spec.reason ≠ ""
  window : ∃ d, parseDuration pex.spec.duration = .ok d ∧ 0 < d ∧ now < pex.creationTimestamp + d
  retention : pex.spec.retainAfterExpiry = "" ∨
    ∃ retain, parseDuration pex.spec.retainAfterExpiry = .ok retain ∧ 0 ≤ retain
  policies : ∀ name ∈ pex.spec.policyRefs, name ∈ m.policies
  groups : ∀ name ∈ pex.spec.policyGroupRefs, name ∈ m.groups

variable {spec : PolicyExceptionSpec} {faults : ApiFaults} {m : Member} {pex : PolicyException}
  {store : GoMap PolicyException} {name : String}

omit [GoUnicode] in
theorem validateOneOf_eq_none (h : validateOneOf spec = none) :
    spec.policyRefs ≠ [] ∧ spec.policyGroupRefs = [] ∧ spec.allPolicies = false ∨
      spec.policyRefs = [] ∧ spec.policyGroupRefs ≠ [] ∧ spec.allPolicies = false ∨
      spec.policyRefs = [] ∧ spec.policyGroupRefs = [] ∧ spec.allPolicies = true := by
  unfold validateOneOf at h
  by_cases hpolicies : spec.policyRefs = [] <;> by_cases hgroups : spec.policyGroupRefs = [] <;>
    cases hall : spec.allPolicies <;> simp_all

/-- What the first four checks have found. -/
theorem validateSpec_eq_ok {d retain : Int} (h : validateSpec spec = .ok (d, retain)) :
    validateOneOf spec = none ∧ trimSpace spec.reason ≠ "" ∧
      parseDuration spec.duration = .ok d ∧ 0 < d ∧
      (spec.retainAfterExpiry = "" ∨
        parseDuration spec.retainAfterExpiry = .ok retain ∧ 0 ≤ retain) := by
  unfold validateSpec at h
  cases honeOf : validateOneOf spec with
  | some msg =>
    rw [honeOf] at h
    cases h
  | none =>
    simp only [honeOf] at h
    by_cases hreason : trimSpace spec.reason = ""
    · rw [if_pos hreason] at h
      cases h
    · rw [if_neg hreason] at h
      cases hduration : parseDuration spec.duration with
      | error err =>
        rw [hduration] at h
        cases h
      | ok d' =>
        simp only [hduration] at h
        by_cases hpositive : d' ≤ 0
        · rw [if_pos hpositive] at h
          cases h
        · rw [if_neg hpositive] at h
          refine ⟨rfl, hreason, ?_⟩
          by_cases hempty : spec.retainAfterExpiry = ""
          · rw [if_pos hempty] at h
            cases h
            exact ⟨rfl, by omega, .inl hempty⟩
          · rw [if_neg hempty] at h
            cases hretain : parseDuration spec.retainAfterExpiry with
            | error err =>
              rw [hretain] at h
              cases h
            | ok retain' =>
              simp only [hretain] at h
              by_cases hnegative : retain' < 0
              · rw [if_pos hnegative] at h
                cases h
              · rw [if_neg hnegative] at h
                cases h
                exact ⟨rfl, by omega, .inr ⟨rfl, by omega⟩⟩

theorem validateNames_eq_none {T : Type} {kind : ApiKind} {field kindText : String}
    {store : GoMap T} {names : List String}
    (h : validateNames faults kind field kindText store names = .ok none) :
    ∀ name ∈ names, name ∈ store := by
  induction names with
  | nil => simp
  | cons name rest ih =>
    unfold validateNames at h
    split at h
    · cases h
    · split at h
      · rename_i hmem
        exact List.forall_mem_cons.mpr ⟨hmem, ih h⟩
      · cases h

theorem validateRefs_eq_none (h : validateRefs faults m spec = .ok none) :
    (∀ name ∈ spec.policyRefs, name ∈ m.policies) ∧
      ∀ name ∈ spec.policyGroupRefs, name ∈ m.groups := by
  unfold validateRefs at h
  cases hpolicies : validateNames faults .policy "spec.policyRefs" "Policy" m.policies
      spec.policyRefs with
  | error err =>
    rw [hpolicies] at h
    cases h
  | ok missing =>
    rw [hpolicies] at h
    cases missing with
    | some msg => cases h
    | none => exact ⟨validateNames_eq_none hpolicies, validateNames_eq_none h⟩

theorem mayBeActive_of_validated {now : Time} {d retain : Int}
    (hspec : validateSpec pex.spec = .ok (d, retain))
    (hrefs : validateRefs faults m pex.spec = .ok none) (hnow : now < pex.creationTimestamp + d) :
    MayBeActive m pex now := by
  obtain ⟨honeOf, hreason, hduration, hpositive, hretain⟩ := validateSpec_eq_ok hspec
  obtain ⟨hpolicies, hgroups⟩ := validateRefs_eq_none hrefs
  refine ⟨validateOneOf_eq_none honeOf, hreason, ⟨d, hduration, hpositive, hnow⟩, ?_, hpolicies,
    hgroups⟩
  exact hretain.imp_right fun h => ⟨retain, h⟩

/-! ## One reconcile -/

/-- Everything that a reconcile can do to the object. -/
inductive Reconciled (m : Member) (now : Time) (pex : PolicyException) :
    Option PolicyException → Prop where
  | kept : Reconciled m now pex (some pex)
  | invalid (hlive : pex.status.phase ≠ .expired) (msg : String) :
    Reconciled m now pex (some { pex with
      status := { pex.status with
        phase := .invalid, message := msg, observedGeneration := pex.generation } })
  | active (hlive : pex.status.phase ≠ .expired) (hactive : MayBeActive m pex now)
    (expires : Time) :
    Reconciled m now pex (some { pex with
      status := windowStatus pex .active pex.creationTimestamp expires })
  | expired (hlive : pex.status.phase ≠ .expired) (expires : Time) :
    Reconciled m now pex (some { pex with
      status := windowStatus pex .expired pex.creationTimestamp expires })
  /-- An expired object without a time gets one. -/
  | dated (hexpired : pex.status.phase = .expired) (hnone : pex.status.expiresAt = none) :
    Reconciled m now pex (some { pex with
      status := { pex.status with expiresAt := some now } })
  /-- The object is removed, or marked if it has finalizers. -/
  | deleted (hexpired : pex.status.phase = .expired) {expiresAt : Time}
    (hexpiresAt : pex.status.expiresAt.getD now = expiresAt)
    (hdue : expiresAt + retainAfterExpiry pex.spec ≤ now) {after : Option PolicyException}
    (hafter : ∀ e ∈ after, e.status.phase = .expired) : Reconciled m now pex after

omit [GoUnicode] in
/-- A status write stores the object with the new status, or fails. -/
theorem writeStatus_getElem? (hpex : store[name]? = some pex) (phase : String)
    (status : PolicyExceptionStatus) (result : ReconcileResult) :
    (writeStatus faults store name pex phase status result).1[name]? = some pex ∨
      (writeStatus faults store name pex phase status result).1[name]? =
        some { pex with status := status } := by
  rcases writeStatus_store phase status result with h | h
  · left
    rw [h]
    exact hpex
  · right
    rw [h]
    simp

theorem reconcileLive_reconciled (faults : ApiFaults) (now : Time)
    (hpex : m.exceptions[name]? = some pex) (hlive : pex.status.phase ≠ .expired) :
    Reconciled m now pex ((reconcileLive faults now m name pex).1[name]?) := by
  have hinvalid : ∀ msg, Reconciled m now pex
      ((setInvalid faults m.exceptions name pex msg).1[name]?) := by
    intro msg
    rcases writeStatus_getElem? hpex "Invalid" _ {} with h | h
    · exact h ▸ .kept
    · exact h ▸ .invalid hlive msg
  unfold reconcileLive
  cases hspec : validateSpec pex.spec with
  | error msg => exact hinvalid msg
  | ok durations =>
    obtain ⟨d, retain⟩ := durations
    cases hrefs : validateRefs faults m pex.spec with
    | error err =>
      show Reconciled m now pex (m.exceptions[name]?)
      rw [hpex]
      exact .kept
    | ok missing =>
      cases missing with
      | some msg => exact hinvalid msg
      | none =>
        simp only
        split
        · rename_i hnow
          have hactive := mayBeActive_of_validated hspec hrefs hnow
          unfold setActive
          simp only
          split
          · rw [hpex]
            exact .kept
          · rcases writeStatus_getElem? hpex "Active" _ _ with h | h
            · exact h ▸ .kept
            · exact h ▸ .active hlive hactive _
        · rcases writeStatus_getElem? hpex "Expired" _ _ with h | h
          · exact h ▸ .kept
          · exact h ▸ .expired hlive _

omit [GoUnicode] in
/-- `handleExpiredAt` touches the object only when it is due. -/
theorem handleExpiredAt_due {now : Time} (hpex : store[name]? = some pex) (expiresAt : Time) :
    (handleExpiredAt faults now store name pex expiresAt).1[name]? = some pex ∨
      expiresAt + retainAfterExpiry pex.spec ≤ now ∧
        ∀ e ∈ (handleExpiredAt faults now store name pex expiresAt).1[name]?,
          e.status = pex.status := by
  by_cases hdue : expiresAt + retainAfterExpiry pex.spec ≤ now
  · refine .inr ⟨hdue, fun e he => ?_⟩
    rcases handleExpiredAt_getElem? expiresAt he with hkept | ⟨_, hstatus⟩
    · rw [hpex] at hkept
      cases hkept
      rfl
    · exact hstatus
  · left
    unfold handleExpiredAt
    simp only
    rw [if_neg hdue]
    exact hpex

omit [GoUnicode] in
theorem handleExpired_reconciled (faults : ApiFaults) (now : Time)
    (hpex : m.exceptions[name]? = some pex) (hexpired : pex.status.phase = .expired) :
    Reconciled m now pex ((handleExpired faults now m.exceptions name pex).1[name]?) := by
  unfold handleExpired
  cases hexpiresAt : pex.status.expiresAt with
  | some expiresAt =>
    rcases handleExpiredAt_due hpex expiresAt with h | ⟨hdue, hafter⟩
    · exact h ▸ .kept
    · refine .deleted hexpired (by rw [hexpiresAt]; rfl) hdue fun e he => ?_
      rw [hafter e he, hexpired]
  | none =>
    unfold updateExceptionStatus
    cases faults ⟨.updateStatus, .policyException, name⟩ with
    | some err =>
      show Reconciled m now pex (m.exceptions[name]?)
      rw [hpex]
      exact .kept
    | none =>
      simp only
      have hdated : (m.exceptions.insert name { pex with
          status := { pex.status with expiresAt := some now } })[name]? =
            some { pex with status := { pex.status with expiresAt := some now } } := by
        simp
      rcases handleExpiredAt_due hdated now with h | ⟨hdue, hafter⟩
      · exact h ▸ .dated hexpired hexpiresAt
      · refine .deleted hexpired (by rw [hexpiresAt]; rfl) hdue fun e he => ?_
        rw [hafter e he, hexpired]

theorem reconcile_reconciled (faults : ApiFaults) (now : Time)
    (hpex : m.exceptions[name]? = some pex) :
    Reconciled m now pex ((reconcile faults now m name).1[name]?) := by
  unfold reconcile
  cases faults ⟨.get, .policyException, name⟩ with
  | some err =>
    show Reconciled m now pex (m.exceptions[name]?)
    rw [hpex]
    exact .kept
  | none =>
    simp only [hpex]
    split
    · rename_i hexpired
      exact handleExpired_reconciled faults now hpex hexpired
    · rename_i hlive
      exact reconcileLive_reconciled faults now hpex hlive

/-- An object that is not there stays away. -/
theorem reconcile_absent (faults : ApiFaults) (now : Time) (hnone : m.exceptions[name]? = none) :
    (reconcile faults now m name).1[name]? = none := by
  unfold reconcile
  cases faults ⟨.get, .policyException, name⟩ with
  | some err => exact hnone
  | none =>
    simp only [hnone]

/-! ## The three parts of the lifecycle -/

variable {m : Member} {now : Time} {pex e : PolicyException} {after : Option PolicyException}

section

variable (h : Reconciled m now pex after)

omit [GoUnicode]

include h

theorem Reconciled.mayBeActive (hafter : after = some e) (hset : e.status ≠ pex.status)
    (hactive : e.status.phase = .active) : MayBeActive m pex now := by
  cases h with
  | kept =>
    cases hafter
    exact absurd rfl hset
  | invalid hlive msg =>
    cases hafter
    cases hactive
  | active hlive hmay expires => exact hmay
  | expired hlive expires =>
    cases hafter
    cases hactive
  | dated hexpired hnone =>
    cases hafter
    have hphase : pex.status.phase = .active := hactive
    rw [hexpired] at hphase
    cases hphase
  | deleted hexpired hexpiresAt hdue hall =>
    have hphase := hall e hafter
    rw [hphase] at hactive
    cases hactive

theorem Reconciled.expired_final (hexpired : pex.status.phase = .expired)
    (hafter : after = some e) : e.status.phase = .expired := by
  cases h with
  | kept =>
    cases hafter
    exact hexpired
  | invalid hlive msg => exact absurd hexpired hlive
  | active hlive hmay expires => exact absurd hexpired hlive
  | expired hlive expires => exact absurd hexpired hlive
  | dated _ hnone =>
    cases hafter
    exact hexpired
  | deleted _ hexpiresAt hdue hall => exact hall e hafter

theorem Reconciled.deleted_due
    (hdeleted : ∀ e, after = some e → e.deletionTimestamp ≠ pex.deletionTimestamp) :
    pex.status.phase = .expired ∧
      pex.status.expiresAt.getD now + retainAfterExpiry pex.spec ≤ now := by
  cases h with
  | deleted hexpired hexpiresAt hdue hall =>
    rw [hexpiresAt]
    exact ⟨hexpired, hdue⟩
  | _ => exact (hdeleted _ rfl rfl).elim

end

/-! ## Runs -/

/-- What happens to one exception and to the objects that it refers to. -/
inductive ExceptionEvent where
  | reconcile (now : Time) (faults : ApiFaults)
  | editSpec (spec : PolicyExceptionSpec)
  | putPolicy (name : String) (policy : Policy)
  | deletePolicy (name : String)
  | putGroup (name : String) (group : PolicyGroup)
  | deleteGroup (name : String)

/-- An edit of the spec of the object, if it is there. -/
def editSpec (name : String) (spec : PolicyExceptionSpec) (store : GoMap PolicyException) :
    GoMap PolicyException :=
  match store[name]? with
  | none => store
  | some pex =>
    match policyExceptions.update (fun _ => none) name pex pex.labels pex.annotations spec
        store with
    | .ok store => store
    | .error _ => store

def exceptionStep (name : String) (m : Member) : ExceptionEvent → Member
  | .reconcile now faults => { m with exceptions := (reconcile faults now m name).1 }
  | .editSpec spec => { m with exceptions := editSpec name spec m.exceptions }
  | .putPolicy policyName policy => { m with policies := m.policies.insert policyName policy }
  | .deletePolicy policyName => { m with policies := m.policies.erase policyName }
  | .putGroup groupName group => { m with groups := m.groups.insert groupName group }
  | .deleteGroup groupName => { m with groups := m.groups.erase groupName }

omit [GoUnicode] in
/-- An edit of the spec keeps the status. -/
theorem editSpec_status (he : (editSpec name spec store)[name]? = some e) :
    ∃ pex, store[name]? = some pex ∧ e.status = pex.status := by
  unfold editSpec at he
  cases hpex : store[name]? with
  | none =>
    simp only [hpex] at he
    cases he
  | some pex =>
    refine ⟨pex, rfl, ?_⟩
    simp only [hpex, Resource.update, getElem?_insert_key, if_true] at he
    cases he
    rfl

theorem exceptionStep_expired
    (h : ∀ pex, m.exceptions[name]? = some pex → pex.status.phase = .expired)
    (event : ExceptionEvent) :
    ∀ e, (exceptionStep name m event).exceptions[name]? = some e → e.status.phase = .expired := by
  intro e he
  cases event with
  | reconcile now faults =>
    cases hpex : m.exceptions[name]? with
    | none =>
      have hnone := reconcile_absent faults now hpex
      rw [show (exceptionStep name m (.reconcile now faults)).exceptions[name]? = none from hnone]
        at he
      cases he
    | some pex => exact (reconcile_reconciled faults now hpex).expired_final (h pex hpex) he
  | editSpec spec =>
    obtain ⟨pex, hpex, hstatus⟩ := editSpec_status he
    rw [hstatus]
    exact h pex hpex
  | _ => exact h e he

/-- The lifecycle of one exception, at every reconcile of every run:

* a reconcile that sets the phase `Active` finds a valid spec, all references and a time
  before the end of the duration;
* an expired object is expired in every later state, as long as it is there;
* a reconcile deletes the object only if it is expired and its retention is over.  An object
  without `expiresAt` gets the time of this reconcile. -/
theorem exception_lifecycle (name : String) (m : Member) (events : List ExceptionEvent)
    (pex : PolicyException)
    (hpex : (run (exceptionStep name) m events).exceptions[name]? = some pex) :
    (∀ now faults e,
      (exceptionStep name (run (exceptionStep name) m events)
        (.reconcile now faults)).exceptions[name]? = some e →
      e.status ≠ pex.status → e.status.phase = .active →
      MayBeActive (run (exceptionStep name) m events) pex now) ∧
    (pex.status.phase = .expired → ∀ later e,
      (run (exceptionStep name) m (events ++ later)).exceptions[name]? = some e →
      e.status.phase = .expired) ∧
    ∀ now faults,
      (∀ e, (exceptionStep name (run (exceptionStep name) m events)
        (.reconcile now faults)).exceptions[name]? = some e →
        e.deletionTimestamp ≠ pex.deletionTimestamp) →
      pex.status.phase = .expired ∧
        pex.status.expiresAt.getD now + retainAfterExpiry pex.spec ≤ now := by
  refine ⟨fun now faults e he hset hactive => ?_, fun hexpired later e he => ?_,
    fun now faults hdeleted => ?_⟩
  · exact (reconcile_reconciled faults now hpex).mayBeActive he hset hactive
  · rw [run_append] at he
    refine run_invariant_of_step (I := fun m : Member => ∀ pex,
      m.exceptions[name]? = some pex → pex.status.phase = .expired)
      (fun s event h => exceptionStep_expired h event) ?_ later e he
    intro found hfound
    rw [hpex] at hfound
    cases hfound
    exact hexpired
  · exact (reconcile_reconciled faults now hpex).deleted_due hdeleted

end

attribute [local instance] GoUnicode.ascii

/-- A member with one new exception for the policy `p`. -/
def waiverMember : Member where
  policies := (∅ : GoMap Policy).insert "p"
    { name := "p", spec := .auditPods "package kubesentry" }
  exceptions := (∅ : GoMap PolicyException).insert "waiver"
    { name := "waiver"
      spec := { policyRefs := ["p"], matching := { namespaces := ["default"] }
                duration := "1h", reason := "migration" } }

/-- The exception is reconciled at time 0 without failures. -/
theorem exception_lifecycle_waiver : ∃ pex,
    waiverMember.exceptions["waiver"]? = some pex ∧ MayBeActive waiverMember pex 0 := by
  have hsome : waiverMember.exceptions["waiver"]?.isSome = true := by decide +kernel
  obtain ⟨pex, hpex⟩ := Option.isSome_iff_exists.mp hsome
  have hphase : ((exceptionStep "waiver" waiverMember
      (.reconcile 0 fun _ => none)).exceptions["waiver"]?.map fun e => e.status.phase) =
        some .active := by
    decide +kernel
  obtain ⟨e, he, hactive⟩ := Option.map_eq_some_iff.mp hphase
  have hpending : waiverMember.exceptions["waiver"]?.map (fun e => e.status.phase) =
      some .pending := by
    decide +kernel
  rw [hpex] at hpending
  refine ⟨pex, hpex, (exception_lifecycle "waiver" waiverMember [] pex hpex).1 0 _ e he ?_ hactive⟩
  intro hstatus
  rw [hstatus] at hactive
  rw [Option.map_some, hactive] at hpending
  cases hpending

end KubeSentry.Operator
