import KubeSentry.GoLib.Run
import KubeSentry.Gateway.RenderFor
import KubeSentry.Hublink.ApplyConvergence
import KubeSentry.Hublink.ApplyStatus
import KubeSentry.Operator.ExceptionReconciler

/-!
# The life of a distributed exception

Three components work on one `PolicyException`: the gateway renders the row
again and again, the member applies what it receives, and the reconciler moves
the object from pending to active to expired and then deletes it.  `World` is
a member cluster with its clock, and `Event` the things that happen to it.

The reconciler treats expiry as final.  Its own part keeps that promise
(`Operator.reconcile_expired`), and so does a snapshot that finds the object
still there.  The composition does not: after the deletion the next snapshot
creates the object again with a new creation time, and it becomes active for
another full duration.  Expiry is final in every run where no push creates the
exception anew.
-/

namespace KubeSentry.Hublink

open GoLib Operator Gateway

/-! ## The system -/

structure World where
  now : Time
  member : Member

/-- What happens at a member cluster. -/
inductive Event where
  /-- Time passes. -/
  | tick (elapsed : Nat)
  /-- A push or a resync: the gateway renders from its tables and the member
  applies the snapshot. -/
  | push (repos : Repos) (faults : Database.Faults) (db : Database.Tables) (cluster : String)
      (apiFaults : ApiFaults) (traceID : String)
  /-- A reconcile of one exception. -/
  | reconcile (name : String) (apiFaults : ApiFaults)

section

variable [Apimachinery] [GoUnicode] [Digest] [SpecDecoder]

/-- The objects that an event delivers to the member. -/
def delivered : Event → List ManagedObject
  | .push repos faults db cluster _ _ =>
    match renderFor repos faults db cluster with
    | .ok res => res.objects
    | .error _ => []
  | _ => []

/-- One event. -/
def step (w : World) : Event → World
  | .tick elapsed => { w with now := w.now + elapsed }
  | .push repos faults db cluster apiFaults traceID =>
    match renderFor repos faults db cluster with
    | .ok res =>
      { w with member :=
          (applyDesiredState apiFaults w.now w.member
            { objects := res.objects, traceID := traceID }).1 }
    -- `pushLoop` sends nothing when the render fails.
    | .error _ => w
  | .reconcile name apiFaults =>
    { w with member :=
        { w.member with
          exceptions := (Operator.reconcile apiFaults w.now w.member name).1 } }

/-! ## Expiry -/

/-- The exception is gone or expired. -/
def Ended (name : String) (w : World) : Prop :=
  ∀ e, w.member.exceptions[name]? = some e → e.status.phase = .expired

/-- The event is a reconcile that leaves the exception expired, or one in which
`handleExpired` deletes it. -/
def Expires (name : String) (w : World) (a : Event) : Prop :=
  (∃ apiFaults, a = .reconcile name apiFaults) ∧
    ((∃ e, (step w a).member.exceptions[name]? = some e ∧ e.status.phase = .expired) ∨
      (step w a).member.exceptions[name]? = none ∧
        ∃ e, w.member.exceptions[name]? = some e ∧ e.status.phase = .expired)

/-- A push that carries the exception finds it on the member. -/
def FindsException (name : String) (w : World) (a : Event) : Prop :=
  (∃ o ∈ delivered a, o.kind = .policyException ∧ o.name = name) →
    name ∈ w.member.exceptions

/-- One event keeps an exception ended, unless it is a push that creates it
anew. -/
theorem step_ended {name : String} (w : World) (a : Event) (h : Ended name w)
    (hfinds : FindsException name w a) : Ended name (step w a) := by
  cases a with
  | tick elapsed => exact h
  | reconcile key apiFaults =>
    intro e he
    exact reconcile_expired h he
  | push repos faults db cluster apiFaults traceID =>
    intro e he
    cases hrender : renderFor repos faults db cluster with
    | error err =>
      simp only [step, hrender] at he
      exact h e he
    | ok res =>
      simp only [step, hrender] at he
      simp only [FindsException, delivered, hrender] at hfinds
      have hkept : StatusKept name w.member.exceptions (applyDesiredState apiFaults w.now w.member
            { objects := res.objects, traceID := traceID }).1.exceptions :=
        applyDesiredState_statusKept hfinds apiFaults w.now
      obtain ⟨e0, he0, hstatus⟩ := hkept e he
      rw [hstatus]
      exact h e0 he0

/-- The event that expires an exception leaves it ended. -/
theorem Expires.ended {name : String} {w : World} {a : Event} (h : Expires name w a) :
    Ended name (step w a) := by
  intro e he
  rcases h.2 with ⟨found, hfound, hphase⟩ | ⟨hgone, -⟩
  · rw [hfound] at he
    cases he
    exact hphase
  · rw [hgone] at he
    exact absurd he (by simp)

/-- Expiry is final in every run where each push that carries the exception
finds it on the member. -/
theorem expiry_final {name : String} {w : World} (before : List Event) {a : Event}
    (hexpires : Expires name (run step w before) a) {after : List Event}
    (hguard : Guarded (FindsException name) step (step (run step w before) a) after) :
    ∀ e, (run step w (before ++ a :: after)).member.exceptions[name]? = some e →
      e.status.phase ≠ .active := by
  intro e he
  rw [run_append, run_cons] at he
  have hended := run_invariant step_ended hexpires.ended hguard
  rw [hended e he]
  decide

/-! ## Resyncs -/

/-- Resyncs of unchanged tables, whatever reads fail, do to the member what one
snapshot does, or nothing. -/
theorem resyncs_apply_once (repos : Repos) (db : Database.Tables) (cluster traceID : String)
    (w : World) (resyncs : List (Nat × Database.Faults)) :
    let after := run (fun v r => step (step v (.tick r.1))
      (.push repos r.2 db cluster (fun _ => none) traceID)) w resyncs
    after.member = w.member ∨ ∃ now, after.member = (applyDesiredState (fun _ => none) now
      w.member { objects := (baseSnapshot repos db cluster).objects, traceID }).1 := by
  refine run_invariant_of_step (I := fun v : World => v.member = w.member ∨
    ∃ now, v.member = (applyDesiredState (fun _ => none) now w.member _).1) ?_ (.inl rfl) resyncs
  intro v r hv
  cases hres : renderFor repos r.2 db cluster with
  | error err => simpa only [step, hres] using hv
  | ok res =>
    simp only [step, hres, renderFor_objects_of_ok hres]
    right
    rcases hv with hsame | ⟨now, hsettled⟩
    · rw [hsame]
      exact ⟨_, rfl⟩
    · rw [hsettled]
      exact ⟨now, apply_twice (rendered_distinct _ traceID) now _ w.member⟩

end

/-! ## A run in which an exception returns -/

attribute [local instance] Apimachinery.basic GoUnicode.ascii Digest.names SpecDecoder.strict

/-- Tables with one exception that is distributed to the cluster `prod`. -/
def waiverTables : Database.Tables where
  clusters := [{ name := "prod" }]
  exceptions := [{ owner := .system, name := "waiver", spec := migration }]
  distributions := [{ owner := .system, name := "prod-waiver"
                      spec := { clusters := { byName := ["prod"] }
                                policyExceptions := ["waiver"] } }]

/-- A push from the tables above. -/
def pushWaiver : Event :=
  .push {} (fun _ => none) waiverTables "prod" (fun _ => none) "trace"

def reconcileWaiver : Event :=
  .reconcile "waiver" fun _ => none

/-- The exception arrives, becomes active, and its hour passes. -/
def hourLater : World :=
  run step { now := 0, member := { policies := ∅, groups := ∅, exceptions := ∅ } }
    [pushWaiver, reconcileWaiver, .tick 3600000000000]

def phaseOf (name : String) (w : World) : Option ExceptionPhase :=
  w.member.exceptions[name]?.map fun e => e.status.phase

theorem exists_of_phaseOf {name : String} {w : World} {phase : ExceptionPhase}
    (h : phaseOf name w = some phase) :
    ∃ e, w.member.exceptions[name]? = some e ∧ e.status.phase = phase :=
  Option.map_eq_some_iff.mp h

/-- The reconcile after the hour expires the exception, the next one deletes
it, and the push after that brings it back for another hour. -/
theorem expired_exception_revives : Expires "waiver" hourLater reconcileWaiver ∧
      ∃ e, (run step (step hourLater reconcileWaiver)
          [reconcileWaiver, pushWaiver, reconcileWaiver]).member.exceptions["waiver"]? = some e ∧
        e.status.phase = .active := by
  refine ⟨⟨⟨_, rfl⟩, .inl (exists_of_phaseOf ?_)⟩, exists_of_phaseOf ?_⟩
  · decide +kernel
  · decide +kernel

/-- A push between the expiry and the deletion leaves the exception expired. -/
theorem expiry_final_push : Expires "waiver" hourLater reconcileWaiver ∧
      ∀ e, (run step { now := 0, member := { policies := ∅, groups := ∅, exceptions := ∅ } }
          ([pushWaiver, reconcileWaiver, .tick 3600000000000] ++
            reconcileWaiver :: [pushWaiver, reconcileWaiver])).member.exceptions["waiver"]? =
          some e → e.status.phase ≠ .active := by
  have hexpires : Expires "waiver" hourLater reconcileWaiver :=
    ⟨⟨_, rfl⟩, .inl (exists_of_phaseOf (by decide +kernel))⟩
  refine ⟨hexpires, expiry_final [pushWaiver, reconcileWaiver, .tick 3600000000000] hexpires ?_⟩
  refine ⟨fun _ => ?_, fun hcarries => ?_, trivial⟩
  · decide +kernel
  · obtain ⟨o, ho, -⟩ := hcarries
    exact absurd ho List.not_mem_nil

end KubeSentry.Hublink
