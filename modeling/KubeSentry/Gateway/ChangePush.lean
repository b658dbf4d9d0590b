import KubeSentry.GoLib.Run
import KubeSentry.Gateway.Render

/-!
# Changes and the push loop

Whoever changes what the gateway renders writes to the database and then calls `Notify`
or `NotifyWithTrace` of the shared `Notifier`.  `Notify` closes the current channel and
installs a new one.  The push loop of a session captures the channel, renders, sends what
is new, and then waits in its `select` until the captured channel is closed.

`PushWorld` has the notifier, the changes in the order of their commits, one session with
its push loop, and what the session has sent.  `PushPoint` is where the loop is between
two of its calls, and `PushFrame` has its local variables.  A call under the mutex of the
notifier is one step, so `NotifyWithTrace` takes two.  A render reads the database while
it runs, and what it finds is open here; only its beginning is fixed, and `renderedFrom`
counts the changes that were committed then.

`Settled` is the invariant.  Its main part is `Settled.seen`: while the captured channel
is open, nobody has notified since it was captured, and the render has begun later.
`markPushed` writes status rows, which `KubeSentry.Gateway.DistributionStatus` has; the
loop does not read them.
-/

namespace KubeSentry.Gateway

open GoLib

/-! ## The notifier -/

/-- `Notifier`.  Channels are numbered in the order in which they are made, and `closed`
says which of them are closed.  The current channel is the only open one. -/
structure Notifier where
  closed : List Bool
  ch : Nat
  traceID : String := ""
  current : closed[ch]? = some false
  others : ∀ c, closed[c]? = some false → c = ch

namespace Notifier

/-- `NewNotifier`. -/
def new : Notifier where
  closed := [false]
  ch := 0
  current := rfl
  others := by
    intro c hc
    have hlt : c < 1 := (List.getElem?_eq_some_iff.mp hc).1
    omega

variable (n : Notifier)

def IsOpen (c : Nat) : Prop :=
  n.closed[c]? = some false

instance (n : Notifier) (c : Nat) : Decidable (n.IsOpen c) :=
  inferInstanceAs (Decidable (_ = _))

/-- The channel exists. -/
def Made (c : Nat) : Prop :=
  c < n.closed.length

/-- `Notify`.  The channel that it closes is open, so that `close` does not panic. -/
def notify : Notifier where
  closed := n.closed.set n.ch true ++ [false]
  ch := n.closed.length
  traceID := n.traceID
  current := by
    simp
  others := by
    intro c hc
    by_contra hne
    have hlt : c < (n.closed.set n.ch true).length := by
      have hbound := (List.getElem?_eq_some_iff.mp hc).1
      simp only [List.length_append, List.length_set, List.length_singleton] at hbound ⊢
      omega
    rw [List.getElem?_append_left hlt, List.getElem?_set] at hc
    split at hc
    · split at hc
      · cases hc
      · cases hc
    · rename_i hother
      exact hother (n.others c hc).symm

/-- The first half of `NotifyWithTrace`. -/
def stash (traceID : String) : Notifier :=
  { n with traceID := traceID }

def lastTraceID : String := n.traceID

def wait : Nat := n.ch

theorem made_wait : n.Made n.wait := (List.getElem?_eq_some_iff.mp n.current).1

theorem made_notify {n : Notifier} {c : Nat} (h : n.Made c) : n.notify.Made c := by
  unfold Made at h ⊢
  simp only [notify, List.length_append, List.length_set, List.length_singleton]
  omega

/-- `Notify` wakes everybody who has captured a channel before. -/
theorem not_isOpen_notify {n : Notifier} {c : Nat} (h : n.Made c) : ¬ n.notify.IsOpen c := by
  intro hopen
  have hnew : c = n.closed.length := n.notify.others c hopen
  unfold Made at h
  omega

end Notifier

/-! ## Changes -/

inductive ChangeStage where
  | committed
  | stashed
  | notified
  deriving DecidableEq

/-- A write to the database, with the trace ID of its `NotifyWithTrace`; without one its
writer calls `Notify`. -/
structure Change where
  traceID : Option String := none
  stage : ChangeStage := .committed
  deriving DecidableEq

/-- The writer calls `Notify` next. -/
def Change.MayNotify (c : Change) : Prop :=
  c.stage = if c.traceID.isSome then .stashed else .committed

instance (c : Change) : Decidable c.MayNotify :=
  inferInstanceAs (Decidable (_ = _))

/-- The `Notify` of the change at `k` has completed. -/
def Announced (changes : List Change) (k : Nat) : Prop :=
  ∃ c, changes[k]? = some c ∧ c.stage = .notified

/-! ## The push loop -/

/-- A `DesiredState` message. -/
structure Snapshot where
  versionHash : String
  objects : List ManagedObject
  traceID : String
  uninstallTasks : List UninstallTask
  admissionEventConfig : Option AdmissionEventConfig
  deriving DecidableEq

/-- The message for a render. -/
def RenderResult.snapshot (res : RenderResult) (traceID : String) : Snapshot where
  versionHash := res.hash
  objects := res.objects
  traceID := traceID
  uninstallTasks := res.uninstallTasks
  admissionEventConfig := res.admissionEventConfig

/-- The variables of the loop. -/
structure PushFrame where
  forceSend : Bool := false
  wokeByNotify : Bool := false
  waitCh : Nat := 0
  traceID : String := ""

/-- The next call of the loop. -/
inductive PushPoint where
  | capture
  | peek
  | render
  | rendering
  | compare (res : RenderResult)
  | send (res : RenderResult) (changed : Bool)
  | setLast (res : RenderResult)
  | mark (res : RenderResult)
  | select
  | returned
  deriving DecidableEq

structure PushWorld where
  notifier : Notifier := .new
  changes : List Change := []
  last : Option RenderResult := none
  sent : List Snapshot := []
  frame : PushFrame := {}
  point : PushPoint := .capture
  /-- How many changes were committed when the last render began. -/
  renderedFrom : Nat := 0
  /-- What the last render has returned. -/
  rendered : Option RenderResult := none

/-- What the environment decides about a step of the loop. -/
inductive PushInput where
  | proceed
  | rendered (res : RenderResult)
  | renderFailed
  | sendFailed
  | wake
  | tick
  | done
  deriving DecidableEq

namespace PushWorld

/-- The end of a round: the loop waits in its `select`. -/
def park (w : PushWorld) : PushWorld :=
  { w with
    frame := { w.frame with forceSend := false, wokeByNotify := false }
    point := .select }

/-- One step of `pushLoop`.  An input that does not fit changes nothing. -/
def pushLoop (w : PushWorld) (input : PushInput) : PushWorld :=
  match w.point with
  | .capture =>
    { w with frame := { w.frame with waitCh := w.notifier.wait }, point := .peek }
  | .peek =>
    { w with frame := { w.frame with traceID := w.notifier.lastTraceID }, point := .render }
  | .render => { w with renderedFrom := w.changes.length, point := .rendering }
  | .rendering =>
    match input with
    | .rendered res => { w with rendered := some res, point := .compare res }
    | .renderFailed => w.park
    | _ => w
  | .compare res =>
    let changed := decide (w.last.map (·.hash) ≠ some res.hash)
    if changed || w.frame.forceSend then { w with point := .send res changed }
    else { w with point := .mark res }
  | .send res changed =>
    match input with
    | .sendFailed => { w with point := .returned }
    | _ =>
      -- only a change that a notification has announced carries its trace ID
      let traceID := if w.frame.wokeByNotify && changed then w.frame.traceID else ""
      { w with sent := w.sent ++ [res.snapshot traceID], point := .setLast res }
  | .setLast res => { w with last := some res, point := .mark res }
  | .mark _ => w.park
  | .select =>
    match input with
    | .done => { w with point := .returned }
    | .wake =>
      if w.notifier.IsOpen w.frame.waitCh then w
      else { w with frame := { w.frame with wokeByNotify := true }, point := .capture }
    | .tick => { w with frame := { w.frame with forceSend := true }, point := .capture }
    | _ => w
  | .returned => w

end PushWorld

/-- A writer commits its change, stashes its trace ID or notifies, or the loop takes a step. -/
inductive PushEvent where
  | commit (traceID : Option String)
  | stash (k : Nat)
  | notify (k : Nat)
  | push (input : PushInput)
  deriving DecidableEq

namespace PushWorld

def setStage (w : PushWorld) (k : Nat) (c : Change) (stage : ChangeStage) : PushWorld :=
  { w with changes := w.changes.set k { c with stage := stage } }

def commit (w : PushWorld) (traceID : Option String) : PushWorld :=
  { w with changes := w.changes ++ [{ traceID := traceID }] }

/-- The first half of the `NotifyWithTrace` of a change. -/
def stash (w : PushWorld) (k : Nat) : PushWorld :=
  match w.changes[k]? with
  | some ⟨some traceID, .committed⟩ =>
    { w.setStage k ⟨some traceID, .committed⟩ .stashed with notifier := w.notifier.stash traceID }
  | _ => w

def notify (w : PushWorld) (k : Nat) : PushWorld :=
  match w.changes[k]? with
  | some c =>
    if c.MayNotify then { w.setStage k c .notified with notifier := w.notifier.notify } else w
  | none => w

def step (w : PushWorld) : PushEvent → PushWorld
  | .commit traceID => w.commit traceID
  | .stash k => w.stash k
  | .notify k => w.notify k
  | .push input => w.pushLoop input

end PushWorld

/-! ## The invariant -/

/-- The render of this round has begun. -/
def PushPoint.RenderBegun : PushPoint → Prop
  | .capture | .peek | .render | .returned => False
  | _ => True

namespace PushWorld

def lastHash (w : PushWorld) : Option String := w.last.map (·.hash)

def lastSentHash (w : PushWorld) : Option String := w.sent.getLast?.map (·.versionHash)

/-- The session remembers what it has sent last, except between the send and `setLast`,
and after these two it has sent what the loop has rendered. -/
def Agrees (w : PushWorld) : Prop :=
  match w.point with
  | .capture | .peek | .render | .rendering => w.lastHash = w.lastSentHash
  | .compare res | .send res _ => w.rendered = some res ∧ w.lastHash = w.lastSentHash
  | .setLast res => w.rendered = some res ∧ w.lastSentHash = some res.hash
  | .mark res =>
    w.rendered = some res ∧ w.lastHash = w.lastSentHash ∧ w.lastSentHash = some res.hash
  | .select =>
    w.lastHash = w.lastSentHash ∧ ∃ res, w.rendered = some res ∧ w.lastSentHash = some res.hash
  | .returned => True

structure Settled (w : PushWorld) : Prop where
  made : w.notifier.Made w.frame.waitCh
  seen : w.point.RenderBegun → w.notifier.IsOpen w.frame.waitCh →
    ∀ k, Announced w.changes k → k < w.renderedFrom
  agrees : w.Agrees

/-! ## Writers -/

variable {changes : List Change} {k : Nat} {w : PushWorld}

theorem announced_commit {traceID : Option String}
    (h : Announced (changes ++ [{ traceID := traceID }]) k) : Announced changes k := by
  obtain ⟨c, hc, hstage⟩ := h
  by_cases hlt : k < changes.length
  · rw [List.getElem?_append_left hlt] at hc
    exact ⟨c, hc, hstage⟩
  · rw [List.getElem?_append_right (by omega)] at hc
    have hnew : c = { traceID := traceID } := List.mem_singleton.mp (List.mem_of_getElem? hc)
    rw [hnew] at hstage
    cases hstage

theorem announced_stash {c : Change} {j : Nat}
    (h : Announced (changes.set j { c with stage := .stashed }) k) : Announced changes k := by
  obtain ⟨c', hc', hstage⟩ := h
  rw [List.getElem?_set] at hc'
  split at hc'
  · split at hc'
    · cases hc'
      cases hstage
    · cases hc'
  · exact ⟨c', hc', hstage⟩

theorem Settled.commit (h : w.Settled) (traceID : Option String) : (w.commit traceID).Settled where
  made := h.made
  seen := fun hbegun hopen k hk => h.seen hbegun hopen k (announced_commit hk)
  agrees := h.agrees

theorem Settled.stash (h : w.Settled) (k : Nat) : (w.stash k).Settled := by
  unfold PushWorld.stash
  split
  · exact
      { made := h.made
        seen := fun hbegun hopen k hk => h.seen hbegun hopen k (announced_stash hk)
        agrees := h.agrees }
  · exact h

/-- A notification closes the captured channel, whenever it was captured. -/
theorem Settled.notify (h : w.Settled) (k : Nat) : (w.notify k).Settled := by
  unfold PushWorld.notify
  split
  · split
    · exact
        { made := Notifier.made_notify h.made
          seen := fun _ hopen => absurd hopen (Notifier.not_isOpen_notify h.made)
          agrees := h.agrees }
    · exact h
  · exact h

/-! ## The loop -/

/-- The world after a step of the loop that touches neither the notifier nor the writers. -/
theorem Settled.advance {w' : PushWorld} (h : w.Settled) (hnotifier : w'.notifier = w.notifier)
    (hchanges : w'.changes = w.changes) (hwait : w'.frame.waitCh = w.frame.waitCh)
    (hfrom : w'.renderedFrom = w.renderedFrom) (hbegun : w'.point.RenderBegun → w.point.RenderBegun)
    (hagrees : w'.Agrees) : w'.Settled where
  made := by
    rw [hnotifier, hwait]
    exact h.made
  seen := by
    intro hpoint hopen
    rw [hnotifier, hwait] at hopen
    rw [hchanges, hfrom]
    exact h.seen (hbegun hpoint) hopen
  agrees := hagrees

theorem lastSentHash_send (w : PushWorld) (res : RenderResult) (traceID : String)
    (point : PushPoint) :
    lastSentHash { w with sent := w.sent ++ [res.snapshot traceID], point := point } =
      some res.hash := by
  simp [lastSentHash, RenderResult.snapshot]

theorem Settled.pushLoop (h : w.Settled) {input : PushInput} (hinput : input ≠ .renderFailed) :
    (w.pushLoop input).Settled := by
  have hbegun : ∀ {p : PushPoint}, w.point = p → p.RenderBegun → w.point.RenderBegun := by
    intro p hp hbegun
    rw [hp]
    exact hbegun
  have hagrees := h.agrees
  unfold PushWorld.pushLoop
  unfold Agrees at hagrees
  cases hpoint : w.point with
  | capture =>
    rw [hpoint] at hagrees
    exact
      { made := w.notifier.made_wait
        seen := fun hbegun => hbegun.elim
        agrees := hagrees }
  | peek =>
    rw [hpoint] at hagrees
    exact h.advance rfl rfl rfl rfl (fun hbegun => hbegun.elim) hagrees
  | render =>
    rw [hpoint] at hagrees
    exact
      { made := h.made
        seen := fun _ _ _ ⟨_, hc, _⟩ => (List.getElem?_eq_some_iff.mp hc).1
        agrees := hagrees }
  | rendering =>
    rw [hpoint] at hagrees
    cases input with
    | rendered res =>
      exact h.advance rfl rfl rfl rfl (fun _ => hbegun hpoint trivial) ⟨rfl, hagrees⟩
    | renderFailed => exact absurd rfl hinput
    | _ => exact h
  | compare res =>
    rw [hpoint] at hagrees
    dsimp only
    split
    · exact h.advance rfl rfl rfl rfl (fun _ => hbegun hpoint trivial) hagrees
    · rename_i hsame
      have hquiet : ¬ (decide (w.lastHash ≠ some res.hash) || w.frame.forceSend) = true := hsame
      simp only [Bool.or_eq_true, decide_eq_true_eq, not_or, ne_eq, not_not] at hquiet
      exact h.advance rfl rfl rfl rfl (fun _ => hbegun hpoint trivial)
        ⟨hagrees.1, hagrees.2, hagrees.2.symm.trans hquiet.1⟩
  | send res changed =>
    rw [hpoint] at hagrees
    dsimp only
    split
    · exact h.advance rfl rfl rfl rfl (fun _ => hbegun hpoint trivial) trivial
    · exact h.advance rfl rfl rfl rfl (fun _ => hbegun hpoint trivial)
        ⟨hagrees.1, lastSentHash_send w res _ _⟩
  | setLast res =>
    rw [hpoint] at hagrees
    exact h.advance rfl rfl rfl rfl (fun _ => hbegun hpoint trivial)
      ⟨hagrees.1, hagrees.2.symm, hagrees.2⟩
  | mark res =>
    rw [hpoint] at hagrees
    exact h.advance rfl rfl rfl rfl (fun _ => hbegun hpoint trivial)
      ⟨hagrees.2.1, res, hagrees.1, hagrees.2.2⟩
  | select =>
    rw [hpoint] at hagrees
    cases input with
    | done => exact h.advance rfl rfl rfl rfl (fun hbegun => hbegun.elim) trivial
    | wake =>
      dsimp only
      split
      · exact h
      · exact h.advance rfl rfl rfl rfl (fun hbegun => hbegun.elim) hagrees.1
    | tick => exact h.advance rfl rfl rfl rfl (fun hbegun => hbegun.elim) hagrees.1
    | _ => exact h
  | returned => exact h

theorem Settled.step (h : w.Settled) {e : PushEvent} (he : e ≠ .push .renderFailed) :
    (w.step e).Settled := by
  cases e with
  | commit traceID => exact h.commit traceID
  | stash k => exact h.stash k
  | notify k => exact h.notify k
  | push input =>
    have hinput : input ≠ .renderFailed := by
      intro heq
      rw [heq] at he
      exact he rfl
    exact h.pushLoop hinput

/-! ## Runs -/

/-- A loop starts on a session that may have been pushed to before. -/
def start (notifier : Notifier) (changes : List Change) (last : Option RenderResult)
    (sent : List Snapshot) : PushWorld where
  notifier := notifier
  changes := changes
  last := last
  sent := sent

theorem settled_start (notifier : Notifier) (changes : List Change) {last : Option RenderResult}
    {sent : List Snapshot} (hsession : last.map (·.hash) = sent.getLast?.map (·.versionHash)) :
    (start notifier changes last sent).Settled where
  made := by
    have hlt := notifier.made_wait
    unfold Notifier.Made at hlt ⊢
    show 0 < notifier.closed.length
    omega
  seen := fun hbegun => hbegun.elim
  agrees := hsession

/-- A loop that waits on an open channel has missed nothing: each change whose `Notify` has
completed was committed when the last render began, and what that render returned is what
the member got last. -/
theorem parked_loop_is_current (notifier : Notifier) (changes : List Change)
    {last : Option RenderResult} {sent : List Snapshot}
    (hsession : last.map (·.hash) = sent.getLast?.map (·.versionHash)) {events : List PushEvent}
    (hrenders : Guarded (fun _ e => e ≠ .push .renderFailed) step
      (start notifier changes last sent) events) :
    let w := run step (start notifier changes last sent) events
    w.point = .select → w.notifier.IsOpen w.frame.waitCh →
      (∀ k, Announced w.changes k → k < w.renderedFrom) ∧
        ∃ res snapshot, w.rendered = some res ∧ w.sent.getLast? = some snapshot ∧
          snapshot.versionHash = res.hash := by
  intro w hselect hopen
  have hsettled : w.Settled := run_invariant (I := Settled) (fun _ _ h he => h.step he)
    (settled_start notifier changes hsession) hrenders
  have hagrees := hsettled.agrees
  unfold Agrees at hagrees
  rw [hselect] at hagrees
  obtain ⟨_, res, hres, hhash⟩ := hagrees
  obtain ⟨snapshot, hsnapshot, hversion⟩ := Option.map_eq_some_iff.mp hhash
  refine ⟨hsettled.seen ?_ hopen, res, snapshot, hres, hsnapshot, hversion⟩
  rw [hselect]
  trivial

/-- A change is announced while the loop renders for the first time.  The loop renders once
more, finds the same hash and waits again. -/
def announcedWhileRendering (res : RenderResult) : List PushEvent :=
  [.push .proceed, .push .proceed, .push .proceed, .commit none, .notify 0,
    .push (.rendered res), .push .proceed, .push .proceed, .push .proceed, .push .proceed,
    .push .wake, .push .proceed, .push .proceed, .push .proceed, .push (.rendered res),
    .push .proceed, .push .proceed]

theorem parked_loop_is_current_woken :
    let res : RenderResult := { hash := "h", objects := [], matched := [], errors := ∅ }
    let w := run step (start .new [] none []) (announcedWhileRendering res)
    (∀ k, Announced w.changes k → k < w.renderedFrom) ∧
      ∃ res snapshot, w.rendered = some res ∧ w.sent.getLast? = some snapshot ∧
        snapshot.versionHash = res.hash :=
  parked_loop_is_current .new [] rfl (by decide +kernel) (by decide +kernel) (by decide +kernel)

end PushWorld

end KubeSentry.Gateway
