import KubeSentry.Api.Types
import KubeSentry.GoLib.Run
import Std.Data.ExtTreeMap.Lemmas

/-!
# Sync sessions and their push loops

Every `Sync` stream of a member has a session.  `sessionRegistry` indexes the
sessions of a cluster by operator instance and knows which one leads, and the
leading session runs a push loop.  `updateRole` brings the two together in several
steps: `put` under the lock of the registry, `stopPush` for each session that was
demoted, a second look at the registry with `leader`, and `startPush` under the
lock of the session.  Other streams can come in between.

`SyncPoint` is where a stream is between two of these steps, and `Hub.step` is one
step of one stream.  A session is named by its position in the list of all
sessions, as the source compares pointers.

`PushState` is the part of a session that `pushMu` guards, together with the
goroutines that `startPush` has started.  Its fields say that a loop which still
runs is the one whose cancel function is stored, so that `stopPush` stops it.

The order in which `put` and `leader` walk through the instances is the key order
here.  The order matters only when several instances lead, which
`KubeSentry.Gateway.SinglePusher` shows not to happen.
-/

namespace KubeSentry.Gateway

open GoLib

/-! ## The push loops of a session -/

/-- A goroutine of `startPush`.  `cancelled` says that its context is done, and
`returned` that `run` has returned. -/
structure PushLoop where
  sequence : Nat
  cancelled : Bool := false
  returned : Bool := false
  deriving DecidableEq

/-- The loop pushes, and nobody has told it to stop. -/
def PushLoop.Running (l : PushLoop) : Prop :=
  l.cancelled = false ∧ l.returned = false

instance (l : PushLoop) : Decidable l.Running :=
  inferInstanceAs (Decidable (_ ∧ _))

/-- `cancel`, `pushSeq` and the goroutines.  `cancel` is the sequence of the loop
that the stored function cancels. -/
structure PushState where
  cancel : Option Nat := none
  pushSeq : Nat := 0
  loops : List PushLoop := []
  bounded : ∀ l ∈ loops, l.sequence ≤ pushSeq
  distinct : (loops.map fun l => l.sequence).Nodup
  current : ∀ sequence, cancel = some sequence → pushSeq = sequence
  owned : ∀ l ∈ loops, l.Running → cancel = some l.sequence

namespace PushState

/-- A session without goroutines. -/
def idle : PushState where
  bounded := fun _ h => absurd h List.not_mem_nil
  distinct := List.nodup_nil
  current := fun _ h => absurd h (Option.some_ne_none _).symm
  owned := fun _ h => absurd h List.not_mem_nil

/-- The session has a running push loop. -/
def Pushing (p : PushState) : Prop :=
  ∃ l ∈ p.loops, l.Running

instance (p : PushState) : Decidable p.Pushing :=
  inferInstanceAs (Decidable (∃ l ∈ p.loops, l.Running))

theorem map_sequence {f : PushLoop → PushLoop} (hseq : ∀ l, (f l).sequence = l.sequence)
    (loops : List PushLoop) :
    (loops.map f).map (fun l => l.sequence) = loops.map fun l => l.sequence := by
  rw [List.map_map]
  exact List.map_congr_left fun l _ => hseq l

/-- The loops after a change that starts none: it keeps the sequences, and a loop
that runs afterwards has been running. -/
def mark (p : PushState) (f : PushLoop → PushLoop) (hseq : ∀ l, (f l).sequence = l.sequence)
    (hrun : ∀ l, (f l).Running → l.Running) : PushState where
  cancel := p.cancel
  pushSeq := p.pushSeq
  loops := p.loops.map f
  bounded := by
    intro l' hl'
    obtain ⟨l, hl, rfl⟩ := List.mem_map.mp hl'
    rw [hseq]
    exact p.bounded l hl
  distinct := by
    rw [map_sequence hseq]
    exact p.distinct
  current := p.current
  owned := by
    intro l' hl' hrunning
    obtain ⟨l, hl, rfl⟩ := List.mem_map.mp hl'
    rw [hseq]
    exact p.owned l hl (hrun l hrunning)

variable {p : PushState}

theorem pushing_of_mark {f : PushLoop → PushLoop} {hseq : ∀ l, (f l).sequence = l.sequence}
    {hrun : ∀ l, (f l).Running → l.Running} (h : (p.mark f hseq hrun).Pushing) : p.Pushing := by
  obtain ⟨l', hl', hrunning⟩ := h
  obtain ⟨l, hl, rfl⟩ := List.mem_map.mp hl'
  exact ⟨l, hl, hrun l hrunning⟩

/-- A loop that is cancelled does not run. -/
def cancelLoop (l : PushLoop) : PushLoop :=
  { l with cancelled := true }

theorem not_running_cancelLoop (l : PushLoop) : ¬ (cancelLoop l).Running :=
  fun h => Bool.noConfusion h.1

/-- The context of the stream is done. -/
def contextDone (p : PushState) : PushState :=
  p.mark cancelLoop (fun _ => rfl) fun l h => absurd h (not_running_cancelLoop l)

/-- `run` of one goroutine returns. -/
def loopReturned (p : PushState) (sequence : Nat) : PushState :=
  p.mark (fun l => if l.sequence = sequence then { l with returned := true } else l)
    (fun l => by split <;> rfl) (fun l h => by
      split at h
      · exact Bool.noConfusion h.2
      · exact h)

theorem pushing_of_contextDone (h : p.contextDone.Pushing) : p.Pushing :=
  pushing_of_mark h

theorem pushing_of_loopReturned {sequence : Nat} (h : (p.loopReturned sequence).Pushing) :
    p.Pushing :=
  pushing_of_mark h

/-- The end of the goroutine of a loop that has returned. -/
def loopFinished (p : PushState) (sequence : Nat) : PushState :=
  if h : ∃ l ∈ p.loops, l.sequence = sequence ∧ l.returned then
    { cancel := if p.pushSeq = sequence then none else p.cancel
      pushSeq := p.pushSeq
      loops := p.loops.filter fun l => l.sequence ≠ sequence
      bounded := fun l hl => p.bounded l (List.mem_of_mem_filter hl)
      distinct := p.distinct.sublist ((List.filter_sublist).map _)
      current := by
        intro q hq
        split at hq
        · cases hq
        · exact p.current q hq
      owned := by
        intro l hl hrunning
        obtain ⟨hmem, hne⟩ := List.mem_filter.mp hl
        have howned := p.owned l hmem hrunning
        rw [if_neg]
        · exact howned
        · rw [p.current _ howned]
          exact of_decide_eq_true hne }
  else p

/-- `stopPush`. -/
def stopPush (p : PushState) : PushState :=
  match h : p.cancel with
  | none => p
  | some _ =>
    { cancel := none
      pushSeq := p.pushSeq + 1
      loops := p.loops.map fun l => if p.cancel = some l.sequence then cancelLoop l else l
      bounded := by
        intro l' hl'
        obtain ⟨l, hl, rfl⟩ := List.mem_map.mp hl'
        have hle := p.bounded l hl
        split
        · show l.sequence ≤ _
          omega
        · omega
      distinct := by
        rw [map_sequence fun l => by split <;> rfl]
        exact p.distinct
      current := fun _ hq => absurd hq (Option.some_ne_none _).symm
      owned := by
        intro l' hl' hrunning
        obtain ⟨l, hl, rfl⟩ := List.mem_map.mp hl'
        split at hrunning
        · exact absurd hrunning (not_running_cancelLoop l)
        · rename_i hother
          exact absurd (p.owned l hl hrunning) hother }

/-- `startPush` with a context that may be done already. -/
def startPush (p : PushState) (parentDone : Bool) : PushState :=
  match h : p.cancel with
  | some _ => p
  | none =>
    { cancel := some (p.pushSeq + 1)
      pushSeq := p.pushSeq + 1
      loops := p.loops ++ [{ sequence := p.pushSeq + 1, cancelled := parentDone }]
      bounded := by
        intro l hl
        rcases List.mem_append.mp hl with hold | hnew
        · have hle := p.bounded l hold
          omega
        · rw [List.mem_singleton.mp hnew]
      distinct := by
        rw [List.map_append]
        refine List.nodup_append'.mpr ⟨p.distinct, List.nodup_singleton _, ?_⟩
        rw [List.map_singleton, List.disjoint_singleton]
        intro hmem
        obtain ⟨l, hl, hseq⟩ := List.mem_map.mp hmem
        have hle := p.bounded l hl
        change l.sequence = p.pushSeq + 1 at hseq
        omega
      current := fun _ hq => Option.some.inj hq
      owned := by
        intro l hl hrunning
        rcases List.mem_append.mp hl with hold | hnew
        · rw [p.owned l hold hrunning] at h
          cases h
        · rw [List.mem_singleton.mp hnew] }

/-- Nothing runs after `stopPush`. -/
theorem not_pushing_stopPush (p : PushState) : ¬ p.stopPush.Pushing := by
  intro ⟨l, hl, hrunning⟩
  have howned := p.stopPush.owned l hl hrunning
  unfold stopPush at howned
  split at howned
  · rename_i hnone
    rw [hnone] at howned
    cases howned
  · cases howned

theorem pushing_of_loopFinished {sequence : Nat} (h : (p.loopFinished sequence).Pushing) :
    p.Pushing := by
  unfold loopFinished at h
  split at h
  · obtain ⟨l, hl, hrunning⟩ := h
    exact ⟨l, List.mem_of_mem_filter hl, hrunning⟩
  · exact h

/-! ## Hand-over from one loop to the next -/

/-- What happens to the loops of a session while its stream lives: the two calls, a
goroutine that returns from `run`, and one that takes `pushMu` to report its end. -/
inductive PushEvent where
  | start
  | stop
  | returned (sequence : Nat)
  | finished (sequence : Nat)

def pushStep (p : PushState) : PushEvent → PushState
  | .start => p.startPush false
  | .stop => p.stopPush
  | .returned sequence => p.loopReturned sequence
  | .finished sequence => p.loopFinished sequence

/-- The stored function cancels a goroutine that has not ended, and nobody has
called it yet. -/
def Held (p : PushState) : Prop :=
  ∀ sequence, p.cancel = some sequence →
    ∃ l ∈ p.loops, l.sequence = sequence ∧ l.cancelled = false

theorem held_loopReturned (h : p.Held) (sequence : Nat) : (p.loopReturned sequence).Held := by
  intro q hq
  obtain ⟨l, hl, hseq, hlive⟩ := h q hq
  refine ⟨_, List.mem_map_of_mem hl, ?_⟩
  split <;> exact ⟨hseq, hlive⟩

/-- A goroutine that has been replaced leaves the stored function alone. -/
theorem cancel_loopFinished {sequence newer : Nat} (hnewer : p.cancel = some newer)
    (hreplaced : sequence ≠ newer) : (p.loopFinished sequence).cancel = some newer := by
  unfold loopFinished
  split
  · rw [← hnewer]
    apply if_neg
    rw [p.current newer hnewer]
    exact hreplaced.symm
  · exact hnewer

theorem held_loopFinished (h : p.Held) (sequence : Nat) : (p.loopFinished sequence).Held := by
  unfold loopFinished
  split
  · intro q hq
    change (if p.pushSeq = sequence then none else p.cancel) = some q at hq
    split at hq
    · cases hq
    · rename_i hreplaced
      obtain ⟨l, hl, hseq, hlive⟩ := h q hq
      rw [p.current q hq, ← hseq] at hreplaced
      exact ⟨l, List.mem_filter.mpr ⟨hl, decide_eq_true hreplaced⟩, hseq, hlive⟩
  · exact h

theorem held_pushStep (e : PushEvent) (h : p.Held) : (p.pushStep e).Held := by
  cases e with
  | start =>
    show (p.startPush false).Held
    unfold startPush
    split
    · exact h
    · intro q hq
      exact ⟨_, List.mem_append_right _ (List.mem_singleton_self _), Option.some.inj hq, rfl⟩
  | stop =>
    show p.stopPush.Held
    unfold stopPush
    split
    · exact h
    · intro q hq
      cases hq
  | returned sequence => exact held_loopReturned h sequence
  | finished sequence => exact held_loopFinished h sequence

theorem cancelLoop_mem_stopPush {l : PushLoop} (hl : l ∈ p.loops) (hrunning : l.Running) :
    cancelLoop l ∈ p.stopPush.loops := by
  have howned := p.owned l hl hrunning
  unfold stopPush
  split
  · rename_i hnone
    rw [hnone] at howned
    cases howned
  · exact List.mem_map.mpr ⟨l, hl, if_pos howned⟩

theorem startPush_starts (hidle : p.cancel = none) :
    ∃ l ∈ (p.startPush false).loops, l ∉ p.loops ∧ l.Running := by
  unfold startPush
  split
  · rename_i hsome
    rw [hidle] at hsome
    cases hsome
  · refine ⟨_, List.mem_append_right _ (List.mem_singleton_self _), ?_, rfl, rfl⟩
    intro hold
    have hle := p.bounded _ hold
    simp at hle

/-- However the two calls and the ends of the goroutines interleave, at most one loop
runs uncancelled, the end of a loop that has been replaced leaves the function of the
newer one stored, `stopPush` cancels the loop that runs, and `startPush` starts one when
no loop runs uncancelled and none that nobody cancelled has yet to report its end. -/
theorem push_hand_over (events : List PushEvent) :
    let p := run pushStep idle events
    (∀ l ∈ p.loops, ∀ l' ∈ p.loops, l.Running → l'.Running → l = l') ∧
      (∀ l ∈ p.loops, ∀ newer, p.cancel = some newer → l.sequence ≠ newer →
        (p.loopFinished l.sequence).cancel = some newer) ∧
      (∀ l ∈ p.loops, l.Running → cancelLoop l ∈ p.stopPush.loops) ∧
      ((∀ l ∈ p.loops, l.cancelled = false → ¬ l.Running ∧ l.returned = false) →
        ∃ l ∈ (p.startPush false).loops, l ∉ p.loops ∧ l.Running) := by
  intro p
  have hheld : p.Held :=
    run_invariant_of_step (fun _ e h => held_pushStep e h) (fun _ h => by cases h) events
  refine ⟨?_, fun _ _ _ => cancel_loopFinished, fun _ => cancelLoop_mem_stopPush, ?_⟩
  · intro l hl l' hl' hrunning hrunning'
    have howned := p.owned l hl hrunning
    rw [p.owned l' hl' hrunning'] at howned
    exact List.inj_on_of_nodup_map p.distinct hl hl' (Option.some.inj howned).symm
  · intro hnone
    apply startPush_starts
    cases hcancel : p.cancel with
    | none => rfl
    | some q =>
      obtain ⟨l, hl, -, hlive⟩ := hheld q hcancel
      obtain ⟨hstopped, hreturned⟩ := hnone l hl hlive
      exact absurd ⟨hlive, hreturned⟩ hstopped

end PushState

/-! ## The registry -/

/-- The two roles that `updateRole` accepts. -/
inductive MemberRole where
  | leader
  | standby
  deriving DecidableEq

/-- The role of a frame, if it is one that `updateRole` accepts. -/
def MemberRole.parse : String → Option MemberRole
  | "leader" => some .leader
  | "standby" => some .standby
  | _ => none

structure SessionEntry where
  session : Nat
  role : MemberRole
  updatedAt : Time
  deriving DecidableEq

/-- `sessionRegistry.byID`: cluster, instance, entry. -/
abbrev SessionRegistry := GoMap (GoMap SessionEntry)

namespace SessionRegistry

/-- The instances of a cluster. -/
def instances (r : SessionRegistry) (cluster : String) : GoMap SessionEntry :=
  r[cluster]?.getD ∅

/-- A leading entry of another instance. -/
def Demotes (key : String) (entry : String × SessionEntry) : Prop :=
  entry.1 ≠ key ∧ entry.2.role = .leader

instance (key : String) (entry : String × SessionEntry) : Decidable (Demotes key entry) :=
  inferInstanceAs (Decidable (_ ∧ _))

/-- `put`: the registry, and the sessions that were demoted. -/
def put (r : SessionRegistry) (cluster key : String) (role : MemberRole) (session : Nat)
    (now : Time) : SessionRegistry × List Nat :=
  let entries := (r.instances cluster).insert key { session, role, updatedAt := now }
  match role with
  | .standby => (r.insert cluster entries, [])
  | .leader =>
    let demote key' entry :=
      if Demotes key (key', entry) then { entry with role := MemberRole.standby } else entry
    (r.insert cluster (entries.map demote),
      (entries.toList.filter fun e => Demotes key e).map fun e => e.2.session)

/-- One round of the loop of `leader`. -/
def selectLeader (selected : Option SessionEntry) (entry : SessionEntry) : Option SessionEntry :=
  match selected with
  | none => if entry.role = .leader then some entry else none
  | some best =>
    if entry.role = .leader ∧ best.updatedAt < entry.updatedAt then some entry else some best

/-- `leader`. -/
def leader (r : SessionRegistry) (cluster : String) : Option Nat :=
  (((r.instances cluster).toList.map fun e => e.2).foldl selectLeader none).map fun e => e.session

/-- `remove`.  The result of the source, whether the entry was leading, feeds the
platform's session log only and is left out. -/
def remove (r : SessionRegistry) (cluster key : String) (session : Nat) : SessionRegistry :=
  match (r.instances cluster)[key]? with
  | none => r
  | some entry =>
    if entry.session ≠ session then r
    else
      let entries := (r.instances cluster).erase key
      if entries.isEmpty then r.erase cluster else r.insert cluster entries

end SessionRegistry

/-! ## Streams -/

/-- Where a stream is in `Sync`. -/
inductive SyncPoint where
  /-- Between two messages. -/
  | receiving
  /-- In `updateRole`, before `put`. -/
  | putting (role : MemberRole)
  /-- In `updateRole`, with these demoted sessions still to be stopped. -/
  | demoting (session : Nat) (rest : List Nat)
  /-- In `updateRole`, before `leader`. -/
  | checking
  /-- In `updateRole`, before `startPush`. -/
  | starting
  /-- In `updateRole`, before `stopPush`. -/
  | stopping
  /-- In the deferred function, before `stopPush`. -/
  | closing
  /-- In the deferred function, before `remove`. -/
  | removing
  | closed
  deriving DecidableEq

/-- An `updateRole` call is in progress. -/
def SyncPoint.Updating : SyncPoint → Prop
  | .putting _ | .demoting _ _ | .checking | .starting | .stopping => True
  | .receiving | .closing | .removing | .closed => False

instance : (point : SyncPoint) → Decidable point.Updating
  | .putting _ | .demoting _ _ | .checking | .starting | .stopping => .isTrue trivial
  | .receiving | .closing | .removing | .closed => .isFalse id

/-- The point of `updateRole` where these demoted sessions are still to be stopped. -/
def SyncPoint.afterPut : MemberRole → List Nat → SyncPoint
  | .standby, _ => .stopping
  | .leader, [] => .checking
  | .leader, session :: rest => .demoting session rest

structure SyncSession where
  cluster : String
  key : String
  push : PushState := .idle
  /-- The context of the stream is done. -/
  contextDone : Bool := false
  point : SyncPoint

/-- The first frame of a stream. -/
inductive FirstFrame where
  | identity (instanceName role : String)
  | other

/-- The instance and role of a new stream, if its first frame is accepted.  A
client without identity frame is a leader under the name of its cluster. -/
def FirstFrame.accept (cluster : String) : FirstFrame → Option (String × MemberRole)
  | .other => some (cluster, .leader)
  | .identity instanceName role =>
    let key := trimSpace instanceName
    if key = "" then none
    else (MemberRole.parse (trimSpace role)).map fun role => (key, role)

structure Hub where
  registry : SessionRegistry := ∅
  sessions : List SyncSession := []

/-- What can happen to the streams. -/
inductive SyncEvent where
  /-- An authenticated stream sends its first frame. -/
  | opened (cluster : String) (first : FirstFrame)
  /-- A heartbeat arrives. -/
  | heartbeat (session : Nat) (role : String)
  /-- The stream makes its next step in `updateRole` or in the deferred function. -/
  | advance (session : Nat) (now : Time)
  /-- The receive loop returns. -/
  | ended (session : Nat)
  | contextDone (session : Nat)
  | loopReturned (session sequence : Nat)
  | loopFinished (session sequence : Nat)

namespace Hub

/-- The hub with one session changed. -/
def modify (hub : Hub) (k : Nat) (f : SyncSession → SyncSession) : Hub :=
  { hub with sessions := hub.sessions.modify k f }

def moveTo (hub : Hub) (k : Nat) (point : SyncPoint) : Hub :=
  hub.modify k fun ss => { ss with point := point }

def stopPush (hub : Hub) (k : Nat) : Hub :=
  hub.modify k fun ss => { ss with push := ss.push.stopPush }

def startPush (hub : Hub) (k : Nat) : Hub :=
  hub.modify k fun ss => { ss with push := ss.push.startPush ss.contextDone }

/-- The next step of a stream that is in `updateRole` or in its deferred
function. -/
def advance (hub : Hub) (k : Nat) (ss : SyncSession) (now : Time) : Hub :=
  match ss.point with
  | .putting role =>
    let (registry, demoted) := hub.registry.put ss.cluster ss.key role k now
    { hub with registry := registry }.moveTo k (.afterPut role demoted)
  | .demoting session rest => (hub.stopPush session).moveTo k (.afterPut .leader rest)
  | .checking =>
    hub.moveTo k (if hub.registry.leader ss.cluster = some k then .starting else .receiving)
  | .starting => (hub.startPush k).moveTo k .receiving
  | .stopping => (hub.stopPush k).moveTo k .receiving
  | .closing => (hub.stopPush k).moveTo k .removing
  | .removing =>
    { hub with registry := hub.registry.remove ss.cluster ss.key k }.moveTo k .closed
  | .receiving | .closed => hub

def step (hub : Hub) : SyncEvent → Hub
  | .opened cluster first =>
    match first.accept cluster with
    | none => hub
    | some (key, role) =>
      { hub with
        sessions := hub.sessions ++ [{ cluster := cluster, key := key, point := .putting role }] }
  | .heartbeat k role =>
    match hub.sessions[k]?, MemberRole.parse role with
    | some ss, some role => if ss.point = .receiving then hub.moveTo k (.putting role) else hub
    | _, _ => hub
  | .advance k now =>
    match hub.sessions[k]? with
    | some ss => hub.advance k ss now
    | none => hub
  | .ended k =>
    match hub.sessions[k]? with
    | some ss => if ss.point = .receiving then hub.moveTo k .closing else hub
    | none => hub
  | .contextDone k =>
    hub.modify k fun ss => { ss with push := ss.push.contextDone, contextDone := true }
  | .loopReturned k sequence =>
    hub.modify k fun ss => { ss with push := ss.push.loopReturned sequence }
  | .loopFinished k sequence =>
    hub.modify k fun ss => { ss with push := ss.push.loopFinished sequence }

end Hub

end KubeSentry.Gateway
