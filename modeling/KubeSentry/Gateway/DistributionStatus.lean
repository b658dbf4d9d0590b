import KubeSentry.GoLib.Interleave
import KubeSentry.Gateway.Render

/-!
# Distribution status rows

The status row of a distribution for one cluster, as one sync session writes it.
On the gateway, `pushLoop` renders, sends and marks (`markPushed`), and the loop
of `Sync` that receives marks what the member reports (`markReported`).  On the
member, one goroutine applies what arrives and reports the outcome, and another
one reports the last success from time to time.

Every repository call, every send and every access to a shared variable is a
call of its own, so the four goroutines interleave freely.  Repository calls may
fail.  A session has one goroutine of each kind and runs its rounds one after
the other; the pool of threads allows any number at once.

Left out are the objects of a snapshot and the uninstall tasks, which the status
rows do not depend on, and the counters of a status report.
-/

namespace KubeSentry.Gateway

open GoLib

/-! ## Data -/

/-- `gatewaymodel.DistributionStatus`; `unset` is the empty string of a new
row. -/
inductive DistributionState where
  | unset
  | pending
  | synced
  | error
  deriving DecidableEq

/-- `DistributionClusterStatus` of one distribution and one cluster.  A row that
has not been stored has the id 0. -/
structure StatusRow where
  id : Nat := 0
  status : DistributionState := .unset
  appliedVersionHash : String := ""
  lastError : String := ""
  deriving DecidableEq

/-- What the status code reads of a distribution row. -/
structure DistributionRef where
  id : Int
  name : String
  deriving DecidableEq

structure StatusReport where
  appliedVersion : String
  applyError : String := ""
  deriving DecidableEq

/-- `res.Errors[name]`. -/
def RenderResult.errorOf (res : RenderResult) (name : String) : String :=
  res.errors[name]?.getD ""

/-- A completed render, with the distributions that its names stand for. -/
structure CompletedRender where
  res : RenderResult
  dists : List DistributionRef
  names : dists.map (fun d => d.name) = res.matched

/-- The render matched the distribution without a render error. -/
def CompletedRender.Clean (r : CompletedRender) (d : DistributionRef) : Prop :=
  d ∈ r.dists ∧ r.res.errorOf d.name = ""

/-- What the goroutines share.  The last two fields are ghosts: all completed
renders and all apply attempts, the latest first. -/
structure SyncState where
  last : Option CompletedRender := none
  rows : Int → Option StatusRow := fun _ => none
  /-- The number of rows created so far; ids start at 1. -/
  created : Nat := 0
  toMember : List String := []
  toGateway : List StatusReport := []
  lastApplied : String := ""
  renders : List CompletedRender := []
  attempts : List (String × Bool) := []

/-- What the environment decides about a call. -/
inductive SyncReply where
  | fail
  | ok
  | rendered (r : CompletedRender)
  | dists (dists : List DistributionRef)
  | dist (d : DistributionRef)
  | applyFailed (text : String) (htext : text ≠ "")

abbrev SyncProg (R : Type) := Prog SyncState SyncReply R

/-! ## Repository calls -/

namespace SyncState

def setRow (s : SyncState) (d : Int) (row : Option StatusRow) : SyncState :=
  { s with rows := fun d' => if d' = d then row else s.rows d' }

/-- `UpsertClusterStatus`.  `FirstOrCreate` looks for a row of the pair, with the
id of the entry if it has one.  A row that is found gets the fields of the entry
that are not empty.  Otherwise the entry is inserted, which fails if its id or
its pair is taken; the id of a deleted row stays taken. -/
def upsertClusterStatus (s : SyncState) (d : Int) (entry : StatusRow) : SyncState :=
  match s.rows d with
  | some row =>
    if entry.id = 0 ∨ entry.id = row.id then
      s.setRow d (some
        { id := row.id
          status := if entry.status = .unset then row.status else entry.status
          appliedVersionHash :=
            if entry.appliedVersionHash = "" then row.appliedVersionHash
            else entry.appliedVersionHash
          lastError := if entry.lastError = "" then row.lastError else entry.lastError })
    else s
  | none =>
    if entry.id = 0 then
      { s with created := s.created + 1 }.setRow d (some { entry with id := s.created + 1 })
    else s

end SyncState

namespace Session

/-- `Clusters.GetByName`: whether it succeeds. -/
def getCluster : SyncProg Bool :=
  .read fun _ i => match i with
    | .ok => true
    | _ => false

/-- `Distributions.List`. -/
def listDistributions : SyncProg (Option (List DistributionRef)) :=
  .read fun _ i => match i with
    | .dists dists => some dists
    | _ => none

/-- `Distributions.GetByName`. -/
def getDistribution (name : String) : SyncProg (Option DistributionRef) :=
  .read fun _ i => match i with
    | .dist d => if d.name = name then some d else none
    | _ => none

/-- `GetClusterStatus`: the outer option is the failure, the inner one says
whether there is a row. -/
def getClusterStatus (d : Int) : SyncProg (Option (Option StatusRow)) :=
  .read fun s i => match i with
    | .ok => some (s.rows d)
    | _ => none

def upsertClusterStatus (d : Int) (entry : StatusRow) : SyncProg Unit :=
  .atomic fun s i => match i with
    | .ok => (s.upsertClusterStatus d entry, ())
    | _ => (s, ())

def deleteClusterStatus (d : Int) : SyncProg Unit :=
  .atomic fun s i => match i with
    | .ok => (s.setRow d none, ())
    | _ => (s, ())

/-! ## The gateway -/

def setClusterStatus (d : Int) (mutate : StatusRow → StatusRow) : SyncProg Unit := do
  match ← getClusterStatus d with
  | none => pure ()
  | some cur =>
    let before := cur.getD {}
    let entry := mutate before
    if before.status = entry.status ∧ before.appliedVersionHash = entry.appliedVersionHash ∧
        before.lastError = entry.lastError then pure ()
    else upsertClusterStatus d entry

/-- The mutator for a render error. -/
def renderFailed (text : String) (e : StatusRow) : StatusRow :=
  { e with status := .error, lastError := text }

/-- The mutator for a matched distribution: a row that is resolved for this
snapshot stays. -/
def awaitReport (hash : String) (e : StatusRow) : StatusRow :=
  if e.appliedVersionHash = hash ∧ (e.status = .synced ∨ e.status = .error) then e
  else { e with status := .pending, lastError := "" }

/-- The body of the loop of `markPushed`. -/
def markDistribution (r : CompletedRender) (d : DistributionRef) : SyncProg Unit :=
  if d.name ∈ r.res.matched ∧ r.res.errorOf d.name ≠ "" then
    setClusterStatus d.id (renderFailed (r.res.errorOf d.name))
  else if d.name ∈ r.res.matched then setClusterStatus d.id (awaitReport r.res.hash)
  else deleteClusterStatus d.id

def markPushed (r : CompletedRender) : SyncProg Unit := do
  match ← getCluster with
  | false => pure ()
  | true =>
    match ← listDistributions with
    | none => pure ()
    | some dists => Prog.forEach (markDistribution r) dists

/-- The mutator for a report. -/
def reported (rep : StatusReport) (e : StatusRow) : StatusRow :=
  if rep.applyError ≠ "" then
    { e with status := .error, appliedVersionHash := rep.appliedVersion
             lastError := rep.applyError }
  else { e with status := .synced, appliedVersionHash := rep.appliedVersion, lastError := "" }

/-- The body of the loop of `markReported`. -/
def reportDistribution (last : CompletedRender) (rep : StatusReport) (name : String) :
    SyncProg Unit := do
  if last.res.errorOf name ≠ "" then pure ()
  else
    match ← getDistribution name with
    | none => pure ()
    | some d => setClusterStatus d.id (reported rep)

def markReported (last : CompletedRender) (rep : StatusReport) : SyncProg Unit := do
  if rep.appliedVersion = "" ∨ rep.appliedVersion ≠ last.res.hash then pure ()
  else
    match ← getCluster with
    | false => pure ()
    | true => Prog.forEach (reportDistribution last rep) last.res.matched

/-- `renderFor`, with the outcome that the database determines. -/
def renderFor : SyncProg (Option CompletedRender) :=
  .atomic fun s i => match i with
    | .rendered r => ({ s with renders := r :: s.renders }, some r)
    | _ => (s, none)

/-- `sess.last`. -/
def sessionLast : SyncProg (Option CompletedRender) :=
  .read fun s _ => s.last

/-- `sess.setLast`. -/
def setLast (r : CompletedRender) : SyncProg Unit :=
  .atomic fun s _ => ({ s with last := some r }, ())

/-- The send of a `DesiredState`: whether it succeeds. -/
def sendDesiredState (hash : String) : SyncProg Bool :=
  .atomic fun s i => match i with
    | .ok => ({ s with toMember := s.toMember ++ [hash] }, true)
    | _ => (s, false)

/-- One round of `pushLoop`. -/
def push (forceSend : Bool) : SyncProg Unit := do
  match ← renderFor with
  | none => pure ()
  | some r =>
    let last ← sessionLast
    if last.map (fun l => l.res.hash) ≠ some r.res.hash ∨ forceSend = true then
      match ← sendDesiredState r.res.hash with
      | false => pure ()
      | true =>
        setLast r
        markPushed r
    else markPushed r

/-- The next report from the stream. -/
def recvReport : SyncProg (Option StatusReport) :=
  .atomic fun s _ => ({ s with toGateway := s.toGateway.tail }, s.toGateway.head?)

/-- The `StatusReport` case of `Sync`. -/
def recv : SyncProg Unit := do
  match ← recvReport with
  | none => pure ()
  | some rep =>
    match ← sessionLast with
    | none => pure ()
    | some last => markReported last rep

/-! ## The member -/

/-- The next snapshot is applied; its hash and the text of the error are the
result.  A standby operator ignores it. -/
def applyNext : SyncProg (Option (String × String)) :=
  .atomic fun s i =>
    match s.toMember with
    | [] => (s, none)
    | hash :: rest =>
      match i with
      | .ok => ({ s with toMember := rest, attempts := (hash, true) :: s.attempts },
          some (hash, ""))
      | .applyFailed text _ =>
        ({ s with toMember := rest, attempts := (hash, false) :: s.attempts }, some (hash, text))
      | _ => ({ s with toMember := rest }, none)

def setApplied (hash : String) : SyncProg Unit :=
  .atomic fun s _ => ({ s with lastApplied := hash }, ())

def getApplied : SyncProg String :=
  .read fun s _ => s.lastApplied

def sendReport (rep : StatusReport) : SyncProg Unit :=
  .atomic fun s i => match i with
    | .ok => ({ s with toGateway := s.toGateway ++ [rep] }, ())
    | _ => (s, ())

/-- The `DesiredState` case of the member's loop. -/
def apply : SyncProg Unit := do
  match ← applyNext with
  | none => pure ()
  | some (hash, text) =>
    if text = "" then
      setApplied hash
      sendReport { appliedVersion := hash }
    else sendReport { appliedVersion := hash, applyError := text }

/-- The report of every fourth heartbeat. -/
def periodic : SyncProg Unit := do
  let hash ← getApplied
  sendReport { appliedVersion := hash }

end Session

/-- The goroutines of a session. -/
inductive SessionOp where
  | push (forceSend : Bool)
  | recv
  | apply
  | periodic
  deriving DecidableEq

def SessionOp.code : SessionOp → SyncProg Unit
  | .push forceSend => Session.push forceSend
  | .recv => Session.recv
  | .apply => Session.apply
  | .periodic => Session.periodic

abbrev SessionPool := Pool SessionOp SyncState SyncReply

/-- One event of a session. -/
def sessionStep : SessionPool → PoolEvent SessionOp SyncReply → SessionPool :=
  Pool.step (fun _ => ()) SessionOp.code

end KubeSentry.Gateway
