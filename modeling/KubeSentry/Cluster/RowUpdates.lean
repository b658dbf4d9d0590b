import KubeSentry.Cluster.Provenance

/-!
# Updates of a cluster row

Several writers share a row of `clusters`.  The repository gives each of them a
call that names its own columns, so the calls can come in any order.  `Register`
is the exception: it saves the whole row that it has read, with its own columns
set.

The law is about the value of every column after a run.  It should be the last
value that some operation has set the column to, or the value from the start if
no operation has.  `RowOp.Sets` lists the columns that each operation is for, and
`OwnColumns` says that a step sets those columns of the row and no others.
`expectedRow` is the row after some writes, computed column by column;
`Writes.trans` is the step of the proof.

`Register` keeps the law as long as the columns that it does not set are the ones
that it has read.  `keptView` is these columns, and `Undivided` asks that they
stay the same from its first read to its write.
-/

namespace KubeSentry.Cluster

open GoLib Database Gateway ClusterTable

/-! ## The row that is expected -/

/-- The last value that the writes give a column. -/
def lastWritten {A : Type} (column : ClusterColumns → Option A) (writes : List ClusterColumns)
    (start : A) : A :=
  (writes.reverse.findSome? column).getD start

theorem lastWritten_append {A : Type} (column : ClusterColumns → Option A)
    (writes more : List ClusterColumns) (start : A) :
    lastWritten column (writes ++ more) start =
      lastWritten column more (lastWritten column writes start) := by
  unfold lastWritten
  rw [List.reverse_append, List.findSome?_append]
  cases more.reverse.findSome? column <;> rfl

/-- Every column has the last value that it was set to. -/
def expectedRow (c : ClusterRecord) (writes : List ClusterColumns) : ClusterRecord :=
  { c with
    tenantID := lastWritten ClusterColumns.tenantID writes c.tenantID
    labels := lastWritten ClusterColumns.labels writes c.labels
    clusterUID := lastWritten ClusterColumns.clusterUID writes c.clusterUID
    phase := lastWritten ClusterColumns.phase writes c.phase
    operatorVersion := lastWritten ClusterColumns.operatorVersion writes c.operatorVersion
    kubernetesVersion := lastWritten ClusterColumns.kubernetesVersion writes c.kubernetesVersion
    apiServerAddress := lastWritten ClusterColumns.apiServerAddress writes c.apiServerAddress
    nodeCount := lastWritten ClusterColumns.nodeCount writes c.nodeCount
    readyNodeCount := lastWritten ClusterColumns.readyNodeCount writes c.readyNodeCount
    lastHeartbeatAt := lastWritten ClusterColumns.lastHeartbeatAt writes c.lastHeartbeatAt
    regTokenHash := lastWritten ClusterColumns.regTokenHash writes c.regTokenHash
    authTokenHash := lastWritten ClusterColumns.authTokenHash writes c.authTokenHash }

/-- The writes of a history that are for one row. -/
def writesTo (id : Int) (history : List HubEvent) : List ClusterColumns :=
  history.filterMap fun
    | .wrote id' w => if id' = id then some w else none
    | _ => none

/-- Between the two states these writes of the row of `id` are logged, and the row is the
expected one after them. -/
def Writes (id : Int) (writes : List ClusterColumns) (s s' : HubState) : Prop :=
  ∃ new, s'.history = s.history ++ new ∧ writesTo id new = writes ∧
    s'.clusters.byID id = (s.clusters.byID id).map fun c => expectedRow c writes

/-- The row of `id` is the expected one after the writes since `start`. -/
def Accounted (id : Int) (start s : HubState) : Prop :=
  ∃ writes, Writes id writes start s

variable {id : Int} {s s' : HubState}

theorem writes_nil {new : List HubEvent} (hhistory : s'.history = s.history ++ new)
    (hnew : writesTo id new = []) (hrow : s'.clusters.byID id = s.clusters.byID id) :
    Writes id [] s s' := by
  refine ⟨new, hhistory, hnew, ?_⟩
  show s'.clusters.byID id = (s.clusters.byID id).map fun c => c
  rw [hrow, Option.map_id']

theorem Writes.refl (id : Int) (s : HubState) : Writes id [] s s :=
  writes_nil (List.append_nil _).symm rfl rfl

theorem Writes.trans {writes more : List ClusterColumns} {s'' : HubState}
    (h : Writes id writes s s') (h' : Writes id more s' s'') :
    Writes id (writes ++ more) s s'' := by
  obtain ⟨new, hhistory, hnew, hrow⟩ := h
  obtain ⟨new', hhistory', hnew', hrow'⟩ := h'
  refine ⟨new ++ new', by rw [hhistory', hhistory, List.append_assoc], ?_, ?_⟩
  · exact List.filterMap_append.trans (congrArg₂ _ hnew hnew')
  · rw [hrow', hrow, Option.map_map]
    refine congrArg (Option.map · _) (funext fun c => ?_)
    simp only [Function.comp, expectedRow, lastWritten_append]

/-- `Register`, and the calls of the repository that write columns of a row. -/
inductive RowOp where
  | register (req : RegisterRequest)
  | updateLabels (id : Int) (labels : Labels)
  | assignTenant (id : Int) (tenantID : Option Nat)
  | updateRegToken (id : Int) (hash : String)
  | updatePhase (id : Int) (phase : ClusterPhase)
  | updateHeartbeat (id : Int) (phase : ClusterPhase) (lastHeartbeatAt : Option Time)
      (operatorVersion : String)
  | updateInventory (id : Int) (inv : ClusterInventory)
  deriving DecidableEq

abbrev RowPool := Pool RowOp HubState CallInput

namespace RowOp

variable [Digest] [GoUnicode]

/-- The operation, with whether it succeeds. -/
def call : RowOp → HubProg Bool
  | .register req => do return (← Cluster.register req).isOk
  | .updateLabels id labels => do return (← Cluster.updateLabels id labels).isOk
  | .assignTenant id tenantID => do return (← Cluster.assignTenant id tenantID).isOk
  | .updateRegToken id hash => do return (← Cluster.updateRegToken id hash).isOk
  | .updatePhase id phase => do return (← Cluster.updatePhase id phase).isOk
  | .updateHeartbeat id phase lastHeartbeatAt operatorVersion => do
    return (← Cluster.updateHeartbeat id phase lastHeartbeatAt operatorVersion).isOk
  | .updateInventory id inv => do return (← Cluster.updateInventory id inv).isOk

def code (op : RowOp) : HubProg Unit := do
  let _ ← op.call
  pure ()

omit [GoUnicode] in
/-- The operation is for this row, and sets these columns.  `Register` sets the auth token,
the registration token, the UID, the operator version, and the phase of a row that has none
or is Registering. -/
def Sets : RowOp → ClusterRecord → ClusterColumns → Prop
  | .register req, c, w => c.name = req.clusterName ∧ ∃ token, w =
      { authTokenHash := some (hashToken token)
        regTokenHash := some ""
        clusterUID := some req.clusterUID
        operatorVersion := some req.operatorVersion
        phase := if c.phase = .unset ∨ c.phase = .registering then some .registering else none }
  | .updateLabels id labels, c, w => c.id = id ∧ w = { labels := some labels }
  | .assignTenant id tenantID, c, w => c.id = id ∧ w = { tenantID := some tenantID }
  | .updateRegToken id hash, c, w => c.id = id ∧ w = { regTokenHash := some hash }
  | .updatePhase id phase, c, w => c.id = id ∧ w = { phase := some phase }
  | .updateHeartbeat id phase lastHeartbeatAt operatorVersion, c, w => c.id = id ∧ w =
      { phase := some phase
        lastHeartbeatAt := some lastHeartbeatAt
        operatorVersion := some operatorVersion }
  | .updateInventory id inv, c, w => c.id = id ∧ w = inventoryColumns inv

omit [GoUnicode] in
/-- The writes of an operation: the saved row of `Register`, or its columns of a row. -/
def Write (R : HubState → HubState → Prop) : RowOp → HubState → HubState → Prop
  | .register req => RegisterWrite R req
  | op => fun s s' => ∃ id w, (∀ c, c.id = id → op.Sets c w) ∧ s' = s.updates id w

/-- An operation that is not `Register` is one call, or none for an empty inventory. -/
theorem call_cases (op : RowOp) : (∃ req, op = .register req) ∨
    ∃ id w, (∀ c, c.id = id → op.Sets c w) ∧ (∀ R s, op.Write R s (s.updates id w)) ∧
      (op.call = (do return (← updateCluster id w).isOk) ∨ op.call = pure true ∧ w = {}) := by
  cases op with
  | register req => exact .inl ⟨req, rfl⟩
  | updateInventory id inv =>
    have hsets : ∀ c : ClusterRecord, c.id = id → (updateInventory id inv).Sets c _ :=
      fun _ hid => ⟨hid, rfl⟩
    refine .inr ⟨id, inventoryColumns inv, hsets, fun _ _ => ⟨_, _, hsets, rfl⟩, ?_⟩
    simp only [call]
    unfold Cluster.updateInventory
    by_cases hempty : inventoryColumns inv = {}
    · rw [if_pos hempty]
      exact .inr ⟨rfl, hempty⟩
    · rw [if_neg hempty]
      exact .inl rfl
  | _ =>
    exact .inr ⟨_, _, fun _ hid => ⟨hid, rfl⟩,
      fun _ _ => ⟨_, _, fun _ hid => ⟨hid, rfl⟩, rfl⟩, .inl rfl⟩

theorem code_ensures (R : HubState → HubState → Prop) (op : RowOp) (s0 : HubState) :
    HubEnsures R (op.Write R) Any s0 op.code := by
  refine Prog.ensures_bind ?_
  rcases op.call_cases with ⟨req, rfl⟩ | ⟨id, w, _, hwrite, hcall | ⟨hcall, _⟩⟩
  · exact Prog.ensures_bind (Prog.ensures_mono (fun _ _ _ => trivial) (register_ensures R req s0))
  · rw [hcall]
    exact Prog.ensures_bind (ensures_updateCluster (fun s _ => ⟨hwrite R s, trivial⟩)
      fun _ _ _ => trivial)
  · rw [hcall]
    exact trivial

omit [GoUnicode] in
/-- A write is that of a `Register` call, or one of the columns of an operation. -/
theorem write_cases {R : HubState → HubState → Prop} {op : RowOp} {s s' : HubState}
    (h : op.Write R s s') : (∃ req, op = .register req ∧ RegisterWrite R req s s') ∨
      ∃ id w, (∀ c, c.id = id → op.Sets c w) ∧ s' = s.updates id w := by
  cases op with
  | register req => exact .inl ⟨req, rfl, h⟩
  | _ => exact .inr h

omit [GoUnicode] in
theorem lasting (op : RowOp) (s s' : HubState) (h : OrSame (op.Write Lasting) s s') :
    Lasting s s' := by
  rcases h with rfl | h
  · exact Lasting.refl _
  · rcases write_cases h with ⟨req, _, hwrite⟩ | ⟨id, w, _, rfl⟩
    · cases hwrite with
      | saved _ hread hlist hrow _ _ _ _ _ heq =>
        exact Lasting.saveRegistration (Lasting.trans _ _ _ hread hlist) hrow heq
    · exact Lasting.updates s id w

end RowOp

/-! ## The condition -/

/-- The columns of a row that `Register` does not always set. -/
def kept (c : ClusterRecord) : ClusterRecord :=
  { c with clusterUID := "", operatorVersion := "", regTokenHash := "", authTokenHash := "" }

variable {req : RegisterRequest}

/-- What a `Register` call for the row of `id` saves without setting it. -/
def keptView (id : Int) (s : HubState) : Option ClusterRecord :=
  (s.clusters.byID id).map kept

section

variable [Digest] [GoUnicode]

/-- One event of an interleaved run, with the view tracked. -/
def rowStep (id : Int) : RowPool → PoolEvent RowOp CallInput → RowPool :=
  Pool.step (keptView id) RowOp.code

end

/-! ## Runs -/

section

variable [Digest]

end

section

variable [Digest] [GoUnicode]

/-- The step leaves the row of `id` alone, or it is a call of an operation that is for the
row, and sets the columns that the operation is for. -/
def OwnColumns (id : Int) (pool : RowPool) (e : PoolEvent RowOp CallInput) : Prop :=
  Writes id [] pool.shared (rowStep id pool e).shared ∨
    ∃ k i t w, e = .advance k i ∧ pool.threads[k]? = some t ∧
      (∀ c, pool.shared.clusters.byID id = some c → t.op.Sets c w) ∧
      Writes id [w] pool.shared (rowStep id pool e).shared

theorem OwnColumns.accounted {start : HubState} {pool : RowPool} {e : PoolEvent RowOp CallInput}
    (h : OwnColumns id pool e) (hbefore : Accounted id start pool.shared) :
    Accounted id start (rowStep id pool e).shared := by
  obtain ⟨writes, hbefore⟩ := hbefore
  rcases h with hnone | ⟨_, _, _, _, _, _, _, hone⟩
  · exact ⟨_, hbefore.trans hnone⟩
  · exact ⟨_, hbefore.trans hone⟩

end

/-! ## Labels and a tenant that a registration takes back -/

attribute [local instance] GoUnicode.ascii Digest.names

end KubeSentry.Cluster
