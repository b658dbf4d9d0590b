import KubeSentry.Cluster.Lifecycle

/-!
# What a call of each operation can do

Every operation reads first and writes later, so its write speaks about a state
that others may have left behind.  For each operation this file lists its writes
together with the states they go back to: `RegisterWrite R`, for example, is a
`Save` of a row that was read in an earlier state `s1`, after a check against the
list of a state `s2` in between.

`R` is what is known to lead from the state of one call to the state of the next
one.  With a relation that always holds, the lists say what a write can be at
all; with one that fixes part of the state, they say what it is if nobody else
has touched that part.  Each `…_ensures` theorem holds for every `R`.
-/

namespace KubeSentry.Cluster

open GoLib Database Gateway ClusterTable

/-- A call leaves the state as it is or makes one of the writes. -/
def OrSame (W : HubState → HubState → Prop) (s s' : HubState) : Prop :=
  s' = s ∨ W s s'

/-- What an operation ensures about its calls. -/
abbrev HubEnsures (R W : HubState → HubState → Prop) {A : Type} (post : HubState → A → Prop)
    (s0 : HubState) (p : HubProg A) : Prop :=
  Prog.Ensures R Any (OrSame W) post s0 p

/-! ## Repository calls -/

section

variable {R W : HubState → HubState → Prop} {A B : Type} {post : HubState → A → Prop}
  {s0 : HubState}

theorem ensures_bindRead {f : HubState → CallInput → B} {next : B → HubProg A}
    (h : ∀ s i, R s0 s → HubEnsures R W post s (next (f s i))) :
    HubEnsures R W post s0 (Prog.read f >>= next) :=
  Prog.ensures_bind (Prog.ensures_read fun s i hrely _ => ⟨.inl rfl, h s i hrely⟩)

/-- A refused request makes no further call. -/
theorem ensures_unless {p : Prop} [Decidable p] {a : A} {next : HubProg A}
    (h : ¬ p → HubEnsures R W post s0 next) (ha : post s0 a := by exact trivial) :
    HubEnsures R W post s0 (if p then pure a else next) := by
  split
  · exact ha
  · rename_i hp
    exact h hp

theorem ensures_getByName [GoUnicode] {name : String}
    {next : Except RepoError ClusterRecord → HubProg A}
    (hok : ∀ s cl, R s0 s → s.clusters.getByName name = some cl →
      HubEnsures R W post s (next (.ok cl)))
    (herror : ∀ s err, R s0 s → HubEnsures R W post s (next (.error err))) :
    HubEnsures R W post s0 (getByName name >>= next) := by
  refine ensures_bindRead fun s i hrely => ?_
  split
  · exact herror s _ hrely
  · split
    · exact herror s _ hrely
    · rename_i cl hfound
      exact hok s cl hrely hfound

theorem ensures_listClusters {next : Except RepoError (List ClusterRecord) → HubProg A}
    (hok : ∀ s, R s0 s → HubEnsures R W post s (next (.ok s.clusters.rows)))
    (herror : ∀ s err, R s0 s → HubEnsures R W post s (next (.error err))) :
    HubEnsures R W post s0 (listClusters >>= next) := by
  refine ensures_bindRead fun s i hrely => ?_
  split
  · exact herror s _ hrely
  · exact hok s hrely

theorem ensures_getTask {id : Int} {next : Except RepoError UninstallTaskRecord → HubProg A}
    (hok : ∀ s task, R s0 s → s.tasks.getByID id = some task →
      HubEnsures R W post s (next (.ok task)))
    (herror : ∀ s err, R s0 s → HubEnsures R W post s (next (.error err))) :
    HubEnsures R W post s0 (getTask id >>= next) := by
  refine ensures_bindRead fun s i hrely => ?_
  split
  · exact herror s _ hrely
  · split
    · exact herror s _ hrely
    · rename_i task hfound
      exact hok s task hrely hfound

theorem ensures_updateCluster {id : Int} {w : ClusterColumns}
    {post : HubState → Except RepoError Unit → Prop}
    (hok : ∀ s, R s0 s → W s (s.updates id w) ∧ post (s.updates id w) (.ok ()))
    (herror : ∀ s err, R s0 s → post s (.error err)) :
    HubEnsures R W post s0 (updateCluster id w) := by
  refine Prog.ensures_atomic fun s i hrely _ => ?_
  split
  · exact ⟨.inl rfl, herror s _ hrely⟩
  · exact ⟨.inr (hok s hrely).1, (hok s hrely).2⟩

end

/-! ## The heartbeat flush -/

variable (R : HubState → HubState → Prop)

/-- The writes of `flushOnce`: a row of its list, which no uninstall task owned
there, becomes Online or Offline, or an inventory is stored. -/
inductive FlushWrite (s s' : HubState) : Prop where
  | heartbeat {s1 : HubState} {cl : ClusterRecord} {phase : ClusterPhase}
      {lastHeartbeatAt : Option Time} {operatorVersion : String} (hlist : R s1 s)
      (hrow : cl ∈ s1.clusters.rows) (hphase : ¬ cl.phase.Removing)
      (hnew : phase = .online ∨ phase = .offline)
      (heq : s' = s.updates cl.id (heartbeatColumns phase lastHeartbeatAt operatorVersion))
  | inventory {s1 : HubState} {cl : ClusterRecord} {inv : ClusterInventory} (hlist : R s1 s)
      (heq : s' = s.updates cl.id (inventoryColumns inv))

variable {offlineAfter : Int} {now : Time} {cl : ClusterRecord}

theorem flushed_some {info : Option HeartbeatInfo} {cl' : ClusterRecord}
    (h : flushed offlineAfter now info cl = some cl') :
    ¬ cl.phase.Removing ∧ (cl'.phase = .online ∨ cl'.phase = .offline) := by
  have hoffline : ∀ {c}, (if cl.phase = .online then some { cl with phase := .offline } else none) =
      some c → c.phase = .online ∨ c.phase = .offline := by
    intro c hc
    split at hc
    · cases hc
      exact .inr rfl
    · cases hc
  unfold flushed at h
  by_cases hremoving : cl.phase.Removing
  · rw [if_pos hremoving] at h
    cases h
  · rw [if_neg hremoving] at h
    refine ⟨hremoving, ?_⟩
    split at h
    · split at h
      · cases h
        exact .inl rfl
      · exact hoffline h
    · exact hoffline h

section

variable {R} (htrans : ∀ s s' s'', R s s' → R s' s'' → R s s'')
  (hown : ∀ s s', FlushWrite R s s' → R s s')

include htrans hown

theorem flushRow_ensures {heartbeats : GoMap HeartbeatInfo} {s1 : HubState}
    (hrow : cl ∈ s1.clusters.rows) {s0 : HubState} (h : R s1 s0) :
    HubEnsures R (FlushWrite R) (fun s _ => R s1 s) s0
      (flushRow offlineAfter now heartbeats cl) := by
  unfold flushRow
  cases hflushed : flushed offlineAfter now heartbeats[cl.name]? cl with
  | none => exact h
  | some cl' =>
    obtain ⟨hphase, hnew⟩ := flushed_some hflushed
    refine Prog.ensures_bind (ensures_updateCluster (fun s hrely => ?_) fun s err hrely => ?_)
    · have hlist := htrans _ _ _ h hrely
      have hwrite : FlushWrite R s (s.updates cl.id
          (heartbeatColumns cl'.phase cl'.lastHeartbeatAt cl'.operatorVersion)) :=
        .heartbeat hlist hrow hphase hnew rfl
      refine ⟨hwrite, ?_⟩
      have hafter := htrans _ _ _ hlist (hown _ _ hwrite)
      cases heartbeats[cl.name]?.bind fun info => info.inventory with
      | none => exact hafter
      | some inv =>
        dsimp only
        unfold updateInventory
        by_cases hempty : inventoryColumns inv = {}
        · rw [if_pos hempty]
          exact hafter
        · rw [if_neg hempty]
          refine Prog.ensures_bind (ensures_updateCluster (fun s' hrely' => ?_)
            fun s' err hrely' => ?_)
          · have hlist' := htrans _ _ _ hafter hrely'
            have hwrite' : FlushWrite R s' (s'.updates cl.id (inventoryColumns inv)) :=
              .inventory hlist' rfl
            exact ⟨hwrite', htrans _ _ _ hlist' (hown _ _ hwrite')⟩
          · exact htrans _ _ _ hafter hrely'
    · exact htrans _ _ _ h hrely

theorem flushOnce_ensures (offlineAfter : Int) (s0 : HubState) :
    HubEnsures R (FlushWrite R) Any s0 (flushOnce offlineAfter) := by
  refine ensures_listClusters (fun s1 _ => ?_) fun _ _ _ => trivial
  refine ensures_bindRead fun s i hrely => ?_
  refine Prog.ensures_mono (fun _ _ _ => trivial)
    (Prog.ensures_forWhile (P := fun s => R s1 s) (fun cl hrow s' h => ?_) hrely)
  exact flushRow_ensures htrans hown hrow h

end

/-! ## Registration -/

/-- The write of `Register`: the row it has read in `s1`, after it has compared
the UID with the list of `s2`. -/
inductive RegisterWrite [Digest] (req : RegisterRequest) (s s' : HubState) : Prop where
  | saved {s0 s1 s2 : HubState} {cl : ClusterRecord} {token : String} (hstart : R s0 s1)
      (hread : R s1 s2) (hlist : R s2 s) (hrow : s1.clusters.getByName req.clusterName = some cl)
      (hphase : ¬ cl.phase.Removing) (hhash : cl.regTokenHash = hashToken req.registrationToken)
      (hothers : ∀ other ∈ s2.clusters.rows, other.name ≠ req.clusterName →
        other.clusterUID ≠ req.clusterUID)
      (hsame : cl.clusterUID = "" ∨ cl.clusterUID = req.clusterUID)
      (htoken : req.registrationToken ≠ "")
      (heq : s.saveRegistration req cl token = some s')

/-- A call that succeeds ends with the write. -/
theorem register_ensures [Digest] [GoUnicode] (req : RegisterRequest) (s0 : HubState) :
    HubEnsures R (RegisterWrite R req) (fun s' r => ∀ token, r = .ok token →
      ∃ s1 s2 s cl, R s0 s1 ∧ R s1 s2 ∧ R s2 s ∧
        s1.clusters.getByName req.clusterName = some cl ∧
        s.saveRegistration req cl token = some s') s0 (register req) := by
  refine ensures_unless (fun hfields => ?_) nofun
  refine ensures_getByName (fun s1 cl hstart hrow => ?_)
    fun s err _ => by cases err <;> exact nofun
  refine ensures_unless (fun hphase => ensures_unless (fun hhash => ?_) nofun) nofun
  refine ensures_listClusters (fun s2 hread => ?_) fun s err _ => nofun
  dsimp only
  split
  · exact nofun
  · rename_i hnone
    refine ensures_unless (fun huid => Prog.ensures_atomic fun s i hlist _ => ?_) nofun
    cases i.newToken with
    | error err => exact ⟨.inl rfl, nofun⟩
    | ok token =>
      cases i.fault with
      | some err => exact ⟨.inl rfl, nofun⟩
      | none =>
        dsimp only
        cases hsave : s.saveRegistration req cl token with
        | none => exact ⟨.inl rfl, nofun⟩
        | some s' =>
          refine ⟨.inr ?_, fun _ h => ?_⟩
          · refine .saved hstart hread hlist hrow hphase (not_not.mp hhash)
              (fun other hother hname heq => ?_) ?_ (fun h => hfields (.inr (.inl h))) hsave
            · have hfound := List.find?_eq_none.mp hnone other hother
              simp [hname, heq] at hfound
            · rw [not_and_or, not_not, not_not] at huid
              exact huid
          · cases h
            exact ⟨s1, s2, s, cl, hstart, hread, hlist, hrow, hsave⟩

/-- The write of `ReissueToken`. -/
inductive ReissueWrite [Digest] (name : String) (s s' : HubState) : Prop where
  | issued {s1 : HubState} {cl : ClusterRecord} {token : String} (hread : R s1 s)
      (hrow : s1.clusters.getByName name = some cl) (hphase : cl.phase = .registering)
      (heq : s' = s.issueToken cl.id token)

theorem reissueToken_ensures [Digest] [GoUnicode] (systemAdmin : Bool) (name : String)
    (s0 : HubState) :
    HubEnsures R (ReissueWrite R name) Any s0 (reissueToken systemAdmin name) := by
  refine ensures_unless fun _ => ensures_getByName (fun s1 cl _ hrow => ?_)
    fun s err _ => by cases err <;> exact trivial
  refine ensures_unless fun hphase => Prog.ensures_atomic fun s i hread _ => ⟨?_, trivial⟩
  cases i.newToken with
  | error err => exact .inl rfl
  | ok token =>
    cases i.fault with
    | some err => exact .inl rfl
    | none => exact .inr (.issued hread hrow (not_not.mp hphase) rfl)

/-! ## Uninstall -/

/-- The write of `CreateUninstall`. -/
inductive CreateWrite (name : String) (s s' : HubState) : Prop where
  | created {s1 : HubState} {cl : ClusterRecord} {id : Int} {now : Time} (hread : R s1 s)
      (hrow : s1.clusters.getByName name = some cl) (hphase : cl.phase = .online)
      (heq : s.createTask cl.id id now = some s')

theorem createUninstall_ensures [GoUnicode] (htrans : ∀ s s' s'', R s s' → R s' s'' → R s s'')
    (systemAdmin : Bool) (name : String) (s0 : HubState) :
    HubEnsures R (CreateWrite R name) Any s0 (createUninstall systemAdmin name) := by
  refine ensures_unless fun _ => ensures_getByName (fun s1 cl _ hrow => ?_)
    fun s err _ => by cases err <;> exact trivial
  refine ensures_unless fun hphase => ensures_bindRead fun s2 i hread => ?_
  split
  · exact trivial
  · exact trivial
  · refine Prog.ensures_atomic fun s i hlater _ => ⟨?_, trivial⟩
    cases i.fault with
    | some err => exact .inl rfl
    | none =>
      cases hcreate : s.createTask cl.id i.newID i.now with
      | none => exact .inl rfl
      | some s' =>
        exact .inr (.created (htrans _ _ _ hread hlater) hrow (not_not.mp hphase) hcreate)

/-- The write of `RetryUninstall`. -/
inductive RetryWrite (name : String) (taskID : Int) (s s' : HubState) : Prop where
  | retried {s1 s2 : HubState} {cl : ClusterRecord} {task : UninstallTaskRecord} {now : Time}
      {tasks : TaskTable} (hread : R s1 s2) (hlater : R s2 s)
      (hrow : s1.clusters.getByName name = some cl) (htask : s2.tasks.getByID taskID = some task)
      (hcluster : task.clusterID = cl.id) (hretry : s.tasks.retry taskID now = .written tasks)
      (heq : s' = s.retryTask cl.id taskID tasks)

theorem retryUninstall_ensures [GoUnicode] (systemAdmin : Bool) (name : String) (taskID : Int)
    (s0 : HubState) :
    HubEnsures R (RetryWrite R name taskID) Any s0 (retryUninstall systemAdmin name taskID) := by
  refine ensures_unless fun _ => ensures_getByName (fun s1 cl _ hrow => ?_)
    fun s err _ => by cases err <;> exact trivial
  refine ensures_getTask (fun s2 task hread htask => ?_) fun s err _ => trivial
  refine ensures_unless fun hcluster => Prog.ensures_atomic fun s i hlater _ => ⟨?_, trivial⟩
  cases i.fault with
  | some err => exact .inl rfl
  | none =>
    cases hretry : s.tasks.retry taskID i.now with
    | written tasks =>
      exact .inr (.retried hread hlater hrow htask (not_not.mp hcluster) hretry rfl)
    | conflict => exact .inl rfl
    | violation => exact .inl rfl

/-- What the reads of `handleUninstallTaskReport` have shown before its first
write: the cluster of the session and a task of that cluster. -/
structure ReportRead (name : String) (report : UninstallTaskReport) (s : HubState)
    (cl : ClusterRecord) : Prop where
  exists_reads : ∃ s1 s2 task, R s1 s2 ∧ R s2 s ∧ s1.clusters.getByName name = some cl ∧
    s2.tasks.getByID report.taskID = some task ∧ task.clusterID = cl.id

/-- The writes of `handleUninstallTaskReport`: the task moves on, and afterwards
the phase of the cluster may follow. -/
inductive ReportWrite (name : String) (report : UninstallTaskReport) (s s' : HubState) : Prop where
  | moved {cl : ClusterRecord} {expected next : UninstallTaskStatus} {now : Time}
      {tasks : TaskTable} (hread : ReportRead R name report s cl)
      (hmove : report.state.move = some (expected, next))
      (htransition : s.tasks.transition report.taskID expected next report.error now =
        .written tasks)
      (heq : s' = s.setTasks tasks)
  | phased {s3 : HubState} {cl : ClusterRecord} {expected next : UninstallTaskStatus} {now : Time}
      {tasks : TaskTable} {phase : ClusterPhase} (hread : ReportRead R name report s3 cl)
      (hmove : report.state.move = some (expected, next))
      (htransition : s3.tasks.transition report.taskID expected next report.error now =
        .written tasks)
      (hlater : R (s3.setTasks tasks) s) (hphase : report.state.phase = some phase)
      (heq : s' = s.updates cl.id { phase := some phase })

theorem handleUninstallTaskReport_ensures [GoUnicode] (name : String) (report : UninstallTaskReport)
    (s0 : HubState) :
    HubEnsures R (ReportWrite R name report) Any s0 (handleUninstallTaskReport name report) := by
  refine ensures_unless fun _ => ensures_getByName (fun s1 cl _ hrow => ?_) fun s err _ => trivial
  refine ensures_getTask (fun s2 task hread htask => ?_) fun s err _ => trivial
  refine ensures_unless fun hcluster => ?_
  cases hmove : report.state.move with
  | none => exact trivial
  | some move =>
    obtain ⟨expected, next⟩ := move
    rw [(TaskTable.mem_of_getByID htask).2]
    refine Prog.ensures_bind (Prog.ensures_atomic fun s i hlater _ => ?_)
    have hreads : ReportRead R name report s cl :=
      ⟨s1, s2, task, hread, hlater, hrow, htask, not_not.mp hcluster⟩
    cases i.fault with
    | some err => exact ⟨.inl rfl, trivial⟩
    | none =>
      cases htransition : s.tasks.transition report.taskID expected next report.error i.now with
      | conflict => exact ⟨.inl rfl, trivial⟩
      | violation => exact ⟨.inl rfl, trivial⟩
      | written tasks =>
        refine ⟨.inr (.moved hreads hmove htransition rfl), ?_⟩
        cases hphase : report.state.phase with
        | none => exact trivial
        | some phase =>
          refine Prog.ensures_bind (ensures_updateCluster (fun s' hback => ?_) fun _ _ _ => trivial)
          exact ⟨.phased hreads hmove htransition hback hphase rfl, trivial⟩

/-! ## What every write keeps -/

/-- Clusters keep their ids and names, and tasks stay with their cluster. -/
structure Lasting (s s' : HubState) : Prop where
  names : s'.clusters.rows.map (fun c => (c.id, c.name)) =
    s.clusters.rows.map fun c => (c.id, c.name)
  tasks : ∀ id task, s.tasks.getByID id = some task →
    ∃ task', s'.tasks.getByID id = some task' ∧ task'.clusterID = task.clusterID

namespace Lasting

theorem refl (s : HubState) : Lasting s s := ⟨rfl, fun _ task h => ⟨task, h, rfl⟩⟩

theorem trans (s s' s'' : HubState) (h : Lasting s s') (h' : Lasting s' s'') : Lasting s s'' := by
  refine ⟨h'.names.trans h.names, fun id task htask => ?_⟩
  obtain ⟨task', htask', hcluster⟩ := h.tasks id task htask
  obtain ⟨task'', htask'', hcluster'⟩ := h'.tasks id task' htask'
  exact ⟨task'', htask'', hcluster'.trans hcluster⟩

variable {s s' : HubState} {id : Int} {tasks : TaskTable} {now : Time} {c : ClusterRecord}

/-- A row is still there, with its name. -/
theorem byID (h : Lasting s s') (hrow : s.clusters.byID id = some c) :
    ∃ c', s'.clusters.byID id = some c' ∧ c'.name = c.name := by
  obtain ⟨hmem, hid⟩ := mem_of_byID hrow
  have hpair : (c.id, c.name) ∈ s'.clusters.rows.map fun c => (c.id, c.name) := by
    rw [h.names]
    exact List.mem_map_of_mem hmem
  obtain ⟨c', hmem', heq⟩ := List.mem_map.mp hpair
  obtain ⟨hid', hname'⟩ := Prod.mk.inj heq
  refine ⟨c', ?_, hname'⟩
  rw [← hid, ← hid']
  exact byID_of_mem hmem'

/-- A name still means the same row. -/
theorem getByName (h : Lasting s s') {name : String} (hrow : s.clusters.getByName name = some c) :
    ∃ c', s'.clusters.getByName name = some c' ∧ c'.id = c.id := by
  obtain ⟨hmem, hname⟩ := mem_of_getByName hrow
  obtain ⟨c', hrow', hname'⟩ := h.byID (byID_of_mem hmem)
  obtain ⟨hmem', hid'⟩ := mem_of_byID hrow'
  refine ⟨c', ?_, hid'⟩
  rw [← hname, ← hname']
  exact Table.lookup_of_mem s'.clusters.names_nodup hmem'

theorem updates (s : HubState) (id : Int) (w : ClusterColumns) : Lasting s (s.updates id w) := by
  refine ⟨?_, fun _ task h => ⟨task, h, rfl⟩⟩
  exact Table.map_modify (f := w.apply) (fun _ => rfl) s.clusters.rows

theorem record (s : HubState) (e : HubEvent) : Lasting s (s.record e) :=
  ⟨rfl, fun _ task h => ⟨task, h, rfl⟩⟩

theorem setTasks (h : ∀ id task, s.tasks.getByID id = some task →
      ∃ task', tasks.getByID id = some task' ∧ task'.clusterID = task.clusterID) :
    Lasting s (s.setTasks tasks) :=
  ⟨rfl, h⟩

variable {expected : UninstallTaskStatus}

/-- A conditional update keeps ids and clusters. -/
theorem updateFrom {f : UninstallTaskRecord → UninstallTaskRecord} (hid : ∀ r, (f r).id = r.id)
    (hcluster : ∀ r, (f r).clusterID = r.clusterID)
    (h : s.tasks.updateFrom id expected f = .written tasks) : Lasting s (s.setTasks tasks) := by
  obtain ⟨_, _, _, hrows⟩ := TaskTable.updateFrom_written h
  refine setTasks fun id' task htask => ?_
  unfold TaskTable.getByID at htask ⊢
  rw [hrows, Table.lookup_modify fun r hr => (hid r).trans hr]
  split
  · rename_i heq
    rw [← heq, htask]
    exact ⟨f task, rfl, hcluster task⟩
  · exact ⟨task, htask, rfl⟩

theorem transition {next : UninstallTaskStatus} {message : String}
    (h : s.tasks.transition id expected next message now = .written tasks) :
    Lasting s (s.setTasks tasks) :=
  updateFrom (f := TaskTable.transitioned next message now) (fun _ => rfl) (fun _ => rfl) h

theorem retry (h : s.tasks.retry id now = .written tasks) : Lasting s (s.setTasks tasks) :=
  updateFrom (f := TaskTable.requeued now) (fun _ => rfl) (fun _ => rfl) h

theorem createTask {clusterID : Int} (h : s.createTask clusterID id now = some s') :
    Lasting s s' := by
  obtain ⟨tasks, hcreate, heq⟩ := Option.map_eq_some_iff.mp h
  rw [← heq]
  refine trans _ _ _ (setTasks fun id' task htask => ⟨task, ?_, rfl⟩) (updates _ _ _)
  obtain ⟨hmem, hid⟩ := TaskTable.mem_of_getByID htask
  rw [← hid]
  refine TaskTable.getByID_of_mem ?_
  rw [TaskTable.rows_of_create hcreate]
  exact List.mem_append_left _ hmem

/-- A saved row keeps the name that its id has had since it was read. -/
theorem saveRegistration [Digest] {s1 : HubState} {req : RegisterRequest} {token : String}
    (hread : Lasting s1 s) (hrow : s1.clusters.getByName req.clusterName = some cl)
    (h : s.saveRegistration req cl token = some s') : Lasting s s' := by
  obtain ⟨clusters, hsave, heq⟩ := Option.map_eq_some_iff.mp h
  obtain ⟨old, hold, hname⟩ := hread.byID (byID_of_getByName hrow)
  have hrows : clusters.rows = Table.modify (fun r : ClusterRecord => r.id) cl.id
      (fun _ => registered req cl token) s.clusters.rows :=
    rows_of_save hsave (Option.isSome_of_eq_some hold)
  rw [← heq]
  refine ⟨?_, fun id task htask => ⟨task, htask, rfl⟩⟩
  rw [hrows]
  unfold Table.modify
  rw [List.map_map]
  refine List.map_congr_left fun r hr => ?_
  show ((if r.id = cl.id then registered req cl token else r).id,
    (if r.id = cl.id then registered req cl token else r).name) = (r.id, r.name)
  split
  · rename_i hid
    have hrold : some r = some old := by
      rw [← hold, ← hid]
      exact (byID_of_mem hr).symm
    cases hrold
    exact Prod.ext hid.symm hname.symm
  · rfl

end Lasting

variable {s s' : HubState}

/-- What a registration leaves: its row, and the rest as it is. -/
theorem saveRegistration_spec [Digest] {s1 : HubState} {req : RegisterRequest} {token : String}
    (hread : Lasting s1 s) (hrow : s1.clusters.getByName req.clusterName = some cl)
    (h : s.saveRegistration req cl token = some s') :
    (∀ id, s'.clusters.byID id =
      if id = cl.id then some (registered req cl token) else s.clusters.byID id) ∧
      s'.tasks = s.tasks ∧
      s'.history = s.history ++
        [.wrote cl.id (registeredColumns req cl token), .registered req.registrationToken] := by
  obtain ⟨clusters, hsave, heq⟩ := Option.map_eq_some_iff.mp h
  obtain ⟨old, hold, _⟩ := hread.byID (byID_of_getByName hrow)
  rw [← heq]
  exact ⟨byID_of_save hsave (Option.isSome_of_eq_some hold), rfl, rfl⟩

/-! ## The operations of an uninstall -/

/-- The operations that share the phase of a cluster. -/
inductive LifecycleOp where
  | flushOnce (offlineAfter : Int)
  | createUninstall (systemAdmin : Bool) (name : String)
  | retryUninstall (systemAdmin : Bool) (name : String) (taskID : Int)
  | report (name : String) (report : UninstallTaskReport)
  | register (req : RegisterRequest)
  deriving DecidableEq

namespace LifecycleOp

def code [Digest] [GoUnicode] : LifecycleOp → HubProg Unit
  | .flushOnce offlineAfter => Cluster.flushOnce offlineAfter
  | .createUninstall systemAdmin name => do
    let _ ← Cluster.createUninstall systemAdmin name
    pure ()
  | .retryUninstall systemAdmin name taskID => do
    let _ ← Cluster.retryUninstall systemAdmin name taskID
    pure ()
  | .report name rep => handleUninstallTaskReport name rep
  | .register req => do
    let _ ← Cluster.register req
    pure ()

/-- The writes of an operation. -/
def Write [Digest] : LifecycleOp → HubState → HubState → Prop
  | .flushOnce _ => FlushWrite R
  | .createUninstall _ name => CreateWrite R name
  | .retryUninstall _ name taskID => RetryWrite R name taskID
  | .report name rep => ReportWrite R name rep
  | .register req => RegisterWrite R req

variable {R} [Digest] [GoUnicode]

theorem code_ensures (htrans : ∀ s s' s'', R s s' → R s' s'' → R s s'')
    (hflush : ∀ s s', FlushWrite R s s' → R s s') (op : LifecycleOp) (s0 : HubState) :
    HubEnsures R (op.Write R) Any s0 op.code := by
  -- The answer of an operation is not looked at.
  have hdrop : ∀ {A : Type} {W : HubState → HubState → Prop} {p : HubProg A},
      HubEnsures R W Any s0 p →
      HubEnsures R W Any s0 (p >>= fun _ => pure ()) :=
    fun h => Prog.ensures_bind h
  cases op with
  | flushOnce offlineAfter => exact flushOnce_ensures htrans hflush offlineAfter s0
  | createUninstall systemAdmin name =>
    exact hdrop (createUninstall_ensures R htrans systemAdmin name s0)
  | retryUninstall systemAdmin name taskID =>
    exact hdrop (retryUninstall_ensures R systemAdmin name taskID s0)
  | report name rep => exact handleUninstallTaskReport_ensures R name rep s0
  | register req =>
    exact hdrop (Prog.ensures_mono (fun _ _ _ => trivial) (register_ensures R req s0))

omit [Digest] [GoUnicode] in
theorem flush_lasting (h : FlushWrite R s s') : Lasting s s' := by
  cases h with
  | heartbeat _ _ _ _ heq =>
    rw [heq]
    exact .updates _ _ _
  | inventory _ heq =>
    rw [heq]
    exact .updates _ _ _

omit [GoUnicode] in
/-- Every write of an uninstall is lasting. -/
theorem write_lasting {op : LifecycleOp} (h : op.Write Lasting s s') : Lasting s s' := by
  cases op with
  | flushOnce offlineAfter => exact flush_lasting h
  | createUninstall systemAdmin name =>
    cases h with
    | created _ _ _ heq => exact .createTask heq
  | retryUninstall systemAdmin name taskID =>
    cases h with
    | retried _ _ _ _ _ hretry heq =>
      rw [heq]
      exact .trans _ _ _ (.trans _ _ _ (.retry hretry) (.updates _ _ _)) (.record _ _)
  | report name rep =>
    cases h with
    | moved _ _ htransition heq =>
      rw [heq]
      exact .transition htransition
    | phased _ _ _ _ _ heq =>
      rw [heq]
      exact .updates _ _ _
  | register req =>
    cases h with
    | saved _ hread hlist hrow _ _ _ _ _ heq =>
      exact .saveRegistration (.trans _ _ _ hread hlist) hrow heq

omit [GoUnicode] in
theorem lasting (op : LifecycleOp) (s s' : HubState) (h : OrSame (op.Write Lasting) s s') :
    Lasting s s' := by
  rcases h with hsame | hwrite
  · rw [hsame]
    exact .refl s
  · exact write_lasting hwrite

end LifecycleOp

abbrev LifecyclePool := Pool LifecycleOp HubState CallInput

end KubeSentry.Cluster
