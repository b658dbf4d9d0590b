import KubeSentry.Cluster.Provenance

/-!
# Uninstall tasks are a state machine

A task is created Pending, is moved on by the reports of its member, and goes
back from Failed to Pending only through `RetryUninstall`.  Reports may come in
any number and order, from any session and for any task id: the conditional
update lets only the next status through, and the check of the task's cluster
keeps a session away from the tasks of others.

`TaskStep op s s'` is what a call of `op` does to the tasks, read off from the
list of its writes.  The induction over a run carries the count of the attempts.
-/

namespace KubeSentry.Cluster

open GoLib Database Gateway TaskTable HubState

/-- The moves that reports make. -/
inductive TaskMove : UninstallTaskStatus → UninstallTaskStatus → Prop where
  | received : TaskMove .pending .received
  | succeeded : TaskMove .received .succeeded
  | failed : TaskMove .received .failed

variable {expected : UninstallTaskStatus} {systemAdmin : Bool} {id : Int} {pool : LifecyclePool}
  {e : PoolEvent LifecycleOp CallInput}

theorem taskMove_of_report {state : ReportState} {next : UninstallTaskStatus}
    (h : state.move = some (expected, next)) : TaskMove expected next := by
  cases state with
  | unspecified => cases h
  | received =>
    cases h
    exact .received
  | succeeded =>
    cases h
    exact .succeeded
  | failed =>
    cases h
    exact .failed

/-- A task after a call of an operation: as before, moved on by a report, or
requeued by a retry. -/
def TaskChange (op : LifecycleOp) (task task' : UninstallTaskRecord) : Prop :=
  task' = task ∨
    ((∃ name rep, op = .report name rep) ∧ TaskMove task.status task'.status ∧
      task'.attempts = task.attempts) ∨
    ((∃ systemAdmin name, op = .retryUninstall systemAdmin name task.id) ∧
      task.status = .failed ∧ task'.status = .pending ∧ task'.attempts = task.attempts + 1)

/-- What a call of an operation does to the tasks. -/
structure TaskStep (op : LifecycleOp) (s s' : HubState) : Prop where
  kept : ∀ task ∈ s.tasks.rows, ∃ task' ∈ s'.tasks.rows,
    task'.id = task.id ∧ task'.clusterID = task.clusterID ∧ TaskChange op task task'
  added : ∀ task' ∈ s'.tasks.rows, (∃ task ∈ s.tasks.rows, task.id = task'.id) ∨
    ((∃ systemAdmin name, op = .createUninstall systemAdmin name) ∧
      task'.status = .pending ∧ task'.attempts = 1)
  /-- A report leaves the tasks of other clusters alone. -/
  foreignTasks : ∀ name rep, op = .report name rep → ∀ task ∈ s.tasks.rows,
    (∀ cl, s.clusters.getByName name = some cl → task.clusterID ≠ cl.id) → task ∈ s'.tasks.rows
  /-- A report leaves the rows of other clusters alone. -/
  foreignRows : ∀ name rep, op = .report name rep → ∀ row ∈ s.clusters.rows,
    row.name ≠ name → row ∈ s'.clusters.rows

variable {op : LifecycleOp} {s s' start : HubState} {name : String}

/-- For the other operations the last two points say nothing. -/
theorem taskStep_of_not_report (hop : ∀ name rep, op ≠ .report name rep)
    (hkept : ∀ task ∈ s.tasks.rows, ∃ task' ∈ s'.tasks.rows,
      task'.id = task.id ∧ task'.clusterID = task.clusterID ∧ TaskChange op task task')
    (hadded : ∀ task' ∈ s'.tasks.rows, (∃ task ∈ s.tasks.rows, task.id = task'.id) ∨
      ((∃ systemAdmin name, op = .createUninstall systemAdmin name) ∧
        task'.status = .pending ∧ task'.attempts = 1)) : TaskStep op s s' :=
  ⟨hkept, hadded, fun name rep h => absurd h (hop name rep),
    fun name rep h => absurd h (hop name rep)⟩

/-- A call that does not touch the tasks. -/
theorem taskStep_of_tasks_eq {op : LifecycleOp} {s s' : HubState}
    (hop : ∀ name rep, op ≠ .report name rep) (htasks : s'.tasks = s.tasks) : TaskStep op s s' := by
  refine taskStep_of_not_report hop (fun task h => ?_) fun task' h => ?_
  · rw [htasks]
    exact ⟨task, h, rfl, rfl, .inl rfl⟩
  · rw [htasks] at h
    exact .inl ⟨task', h, rfl⟩

theorem createWrite_taskStep (h : CreateWrite Lasting name s s') :
    TaskStep (.createUninstall systemAdmin name) s s' := by
  cases h with
  | created _ _ _ heq =>
    obtain ⟨tasks, hcreate, heq⟩ := Option.map_eq_some_iff.mp heq
    have hrows : s'.tasks.rows = tasks.rows := by rw [← heq]; rfl
    rw [rows_of_create hcreate] at hrows
    refine taskStep_of_not_report (fun _ _ h => by cases h) (fun task hmem => ?_)
      fun task' hmem => ?_
    · refine ⟨task, ?_, rfl, rfl, .inl rfl⟩
      rw [hrows]
      exact List.mem_append_left _ hmem
    · rw [hrows, List.mem_append, List.mem_singleton] at hmem
      rcases hmem with hold | hnew
      · exact .inl ⟨task', hold, rfl⟩
      · rw [hnew]
        exact .inr ⟨⟨systemAdmin, name, rfl⟩, rfl, rfl⟩

theorem retryWrite_taskStep {taskID : Int} (h : RetryWrite Lasting name taskID s s') :
    TaskStep (.retryUninstall systemAdmin name taskID) s s' := by
  cases h with
  | @retried _ _ _ _ now tasks _ _ _ _ _ hretry heq =>
    have hrows : s'.tasks.rows = tasks.rows := by rw [heq]; rfl
    refine taskStep_of_not_report (fun _ _ h => by cases h) (fun task hmem => ?_)
      fun task' hmem => ?_
    · rw [hrows]
      rcases updateFrom_row hretry hmem with ⟨_, hkept⟩ | ⟨hid, hstatus, hnew⟩
      · exact ⟨task, hkept, rfl, rfl, .inl rfl⟩
      · refine ⟨_, hnew, rfl, rfl, .inr (.inr ⟨⟨systemAdmin, name, ?_⟩, hstatus, rfl, rfl⟩)⟩
        rw [hid]
    · rw [hrows] at hmem
      exact .inl (updateFrom_old (f := requeued now) (fun _ => rfl) hretry hmem)

theorem reportWrite_taskStep {rep : UninstallTaskReport} (h : ReportWrite Lasting name rep s s') :
    TaskStep (.report name rep) s s' := by
  cases h with
  | @moved cl expected next now tasks hread hmove htransition heq =>
    obtain ⟨s1, s2, found, hread, hlater, hrow, hfound, hcluster⟩ := hread.exists_reads
    have hrows : s'.tasks.rows = tasks.rows := by rw [heq]; rfl
    refine ⟨fun task hmem => ?_, fun task' hmem => ?_, fun name' rep' hop task hmem hother => ?_,
      fun _ _ _ row hrow' _ => by rw [heq]; exact hrow'⟩
    · rw [hrows]
      rcases updateFrom_row htransition hmem with ⟨_, hkept⟩ | ⟨_, hstatus, hnew⟩
      · exact ⟨task, hkept, rfl, rfl, .inl rfl⟩
      · refine ⟨_, hnew, rfl, rfl, .inr (.inl ⟨⟨name, rep, rfl⟩, ?_, rfl⟩)⟩
        rw [hstatus]
        exact taskMove_of_report hmove
    · rw [hrows] at hmem
      exact .inl (updateFrom_old (f := transitioned next rep.error now)
        (fun _ => rfl) htransition hmem)
    · cases hop
      rw [hrows]
      rcases updateFrom_row htransition hmem with ⟨_, hkept⟩ | ⟨hid, _, _⟩
      · exact hkept
      · -- The task has belonged to the cluster of the session since it was read.
        obtain ⟨task', htask', hcluster'⟩ := hlater.tasks rep.taskID found hfound
        have hsame : some task = some task' := by
          rw [← htask', ← hid]
          exact (getByID_of_mem hmem).symm
        cases hsame
        obtain ⟨cl', hrow', hid'⟩ := (Lasting.trans _ _ _ hread hlater).getByName hrow
        exact absurd ((hcluster'.trans hcluster).trans hid'.symm) (hother cl' hrow')
  | @phased s3 cl expected next now tasks phase hread hmove htransition hlater hphase heq =>
    obtain ⟨s1, s2, found, hread, hlater', hrow, _, _⟩ := hread.exists_reads
    have htasks : s'.tasks = s.tasks := by rw [heq]; rfl
    refine ⟨fun task hmem => ?_, fun task' hmem => ?_, fun _ _ _ task hmem _ => ?_,
      fun name' rep' hop row hmem hname => ?_⟩
    · rw [htasks]
      exact ⟨task, hmem, rfl, rfl, .inl rfl⟩
    · rw [htasks] at hmem
      exact .inl ⟨task', hmem, rfl⟩
    · rw [htasks]
      exact hmem
    · cases hop
      -- The row of the session's cluster is the only one with its id.
      have hlasting := Lasting.trans _ _ _ (Lasting.trans _ _ _ hread hlater')
        (Lasting.trans _ _ _ (Lasting.transition htransition) hlater)
      obtain ⟨c, hc, hcname⟩ := hlasting.byID (ClusterTable.byID_of_getByName hrow)
      have hne : row.id ≠ cl.id := by
        intro hid
        have hsame : some row = some c := by
          rw [← hc, ← hid]
          exact (ClusterTable.byID_of_mem hmem).symm
        cases hsame
        exact hname (hcname.trans (ClusterTable.mem_of_getByName hrow).2)
      rw [heq]
      exact ClusterTable.mem_updates.mpr ⟨row, hmem, (if_neg hne).symm⟩

/-- What every call does to the tasks. -/
theorem write_taskStep [Digest] (h : op.Write Lasting s s') : TaskStep op s s' := by
  cases op with
  | flushOnce offlineAfter =>
    refine taskStep_of_tasks_eq (fun _ _ h => by cases h) ?_
    cases h with
    | heartbeat _ _ _ _ heq =>
      rw [heq]
      rfl
    | inventory _ heq =>
      rw [heq]
      rfl
  | createUninstall systemAdmin name => exact createWrite_taskStep h
  | retryUninstall systemAdmin name taskID => exact retryWrite_taskStep h
  | report name rep => exact reportWrite_taskStep h
  | register req =>
    refine taskStep_of_tasks_eq (fun _ _ h => by cases h) ?_
    cases h with
    | saved _ _ _ _ _ _ _ _ _ heq =>
      obtain ⟨clusters, _, heq⟩ := Option.map_eq_some_iff.mp heq
      rw [← heq]

/-! ## Attempts -/

/-- How often the task has been requeued. -/
def HubState.retries (s : HubState) (taskID : Int) : Nat :=
  s.history.count (.retried taskID)

/-- The attempts of a task in a state; a task that is not there yet will start
with one. -/
def HubState.attempts (s : HubState) (taskID : Int) : Int :=
  ((s.tasks.getByID taskID).map fun t => t.attempts).getD 1

/-- Since the start, attempts and retries have grown together. -/
structure Counted (start s : HubState) : Prop where
  lasting : Lasting start s
  attempts : ∀ id, s.attempts id + start.retries id = start.attempts id + s.retries id

theorem Counted.refl (s : HubState) : Counted s s := ⟨.refl s, fun _ => rfl⟩

theorem retries_updates (s : HubState) (id : Int) (w : ClusterColumns) (taskID : Int) :
    (s.updates id w).retries taskID = s.retries taskID := by
  simp [retries, updates, List.count_append]

/-- A call that touches neither the attempts nor the count. -/
theorem Counted.same (h : Counted start s) (hlasting : Lasting s s')
    (hattempts : ∀ id, s'.attempts id = s.attempts id)
    (hretries : ∀ id, s'.retries id = s.retries id) : Counted start s' := by
  refine ⟨.trans _ _ _ h.lasting hlasting, fun id => ?_⟩
  rw [hattempts, hretries]
  exact h.attempts id

/-- The attempts after a conditional update of one task. -/
theorem attempts_updateFrom {f : UninstallTaskRecord → UninstallTaskRecord} {tasks : TaskTable}
    (hid : ∀ r, (f r).id = r.id) (added : Int)
    (hattempts : ∀ r, (f r).attempts = r.attempts + added)
    (h : s.tasks.updateFrom id expected f = .written tasks) (id' : Int) :
    (s.setTasks tasks).attempts id' = s.attempts id' + if id' = id then added else 0 := by
  obtain ⟨task, htask, _, hrows⟩ := updateFrom_written h
  have hlookup : tasks.getByID id' =
      if id' = id then (s.tasks.getByID id).map f else s.tasks.getByID id' := by
    unfold TaskTable.getByID
    rw [hrows]
    exact Table.lookup_modify (fun r hr => (hid r).trans hr) s.tasks.rows
  unfold attempts setTasks
  rw [hlookup]
  by_cases heq : id' = id
  · rw [if_pos heq, if_pos heq, heq, htask]
    exact hattempts task
  · rw [if_neg heq, if_neg heq, Int.add_zero]

theorem attempts_createTask {clusterID : Int} {now : Time}
    (h : s.createTask clusterID id now = some s') (id' : Int) :
    s'.attempts id' = s.attempts id' := by
  obtain ⟨tasks, hcreate, heq⟩ := Option.map_eq_some_iff.mp h
  have hrows := rows_of_create hcreate
  have htasks : s'.tasks = tasks := by
    rw [← heq]
    rfl
  unfold attempts
  rw [htasks]
  cases hold : s.tasks.getByID id' with
  | some task =>
    obtain ⟨hmem, hid⟩ := mem_of_getByID hold
    have hstill : tasks.getByID task.id = some task := by
      refine getByID_of_mem ?_
      rw [hrows]
      exact List.mem_append_left _ hmem
    rw [← hid, hstill]
  | none =>
    -- Only the new task can be found, and it has one attempt.
    cases hnew : tasks.getByID id' with
    | none => rfl
    | some task =>
      obtain ⟨hmem, hid⟩ := mem_of_getByID hnew
      rw [hrows, List.mem_append, List.mem_singleton] at hmem
      rcases hmem with hmem | hmem
      · exact absurd hid (Table.lookup_none hold task hmem)
      · rw [hmem]
        rfl

theorem Counted.write [Digest] (h : Counted start s) (hwrite : op.Write Lasting s s') :
    Counted start s' := by
  have hlasting := LifecycleOp.write_lasting hwrite
  cases op with
  | flushOnce offlineAfter =>
    cases hwrite with
    | heartbeat _ _ _ _ heq =>
      rw [heq] at hlasting ⊢
      exact h.same hlasting (fun _ => rfl) (retries_updates s _ _)
    | inventory _ heq =>
      rw [heq] at hlasting ⊢
      exact h.same hlasting (fun _ => rfl) (retries_updates s _ _)
  | createUninstall systemAdmin name =>
    cases hwrite with
    | created _ _ _ heq =>
      refine h.same hlasting (attempts_createTask heq) fun id => ?_
      obtain ⟨tasks, _, heq⟩ := Option.map_eq_some_iff.mp heq
      rw [← heq, retries_updates]
      rfl
  | retryUninstall systemAdmin name taskID =>
    cases hwrite with
    | @retried _ _ _ _ now tasks _ _ _ _ _ hretry heq =>
      refine ⟨.trans _ _ _ h.lasting hlasting, fun id => ?_⟩
      have hattempts : s'.attempts id = s.attempts id + if id = taskID then 1 else 0 := by
        rw [heq]
        exact attempts_updateFrom (f := requeued now) (fun _ => rfl) 1 (fun _ => rfl)
          hretry id
      have hretries : s'.retries id = s.retries id + if id = taskID then 1 else 0 := by
        rw [heq]
        by_cases hid : id = taskID
        · simp [retries, HubState.retryTask, HubState.record, updates,
            setTasks, List.count_append, hid]
        · simp [retries, HubState.retryTask, HubState.record, updates,
            setTasks, List.count_append, hid, Ne.symm hid]
      have hbefore := h.attempts id
      rw [hattempts, hretries]
      split
      · push_cast
        omega
      · push_cast
        omega
  | report name rep =>
    cases hwrite with
    | @moved _ _ next now tasks _ _ htransition heq =>
      rw [heq] at hlasting ⊢
      refine h.same hlasting (fun id => ?_) fun _ => rfl
      rw [attempts_updateFrom (f := transitioned next rep.error now) (fun _ => rfl) 0
        (fun _ => (Int.add_zero _).symm) htransition id]
      simp
    | phased _ _ _ _ _ heq =>
      rw [heq] at hlasting ⊢
      exact h.same hlasting (fun _ => rfl) (retries_updates s _ _)
  | register req =>
    cases hwrite with
    | saved _ _ _ _ _ _ _ _ _ heq =>
      obtain ⟨clusters, _, heq⟩ := Option.map_eq_some_iff.mp heq
      rw [← heq] at hlasting ⊢
      refine h.same hlasting (fun _ => rfl) fun id => ?_
      simp [retries, List.count_append]

/-! ## Runs -/

/-- One event of an interleaved run. -/
def lifecycleStep [Digest] [GoUnicode] :
    LifecyclePool → PoolEvent LifecycleOp CallInput → LifecyclePool :=
  Pool.step (fun _ => ()) LifecycleOp.code

/-- A step of the task machine: nothing happens or an operation makes one of its
moves; a Succeeded task stays as it is; and no cluster has two active tasks. -/
structure MachineStep [Digest] [GoUnicode] (pool : LifecyclePool)
    (e : PoolEvent LifecycleOp CallInput) : Prop where
  moves : (lifecycleStep pool e).shared = pool.shared ∨
    ∃ k i t, e = .advance k i ∧ pool.threads[k]? = some t ∧
      TaskStep t.op pool.shared (lifecycleStep pool e).shared
  succeeded : ∀ task ∈ pool.shared.tasks.rows, task.status = .succeeded →
    task ∈ (lifecycleStep pool e).shared.tasks.rows
  oneActive : ∀ task ∈ (lifecycleStep pool e).shared.tasks.rows,
    ∀ task' ∈ (lifecycleStep pool e).shared.tasks.rows, task.status.isActive = true →
    task'.status.isActive = true → task.clusterID = task'.clusterID → task = task'

theorem TaskStep.succeeded (h : TaskStep op s s') {task : UninstallTaskRecord}
    (hmem : task ∈ s.tasks.rows) (hstatus : task.status = .succeeded) : task ∈ s'.tasks.rows := by
  obtain ⟨task', hmem', _, _, hchange⟩ := h.kept task hmem
  rcases hchange with hsame | ⟨_, hmove, _⟩ | ⟨_, hfailed, _⟩
  · rw [← hsame]
    exact hmem'
  · rw [hstatus] at hmove
    cases hmove
  · rw [hstatus] at hfailed
    exact absurd hfailed (by decide)

/-- What an event can do, by the list of writes. -/
abbrev LifecycleMoves [Digest] [GoUnicode] (pool : LifecyclePool)
    (e : PoolEvent LifecycleOp CallInput) : Prop :=
  pool.Moves (fun _ => ()) LifecycleOp.code (fun op => OrSame (op.Write Lasting))
    (fun op => OrSame (op.Write (Unchanged (fun _ => ()) Lasting fun _ => True))) e

theorem machine_step [Digest] [GoUnicode] (h : LifecycleMoves pool e) : MachineStep pool e := by
  have hmoves : (lifecycleStep pool e).shared = pool.shared ∨
      ∃ k i t, e = .advance k i ∧ pool.threads[k]? = some t ∧
        TaskStep t.op pool.shared (lifecycleStep pool e).shared := by
    rcases h with hsame | ⟨k, i, t, he, ht, hsame | hwrite, _⟩
    · exact .inl hsame
    · exact .inl hsame
    · exact .inr ⟨k, i, t, he, ht, write_taskStep hwrite⟩
  refine ⟨hmoves, fun task hmem hstatus => ?_,
    fun task hmem task' hmem' hactive hactive' hcluster =>
      active_unique _ hmem hmem' hactive hactive' hcluster⟩
  rcases hmoves with hsame | ⟨_, _, t, _, _, hstep⟩
  · rw [hsame]
    exact hmem
  · exact hstep.succeeded hmem hstatus

theorem machine_counted [Digest] [GoUnicode] (h : Counted start pool.shared)
    (hmoves : LifecycleMoves pool e) : Counted start (lifecycleStep pool e).shared := by
  rcases hmoves with hsame | ⟨_, _, _, _, _, hsame | hwrite, _⟩
  · exact hsame ▸ h
  · exact hsame ▸ h
  · exact h.write hwrite

/-- In every interleaving of the operations, from any state of the database,
every step is a step of the task machine, and the attempts of every task are
those it had, or one for a task that is new, plus the retries of the run. -/
theorem uninstall_task_machine [Digest] [GoUnicode] (start : HubState)
    (events : List (PoolEvent LifecycleOp CallInput)) :
    let final := (run lifecycleStep { shared := start } events).shared
    Guarded MachineStep lifecycleStep { shared := start } events ∧ ∀ task ∈ final.tasks.rows,
        task.attempts + start.retries task.id = start.attempts task.id + final.retries task.id := by
  intro final
  have hcode := LifecycleOp.code_ensures Lasting.trans fun _ _ => LifecycleOp.flush_lasting
  have hfresh := LifecycleOp.code_ensures (R := Unchanged (fun _ => ()) Lasting fun _ => True)
    (Unchanged.trans Lasting.trans) fun _ _ h => ⟨LifecycleOp.flush_lasting h, rfl, trivial⟩
  have hrun : Guarded MachineStep lifecycleStep { shared := start } events ∧ Counted start final :=
    run_tracked Lasting.refl Lasting.trans LifecycleOp.lasting hcode hfresh (fun _ _ => trivial)
      (fun pool e hcounted _ hmoves => ⟨machine_counted hcounted hmoves, machine_step hmoves⟩)
      (.refl start) (guarded_true lifecycleStep _ events)
  refine ⟨hrun.1, fun task hmem => ?_⟩
  have hattempts : final.attempts task.id = task.attempts := by
    unfold attempts
    rw [getByID_of_mem hmem]
    rfl
  rw [← hattempts]
  exact hrun.2.attempts task.id

end KubeSentry.Cluster
