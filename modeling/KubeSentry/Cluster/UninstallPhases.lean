import KubeSentry.Cluster.Provenance

/-!
# The phase of a cluster that is being removed

A heartbeat flush should never take a cluster out of Uninstalling or Uninstalled,
and Uninstalled should be final.  The operations decide from what they have read,
so both hold only while nobody else moves the cluster in between, and
`RetryUninstall` does not look at the phase at all.

`removalView id` is what the operations decide from: whether the cluster is being
removed, and its uninstall tasks.  `Undisturbed id` asks that a call that changes
this view comes from an operation that has found it unchanged at each of its
calls, and that no retry runs on an uninstalled cluster.

The invariant behind the proof is that an uninstalled cluster has no active task.
A report that finishes a task finds it active, so the cluster cannot have been
uninstalled before.
-/

namespace KubeSentry.Cluster

open GoLib Database Gateway TaskTable ClusterTable

/-! ## The view -/

/-- The phase of the cluster, if an uninstall task owns it. -/
def removal (id : Int) (s : HubState) : Option ClusterPhase :=
  ((s.clusters.byID id).map fun c => c.phase).filter fun phase => phase.Removing

/-- The uninstall tasks of the cluster. -/
def tasksOf (id : Int) (s : HubState) : List UninstallTaskRecord :=
  s.tasks.rows.filter fun t => t.clusterID = id

/-- What the operations on a cluster decide from. -/
def removalView (id : Int) (s : HubState) : Option ClusterPhase × List UninstallTaskRecord :=
  (removal id s, tasksOf id s)

variable {id taskID : Int} {s s' : HubState} {c : ClusterRecord} {name : String}
  {expected next : UninstallTaskStatus} {tasks : TaskTable} {task : UninstallTaskRecord}
  {phase : ClusterPhase} {id' : Int} {w : ClusterColumns} {cl : ClusterRecord}
  {rep : UninstallTaskReport} {now : Time}

theorem removal_eq_some :
    removal id s = some phase ↔
      ∃ c, s.clusters.byID id = some c ∧ c.phase = phase ∧ phase.Removing := by
  unfold removal
  rw [Option.filter_eq_some_iff, Option.map_eq_some_iff]
  constructor
  · intro ⟨⟨c, hc, hphase⟩, hremoving⟩
    exact ⟨c, hc, hphase, of_decide_eq_true hremoving⟩
  · intro ⟨c, hc, hphase, hremoving⟩
    exact ⟨⟨c, hc, hphase⟩, decide_eq_true hremoving⟩

/-- A row that no task owns. -/
theorem removal_eq_none (hrow : s.clusters.byID id = some c) (hphase : ¬ c.phase.Removing) :
    removal id s = none := by
  cases h : removal id s with
  | none => rfl
  | some phase =>
    obtain ⟨c', hc', hphase', hremoving⟩ := removal_eq_some.mp h
    rw [hrow] at hc'
    cases hc'
    exact absurd (hphase' ▸ hremoving) hphase

theorem removal_congr (h : s'.clusters.byID id = s.clusters.byID id) :
    removal id s' = removal id s := by
  unfold removal
  rw [h]

theorem removal_updates_other (hne : id ≠ id') (s : HubState) (w : ClusterColumns) :
    removal id (s.updates id' w) = removal id s := by
  refine removal_congr ?_
  show (s.clusters.updates id' w).byID id = _
  rw [byID_updates, if_neg hne]

/-- An update of the phase. -/
theorem removal_updates (hphase : w.phase = some phase) (hrow : s.clusters.byID id = some c) :
    removal id (s.updates id w) = if phase.Removing then some phase else none := by
  have hrow' : (s.updates id w).clusters.byID id = some (w.apply c) := by
    show (s.clusters.updates id w).byID id = _
    rw [byID_updates, if_pos rfl, hrow]
    rfl
  have happly : (w.apply c).phase = phase := by
    show w.phase.getD c.phase = phase
    rw [hphase]
    rfl
  split
  · rename_i hremoving
    exact removal_eq_some.mpr ⟨w.apply c, hrow', happly, hremoving⟩
  · rename_i hremoving
    exact removal_eq_none hrow' (happly ▸ hremoving)

/-- An update that does not name the phase. -/
theorem removal_updates_none (hphase : w.phase = none) :
    removal id (s.updates id' w) = removal id s := by
  unfold removal
  have hrow : (s.updates id' w).clusters.byID id =
      if id = id' then (s.clusters.byID id').map w.apply else s.clusters.byID id :=
    byID_updates s.clusters id' id w
  rw [hrow]
  split
  · rename_i heq
    rw [heq, Option.map_map]
    congr 2
    funext c
    show w.phase.getD c.phase = c.phase
    rw [hphase]
    rfl
  · rfl

/-! ## The law and its condition -/

/-- An uninstalled cluster has no active task. -/
def RemovedIdle (id : Int) (s : HubState) : Prop :=
  removal id s = some .uninstalled → ∀ task ∈ tasksOf id s, task.status.isActive = false

theorem RemovedIdle.congr (h : RemovedIdle id s) (hview : removalView id s' = removalView id s) :
    RemovedIdle id s' := by
  obtain ⟨hremoval, htasks⟩ := Prod.mk.inj hview
  unfold RemovedIdle
  rw [hremoval, htasks]
  exact h

section

variable [Digest] [GoUnicode]

/-- One event of an interleaved run, with the view tracked. -/
def removalStep (id : Int) : LifecyclePool → PoolEvent LifecycleOp CallInput → LifecyclePool :=
  Pool.step (removalView id) LifecycleOp.code

/-- The condition on a step: a call that changes the view is made by an operation
that has found it unchanged so far, and no retry runs on the uninstalled
cluster. -/
structure Undisturbed (id : Int) (pool : LifecyclePool) (e : PoolEvent LifecycleOp CallInput) :
    Prop where
  fresh : ∀ k i t, e = .advance k i → pool.threads[k]? = some t →
    removalView id (removalStep id pool e).shared ≠ removalView id pool.shared →
    t.Fresh (removalView id) pool.shared
  retry : ∀ k i t systemAdmin name taskID, e = .advance k i → pool.threads[k]? = some t →
    t.op = .retryUninstall systemAdmin name taskID →
    ∀ cl, pool.shared.clusters.getByName name = some cl → cl.id = id → cl.phase ≠ .uninstalled

/-- The law for a step: a flush leaves a cluster that is being removed in its
phase, and an uninstalled cluster stays uninstalled. -/
structure RemovalLaw (id : Int) (pool : LifecyclePool) (e : PoolEvent LifecycleOp CallInput) :
    Prop where
  flush : ∀ k i t offlineAfter, e = .advance k i → pool.threads[k]? = some t →
    t.op = .flushOnce offlineAfter → ∀ c, pool.shared.clusters.byID id = some c →
    c.phase.Removing →
    ∃ c', (removalStep id pool e).shared.clusters.byID id = some c' ∧ c'.phase = c.phase
  final : ∀ c, pool.shared.clusters.byID id = some c → c.phase = .uninstalled →
    ∃ c', (removalStep id pool e).shared.clusters.byID id = some c' ∧ c'.phase = .uninstalled

end

/-! ## What a write does to the view -/

/-- Nobody else has changed the view, and the invariant holds. -/
abbrev Quiet (id : Int) : HubState → HubState → Prop :=
  Unchanged (removalView id) Lasting (RemovedIdle id)

theorem Quiet.removal_eq (h : Quiet id s s') : removal id s' = removal id s :=
  congrArg Prod.fst h.view

theorem Quiet.tasksOf_eq (h : Quiet id s s') : tasksOf id s' = tasksOf id s :=
  congrArg Prod.snd h.view

theorem Quiet.trans {s'' : HubState} (h : Quiet id s s') (h' : Quiet id s' s'') : Quiet id s s'' :=
  Unchanged.trans Lasting.trans _ _ _ h h'

/-- A row that was read outside of a removal is still outside. -/
theorem Quiet.removal_none {s1 : HubState} (h : Quiet cl.id s1 s)
    (hrow : s1.clusters.byID cl.id = some cl) (hphase : ¬ cl.phase.Removing) :
    removal cl.id s = none := by
  rw [h.removal_eq]
  exact removal_eq_none hrow hphase

theorem flushWrite_view (h : FlushWrite (Quiet id) s s') :
    removalView id s' = removalView id s := by
  cases h with
  | @heartbeat s1 cl phase _ _ hlist hrow hphase hnew heq =>
    rw [heq]
    refine Prod.ext ?_ rfl
    by_cases hid : id = cl.id
    · subst hid
      have hread := byID_of_mem hrow
      obtain ⟨c, hc, _⟩ := hlist.base.byID hread
      have hout : ¬ phase.Removing := by
        rcases hnew with hnew | hnew
        · rw [hnew]
          decide
        · rw [hnew]
          decide
      show removal cl.id _ = removal cl.id s
      rw [removal_updates rfl hc, if_neg hout, hlist.removal_none hread hphase]
    · exact removal_updates_other hid s _
  | inventory _ heq =>
    rw [heq]
    exact Prod.ext (removal_updates_none rfl) rfl

theorem flushWrite_quiet (h : FlushWrite (Quiet id) s s') : Quiet id s s' := by
  have hview := flushWrite_view h
  refine ⟨LifecycleOp.flush_lasting h, hview, ?_⟩
  cases h with
  | heartbeat hlist _ _ _ _ => exact hlist.known.congr hview
  | inventory hlist _ => exact hlist.known.congr hview

theorem registerWrite_view [Digest] {id : Int} {req : RegisterRequest} {s s' : HubState}
    (h : RegisterWrite (Quiet id) req s s') : removalView id s' = removalView id s := by
  cases h with
  | @saved _ s1 s2 cl token _ hread hlist hrow hphase _ _ _ _ heq =>
    have hquiet := hread.trans hlist
    obtain ⟨hbyID, htasks, _⟩ := saveRegistration_spec hquiet.base hrow heq
    refine Prod.ext ?_ (by unfold removalView tasksOf; rw [htasks])
    show removal id s' = removal id s
    by_cases hid : id = cl.id
    · subst hid
      have hout : ¬ (registered req cl token).phase.Removing := by
        show ¬ ((if cl.phase = .unset ∨ cl.phase = .registering then
          some ClusterPhase.registering else none).getD cl.phase).Removing
        split
        · show ¬ ClusterPhase.registering.Removing
          decide
        · exact hphase
      rw [hquiet.removal_none (byID_of_getByName hrow) hphase]
      exact removal_eq_none ((hbyID cl.id).trans (if_pos rfl)) hout
    · exact removal_congr ((hbyID id).trans (if_neg hid))

/-- A transaction that sets the phase to Uninstalling. -/
theorem removal_uninstalling (hrow : s.clusters.byID id = some c) :
    removal id (s.updates id { phase := some .uninstalling }) = some .uninstalling := by
  rw [removal_updates rfl hrow]
  exact if_pos (by decide)

theorem createWrite_removal (h : CreateWrite (Quiet id) name s s') :
    removalView id s' = removalView id s ∨
      (removal id s = none ∧ removal id s' = some .uninstalling) := by
  cases h with
  | @created s1 cl taskID now hread hrow hphase heq =>
    obtain ⟨tasks, hcreate, heq⟩ := Option.map_eq_some_iff.mp heq
    have hbyID := byID_of_getByName hrow
    rw [← heq]
    by_cases hid : id = cl.id
    · subst hid
      right
      obtain ⟨c, hc, _⟩ := hread.base.byID hbyID
      refine ⟨hread.removal_none hbyID (by rw [hphase]; decide), ?_⟩
      exact removal_uninstalling (s := s.setTasks tasks) hc
    · left
      refine Prod.ext (removal_updates_other hid (s.setTasks tasks) _) ?_
      show tasks.rows.filter _ = s.tasks.rows.filter _
      rw [rows_of_create hcreate, List.filter_append,
        List.filter_cons_of_neg (by simp [Ne.symm hid])]
      exact List.append_nil _

/-- A conditional update of a task of another cluster. -/
theorem tasksOf_updateFrom {f : UninstallTaskRecord → UninstallTaskRecord}
    (hcluster : ∀ r, (f r).clusterID = r.clusterID) (htask : s.tasks.getByID taskID = some task)
    (hne : task.clusterID ≠ id) (h : s.tasks.updateFrom taskID expected f = .written tasks) :
    tasksOf id (s.setTasks tasks) = tasksOf id s := by
  obtain ⟨_, _, _, hrows⟩ := updateFrom_written h
  show tasks.rows.filter _ = s.tasks.rows.filter _
  rw [hrows]
  refine Table.filter_modify fun r hr hid => ?_
  have hsame : some r = some task := by
    rw [← htask, ← hid]
    exact (getByID_of_mem hr).symm
  cases hsame
  rw [hcluster]
  exact ⟨decide_eq_false hne, decide_eq_false hne⟩

theorem retryWrite_removal (h : RetryWrite (Quiet id) name taskID s s') :
    removalView id s' = removalView id s ∨
      ((∃ cl, s.clusters.getByName name = some cl ∧ cl.id = id) ∧
        removal id s' = some .uninstalling) := by
  cases h with
  | @retried s1 s2 cl task now tasks hread hlater hrow htask hcluster hretry heq =>
    have hlasting := (hread.trans hlater).base
    rw [heq]
    by_cases hid : id = cl.id
    · subst hid
      right
      obtain ⟨c, hc, hcid⟩ := hlasting.getByName hrow
      obtain ⟨c', hc', _⟩ := hlasting.byID (byID_of_getByName hrow)
      exact ⟨⟨c, hc, hcid⟩, removal_uninstalling (s := s.setTasks tasks) hc'⟩
    · left
      obtain ⟨task', htask', hcluster'⟩ := hlater.base.tasks taskID task htask
      have hne : task'.clusterID ≠ id := by
        rw [hcluster', hcluster]
        exact Ne.symm hid
      refine Prod.ext (removal_updates_other hid (s.setTasks tasks) _) ?_
      exact tasksOf_updateFrom (f := requeued now) (fun _ => rfl) htask' hne hretry

theorem mem_tasksOf : task ∈ tasksOf id s ↔ task ∈ s.tasks.rows ∧ task.clusterID = id := by
  unfold tasksOf
  rw [List.mem_filter, decide_eq_true_eq]

/-- An active task of the cluster rules out that it is uninstalled. -/
theorem RemovedIdle.not_uninstalled (h : RemovedIdle id s) (hmem : task ∈ s.tasks.rows)
    (hcluster : task.clusterID = id) (hactive : task.status.isActive = true) :
    removal id s ≠ some .uninstalled := by
  intro huninstalled
  have hidle := h huninstalled task (mem_tasksOf.mpr ⟨hmem, hcluster⟩)
  rw [hactive] at hidle
  cases hidle

/-- The statuses that a report expects are active, and the ones that end a task
are not. -/
theorem ReportState.move_active {state : ReportState} (h : state.move = some (expected, next)) :
    expected.isActive = true ∧ (state.phase ≠ none → next.isActive = false) := by
  cases state with
  | unspecified => cases h
  | received =>
    cases h
    exact ⟨rfl, fun hphase => absurd rfl hphase⟩
  | succeeded =>
    cases h
    exact ⟨rfl, fun _ => rfl⟩
  | failed =>
    cases h
    exact ⟨rfl, fun _ => rfl⟩

/-- The task of a report is an active task of the session's cluster when it
moves. -/
theorem report_task (hread : ReportRead (Quiet id) name rep s cl)
    (hmove : rep.state.move = some (expected, next))
    (htransition : s.tasks.transition rep.taskID expected next rep.error now = .written tasks) :
    ∃ task, s.tasks.getByID rep.taskID = some task ∧ task.clusterID = cl.id ∧
      task.status.isActive = true ∧ (cl.id = id → removal id s ≠ some .uninstalled) := by
  obtain ⟨s1, s2, found, _, hlater, _, hfound, hcluster⟩ := hread.exists_reads
  obtain ⟨task, htask, hstatus, _⟩ := updateFrom_written htransition
  obtain ⟨task', htask', hcluster'⟩ := hlater.base.tasks rep.taskID found hfound
  rw [htask] at htask'
  cases htask'
  have hown := hcluster'.trans hcluster
  have hactive : task.status.isActive = true := by
    rw [hstatus]
    exact (ReportState.move_active hmove).1
  refine ⟨task, htask, hown, hactive, fun hid => ?_⟩
  exact hlater.known.not_uninstalled (mem_of_getByID htask).1 (hown.trans hid) hactive

/-- When a report ends the active task of a cluster, no active task is left. -/
theorem idle_of_transition {message : String}
    (htransition : s.tasks.transition taskID expected next message now = .written tasks)
    (htask : s.tasks.getByID taskID = some task) (hcluster : task.clusterID = id)
    (hactive : task.status.isActive = true) (hnext : next.isActive = false) :
    ∀ r ∈ tasksOf id (s.setTasks tasks), r.status.isActive = false := by
  intro r hr
  obtain ⟨_, _, _, hrows⟩ := updateFrom_written htransition
  obtain ⟨hmem, hrcluster⟩ := mem_tasksOf.mp hr
  have hmem' : r ∈ tasks.rows := hmem
  rw [hrows] at hmem'
  obtain ⟨old, hold, heq⟩ := Table.mem_modify.mp hmem'
  by_cases hid : old.id = taskID
  · rw [if_pos hid] at heq
    rw [heq]
    exact hnext
  · rw [if_neg hid] at heq
    subst heq
    -- Another active task of the cluster would break the index.
    cases hstatus : r.status.isActive with
    | false => rfl
    | true =>
      obtain ⟨htmem, htid⟩ := mem_of_getByID htask
      have hsame := active_unique s.tasks hold htmem hstatus hactive
        (hrcluster.trans hcluster.symm)
      exact absurd (hsame ▸ htid) hid

theorem reportWrite_removal (h : ReportWrite (Quiet id) name rep s s') :
    removalView id s' = removalView id s ∨
      (removal id s ≠ some .uninstalled ∧ RemovedIdle id s') := by
  cases h with
  | @moved cl expected next now tasks hread hmove htransition heq =>
    obtain ⟨task, htask, hcluster, hactive, hnot⟩ := report_task hread hmove htransition
    rw [heq]
    by_cases hid : cl.id = id
    · right
      exact ⟨hnot hid, fun huninstalled => absurd huninstalled (hnot hid)⟩
    · left
      refine Prod.ext rfl ?_
      exact tasksOf_updateFrom (f := transitioned next rep.error now) (fun _ => rfl)
        htask (hcluster ▸ hid) htransition
  | @phased s3 cl expected next now tasks phase hread hmove htransition hlater hphase heq =>
    obtain ⟨task, htask, hcluster, hactive, hnot⟩ := report_task hread hmove htransition
    rw [heq]
    by_cases hid : cl.id = id
    · right
      constructor
      · rw [hlater.removal_eq]
        exact hnot hid
      · intro _ r hr
        have hr' : r ∈ tasksOf id s := hr
        rw [hlater.tasksOf_eq] at hr'
        refine idle_of_transition htransition htask (hcluster.trans hid) hactive ?_ r hr'
        refine (ReportState.move_active hmove).2 ?_
        rw [hphase]
        exact Option.some_ne_none phase
    · left
      exact Prod.ext (removal_updates_other (Ne.symm hid) s _) rfl

/-! ## Runs -/

section

variable [Digest] [GoUnicode]

/-- What an event can do, by the list of writes. -/
abbrev RemovalMoves (id : Int) (pool : LifecyclePool) (e : PoolEvent LifecycleOp CallInput) :
    Prop :=
  pool.Moves (removalView id) LifecycleOp.code (fun op => OrSame (op.Write Lasting))
    (fun op => OrSame (op.Write (Quiet id))) e

variable {id : Int} {pool : LifecyclePool} {e : PoolEvent LifecycleOp CallInput}

omit [GoUnicode] in
/-- A write of an operation that has seen no change: the view stays, or the
cluster was not uninstalled and the invariant is kept. -/
theorem write_removal {op : LifecycleOp} {s s' : HubState} (h : op.Write (Quiet id) s s')
    (hretry : ∀ systemAdmin name taskID, op = .retryUninstall systemAdmin name taskID →
      ∀ cl, s.clusters.getByName name = some cl → cl.id = id → cl.phase ≠ .uninstalled) :
    removalView id s' = removalView id s ∨
      ((∀ offlineAfter, op ≠ .flushOnce offlineAfter) ∧ removal id s ≠ some .uninstalled ∧
        RemovedIdle id s') := by
  have huninstalling : removal id s' = some .uninstalling → RemovedIdle id s' := by
    intro h h'
    rw [h] at h'
    cases h'
  cases op with
  | flushOnce offlineAfter => exact .inl (flushWrite_view h)
  | createUninstall systemAdmin name =>
    refine (createWrite_removal h).imp_right fun ⟨hnone, hsome⟩ => ?_
    exact ⟨fun _ => LifecycleOp.noConfusion, by rw [hnone]; exact (Option.some_ne_none _).symm,
      huninstalling hsome⟩
  | retryUninstall systemAdmin name taskID =>
    refine (retryWrite_removal h).imp_right fun ⟨⟨cl, hcl, hid⟩, hsome⟩ => ?_
    refine ⟨fun _ => LifecycleOp.noConfusion, fun huninstalled => ?_, huninstalling hsome⟩
    obtain ⟨c, hc, hphase, _⟩ := removal_eq_some.mp huninstalled
    have hsame := byID_of_getByName hcl
    rw [hid, hc] at hsame
    cases hsame
    exact hretry systemAdmin name taskID rfl _ hcl hid hphase
  | report name rep =>
    refine (reportWrite_removal h).imp_right fun hkeeps => ?_
    exact ⟨fun _ => LifecycleOp.noConfusion, hkeeps⟩
  | register req => exact .inl (registerWrite_view h)

/-- While the view stays, so does the phase of a cluster that is being
removed. -/
theorem removalLaw_of_removal_eq
    (h : removal id (removalStep id pool e).shared = removal id pool.shared) :
    RemovalLaw id pool e := by
  have hstays : ∀ c, pool.shared.clusters.byID id = some c → c.phase.Removing →
      ∃ c', (removalStep id pool e).shared.clusters.byID id = some c' ∧ c'.phase = c.phase := by
    intro c hc hremoving
    have hbefore := removal_eq_some.mpr ⟨c, hc, rfl, hremoving⟩
    rw [← h] at hbefore
    obtain ⟨c', hc', hphase, _⟩ := removal_eq_some.mp hbefore
    exact ⟨c', hc', hphase⟩
  refine ⟨fun _ _ _ _ _ _ _ c hc hremoving => hstays c hc hremoving, fun c hc hphase => ?_⟩
  obtain ⟨c', hc', hphase'⟩ := hstays c hc (.inr hphase)
  exact ⟨c', hc', hphase'.trans hphase⟩

theorem removal_step (hidle : RemovedIdle id pool.shared) (hallowed : Undisturbed id pool e)
    (hmoves : RemovalMoves id pool e) :
    RemovedIdle id (removalStep id pool e).shared ∧ RemovalLaw id pool e := by
  by_cases hview : removalView id (removalStep id pool e).shared = removalView id pool.shared
  · exact ⟨hidle.congr hview, removalLaw_of_removal_eq (congrArg Prod.fst hview)⟩
  · rcases hmoves with hsame | ⟨k, i, t, he, ht, _, hfresh⟩
    · exact absurd (congrArg (removalView id) hsame) hview
    · rcases hfresh (hallowed.fresh k i t he ht hview) with hsame | hwrite
      · exact absurd (congrArg (removalView id) hsame) hview
      · have hretry := fun systemAdmin name taskID => hallowed.retry k i t systemAdmin name taskID
          he ht
        obtain ⟨hop, hnot, hidle'⟩ := (write_removal hwrite hretry).resolve_left hview
        refine ⟨hidle', fun k' i' t' offlineAfter he' ht' hflush => ?_, fun c hc hphase => ?_⟩
        · rw [he] at he'
          cases he'
          rw [ht] at ht'
          cases ht'
          exact absurd hflush (hop offlineAfter)
        · exact absurd (removal_eq_some.mpr ⟨c, hc, hphase, .inr rfl⟩) hnot

/-- In a run whose steps are undisturbed, a flush never takes a cluster out of its
removal, and an uninstalled cluster stays uninstalled. -/
theorem removal_is_final (id : Int) {start : HubState} (hstart : RemovedIdle id start)
    {events : List (PoolEvent LifecycleOp CallInput)}
    (hguard : Guarded (Undisturbed id) (removalStep id) { shared := start } events) :
    Guarded (RemovalLaw id) (removalStep id) { shared := start } events := by
  have hcode := LifecycleOp.code_ensures Lasting.trans fun _ _ => LifecycleOp.flush_lasting
  have hfresh := LifecycleOp.code_ensures (R := Quiet id) (Unchanged.trans Lasting.trans)
    fun _ _ => flushWrite_quiet
  exact (run_tracked Lasting.refl Lasting.trans LifecycleOp.lasting hcode hfresh (fun _ h => h)
    (fun _ _ => removal_step) hstart hguard).1

/-- An operation that runs alone is undisturbed, unless it is a retry. -/
theorem undisturbed_alone (id : Int) (op : LifecycleOp)
    (hop : ∀ systemAdmin name taskID, op ≠ .retryUninstall systemAdmin name taskID)
    (start : HubState) (inputs : List CallInput) :
    Guarded (Undisturbed id) (removalStep id) { shared := start }
      (.spawn op :: inputs.map (.advance 0)) := by
  have hspawn : Undisturbed id { shared := start } (.spawn op) := by
    constructor
    · intro _ _ _ he
      cases he
    · intro _ _ _ _ _ _ he
      cases he
  refine ⟨hspawn, guarded_solo (fun pool i hsolo _ => ?_) (Pool.solo_spawn start op)
    (guarded_true _ _ _)⟩
  refine ⟨fun k j u he hu _ => (hsolo.advances he hu).2, ?_⟩
  intro k j u systemAdmin name taskID he hu huop
  exact absurd ((hsolo.advances he hu).1.symm.trans huop) (hop systemAdmin name taskID)

end

/-! ## A flush that comes late, and a retry of an old task -/

attribute [local instance] GoUnicode.ascii Digest.names

/-- One cluster that is Online, without uninstall tasks. -/
def onlineHub : HubState where
  clusters :=
    { rows := [{ id := 1, name := "prod", phase := .online }]
      ids_nodup := List.nodup_singleton _
      names_nodup := List.nodup_singleton _ }
  tasks := { rows := [], ids_nodup := List.nodup_nil, active_nodup := List.nodup_nil }

/-- The calls of `CreateUninstall`, alone, on a cluster that is Online. -/
theorem removal_is_final_create :
    let events := .spawn (.createUninstall true "prod") ::
      [{}, {}, { newID := 7 }].map (PoolEvent.advance (T := LifecycleOp) 0)
    RemovedIdle 1 onlineHub ∧
      Guarded (Undisturbed 1) (removalStep 1) { shared := onlineHub } events ∧
      Guarded (RemovalLaw 1) (removalStep 1) { shared := onlineHub } events := by
  intro events
  have hidle : RemovedIdle 1 onlineHub := by
    intro h
    exact absurd h (by decide +kernel)
  have hguard := undisturbed_alone 1 (.createUninstall true "prod")
    (fun _ _ _ => LifecycleOp.noConfusion) onlineHub [{}, {}, { newID := 7 }]
  exact ⟨hidle, hguard, removal_is_final 1 hidle hguard⟩

/-- An operation that makes its calls without interruption, as thread `k`. -/
def callsOf (k : Nat) (op : LifecycleOp) (inputs : List CallInput) :
    List (PoolEvent LifecycleOp CallInput) :=
  .spawn op :: inputs.map (.advance k)

/-- A heartbeat of the cluster at time 0. -/
def prodHeartbeat : CallInput where
  heartbeats := (∅ : GoMap HeartbeatInfo).insert "prod" { lastSeen := 0 }

/-- A flush lists the clusters, an uninstall is created, and the flush goes on. -/
def lateFlush : List (PoolEvent LifecycleOp CallInput) :=
  callsOf 0 (.flushOnce 60) [{}] ++
    callsOf 1 (.createUninstall true "prod") [{}, {}, { newID := 7 }] ++ [.advance 0 prodHeartbeat]

/-- A first task fails, a second one succeeds, and the first one is retried. -/
def oldRetry : List (PoolEvent LifecycleOp CallInput) :=
  callsOf 0 (.createUninstall true "prod") [{}, {}, { newID := 7 }] ++
    callsOf 1 (.report "prod" { taskID := 7, state := .received }) [{}, {}, {}] ++
    callsOf 2 (.report "prod" { taskID := 7, state := .failed }) [{}, {}, {}, {}] ++
    callsOf 3 (.createUninstall true "prod") [{}, {}, { newID := 8 }] ++
    callsOf 4 (.report "prod" { taskID := 8, state := .received }) [{}, {}, {}] ++
    callsOf 5 (.report "prod" { taskID := 8, state := .succeeded }) [{}, {}, {}, {}] ++
    callsOf 6 (.retryUninstall true "prod" 7) [{}, {}]

def phaseOf (id : Int) (s : HubState) : Option ClusterPhase :=
  (s.clusters.byID id).map fun c => c.phase

def opOf (k : Nat) (pool : LifecyclePool) : Option LifecycleOp :=
  pool.threads[k]?.map fun t => t.op

/-- A phase that changes contradicts a phase that stays. -/
theorem phase_contradiction {id : Int} {s : HubState} {phase phase' : ClusterPhase}
    (h : ∃ c, s.clusters.byID id = some c ∧ c.phase = phase) (h' : phaseOf id s = some phase')
    (hne : phase ≠ phase') : False := by
  obtain ⟨c, hc, hphase⟩ := h
  unfold phaseOf at h'
  rw [hc, Option.map_some, hphase] at h'
  exact hne (Option.some.inj h')

/-- The last call of the flush makes an Uninstalling cluster Online, and the last
call of the retry makes an Uninstalled cluster Uninstalling. -/
theorem late_flush_and_old_retry :
    ¬ RemovalLaw 1 (run (removalStep 1) { shared := onlineHub } lateFlush) (.advance 0 {}) ∧
      ¬ RemovalLaw 1 (run (removalStep 1) { shared := onlineHub } oldRetry) (.advance 6 {}) := by
  constructor
  · intro hlaw
    have hop : opOf 0 (run (removalStep 1) { shared := onlineHub } lateFlush) =
        some (.flushOnce 60) := by decide +kernel
    have hbefore : phaseOf 1 (run (removalStep 1) { shared := onlineHub } lateFlush).shared =
        some .uninstalling := by decide +kernel
    have hafter : phaseOf 1 (removalStep 1 (run (removalStep 1) { shared := onlineHub } lateFlush)
        (.advance 0 {})).shared = some .online := by decide +kernel
    obtain ⟨t, ht, hop⟩ := Option.map_eq_some_iff.mp hop
    obtain ⟨c, hc, hphase⟩ := Option.map_eq_some_iff.mp hbefore
    have hstays := hlaw.flush 0 {} t 60 rfl ht hop c hc (.inl hphase)
    rw [hphase] at hstays
    exact phase_contradiction hstays hafter (by decide)
  · intro hlaw
    have hbefore : phaseOf 1 (run (removalStep 1) { shared := onlineHub } oldRetry).shared =
        some .uninstalled := by decide +kernel
    have hafter : phaseOf 1 (removalStep 1 (run (removalStep 1) { shared := onlineHub } oldRetry)
        (.advance 6 {})).shared = some .uninstalling := by decide +kernel
    obtain ⟨c, hc, hphase⟩ := Option.map_eq_some_iff.mp hbefore
    exact phase_contradiction (hlaw.final c hc hphase) hafter (by decide)

end KubeSentry.Cluster
