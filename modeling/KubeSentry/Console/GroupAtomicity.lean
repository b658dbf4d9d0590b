import KubeSentry.Console.GroupService

/-!
# A group and its scope are two writes

`Create`, `Update` and `Delete` of a group write `policy_groups` and then, without a
transaction around both, `policy_distributions`.  If the second step returns an error, the
first write stays.

`allOrNothing_iff` says when that cannot happen, in terms of the request, the stored rows and
the calls that fail: the checks before the first write refuse the call (`Accepted`), or its
second step finds everything that it needs (`Ready`).  The second step needs more than the
checks establish.  A tenant's group for all clusters needs the tenant to have a cluster, all of
them must be installed, and a new scope row needs its two index entries to be free, one of
which all tenants share.

* `Decides` describes a part of a call: it returns its value exactly if none of its calls
  fails and a condition on the database holds.  A part that only reads is a `Reads`.
* `scopePart_ok_iff` says exactly when the second step succeeds, and `decides_rowPart` when
  the first part does.
-/

namespace KubeSentry.Console.PolicyGroupService

open GoLib Fallible Database

/-! ## Calls -/

inductive GroupCall where
  | create (req : PolicyGroupInput)
  | update (name : String) (req : PolicyGroupInput)
  | delete (name : String)

namespace GroupCall

section

variable [GoUnicode] [Apimachinery] [NameValidation]

def code (actor : Principal) : GroupCall → ServiceProg Unit
  | .create req => lockedCreate actor req
  | .update name req => lockedUpdate actor name req
  | .delete name => PolicyGroupService.delete actor name

/-- The call up to the write of the group. -/
def rowPart (actor : Principal) : GroupCall → ServiceProg Owner
  | .create req => withPolicyReferenceLock (createRow actor req)
  | .update name req => withPolicyReferenceLock (updateRow actor name req)
  | .delete name => deleteRow actor name

end

/-- The second step of the call. -/
def scopePart [GoUnicode] (call : GroupCall) (owner : Owner) : ServiceProg Unit :=
  match call with
  | .create req => syncScope (req.name.getD "") owner (req.allClusters.getD false) req.clusterNames
  | .update name req =>
    syncScope name owner (name = defaultGroupName || req.allClusters.getD false) req.clusterNames
  | .delete name => deleteScope name owner

theorem code_eq [GoUnicode] [Apimachinery] [NameValidation] (actor : Principal)
    (call : GroupCall) : call.code actor = call.rowPart actor >>= call.scopePart := by
  cases call with
  | create req => exact (try_assoc _ _ _).symm
  | update name req => exact (try_assoc _ _ _).symm
  | delete name => rfl

end GroupCall

/-! ## Calls that do not fail -/

/-- None of the next `n` calls fails. -/
def Clean (n : Nat) (inputs : List DbInput) : Prop :=
  ∀ i ∈ inputs.take n, (DbInput.first i).fault = none

instance (n : Nat) (inputs : List DbInput) : Decidable (Clean n inputs) :=
  List.decidableBAll _ _

theorem clean_add {n m : Nat} {inputs : List DbInput} :
    Clean (n + m) inputs ↔ Clean n inputs ∧ Clean m (inputs.drop n) := by
  unfold Clean
  rw [List.take_add]
  exact List.forall_mem_append

theorem clean_one {inputs : List DbInput} :
    Clean 1 inputs ↔ (DbInput.first (inputs.headD default)).fault = none := by
  unfold Clean
  cases inputs with
  | nil => exact iff_of_true (fun i hi => absurd hi List.not_mem_nil) rfl
  | cons i rest =>
    exact List.forall_mem_singleton

/-- Alone, the program returns `a` after `n` calls and leaves a state of `after`, if none of
the calls fails and `P` holds; otherwise it returns an error and leaves the state as it is. -/
structure Decides {E A : Type} (p : Fallible ConsoleState DbInput E A) (s : ConsoleState)
    (after : ConsoleState → Prop) (P : Prop) (a : A) (n : Nat) : Prop where
  returns : ∀ inputs, Clean n inputs → P →
    ∃ s', after s' ∧ p.exec s inputs = (s', .ok a, inputs.drop n)
  fails : ∀ inputs, ¬ (Clean n inputs ∧ P) → ∃ e rest, p.exec s inputs = (s, .error e, rest)

/-- The program only reads. -/
abbrev Reads {E A : Type} (p : Fallible ConsoleState DbInput E A) (s : ConsoleState)
    (P : Prop) (a : A) (n : Nat) : Prop :=
  Decides p s (fun s' => s' = s) P a n

section

variable {E E' A B : Type} {s : ConsoleState} {p : Fallible ConsoleState DbInput E A} {P : Prop}
  {a : A} {n : Nat} {f : A → Fallible ConsoleState DbInput E B} {Q : Prop} {m : Nat}
  {after : ConsoleState → Prop}

theorem Decides.exec (h : Reads p s P a n) {inputs : List DbInput} (hready : Clean n inputs ∧ P) :
    p.exec s inputs = (s, .ok a, inputs.drop n) := by
  obtain ⟨_, rfl, hexec⟩ := h.returns inputs hready.1 hready.2
  exact hexec

/-- A part that only reads comes first. -/
theorem Decides.seq {b : B} (hp : Reads p s P a n) (hf : Decides (f a) s after Q b m) :
    Decides (p >>= f) s after (P ∧ Q) b (n + m) where
  returns := by
    intro inputs hclean ⟨hP, hQ⟩
    obtain ⟨hn, hm⟩ := clean_add.mp hclean
    rw [exec_try_ok (hp.exec ⟨hn, hP⟩), ← List.drop_drop]
    exact hf.returns _ hm hQ
  fails := by
    intro inputs hnot
    by_cases hfirst : Clean n inputs ∧ P
    · rw [exec_try_ok (hp.exec hfirst)]
      refine hf.fails _ fun ⟨hm, hQ⟩ => ?_
      exact hnot ⟨clean_add.mpr ⟨hfirst.1, hm⟩, hfirst.2, hQ⟩
    · obtain ⟨e, rest, herror⟩ := hp.fails inputs hfirst
      exact ⟨e, rest, exec_try_error herror⟩

theorem Decides.congr (h : Decides p s after P a n) (hPQ : P ↔ Q) (hn : n = m) :
    Decides p s after Q a m := by
  rw [← propext hPQ, ← hn]
  exact h

theorem reads_ofExcept (r : Except E A) (a : A) :
    Reads (ofExcept r : Fallible ConsoleState DbInput E A) s (r.isOk = true)
      (r.toOption.getD a) 0 := by
  cases r with
  | ok b => exact ⟨fun _ _ _ => ⟨s, rfl, rfl⟩, fun _ h => absurd ⟨nofun, rfl⟩ h⟩
  | error e => exact ⟨nofun, fun inputs _ => ⟨e, inputs, rfl⟩⟩

theorem reads_pure (a : A) : Reads (pure a : Fallible ConsoleState DbInput E A) s True a 0 :=
  (reads_ofExcept (.ok a) a).congr (iff_of_true rfl trivial) rfl

theorem reads_refuseIf (c : Prop) [Decidable c] (e : E) :
    Reads (refuseIf c e : Fallible ConsoleState DbInput E Unit) s (¬ c) () 0 := by
  unfold refuseIf
  split
  · rename_i hc
    exact (reads_ofExcept (.error e) ()).congr (iff_of_false nofun (not_not.mpr hc)) rfl
  · rename_i hc
    exact (reads_pure ()).congr (iff_of_true trivial hc) rfl

theorem exec_mapError {s' : ConsoleState} {inputs rest : List DbInput} {r : Except E A}
    (h : p.exec s inputs = (s', r, rest)) (f : E → E') :
    (p.mapError f).exec s inputs = (s', r.mapError f, rest) := by
  have hexec : Prog.exec p s inputs = (s', r, rest) := h
  have hbind := Prog.exec_bind p (fun r => Prog.ret (r.mapError f)) s inputs
  rw [hexec] at hbind
  exact hbind

theorem Decides.mapError (h : Decides p s after P a n) (f : E → E') :
    Decides (p.mapError f) s after P a n where
  returns := by
    intro inputs hclean hP
    obtain ⟨s', hs', hexec⟩ := h.returns inputs hclean hP
    exact ⟨s', hs', exec_mapError hexec f⟩
  fails := by
    intro inputs hnot
    obtain ⟨e, rest, herror⟩ := h.fails inputs hnot
    exact ⟨f e, rest, exec_mapError herror f⟩

theorem exec_query (f : ConsoleState → Except DbError A) (inputs : List DbInput) :
    (query f).exec s inputs = (s, match (DbInput.first (inputs.headD default)).fault with
      | some text => .error { reason := .other, text := text }
      | none => f s, inputs.drop 1) := by
  rw [List.drop_one]
  rfl

theorem reads_query (f : ConsoleState → Except DbError A) (a : A) :
    Reads (query f) s ((f s).isOk = true) ((f s).toOption.getD a) 1 where
  returns := by
    intro inputs hclean hok
    refine ⟨s, rfl, ?_⟩
    rw [exec_query, clean_one.mp hclean]
    cases hf : f s with
    | ok b => rfl
    | error e =>
      rw [hf] at hok
      cases hok
  fails := by
    intro inputs hnot
    rw [exec_query]
    cases hfault : (DbInput.first (inputs.headD default)).fault with
    | some text => exact ⟨_, _, rfl⟩
    | none =>
      cases hf : f s with
      | ok b => exact absurd ⟨clean_one.mpr hfault, by rw [hf]; rfl⟩ hnot
      | error e => exact ⟨e, _, rfl⟩

theorem reads_list (f : ConsoleState → A) : Reads (query fun s => .ok (f s)) s True (f s) 1 :=
  (reads_query _ (f s)).congr (iff_of_true rfl trivial) rfl

theorem reads_forEach {f : A → Fallible ConsoleState DbInput E Unit} {P : A → Prop}
    {items : List A} (h : ∀ a ∈ items, Reads (f a) s (P a) () 1) :
    Reads (Fallible.forEach f items) s (∀ a ∈ items, P a) () items.length := by
  induction items with
  | nil =>
    have hnone : ∀ a ∈ ([] : List A), P a := fun a ha => absurd ha List.not_mem_nil
    exact (reads_pure ()).congr (iff_of_true trivial hnone) rfl
  | cons a rest ih =>
    have hrest := ih fun b hb => h b (List.mem_cons_of_mem _ hb)
    refine ((h a List.mem_cons_self).seq hrest).congr List.forall_mem_cons.symm ?_
    rw [List.length_cons, Nat.add_comm]

theorem Decides.thenReturn {p : Fallible ConsoleState DbInput E Unit}
    (h : Decides p s after P () n) (b : B) :
    Decides (do
      p
      return b) s after P b n where
  returns := by
    intro inputs hclean hP
    obtain ⟨s', hs', hexec⟩ := h.returns inputs hclean hP
    exact ⟨s', hs', exec_try_ok hexec⟩
  fails := by
    intro inputs hnot
    obtain ⟨e, rest, herror⟩ := h.fails inputs hnot
    exact ⟨e, rest, exec_try_error herror⟩

theorem Decides.ok_iff (h : Decides p s after P a n) (inputs : List DbInput) :
    (p.exec s inputs).2.1 = .ok a ↔ Clean n inputs ∧ P := by
  by_cases hready : Clean n inputs ∧ P
  · obtain ⟨s', _, hexec⟩ := h.returns inputs hready.1 hready.2
    rw [hexec]
    exact iff_of_true rfl hready
  · obtain ⟨e, rest, herror⟩ := h.fails inputs hready
    rw [herror]
    exact iff_of_false nofun hready

theorem exec_execute (f : ConsoleState → Nat → Except DbError (ConsoleState × A))
    (inputs : List DbInput) :
    (execute f).exec s inputs = ((executed f s (inputs.headD default)).1,
      (executed f s (inputs.headD default)).2, inputs.drop 1) := by
  rw [List.drop_one]
  rfl

theorem decides_execute {f : ConsoleState → Nat → Except DbError (ConsoleState × Unit)}
    (hok : P → ∀ elapsed, ∃ s', after s' ∧ f s elapsed = .ok (s', ()))
    (herror : ¬ P → ∀ elapsed, ∃ e, f s elapsed = .error e) :
    Decides (execute f) s after P () 1 where
  returns := by
    intro inputs hclean hP
    obtain ⟨s', hs', hf⟩ := hok hP (DbInput.first (inputs.headD default)).elapsed
    refine ⟨s', hs', ?_⟩
    rw [exec_execute, executed, clean_one.mp hclean, hf]
  fails := by
    intro inputs hnot
    rw [exec_execute, executed]
    cases hfault : (DbInput.first (inputs.headD default)).fault with
    | some text => exact ⟨_, _, rfl⟩
    | none =>
      have hP : ¬ P := fun hP => hnot ⟨clean_one.mpr hfault, hP⟩
      obtain ⟨e, hf⟩ := herror hP (DbInput.first (inputs.headD default)).elapsed
      rw [hf]
      exact ⟨_, _, rfl⟩

end

/-! ## When the second step succeeds -/

def targetCluster (s : ConsoleState) (tenant : Option Nat) (name : String) : Option ClusterRecord :=
  match tenant with
  | none => s.clusters.getByName name
  | some tenant => s.clusters.rows.find? fun c => c.tenantID = some tenant ∧ c.name = name

/-- The tenant has the cluster, and it is installed. -/
def Available (s : ConsoleState) (tenant : Option Nat) (name : String) : Prop :=
  ∃ c, targetCluster s tenant name = some c ∧ c.phase ≠ .uninstalled

/-- The clusters of a scope, or `none` for all clusters.  A tenant's scope always names its
clusters. -/
def targetNames (s : ConsoleState) (owner : Owner) (all : Bool) (names : List String) :
    Option (List String) :=
  match owner with
  | .system => if all then none else some names
  | .tenant tenant => some
    (if all then
      ((s.clusters.rows.filter fun c => c.tenantID = some tenant).insertionSort
        fun c c' => c.name ≤ c'.name).map fun c => c.name
    else names)

def TargetsReady (s : ConsoleState) (owner : Owner) : Option (List String) → Prop
  | none => True
  | some names => names ≠ [] ∧ ∀ name ∈ names, Available s (Owner.tenantID owner) name

/-- The number of reads for the targets: one for the clusters of a tenant, and one for each
name. -/
def targetReads (owner : Owner) (targets : Option (List String)) : Nat :=
  (Owner.tenantID owner).toList.length + (targets.getD []).length

/-- The group has a scope row. -/
def HasScope (s : ConsoleState) (name : String) (owner : Owner) : Prop :=
  ∃ d ∈ s.distributions.rows, isScopeOf .policyGroup name owner d.row

/-- The two index entries of a new scope row are free. -/
def ScopeRowFree [GoUnicode] (s : ConsoleState) (name : String) (owner : Owner) : Prop :=
  ∀ d ∈ s.distributions.rows,
    ¬ (d.row.owner.key = owner.key ∧ d.row.name = "scope-group-" ++ GoUnicode.toLower name) ∧
    ¬ (d.row.managed ∧ d.row.ownerType = .policyGroup ∧ d.row.ownerName = name)

/-- What `syncScope` needs: its calls do not fail, its targets are available, and the row can
be written. -/
structure SyncReady [GoUnicode] (s : ConsoleState) (name : String) (owner : Owner) (all : Bool)
    (names : List String) (inputs : List DbInput) : Prop where
  calls : Clean (targetReads owner (targetNames s owner all names) + 2) inputs
  targets : TargetsReady s owner (targetNames s owner all names)
  row : HasScope s name owner ∨ ScopeRowFree s name owner

section

variable {s : ConsoleState}

theorem orError_isOk {T : Type} (err : DbError) (o : Option T) :
    (orError err o).isOk = o.isSome := by
  cases o <;> rfl

theorem orError_toOption {T : Type} (err : DbError) (o : Option T) :
    (orError err o).toOption = o := by
  cases o <;> rfl

theorem reads_listDistributions : Reads listDistributions s True s.distributions.rows 1 :=
  (reads_list _).mapError _

variable (name : String) (owner : Owner)

theorem reads_scopeTargets (all : Bool) (names : List String) :
    Reads (scopeTargets owner all names) s True (targetNames s owner all names)
      (Owner.tenantID owner).toList.length := by
  cases owner with
  | system => exact reads_pure _
  | tenant tenant =>
    refine Decides.congr (P := True ∧ True) (n := 1 + 0) ?_ and_self_iff rfl
    exact Decides.seq (((reads_list _).mapError _).mapError _) (reads_pure _)

theorem reads_getTargetCluster [GoUnicode] (tenant : Option Nat) (name : String)
    (c : ClusterRecord) :
    Reads (getTargetCluster tenant name) s ((targetCluster s tenant name).isSome)
      ((targetCluster s tenant name).getD c) 1 := by
  have hquery := reads_query (s := s) (fun s => orNotFound (targetCluster s tenant name)) c
  rw [orError_isOk, orError_toOption] at hquery
  cases tenant with
  | none => exact hquery.mapError _
  | some tenant => exact hquery.mapError _

/-- The check of one target. -/
theorem reads_target [GoUnicode] (tenant : Option Nat) (name : String)
    (f : DbError → ServiceError) (e : ServiceError) :
    Reads (do
      let cluster ← (getTargetCluster tenant name).mapError f
      refuseIf (cluster.phase = .uninstalled) e) s (Available s tenant name) () 1 := by
  have hget := (reads_getTargetCluster (s := s) tenant name { name := name }).mapError f
  refine (hget.seq (reads_refuseIf _ _)).congr ?_ rfl
  unfold Available
  cases targetCluster s tenant name <;> simp

theorem reads_checkScopeTargets [GoUnicode] (targets : Option (List String)) :
    Reads (checkScopeTargets owner targets) s (TargetsReady s owner targets) ()
      (targets.getD []).length := by
  cases targets with
  | none => exact reads_pure ()
  | some names =>
    have hloop := reads_forEach (f := checkScopeTarget owner)
      fun name (_ : name ∈ names) => reads_target (s := s) (Owner.tenantID owner) name _ _
    exact ((reads_refuseIf _ _).seq hloop).congr Iff.rfl (Nat.zero_add _)

/-- A save that keeps the index entries needs only the call to go through. -/
theorem decides_updateDistribution {d : Stored DistributionColumns} {row : DistributionColumns}
    (hd : d ∈ s.distributions.rows) (hkeys : distributionKeys row = distributionKeys d.row) :
    Decides (updateDistribution { d with row := row }) s (fun _ => True) True () 1 := by
  refine decides_execute (fun _ elapsed => ?_) (absurd trivial)
  obtain ⟨t, ht⟩ := Option.isSome_iff_exists.mp (RowStore.isSome_save hd hkeys)
  refine ⟨{ s with distributions := t }, trivial, ?_⟩
  rw [ht]
  rfl

theorem decides_createDistribution (row : DistributionColumns) :
    Decides (createDistribution row) s (fun _ => True) ((distributionKeys row).Nodup ∧
      ∀ d ∈ s.distributions.rows, ∀ key ∈ distributionKeys row, key ∉ distributionKeys d.row)
      () 1 := by
  refine decides_execute (fun hfree elapsed => ?_) fun htaken elapsed => ?_
  · obtain ⟨t, ht⟩ := Option.isSome_iff_exists.mp (RowStore.isSome_insert_iff.mpr hfree)
    refine ⟨{ s with distributions := t }, trivial, ?_⟩
    rw [ht]
    rfl
  · have hnone : s.distributions.insert elapsed row = none :=
      Option.not_isSome_iff_eq_none.mp fun h => htaken (RowStore.isSome_insert_iff.mp h)
    rw [hnone]
    exact ⟨_, rfl⟩

/-- The index entries of a new scope row are free. -/
theorem scopeKeys_free_iff [GoUnicode] {row : DistributionColumns} {name : String} {owner : Owner}
    (hkeys : distributionKeys row =
      [.named owner.key ("scope-group-" ++ GoUnicode.toLower name), .scope .policyGroup name]) :
    ((distributionKeys row).Nodup ∧
      ∀ d ∈ s.distributions.rows, ∀ key ∈ distributionKeys row, key ∉ distributionKeys d.row) ↔
      ScopeRowFree s name owner := by
  have hnodup : (distributionKeys row).Nodup := by
    rw [hkeys]
    simp
  rw [and_iff_right hnodup, hkeys]
  refine forall_congr' fun d => imp_congr_right fun _ => ?_
  rw [List.forall_mem_cons, List.forall_mem_singleton, named_mem_distributionKeys,
    scope_mem_distributionKeys]

theorem decides_saveScope [GoUnicode] (spec : Gateway.PolicyDistributionSpec) :
    Decides (saveScope .policyGroup ("scope-group-" ++ GoUnicode.toLower name) name owner spec) s
      (fun _ => True) (HasScope s name owner ∨ ScopeRowFree s name owner) () 2 := by
  refine (reads_listDistributions.seq (Q := HasScope s name owner ∨ ScopeRowFree s name owner)
    (m := 1) ?_).congr (iff_of_eq (true_and _)) rfl
  cases hfind : s.distributions.rows.find? fun d => isScopeOf .policyGroup name owner d.row with
  | some d =>
    have hscope : isScopeOf .policyGroup name owner d.row := by simpa using List.find?_some hfind
    have hd := List.mem_of_find?_eq_some hfind
    have hhas : HasScope s name owner := ⟨d, hd, hscope⟩
    have hkeys : distributionKeys { d.row with spec := spec } = distributionKeys d.row := rfl
    exact (decides_updateDistribution hd hkeys).congr (iff_of_true trivial (.inl hhas)) rfl
  | none =>
    have hnone : ¬ HasScope s name owner := by
      intro ⟨d, hd, hscope⟩
      exact List.find?_eq_none.mp hfind d hd hscope
    exact (decides_createDistribution _).congr
      ((scopeKeys_free_iff rfl).trans (or_iff_right hnone).symm) rfl

/-- `syncScope` succeeds exactly if it finds what it needs. -/
theorem syncScope_ok_iff [GoUnicode] (all : Bool) (names : List String) (inputs : List DbInput) :
    ((syncScope name owner all names).exec s inputs).2.1 = .ok () ↔
      SyncReady s name owner all names inputs := by
  have hsync : Decides (syncScope name owner all names) s (fun _ => True) _ () _ :=
    (reads_scopeTargets owner all names).seq ((reads_checkScopeTargets owner _).seq
      ((decides_saveScope name owner _).mapError _))
  rw [hsync.ok_iff, true_and, ← Nat.add_assoc]
  exact ⟨fun h => ⟨h.1, h.2.1, h.2.2⟩, fun h => ⟨h.calls, h.targets, h.row⟩⟩

/-- `deleteScope` succeeds exactly if its calls do not fail. -/
theorem deleteScope_ok_iff (inputs : List DbInput) :
    ((deleteScope name owner).exec s inputs).2.1 = .ok () ↔
      Clean 1 inputs ∧ (HasScope s name owner → Clean 2 inputs) := by
  cases hfind : s.distributions.rows.find? fun d => isScopeOf .policyGroup name owner d.row with
  | some d =>
    have hhas : HasScope s name owner :=
      ⟨d, List.mem_of_find?_eq_some hfind, by simpa using List.find?_some hfind⟩
    have hdelete : Decides (deleteScopeRow .policyGroup name owner) s (fun _ => True)
        (True ∧ True) () 2 := by
      refine reads_listDistributions.seq (Q := True) (m := 1) ?_
      rw [hfind]
      exact decides_execute (fun _ _ => ⟨_, trivial, rfl⟩) (absurd trivial)
    rw [deleteScope, (hdelete.mapError _).ok_iff, forall_prop_of_true hhas, and_true, and_true,
      show (2 : Nat) = 1 + 1 from rfl, clean_add, and_self_left]
  | none =>
    have hnone : ¬ HasScope s name owner := fun ⟨d, hd, hscope⟩ =>
      List.find?_eq_none.mp hfind d hd hscope
    have hdelete : Decides (deleteScopeRow .policyGroup name owner) s (fun _ => True)
        (True ∧ True) () 1 := by
      refine reads_listDistributions.seq (Q := True) (m := 0) ?_
      rw [hfind]
      exact ⟨fun _ _ _ => ⟨s, trivial, rfl⟩, (reads_pure ()).fails⟩
    rw [deleteScope, (hdelete.mapError _).ok_iff, and_true, iff_true_intro (absurd · hnone)]

end

/-- What the second step of a call needs. -/
def GroupCall.Ready [GoUnicode] (call : GroupCall) (s : ConsoleState) (owner : Owner)
    (inputs : List DbInput) : Prop :=
  match call with
  | .create req =>
    SyncReady s (req.name.getD "") owner (req.allClusters.getD false) req.clusterNames inputs
  | .update name req =>
    SyncReady s name owner (name = defaultGroupName || req.allClusters.getD false)
      req.clusterNames inputs
  | .delete name => Clean 1 inputs ∧ (HasScope s name owner → Clean 2 inputs)

theorem scopePart_ok_iff [GoUnicode] (call : GroupCall) (s : ConsoleState) (owner : Owner)
    (inputs : List DbInput) :
    ((call.scopePart owner).exec s inputs).2.1 = .ok () ↔ call.Ready s owner inputs := by
  cases call with
  | create req => exact syncScope_ok_iff _ _ _ _ _
  | update name req => exact syncScope_ok_iff _ _ _ _ _
  | delete name => exact deleteScope_ok_iff _ _ _

/-- The second step leaves the groups alone. -/
theorem scopePart_groups [GoUnicode] (call : GroupCall) (s : ConsoleState) (owner : Owner)
    (inputs : List DbInput) : ((call.scopePart owner).exec s inputs).1.groups = s.groups := by
  have hensures : Alone (fun s' _ => s'.groups = s.groups) (fun s' _ => s'.groups = s.groups) s
      (call.scopePart owner) := by
    have hsync : ∀ name all names, Alone (fun s' _ => s'.groups = s.groups)
        (fun s' _ => s'.groups = s.groups) s (syncScope name owner all names) :=
      fun name all names => ensures_syncScope (P := fun s' => s'.groups = s.groups)
        (fun _ => trivial) (fun _ _ => trivial) stable_alone (fun _ _ h => h) rfl
    cases call with
    | create req => exact hsync _ _ _
    | update name req => exact hsync _ _ _
    | delete name =>
      exact ensures_mapError
        (ensures_deleteScopeRow (P := fun s' => s'.groups = s.groups) (fun _ => trivial)
          (fun _ _ => trivial) stable_alone (fun _ _ h => h) rfl)
  have hpost := hensures.exec inputs
  revert hpost
  cases ((call.scopePart owner).exec s inputs).2.1 with
  | ok a => exact id
  | error e => exact id

/-! ## When the first part succeeds -/

/-- `policy_groups` has changed, and nothing else. -/
def GroupsChanged (s s' : ConsoleState) : Prop :=
  ∃ groups, groups ≠ s.groups ∧ s' = { s with groups := groups }

/-- The group that the actor sees under a name. -/
def storedGroup (actor : Principal) (s : ConsoleState) (name : String) : Option (Stored GroupRow) :=
  actor.visibleRow (fun g : GroupRow => g.owner) (fun g => g.name) name none s.groups.rows

/-- The actor may write rows of the owner. -/
def MayEdit (actor : Principal) (owner : Owner) : Prop :=
  actor = .systemAdmin ∨ ∃ tenant, actor = .tenantAdmin tenant ∧ owner = .tenant tenant

/-- All clusters, or some by name. -/
def ScopeNamed (req : PolicyGroupInput) : Prop :=
  req.allClusters.getD false = true ↔ req.clusterNames = []

/-- No excluded name is blank. -/
def ExcludeNamed [GoUnicode] (req : PolicyGroupInput) : Prop :=
  ∀ name ∈ req.policies.exclude, trimSpace name ≠ ""

/-- The policies of the request exist, and its selector is well formed. -/
def MembersKnown [Apimachinery] (s : ConsoleState) (req : PolicyGroupInput) : Prop :=
  (GroupResolve.resolve (groupSpec req) (policyList s.policies.rows)).2 = []

/-- The actor may name these clusters. -/
def TargetsNamed (actor : Principal) (s : ConsoleState) (req : PolicyGroupInput) : Prop :=
  ∀ name ∈ req.clusterNames, Available s actor.adminTenant name

namespace GroupCall

/-- What the checks before the write of the group ask of the request and the stored rows. -/
def Accepted [GoUnicode] [Apimachinery] [NameValidation] (actor : Principal) (s : ConsoleState) :
    GroupCall → Prop
  | .create req =>
    (∀ tenant, actor ≠ .viewer tenant) ∧
      NameValidation.isDNS1123Subdomain (req.name.getD "") = [] ∧
      req.name.getD "" ≠ defaultGroupName ∧ ExcludeNamed req ∧ MembersKnown s req ∧
      ScopeNamed req ∧ TargetsNamed actor s req ∧
      ∀ g ∈ s.groups.rows, ¬ (g.row.owner.key = actor.owner.key ∧ g.row.name = req.name.getD "")
  | .update name req =>
    ExcludeNamed req ∧
      (if name = defaultGroupName then req.allClusters ≠ some false ∧ req.clusterNames = []
        else ScopeNamed req) ∧
      TargetsNamed actor s req ∧ ∃ g, storedGroup actor s name = some g ∧
        MayEdit actor g.row.owner ∧ ¬ outdated req.resourceVersion g ∧ MembersKnown s req
  | .delete name =>
    name ≠ defaultGroupName ∧ ∃ g, storedGroup actor s name = some g ∧ MayEdit actor g.row.owner

/-- The owner of the group. -/
def owner (actor : Principal) (s : ConsoleState) : GroupCall → Owner
  | .create _ => actor.owner
  | .update name _ => ((storedGroup actor s name).map fun g => g.row.owner).getD .system
  | .delete name => ((storedGroup actor s name).map fun g => g.row.owner).getD .system

/-- The number of calls up to the write of the group. -/
def rowCalls : GroupCall → Nat
  | .create req => req.clusterNames.length + 3
  | .update _ req => req.clusterNames.length + 4
  | .delete _ => 2

end GroupCall

section

variable {s : ConsoleState} {actor : Principal} {req : PolicyGroupInput}

theorem requireEditor_isOk :
    actor.requireEditor.isOk = true ↔ ∀ tenant, actor ≠ .viewer tenant := by
  cases actor <;> simp [Principal.requireEditor, Except.isOk, Except.toBool]

theorem authorizeOwner_isOk {owner : Owner} :
    (actor.authorizeOwner owner).isOk = true ↔ MayEdit actor owner := by
  cases actor with
  | tenantAdmin tenant =>
    by_cases h : owner = .tenant tenant <;>
      simp [Principal.authorizeOwner, MayEdit, h, Except.isOk, Except.toBool]
  | _ => simp [Principal.authorizeOwner, MayEdit, Except.isOk, Except.toBool]

theorem validateExclude_isOk [GoUnicode] :
    (validateExclude req.policies.exclude).isOk = true ↔ ExcludeNamed req := by
  unfold validateExclude ExcludeNamed
  split <;> simp_all [Except.isOk, Except.toBool]

theorem validatePolicyGroupScope_isOk :
    (validatePolicyGroupScope (req.allClusters.getD false) req.clusterNames).isOk = true ↔
      ScopeNamed req := by
  unfold validatePolicyGroupScope ScopeNamed
  cases req.allClusters.getD false <;> by_cases h : req.clusterNames = [] <;>
    simp [h, Except.isOk, Except.toBool]

theorem requestedScope_isOk {name : String} : (requestedScope name req).isOk = true ↔
    if name = defaultGroupName then req.allClusters ≠ some false ∧ req.clusterNames = []
    else ScopeNamed req := by
  unfold requestedScope
  split
  · split
    · rename_i hrefused
      exact iff_of_false nofun fun h => hrefused.elim h.1 (absurd h.2)
    · rename_i hgranted
      exact iff_of_true rfl (by tauto)
  · rw [← validatePolicyGroupScope_isOk]
    cases validatePolicyGroupScope (req.allClusters.getD false) req.clusterNames <;> rfl

theorem reads_validateMembers [GoUnicode] [Apimachinery] (req : PolicyGroupInput)
    {spec : PolicyGroupSpec}
    (hspec : GroupResolve.resolve spec = GroupResolve.resolve (groupSpec req)) :
    Reads (validateMembers spec) s (MembersKnown s req) () 1 := by
  have hlist : Reads (listPolicies.mapError ServiceError.database) s True s.policies.rows 1 :=
    ((reads_list _).mapError _).mapError _
  refine (hlist.seq (reads_ofExcept _ ())).congr ?_ rfl
  rw [true_and, validatePolicyGroupMembers, hspec, MembersKnown]
  cases (GroupResolve.resolve (groupSpec req) (policyList s.policies.rows)).2 <;>
    simp [policyGroupIssues, Except.isOk, Except.toBool]

theorem reads_validateGroupClusterTargets [GoUnicode] :
    Reads (validateGroupClusterTargets actor req.clusterNames) s (TargetsNamed actor s req) ()
      req.clusterNames.length :=
  reads_forEach fun name _ => reads_target actor.adminTenant name _ _

theorem reads_visibleGroup {name : String} (g : Stored GroupRow) :
    Reads (visibleGroup actor name) s ((storedGroup actor s name).isSome = true)
      ((storedGroup actor s name).getD g) 1 := by
  have hfound := reads_ofExcept (s := s) (orNotFound (storedGroup actor s name)) g
  rw [orError_isOk, orError_toOption] at hfound
  exact Decides.congr (Decides.seq ((reads_list _).mapError _) hfound) (iff_of_eq (true_and _)) rfl

/-- What follows the read of the group. -/
theorem decides_visibleGroup {name : String} {f : Stored GroupRow → ServiceProg Owner}
    {after : ConsoleState → Prop} {Q : Stored GroupRow → Prop} {n : Nat}
    (hf : ∀ g ∈ s.groups.rows, Decides (f g) s after (Q g) g.row.owner n) :
    Decides ((visibleGroup actor name).mapError (notFoundOr "") >>= f) s after
      (∃ g, storedGroup actor s name = some g ∧ Q g)
      (((storedGroup actor s name).map fun g => g.row.owner).getD .system) (1 + n) := by
  have hvisible : Reads (visibleGroup actor name) s _ _ 1 :=
    reads_visibleGroup ⟨0, 0, { owner := .system, name := name, spec := {} }⟩
  have hread := hvisible.mapError (notFoundOr "")
  cases hfound : storedGroup actor s name with
  | none =>
    refine ⟨fun _ _ h => by simp at h, fun inputs _ => ?_⟩
    obtain ⟨e, rest, herror⟩ := hread.fails inputs (by simp [hfound])
    exact ⟨e, rest, exec_try_error herror⟩
  | some g =>
    have hg : g ∈ s.groups.rows :=
      ((Principal.mem_of_visibleRow hfound).resolve_left nofun).1
    rw [hfound] at hread
    exact (hread.seq (hf g hg)).congr (by simp) rfl

theorem decides_createGroup (row : GroupRow) (f : DbError → ServiceError) (owner : Owner) :
    Decides (do
      (createGroup row).mapError f
      return owner) s (GroupsChanged s)
      (∀ g ∈ s.groups.rows, ¬ (g.row.owner.key = row.owner.key ∧ g.row.name = row.name))
      owner 1 := by
  have hinsert : ∀ elapsed, (s.groups.insert elapsed row).isSome ↔
      ∀ g ∈ s.groups.rows, ¬ (g.row.owner.key = row.owner.key ∧ g.row.name = row.name) := by
    intro elapsed
    rw [RowStore.isSome_insert_iff]
    simp [groupKeys, eq_comm]
  refine ((decides_execute (fun hfree elapsed => ?_) fun htaken elapsed =>
    ?_).mapError f).thenReturn owner
  · obtain ⟨groups, hgroups⟩ := Option.isSome_iff_exists.mp ((hinsert elapsed).mpr hfree)
    refine ⟨_, ⟨groups, RowStore.ne_of_insert hgroups, rfl⟩, ?_⟩
    rw [hgroups]
    rfl
  · rw [← hinsert elapsed, Option.not_isSome_iff_eq_none] at htaken
    rw [htaken]
    exact ⟨_, rfl⟩

/-- Alone, a group that was just read has its stamp. -/
theorem decides_updateGroupCAS {g : Stored GroupRow} (hg : g ∈ s.groups.rows)
    (spec : PolicyGroupSpec) (f : DbError → ServiceError) (owner : Owner) :
    Decides (do
      (updateGroupCAS g.id g.updatedAt spec).mapError f
      return owner) s (GroupsChanged s) True owner 1 := by
  refine ((decides_execute (fun _ elapsed => ?_) (absurd trivial)).mapError f).thenReturn owner
  have hcas : s.groups.cas g.id g.updatedAt elapsed (fun g => { g with spec := spec })
      (fun _ => rfl) = some _ := if_pos ⟨g, hg, rfl, rfl⟩
  refine ⟨_, ⟨_, RowStore.ne_of_cas hcas, rfl⟩, ?_⟩
  rw [hcas]
  rfl

theorem decides_deleteRow (name : String) :
    Decides (deleteRow actor name) s (GroupsChanged s)
      (name ≠ defaultGroupName ∧ ∃ g, storedGroup actor s name = some g ∧ MayEdit actor g.row.owner)
      (GroupCall.owner actor s (.delete name)) 2 := by
  refine Decides.congr ((reads_refuseIf _ _).seq (decides_visibleGroup fun g hg =>
    (reads_ofExcept (actor.authorizeOwner g.row.owner) ()).seq
      (((decides_execute (P := True) (fun _ elapsed => ?_) (absurd trivial)).mapError _).thenReturn
        _))) ?_ rfl
  · exact ⟨_, ⟨_, RowStore.delete_ne hg, rfl⟩, rfl⟩
  · simp only [and_true, authorizeOwner_isOk, ne_eq]

variable [GoUnicode] [Apimachinery]

theorem decides_createRow [NameValidation] (req : PolicyGroupInput) :
    Decides (withPolicyReferenceLock (createRow actor req)) s (GroupsChanged s)
      (GroupCall.Accepted actor s (.create req)) actor.owner
      (GroupCall.rowCalls (.create req)) := by
  refine Decides.congr (((reads_list _).mapError _).seq
    ((reads_ofExcept actor.requireEditor ()).seq ((reads_refuseIf _ _).seq
    ((reads_refuseIf _ _).seq ((reads_ofExcept (validateExclude _) ()).seq
    ((reads_validateMembers req rfl).seq ((reads_ofExcept (validatePolicyGroupScope _ _) ()).seq
    (reads_validateGroupClusterTargets.seq (decides_createGroup _ _ _))))))))) ?_ ?_
  · simp only [true_and, requireEditor_isOk, validateExclude_isOk, ne_eq, not_not,
      validatePolicyGroupScope_isOk, GroupCall.Accepted]
  · simp only [GroupCall.rowCalls]
    omega

theorem decides_updateRow [NameValidation] (name : String) (req : PolicyGroupInput) :
    Decides (withPolicyReferenceLock (updateRow actor name req)) s (GroupsChanged s)
      (GroupCall.Accepted actor s (.update name req)) (GroupCall.owner actor s (.update name req))
      (GroupCall.rowCalls (.update name req)) := by
  refine Decides.congr (((reads_list _).mapError _).seq
    ((reads_ofExcept (validateExclude _) ()).seq
    ((reads_ofExcept (requestedScope name req) true).seq
    (reads_validateGroupClusterTargets.seq (decides_visibleGroup fun g hg =>
    (reads_ofExcept (actor.authorizeOwner g.row.owner) ()).seq ((reads_refuseIf _ _).seq
    ((reads_validateMembers req (by split <;> rfl)).seq
    (decides_updateGroupCAS hg _ _ _)))))))) ?_ ?_
  · simp only [true_and, and_true, validateExclude_isOk, requestedScope_isOk, authorizeOwner_isOk,
      GroupCall.Accepted]
  · simp only [GroupCall.rowCalls]
    omega

theorem decides_rowPart [NameValidation] (call : GroupCall) :
    Decides (call.rowPart actor) s (GroupsChanged s) (call.Accepted actor s) (call.owner actor s)
      call.rowCalls := by
  cases call with
  | create req => exact decides_createRow req
  | update name req => exact decides_updateRow name req
  | delete name => exact decides_deleteRow name

end

/-! ## All or nothing -/

section

variable [GoUnicode] [Apimachinery] [NameValidation]

/-- If the call returns an error, both tables are as before. -/
def AllOrNothing (actor : Principal) (call : GroupCall) (s : ConsoleState)
    (inputs : List DbInput) : Prop :=
  ∀ err, ((call.code actor).exec s inputs).2.1 = .error err →
    ((call.code actor).exec s inputs).1.groups = s.groups ∧
      ((call.code actor).exec s inputs).1.distributions = s.distributions

omit [Apimachinery] [NameValidation] in
/-- The second step does not read the groups. -/
theorem GroupCall.ready_groups (call : GroupCall) (s : ConsoleState) (groups : RowStore groupKeys)
    (owner : Owner) (inputs : List DbInput) :
    call.Ready { s with groups := groups } owner inputs ↔ call.Ready s owner inputs := by
  have hsync : ∀ name all names, SyncReady { s with groups := groups } name owner all names inputs ↔
      SyncReady s name owner all names inputs :=
    fun name all names => ⟨fun h => ⟨h.calls, h.targets, h.row⟩,
      fun h => ⟨h.calls, h.targets, h.row⟩⟩
  cases call with
  | create req => exact hsync _ _ _
  | update name req => exact hsync _ _ _
  | delete name => exact Iff.rfl

/-- A call is all or nothing exactly if its checks refuse it, or one of the calls up to the
write of the group fails, or its second step has all that it needs. -/
theorem allOrNothing_iff (actor : Principal) (call : GroupCall) (s : ConsoleState)
    (inputs : List DbInput) :
    AllOrNothing actor call s inputs ↔
      (call.Accepted actor s → Clean call.rowCalls inputs →
        call.Ready s (call.owner actor s) (inputs.drop call.rowCalls)) := by
  have hrow : Decides (call.rowPart actor) s _ _ _ _ := decides_rowPart call
  unfold AllOrNothing
  rw [call.code_eq actor]
  by_cases hready : Clean call.rowCalls inputs ∧ call.Accepted actor s
  · obtain ⟨_, ⟨groups, hchanged, rfl⟩, hexec⟩ := hrow.returns inputs hready.1 hready.2
    have hgroups := scopePart_groups call { s with groups := groups } (call.owner actor s)
      (inputs.drop call.rowCalls)
    rw [exec_try_ok hexec, forall_prop_of_true hready.2, forall_prop_of_true hready.1,
      ← call.ready_groups s groups, ← scopePart_ok_iff]
    cases ((call.scopePart _).exec _ (inputs.drop call.rowCalls)).2.1 with
    | ok u => exact iff_of_true (fun _ h => by cases h) rfl
    | error e =>
      refine iff_of_false (fun h => ?_) (by simp)
      exact hchanged (hgroups.symm.trans (h e rfl).1)
  · obtain ⟨e, rest, hexec⟩ := hrow.fails inputs hready
    rw [exec_try_error hexec]
    exact iff_of_true (fun _ _ => ⟨rfl, rfl⟩) fun haccepted hclean =>
      absurd ⟨hclean, haccepted⟩ hready

end

attribute [local instance] GoUnicode.ascii Apimachinery.basic NameValidation.lenient

/-- Two tenants with one cluster each, and nothing else. -/
def twoTenants : ConsoleState :=
  { ConsoleState.empty with clusters :=
      { rows := [{ id := 1, tenantID := some 1, name := "one" },
          { id := 2, tenantID := some 2, name := "two" }]
        ids_nodup := by decide
        names_nodup := by decide } }

/-- The request for a group `web` on one cluster. -/
def webGroup (cluster : String) : PolicyGroupInput :=
  { name := some "web", clusterNames := [cluster] }

/-- The first tenant has created its group `web`. -/
def afterFirstTenant : ConsoleState :=
  ((lockedCreate (.tenantAdmin 1) (webGroup "one")).exec twoTenants []).1

/-- The second tenant may have a group `web` too, but not a scope for it: the index of managed
rows has no tenant.  Its call returns an error and leaves the group without a scope. -/
theorem second_tenant_group_without_scope :
    ¬ AllOrNothing (.tenantAdmin 2) (.create (webGroup "two")) afterFirstTenant [] := by
  intro h
  have hgroups := (h (.database errUniqueViolation) (by decide +kernel)).1
  have hcount := congrArg (fun groups : RowStore groupKeys => groups.rows.length) hgroups
  revert hcount
  decide +kernel

end KubeSentry.Console.PolicyGroupService
