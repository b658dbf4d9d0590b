import KubeSentry.Gateway.RenderRows

/-!
# Owners and snapshots

`renderFor` filters the distributions by owner and nothing else.  Groups and
exceptions go into the by-name maps with the rows of every owner, and the
schema makes their names unique per owner only.  A row of a foreign owner can
therefore answer for a name that a visible distribution lists, and the last
row of a name wins.

`NonInterference` is isolation of a cluster against the rows of other tenants.
Its theorem has two halves.  The first gives the exact condition under which
the property holds for every content of the foreign rows: nothing is referenced
by name.  The second is the pairwise form: two databases with the same kept
rows give the same result as long as every listed name is answered by a kept
row, or by no row, in both.
-/

namespace KubeSentry.Gateway

open GoLib Database

section Owners

variable [Apimachinery]

/-! ## Names answered by kept rows -/

/-- Every name that a targeting distribution lists is answered by a row whose
owner is kept, or by no row. -/
def AnswersKept (keep : Owner → Bool) (cl : ClusterRow) (dists : List DistributionRow)
    (groups : List GroupRow) (exceptions : List ExceptionRow) : Prop :=
  ∀ d ∈ dists, targets (toGatewayCluster cl) (toGatewayDist d) = true →
    (∀ n ∈ d.spec.policyGroups, ∀ row ∈ (indexBy (fun g => g.name) groups)[n]?,
      keep row.owner = true) ∧
    ∀ n ∈ d.spec.policyExceptions, ∀ row ∈ (indexBy (fun e => e.name) exceptions)[n]?,
      keep row.owner = true

/-- No targeting distribution lists a group, or an exception that is read. -/
def ReferencesNothing (repos : Repos) (cl : ClusterRow) (dists : List DistributionRow) : Prop :=
  ∀ d ∈ dists, targets (toGatewayCluster cl) (toGatewayDist d) = true →
    d.spec.policyGroups = [] ∧ (repos.exceptions = true → d.spec.policyExceptions = [])

variable {repos : Repos} {cl : ClusterRow} {dists : List DistributionRow}
  {policies : List PolicyRow}

/-- A distribution that references nothing leaves nothing to answer. -/
theorem answersKept_of_referencesNothing (h : ReferencesNothing repos cl dists)
    (keep : Owner → Bool) (groups : List GroupRow) (exceptions : List ExceptionRow) :
    AnswersKept keep cl dists groups (readExceptions repos exceptions) := by
  intro d hd htargets
  constructor
  · intro n hn
    rw [(h d hd htargets).1] at hn
    exact absurd hn List.not_mem_nil
  · intro n hn row hrow
    cases hread : repos.exceptions with
    | false => simp [readExceptions, hread, indexBy] at hrow
    | true =>
      rw [(h d hd htargets).2 hread] at hn
      exact absurd hn List.not_mem_nil

variable [GoUnicode] [Digest]

/-- Two row lists with the same kept rows give the same snapshot when both
answer every listed name with a kept row. -/
theorem renderRows_eq_of_answersKept {keep : Owner → Bool} {groups groups' : List GroupRow}
    {exceptions exceptions' : List ExceptionRow} (hnodup : (policies.map fun p => p.name).Nodup)
    (hgroups : groups'.filter (fun g => keep g.owner) = groups.filter fun g => keep g.owner)
    (hexceptions : exceptions'.filter (fun e => keep e.owner) =
      exceptions.filter fun e => keep e.owner) (h : AnswersKept keep cl dists groups exceptions)
    (h' : AnswersKept keep cl dists groups' exceptions') :
    renderRows cl dists groups' policies exceptions' =
      renderRows cl dists groups policies exceptions := by
  refine renderRows_congr hnodup ?_ ?_
  · intro d hd htargets n hn
    rw [← getElem?_indexBy_filter ((h d hd htargets).1 n hn),
      ← getElem?_indexBy_filter ((h' d hd htargets).1 n hn), hgroups]
  · intro d hd htargets n hn
    rw [← getElem?_indexBy_filter ((h d hd htargets).2 n hn),
      ← getElem?_indexBy_filter ((h' d hd htargets).2 n hn), hexceptions]

/-- Where nothing is referenced, groups and exceptions do not matter. -/
theorem renderRows_eq_of_referencesNothing (h : ReferencesNothing repos cl dists)
    (hnodup : (policies.map fun p => p.name).Nodup) (groups groups' : List GroupRow)
    (exceptions exceptions' : List ExceptionRow) :
    renderRows cl dists groups' policies (readExceptions repos exceptions') =
      renderRows cl dists groups policies (readExceptions repos exceptions) := by
  -- No row is kept, and no name has to be answered.
  have hanswers := fun groups exceptions =>
    answersKept_of_referencesNothing h (fun _ => false) groups exceptions
  exact renderRows_eq_of_answersKept hnodup (by simp) (by simp)
    (hanswers groups exceptions) (hanswers groups' exceptions')

/-! ## Shadowing rows -/

/-- An enabled group with a label that tells it apart. -/
def shadowGroup (owner : Owner) (name mark : String) : GroupRow where
  owner := owner
  name := name
  spec := { enabled := true }
  labels := (∅ : Labels).insert "mark" mark

def shadowException (owner : Owner) (name mark : String) : ExceptionRow where
  owner := owner
  name := name
  labels := (∅ : Labels).insert "mark" mark

/-- If no appended row ever shows in the snapshot, nothing is referenced. -/
theorem referencesNothing_of_shadows (hnodup : (policies.map fun p => p.name).Nodup) (owner : Owner)
    (groups groups' : List GroupRow) (exceptions exceptions' : List ExceptionRow)
    (objects : List ManagedObject)
    (hgroups : ∀ n mark, (renderRows cl dists (groups ++ [shadowGroup owner n mark]) policies
      (readExceptions repos exceptions')).objects = objects)
    (hexceptions : ∀ n mark, (renderRows cl dists groups' policies
      (readExceptions repos (exceptions ++ [shadowException owner n mark]))).objects = objects) :
    ReferencesNothing repos cl dists := by
  have hmarks : withManaged ((∅ : Labels).insert "mark" "a") ≠
      withManaged ((∅ : Labels).insert "mark" "b") := by decide
  intro d hd htargets
  constructor
  · rw [List.eq_nil_iff_forall_not_mem]
    intro n hn
    have hlabels : ∀ mark labels, (∃ o ∈ objects, o.kind = .policyGroup ∧ o.name = n ∧
        o.labels = labels) ↔ labels = withManaged ((∅ : Labels).insert "mark" mark) := by
      intro mark labels
      rw [← hgroups n mark]
      exact renderRows_group_labels hnodup hd htargets hn
        (getElem?_indexBy_append_self _ groups (shadowGroup owner n mark)) rfl labels
    exact hmarks ((hlabels "b" _).mp ((hlabels "a" _).mpr rfl))
  · intro hread
    rw [List.eq_nil_iff_forall_not_mem]
    intro n hn
    have hlabels : ∀ mark labels, (∃ o ∈ objects, o.kind = .policyException ∧ o.name = n ∧
        o.labels = labels) ↔ labels = withManaged ((∅ : Labels).insert "mark" mark) := by
      intro mark labels
      rw [← hexceptions n mark, readExceptions, if_pos hread]
      exact renderRows_exception_labels hnodup hd htargets hn
        (getElem?_indexBy_append_self _ exceptions (shadowException owner n mark)) labels
    exact hmarks ((hlabels "b" _).mp ((hlabels "a" _).mpr rfl))

end Owners

/-- The tables with only the kept groups, and one more row at the end. -/
def shadowGroups (db : Tables) (keep : Owner → Bool) (row : GroupRow) : Tables :=
  { db with groups := db.groups.filter (fun g => keep g.owner) ++ [row] }

/-- The tables with only the kept exceptions, and one more row at the end. -/
def shadowExceptions (db : Tables) (keep : Owner → Bool) (row : ExceptionRow) : Tables :=
  { db with exceptions := db.exceptions.filter (fun e => keep e.owner) ++ [row] }

variable {keep : Owner → Bool} {db : Tables}

/-- A row of an owner that is not kept never collides with the kept rows. -/
theorem keys_nodup_append {R : Type} {owner : R → Owner} {name : R → String} {rows : List R}
    (hnodup : (rows.map fun r => ((owner r).key, name r)).Nodup) (row : R)
    (hkey : ∀ o, keep o = true → o.key ≠ (owner row).key) :
    ((rows.filter (fun r => keep (owner r)) ++ [row]).map
      fun r => ((owner r).key, name r)).Nodup := by
  rw [List.map_append, List.nodup_append]
  refine ⟨hnodup.sublist (List.filter_sublist.map _), List.nodup_singleton _, ?_⟩
  intro a ha b hb heq
  obtain ⟨r, hr, hra⟩ := List.mem_map.mp ha
  have hkeep : keep (owner r) = true := (List.mem_filter.mp hr).2
  have hb' : b = ((owner row).key, name row) := by simpa using hb
  rw [← heq, ← hra] at hb'
  exact hkey _ hkeep (congrArg Prod.fst hb')

theorem shadowGroups_valid (hvalid : db.Valid) (row : GroupRow)
    (hkey : ∀ o, keep o = true → o.key ≠ row.owner.key) : (shadowGroups db keep row).Valid :=
  { hvalid with groupKeys := keys_nodup_append hvalid.groupKeys row hkey }

theorem shadowExceptions_valid (hvalid : db.Valid) (row : ExceptionRow)
    (hkey : ∀ o, keep o = true → o.key ≠ row.owner.key) : (shadowExceptions db keep row).Valid :=
  { hvalid with exceptionKeys := keys_nodup_append hvalid.exceptionKeys row hkey }

/-- The kept rows of a list with one foreign row at the end. -/
theorem filter_keep_append {R : Type} {keep : R → Bool} (rows : List R) {row : R}
    (hrow : keep row = false) : (rows.filter keep ++ [row]).filter keep = rows.filter keep := by
  simp [hrow]

/-! ## A cluster against other tenants -/

/-- The two databases agree on the cluster row, its uninstall tasks, the
policies and settings, and on every group, exception and distribution of the
system or of the cluster's tenant, in the order the queries return them. -/
structure AgreeFor (cluster : String) (db db' : Tables) : Prop where
  clusterRows : clusterRow db' cluster = clusterRow db cluster
  policies : db'.policies = db.policies
  admissionSettings : db'.admissionSettings = db.admissionSettings
  storagePolicies : db'.storagePolicies = db.storagePolicies
  platformSettings : db'.platformObservationEnabled = db.platformObservationEnabled
  uninstallTasks :
    db'.uninstallTasks.filter (fun t => t.clusterID = (clusterRow db cluster).id) =
      db.uninstallTasks.filter fun t => t.clusterID = (clusterRow db cluster).id
  groups :
    db'.groups.filter (fun g => visibleTo (clusterRow db cluster).tenantID g.owner) =
      db.groups.filter fun g => visibleTo (clusterRow db cluster).tenantID g.owner
  exceptions :
    db'.exceptions.filter (fun e => visibleTo (clusterRow db cluster).tenantID e.owner) =
      db.exceptions.filter fun e => visibleTo (clusterRow db cluster).tenantID e.owner
  distributions :
    db'.distributions.filter (fun d => visibleTo (clusterRow db cluster).tenantID d.owner) =
      db.distributions.filter fun d => visibleTo (clusterRow db cluster).tenantID d.owner

theorem AgreeFor.activeTasks {cluster : String} {db' : Tables} (h : AgreeFor cluster db db') :
    db'.activeTasks (clusterRow db cluster).id = db.activeTasks (clusterRow db cluster).id := by
  have hsplit : ∀ rows : List UninstallTaskRow, rows.filter (fun t =>
      t.clusterID = (clusterRow db cluster).id ∧
        (t.status = .pending ∨ t.status = .received ∨ t.status = .running)) =
      (rows.filter fun t => t.clusterID = (clusterRow db cluster).id).filter fun t =>
        t.status = .pending ∨ t.status = .received ∨ t.status = .running := by
    intro rows
    rw [List.filter_filter]
    apply List.filter_congr
    intro t _
    simp [and_comm]
  rw [Tables.activeTasks, Tables.activeTasks, hsplit, hsplit, h.uninstallTasks]

/-- A tenant that is not the cluster's. -/
def otherTenant (tenantID : Option Nat) : Owner :=
  .tenant (if tenantID = some 1 then 2 else 1)

theorem visibleTo_otherTenant (tenantID : Option Nat) :
    visibleTo tenantID (otherTenant tenantID) = false := by
  rw [otherTenant, visibleTo]
  by_cases h : tenantID = some 1
  · simp [h]
  · simp [h]

theorem key_ne_otherTenant {tenantID : Option Nat} {o : Owner}
    (ho : visibleTo tenantID o = true) : o.key ≠ (otherTenant tenantID).key := by
  cases o with
  | system =>
    show 0 ≠ if tenantID = some 1 then 2 else 1
    split <;> omega
  | tenant id =>
    have hid : tenantID = some id := by simpa [visibleTo] using ho
    show id ≠ if tenantID = some 1 then 2 else 1
    rw [hid]
    split
    · rename_i hone
      have : id = 1 := Option.some.inj hone
      omega
    · rename_i hone
      intro heq
      exact hone (by rw [heq])

theorem AgreeFor.refl (cluster : String) (db : Tables) : AgreeFor cluster db db :=
  ⟨rfl, rfl, rfl, rfl, rfl, rfl, rfl, rfl, rfl⟩

theorem filter_readExceptions {repos : Repos} {keep : ExceptionRow → Bool}
    {exceptions exceptions' : List ExceptionRow}
    (h : exceptions'.filter keep = exceptions.filter keep) :
    (readExceptions repos exceptions').filter keep =
      (readExceptions repos exceptions).filter keep := by
  rw [readExceptions, readExceptions]
  split
  · exact h
  · rfl

section Isolation

variable [Apimachinery] [GoUnicode] [Digest]

/-- The parts of a snapshot that the comparison looks at. -/
def snapshotView (res : RenderResult) : List ManagedObject × String × List String × GoMap String :=
  (res.objects, res.hash, res.matched, res.errors)

/-- No content of the rows of other tenants changes what `renderFor` returns
for the cluster. -/
def NonInterference (repos : Repos) (db : Tables) (cluster : String) : Prop :=
  ∀ db', db'.Valid → AgreeFor cluster db db' → ∀ faults,
    (renderFor repos faults db' cluster).map snapshotView =
      (renderFor repos faults db cluster).map snapshotView

/-- The distributions that `renderFor` renders for the cluster. -/
def visibleDistributions (db : Tables) (cluster : String) : List DistributionRow :=
  distributionsForCluster db.distributions (clusterRow db cluster).tenantID

variable {cluster : String} {db db' : Tables} {repos : Repos}

theorem AgreeFor.baseSnapshot_eq (h : AgreeFor cluster db db') (repos : Repos) :
    baseSnapshot repos db' cluster =
      renderRows (clusterRow db cluster) (visibleDistributions db cluster) db'.groups
        db.policies (readExceptions repos db'.exceptions) := by
  rw [baseSnapshot, h.clusterRows, h.policies, visibleDistributions, distributionsForCluster,
    distributionsForCluster, h.distributions]

theorem AgreeFor.renderFor_eq (h : AgreeFor cluster db db')
    (hbase : baseSnapshot repos db' cluster = baseSnapshot repos db cluster) (faults : Faults) :
    renderFor repos faults db' cluster = renderFor repos faults db cluster :=
  renderFor_congr h.clusterRows h.admissionSettings h.storagePolicies h.platformSettings
    h.activeTasks hbase faults

/-- A database that agrees gives the same objects, under non-interference. -/
theorem NonInterference.objects_eq (h : NonInterference repos db cluster) (hvalid : db'.Valid)
    (hagree : AgreeFor cluster db db') :
    (baseSnapshot repos db' cluster).objects = (baseSnapshot repos db cluster).objects := by
  obtain ⟨res, hres, hobjects⟩ := renderFor_objects repos db cluster
  obtain ⟨res', hres', hobjects'⟩ := renderFor_objects repos db' cluster
  have hview := h db' hvalid hagree fun _ => none
  rw [hres, hres'] at hview
  have hpair : snapshotView res' = snapshotView res := Except.ok.inj hview
  rw [← hobjects, ← hobjects']
  exact congrArg Prod.fst hpair

/-- A row of another tenant can answer for any listed name. -/
theorem NonInterference.referencesNothing (hvalid : db.Valid)
    (h : NonInterference repos db cluster) :
    ReferencesNothing repos (clusterRow db cluster) (visibleDistributions db cluster) := by
  have hforeign := visibleTo_otherTenant (clusterRow db cluster).tenantID
  refine referencesNothing_of_shadows hvalid.policyNames
    (otherTenant (clusterRow db cluster).tenantID)
    (db.groups.filter fun g => visibleTo (clusterRow db cluster).tenantID g.owner) db.groups
    (db.exceptions.filter fun e => visibleTo (clusterRow db cluster).tenantID e.owner)
    db.exceptions (baseSnapshot repos db cluster).objects ?_ ?_
  · intro n mark
    have hagree : AgreeFor cluster db (shadowGroups db _ (shadowGroup _ n mark)) :=
      { AgreeFor.refl cluster db with groups := filter_keep_append db.groups hforeign }
    rw [← h.objects_eq (shadowGroups_valid hvalid _ fun o => key_ne_otherTenant) hagree,
      hagree.baseSnapshot_eq]
    rfl
  · intro n mark
    have hagree : AgreeFor cluster db (shadowExceptions db _ (shadowException _ n mark)) :=
      { AgreeFor.refl cluster db with exceptions := filter_keep_append db.exceptions hforeign }
    rw [← h.objects_eq (shadowExceptions_valid hvalid _ fun o => key_ne_otherTenant) hagree,
      hagree.baseSnapshot_eq]
    rfl

/-- Non-interference holds exactly where the cluster's visible distributions
reference nothing by name.  For two given databases it also holds where every
listed name is answered by a visible row, or by none, in both. -/
theorem renderFor_nonInterference (repos : Repos) {db : Tables} (hvalid : db.Valid)
    (cluster : String) :
    (NonInterference repos db cluster ↔
      ReferencesNothing repos (clusterRow db cluster) (visibleDistributions db cluster)) ∧
    ∀ db', AgreeFor cluster db db' →
      AnswersKept (visibleTo (clusterRow db cluster).tenantID) (clusterRow db cluster)
        (visibleDistributions db cluster) db.groups (readExceptions repos db.exceptions) →
      AnswersKept (visibleTo (clusterRow db cluster).tenantID) (clusterRow db cluster)
        (visibleDistributions db cluster) db'.groups (readExceptions repos db'.exceptions) →
      ∀ faults, (renderFor repos faults db' cluster).map snapshotView =
        (renderFor repos faults db cluster).map snapshotView := by
  have hsame := (AgreeFor.refl cluster db).baseSnapshot_eq repos
  refine ⟨⟨NonInterference.referencesNothing hvalid, ?_⟩, ?_⟩
  · intro hnothing db' _ hagree faults
    have hbase : baseSnapshot repos db' cluster = baseSnapshot repos db cluster := by
      rw [hagree.baseSnapshot_eq, hsame]
      exact renderRows_eq_of_referencesNothing hnothing hvalid.policyNames _ _ _ _
    rw [hagree.renderFor_eq hbase]
  · intro db' hagree hanswers hanswers' faults
    have hbase : baseSnapshot repos db' cluster = baseSnapshot repos db cluster := by
      rw [hagree.baseSnapshot_eq, hsame]
      exact renderRows_eq_of_answersKept hvalid.policyNames hagree.groups
        (filter_readExceptions hagree.exceptions) hanswers hanswers'
    rw [hagree.renderFor_eq hbase]

end Isolation

/-- A tenant's cluster, and a system distribution of a system group to it. -/
def sharedTables : Tables where
  clusters := [{ id := 7, tenantID := some 1, name := "prod" }]
  policies := [{ name := "no-root", enforcementMode := .enforce }]
  groups := [{ owner := .system, name := "baseline"
               spec := { enabled := true, policies := { byName := [⟨"no-root", .unset⟩] } } }]
  distributions := [{ owner := .system, name := "prod-baseline"
                      spec := { clusters := { byName := ["prod"] }
                                policyGroups := ["baseline"] } }]

/-- The same tables after another tenant has created a group. -/
def withTenantGroup (row : GroupRow) : Tables :=
  { sharedTables with groups := sharedTables.groups ++ [row] }

attribute [local instance] Apimachinery.basic GoUnicode.ascii Digest.names

/-- Another tenant's disabled group of the same name empties the snapshot. -/
theorem renderFor_interferes :
    sharedTables.Valid ∧ (withTenantGroup { owner := .tenant 2, name := "baseline" }).Valid ∧
      AgreeFor "prod" sharedTables (withTenantGroup { owner := .tenant 2, name := "baseline" }) ∧
      (renderFor {} (fun _ => none)
          (withTenantGroup { owner := .tenant 2, name := "baseline" }) "prod").map snapshotView ≠
        (renderFor {} (fun _ => none) sharedTables "prod").map snapshotView := by
  refine ⟨⟨by decide, by decide, by decide, by decide, by decide⟩,
    ⟨by decide, by decide, by decide, by decide, by decide⟩,
    ⟨rfl, rfl, rfl, rfl, rfl, rfl, rfl, rfl, rfl⟩, ?_⟩
  decide

/-- A group of another name does not reach the snapshot. -/
theorem renderFor_nonInterference_other_name :
    (renderFor {} (fun _ => none)
        (withTenantGroup { owner := .tenant 2, name := "private" }) "prod").map snapshotView =
      (renderFor {} (fun _ => none) sharedTables "prod").map snapshotView := by
  refine (renderFor_nonInterference {} ⟨by decide, by decide, by decide, by decide, by decide⟩
    "prod").2 _ ⟨rfl, rfl, rfl, rfl, rfl, rfl, rfl, rfl, rfl⟩ ?_ ?_ _
  · rw [AnswersKept]
    decide
  · rw [AnswersKept]
    decide

end KubeSentry.Gateway
