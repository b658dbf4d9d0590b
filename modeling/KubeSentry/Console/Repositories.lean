import KubeSentry.Console.Store

/-!
# The repository calls of the console

`PolicyRepo`, `GroupRepo`, `ExceptionRepo`, `DistributionRepo` and `ClusterRepo`,
as far as the four services of policy configuration call them.

A `map[string]any` of columns is the type of the columns that its callers name.
-/

namespace KubeSentry.Console

open GoLib Fallible Database

/-! ## Statements -/

/-- The result of a statement that can miss. -/
def orError {T : Type} (err : DbError) : Option T → Except DbError T
  | some t => .ok t
  | none => .error err

/-- A write that may break a unique index. -/
abbrev orUnique {T : Type} : Option T → Except DbError T :=
  orError errUniqueViolation

/-- `if result.RowsAffected == 0 { return ErrConflict }`. -/
abbrev orConflict {T : Type} : Option T → Except DbError T :=
  orError errConflict

abbrev orNotFound {T : Type} : Option T → Except DbError T :=
  orError errRecordNotFound

variable {A T : Type}

theorem orError_ok {err : DbError} {o : Option T} {t : T} (h : orError err o = .ok t) :
    o = some t := by
  cases o with
  | none => cases h
  | some t' =>
    cases h
    rfl

/-- `First`: the row with the smallest id. -/
def first {A : Type} (keep : A → Bool) (rows : List (Stored A)) : Except DbError (Stored A) :=
  match (orderBy (fun r => r.id) (rows.filter fun r => keep r.row)).head? with
  | some r => .ok r
  | none => .error errRecordNotFound

theorem first_ok {keep : A → Bool} {rows : List (Stored A)} {r : Stored A}
    (h : first keep rows = .ok r) : r ∈ rows ∧ keep r.row = true := by
  unfold first at h
  split at h
  · rename_i r' hhead
    cases h
    have hmem := List.mem_of_mem_head? hhead
    unfold orderBy at hmem
    rw [List.mem_insertionSort, List.mem_filter] at hmem
    exact hmem
  · cases h

/-- The context of a repository's own error text. -/
def within {A : Type} (context : String) (p : RepoProg A) : RepoProg A :=
  p.mapError (DbError.wrap context)

/-- `WithPolicyReferenceLock`: a connection that takes the advisory lock, and then the
body.  That the bodies exclude each other is up to the runs that are considered. -/
def withPolicyReferenceLock {A : Type} (body : ServiceProg A) : ServiceProg A := do
  (query fun _ => .ok ()).mapError .database
  body

/-! ## Policies -/

theorem readOnly_within_query {context : String} {f : ConsoleState → Except DbError A} :
    (within context (query f)).ReadOnly :=
  readOnly_mapError (readOnly_query f)

section

variable [GoUnicode]

def getPolicyByName (name : String) : RepoProg (Stored PolicyColumns) :=
  within ("get policy " ++ quote name ++ ": ")
    (query fun s => first (fun p : PolicyColumns => p.name = name) s.policies.rows)

def getGroupByName (name : String) : RepoProg (Stored GroupRow) :=
  within ("get policy group " ++ quote name ++ ": ")
    (query fun s => first (fun g : GroupRow => g.name = name) s.groups.rows)

def getExceptionByName (name : String) : RepoProg (Stored ExceptionColumns) :=
  within ("get policy exception " ++ quote name ++ ": ")
    (query fun s => first (fun e : ExceptionColumns => e.name = name) s.exceptions.rows)

end

def listPolicies : RepoProg (List (Stored PolicyColumns)) :=
  within "list policies: " (query fun s => .ok s.policies.rows)

def insertPolicy (p : PolicyColumns) : RepoProg Int :=
  execute fun s elapsed => do
    let policies ← orUnique (s.policies.insert elapsed p)
    return ({ s with policies := policies }, s.policies.nextID)

/-- The columns that the policy service updates. -/
structure PolicyFields where
  matching : PolicyMatch
  enforcementMode : EnforcementMode
  rego : String
  description : String
  compileOK : Bool
  compileError : String
  labels : Option Labels := none
  annotations : Option Labels := none

def PolicyFields.apply (fields : PolicyFields) (p : PolicyColumns) : PolicyColumns :=
  { p with
    matching := fields.matching
    enforcementMode := fields.enforcementMode
    rego := fields.rego
    description := fields.description
    compileOK := fields.compileOK
    compileError := fields.compileError
    labels := fields.labels.getD p.labels
    annotations := fields.annotations.getD p.annotations }

theorem PolicyFields.keys_apply (fields : PolicyFields) (p : PolicyColumns) :
    policyKeys (fields.apply p) = policyKeys p :=
  rfl

def updatePolicyCAS (id expectedUpdatedAt : Int) (fields : PolicyFields) : RepoProg Unit :=
  execute fun s elapsed => do
    let policies ← orConflict
      (s.policies.cas id expectedUpdatedAt elapsed fields.apply fields.keys_apply)
    return ({ s with policies := policies }, ())

def deletePolicy (id : Int) : RepoProg Unit :=
  execute fun s _ => .ok ({ s with policies := s.policies.delete id }, ())

/-- `CreateVersion`. -/
def createVersion (v : VersionColumns) : RepoProg Unit :=
  execute fun s elapsed => do
    let versions ← orUnique (s.versions.insert elapsed v)
    return ({ s with versions := versions }, ())

/-- `ListVersions`: the newest first. -/
def listVersions (policyID : Int) : RepoProg (List (Stored VersionColumns)) :=
  query fun s => .ok (orderBy (fun v => -(v.row.version : Int))
    (s.versions.rows.filter fun v => v.row.policyID = policyID))

/-- `CreateWithVersion`: the version gets the id of the new row. -/
def createWithVersion (p : PolicyColumns) (v : VersionColumns) : RepoProg Unit :=
  transaction id do
    let policyID ← insertPolicy p
    createVersion { v with policyID := policyID }

def updateWithVersion (policyID expectedUpdatedAt : Int) (fields : PolicyFields)
    (v : VersionColumns) : RepoProg Unit :=
  transaction id do
    updatePolicyCAS policyID expectedUpdatedAt fields
    createVersion { v with policyID := policyID }

/-! ## Groups -/

def listGroups : RepoProg (List (Stored GroupRow)) :=
  within "list policy groups: " (query fun s => .ok s.groups.rows)

def createGroup (g : GroupRow) : RepoProg Unit :=
  execute fun s elapsed => do
    let groups ← orUnique (s.groups.insert elapsed g)
    return ({ s with groups := groups }, ())

def updateGroupCAS (id expectedUpdatedAt : Int) (spec : PolicyGroupSpec) : RepoProg Unit :=
  execute fun s elapsed => do
    let groups ← orConflict (s.groups.cas id expectedUpdatedAt elapsed
      (fun g => { g with spec := spec }) fun _ => rfl)
    return ({ s with groups := groups }, ())

def deleteGroup (id : Int) : RepoProg Unit :=
  execute fun s _ => .ok ({ s with groups := s.groups.delete id }, ())

/-! ## Exceptions -/

def listExceptions : RepoProg (List (Stored ExceptionColumns)) :=
  within "list policy exceptions: " (query fun s => .ok s.exceptions.rows)

def createException (e : ExceptionColumns) : RepoProg Unit :=
  execute fun s elapsed => do
    let exceptions ← orUnique (s.exceptions.insert elapsed e)
    return ({ s with exceptions := exceptions }, ())

/-- `expiresAt` is `none` where the caller does not name the column. -/
def updateExceptionCAS (id expectedUpdatedAt : Int) (spec : PolicyExceptionSpec)
    (expiresAt : Option Time) : RepoProg Unit :=
  execute fun s elapsed => do
    let exceptions ← orConflict (s.exceptions.cas id expectedUpdatedAt elapsed
      (fun e => { e with spec := spec, expiresAt := expiresAt.or e.expiresAt }) fun _ => rfl)
    return ({ s with exceptions := exceptions }, ())

def deleteException (id : Int) : RepoProg Unit :=
  execute fun s _ => .ok ({ s with exceptions := s.exceptions.delete id }, ())

/-! ## Distributions -/

def listDistributions : RepoProg (List (Stored DistributionColumns)) :=
  within "list policy distributions: " (query fun s => .ok s.distributions.rows)

def createDistribution (d : DistributionColumns) : RepoProg Unit :=
  execute fun s elapsed => do
    let distributions ← orUnique (s.distributions.insert elapsed d)
    return ({ s with distributions := distributions }, ())

/-- `Update`, which is `Save`. -/
def updateDistribution (d : Stored DistributionColumns) : RepoProg Unit :=
  execute fun s elapsed => do
    let distributions ← orUnique (s.distributions.save elapsed d)
    return ({ s with distributions := distributions }, ())

def updateDistributionCAS (id expectedUpdatedAt : Int) (spec : Gateway.PolicyDistributionSpec) :
    RepoProg Unit :=
  execute fun s elapsed => do
    let distributions ← orConflict (s.distributions.cas id expectedUpdatedAt elapsed
      (fun d => { d with spec := spec }) fun _ => rfl)
    return ({ s with distributions := distributions }, ())

def deleteDistribution (id : Int) : RepoProg Unit :=
  execute fun s _ => .ok ({ s with distributions := s.distributions.delete id }, ())

/-! ## Clusters -/

section

variable [GoUnicode]

def getClusterByName (name : String) : RepoProg ClusterRecord :=
  within ("get cluster " ++ quote name ++ ": ")
    (query fun s => orNotFound (s.clusters.getByName name))

def getClusterByNameForTenant (tenant : Nat) (name : String) : RepoProg ClusterRecord :=
  within ("get tenant cluster " ++ quote name ++ ": ")
    (query fun s => orNotFound
      (s.clusters.rows.find? fun c => c.tenantID = some tenant ∧ c.name = name))

end

/-- `ListForTenant`, ordered by name. -/
def listClustersForTenant (tenant : Nat) : RepoProg (List ClusterRecord) :=
  within "list tenant clusters: " (query fun s => .ok
    ((s.clusters.rows.filter fun c => c.tenantID = some tenant).insertionSort
      fun c c' => c.name ≤ c'.name))

/-! ## Visible rows -/

/-- `visibleGroup`, `visibleException` and `visibleDistribution`: the row of a list that the
principal sees under a name. -/
def visibleIn {A : Type} (actor : Principal) (ownerOf : A → Owner) (nameOf : A → String)
    (list : RepoProg (List (Stored A))) (name : String) : RepoProg (Stored A) := do
  let rows ← list
  ofExcept (orNotFound (actor.visibleRow ownerOf nameOf name none rows))

section

variable {A : Type} {rely : ConsoleState → ConsoleState → Prop} {ok : ConsoleState → DbInput → Prop}
  {does : ConsoleState → ConsoleState → Prop} {s0 : ConsoleState}
  {list : RepoProg (List (Stored A))} {context : String} {rowsOf : ConsoleState → List (Stored A)}
  {bad : ConsoleState → DbError → Prop}

/-- A list is the table at one moment. -/
theorem ensures_list {good : ConsoleState → List (Stored A) → Prop}
    (hlist : list = within context (query fun s => .ok (rowsOf s))) (hrefl : ∀ s, does s s)
    (hgood : ∀ s i, rely s0 s → ok s i → good s (rowsOf s))
    (hbad : ∀ s i e, rely s0 s → ok s i → bad s e := by exact fun _ _ _ _ _ => trivial) :
    Fallible.Ensures rely ok does good bad s0 list := by
  rw [hlist]
  refine ensures_mapError (ensures_query hrefl ?_ fun s i e => hbad s i _)
  intro s i rows hs hok hrows
  cases hrows
  exact hgood s i hs hok

/-- A visible row is one of the table and has the name. -/
theorem ensures_visibleIn {good : ConsoleState → Stored A → Prop} (actor : Principal)
    {ownerOf : A → Owner} {nameOf : A → String} (name : String)
    (hlist : list = within context (query fun s => .ok (rowsOf s))) (hrefl : ∀ s, does s s)
    (hgood : ∀ s i r, rely s0 s → ok s i → r ∈ rowsOf s → nameOf r.row = name → good s r)
    (hbad : ∀ s i e, rely s0 s → ok s i → bad s e) :
    Fallible.Ensures rely ok does good bad s0 (visibleIn actor ownerOf nameOf list name) := by
  have hread : Fallible.Ensures rely ok does
      (fun s rows => rows = rowsOf s ∧ ∃ i, rely s0 s ∧ ok s i) bad s0 list :=
    ensures_list hlist hrefl (fun s i hs hok => ⟨rfl, i, hs, hok⟩) hbad
  refine ensures_try hread ?_
  intro s rows ⟨hrows, i, hs, hok⟩
  refine ensures_ofExcept (fun r hfound => ?_) fun e _ => hbad s i e hs hok
  rcases Principal.mem_of_visibleRow (orError_ok hfound) with hnone | ⟨hr, hname⟩
  · cases hnone
  · rw [hrows] at hr
    exact hgood s i r hs hok hr hname

theorem readOnly_visibleIn (actor : Principal) (ownerOf : A → Owner) (nameOf : A → String)
    (name : String) (hlist : list.ReadOnly) : (visibleIn actor ownerOf nameOf list name).ReadOnly :=
  readOnly_try hlist fun _ => readOnly_ofExcept _

end

/-! ## What the transactions do -/

section

variable {rely : ConsoleState → ConsoleState → Prop} {ok : ConsoleState → DbInput → Prop}
  {does : ConsoleState → ConsoleState → Prop} {good : ConsoleState → Unit → Prop}
  {bad : ConsoleState → DbError → Prop} {s0 : ConsoleState} {v : VersionColumns}

/-- A new row with its first version. -/
theorem ensures_createWithVersion {p : PolicyColumns} (hrefl : ∀ s, does s s)
    (hgood : ∀ s i elapsed elapsed' policies versions, rely s0 s → ok s i →
      s.policies.insert elapsed p = some policies →
      s.versions.insert elapsed' { v with policyID := s.policies.nextID } = some versions →
      does s { s with policies := policies, versions := versions } ∧
        good { s with policies := policies, versions := versions } ())
    (hbad : ∀ s i e, rely s0 s → ok s i → bad s e) :
    Fallible.Ensures rely ok does good bad s0 (createWithVersion p v) := by
  refine ensures_transaction hrefl (fun s i hs hok => ?_) hbad
  have hinsert : Alone (fun s' id => id = s.policies.nextID ∧ ∃ elapsed policies,
        s.policies.insert elapsed p = some policies ∧ s' = { s with policies := policies })
      Any s (insertPolicy p) := by
    refine ensures_execute (fun _ => trivial) (fun s1 i s' id heq _ hwrite => ⟨trivial, ?_⟩)
    rw [heq] at hwrite
    obtain ⟨policies, hpolicies, hreturn⟩ := bind_ok hwrite
    cases hreturn
    exact ⟨rfl, _, policies, orError_ok hpolicies, rfl⟩
  refine ensures_try hinsert ?_
  intro s1 id ⟨hid, elapsed, policies, hpolicies, hs1⟩
  refine ensures_execute (fun _ => trivial) (fun s2 i' s' a heq _ hwrite => ⟨trivial, ?_⟩)
  rw [heq, hs1, hid] at hwrite
  obtain ⟨versions, hversions, hreturn⟩ := bind_ok hwrite
  cases hreturn
  exact hgood s i elapsed _ policies versions hs hok hpolicies (orError_ok hversions)

/-- A row that is still as it was read gets new content and a version. -/
theorem ensures_updateWithVersion {policyID expectedUpdatedAt : Int} {fields : PolicyFields}
    (hrefl : ∀ s, does s s) (hgood : ∀ s i elapsed elapsed' versions, rely s0 s → ok s i →
      (∃ p ∈ s.policies.rows, p.id = policyID ∧ p.updatedAt = expectedUpdatedAt) →
      s.versions.insert elapsed' { v with policyID := policyID } = some versions →
      does s { s with
          policies := s.policies.update policyID elapsed fields.apply fields.keys_apply
          versions := versions } ∧
        good { s with
            policies := s.policies.update policyID elapsed fields.apply fields.keys_apply
            versions := versions } ())
    (hbad : ∀ s i e, rely s0 s → ok s i → bad s e := by exact fun _ _ _ _ _ => trivial) :
    Fallible.Ensures rely ok does good bad s0
      (updateWithVersion policyID expectedUpdatedAt fields v) := by
  refine ensures_transaction hrefl (fun s i hs hok => ?_) hbad
  have hcas : Alone (fun s' _ =>
      (∃ p ∈ s.policies.rows, p.id = policyID ∧ p.updatedAt = expectedUpdatedAt) ∧
        ∃ elapsed, s' = { s with
          policies := s.policies.update policyID elapsed fields.apply fields.keys_apply })
      Any s (updatePolicyCAS policyID expectedUpdatedAt fields) := by
    refine ensures_execute (fun _ => trivial) (fun s1 i s' a heq _ hwrite => ⟨trivial, ?_⟩)
    rw [heq] at hwrite
    obtain ⟨policies, hpolicies, hreturn⟩ := bind_ok hwrite
    cases hreturn
    obtain ⟨hfound, hupdate⟩ := RowStore.cas_some (orError_ok hpolicies)
    exact ⟨hfound, _, by rw [hupdate]⟩
  refine ensures_try hcas ?_
  intro s1 _ ⟨hfound, elapsed, hs1⟩
  refine ensures_execute (fun _ => trivial) (fun s2 i' s' a heq _ hwrite => ⟨trivial, ?_⟩)
  rw [heq, hs1] at hwrite
  obtain ⟨versions, hversions, hreturn⟩ := bind_ok hwrite
  cases hreturn
  exact hgood s i elapsed _ versions hs hok hfound (orError_ok hversions)

end

theorem ensures_getPolicyByName [GoUnicode] {rely : ConsoleState → ConsoleState → Prop}
    {ok : ConsoleState → DbInput → Prop} {does : ConsoleState → ConsoleState → Prop}
    {good : ConsoleState → Stored PolicyColumns → Prop} {bad : ConsoleState → DbError → Prop}
    {s0 : ConsoleState} (name : String) (hrefl : ∀ s, does s s)
    (hgood : ∀ s i p, rely s0 s → ok s i → p ∈ s.policies.rows → p.row.name = name → good s p)
    (hbad : ∀ s i e, rely s0 s → ok s i → bad s e) :
    Fallible.Ensures rely ok does good bad s0 (getPolicyByName name) := by
  refine ensures_mapError (ensures_query hrefl ?_ fun s i e => hbad s i _)
  intro s i p hs hok hfirst
  obtain ⟨hp, hname⟩ := first_ok hfirst
  exact hgood s i p hs hok hp (of_decide_eq_true hname)

end KubeSentry.Console
