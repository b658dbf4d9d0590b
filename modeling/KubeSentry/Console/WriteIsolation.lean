import KubeSentry.Console.DistributionService

/-!
# Writes stay with the tenant

The four services of policy configuration look rows up by a name that several owners may
use, and they write companion rows that a second search finds.  Still a tenant administrator
changes only rows of the tenant, and a viewer changes none.

`Principal.mayWrite` says which rows a principal may write, and `Untouched` that all the
others are as they were, in every one of the four tables.  Every call of every operation
keeps `Untouched`: what is written was found with an owner that `authorizeOwner` accepted,
or is new and belongs to the principal.

The calls of one principal are made one after the other here, each with any failures.
-/

namespace KubeSentry.Console

open GoLib Fallible Database
open Operator.PolicyReconciler (RegoCompiler)

/-! ## Rows of others -/

/-- `authorizeOwner` accepts the owner. -/
def Principal.mayWrite (actor : Principal) (owner : Owner) : Bool :=
  match actor.authorizeOwner owner with
  | .ok _ => true
  | .error _ => false

variable {actor : Principal} {owner : Owner}

theorem Principal.mayWrite_of_authorized (h : actor.authorizeOwner owner = .ok ()) :
    actor.mayWrite owner = true := by
  unfold mayWrite
  rw [h]

theorem Principal.mayWrite_own (h : actor.requireEditor = .ok ()) :
    actor.mayWrite actor.owner = true := by
  cases actor with
  | systemAdmin => rfl
  | tenantAdmin tenant => simp [mayWrite, authorizeOwner, Principal.owner]
  | viewer tenant => cases h

theorem Principal.mayWrite_tenantAdmin (tenant : Nat) (owner : Owner) :
    (Principal.tenantAdmin tenant).mayWrite owner = decide (owner = .tenant tenant) := by
  unfold mayWrite authorizeOwner
  by_cases h : owner = .tenant tenant
  · simp only [h, if_true, decide_true]
  · simp only [h, if_false, decide_false]

/-- The rows that are not in `mine` are as before, in all four tables. -/
structure Untouched (mine : Owner → Bool) (s s' : ConsoleState) : Prop where
  policies : (s'.policies.rows.filter fun r => !mine r.row.owner) =
    s.policies.rows.filter fun r => !mine r.row.owner
  groups : (s'.groups.rows.filter fun r => !mine r.row.owner) =
    s.groups.rows.filter fun r => !mine r.row.owner
  exceptions : (s'.exceptions.rows.filter fun r => !mine r.row.owner) =
    s.exceptions.rows.filter fun r => !mine r.row.owner
  distributions : (s'.distributions.rows.filter fun r => !mine r.row.owner) =
    s.distributions.rows.filter fun r => !mine r.row.owner

variable {mine : Owner → Bool}

theorem Untouched.refl (s : ConsoleState) : Untouched mine s s :=
  ⟨rfl, rfl, rfl, rfl⟩

theorem Untouched.trans (s s' s'' : ConsoleState) (h : Untouched mine s s')
    (h' : Untouched mine s' s'') : Untouched mine s s'' :=
  ⟨h'.policies.trans h.policies, h'.groups.trans h.groups, h'.exceptions.trans h.exceptions,
    h'.distributions.trans h.distributions⟩

/-- Alone, every call of the program leaves the rows of others as they are, and a result
satisfies `good`. -/
def Isolated {E A : Type} (actor : Principal) (p : Fallible ConsoleState DbInput E A)
    (good : A → Prop := fun _ => True) (P : ConsoleState → Prop := fun _ => True) : Prop :=
  ∀ s, P s → Fallible.Ensures (fun s s' => s' = s) Any (Untouched actor.mayWrite)
    (fun _ a => good a) Any s p

section

variable {E E' A B : Type} {actor : Principal} {P : ConsoleState → Prop} {good : B → Prop}
  {f : A → Fallible ConsoleState DbInput E B} {p : Fallible ConsoleState DbInput E A}
  {g : DbError → ServiceError} {name context : String} {rowsOf : ConsoleState → List (Stored A)}

/-- A part that only reads keeps what is known. -/
theorem Isolated.past (hp : p.ReadOnly) (hf : ∀ a, Isolated actor (f a) good P) :
    Isolated actor (p >>= f) good P := fun _ h =>
  Fallible.ensures_past .refl stable_alone (fun _ _ _ => trivial) hp h fun s a hs => hf a s hs

theorem Isolated.check {r : Except E A} (hf : ∀ a, r = .ok a → Isolated actor (f a) good P) :
    Isolated actor (ofExcept r >>= f) good P := fun s h =>
  ensures_check fun a ha => hf a ha s h

theorem Isolated.refuse {c : Prop} [Decidable c] {e : E}
    {f : Unit → Fallible ConsoleState DbInput E B} (hf : Isolated actor (f ()) good P) :
    Isolated actor (refuseIf c e >>= f) good P :=
  .past (readOnly_refuseIf _ _) fun _ => hf

/-- Only the result of the first part is known to the second. -/
theorem Isolated.seq {mid : A → Prop} (hp : Isolated actor p mid P)
    (hf : ∀ a, mid a → Isolated actor (f a) good) :
    Isolated actor (p >>= f) good P := fun s h =>
  ensures_try (hp s h) fun s' a ha => hf a ha s' trivial

theorem Isolated.mapError {p : Fallible ConsoleState DbInput E B} {g : E → E'}
    (hp : Isolated actor p good P) : Isolated actor (p.mapError g) good P := fun s h =>
  ensures_mapError (hp s h)

theorem isolated_pure {b : B} (h : good b) :
    Isolated actor (pure b : Fallible ConsoleState DbInput E B) good P := fun _ _ =>
  h

/-- No rows belong to others for a principal who may write all. -/
theorem isolated_of_forall (h : ∀ owner, actor.mayWrite owner = true)
    (p : Fallible ConsoleState DbInput E A) : Isolated actor p (P := P) := by
  have hnone {R : Type} (ownerOf : R → Owner) (rows : List R) :
      (rows.filter fun r => !actor.mayWrite (ownerOf r)) = [] := by
    simp only [h, Bool.not_true, List.filter_false]
  intro s _
  refine Prog.ensures_of_forall (fun s s' => ?_) (fun s r => ?_) p s
  · exact ⟨(hnone _ _).trans (hnone _ _).symm, (hnone _ _).trans (hnone _ _).symm,
      (hnone _ _).trans (hnone _ _).symm, (hnone _ _).trans (hnone _ _).symm⟩
  · cases r <;> exact trivial

theorem isolated_execute {f : ConsoleState → Nat → Except DbError (ConsoleState × A)}
    (hf : ∀ s elapsed s' a, P s → f s elapsed = .ok (s', a) → Untouched actor.mayWrite s s') :
    Isolated actor (execute f) (P := P) := by
  intro s h
  refine ensures_execute .refl ?_
  intro s1 i s' a hs1 _ hwrite
  rw [hs1] at hwrite ⊢
  exact ⟨hf s _ s' a h hwrite, trivial⟩

theorem Isolated.transaction {g : DbError → E} {body : Fallible ConsoleState DbInput E B}
    (hbody : Isolated actor body good P) : Isolated actor (transaction g body) good P := by
  intro s h
  refine ensures_transaction .refl (fun s1 _ hs1 _ => ?_) fun _ _ _ _ _ => trivial
  have htotal := Prog.ensures_total Untouched.trans (Untouched.refl s1) (hbody s1 (hs1 ▸ h))
  refine Prog.ensures_mono ?_ htotal
  intro s' r hr
  cases r with
  | ok a => exact hr
  | error e => exact trivial

/-! ## Reads that find a row -/

theorem Isolated.find {Q : ConsoleState → A → Prop}
    (hp : ∀ s, Fallible.Ensures (fun s s' => s' = s) Any (Untouched actor.mayWrite) Q Any s p)
    (hf : ∀ a, Isolated actor (f a) good (fun s => Q s a)) :
    Isolated actor (p >>= f) good P := fun s _ =>
  ensures_try (hp s) fun s' a ha => hf a s' ha

theorem Isolated.getPolicy [GoUnicode] {f : Stored PolicyColumns → ServiceProg B}
    (hf : ∀ p, Isolated actor (f p) good (fun s => p ∈ s.policies.rows)) :
    Isolated actor ((getPolicyByName name).mapError g >>= f) good P := by
  refine .find (fun s => ensures_mapError ?_) hf
  exact ensures_getPolicyByName name .refl (fun _ _ _ _ _ hp _ => hp) fun _ _ _ _ _ => trivial

theorem Isolated.list {list : RepoProg (List (Stored A))} {f : List (Stored A) → RepoProg B}
    (hlist : list = within context (query fun s => .ok (rowsOf s)))
    (hf : ∀ rows, Isolated actor (f rows) good (fun s => rows = rowsOf s)) :
    Isolated actor (list >>= f) good P :=
  .find (Q := fun s rows => rows = rowsOf s) (fun _ => ensures_list hlist .refl
    fun _ _ _ _ => rfl) hf

/-- What follows the look-up and its check may write the row. -/
theorem Isolated.owned {list : RepoProg (List (Stored A))} {ownerOf : A → Owner}
    {nameOf : A → String} {f : Stored A → Unit → ServiceProg B}
    (hlist : list = within context (query fun s => .ok (rowsOf s)))
    (hf : ∀ r, actor.mayWrite (ownerOf r.row) = true →
      Isolated actor (f r ()) good (fun s => r ∈ rowsOf s)) :
    Isolated actor ((visibleIn actor ownerOf nameOf list name).mapError g >>= fun r =>
      ofExcept (actor.authorizeOwner (ownerOf r.row)) >>= f r) good P := by
  refine .find (Q := fun s r => r ∈ rowsOf s) (fun s => ensures_mapError ?_) fun r =>
    .check fun _ hauthorized => hf r (Principal.mayWrite_of_authorized hauthorized)
  exact ensures_visibleIn actor name hlist .refl (fun _ _ _ _ _ hr _ => hr)
    fun _ _ _ _ _ => trivial

end

/-! ## Writes -/

section

variable {actor : Principal} {P : ConsoleState → Prop} {owner : Owner} {kind : ScopeOwnerType}
  {name : String}

/-- A row that the principal may write is not among the rows of others. -/
theorem not_foreign (h : actor.mayWrite owner = true) : (!actor.mayWrite owner) = false := by
  rw [h]
  rfl

/-- One of the four tables: the owner of a row, and a write of the table alone. -/
structure OwnedTable {A K : Type} (keys : A → List K) where
  ownerOf : A → Owner
  get : ConsoleState → RowStore keys
  put : ConsoleState → RowStore keys → ConsoleState
  untouched : ∀ (mine : Owner → Bool) (s : ConsoleState) (t : RowStore keys),
    (t.rows.filter fun r => !mine (ownerOf r.row)) =
      ((get s).rows.filter fun r => !mine (ownerOf r.row)) → Untouched mine s (put s t)

namespace OwnedTable

variable {A K : Type} {keys : A → List K} (T : OwnedTable keys)

theorem isolated_insert [DecidableEq K] {B : Type} {row : A} {result : ConsoleState → B}
    (h : actor.mayWrite (T.ownerOf row) = true) :
    Isolated actor (execute fun s elapsed => do
      let t ← orUnique ((T.get s).insert elapsed row)
      return (T.put s t, result s)) (P := P) := by
  refine isolated_execute fun s elapsed s' a _ hwrite => ?_
  obtain ⟨t, hinsert, hreturn⟩ := bind_ok hwrite
  cases hreturn
  exact T.untouched _ s t (RowStore.filter_insert (fun row => !actor.mayWrite (T.ownerOf row))
    (orError_ok hinsert) (not_foreign h))

theorem isolated_cas {r : Stored A} {expected : Int} {f : A → A} {hf : ∀ a, keys (f a) = keys a}
    (howner : ∀ a, T.ownerOf (f a) = T.ownerOf a) (h : actor.mayWrite (T.ownerOf r.row) = true) :
    Isolated actor (execute fun s elapsed => do
      let t ← orConflict ((T.get s).cas r.id expected elapsed f hf)
      return (T.put s t, ())) (P := fun s => r ∈ (T.get s).rows) := by
  refine isolated_execute fun s elapsed s' a hr hwrite => ?_
  obtain ⟨t, hcas, hreturn⟩ := bind_ok hwrite
  cases hreturn
  have hnew : actor.mayWrite (T.ownerOf (f r.row)) = true := by rw [howner, h]
  exact T.untouched _ s t (RowStore.filter_cas (fun row => !actor.mayWrite (T.ownerOf row)) hr
    (orError_ok hcas) (not_foreign h) (not_foreign hnew))

theorem isolated_delete {r : Stored A} (h : actor.mayWrite (T.ownerOf r.row) = true) :
    Isolated actor (execute fun s _ => .ok (T.put s ((T.get s).delete r.id), ()))
      (P := fun s => r ∈ (T.get s).rows) := by
  refine isolated_execute fun s elapsed s' a hr hwrite => ?_
  cases hwrite
  exact T.untouched _ s _ (RowStore.filter_delete (fun row => !actor.mayWrite (T.ownerOf row)) hr
    (not_foreign h))

end OwnedTable

def policyTable : OwnedTable policyKeys where
  ownerOf p := p.owner
  get s := s.policies
  put s policies := { s with policies := policies }
  untouched _ _ _ h := ⟨h, rfl, rfl, rfl⟩

def groupTable : OwnedTable groupKeys where
  ownerOf g := g.owner
  get s := s.groups
  put s groups := { s with groups := groups }
  untouched _ _ _ h := ⟨rfl, h, rfl, rfl⟩

def exceptionTable : OwnedTable exceptionKeys where
  ownerOf e := e.owner
  get s := s.exceptions
  put s exceptions := { s with exceptions := exceptions }
  untouched _ _ _ h := ⟨rfl, rfl, h, rfl⟩

def distributionTable : OwnedTable distributionKeys where
  ownerOf d := d.owner
  get s := s.distributions
  put s distributions := { s with distributions := distributions }
  untouched _ _ _ h := ⟨rfl, rfl, rfl, h⟩

theorem isolated_createVersion (v : VersionColumns) :
    Isolated actor (createVersion v) (P := P) := by
  refine isolated_execute fun s elapsed s' a _ hwrite => ?_
  obtain ⟨versions, _, hreturn⟩ := bind_ok hwrite
  cases hreturn
  exact ⟨rfl, rfl, rfl, rfl⟩

/-- A scope row is found with the owner that it is looked for. -/
theorem scope_found {rows : List (Stored DistributionColumns)} {d : Stored DistributionColumns}
    (h : (rows.find? fun d => isScopeOf kind name owner d.row) = some d) :
    d ∈ rows ∧ d.row.owner = owner := by
  have hscope := List.find?_some h
  simp only [isScopeOf, Bool.and_eq_true, decide_eq_true_eq] at hscope
  exact ⟨List.mem_of_find?_eq_some h, hscope.2⟩

theorem isolated_saveScope {rowName : String} {spec : Gateway.PolicyDistributionSpec}
    (h : actor.mayWrite owner = true) :
    Isolated actor (saveScope kind rowName name owner spec) (P := P) := by
  refine Isolated.list rfl fun rows => ?_
  split
  · rename_i d hfind
    obtain ⟨hd, howner⟩ := scope_found hfind
    refine isolated_execute fun s elapsed s' a hrows hwrite => ?_
    obtain ⟨distributions, hsave, hreturn⟩ := bind_ok hwrite
    cases hreturn
    rw [hrows] at hd
    have hforeign : (!actor.mayWrite d.row.owner) = false := by
      rw [howner]
      exact not_foreign h
    have hkept := RowStore.filter_save (fun row => !actor.mayWrite row.owner) hd hforeign
      hforeign (orError_ok hsave)
    exact ⟨rfl, rfl, rfl, hkept⟩
  · exact distributionTable.isolated_insert h

theorem isolated_deleteScopeRow (h : actor.mayWrite owner = true) :
    Isolated actor (deleteScopeRow kind name owner) (P := P) := by
  refine Isolated.list rfl fun rows => ?_
  split
  · rename_i d hfind
    obtain ⟨hd, howner⟩ := scope_found hfind
    rw [← howner] at h
    intro s hrows
    rw [hrows] at hd
    exact distributionTable.isolated_delete h s hd
  · exact isolated_pure trivial

end

/-! ## The operations -/

section

variable (actor : Principal)

theorem isolated_withPolicyReferenceLock {A : Type} {body : ServiceProg A}
    (h : Isolated actor body) : Isolated actor (withPolicyReferenceLock body) :=
  .past (readOnly_mapError (readOnly_query _)) fun _ => h

namespace PolicyService

theorem isolated_create [NameValidation] [RegoCompiler] (req : PolicyInput) :
    Isolated actor (create actor req) := by
  refine .check fun _ heditor => ?_
  refine .check fun _ _ => ?_
  refine .mapError (.transaction ?_)
  exact .seq (policyTable.isolated_insert (Principal.mayWrite_own heditor)) fun _ _ =>
    isolated_createVersion _

theorem isolated_updateWithVersion {actor : Principal} {p : Stored PolicyColumns}
    (h : actor.mayWrite p.row.owner = true) (expected : Int) (fields : PolicyFields)
    (v : VersionColumns) :
    Isolated actor (updateWithVersion p.id expected fields v) (P := fun s => p ∈ s.policies.rows) :=
  .transaction (.seq (policyTable.isolated_cas (fun _ => rfl) h) fun _ _ =>
    isolated_createVersion _)

variable [GoUnicode] [Apimachinery]

/-- What follows `editablePolicy` may write the row it returns. -/
theorem isolated_editablePolicy {B : Type} {name : String}
    {f : Stored PolicyColumns → ServiceProg B}
    (hf : ∀ p : Stored PolicyColumns, actor.mayWrite p.row.owner = true →
      Isolated actor (f p) (P := fun s => p ∈ s.policies.rows)) :
    Isolated actor (editablePolicy actor name >>= f) := by
  intro s _
  refine ensures_try (ensures_editablePolicy actor name .refl
    (fun _ _ _ hp hs => hs ▸ hp) fun _ _ _ _ _ hp _ => hp) ?_
  intro s' p hp
  exact hf p (Principal.mayWrite_of_authorized hp.2) s' hp.1

theorem isolated_update [NameValidation] [RegoCompiler] (name : String) (req : PolicyInput) :
    Isolated actor (update actor name req) := by
  refine .check fun _ _ => ?_
  refine isolated_editablePolicy actor fun p hmay => ?_
  refine .refuse ?_
  refine .past (readOnly_mapError (readOnly_query _)) fun versions => ?_
  exact .mapError (isolated_updateWithVersion hmay _ _ _)

theorem isolated_delete (name : String) : Isolated actor (delete actor name) := by
  refine Isolated.getPolicy fun p => ?_
  refine .check fun _ hauthorized => ?_
  refine .past (readOnly_mapError (readOnly_referencingGroups _)) fun refs => ?_
  refine .refuse ?_
  exact .mapError (policyTable.isolated_delete (Principal.mayWrite_of_authorized hauthorized))

theorem isolated_rollback (name : String) (direction : Direction) :
    Isolated actor (rollback actor name direction) := by
  refine .refuse ?_
  refine isolated_editablePolicy actor fun p hmay => ?_
  refine .refuse ?_
  refine .past (readOnly_mapError (readOnly_query _)) fun versions => ?_
  refine .refuse ?_
  split
  · exact fun _ _ => trivial
  · exact .seq (.mapError (isolated_updateWithVersion hmay _ _ _)) fun _ _ =>
      isolated_pure trivial

end PolicyService

namespace PolicyGroupService

theorem isolated_syncScope [GoUnicode] {actor : Principal} {name : String}
    (h : actor.mayWrite owner = true) (all : Bool) (names : List String) :
    Isolated actor (syncScope name owner all names) := by
  refine .past (readOnly_scopeTargets _ _ _) fun targets => ?_
  refine .past (readOnly_checkScopeTargets _ _) fun _ => ?_
  exact .mapError (isolated_saveScope h)

variable (name : String) (req : PolicyGroupInput)

theorem isolated_createRow [GoUnicode] [Apimachinery] [NameValidation] :
    Isolated actor (createRow actor req) (fun owner => actor.mayWrite owner = true) := by
  refine .check fun _ heditor => ?_
  have hmay := Principal.mayWrite_own heditor
  refine .refuse (.refuse ?_)
  refine .check fun _ _ => ?_
  refine .past (readOnly_validateMembers _) fun _ => ?_
  refine .check fun _ _ => ?_
  refine .past (readOnly_validateGroupClusterTargets _ _) fun _ => ?_
  exact .seq (.mapError (groupTable.isolated_insert hmay)) fun _ _ => isolated_pure hmay

theorem isolated_create [GoUnicode] [Apimachinery] [NameValidation] :
    Isolated actor (create actor req) :=
  .seq (isolated_createRow actor req) fun _ hmay => isolated_syncScope hmay _ _

theorem isolated_updateRow [GoUnicode] [Apimachinery] :
    Isolated actor (updateRow actor name req) (fun owner => actor.mayWrite owner = true) := by
  refine .check fun _ _ => ?_
  refine .check fun _ _ => ?_
  refine .past (readOnly_validateGroupClusterTargets _ _) fun _ => ?_
  refine Isolated.owned rfl fun g hmay => ?_
  refine .refuse ?_
  refine .past (readOnly_validateMembers _) fun _ => ?_
  exact .seq (.mapError (groupTable.isolated_cas (fun _ => rfl) hmay)) fun _ _ => isolated_pure hmay

theorem isolated_update [GoUnicode] [Apimachinery] : Isolated actor (update actor name req) :=
  .seq (isolated_updateRow actor name req) fun _ hmay => isolated_syncScope hmay _ _

theorem isolated_setEnabled (enabled : Bool) : Isolated actor (setEnabled actor name enabled) := by
  refine Isolated.owned rfl fun g hmay => ?_
  by_cases h : g.row.spec.enabled = enabled
  · rw [if_pos h]
    exact isolated_pure trivial
  · rw [if_neg h]
    exact .mapError (groupTable.isolated_cas (fun _ => rfl) hmay)

theorem isolated_deleteRow :
    Isolated actor (deleteRow actor name) (fun owner => actor.mayWrite owner = true) := by
  refine .refuse ?_
  refine Isolated.owned rfl fun g hmay => ?_
  exact .seq (.mapError (groupTable.isolated_delete hmay)) fun _ _ => isolated_pure hmay

theorem isolated_delete : Isolated actor (delete actor name) :=
  .seq (isolated_deleteRow actor name) fun _ hmay => .mapError (isolated_deleteScopeRow hmay)

end PolicyGroupService

namespace ExceptionService

variable (name : String) (r : ExceptionInput)

theorem isolated_create [GoUnicode] [NameValidation] : Isolated actor (create actor r) := by
  refine .check fun _ heditor => ?_
  have hmay := Principal.mayWrite_own heditor
  refine .check fun _ _ => ?_
  refine .past (readOnly_checkedScope actor r) fun scope => ?_
  refine .past readOnly_timeNow fun now => ?_
  refine .transaction ?_
  exact .seq (.mapError (exceptionTable.isolated_insert hmay)) fun _ _ =>
    .mapError (isolated_saveScope hmay)

theorem isolated_updateDefault [GoUnicode] : Isolated actor (updateDefault actor r) := by
  refine .check fun _ hadmin => ?_
  cases actor with
  | systemAdmin => exact isolated_of_forall (fun _ => rfl) _
  | tenantAdmin tenant => cases hadmin
  | viewer tenant => cases hadmin

theorem isolated_writeUpdate [GoUnicode] (scope : Bool × List String) (expiresAt : Time) :
    Isolated actor (writeUpdate actor name r scope expiresAt) := by
  refine Isolated.owned rfl fun e hmay => ?_
  refine .refuse ?_
  exact .seq (.mapError (exceptionTable.isolated_cas (fun _ => rfl) hmay)) fun _ _ =>
    .mapError (isolated_saveScope hmay)

theorem isolated_update [GoUnicode] [NameValidation] : Isolated actor (update actor name r) := by
  unfold update
  split
  · exact isolated_updateDefault actor r
  · refine .check fun _ _ => ?_
    refine .past (readOnly_checkedScope actor r) fun scope => ?_
    refine .past readOnly_timeNow fun now => ?_
    exact .transaction (isolated_writeUpdate actor name r scope _)

theorem isolated_delete : Isolated actor (delete actor name) := by
  refine .refuse (.transaction ?_)
  refine Isolated.owned rfl fun e hmay => ?_
  exact .seq (.mapError (exceptionTable.isolated_delete hmay)) fun _ _ =>
    .mapError (isolated_deleteScopeRow hmay)

end ExceptionService

namespace DistributionService

theorem isolated_create [GoUnicode] [NameValidation] (req : DistributionInput) :
    Isolated actor (create actor req) := by
  refine .check fun _ heditor => ?_
  refine .check fun _ _ => ?_
  refine .past (readOnly_validateTenantTargets actor req.spec) fun _ => ?_
  exact .mapError (distributionTable.isolated_insert (Principal.mayWrite_own heditor))

theorem isolated_update [GoUnicode] [NameValidation] (name : String) (req : DistributionInput) :
    Isolated actor (update actor name req) := by
  refine .check fun _ _ => ?_
  refine Isolated.owned rfl fun d hmay => ?_
  refine .past (readOnly_validateTenantTargets actor req.spec) fun _ => ?_
  refine .refuse ?_
  exact .mapError (distributionTable.isolated_cas (fun _ => rfl) hmay)

theorem isolated_delete (name : String) : Isolated actor (delete actor name) := by
  refine Isolated.owned rfl fun d hmay => ?_
  refine .refuse ?_
  exact .mapError (distributionTable.isolated_delete hmay)

end DistributionService

end

/-! ## Sequences of calls -/

/-- The mutating calls of the four services. -/
inductive Mutation where
  | createPolicy (req : PolicyService.PolicyInput)
  | updatePolicy (name : String) (req : PolicyService.PolicyInput)
  | deletePolicy (name : String)
  | rollbackPolicy (name : String) (direction : PolicyService.Direction)
  | createGroup (req : PolicyGroupService.PolicyGroupInput)
  | updateGroup (name : String) (req : PolicyGroupService.PolicyGroupInput)
  | setGroupEnabled (name : String) (enabled : Bool)
  | deleteGroup (name : String)
  | createException (req : ExceptionService.ExceptionInput)
  | updateException (name : String) (req : ExceptionService.ExceptionInput)
  | deleteException (name : String)
  | createDistribution (req : DistributionService.DistributionInput)
  | updateDistribution (name : String) (req : DistributionService.DistributionInput)
  | deleteDistribution (name : String)

variable [GoUnicode] [Apimachinery] [NameValidation] [RegoCompiler]

def Mutation.code (actor : Principal) : Mutation → ServiceProg Unit
  | .createPolicy req => PolicyService.create actor req
  | .updatePolicy name req => PolicyService.lockedUpdate actor name req
  | .deletePolicy name => PolicyService.lockedDelete actor name
  | .rollbackPolicy name direction => do
    let _ ← PolicyService.lockedRollback actor name direction
    return ()
  | .createGroup req => PolicyGroupService.lockedCreate actor req
  | .updateGroup name req => PolicyGroupService.lockedUpdate actor name req
  | .setGroupEnabled name enabled => PolicyGroupService.setEnabled actor name enabled
  | .deleteGroup name => PolicyGroupService.delete actor name
  | .createException req => ExceptionService.create actor req
  | .updateException name req => ExceptionService.update actor name req
  | .deleteException name => ExceptionService.delete actor name
  | .createDistribution req => DistributionService.create actor req
  | .updateDistribution name req => DistributionService.update actor name req
  | .deleteDistribution name => DistributionService.delete actor name

theorem Mutation.isolated (actor : Principal) (m : Mutation) : Isolated actor (m.code actor) := by
  cases m with
  | createPolicy req => exact PolicyService.isolated_create actor req
  | updatePolicy name req =>
    exact isolated_withPolicyReferenceLock actor (PolicyService.isolated_update actor name req)
  | deletePolicy name =>
    exact isolated_withPolicyReferenceLock actor (PolicyService.isolated_delete actor name)
  | rollbackPolicy name direction =>
    exact .seq (isolated_withPolicyReferenceLock actor
      (PolicyService.isolated_rollback actor name direction)) fun _ _ => isolated_pure trivial
  | createGroup req =>
    exact isolated_withPolicyReferenceLock actor (PolicyGroupService.isolated_create actor req)
  | updateGroup name req =>
    exact isolated_withPolicyReferenceLock actor (PolicyGroupService.isolated_update actor name req)
  | setGroupEnabled name enabled => exact PolicyGroupService.isolated_setEnabled actor name enabled
  | deleteGroup name => exact PolicyGroupService.isolated_delete actor name
  | createException req => exact ExceptionService.isolated_create actor req
  | updateException name req => exact ExceptionService.isolated_update actor name req
  | deleteException name => exact ExceptionService.isolated_delete actor name
  | createDistribution req => exact DistributionService.isolated_create actor req
  | updateDistribution name req => exact DistributionService.isolated_update actor name req
  | deleteDistribution name => exact DistributionService.isolated_delete actor name

/-- The state after a call, with the inputs that the database gives to its statements. -/
def Mutation.step (actor : Principal) (s : ConsoleState) (call : Mutation × List DbInput) :
    ConsoleState :=
  ((call.1.code actor).exec s call.2).1

theorem Mutation.untouched_step (actor : Principal) (s : ConsoleState)
    (call : Mutation × List DbInput) : Untouched actor.mayWrite s (step actor s call) :=
  Prog.Ensures.runs_rel .refl .trans (Prog.runs_exec _ s call.2) (call.1.isolated actor s trivial)

theorem Mutation.untouched_run (actor : Principal) (calls : List (Mutation × List DbInput))
    (s : ConsoleState) : Untouched actor.mayWrite s (run (step actor) s calls) := by
  induction calls generalizing s with
  | nil => exact .refl s
  | cons call rest ih => exact .trans _ _ _ (untouched_step actor s call) (ih _)

/-- The calls of a tenant administrator leave every row of the system and of other tenants as
it is, and the calls of a viewer leave every row. -/
theorem tenant_write_isolation (tenant : Nat) (s : ConsoleState)
    (calls : List (Mutation × List DbInput)) :
    Untouched (fun owner => owner = .tenant tenant) s
        (run (Mutation.step (.tenantAdmin tenant)) s calls) ∧
      Untouched (fun _ => false) s (run (Mutation.step (.viewer tenant)) s calls) := by
  have hadmin : (Principal.tenantAdmin tenant).mayWrite =
      fun owner => decide (owner = .tenant tenant) := by
    funext owner
    exact Principal.mayWrite_tenantAdmin tenant owner
  have hviewer : (Principal.viewer tenant).mayWrite = fun _ => false := rfl
  exact ⟨hadmin ▸ Mutation.untouched_run _ calls s, hviewer ▸ Mutation.untouched_run _ calls s⟩

end KubeSentry.Console
