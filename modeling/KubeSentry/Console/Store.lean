import KubeSentry.Database.Clusters
import KubeSentry.GoLib.Fallible
import KubeSentry.GoLib.RowStore

/-!
# The console's database

The tables that the services of `internal/console/service` write, with the calls
of `internal/database/repository` that they make, and the principals that call them.

A call is one database statement, except that a transaction is one call with
several statements.  A statement may fail with any text, and then it has done
nothing.  Ids are never used again, and two writes of one table have different
times, since `updated_at` is the wall clock at the write.

`owner_type` and `tenant_id` are one field, as in the other tables.  A principal's
role and tenant are one type: the schema gives a tenant to tenant administrators
and viewers and to nobody else.

Left out are `created_at`, and `deleted_at`, because every query skips deleted rows.
`NotifyChange` sends a hint to the gateway and touches no table.
-/

namespace KubeSentry.Console

open GoLib Fallible Database

/-! ## Rows -/

/-- A row of `policies`. -/
structure PolicyColumns extends PolicyRow where
  owner : Owner
  compileOK : Bool := false
  compileError : String := ""
  deriving DecidableEq

/-- A row of `policy_versions`. -/
structure VersionColumns where
  policyID : Int
  version : Nat
  rego : String
  specSnapshot : PolicySpec
  deriving DecidableEq

/-- A row of `policy_exceptions`. -/
structure ExceptionColumns extends ExceptionRow where
  expiresAt : Option Time := none
  deriving DecidableEq

/-- The column `owner_type` of a distribution; `unset` is the empty string. -/
inductive ScopeOwnerType where
  | unset
  | policyGroup
  | policyException
  deriving DecidableEq, Repr

/-- A row of `policy_distributions`.  The scope of a group or an exception is a managed
row, and `ownerType` and `ownerName` name what it belongs to. -/
structure DistributionColumns extends DistributionRow where
  managed : Bool := false
  ownerType : ScopeOwnerType := .unset
  ownerName : String := ""
  deriving DecidableEq

/-! ## Unique indexes -/

def policyKeys (p : PolicyColumns) : List String :=
  [p.name]

def versionKeys (v : VersionColumns) : List (Int × Nat) :=
  [(v.policyID, v.version)]

def groupKeys (g : GroupRow) : List (Nat × String) :=
  [(g.owner.key, g.name)]

def exceptionKeys (e : ExceptionColumns) : List (Nat × String) :=
  [(e.owner.key, e.name)]

/-- The entries of the two indexes of `policy_distributions`. -/
inductive DistributionKey where
  /-- `policy_distributions_owner_name_scope_key`. -/
  | named (owner : Nat) (name : String)
  /-- `policy_distributions_managed_owner_key`, which has no tenant. -/
  | scope (ownerType : ScopeOwnerType) (ownerName : String)
  deriving DecidableEq, Repr

def distributionKeys (d : DistributionColumns) : List DistributionKey :=
  .named d.owner.key d.name :: if d.managed then [.scope d.ownerType d.ownerName] else []

variable {d : DistributionColumns} {name : String}

theorem named_mem_distributionKeys {owner : Nat} :
    .named owner name ∈ distributionKeys d ↔ d.owner.key = owner ∧ d.name = name := by
  unfold distributionKeys
  cases d.managed <;> simp [eq_comm]

theorem scope_mem_distributionKeys {kind : ScopeOwnerType} :
    .scope kind name ∈ distributionKeys d ↔
      d.managed = true ∧ d.ownerType = kind ∧ d.ownerName = name := by
  unfold distributionKeys
  cases d.managed <;> simp [eq_comm]

structure ConsoleState where
  policies : RowStore policyKeys
  versions : RowStore versionKeys
  groups : RowStore groupKeys
  exceptions : RowStore exceptionKeys
  distributions : RowStore distributionKeys
  clusters : ClusterTable

/-- A database without rows. -/
def ConsoleState.empty : ConsoleState where
  policies := .empty
  versions := .empty
  groups := .empty
  exceptions := .empty
  distributions := .empty
  clusters := { rows := [], ids_nodup := List.nodup_nil, names_nodup := List.nodup_nil }

/-! ## Errors -/

/-- What the services tell apart about a database error. -/
inductive DbReason where
  | recordNotFound
  | uniqueViolation
  | conflict
  | other
  deriving DecidableEq, Repr

structure DbError where
  reason : DbReason
  text : String
  deriving DecidableEq, Repr

/-- `fmt.Errorf(context + "%w", err)`. -/
def DbError.wrap (context : String) (err : DbError) : DbError :=
  { err with text := context ++ err.text }

/-- `gorm.ErrRecordNotFound`. -/
def errRecordNotFound : DbError :=
  { reason := .recordNotFound, text := "record not found" }

/-- SQLSTATE 23505. -/
def errUniqueViolation : DbError :=
  { reason := .uniqueViolation
    text := "ERROR: duplicate key value violates unique constraint (SQLSTATE 23505)" }

/-- `dbrepo.ErrConflict`. -/
def errConflict : DbError :=
  { reason := .conflict, text := "dbrepo: row was modified since it was read" }

/-- The errors of the services, with the texts that users read. -/
inductive ServiceError where
  | notFound
  | forbidden
  | gone (msg : String)
  | conflict (msg : String)
  | validation (msg : String)
  | referencedBy (groups : List String)
  | defaultPolicyGroupScope
  | defaultExceptionDelete
  | database (err : DbError)
  | other (msg : String)
  deriving DecidableEq, Repr

/-! ## Calls -/

/-- How one statement goes: the error of the driver, the time since the last write of
the table, and the wall clock. -/
structure Statement where
  fault : Option String := none
  elapsed : Nat := 0
  now : Time := 0

/-- The statements of one call. -/
abbrev DbInput := List Statement

def DbInput.first (i : DbInput) : Statement :=
  i.headD {}

/-- The code of a repository. -/
abbrev RepoProg := Fallible ConsoleState DbInput DbError

/-- The code of a service. -/
abbrev ServiceProg := Fallible ConsoleState DbInput ServiceError

/-- A query. -/
def query {A : Type} (f : ConsoleState → Except DbError A) : RepoProg A :=
  Prog.read fun s i =>
    match i.first.fault with
    | some text => .error { reason := .other, text := text }
    | none => f s

/-- What a statement that writes leaves and returns. -/
def executed {A : Type} (f : ConsoleState → Nat → Except DbError (ConsoleState × A))
    (s : ConsoleState) (i : DbInput) : ConsoleState × Except DbError A :=
  match i.first.fault with
  | some text => (s, .error { reason := .other, text := text })
  | none =>
    match f s i.first.elapsed with
    | .error err => (s, .error err)
    | .ok (s', a) => (s', .ok a)

/-- A statement that writes. -/
def execute {A : Type} (f : ConsoleState → Nat → Except DbError (ConsoleState × A)) : RepoProg A :=
  Prog.atomic (executed f)

/-- What a transaction leaves and returns.  It has no effect unless its body returns
and its commit does not fail. -/
def committed {E A : Type} (commitError : DbError → E)
    (body : Fallible ConsoleState DbInput E A) (s : ConsoleState) (i : DbInput) :
    ConsoleState × Except E A :=
  match Prog.exec body s (i.map fun statement => [statement]) with
  | (_, .error err, _) => (s, .error err)
  | (s', .ok a, rest) =>
    match (DbInput.first (rest.headD [])).fault with
    | some text => (s, .error (commitError { reason := .other, text := text }))
    | none => (s', .ok a)

def transaction {E A : Type} (commitError : DbError → E)
    (body : Fallible ConsoleState DbInput E A) : Fallible ConsoleState DbInput E A :=
  Prog.atomic (committed commitError body)

/-- `time.Now()`. -/
def timeNow {E : Type} : Fallible ConsoleState DbInput E Time :=
  Prog.read fun _ i => .ok i.first.now

/-! ### Rules for calls -/

section

variable {rely : ConsoleState → ConsoleState → Prop} {ok : ConsoleState → DbInput → Prop}
  {does : ConsoleState → ConsoleState → Prop} {A E : Type} {s0 : ConsoleState}

theorem readOnly_query (f : ConsoleState → Except DbError A) : (query f).ReadOnly :=
  Prog.readOnly_read _

theorem readOnly_timeNow : (timeNow : Fallible ConsoleState DbInput E Time).ReadOnly :=
  Prog.readOnly_read _

variable {good : ConsoleState → A → Prop} {bad : ConsoleState → DbError → Prop} {V : Type}
  {view : ConsoleState → V}

theorem ensures_query {f : ConsoleState → Except DbError A} (hrefl : ∀ s, does s s)
    (hgood : ∀ s i a, rely s0 s → ok s i → f s = .ok a → good s a)
    (hbad : ∀ s i e, rely s0 s → ok s i → bad s e) :
    Fallible.Ensures rely ok does good bad s0 (query f) := by
  refine Prog.ensures_read fun s i hrely hok => ⟨hrefl s, ?_⟩
  split
  · exact hbad s i _ hrely hok
  · cases h : f s with
    | ok a => exact hgood s i a hrely hok h
    | error e => exact hbad s i e hrely hok

theorem ensures_execute {f : ConsoleState → Nat → Except DbError (ConsoleState × A)}
    (hrefl : ∀ s, does s s)
    (hgood : ∀ s i s' a, rely s0 s → ok s i → f s i.first.elapsed = .ok (s', a) →
      does s s' ∧ good s' a)
    (hbad : ∀ s i e, rely s0 s → ok s i → bad s e := by exact fun _ _ _ _ _ => trivial) :
    Fallible.Ensures rely ok does good bad s0 (execute f) := by
  refine Prog.ensures_atomic fun s i hrely hok => ?_
  unfold executed
  split
  · exact ⟨hrefl s, hbad s i _ hrely hok⟩
  · split
    · exact ⟨hrefl s, hbad s i _ hrely hok⟩
    · rename_i s' a hwrite
      exact hgood s i s' a hrely hok hwrite

/-- A transaction takes one step, and its body runs alone. -/
theorem ensures_transaction {commitError : DbError → E} {body : Fallible ConsoleState DbInput E A}
    {bad : ConsoleState → E → Prop} (hrefl : ∀ s, does s s) (hgood : ∀ s i, rely s0 s → ok s i →
      Alone (fun s' a => does s s' ∧ good s' a) Any s body)
    (hbad : ∀ s i e, rely s0 s → ok s i → bad s e) :
    Fallible.Ensures rely ok does good bad s0 (transaction commitError body) := by
  refine Prog.ensures_atomic fun s i hrely hok => ?_
  have hpost := Prog.Ensures.runs (Prog.runs_exec body s (i.map fun st => [st]))
    (hgood s i hrely hok)
  unfold committed
  split
  · exact ⟨hrefl s, hbad s i _ hrely hok⟩
  · rename_i s' a rest hexec
    rw [hexec] at hpost
    split
    · exact ⟨hrefl s, hbad s i _ hrely hok⟩
    · exact hpost

/-- A statement that fails has done nothing. -/
theorem keepsOnError_execute (f : ConsoleState → Nat → Except DbError (ConsoleState × A)) :
    KeepsOnError view (execute f) := by
  refine keepsOnError_atomic fun s i e => ?_
  unfold executed
  split
  · exact fun _ => rfl
  · split
    · exact fun _ => rfl
    · intro h
      cases h

/-- A transaction that fails has done nothing. -/
theorem keepsOnError_transaction (commitError : DbError → E)
    (body : Fallible ConsoleState DbInput E A) :
    KeepsOnError view (transaction commitError body) := by
  refine keepsOnError_atomic fun s i e => ?_
  unfold committed
  split
  · exact fun _ => rfl
  · split
    · exact fun _ => rfl
    · intro h
      cases h

end

/-! ## Principals -/

/-- Who calls a service. -/
inductive Principal where
  | systemAdmin
  | tenantAdmin (tenant : Nat)
  | viewer (tenant : Nat)
  deriving DecidableEq, Repr

namespace Principal

def tenantID : Principal → Option Nat
  | .systemAdmin => none
  | .tenantAdmin tenant => some tenant
  | .viewer tenant => some tenant

/-- The owner of a row that the principal creates. -/
def owner : Principal → Owner
  | .tenantAdmin tenant => .tenant tenant
  | _ => .system

def requireSystemAdmin : Principal → Except ServiceError Unit
  | .systemAdmin => .ok ()
  | _ => .error .forbidden

def requireEditor : Principal → Except ServiceError Unit
  | .viewer _ => .error .forbidden
  | _ => .ok ()

def authorizeOwner (actor : Principal) (owner : Owner) : Except ServiceError Unit :=
  match actor with
  | .systemAdmin => .ok ()
  | .tenantAdmin tenant => if owner = .tenant tenant then .ok () else .error .forbidden
  | .viewer _ => .error .forbidden

def visibleTo (actor : Principal) (owner : Owner) : Bool :=
  match actor, owner with
  | .systemAdmin, _ => true
  | _, .system => true
  | actor, .tenant id => actor.tenantID = some id

/-- The loop of `visibleGroup`, `visibleException` and `visibleDistribution`: the row of
the principal's own tenant, or else the row of the system. -/
def visibleRow {A : Type} (actor : Principal) (ownerOf : A → Owner) (nameOf : A → String)
    (name : String) : (system : Option (Stored A)) → List (Stored A) → Option (Stored A)
  | system, [] => system
  | system, r :: rest =>
    if nameOf r.row ≠ name ∨ !actor.visibleTo (ownerOf r.row) then
      visibleRow actor ownerOf nameOf name system rest
    else if ∃ tenant ∈ actor.tenantID, ownerOf r.row = .tenant tenant then some r
    else
      visibleRow actor ownerOf nameOf name
        (if ownerOf r.row = .system then some r else system) rest

/-- A row that is found has the name, and it is one of the table. -/
theorem mem_of_visibleRow {A : Type} {actor : Principal} {ownerOf : A → Owner} {nameOf : A → String}
    {rows : List (Stored A)} {system : Option (Stored A)} {r : Stored A}
    (h : visibleRow actor ownerOf nameOf name system rows = some r) :
    system = some r ∨ r ∈ rows ∧ nameOf r.row = name := by
  induction rows generalizing system with
  | nil => exact .inl h
  | cons row rest ih =>
    unfold visibleRow at h
    split at h
    · exact (ih h).imp_right fun hr => ⟨List.mem_cons_of_mem _ hr.1, hr.2⟩
    · rename_i hname
      have hnamed : nameOf row.row = name := by
        by_contra hne
        exact hname (.inl hne)
      split at h
      · cases h
        exact .inr ⟨List.mem_cons_self, hnamed⟩
      · rcases ih h with hsystem | hr
        · split at hsystem
          · cases hsystem
            exact .inr ⟨List.mem_cons_self, hnamed⟩
          · exact .inl hsystem
        · exact .inr ⟨List.mem_cons_of_mem _ hr.1, hr.2⟩

end Principal

end KubeSentry.Console
