import KubeSentry.Api.Proto

/-!
# The admission event table

`admission_events` and the repository's idempotent insert,
`CreateEventsIdempotentCount` of `internal/database/repository`.

The unique index on `event_id` has no condition on `deleted_at`, so it is a
field of the table: no operation can build two rows with one event id.  The
violations column holds the JSON array of a list of strings and is that list
here; a nil list marshals to `null`, which the repository replaces by the empty
array.  The string arrays need no such step, because nil and empty lists are
the same list.

The insert runs in one transaction.  `Transaction` says what the database and
the driver do in it: the generated keys, the failing statement if there is
one, and whether the commit is reported as failed.  A commit that is reported
as failed may still have taken effect.
-/

namespace KubeSentry.Database

open GoLib

/-! ## Rows -/

/-- `AdmissionEvent` of the model package. -/
structure AdmissionEventRow where
  id : Int := 0
  createdAt : Time := 0
  eventID : String
  requestUID : String := ""
  clusterID : Int
  clusterName : String
  occurredAt : Time
  verdict : String
  apiGroup : String := ""
  apiVersion : String := ""
  resource : String := ""
  operation : String := ""
  namespaceName : String := ""
  resourceName : String := ""
  username : String := ""
  userGroups : List String := []
  policyNames : List String := []
  policyGroupNames : List String := []
  violations : List String := []
  metadataSnapshot : String := ""
  specSnapshot : String := ""
  storagePolicyVersion : String := ""
  deriving DecidableEq

def normalizeAdmissionJSON (value fallback : String) : String :=
  if value = "" ∨ trimSpace value = "null" then fallback else value

def normalizeAdmissionEvent (event : AdmissionEventRow) : AdmissionEventRow :=
  { event with
    metadataSnapshot := normalizeAdmissionJSON event.metadataSnapshot "\x7b\x7d"
    specSnapshot := normalizeAdmissionJSON event.specSnapshot "\x7b\x7d" }

/-! ## The table -/

/-- The rows of `admission_events` in insertion order. -/
structure EventTable where
  rows : List AdmissionEventRow
  unique : (rows.map fun row => row.eventID).Nodup
  deriving DecidableEq

namespace EventTable

def empty : EventTable where
  rows := []
  unique := List.nodup_nil

/-- Some row has this event id. -/
def Holds (table : EventTable) (eventID : String) : Prop :=
  eventID ∈ table.rows.map fun row => row.eventID

instance (table : EventTable) (eventID : String) : Decidable (table.Holds eventID) :=
  inferInstanceAs (Decidable (_ ∈ _))

def append (table : EventTable) (row : AdmissionEventRow) (hnew : ¬ table.Holds row.eventID) :
    EventTable where
  rows := table.rows ++ [row]
  unique := by
    rw [List.map_append, List.nodup_append]
    refine ⟨table.unique, List.nodup_singleton _, ?_⟩
    intro a ha b hb hab
    rw [List.map_singleton, List.mem_singleton] at hb
    exact hnew (hb ▸ hab ▸ ha)

/-- `INSERT … ON CONFLICT (event_id) DO NOTHING`, with whether a row was
written. -/
def insertOnConflictDoNothing (table : EventTable) (row : AdmissionEventRow) : EventTable × Bool :=
  if hold : table.Holds row.eventID then (table, false) else (table.append row hold, true)

/-- After the insert the table holds the row's event id, whichever row has it. -/
theorem holds_insertOnConflictDoNothing (table : EventTable) (row : AdmissionEventRow)
    (eventID : String) :
    (table.insertOnConflictDoNothing row).1.Holds eventID ↔
      table.Holds eventID ∨ eventID = row.eventID := by
  unfold insertOnConflictDoNothing
  split
  · rename_i hold
    refine ⟨Or.inl, ?_⟩
    intro h
    rcases h with h | h
    · exact h
    · exact h ▸ hold
  · rename_i hnew
    unfold Holds append
    rw [List.map_append, List.mem_append, List.map_singleton, List.mem_singleton]

end EventTable

/-! ## The transaction -/

/-- What the database does in one run of `CreateEventsIdempotentCount`.
Statements are numbered from 0.  A failed commit comes with whether the
database applied it.  A collision of primary keys is one of the failures. -/
structure Transaction where
  newID : Nat → Int := fun n => n + 1
  createdAt : Nat → Time := fun _ => 0
  insertError : Nat → Option String := fun _ => none
  commitError : Option (String × Bool) := none

/-- The table inside the transaction and the two counters. -/
structure Progress where
  table : EventTable
  written : Nat := 0
  duplicates : Nat := 0
  deriving DecidableEq

/-- The row that statement `n` sends. -/
def Transaction.rowOf (tx : Transaction) (n : Nat) (event : AdmissionEventRow) :
    AdmissionEventRow :=
  { normalizeAdmissionEvent event with id := tx.newID n, createdAt := tx.createdAt n }

/-- Statement `n` of the transaction. -/
def Progress.insert (tx : Transaction) (n : Nat) (p : Progress) (event : AdmissionEventRow) :
    Progress :=
  match p.table.insertOnConflictDoNothing (tx.rowOf n event) with
  | (table, true) => { p with table := table, written := p.written + 1 }
  | (table, false) => { p with table := table, duplicates := p.duplicates + 1 }

theorem Progress.insert_table (tx : Transaction) (n : Nat) (p : Progress)
    (event : AdmissionEventRow) :
    (p.insert tx n event).table = (p.table.insertOnConflictDoNothing (tx.rowOf n event)).1 := by
  unfold Progress.insert
  split <;> rename_i h <;> rw [h]

theorem Progress.holds_insert (tx : Transaction) (n : Nat) (p : Progress)
    (event : AdmissionEventRow) (eventID : String) :
    (p.insert tx n event).table.Holds eventID ↔
      p.table.Holds eventID ∨ eventID = event.eventID := by
  rw [Progress.insert_table]
  exact EventTable.holds_insertOnConflictDoNothing p.table (tx.rowOf n event) eventID

/-- The loop of the transaction from statement `n` on. -/
def insertEvents (tx : Transaction) : Nat → Progress → List AdmissionEventRow →
    Except String Progress
  | _, p, [] => .ok p
  | n, p, event :: events =>
    match tx.insertError n with
    | some err => .error err
    | none => insertEvents tx (n + 1) (p.insert tx n event) events

variable {tx : Transaction} {events : List AdmissionEventRow} {table : EventTable}

/-- A loop that ends holds what it started with and every event it was given. -/
theorem holds_insertEvents :
    ∀ {n : Nat} {p q : Progress}, insertEvents tx n p events = .ok q → ∀ eventID,
      (q.table.Holds eventID ↔
        p.table.Holds eventID ∨ ∃ event ∈ events, eventID = event.eventID) := by
  induction events with
  | nil =>
    intro n p q h eventID
    cases h
    simp
  | cons event events ih =>
    intro n p q h eventID
    rw [insertEvents] at h
    split at h
    · cases h
    · rw [ih h eventID, Progress.holds_insert, or_assoc, List.exists_mem_cons_iff]

/-- The same loop from two tables in a relation that the inserts keep.  Whether
the loop fails does not depend on the table. -/
theorem insertEvents_rel {R : EventTable → EventTable → Prop} :
    ∀ {n : Nat} {p p' : Progress}, R p.table p'.table → (∀ event ∈ events, ∀ n t t', R t t' →
        R (t.insertOnConflictDoNothing (tx.rowOf n event)).1
          (t'.insertOnConflictDoNothing (tx.rowOf n event)).1) →
      (∃ err, insertEvents tx n p events = .error err ∧ insertEvents tx n p' events = .error err) ∨
        ∃ q q', insertEvents tx n p events = .ok q ∧ insertEvents tx n p' events = .ok q' ∧
          R q.table q'.table := by
  induction events with
  | nil =>
    intro n p p' hrel _
    exact .inr ⟨p, p', rfl, rfl, hrel⟩
  | cons event events ih =>
    intro n p p' hrel hinsert
    rw [insertEvents, insertEvents]
    cases tx.insertError n with
    | some err => exact .inl ⟨err, rfl, rfl⟩
    | none =>
      refine ih ?_ fun later hlater => hinsert later (List.mem_cons_of_mem _ hlater)
      rw [Progress.insert_table, Progress.insert_table]
      exact hinsert event List.mem_cons_self n p.table p'.table hrel

/-- The table after the call, and the two counts or the error.  A failing
statement rolls the transaction back. -/
def createEventsIdempotentCount (tx : Transaction) (table : EventTable)
    (events : List AdmissionEventRow) : EventTable × Except String (Nat × Nat) :=
  match insertEvents tx 0 { table := table } events with
  | .error err => (table, .error err)
  | .ok p =>
    match tx.commitError with
    | none => (p.table, .ok (p.written, p.duplicates))
    | some (err, applied) => (if applied then p.table else table, .error err)

/-- The call leaves the table as it was or ends the whole loop; without an
error it is the second. -/
theorem createEventsIdempotentCount_cases (tx : Transaction) (table : EventTable)
    (events : List AdmissionEventRow) :
    ((createEventsIdempotentCount tx table events).1 = table ∧
        ∃ err, (createEventsIdempotentCount tx table events).2 = .error err) ∨
      ∃ q, insertEvents tx 0 { table := table } events = .ok q ∧
        (createEventsIdempotentCount tx table events).1 = q.table ∧
        ((createEventsIdempotentCount tx table events).2 = .ok (q.written, q.duplicates) ∨
          ∃ err, (createEventsIdempotentCount tx table events).2 = .error err) := by
  unfold createEventsIdempotentCount
  split
  · exact .inl ⟨rfl, _, rfl⟩
  · rename_i q hq
    split
    · exact .inr ⟨q, hq, rfl, .inl rfl⟩
    · rename_i err applied _
      cases applied with
      | true => exact .inr ⟨q, hq, rfl, .inr ⟨err, rfl⟩⟩
      | false => exact .inl ⟨rfl, err, rfl⟩

/-- The same call on two tables in a relation that the inserts keep: the tables
stay related, and both calls fail with one error or both succeed. -/
theorem createEventsIdempotentCount_rel {R : EventTable → EventTable → Prop} (tx : Transaction)
    (events : List AdmissionEventRow) {t u : EventTable} (hrel : R t u)
    (hinsert : ∀ event ∈ events, ∀ n t u, R t u →
      R (t.insertOnConflictDoNothing (tx.rowOf n event)).1
        (u.insertOnConflictDoNothing (tx.rowOf n event)).1) :
    R (createEventsIdempotentCount tx t events).1 (createEventsIdempotentCount tx u events).1 ∧
      ((∃ err, (createEventsIdempotentCount tx t events).2 = .error err ∧
          (createEventsIdempotentCount tx u events).2 = .error err) ∨
        ∃ counts counts', (createEventsIdempotentCount tx t events).2 = .ok counts ∧
          (createEventsIdempotentCount tx u events).2 = .ok counts') := by
  have hstart : R ({ table := t } : Progress).table ({ table := u } : Progress).table := hrel
  unfold createEventsIdempotentCount
  rcases insertEvents_rel (n := 0) hstart hinsert with ⟨err, herr, herr'⟩ | ⟨q, q', hq, hq', hend⟩
  · rw [herr, herr']
    exact ⟨hrel, .inl ⟨err, rfl, rfl⟩⟩
  · rw [hq, hq']
    cases tx.commitError with
    | none => exact ⟨hend, .inr ⟨_, _, rfl, rfl⟩⟩
    | some failure =>
      obtain ⟨err, applied⟩ := failure
      cases applied with
      | true => exact ⟨hend, .inl ⟨err, rfl, rfl⟩⟩
      | false => exact ⟨hrel, .inl ⟨err, rfl, rfl⟩⟩

/-- What the inserts keep, the call keeps, whatever the database does. -/
theorem createEventsIdempotentCount_keeps {P : EventTable → Prop} (tx : Transaction)
    (h : P table) (hinsert : ∀ event ∈ events, ∀ n t, P t →
      P (t.insertOnConflictDoNothing (tx.rowOf n event)).1) :
    P (createEventsIdempotentCount tx table events).1 :=
  (createEventsIdempotentCount_rel (R := fun t _ => P t) (u := table) tx events h
    fun event hevent n t _ => hinsert event hevent n t).1

/-- Without an error every event given to the call is stored. -/
theorem createEventsIdempotentCount_durable {counts : Nat × Nat}
    (hok : (createEventsIdempotentCount tx table events).2 = .ok counts) :
    ∀ event ∈ events, (createEventsIdempotentCount tx table events).1.Holds event.eventID := by
  intro event hevent
  rcases createEventsIdempotentCount_cases tx table events with
    ⟨_, err, herr⟩ | ⟨q, hq, htable, _⟩
  · rw [herr] at hok
    cases hok
  · rw [htable, holds_insertEvents hq]
    exact .inr ⟨event, hevent, rfl⟩

/-- The insert is idempotent: events that are all stored already leave the
table as it is, whatever the database does. -/
theorem createEventsIdempotentCount_idempotent (tx : Transaction)
    (hold : ∀ event ∈ events, table.Holds event.eventID) :
    (createEventsIdempotentCount tx table events).1 = table := by
  refine createEventsIdempotentCount_keeps (P := fun t => t = table) tx rfl ?_
  intro event hevent n t heq
  have hold' : table.Holds (tx.rowOf n event).eventID := hold event hevent
  rw [heq, EventTable.insertOnConflictDoNothing, dif_pos hold']

end KubeSentry.Database
