import KubeSentry.Console.PolicyService

/-!
# The version history of a policy

Every write of a policy appends a version in the same transaction.  `Mirrored` is the
invariant: the numbers of the versions of a policy are `1..n`, each once, and the newest
version holds the content of the row.

`Create`, `Update` and `Rollback` run interleaved, call by call, and may fail at any of
them.  The lock is not needed here.  What carries the argument is the compare-and-swap of
`UpdateWithVersion`: a row that still has its stamp has not been written since it was read,
and then it has got no version either (`Follows`).  So the number that a call computes from
an earlier `ListVersions` is the next one at its write (`Listed.at_write`).

* `mirrored_create` and `mirrored_update` are the two steps.
* `ensures_prog` is what one operation ensures while others run, and `ensures_rollback` what
  the write of a rollback does.
* `two_rollbacks` follows the content through two rollbacks in a row.
-/

namespace KubeSentry.Console.PolicyService

open GoLib Fallible Database RowStore
open Operator.PolicyReconciler (RegoCompiler)

/-! ## Histories -/

/-- The versions of a policy. -/
def versionsOf (s : ConsoleState) (id : Int) : List (Stored VersionColumns) :=
  s.versions.rows.filter fun v => v.row.policyID = id

/-- The order of `ListVersions`. -/
def newestFirst (versions : List (Stored VersionColumns)) : List (Stored VersionColumns) :=
  orderBy (fun v => -(v.row.version : Int)) versions

/-- The numbers are `1..n`, each once. -/
def Numbered (versions : List (Stored VersionColumns)) (n : Nat) : Prop :=
  (versions.map fun v => v.row.version).Perm (List.range' 1 n)

/-- The version holds the content of the row.  An empty list and an absent one are the same
here. -/
structure Mirrors (v : VersionColumns) (p : PolicyColumns) : Prop where
  rego : v.rego = p.rego
  snapshotRego : v.specSnapshot.rego = p.rego
  matching : v.specSnapshot.matching = p.matching
  enforcementMode : v.specSnapshot.enforcementMode = p.enforcementMode
  description : v.specSnapshot.description = p.description

/-- The history of every policy mirrors its row. -/
structure Mirrored (s : ConsoleState) : Prop where
  newest : ∀ p ∈ s.policies.rows, ∃ n, 1 ≤ n ∧ Numbered (versionsOf s p.id) n ∧
    ∀ v ∈ versionsOf s p.id, v.row.version = n → Mirrors v.row p.row
  /-- This holds of the versions of deleted policies too. -/
  numbered : ∀ id, ∃ n, Numbered (versionsOf s id) n
  coherent : ∀ v ∈ s.versions.rows, v.row.specSnapshot.rego = v.row.rego
  known : ∀ v ∈ s.versions.rows, v.row.policyID < s.policies.nextID

variable {s s' s'' : ConsoleState} {versions : List (Stored VersionColumns)}
  {n elapsed elapsed' : Nat} {v : VersionColumns} {p : Stored PolicyColumns} {fields : PolicyFields}

theorem mem_versionsOf {id : Int} {v : Stored VersionColumns} :
    v ∈ versionsOf s id ↔ v ∈ s.versions.rows ∧ v.row.policyID = id := by
  unfold versionsOf
  rw [List.mem_filter, decide_eq_true_iff]

theorem Numbered.mem (h : Numbered versions n) (k : Nat) :
    (∃ v ∈ versions, v.row.version = k) ↔ 1 ≤ k ∧ k ≤ n := by
  have hmem := h.mem_iff (a := k)
  rw [List.mem_map, List.mem_range'_1] at hmem
  rw [hmem]
  omega

theorem Numbered.unique {m : Nat} (hn : Numbered versions n) (hm : Numbered versions m) :
    n = m := by
  have hlength := (hn.symm.trans hm).length_eq
  rwa [List.length_range', List.length_range'] at hlength

theorem Numbered.append (h : Numbered versions n) {v : Stored VersionColumns}
    (hv : v.row.version = n + 1) : Numbered (versions ++ [v]) (n + 1) := by
  unfold Numbered at h ⊢
  rw [List.map_append, List.map_singleton, hv, List.range'_1_concat, Nat.add_comm 1 n]
  exact h.append_right _

theorem mem_newestFirst {v : Stored VersionColumns} : v ∈ newestFirst versions ↔ v ∈ versions := by
  exact List.mem_insertionSort _

/-- The first version that `ListVersions` returns is the newest one. -/
theorem currentVersion_newestFirst (h : Numbered versions n) :
    currentVersion (newestFirst versions) = n := by
  have hsorted : (newestFirst versions).Pairwise
      fun v w => -(v.row.version : Int) ≤ -(w.row.version : Int) := by
    exact List.pairwise_insertionSort _ _
  have hmem : ∀ v, v ∈ newestFirst versions ↔ v ∈ versions := fun _ => mem_newestFirst
  revert hsorted hmem
  cases newestFirst versions with
  | nil =>
    intro _ hmem
    by_contra hn
    have hpos : 1 ≤ n := Nat.one_le_iff_ne_zero.mpr fun h0 => hn h0.symm
    obtain ⟨v, hv, _⟩ := (h.mem n).mpr ⟨hpos, le_refl n⟩
    exact absurd ((hmem v).mpr hv) List.not_mem_nil
  | cons v rest =>
    intro hsorted hmem
    show v.row.version = n
    have hv := (h.mem v.row.version).mp ⟨v, (hmem v).mp List.mem_cons_self, rfl⟩
    obtain ⟨w, hw, hwn⟩ := (h.mem n).mpr ⟨hv.1.trans hv.2, le_refl n⟩
    rcases List.mem_cons.mp ((hmem w).mpr hw) with heq | hrest
    · rw [← heq, hwn]
    · have hle := (List.pairwise_cons.mp hsorted).1 w hrest
      omega

/-! ## Steps -/

/-- No version has the id of a policy that is still to come. -/
theorem Mirrored.versionsOf_nextID (h : Mirrored s) : versionsOf s s.policies.nextID = [] := by
  rw [List.eq_nil_iff_forall_not_mem]
  intro v hv
  obtain ⟨hrow, hid⟩ := mem_versionsOf.mp hv
  have hknown := h.known v hrow
  omega

variable {policies : RowStore policyKeys} {table : RowStore versionKeys}
  (hversions : s.versions.insert elapsed' v = some table)

include hversions

theorem versionsOf_insert (policies : RowStore policyKeys) (id : Int) :
    versionsOf { s with policies := policies, versions := table } id =
      if v.policyID = id then versionsOf s id ++ [s.versions.newRow elapsed' v]
      else versionsOf s id := by
  unfold versionsOf
  rw [(rows_insert hversions).1, List.filter_append]
  by_cases hid : v.policyID = id
  · simp [newRow, hid]
  · simp [newRow, hid]

/-- The versions after an insert keep the facts that every single version has. -/
theorem forall_versions_insert {Q : VersionColumns → Prop} (hold : ∀ w ∈ s.versions.rows, Q w.row)
    (hnew : Q v) : ∀ w ∈ table.rows, Q w.row := by
  rw [(rows_insert hversions).1]
  exact List.forall_mem_append.mpr ⟨hold, List.forall_mem_singleton.mpr hnew⟩

/-- A write of a policy appends the next version of its history.  The other rows stay. -/
theorem mirrored_insert (h : Mirrored s) (hn : Numbered (versionsOf s v.policyID) n)
    (hversion : v.version = n + 1) (hcoherent : v.specSnapshot.rego = v.rego)
    (hnext : s.policies.nextID ≤ policies.nextID) (hknown : v.policyID < policies.nextID)
    (hrows : ∀ q ∈ policies.rows,
      q ∈ s.policies.rows ∧ v.policyID ≠ q.id ∨ v.policyID = q.id ∧ Mirrors v q.row) :
    Mirrored { s with policies := policies, versions := table } := by
  have hof := versionsOf_insert hversions policies
  have happend : Numbered (versionsOf s v.policyID ++ [s.versions.newRow elapsed' v]) (n + 1) :=
    hn.append hversion
  refine ⟨fun q hq => ?_, fun id => ?_, ?_, ?_⟩
  · rw [hof]
    rcases hrows q hq with ⟨hold, hne⟩ | ⟨hid, hmirrors⟩
    · rw [if_neg hne]
      exact h.newest q hold
    · rw [if_pos hid, ← hid]
      refine ⟨n + 1, Nat.succ_pos n, happend, fun w hw hwn => ?_⟩
      rcases List.mem_append.mp hw with hold | hlast
      · have hle := ((hn.mem w.row.version).mp ⟨w, hold, rfl⟩).2
        omega
      · rw [List.mem_singleton.mp hlast]
        exact hmirrors
  · rw [hof]
    by_cases hid : v.policyID = id
    · rw [if_pos hid, ← hid]
      exact ⟨n + 1, happend⟩
    · rw [if_neg hid]
      exact h.numbered id
  · exact forall_versions_insert hversions (Q := fun v => v.specSnapshot.rego = v.rego) h.coherent
      hcoherent
  · exact forall_versions_insert hversions (Q := fun v => v.policyID < policies.nextID)
      (fun w hw => (h.known w hw).trans_le hnext) hknown

/-- `CreateWithVersion` starts a history. -/
theorem mirrored_create (h : Mirrored s) {p : PolicyColumns} (hid : v.policyID = s.policies.nextID)
    (hversion : v.version = 1) (hmirrors : Mirrors v p)
    (hpolicies : s.policies.insert elapsed p = some policies) :
    Mirrored { s with policies := policies, versions := table } := by
  have hnext : policies.nextID = s.policies.nextID + 1 := nextID_insert hpolicies
  have hn : Numbered (versionsOf s v.policyID) 0 := by
    rw [hid, h.versionsOf_nextID]
    exact List.Perm.refl _
  refine mirrored_insert hversions h hn hversion (hmirrors.snapshotRego.trans hmirrors.rego.symm)
    (by omega) (by omega) fun q hq => ?_
  rw [(rows_insert hpolicies).1] at hq
  rcases List.mem_append.mp hq with hold | hnew
  · have hbelow := s.policies.ids_below q hold
    exact .inl ⟨hold, by omega⟩
  · rw [List.mem_singleton.mp hnew]
    exact .inr ⟨hid, hmirrors⟩

/-- The state after `UpdateWithVersion`. -/
abbrev updated (s : ConsoleState) (id : Int) (elapsed : Nat) (fields : PolicyFields)
    (versions : RowStore versionKeys) : ConsoleState :=
  { s with
    policies := s.policies.update id elapsed fields.apply fields.keys_apply
    versions := versions }

/-- `UpdateWithVersion` continues the history, if the version is the next one. -/
theorem mirrored_update (h : Mirrored s) (hp : p ∈ s.policies.rows) (hid : v.policyID = p.id)
    (hn : Numbered (versionsOf s p.id) n) (hversion : v.version = n + 1)
    (hmirrors : Mirrors v (fields.apply p.row)) :
    Mirrored (updated s p.id elapsed fields table) := by
  have hbelow := s.policies.ids_below p hp
  rw [← hid] at hn hbelow
  refine mirrored_insert hversions h hn hversion (hmirrors.snapshotRego.trans hmirrors.rego.symm)
    (show s.policies.nextID ≤ (s.policies.update p.id elapsed _ fields.keys_apply).nextID from
      le_refl _) hbelow fun q' hq' => ?_
  obtain ⟨q, hq, heq⟩ := mem_rows_update.mp hq'
  by_cases hqid : q.id = p.id
  · rw [if_pos hqid, s.policies.eq_of_id hq hp hqid] at heq
    rw [heq]
    exact .inr ⟨hid, hmirrors⟩
  · rw [if_neg hqid] at heq
    rw [heq]
    exact .inl ⟨hq, fun hv => hqid (hv.symm.trans hid)⟩

omit hversions

theorem mirrored_delete (h : Mirrored s) (id : Int) :
    Mirrored { s with policies := s.policies.delete id } :=
  ⟨fun q hq => h.newest q (mem_rows_delete.mp hq).1, h.numbered, h.coherent, h.known⟩

/-! ## What the threads rely on -/

/-- A policy that has not been written has got no version. -/
structure Follows (s s' : ConsoleState) : Prop where
  policies : Evolves s.policies s'.policies
  versions : ∀ p ∈ s.policies.rows, p ∈ s'.policies.rows → versionsOf s' p.id = versionsOf s p.id

theorem Follows.refl (s : ConsoleState) : Follows s s := ⟨.refl _, fun _ _ _ => rfl⟩

/-- A row that is there again was there in between. -/
theorem Follows.between (h : Follows s s') (h' : Follows s' s'') (hp : p ∈ s.policies.rows)
    (hp'' : p ∈ s''.policies.rows) : p ∈ s'.policies.rows := by
  rcases h'.policies.fresh p hp'' with hold | hnew
  · exact hold
  · have hpast := s.policies.past p hp
    have hlatest := h.policies.latest
    omega

theorem Follows.trans (h : Follows s s') (h' : Follows s' s'') : Follows s s'' := by
  refine ⟨h.policies.trans h'.policies, fun p hp hp'' => ?_⟩
  have hp' := h.between h' hp hp''
  rw [h'.versions p hp' hp'', h.versions p hp hp']

/-- What every call does. -/
def Writes (s s' : ConsoleState) : Prop :=
  Follows s s' ∧ (Mirrored s → Mirrored s')

theorem Writes.refl (s : ConsoleState) : Writes s s := ⟨.refl s, id⟩

/-- The row was read. -/
def WasRead (s : ConsoleState) (p : Stored PolicyColumns) : Prop :=
  ∃ s1, p ∈ s1.policies.rows ∧ Follows s1 s

theorem WasRead.stable (p : Stored PolicyColumns) (s s' : ConsoleState) (h : WasRead s p)
    (hs : Follows s s') : WasRead s' p := by
  obtain ⟨s1, hp, hs1⟩ := h
  exact ⟨s1, hp, hs1.trans hs⟩

/-- The row was read, and its versions after it. -/
def Listed (s : ConsoleState) (p : Stored PolicyColumns)
    (versions : List (Stored VersionColumns)) : Prop :=
  ∃ s1, WasRead s1 p ∧ Follows s1 s ∧ versions = newestFirst (versionsOf s1 p.id)

/-- If the row still has its stamp, then it and its versions are as they were read. -/
theorem Listed.at_write (h : Listed s p versions)
    (hfound : ∃ r ∈ s.policies.rows, r.id = p.id ∧ r.updatedAt = p.updatedAt) :
    p ∈ s.policies.rows ∧ versions = newestFirst (versionsOf s p.id) := by
  obtain ⟨s1, ⟨s0, hp, hs0⟩, hs1, hversions⟩ := h
  obtain ⟨r, hr, hid, hstamp⟩ := hfound
  have hrp := (hs0.trans hs1).policies.eq_of_stamp hp hr hid hstamp
  rw [hrp] at hr
  have hbetween := hs0.between hs1 hp hr
  exact ⟨hr, by rw [hversions, hs1.versions p hbetween hr]⟩

include hversions

theorem follows_insert {p : PolicyColumns} (hid : v.policyID = s.policies.nextID)
    (hpolicies : s.policies.insert elapsed p = some policies) :
    Follows s { s with policies := policies, versions := table } := by
  refine ⟨evolves_insert hpolicies, fun q hq _ => ?_⟩
  have hne : v.policyID ≠ q.id := by
    have hbelow := s.policies.ids_below q hq
    omega
  rw [versionsOf_insert hversions, if_neg hne]

theorem follows_update (hp : p ∈ s.policies.rows) (hid : v.policyID = p.id) :
    Follows s (updated s p.id elapsed fields table) := by
  refine ⟨evolves_update _ _ _ _ fields.keys_apply, fun q hq hq' => ?_⟩
  have hne : v.policyID ≠ q.id := by
    intro hv
    rw [s.policies.eq_of_id hq hp (hv.symm.trans hid)] at hq'
    exact not_mem_rows_update hp elapsed _ fields.keys_apply hq'
  rw [versionsOf_insert hversions, if_neg hne]

variable {listed : List (Stored VersionColumns)}

/-- The write of an update or a rollback, at the time of the write. -/
theorem writes_update (h : Mirrored s) (hlisted : Listed s p listed)
    (hfound : ∃ r ∈ s.policies.rows, r.id = p.id ∧ r.updatedAt = p.updatedAt)
    (hid : v.policyID = p.id) (hversion : v.version = currentVersion listed + 1)
    (hmirrors : p ∈ s.policies.rows → listed = newestFirst (versionsOf s p.id) →
      Mirrors v (fields.apply p.row)) :
    Writes s (updated s p.id elapsed fields table) := by
  obtain ⟨hp, hversionsOf⟩ := hlisted.at_write hfound
  obtain ⟨n, _, hn, _⟩ := h.newest p hp
  rw [hversionsOf, currentVersion_newestFirst hn] at hversion
  exact ⟨follows_update hversions hp hid,
    fun _ => mirrored_update hversions h hp hid hn hversion (hmirrors hp hversionsOf)⟩

omit hversions

/-! ## Operations -/

/-- The program keeps the histories, whatever the others do in between. -/
abbrev Keeps {A : Type} (s0 : ConsoleState) (p : ServiceProg A)
    (does : ConsoleState → ConsoleState → Prop := Writes) : Prop :=
  Fallible.Ensures Follows (fun s _ => Mirrored s) does Any Any s0 p

variable {A B : Type} {f : A → ServiceProg B}

theorem keeps_past {p : ServiceProg A} (hp : p.ReadOnly) (hf : ∀ s a, Keeps s (f a))
    (s0 : ConsoleState) : Keeps s0 (p >>= f) :=
  ensures_past (P := fun _ => True) .refl (fun _ _ _ _ => trivial)
    (fun _ _ _ => trivial) hp trivial fun s a _ => hf s a

variable {s0 : ConsoleState}

section

variable {R does : ConsoleState → ConsoleState → Prop} {ok : ConsoleState → DbInput → Prop}
  (hR : ∀ s s', R s s' → Follows s s')

include hR

/-- Reading the versions of a policy that was read. -/
theorem ensures_listVersions (hrefl : ∀ s, does s s) (h : WasRead s0 p) :
    Fallible.Ensures R ok does (fun s versions => R s0 s ∧ Listed s p versions) Any s0
      ((listVersions p.id).mapError (wrapped "list versions: ")) := by
  refine ensures_mapError (ensures_query hrefl ?_ fun _ _ _ _ _ => trivial)
  intro s i versions hs _ hversions
  cases hversions
  exact ⟨hs, s, h.stable p s0 s (hR _ _ hs), .refl s, rfl⟩

end

theorem Listed.stable (h : Listed s p versions) (hs : Follows s s') : Listed s' p versions := by
  obtain ⟨s1, hread, hs1, heq⟩ := h
  exact ⟨s1, hread, hs1.trans hs, heq⟩

section

variable [NameValidation] [RegoCompiler]

theorem ensures_create (actor : Principal) (req : PolicyInput) (s0 : ConsoleState) :
    Keeps s0 (create actor req) := by
  refine ensures_check fun _ _ => ?_
  refine ensures_check fun _ _ => ?_
  refine ensures_mapError (ensures_createWithVersion .refl ?_ fun _ _ _ _ _ => trivial)
  intro s i elapsed elapsed' policies versions _ hmirrored hpolicies hversions
  have hmirrors : Mirrors
      { policyID := s.policies.nextID, version := 1, rego := (newPolicy actor req).rego
        specSnapshot := policySpecSnapshot (newPolicy actor req) } (newPolicy actor req) :=
    ⟨rfl, rfl, normalizePolicyMatch_eq _, rfl, rfl⟩
  exact ⟨⟨follows_insert hversions rfl hpolicies,
    fun _ => mirrored_create hversions hmirrored rfl rfl hmirrors hpolicies⟩, trivial⟩

end

/-- A rollback has written the content of version `n - 1` and appended version `n + 1`. -/
def RolledBack (name : String) (s s' : ConsoleState) : Prop :=
  ∃ (p : Stored PolicyColumns) (v w : Stored VersionColumns) (n elapsed : Nat),
    p ∈ s.policies.rows ∧ p.row.name = name ∧ Numbered (versionsOf s p.id) n ∧
      v ∈ versionsOf s p.id ∧ v.row.version = n - 1 ∧
      s'.policies = s.policies.update p.id elapsed (rollbackFields v.row).apply
        (rollbackFields v.row).keys_apply ∧
      versionsOf s' p.id = versionsOf s p.id ++ [w] ∧ w.row.version = n + 1

/-- What a call of a rollback does. -/
def Restores (name : String) (s s' : ConsoleState) : Prop :=
  Writes s s' ∧ (s' = s ∨ RolledBack name s s')

theorem Restores.refl (name : String) (s : ConsoleState) : Restores name s s := ⟨.refl s, .inl rfl⟩

section

variable [GoUnicode] [Apimachinery]

theorem ensures_update [NameValidation] [RegoCompiler] (actor : Principal) (name : String)
    (req : PolicyInput) (s0 : ConsoleState) : Keeps s0 (update actor name req) := by
  refine ensures_check fun _ _ => ?_
  refine ensures_try (ensures_editablePolicy (P := WasRead) actor name .refl
    WasRead.stable fun s _ p _ _ hp _ => ⟨s, hp, .refl s⟩) ?_
  intro s1 p ⟨hread, _⟩
  refine ensures_guard fun _ => ?_
  refine ensures_try (ensures_listVersions (fun _ _ h => h) .refl hread) ?_
  intro s2 listed ⟨_, hlisted⟩
  refine ensures_mapError (ensures_updateWithVersion .refl ?_)
  intro s i elapsed elapsed' versions hs hmirrored hfound hversions
  refine ⟨writes_update hversions hmirrored (hlisted.stable hs) hfound rfl rfl fun _ _ => ?_,
    trivial⟩
  exact ⟨rfl, rfl, normalizePolicyMatch_eq _, rfl, rfl⟩

/-- A rollback, among threads that do `R`.  The states that it finds have `K`. -/
theorem ensures_rollback {R : ConsoleState → ConsoleState → Prop}
    {ok : ConsoleState → DbInput → Prop} {K : ConsoleState → Prop}
    (hR : ∀ s s', R s s' → Follows s s') (hK : ∀ s s', K s → R s s' → K s')
    (hok : ∀ s i, K s → ok s i → Mirrored s) (actor : Principal) (name : String)
    (direction : Direction) (h : K s0) :
    Fallible.Ensures R ok (Restores name)
      (fun s' _ => ∃ s, K s ∧ RolledBack name s s' ∧ Mirrored s') Any s0
      (rollback actor name direction) := by
  refine ensures_guard fun _ => ?_
  refine ensures_try (ensures_editablePolicy
    (P := fun s p => K s ∧ WasRead s p ∧ p.row.name = name) actor name (Restores.refl name)
    (fun p s s' hs hrely => ⟨hK s s' hs.1 hrely, hs.2.1.stable p s s' (hR s s' hrely), hs.2.2⟩)
    fun s _ p hs _ hp hname => ⟨hK s0 s h hs, ⟨s, hp, .refl s⟩, hname⟩) ?_
  intro s1 p ⟨⟨hk1, hread, hname⟩, _⟩
  refine ensures_guard fun _ => ?_
  refine ensures_try (ensures_listVersions hR (Restores.refl name) hread) ?_
  intro s2 listed ⟨hs2, hlisted⟩
  refine ensures_guard fun _ => ?_
  split
  · exact trivial
  · rename_i target htarget
    refine ensures_try (ensures_mapError (ensures_updateWithVersion (Restores.refl name) ?_))
      fun _ _ hs => hs
    intro s i elapsed elapsed' versions hs hallowed hfound hversions
    have hk : K s := hK _ _ (hK _ _ hk1 hs2) hs
    have hmirrored := hok s i hk hallowed
    have hlisted := hlisted.stable (hR _ _ hs)
    obtain ⟨hp, heq⟩ := hlisted.at_write hfound
    obtain ⟨n, _, hn, _⟩ := hmirrored.newest p hp
    have hcurrent : currentVersion listed = n := by rw [heq, currentVersion_newestFirst hn]
    have hmem := List.mem_of_find?_eq_some htarget
    rw [heq, mem_newestFirst] at hmem
    have hversion : target.row.version = n - 1 := by
      rw [← hcurrent]
      simpa using List.find?_some htarget
    have hwrites : Writes s (updated s p.id elapsed (rollbackFields target.row) versions) :=
      writes_update hversions hmirrored hlisted hfound rfl rfl fun _ _ =>
        ⟨rfl, hmirrored.coherent target (mem_versionsOf.mp hmem).1, rfl, rfl, rfl⟩
    have hrolled : RolledBack name s
        (updated s p.id elapsed (rollbackFields target.row) versions) :=
      ⟨p, target, _, n, elapsed, hp, hname, hn, hmem, hversion, rfl,
        (versionsOf_insert hversions _ p.id).trans (if_pos rfl), congrArg (· + 1) hcurrent⟩
    exact ⟨⟨hwrites, .inr hrolled⟩, s, hk, hrolled, hwrites.2 hmirrored⟩

theorem ensures_delete (actor : Principal) (name : String) (s0 : ConsoleState) :
    Keeps s0 (delete actor name) := by
  refine keeps_past (readOnly_mapError readOnly_within_query) (fun s1 p => ?_) s0
  refine ensures_check fun _ _ => ?_
  refine keeps_past (readOnly_mapError (readOnly_referencingGroups _)) (fun s2 refs => ?_) s1
  refine ensures_guard fun _ => ?_
  refine ensures_mapError (ensures_execute .refl ?_)
  intro s i s' _ _ hmirrored hwrite
  cases hwrite
  exact ⟨⟨⟨evolves_delete _ _, fun _ _ _ => rfl⟩, fun h => mirrored_delete h _⟩, trivial⟩

end

section

variable [GoUnicode] [Apimachinery] [NameValidation] [RegoCompiler]

/-- What a call of the operation does. -/
def PolicyOp.Does (op : PolicyOp) (s s' : ConsoleState) : Prop :=
  Writes s s' ∧ ∀ actor name direction, op = .rollback actor name direction → Restores name s s'

theorem ensures_prog (op : PolicyOp) (s0 : ConsoleState) : Keeps s0 op.prog op.Does := by
  have hlock : ∀ {A : Type} {body : ServiceProg A}, (∀ s, Keeps s body) →
      Keeps s0 (withPolicyReferenceLock body) := fun hbody =>
    keeps_past (readOnly_mapError (readOnly_query _)) (fun s _ => hbody s) s0
  have hother : (∀ actor name direction, op ≠ .rollback actor name direction) →
      Keeps s0 op.prog → Keeps s0 op.prog op.Does :=
    fun hne h => Prog.ensures_weaken (fun _ _ hok => hok)
      (fun _ _ hwrites => ⟨hwrites, fun a n d hop => absurd hop (hne a n d)⟩) (fun _ _ h => h) h
  cases op with
  | create actor req => exact hother (fun _ _ _ => nofun) (ensures_create actor req s0)
  | update actor name req =>
    exact hother (fun _ _ _ => nofun) (hlock (ensures_update actor name req))
  | delete actor name => exact hother (fun _ _ _ => nofun) (hlock (ensures_delete actor name))
  | rollback actor name direction =>
    have hbody : ∀ s, Keeps s (rollback actor name direction) (Restores name) := fun s =>
      Fallible.ensures_mono (ensures_rollback (K := fun _ => True) (fun _ _ h => h)
        (fun _ _ _ _ => trivial) (fun _ _ _ h => h) actor name direction trivial)
        (fun _ _ _ => trivial) fun _ _ h => h
    have hlocked : Keeps s0 (PolicyOp.prog (.rollback actor name direction)) (Restores name) :=
      ensures_try (ensures_past (P := fun _ => True) (Restores.refl name)
        (fun _ _ _ _ => trivial) (fun _ _ _ => trivial) (readOnly_mapError (readOnly_query _))
        trivial fun s _ _ => hbody s) fun _ _ _ => trivial
    refine Prog.ensures_weaken (fun _ _ hok => hok) (fun s s' h => ⟨h.1, ?_⟩) (fun _ _ h => h)
      hlocked
    intro actor' name' direction' hop
    cases hop
    exact h

abbrev PolicyPool := Pool PolicyOp ConsoleState DbInput

abbrev PolicyEvent := PoolEvent PolicyOp DbInput

abbrev policyStep : PolicyPool → PolicyEvent → PolicyPool :=
  Pool.step (fun _ => ()) PolicyOp.code

/-- The event does what its operation does. -/
abbrev PolicyPool.Does (pool : PolicyPool) (e : PolicyEvent) : Prop :=
  Pool.Does (fun _ => ()) PolicyOp.code PolicyOp.Does pool e

/-- In every interleaving the calls do what their operations do, and the histories stay
mirrored. -/
theorem mirrored_run {start : ConsoleState} (hstart : Mirrored start)
    (events : List (PolicyEvent)) :
    Guarded PolicyPool.Does policyStep { shared := start } events ∧
      Mirrored (run policyStep { shared := start } events).shared := by
  have hcode : ∀ (op : PolicyOp) s0, Prog.Ensures Follows (fun s _ => Mirrored s ∧ True) op.Does
      Any s0 op.code := fun op s0 =>
    Prog.ensures_of_ok (fun _ _ h => h.1) (ensures_discard (ensures_prog op s0))
  have hdoes : ∀ (op : PolicyOp) s s', op.Does s s' → Follows s s' := fun _ _ _ h => h.1.1
  refine run_rely Follows.refl (fun _ _ _ => Follows.trans) hdoes hcode
    (fun _ _ _ hinv h => h.1.2 hinv) hstart ?_
  exact guarded_mono (fun _ _ _ _ _ _ => trivial) (guarded_true _ _ events)

/-! ## Errors -/

/-- An operation that returns an error has appended no version. -/
theorem keepsOnError_prog (op : PolicyOp) : KeepsOnError ConsoleState.versions op.prog := by
  have hlock : ∀ {A : Type} {body : ServiceProg A},
      KeepsOnError ConsoleState.versions body →
      KeepsOnError ConsoleState.versions (withPolicyReferenceLock body) :=
    fun hbody => keepsOnError_past (readOnly_mapError (readOnly_query _)) fun _ => hbody
  cases op with
  | create actor req =>
    refine keepsOnError_past (readOnly_ofExcept _) fun _ => ?_
    refine keepsOnError_past (readOnly_ofExcept _) fun _ => ?_
    exact keepsOnError_mapError (keepsOnError_transaction _ _)
  | update actor name req =>
    refine hlock (keepsOnError_past (readOnly_ofExcept _) fun _ => ?_)
    refine keepsOnError_past (readOnly_editablePolicy _ _) fun p => ?_
    refine keepsOnError_past (readOnly_refuseIf _ _) fun _ => ?_
    refine keepsOnError_past (readOnly_mapError (readOnly_query _)) fun versions => ?_
    exact keepsOnError_mapError (keepsOnError_transaction _ _)
  | rollback actor name direction =>
    refine keepsOnError_map _ (hlock ?_)
    refine keepsOnError_past (readOnly_refuseIf _ _) fun _ => ?_
    refine keepsOnError_past (readOnly_editablePolicy _ _) fun p => ?_
    refine keepsOnError_past (readOnly_refuseIf _ _) fun _ => ?_
    refine keepsOnError_past (readOnly_mapError (readOnly_query _)) fun versions => ?_
    refine keepsOnError_past (readOnly_refuseIf _ _) fun _ => ?_
    split
    · exact keepsOnError_fail _
    · exact keepsOnError_map _ (keepsOnError_mapError (keepsOnError_transaction _ _))
  | delete actor name =>
    refine hlock (keepsOnError_past (readOnly_mapError readOnly_within_query) fun p => ?_)
    refine keepsOnError_past (readOnly_ofExcept _) fun _ => ?_
    refine keepsOnError_past (readOnly_mapError (readOnly_referencingGroups _)) fun refs => ?_
    refine keepsOnError_past (readOnly_refuseIf _ _) fun _ => ?_
    exact keepsOnError_mapError (keepsOnError_execute _)

end

/-- The error is not that of a missing snapshot. -/
def NotGone (e : ServiceError) : Prop :=
  ∀ msg, e ≠ .gone msg

theorem notGone_notFoundOr (context : String) (err : DbError) :
    NotGone (notFoundOr context err) := by
  intro msg
  unfold notFoundOr
  split <;> exact ServiceError.noConfusion

theorem notGone_updateError (err : DbError) : NotGone (updateError err) := by
  intro msg
  unfold updateError
  split <;> exact ServiceError.noConfusion

theorem notGone_authorizeOwner {actor : Principal} {owner : Owner} {e : ServiceError}
    (h : actor.authorizeOwner owner = .error e) : NotGone e := by
  unfold Principal.authorizeOwner at h
  have he : e = .forbidden := by
    split at h
    · cases h
    · split at h
      · cases h
      · exact (Except.error.inj h).symm
    · exact (Except.error.inj h).symm
  intro msg
  rw [he]
  exact ServiceError.noConfusion

/-- With a history without gaps, the version before the newest is there. -/
theorem find_previous (h : Numbered versions n) (htarget : ¬ n - 1 < 1) :
    ∃ v ∈ versions, v.row.version = n - 1 ∧
      (newestFirst versions).find? (fun v => v.row.version = n - 1) = some v := by
  obtain ⟨w, hw, hversion⟩ := (h.mem (n - 1)).mpr ⟨by omega, by omega⟩
  have hsome : ((newestFirst versions).find? fun v => v.row.version = n - 1).isSome := by
    rw [List.find?_isSome]
    exact ⟨w, mem_newestFirst.mpr hw, by simpa using hversion⟩
  obtain ⟨v, hv⟩ := Option.isSome_iff_exists.mp hsome
  refine ⟨v, mem_newestFirst.mp (List.mem_of_find?_eq_some hv), ?_, hv⟩
  simpa using List.find?_some hv

/-- No error of the program is that of a missing snapshot. -/
abbrev NeverGone {A : Type} (s0 : ConsoleState) (p : ServiceProg A) : Prop :=
  Fallible.Ensures Any (fun s _ => Mirrored s) Any Any
    (fun _ e => NotGone e) s0 p

/-- Reads that fail with an error of the database. -/
theorem neverGone_past {p : RepoProg A} {g : DbError → ServiceError} (hp : p.ReadOnly)
    (hg : ∀ err, NotGone (g err)) (hf : ∀ s a, NeverGone s (f a)) (s0 : ConsoleState) :
    NeverGone s0 (p.mapError g >>= f) := by
  have hreads : Fallible.Ensures Any (fun s _ => Mirrored s) Any Any Any s0 p :=
    ensures_readOnly (P := fun _ => True) (fun _ => trivial) (fun _ _ _ _ => trivial) hp trivial
  exact ensures_try (ensures_mapError
    (Fallible.ensures_mono hreads (fun _ _ h => h) fun _ e _ => hg e)) fun s a _ => hf s a

section

variable [GoUnicode] [Apimachinery]

theorem ensures_notGone (actor : Principal) (name : String) (direction : Direction)
    (s0 : ConsoleState) : NeverGone s0 (lockedRollback actor name direction) := by
  refine neverGone_past (readOnly_query _) (fun _ _ => ServiceError.noConfusion) (fun s1 _ => ?_) s0
  refine ensures_guard (fun _ => ?_) fun _ _ => ServiceError.noConfusion
  have heditable : ∀ s, NeverGone s (editablePolicy actor name) := by
    refine neverGone_past readOnly_within_query (notGone_notFoundOr _)
      fun s p => ensures_check (fun _ _ => ?_) fun _ h => notGone_authorizeOwner h
    refine neverGone_past (readOnly_referencedByOtherTenant p)
      (fun _ _ => ServiceError.noConfusion) (fun s' blocked => ?_) s
    exact ensures_guard (fun _ => trivial) fun _ _ => ServiceError.noConfusion
  refine ensures_try (heditable s1) fun s2 p _ => ?_
  refine ensures_guard (fun _ => ?_) fun _ _ => ServiceError.noConfusion
  -- From here on the versions are those of a state whose histories are mirrored.
  have hlist : Fallible.Ensures Any (fun s _ => Mirrored s) Any
      (fun _ versions => ∃ s, Mirrored s ∧ versions = newestFirst (versionsOf s p.id))
      (fun _ e => NotGone e) s2 ((listVersions p.id).mapError (wrapped "list versions: ")) := by
    refine ensures_mapError (ensures_query (fun _ => trivial) ?_
      fun _ _ _ _ _ _ => ServiceError.noConfusion)
    intro s i versions _ hmirrored hversions
    cases hversions
    exact ⟨s, hmirrored, rfl⟩
  refine ensures_try hlist ?_
  intro s3 versions ⟨s, hmirrored, hversions⟩
  obtain ⟨n, hn⟩ := hmirrored.numbered p.id
  unfold restore
  rw [hversions, currentVersion_newestFirst hn]
  refine ensures_guard (fun htarget => ?_) fun _ _ => ServiceError.noConfusion
  obtain ⟨v, _, _, hfind⟩ := find_previous hn htarget
  rw [hfind]
  refine ensures_try (ensures_mapError (ensures_updateWithVersion
    (fun _ => trivial) (fun _ _ _ _ _ _ _ _ _ => ⟨trivial, trivial⟩)
    fun _ _ e _ _ => notGone_updateError e)) fun _ _ (_ : True) => trivial

end

/-! ## Two rollbacks in a row -/

/-- The policy has the content that it had. -/
def Restored (name : String) (s s' : ConsoleState) : Prop :=
  ∃ p ∈ s.policies.rows, p.row.name = name ∧ ∃ p' ∈ s'.policies.rows,
    p'.id = p.id ∧ p'.row.rego = p.row.rego ∧ p'.row.matching = p.row.matching ∧
      p'.row.enforcementMode = p.row.enforcementMode ∧ p'.row.description = p.row.description

/-- Nobody has written the policy. -/
def Untouched (name : String) (s s' : ConsoleState) : Prop :=
  ∀ p ∈ s.policies.rows, p.row.name = name → p ∈ s'.policies.rows

/-- Two rollbacks in a row restore what a rollback writes. -/
theorem two_rollbacks (h : Mirrored s) {name : String} (hfirst : RolledBack name s s')
    {t t' : ConsoleState} (hfollows : Follows s' t) (huntouched : Untouched name s' t)
    (hsecond : RolledBack name t t') : Restored name s t' := by
  obtain ⟨p, v, w, n, elapsed, hp, hname, hn, hv, hversion, hpolicies, hversions, hw⟩ := hfirst
  obtain ⟨p', v', w', n', elapsed', hp', hname', hn', hv', hversion', hpolicies', _, _⟩ := hsecond
  -- Both rollbacks are of the same row.
  have htouched : touched (s.policies.now elapsed) (rollbackFields v.row).apply p ∈
      s'.policies.rows := by
    rw [hpolicies]
    exact mem_rows_update.mpr ⟨p, hp, (if_pos rfl).symm⟩
  have hkept := huntouched _ htouched hname
  have hkey' : name ∈ policyKeys p'.row := by simp [policyKeys, hname']
  have hkey : name ∈ policyKeys
      (touched (s.policies.now elapsed) (rollbackFields v.row).apply p).row := by
    simp [policyKeys, touched, PolicyFields.apply, hname]
  have hsame := t.policies.eq_of_key hp' hkept hkey' hkey
  have hid : p'.id = p.id := by
    rw [hsame]
    rfl
  have hof : versionsOf t p'.id = versionsOf s p.id ++ [w] := by
    have hlast := hfollows.versions _ htouched hkept
    rw [hid]
    exact hlast.trans hversions
  -- The second one goes back to the version that was the newest before the first.
  have hcount : n' = n + 1 := by
    rw [hof] at hn'
    exact hn'.unique (hn.append hw)
  have hold : v' ∈ versionsOf s p.id := by
    rw [hof] at hv'
    rcases List.mem_append.mp hv' with hin | hlast
    · exact hin
    · rw [List.mem_singleton.mp hlast] at hversion'
      omega
  obtain ⟨m, _, hm, hnewest⟩ := h.newest p hp
  have hmirrors := hnewest v' hold (by rw [hversion', hcount, hm.unique hn]; rfl)
  refine ⟨p, hp, hname, touched (t.policies.now elapsed')
    (rollbackFields v'.row).apply p', ?_, hid, hmirrors.rego, hmirrors.matching,
    hmirrors.enforcementMode, hmirrors.description⟩
  rw [hpolicies']
  exact mem_rows_update.mpr ⟨p', hp', (if_pos rfl).symm⟩

section

variable [GoUnicode] [Apimachinery]

theorem ensures_rolledBack {s : ConsoleState} (h : Mirrored s) (actor : Principal) (name : String) :
    Alone (fun s' _ => RolledBack name s s' ∧ Mirrored s') Any s
      (lockedRollback actor name .prev) := by
  refine ensures_past (P := fun s' => s' = s) (fun _ => trivial) stable_alone
    (fun _ _ _ => trivial) (readOnly_mapError (readOnly_query _)) rfl
    fun s1 _ (hs1 : s1 = s) => ?_
  have hrollback : Fallible.Ensures (fun s s' => s' = s) Any _ _ _ s1 _ :=
    ensures_rollback (R := fun s s' => s' = s) (K := fun s' => s' = s)
      (fun _ _ heq => heq ▸ .refl _) stable_alone (fun _ _ heq _ => heq ▸ h) actor name .prev hs1
  refine Prog.ensures_weaken (fun _ _ _ => trivial) (fun _ _ _ => trivial) (fun s' r hr => ?_)
    hrollback
  cases r with
  | error e => exact trivial
  | ok view =>
    obtain ⟨s2, heq, hrolled⟩ := hr
    exact heq ▸ hrolled

end

/-! ## The history -/

section

variable [GoUnicode] [Apimachinery] [NameValidation] [RegoCompiler]

/-- The state occurs in an interleaving of operations. -/
def Reachable (start s : ConsoleState) : Prop :=
  ∃ events, (run policyStep { shared := start } events).shared = s

theorem Reachable.mirrored {start s : ConsoleState} (hstart : Mirrored start)
    (h : Reachable start s) : Mirrored s := by
  obtain ⟨events, heq⟩ := h
  rw [← heq]
  exact (mirrored_run hstart events).2

/-- The event is the write of a rollback of the policy to its previous version. -/
def RollsBack (name : String) (pool : PolicyPool) (e : PolicyEvent) : Prop :=
  (policyStep pool e).shared ≠ pool.shared ∧
    ∃ k i t actor, e = .advance k i ∧ pool.threads[k]? = some t ∧
      t.op = .rollback actor name .prev

theorem RollsBack.rolledBack {name : String} {pool : PolicyPool} {e : PolicyEvent}
    (h : RollsBack name pool e) (hdoes : PolicyPool.Does pool e) :
    RolledBack name pool.shared (policyStep pool e).shared := by
  obtain ⟨hchange, k, i, t, actor, he, ht, hop⟩ := h
  obtain ⟨k', i', t', he', ht', hstep⟩ := hdoes.resolve_left hchange
  rw [he] at he'
  cases he'
  rw [ht] at ht'
  cases ht'
  exact (hstep.2 actor name .prev hop).2.resolve_left hchange

theorem follows_run {pool : PolicyPool} {events : List (PolicyEvent)}
    (hguard : Guarded PolicyPool.Does policyStep pool events) :
    Follows pool.shared (run policyStep pool events).shared := by
  refine run_invariant (I := fun pool' : PolicyPool => Follows pool.shared pool'.shared) ?_
    (.refl _) hguard
  intro pool' e hfollows hdoes
  rcases hdoes with hsame | ⟨_, _, _, _, _, hstep⟩
  · rw [hsame]
    exact hfollows
  · exact hfollows.trans hstep.1.1

/-- In every interleaving of the operations on policies, with any failures:

* the versions of a policy are `1..n`, and the newest one holds the content of the row;
* an operation that returns an error has appended no version;
* a rollback does not fail because of a missing snapshot;
* two rollbacks in a row restore the content that the policy had before, when each runs alone
  and when other operations run at the same time that do not write the policy in between. -/
theorem history_mirrors_policy {start : ConsoleState} (hstart : Mirrored start) :
    (∀ s, Reachable start s → ∀ p ∈ s.policies.rows, ∃ n, 1 ≤ n ∧ Numbered (versionsOf s p.id) n ∧
        ∀ v ∈ versionsOf s p.id, v.row.version = n → Mirrors v.row p.row) ∧
      (∀ (op : PolicyOp) calls e, Prog.Trace op.prog calls (.error e) →
        ∀ call ∈ calls, call.2.versions = call.1.versions) ∧
      (∀ actor name calls e, Prog.Trace (lockedRollback actor name .prev) calls (.error e) →
        (∀ call ∈ calls, Reachable start call.1) → ∀ msg, e ≠ .gone msg) ∧
      (∀ actor actor' name s s' s'' view view', Reachable start s →
        Prog.Runs (lockedRollback actor name .prev) s s' (.ok view) →
        Prog.Runs (lockedRollback actor' name .prev) s' s'' (.ok view') → Restored name s s'') ∧
      ∀ name before e between e',
        let first := run policyStep { shared := start } before
        let second := run policyStep (policyStep first e) between
        RollsBack name first e → RollsBack name second e' →
        Untouched name (policyStep first e).shared second.shared →
        Restored name first.shared (policyStep second e').shared := by
  refine ⟨fun s hs => (hs.mirrored hstart).newest, fun op => keepsOnError_prog op, ?_, ?_, ?_⟩
  · intro actor name calls e htrace hcalls
    obtain ⟨_, hnotGone⟩ := Prog.Ensures.trace htrace
      (fun call hcall _ => (hcalls call hcall).mirrored hstart) start
      (ensures_notGone actor name .prev start)
    exact hnotGone
  · intro actor actor' name s s' s'' view view' hs hfirst hsecond
    have hmirrored := hs.mirrored hstart
    obtain ⟨hrolled, hmirrored'⟩ :=
      Prog.Ensures.runs hfirst (ensures_rolledBack hmirrored actor name)
    have hrolled' := Prog.Ensures.runs hsecond (ensures_rolledBack hmirrored' actor' name)
    exact two_rollbacks hmirrored hrolled (.refl _) (fun _ hp _ => hp) hrolled'.1
  · intro name before e between e' first second hfirst hsecond huntouched
    have hguard := (mirrored_run hstart (before ++ e :: (between ++ [e']))).1
    obtain ⟨hdoes, hrest⟩ := (guarded_append.mp hguard).2
    obtain ⟨hbetween, hdoes', _⟩ := guarded_append.mp hrest
    exact two_rollbacks (mirrored_run hstart before).2 (hfirst.rolledBack hdoes)
      (follows_run hbetween) huntouched (hsecond.rolledBack hdoes')

end

attribute [local instance] GoUnicode.ascii Apimachinery.basic NameValidation.lenient
  RegoCompiler.lenient

theorem mirrored_empty : Mirrored .empty :=
  ⟨fun _ hp => absurd hp List.not_mem_nil, fun _ => ⟨0, List.Perm.refl _⟩,
    fun _ hv => absurd hv List.not_mem_nil, fun _ hv => absurd hv List.not_mem_nil⟩

/-- The policy is created and updated, the update first in conflict with another one, and then
rolled back. -/
def createUpdateRollback : List (PolicyEvent) :=
  [.spawn (.create .systemAdmin (policyRequest "package a")), .advance 0 [],
    .spawn (.update .systemAdmin "p" (policyRequest "package b")), .advance 1 [], .advance 1 [],
    .spawn (.update .systemAdmin "p" (policyRequest "package c")), .advance 2 [], .advance 2 [],
    .advance 2 [], .advance 2 [], .advance 1 [], .advance 1 [],
    .spawn (.rollback .systemAdmin "p" .prev), .advance 3 [], .advance 3 [], .advance 3 [],
    .advance 3 []]

def rolledBack : ConsoleState :=
  (run policyStep { shared := .empty } createUpdateRollback).shared

theorem history_mirrors_policy_conflict :
    rolledBack.versions.rows.map (fun v => (v.row.version, v.row.rego)) =
        [(1, "package a"), (2, "package c"), (3, "package a")] ∧
      ∀ p ∈ rolledBack.policies.rows, ∃ n, 1 ≤ n ∧ Numbered (versionsOf rolledBack p.id) n ∧
        ∀ v ∈ versionsOf rolledBack p.id, v.row.version = n → Mirrors v.row p.row :=
  ⟨by decide +kernel, (history_mirrors_policy mirrored_empty).1 rolledBack
    ⟨createUpdateRollback, rfl⟩⟩

end KubeSentry.Console.PolicyService
