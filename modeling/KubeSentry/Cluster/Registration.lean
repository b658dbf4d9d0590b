import KubeSentry.Cluster.Provenance
import Mathlib.Data.List.Infix

/-!
# Registration tokens and cluster UIDs

A registration token should work once, and no two clusters should have the same
UID.  `Register` compares the token and the UIDs with rows that it has read
before, and then writes the row back without a condition, so two calls that
overlap can both pass.  `Exclusive` asks for what is missing: between the first
read of a `Register` call and its write, no other `Register` call succeeds.
Reissues may come at any time.

Tokens are compared by their hashes.  The proof assumes that the hash of a token
is not empty, and that no two tokens that are handed out have the same hash.

`Registry` is the invariant: a hash on a row has been issued and not been used,
and different rows have different hashes.  `TokenFlow` is what leads from any
state to a later one: a row keeps its hash, loses it, or gets one that was not
issued before.
-/

namespace KubeSentry.Cluster

open GoLib Database Gateway

/-! ## Tokens in the history -/

section

variable [Digest]

def HubEvent.issuedHash? : HubEvent → Option String
  | .issued token => some (hashToken token)
  | _ => none

def HubEvent.registeredHash? : HubEvent → Option String
  | .registered token => some (hashToken token)
  | _ => none

variable (s : HubState)

/-- The hashes of the tokens that were handed out. -/
def issuedHashes : List String :=
  s.history.filterMap HubEvent.issuedHash?

/-- The hashes of the tokens with which a `Register` call has succeeded. -/
def registeredHashes : List String :=
  s.history.filterMap HubEvent.registeredHash?

theorem issuedHashes_issueToken (id : Int) (token : String) :
    issuedHashes (s.issueToken id token) = issuedHashes s ++ [hashToken token] := by
  simp only [issuedHashes, HubState.issueToken, HubState.updates, HubState.record,
    List.filterMap_append, List.append_assoc]
  rfl

theorem registeredHashes_issueToken (id : Int) (token : String) :
    registeredHashes (s.issueToken id token) = registeredHashes s := by
  simp only [registeredHashes, HubState.issueToken, HubState.updates, HubState.record,
    List.filterMap_append, List.append_assoc]
  exact List.append_nil _

/-- A registration, seen from the rows and the history. -/
theorem registration_rows {s1 s s' : HubState} {req : RegisterRequest} {cl : ClusterRecord}
    {token : String} (hread : Lasting s1 s) (hrow : s1.clusters.getByName req.clusterName = some cl)
    (h : s.saveRegistration req cl token = some s') :
    (∀ c' ∈ s'.clusters.rows, c' = registered req cl token ∨
      (c' ∈ s.clusters.rows ∧ c'.id ≠ cl.id)) ∧
      issuedHashes s' = issuedHashes s ∧
      registeredHashes s' = registeredHashes s ++ [hashToken req.registrationToken] := by
  obtain ⟨hbyID, _, hhistory⟩ := saveRegistration_spec hread hrow h
  refine ⟨fun c' hc' => ?_, ?_, ?_⟩
  · have hfound := ClusterTable.byID_of_mem hc'
    rw [hbyID] at hfound
    by_cases hid : c'.id = cl.id
    · rw [if_pos hid] at hfound
      exact .inl (Option.some.inj hfound).symm
    · rw [if_neg hid] at hfound
      exact .inr ⟨(ClusterTable.mem_of_byID hfound).1, hid⟩
  · rw [issuedHashes, hhistory, List.filterMap_append]
    exact List.append_nil _
  · rw [registeredHashes, hhistory, List.filterMap_append]
    rfl

/-! ## The property and the condition -/

/-- No two clusters have the same UID. -/
def UniqueUIDs : Prop :=
  ∀ c ∈ s.clusters.rows, ∀ c' ∈ s.clusters.rows, c.clusterUID ≠ "" →
    c.clusterUID = c'.clusterUID → c = c'

instance (s : HubState) : Decidable (UniqueUIDs s) :=
  inferInstanceAs (Decidable (∀ c ∈ s.clusters.rows, ∀ c' ∈ s.clusters.rows, _))

/-- Every token has made at most one `Register` call succeed. -/
def OneTimeTokens : Prop :=
  ∀ token, s.history.count (.registered token) ≤ 1

/-- What `Register` decides from: the UIDs, and which calls have succeeded. -/
def registrationView : List (Int × String) × List String :=
  (s.clusters.rows.map fun c => (c.id, c.clusterUID), registeredHashes s)

end

/-- The operations of a registration. -/
inductive RegistrationOp where
  | register (req : RegisterRequest)
  | reissueToken (systemAdmin : Bool) (name : String)
  deriving DecidableEq

abbrev RegistrationPool := Pool RegistrationOp HubState CallInput

namespace RegistrationOp

variable [Digest] [GoUnicode]

def code : RegistrationOp → HubProg Unit
  | .register req => do
    let _ ← Cluster.register req
    pure ()
  | .reissueToken systemAdmin name => do
    let _ ← Cluster.reissueToken systemAdmin name
    pure ()

omit [GoUnicode] in
/-- The writes of an operation. -/
def Write (R : HubState → HubState → Prop) : RegistrationOp → HubState → HubState → Prop
  | .register req => RegisterWrite R req
  | .reissueToken _ name => ReissueWrite R name

theorem code_ensures (R : HubState → HubState → Prop) (op : RegistrationOp) (s0 : HubState) :
    HubEnsures R (op.Write R) Any s0 op.code := by
  cases op with
  | register req =>
    exact Prog.ensures_bind (Prog.ensures_mono (fun _ _ _ => trivial) (register_ensures R req s0))
  | reissueToken systemAdmin name =>
    exact Prog.ensures_bind (reissueToken_ensures R systemAdmin name s0)

end RegistrationOp

section

variable [Digest] [GoUnicode]

/-- One event of an interleaved run, with the view tracked. -/
def registrationStep : RegistrationPool → PoolEvent RegistrationOp CallInput → RegistrationPool :=
  Pool.step registrationView RegistrationOp.code

/-- The condition on a step: a `Register` call that succeeds has seen no other one
succeed since its first read.  `newToken` is what `NewToken` is for: a token that
is handed out is a new one, and so is its hash. -/
structure Exclusive (pool : RegistrationPool) (e : PoolEvent RegistrationOp CallInput) : Prop where
  fresh : ∀ k i t, e = .advance k i → pool.threads[k]? = some t →
    registrationView (registrationStep pool e).shared ≠ registrationView pool.shared →
    t.Fresh registrationView pool.shared
  newToken : (issuedHashes (registrationStep pool e).shared).Nodup

end

/-! ## What every write does to the tokens -/

section

variable [Digest]

/-- What leads from a state to a later one, whoever writes: a row keeps its hash,
loses it, or gets one that had not been issued. -/
structure TokenFlow (s s' : HubState) : Prop where
  lasting : Lasting s s'
  issued : issuedHashes s <+: issuedHashes s'
  rows : (issuedHashes s').Nodup → ∀ c' ∈ s'.clusters.rows, c'.regTokenHash = "" ∨
    (∃ c ∈ s.clusters.rows, c.id = c'.id ∧ c.regTokenHash = c'.regTokenHash) ∨
    c'.regTokenHash ∉ issuedHashes s

theorem TokenFlow.refl (s : HubState) : TokenFlow s s :=
  ⟨Lasting.refl s, List.prefix_rfl, fun _ c hc => .inr (.inl ⟨c, hc, rfl, rfl⟩)⟩

theorem TokenFlow.trans (s1 s2 s3 : HubState) (h1 : TokenFlow s1 s2) (h2 : TokenFlow s2 s3) :
    TokenFlow s1 s3 := by
  refine ⟨Lasting.trans _ _ _ h1.lasting h2.lasting, h1.issued.trans h2.issued,
    fun hnodup c hc => ?_⟩
  rcases h2.rows hnodup c hc with hnone | ⟨d, hd, hid, hhash⟩ | hnew
  · exact .inl hnone
  · rcases h1.rows (hnodup.sublist h2.issued.sublist) d hd with hnone | ⟨b, hb, hbid, hbhash⟩ | hnew
    · exact .inl (hhash ▸ hnone)
    · exact .inr (.inl ⟨b, hb, hbid.trans hid, hbhash.trans hhash⟩)
    · exact .inr (.inr (hhash ▸ hnew))
  · exact .inr (.inr fun hold => hnew (h1.issued.subset hold))

variable {s s1 s' : HubState} {token : String} {req : RegisterRequest} {cl : ClusterRecord}

/-- A row after a reissue: the one that was written, or an old one. -/
theorem mem_issueToken {id : Int} {c' : ClusterRecord}
    (hc' : c' ∈ (s.issueToken id token).clusters.rows) :
    ∃ c ∈ s.clusters.rows, c.id = c'.id ∧ c.clusterUID = c'.clusterUID ∧
      ((c'.id = id ∧ c'.regTokenHash = hashToken token) ∨ (c'.id ≠ id ∧ c' = c)) := by
  obtain ⟨c, hc, heq⟩ := ClusterTable.mem_updates.mp hc'
  refine ⟨c, hc, ?_⟩
  by_cases hid : c.id = id
  · rw [if_pos hid] at heq
    subst heq
    exact ⟨rfl, rfl, .inl ⟨hid, rfl⟩⟩
  · rw [if_neg hid] at heq
    subst heq
    exact ⟨rfl, rfl, .inr ⟨hid, rfl⟩⟩

theorem issueToken_flow (s : HubState) (id : Int) (token : String) :
    TokenFlow s (s.issueToken id token) := by
  refine ⟨Lasting.trans _ _ _ (Lasting.updates s id _) (Lasting.record _ _), ?_,
    fun hnodup c' hc' => ?_⟩
  · rw [issuedHashes_issueToken]
    exact List.prefix_append _ _
  · rw [issuedHashes_issueToken] at hnodup
    obtain ⟨c, hc, hid, _, ⟨_, hhash⟩ | ⟨_, rfl⟩⟩ := mem_issueToken hc'
    · refine .inr (.inr fun hold => ?_)
      exact List.disjoint_of_nodup_append hnodup (hhash ▸ hold) (List.mem_singleton_self _)
    · exact .inr (.inl ⟨_, hc, rfl, rfl⟩)

theorem registration_flow (hread : TokenFlow s1 s)
    (hrow : s1.clusters.getByName req.clusterName = some cl)
    (h : s.saveRegistration req cl token = some s') : TokenFlow s s' := by
  obtain ⟨hrows, hissued, _⟩ := registration_rows hread.lasting hrow h
  refine ⟨Lasting.saveRegistration hread.lasting hrow h, hissued ▸ List.prefix_rfl, ?_⟩
  intro _ c' hc'
  rcases hrows c' hc' with rfl | ⟨hmem, _⟩
  · exact .inl rfl
  · exact .inr (.inl ⟨c', hmem, rfl, rfl⟩)

theorem RegistrationOp.flow (op : RegistrationOp) (h : op.Write TokenFlow s s') :
    TokenFlow s s' := by
  cases op with
  | register req =>
    cases h with
    | saved _ hread hlist hrow _ _ _ _ _ heq =>
      exact registration_flow (TokenFlow.trans _ _ _ hread hlist) hrow heq
  | reissueToken _ name =>
    cases h with
    | issued _ _ _ heq =>
      subst heq
      exact issueToken_flow s _ _

/-! ## The invariant -/

/-- Hashes that were used are gone from the rows, hashes on rows were issued, and
no two rows have the same hash or the same UID. -/
structure Registry (s : HubState) : Prop where
  issuedOnce : (issuedHashes s).Nodup
  usedOnce : (registeredHashes s).Nodup
  usedNonempty : "" ∉ registeredHashes s
  usedIssued : ∀ h ∈ registeredHashes s, h ∈ issuedHashes s
  usedGone : ∀ c ∈ s.clusters.rows, c.regTokenHash ∉ registeredHashes s
  rowIssued : ∀ c ∈ s.clusters.rows, c.regTokenHash ≠ "" → c.regTokenHash ∈ issuedHashes s
  rowOwn : ∀ c ∈ s.clusters.rows, ∀ c' ∈ s.clusters.rows, c.regTokenHash ≠ "" →
    c.regTokenHash = c'.regTokenHash → c.id = c'.id
  uids : UniqueUIDs s

theorem oneTimeTokens_of_nodup (h : (registeredHashes s).Nodup) : OneTimeTokens s := by
  intro token
  rw [registeredHashes] at h
  generalize s.history = history at h ⊢
  induction history with
  | nil => exact Nat.zero_le 1
  | cons e history ih =>
    rw [List.count_cons]
    by_cases he : e = .registered token
    · subst he
      obtain ⟨hnew, _⟩ := List.nodup_cons.mp h
      have hnot : HubEvent.registered token ∉ history := fun hmem =>
        hnew (List.mem_filterMap.mpr ⟨_, hmem, rfl⟩)
      rw [List.count_eq_zero.mpr hnot]
      simp
    · have htail := ih (h.sublist ((List.sublist_cons_self e history).filterMap _))
      simpa [he] using htail

/-- A reissue keeps the registry, when the hash is a new one. -/
theorem Registry.issueToken (h : Registry s) {id : Int}
    (hnodup : (issuedHashes (s.issueToken id token)).Nodup) : Registry (s.issueToken id token) := by
  have hissued := issuedHashes_issueToken s id token
  have hregistered := registeredHashes_issueToken s id token
  have hnew : hashToken token ∉ issuedHashes s := by
    rw [hissued] at hnodup
    exact fun hold => List.disjoint_of_nodup_append hnodup hold (List.mem_singleton_self _)
  have hold : ∀ h ∈ issuedHashes s, h ∈ issuedHashes (s.issueToken id token) := by
    rw [hissued]
    exact fun _ => List.mem_append_left _
  refine ⟨hnodup, ?_, ?_, ?_, fun c hc => ?_, fun c hc hne => ?_, ?_, ?_⟩
  · rw [hregistered]
    exact h.usedOnce
  · rw [hregistered]
    exact h.usedNonempty
  · rw [hregistered]
    exact fun hash hmem => hold hash (h.usedIssued hash hmem)
  · rw [hregistered]
    obtain ⟨d, hd, _, _, ⟨_, hhash⟩ | ⟨_, rfl⟩⟩ := mem_issueToken hc
    · rw [hhash]
      exact fun hused => hnew (h.usedIssued _ hused)
    · exact h.usedGone _ hd
  · obtain ⟨d, hd, _, _, ⟨_, hhash⟩ | ⟨_, rfl⟩⟩ := mem_issueToken hc
    · rw [hissued, hhash]
      exact List.mem_append_right _ (List.mem_singleton_self _)
    · exact hold _ (h.rowIssued _ hd hne)
  · -- The written row has the new hash, which no other row can have.
    intro c hc c' hc' hne heq
    obtain ⟨d, hd, _, _, ⟨hid, hhash⟩ | ⟨_, rfl⟩⟩ := mem_issueToken hc <;>
      obtain ⟨d', hd', _, _, ⟨hid', hhash'⟩ | ⟨_, rfl⟩⟩ := mem_issueToken hc'
    · exact hid.trans hid'.symm
    · exact absurd (h.rowIssued _ hd' (heq ▸ hne)) (by rw [← heq, hhash]; exact hnew)
    · exact absurd (h.rowIssued _ hd hne) (by rw [heq, hhash']; exact hnew)
    · exact h.rowOwn _ hd _ hd' hne heq
  · intro c hc c' hc' hne heq
    obtain ⟨d, hd, hid, huid, _⟩ := mem_issueToken hc
    obtain ⟨d', hd', hid', huid', _⟩ := mem_issueToken hc'
    have hsame := h.uids d hd d' hd' (huid ▸ hne) (huid.trans (heq.trans huid'.symm))
    have hids : c.id = c'.id := by rw [← hid, ← hid', hsame]
    have hfound := ClusterTable.byID_of_mem hc
    rw [hids, ClusterTable.byID_of_mem hc'] at hfound
    exact (Option.some.inj hfound).symm

/-- What a `Register` call may count on that has seen no other one succeed. -/
abbrev Settled : HubState → HubState → Prop :=
  Unchanged registrationView TokenFlow Registry

/-- A hash that was on a row when it was read, and is on a row now, is on the same
row. -/
theorem Settled.hash_stays (h : Settled s1 s) (hreg : Registry s1) (hcl : cl ∈ s1.clusters.rows)
    (hne : cl.regTokenHash ≠ "") {c : ClusterRecord} (hc : c ∈ s.clusters.rows)
    (heq : c.regTokenHash = cl.regTokenHash) : c.id = cl.id := by
  rcases h.base.rows h.known.issuedOnce c hc with hnone | ⟨d, hd, hid, hhash⟩ | hnew
  · exact absurd (heq.symm.trans hnone) hne
  · rw [← hid]
    exact hreg.rowOwn d hd cl hcl (by rw [hhash, heq]; exact hne) (hhash.trans heq)
  · rw [heq] at hnew
    exact absurd (hreg.rowIssued cl hcl hne) hnew

/-- A UID that was free for a cluster when the rows were listed is still free. -/
theorem Settled.uid_free {s2 : HubState} (hread : Settled s1 s2) (hlist : Settled s2 s)
    (hrow : s1.clusters.getByName req.clusterName = some cl)
    (hothers : ∀ other ∈ s2.clusters.rows, other.name ≠ req.clusterName →
      other.clusterUID ≠ req.clusterUID) {c : ClusterRecord} (hc : c ∈ s.clusters.rows)
    (hid : c.id ≠ cl.id) : c.clusterUID ≠ req.clusterUID := by
  have hpair : (c.id, c.clusterUID) ∈ (registrationView s2).1 := by
    rw [← hlist.view]
    exact List.mem_map_of_mem hc
  obtain ⟨other, hother, heq⟩ := List.mem_map.mp hpair
  obtain ⟨hid', huid⟩ := Prod.mk.inj heq
  obtain ⟨cl2, hrow2, hcl2⟩ := hread.base.lasting.getByName hrow
  have hname : other.name ≠ req.clusterName := by
    intro hname
    have hfound := Table.lookup_of_mem s2.clusters.names_nodup hother
    rw [hname] at hfound
    have hsame : some cl2 = some other := hrow2.symm.trans hfound
    cases hsame
    exact hid (hid'.symm.trans hcl2)
  rw [← huid]
  exact hothers other hother hname

/-- A `Register` call that has seen no other one succeed keeps the registry. -/
theorem Registry.register (hhash : ∀ token, token ≠ "" → hashToken token ≠ "")
    (hwrite : RegisterWrite Settled req s s') : Registry s' := by
  cases hwrite with
  | @saved _ s1 s2 cl token hstart hread hlist hrow _ hcl hothers _ htoken heq =>
    have h1 : Registry s1 := hstart.known
    have h : Registry s := hlist.known
    have hsettled : Settled s1 s := Unchanged.trans TokenFlow.trans _ _ _ hread hlist
    obtain ⟨hrows, hissued, hregistered⟩ := registration_rows hsettled.base.lasting hrow heq
    have hmem := (ClusterTable.mem_of_getByName hrow).1
    have hne : cl.regTokenHash ≠ "" := hcl ▸ hhash _ htoken
    have hused : registeredHashes s = registeredHashes s1 := congrArg Prod.snd hsettled.view
    rw [← hcl] at hregistered
    refine ⟨?_, ?_, ?_, ?_, fun c hc => ?_, fun c hc hc' => ?_, ?_, ?_⟩
    · rw [hissued]
      exact h.issuedOnce
    · -- The hash was still on the row when it was read, so it had not been used.
      rw [hregistered, ← List.concat_eq_append]
      refine List.Nodup.concat ?_ h.usedOnce
      rw [hused]
      exact h1.usedGone cl hmem
    · rw [hregistered, List.mem_append, List.mem_singleton]
      exact fun hor => hor.elim h.usedNonempty fun heq => hne heq.symm
    · rw [hissued, hregistered]
      exact List.forall_mem_append.mpr ⟨h.usedIssued, List.forall_mem_singleton.mpr
        (hsettled.base.issued.subset (h1.rowIssued cl hmem hne))⟩
    · rw [hregistered, List.mem_append, List.mem_singleton]
      rcases hrows c hc with rfl | ⟨hold, hid⟩
      · exact fun hor => hor.elim h.usedNonempty fun heq => hne heq.symm
      · exact fun hor => hor.elim (h.usedGone c hold) fun heq =>
          hid (hsettled.hash_stays h1 hmem hne hold heq)
    · rw [hissued]
      rcases hrows c hc with rfl | ⟨hold, _⟩
      · exact absurd rfl hc'
      · exact h.rowIssued c hold hc'
    · intro c hc c' hc' hne' heq'
      rcases hrows c hc with rfl | ⟨hold, _⟩
      · exact absurd rfl hne'
      · rcases hrows c' hc' with rfl | ⟨hold', _⟩
        · exact absurd heq' hne'
        · exact h.rowOwn c hold c' hold' hne' heq'
    · intro c hc c' hc' hne' heq'
      have hfree := fun c (hc : c ∈ s.clusters.rows) => hread.uid_free hlist hrow hothers hc
      rcases hrows c hc with rfl | ⟨hold, hid⟩ <;> rcases hrows c' hc' with rfl | ⟨hold', hid'⟩
      · rfl
      · exact absurd heq'.symm (hfree c' hold' hid')
      · exact absurd heq' (hfree c hold hid)
      · exact h.uids c hold c' hold' hne' heq'

end

/-! ## Runs -/

section

variable [Digest] [GoUnicode]

theorem registry_step (hhash : ∀ token, token ≠ "" → hashToken token ≠ "")
    {pool : RegistrationPool} {e : PoolEvent RegistrationOp CallInput}
    (hreg : Registry pool.shared) (hallowed : Exclusive pool e)
    (hmoves : pool.Moves registrationView RegistrationOp.code
      (fun op => OrSame (op.Write TokenFlow)) (fun op => OrSame (op.Write Settled)) e) :
    Registry (registrationStep pool e).shared := by
  have hsame : (registrationStep pool e).shared = pool.shared →
      Registry (registrationStep pool e).shared := fun h => h ▸ hreg
  rcases hmoves with h | ⟨k, i, t, he, ht, hbase, hfresh⟩
  · exact hsame h
  · rcases hbase with h | hbase
    · exact hsame h
    · obtain ⟨op, _, _, _⟩ := t
      cases op with
      | register req =>
        have hview : registrationView (registrationStep pool e).shared ≠
            registrationView pool.shared := by
          cases hbase with
          | saved _ hread hlist hrow _ _ _ _ _ heq =>
            have hflow := TokenFlow.trans _ _ _ hread hlist
            obtain ⟨_, _, hused⟩ := registration_rows hflow.lasting hrow heq
            intro hview
            have hused' := (congrArg Prod.snd hview).symm.trans hused
            exact absurd hused'.symm (by simp [registrationView])
        rcases hfresh (hallowed.fresh k i _ he ht hview) with h | hwrite
        · exact hsame h
        · exact Registry.register hhash hwrite
      | reissueToken systemAdmin name =>
        cases hbase with
        | issued _ _ _ heq =>
          have hnodup := hallowed.newToken
          change Registry (pool.step registrationView RegistrationOp.code e).shared
          change (issuedHashes
            (pool.step registrationView RegistrationOp.code e).shared).Nodup at hnodup
          rw [heq] at hnodup ⊢
          exact hreg.issueToken hnodup

/-- In a run where no `Register` call succeeds between the first read of another
one and its write, every token works at most once and UIDs are unique. -/
theorem registration_once (hhash : ∀ token, token ≠ "" → hashToken token ≠ "")
    {start : HubState} (hstart : Registry start)
    {events : List (PoolEvent RegistrationOp CallInput)}
    (hguard : Guarded Exclusive registrationStep { shared := start } events) :
    OneTimeTokens (run registrationStep { shared := start } events).shared ∧
      UniqueUIDs (run registrationStep { shared := start } events).shared := by
  have hdoes : ∀ (op : RegistrationOp) s s', OrSame (op.Write TokenFlow) s s' → TokenFlow s s' := by
    intro op s s' h
    rcases h with rfl | h
    · exact TokenFlow.refl _
    · exact op.flow h
  have hrun : Guarded Any registrationStep { shared := start } events ∧
      Registry (run registrationStep { shared := start } events).shared :=
    run_tracked TokenFlow.refl TokenFlow.trans hdoes (RegistrationOp.code_ensures TokenFlow)
      (RegistrationOp.code_ensures Settled) (fun _ h => h)
      (fun _ _ hreg hallowed hmoves => ⟨registry_step hhash hreg hallowed hmoves, trivial⟩)
      hstart hguard
  exact ⟨oneTimeTokens_of_nodup hrun.2.usedOnce, hrun.2.uids⟩

/-- An operation that runs alone is exclusive, if its tokens are new. -/
theorem exclusive_alone (op : RegistrationOp) {start : HubState} {inputs : List CallInput}
    (hnew : Guarded (fun pool e => (issuedHashes (registrationStep pool e).shared).Nodup)
      registrationStep { shared := start } (.spawn op :: inputs.map (.advance 0))) :
    Guarded Exclusive registrationStep { shared := start }
      (.spawn op :: inputs.map (.advance 0)) := by
  obtain ⟨hspawn, hcalls⟩ := hnew
  refine ⟨⟨fun _ _ _ he => ?_, hspawn⟩, ?_⟩
  · cases he
  · refine guarded_solo (fun pool i hsolo hnodup => ?_) (Pool.solo_spawn start op) hcalls
    exact ⟨fun k j t he ht _ => (hsolo.advances he ht).2, hnodup⟩

end

/-! ## Calls that overlap -/

attribute [local instance] GoUnicode.ascii Digest.names

/-- Two clusters that wait for their registration, with a token each. -/
def waitingHub : HubState where
  clusters :=
    { rows := [{ id := 1, name := "prod", phase := .registering, regTokenHash := "t1" },
        { id := 2, name := "test", phase := .registering, regTokenHash := "t2" }]
      ids_nodup := by decide
      names_nodup := by decide }
  tasks := { rows := [], ids_nodup := List.nodup_nil, active_nodup := List.nodup_nil }
  history := [.issued "t1", .issued "t2"]

def registerCall (name token uid : String) : RegistrationOp :=
  .register { clusterName := name, registrationToken := token, clusterUID := uid }

/-- The inputs of a `Register` call: it reads, lists, and updates with a new
credential. -/
def registerInputs (token : String) : List CallInput :=
  [{}, {}, { newToken := .ok token }]

theorem waitingHub_registry : Registry waitingHub := by
  constructor <;> decide +kernel

/-- A lone `Register` call on the first cluster. -/
theorem registration_once_alone :
    let events := .spawn (registerCall "prod" "t1" "uid") ::
      (registerInputs "a").map (PoolEvent.advance (T := RegistrationOp) 0)
    let pool := run registrationStep { shared := waitingHub } events
    registeredHashes pool.shared = ["t1"] ∧ OneTimeTokens pool.shared ∧ UniqueUIDs pool.shared := by
  intro events pool
  have hguard := @exclusive_alone _ _ (registerCall "prod" "t1" "uid") waitingHub
    (registerInputs "a") ⟨by decide +kernel, by decide +kernel, by decide +kernel,
      by decide +kernel, trivial⟩
  refine ⟨by decide +kernel, registration_once (fun _ h => h) waitingHub_registry hguard⟩

/-- Two `Register` calls that read and list before either of them updates. -/
def overlap (first second : RegistrationOp) : List (PoolEvent RegistrationOp CallInput) :=
  [.spawn first, .spawn second, .advance 0 {}, .advance 1 {}, .advance 0 {}, .advance 1 {},
    .advance 0 { newToken := .ok "a" }, .advance 1 { newToken := .ok "b" }]

/-- One token registers twice when the calls overlap, and two clusters get one
UID. -/
theorem overlapping_registrations : ¬ OneTimeTokens (run registrationStep { shared := waitingHub }
        (overlap (registerCall "prod" "t1" "uid") (registerCall "prod" "t1" "uid"))).shared ∧
      ¬ UniqueUIDs (run registrationStep { shared := waitingHub }
        (overlap (registerCall "prod" "t1" "uid") (registerCall "test" "t2" "uid"))).shared := by
  constructor
  · intro honce
    exact absurd (honce "t1") (by decide +kernel)
  · intro huids
    exact absurd huids (by decide +kernel)

end KubeSentry.Cluster
