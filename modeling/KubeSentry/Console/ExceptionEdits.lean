import KubeSentry.Console.ExceptionService

/-!
# Edits of an applied exception

A member holds most of the spec of an exception fixed: `CheckExceptionSpecMutation` of
`internal/operator/exception_validation.go` compares six fields of the old spec and the new one.
The console has no such check.  `Update` stores the request, and the next snapshot carries it.

The check accepts exactly the specs that agree with the old one on `immutable`.  In a sequence
of updates a member may have applied any of the specs that were stored so far, so all of them
have to agree.  They do if each request leaves the fields that are fixed.
-/

namespace KubeSentry.Console.ExceptionService

open GoLib Fallible Database

/-! ## The check of the member -/

/-- Lists and selectors compare by their content. -/
def checkExceptionSpecMutation (oldSpec newSpec : PolicyExceptionSpec) : Option String :=
  if oldSpec.policyRefs ≠ newSpec.policyRefs then some "spec.policyRefs is immutable"
  else if oldSpec.policyGroupRefs ≠ newSpec.policyGroupRefs then
    some "spec.policyGroupRefs is immutable"
  else if oldSpec.allPolicies ≠ newSpec.allPolicies then some "spec.allPolicies is immutable"
  else if oldSpec.matching.namespaces ≠ newSpec.matching.namespaces then
    some "spec.match.namespaces is immutable"
  else if oldSpec.matching.namespaceSelector ≠ newSpec.matching.namespaceSelector then
    some "spec.match.namespaceSelector is immutable"
  else if oldSpec.matching.resourceSelector ≠ newSpec.matching.resourceSelector then
    some "spec.match.resourceSelector is immutable"
  else none

/-- The spec without the fields that may change. -/
def immutable (spec : PolicyExceptionSpec) : PolicyExceptionSpec :=
  { spec with duration := "", retainAfterExpiry := "", reason := "" }

theorem checkExceptionSpecMutation_eq_none_iff {old new : PolicyExceptionSpec} :
    checkExceptionSpecMutation old new = none ↔ immutable old = immutable new := by
  obtain ⟨_, _, _, ⟨_, _, _⟩, _, _, _⟩ := old
  obtain ⟨_, _, _, ⟨_, _, _⟩, _, _, _⟩ := new
  unfold checkExceptionSpecMutation immutable
  simp only [ne_eq, ite_not, PolicyExceptionSpec.mk.injEq, PolicyExceptionMatch.mk.injEq, and_true]
  split_ifs <;> simp_all

/-! ## What an update stores -/

/-- The spec that an update with the request puts in the place of a stored one. -/
def edited (name : String) (r : ExceptionInput) (spec : PolicyExceptionSpec) :
    PolicyExceptionSpec :=
  if name = defaultExceptionName then
    { spec with
      matching := { spec.matching with
        namespaces := r.matching.namespaces
        namespaceSelector := r.matching.namespaceSelector }
      reason := r.reason }
  else exceptionSpec r

/-- The request leaves the fields of the spec that a member holds fixed. -/
def Leaves (name : String) (r : ExceptionInput) (spec : PolicyExceptionSpec) : Prop :=
  r.matching.namespaces = spec.matching.namespaces ∧
    r.matching.namespaceSelector = spec.matching.namespaceSelector ∧
    (name ≠ defaultExceptionName → r.policyRefs = spec.policyRefs ∧
      r.policyGroupRefs = spec.policyGroupRefs ∧ r.allPolicies.getD false = spec.allPolicies ∧
      r.matching.resourceSelector = spec.matching.resourceSelector)

/-- The update is about the exception: it has the name, and the principal may write it. -/
def Reaches (actor : Principal) (name : String) (e : ExceptionColumns) : Prop :=
  e.name = name ∧ (name ≠ defaultExceptionName → actor.authorizeOwner e.owner = .ok ())

/-- Every exception stays.  It keeps its spec, or an update that is about it gives it the one of
the request. -/
def Edited (actor : Principal) (name : String) (r : ExceptionInput) (s s' : ConsoleState) : Prop :=
  ∀ e ∈ s.exceptions.rows, ∃ e' ∈ s'.exceptions.rows, e'.id = e.id ∧
    (e'.row.spec = e.row.spec ∨
      Reaches actor name e.row ∧ e'.row.spec = edited name r e.row.spec)

section

variable {actor : Principal} {name : String} {r : ExceptionInput} {s s' : ConsoleState}

theorem Leaves.immutable_edited {spec : PolicyExceptionSpec} (h : Leaves name r spec) :
    immutable spec = immutable (edited name r spec) := by
  obtain ⟨hnamespaces, hselector, hothers⟩ := h
  unfold edited
  split
  · rw [hnamespaces, hselector]
    rfl
  · rename_i hname
    obtain ⟨hrefs, hgroups, hall, hresource⟩ := hothers hname
    unfold immutable exceptionSpec
    have hmatching : r.matching = spec.matching :=
      PolicyExceptionMatch.mk.injEq .. |>.mpr ⟨hnamespaces, hselector, hresource⟩
    rw [hrefs, hgroups, hall, hmatching]

/-- What a part of the update ensures, alone in its transaction. -/
abbrev Edits {A : Type} (actor : Principal) (name : String) (r : ExceptionInput)
    (s : ConsoleState) (p : ServiceProg A) : Prop :=
  Alone (fun s' _ => Edited actor name r s s') Any s p

theorem edits_transaction {body : ServiceProg Unit} (h : Edits actor name r s body) :
    Edits actor name r s (transaction .database body) := by
  refine ensures_transaction (fun _ => trivial) (fun s1 _ hs1 _ => ?_) fun _ _ _ _ _ => trivial
  rw [hs1]
  exact Fallible.ensures_mono h (fun _ _ h => ⟨trivial, h⟩) fun _ _ h => h

/-- What a lookup of the exception ensures. -/
abbrev Finds (name : String) (s : ConsoleState) (p : RepoProg (Stored ExceptionColumns)) : Prop :=
  Alone (fun s' e => s' = s ∧ e ∈ s.exceptions.rows ∧ e.row.name = name) Any s p

/-- The end of both transactions. -/
theorem edits_found [GoUnicode] {e : Stored ExceptionColumns} (he : e ∈ s.exceptions.rows)
    (hreaches : Reaches actor name e.row) {spec : PolicyExceptionSpec}
    (hspec : spec = edited name r e.row.spec) (expiresAt : Option Time) (owner : Owner)
    (all : Bool) (names : List String) :
    Edits actor name r s (do
      refuseIf (outdated r.resourceVersion e)
        (.conflict "exception has been modified, refresh and retry")
      (updateExceptionCAS e.id e.updatedAt spec expiresAt).mapError updateError
      syncExceptionScope name owner all names) := by
  refine ensures_guard fun _ => ?_
  have hwrite : Edits actor name r s
      ((updateExceptionCAS e.id e.updatedAt spec expiresAt).mapError updateError) := by
    refine ensures_mapError (ensures_execute (fun _ => trivial) ?_)
    intro _ _ _ _ hs _ hwrite
    subst hs
    obtain ⟨exceptions, hcas, hreturn⟩ := bind_ok hwrite
    cases hreturn
    rw [(RowStore.cas_some (orError_ok hcas)).2]
    refine ⟨trivial, fun old hold => ⟨_, Table.mem_modify.mpr ⟨old, hold, rfl⟩, ?_⟩⟩
    split
    · rename_i hid
      rw [RowStore.eq_of_id _ hold he hid]
      exact ⟨rfl, .inr ⟨hreaches, hspec⟩⟩
    · exact ⟨rfl, .inl rfl⟩
  refine ensures_try hwrite fun s' _ hs' => ?_
  exact ensures_mapError (Fallible.ensures_mono (PolicyGroupService.ensures_saveScope
    (P := Edited actor name r s) (fun _ => trivial) (fun _ _ => trivial) stable_alone
    (fun _ _ h => h) hs') (fun _ _ h => h) fun _ _ _ => trivial)

variable [GoUnicode]

theorem finds_default : Finds name s (getExceptionByName name) := by
  refine ensures_mapError (ensures_query (fun _ => trivial) ?_ fun _ _ _ _ _ => trivial)
  intro s' _ e hs' _ hfound
  obtain ⟨he, hname⟩ := first_ok hfound
  exact ⟨hs', hs' ▸ he, of_decide_eq_true hname⟩

variable [NameValidation]

theorem edits_update : Edits actor name r s (update actor name r) := by
  have hsame {E : Type} : ∀ (s' : ConsoleState) (_ : E), s' = s → True := fun _ _ _ => trivial
  refine ensures_ite (fun hname => ?_) fun hname => ?_
  · subst hname
    refine ensures_check fun _ _ => ?_
    refine ensures_guard fun _ => ensures_guard fun _ => ensures_guard fun _ => ?_
    refine edits_transaction (ensures_try (ensures_mapError finds_default) ?_)
    intro s' e ⟨hs', he, hfound⟩
    subst hs'
    exact edits_found he ⟨hfound, absurd rfl⟩ (if_pos rfl).symm ..
  · refine ensures_check fun _ _ => ?_
    refine ensures_past (P := fun s' => s' = s) (fun _ => trivial) stable_alone hsame
      (readOnly_checkedScope actor r) rfl fun s1 scope hs1 => ?_
    refine ensures_past (P := fun s' => s' = s) (fun _ => trivial) stable_alone hsame
      readOnly_timeNow hs1 fun s2 now hs2 => ?_
    rw [hs2]
    have hread : Finds name s (visibleException actor name) :=
      ensures_visibleIn actor name rfl (fun _ => trivial)
        (fun s' _ e hs _ he hfound => ⟨hs, hs ▸ he, hfound⟩) fun _ _ _ _ _ => trivial
    refine edits_transaction (ensures_try (ensures_mapError hread) ?_)
    intro s' e ⟨hs', he, hfound⟩
    subst hs'
    exact ensures_check fun _ hwrites =>
      edits_found he ⟨hfound, fun _ => hwrites⟩ (if_neg hname).symm ..

/-! ## Sequences of updates -/

/-- A member that has applied the specs of the first state accepts those of the second. -/
def Accepted (s s' : ConsoleState) : Prop :=
  ∀ e ∈ s.exceptions.rows, ∃ e' ∈ s'.exceptions.rows, e'.id = e.id ∧
    checkExceptionSpecMutation e.row.spec e'.row.spec = none

/-- An update succeeds, and meets a condition. -/
def Updates (ok : ConsoleState → Principal → String → ExceptionInput → Prop)
    (s s' : ConsoleState) : Prop :=
  ∃ actor name r, ok s actor name r ∧ Prog.Runs (update actor name r) s s' (.ok ())

/-- The request leaves the fixed fields of the exception that it is about. -/
def LeavesFixed (s : ConsoleState) (actor : Principal) (name : String) (r : ExceptionInput) :
    Prop :=
  ∀ e ∈ s.exceptions.rows, Reaches actor name e.row → Leaves name r e.row.spec

omit [GoUnicode] [NameValidation] in
theorem Accepted.trans {s'' : ConsoleState} (h : Accepted s s') (h' : Accepted s' s'') :
    Accepted s s'' := by
  intro e he
  obtain ⟨e', he', hid, hcheck⟩ := h e he
  obtain ⟨e'', he'', hid', hcheck'⟩ := h' e' he'
  rw [checkExceptionSpecMutation_eq_none_iff] at hcheck hcheck'
  exact ⟨e'', he'', hid'.trans hid,
    checkExceptionSpecMutation_eq_none_iff.mpr (hcheck.trans hcheck')⟩

theorem Updates.accepted (h : Updates LeavesFixed s s') : Accepted s s' := by
  obtain ⟨actor, name, r, hleaves, hrun⟩ := h
  intro e he
  obtain ⟨e', he', hid, hspec⟩ := Prog.Ensures.runs hrun edits_update e he
  refine ⟨e', he', hid, checkExceptionSpecMutation_eq_none_iff.mpr ?_⟩
  rcases hspec with hspec | ⟨hreaches, hspec⟩
  · rw [hspec]
  · rw [hspec]
    exact (hleaves e he hreaches).immutable_edited

/-- In a sequence of updates that leave the fixed fields, a member accepts every spec that is
stored after the one that it has applied. -/
theorem edits_applicable {states : List ConsoleState}
    (hrun : states.IsChain (Updates LeavesFixed)) : states.Pairwise Accepted := by
  have : IsTrans ConsoleState Accepted := ⟨fun _ _ _ => Accepted.trans⟩
  exact List.isChain_iff_pairwise.mp (hrun.imp fun _ _ => Updates.accepted)

end

attribute [local instance] GoUnicode.ascii NameValidation.lenient

/-- The request for an exception `e` from one policy. -/
def exempting (policy : String) : ExceptionInput :=
  { name := some "e", policyRefs := [policy], matching := { namespaces := ["default"] }
    duration := "1h", reason := "r", allClusters := some true }

/-- The exception is from the policy `p`. -/
def created : ConsoleState :=
  ((create .systemAdmin (exempting "p")).exec .empty []).1

/-- The exception after an update. -/
def updated (policy : String) : ConsoleState :=
  ((update .systemAdmin "e" (exempting policy)).exec created []).1

theorem updates_created {ok : ConsoleState → Principal → String → ExceptionInput → Prop}
    {policy : String} (hok : ok created .systemAdmin "e" (exempting policy))
    (hreturns : ((update .systemAdmin "e" (exempting policy)).exec created []).2.1 = .ok ()) :
    Updates ok created (updated policy) := by
  refine ⟨_, _, _, hok, ?_⟩
  rw [← hreturns]
  exact Prog.runs_exec _ created []

theorem edits_applicable_same_policy : [created, updated "p"].Pairwise Accepted := by
  refine edits_applicable (List.isChain_pair.mpr (updates_created ?_ (by decide +kernel)))
  unfold LeavesFixed Reaches Leaves
  decide +kernel

/-- The console lets an update name another policy, which the member refuses. -/
theorem retargeted_exception_is_refused :
    ∃ states : List ConsoleState, states.IsChain (Updates fun _ _ _ _ => True) ∧
      ¬ states.Pairwise Accepted := by
  refine ⟨[created, updated "q"],
    List.isChain_pair.mpr (updates_created trivial (by decide +kernel)), ?_⟩
  rw [List.pairwise_pair]
  unfold Accepted
  decide +kernel

end KubeSentry.Console.ExceptionService
