import KubeSentry.Api.Status

/-!
# The rules of the webhook configuration

`aggregateRules` turns the matches of all Ready policies into the rules of the
`ValidatingWebhookConfiguration`.  The API server asks the webhook only about
requests that a rule covers, so a combination of operation, API group, API version
and resource that a Ready policy lists should be covered by a rule, and no other.

The code makes one rule per group and resource of a match and skips an entry whose
key it has seen.  The key is the group, the resource and the joined operations.  It
leaves out the API versions, and joined operations do not determine the operations.
So an entry can be skipped although the rule of its key does not cover it.

`mem_aggregateRules` is the one lemma about the loops: the rules are those of the
entries that are the first of their key.  The last section says when these are enough.

`"*"` stands for every value in a rule and in a match.
-/

namespace KubeSentry.Operator

/-! ## The code -/

/-- `admissionregv1.RuleWithOperations`. -/
structure RuleWithOperations where
  operations : List String
  apiGroups : List String
  apiVersions : List String
  resources : List String
  /-- `AllScopes`. -/
  scope : String := "*"
  deriving DecidableEq

/-- The key of `seen`. -/
structure RuleKey where
  apiGroup : String
  resource : String
  ops : String
  deriving DecidableEq

def joinOps (ops : List String) : String :=
  ops.foldl (fun result op => result ++ op ++ ",") ""

/-- `seen` and `rules`. -/
structure RuleAcc where
  seen : List RuleKey := []
  rules : List RuleWithOperations := []

/-- The innermost loop body. -/
def addRule (operations apiVersions : List String) (group : String) (acc : RuleAcc)
    (resource : String) : RuleAcc :=
  let key : RuleKey := { apiGroup := group, resource := resource, ops := joinOps operations }
  if key ∈ acc.seen then acc
  else
    { seen := key :: acc.seen
      rules := acc.rules ++
        [{ operations := operations, apiGroups := [group], apiVersions := apiVersions
           resources := [resource] }] }

/-- The loops over the groups and resources of one `MatchResource`. -/
def addResource (operations : List String) (acc : RuleAcc) (mr : MatchResource) : RuleAcc :=
  mr.apiGroups.foldl (fun acc group =>
    mr.resources.foldl (addRule operations mr.apiVersions group) acc) acc

def addPolicy (acc : RuleAcc) (p : PolicyObject) : RuleAcc :=
  if p.status.phase ≠ .ready then acc
  else p.spec.matching.resources.foldl (addResource p.spec.matching.operations) acc

variable (policies : List PolicyObject)

def aggregateRules : List RuleWithOperations :=
  (policies.foldl addPolicy {}).rules

/-! ## Combinations -/

/-- A combination that a request can have. -/
structure Combination where
  operation : String
  apiGroup : String
  apiVersion : String
  resource : String
  deriving DecidableEq

/-- The list contains the value or `"*"`. -/
def Has (values : List String) (value : String) : Prop :=
  value ∈ values ∨ "*" ∈ values

instance (values : List String) (value : String) : Decidable (Has values value) :=
  inferInstanceAs (Decidable (_ ∨ _))

/-- A value of the list that stands for the given one. -/
theorem has_iff (values : List String) (value : String) :
    Has values value ↔ ∃ v ∈ values, v = value ∨ v = "*" := by
  constructor
  · intro h
    rcases h with hvalue | hstar
    · exact ⟨value, hvalue, .inl rfl⟩
    · exact ⟨"*", hstar, .inr rfl⟩
  · intro ⟨v, hv, heq⟩
    rcases heq with rfl | rfl
    · exact .inl hv
    · exact .inr hv

/-- A list that has a value has every value that it stands for. -/
theorem Has.widen {values : List String} {v value : String} (h : Has values v)
    (hv : v = value ∨ v = "*") : Has values value := by
  rcases hv with rfl | rfl
  · exact h
  · exact .inr (h.elim id id)

theorem has_of_mem {values : List String} {value : String} (h : value ∈ values) :
    Has values value :=
  .inl h

/-- A rule covers a combination. -/
def RuleWithOperations.Covers (r : RuleWithOperations) (c : Combination) : Prop :=
  Has r.operations c.operation ∧ Has r.apiGroups c.apiGroup ∧ Has r.apiVersions c.apiVersion ∧
    Has r.resources c.resource

instance (r : RuleWithOperations) (c : Combination) : Decidable (r.Covers c) :=
  inferInstanceAs (Decidable (_ ∧ _))

/-- A match lists a combination. -/
def Lists (m : PolicyMatch) (c : Combination) : Prop :=
  Has m.operations c.operation ∧ ∃ mr ∈ m.resources, Has mr.apiGroups c.apiGroup ∧
    Has mr.apiVersions c.apiVersion ∧ Has mr.resources c.resource

/-- The rules cover what the Ready policies list, and nothing else. -/
def RulesExact : Prop :=
  ∀ c, (∃ p ∈ policies, p.status.phase = .ready ∧ Lists p.spec.matching c) ↔
    ∃ r ∈ aggregateRules policies, r.Covers c

/-! ## Entries -/

/-- One round of the innermost loop. -/
structure RuleEntry where
  operations : List String
  apiVersions : List String
  apiGroup : String
  resource : String
  deriving DecidableEq

namespace RuleEntry

def key (e : RuleEntry) : RuleKey :=
  { apiGroup := e.apiGroup, resource := e.resource, ops := joinOps e.operations }

def rule (e : RuleEntry) : RuleWithOperations where
  operations := e.operations
  apiGroups := [e.apiGroup]
  apiVersions := e.apiVersions
  resources := [e.resource]

end RuleEntry

/-- The entries of one `MatchResource`, in the order of the loops. -/
def resourceEntries (operations : List String) (mr : MatchResource) : List RuleEntry :=
  mr.apiGroups.flatMap fun group => mr.resources.map fun resource =>
    { operations := operations, apiVersions := mr.apiVersions, apiGroup := group
      resource := resource }

def policyEntries (p : PolicyObject) : List RuleEntry :=
  if p.status.phase ≠ .ready then []
  else p.spec.matching.resources.flatMap (resourceEntries p.spec.matching.operations)

/-- The rounds of the innermost loop. -/
def entries : List RuleEntry :=
  policies.flatMap policyEntries

def addEntry (acc : RuleAcc) (e : RuleEntry) : RuleAcc :=
  addRule e.operations e.apiVersions e.apiGroup acc e.resource

/-- The nested loops are one loop over the entries. -/
theorem aggregateRules_eq :
    aggregateRules policies = ((entries policies).foldl addEntry {}).rules := by
  have hresource : ∀ operations acc mr,
      addResource operations acc mr = (resourceEntries operations mr).foldl addEntry acc := by
    intro operations acc mr
    unfold resourceEntries
    rw [List.foldl_flatMap]
    refine congrArg (fun f => mr.apiGroups.foldl f acc) (funext fun acc => funext fun group => ?_)
    rw [List.foldl_map]
    rfl
  have hpolicy : ∀ acc p, addPolicy acc p = (policyEntries p).foldl addEntry acc := by
    intro acc p
    unfold addPolicy policyEntries
    split
    · rfl
    · rw [List.foldl_flatMap]
      refine congrArg (fun f => p.spec.matching.resources.foldl f acc)
        (funext fun acc => funext fun mr => ?_)
      exact hresource _ acc mr
  unfold aggregateRules entries
  rw [List.foldl_flatMap]
  have hfold : addPolicy = fun acc p => (policyEntries p).foldl addEntry acc :=
    funext fun acc => funext fun p => hpolicy acc p
  rw [hfold]

/-- A Ready policy lists a combination exactly if one of the entries covers it. -/
theorem lists_iff (c : Combination) :
    (∃ p ∈ policies, p.status.phase = .ready ∧ Lists p.spec.matching c) ↔
      ∃ e ∈ entries policies, e.rule.Covers c := by
  constructor
  · intro ⟨p, hp, hready, hops, mr, hmr, hgroups, hversions, hresources⟩
    obtain ⟨group, hgroup, hgroup'⟩ := (has_iff _ _).mp hgroups
    obtain ⟨resource, hresource, hresource'⟩ := (has_iff _ _).mp hresources
    refine ⟨⟨p.spec.matching.operations, mr.apiVersions, group, resource⟩, ?_, hops,
      (has_of_mem (List.mem_singleton_self group)).widen hgroup', hversions,
      (has_of_mem (List.mem_singleton_self resource)).widen hresource'⟩
    refine List.mem_flatMap.mpr ⟨p, hp, ?_⟩
    unfold policyEntries
    rw [if_neg (not_not.mpr hready)]
    refine List.mem_flatMap.mpr ⟨mr, hmr, List.mem_flatMap.mpr ⟨group, hgroup, ?_⟩⟩
    exact List.mem_map.mpr ⟨resource, hresource, rfl⟩
  · intro ⟨e, he, hops, hgroup, hversions, hresource⟩
    obtain ⟨p, hp, hentry⟩ := List.mem_flatMap.mp he
    unfold policyEntries at hentry
    split at hentry
    · exact absurd hentry List.not_mem_nil
    · rename_i hready
      obtain ⟨mr, hmr, hentry⟩ := List.mem_flatMap.mp hentry
      obtain ⟨group, hgroups, hentry⟩ := List.mem_flatMap.mp hentry
      obtain ⟨resource, hresources, rfl⟩ := List.mem_map.mp hentry
      obtain ⟨g, hg, hg'⟩ := (has_iff _ _).mp hgroup
      obtain ⟨r, hr, hr'⟩ := (has_iff _ _).mp hresource
      rw [List.mem_singleton.mp hg] at hg'
      rw [List.mem_singleton.mp hr] at hr'
      exact ⟨p, hp, not_not.mp hready, hops, mr, hmr, (has_of_mem hgroups).widen hg', hversions,
        (has_of_mem hresources).widen hr'⟩

/-! ## The first entries of their key -/

/-- The entry stands in the list, and no entry with its key stands before it. -/
def FirstOfKey (l : List RuleEntry) (e : RuleEntry) : Prop :=
  ∃ before after, l = before ++ e :: after ∧ ∀ e' ∈ before, e'.key ≠ e.key

theorem FirstOfKey.mem {l : List RuleEntry} {e : RuleEntry} (h : FirstOfKey l e) : e ∈ l := by
  obtain ⟨before, after, rfl, _⟩ := h
  exact List.mem_append_right _ List.mem_cons_self

theorem firstOfKey_cons {first e : RuleEntry} {rest : List RuleEntry} :
    FirstOfKey (first :: rest) e ↔ e = first ∨ (first.key ≠ e.key ∧ FirstOfKey rest e) := by
  constructor
  · intro ⟨before, after, heq, hbefore⟩
    cases before with
    | nil =>
      cases heq
      exact .inl rfl
    | cons b before =>
      cases heq
      refine .inr ⟨hbefore _ List.mem_cons_self, before, after, rfl, ?_⟩
      exact fun e' he' => hbefore e' (List.mem_cons_of_mem _ he')
  · intro h
    rcases h with rfl | ⟨hne, before, after, rfl, hbefore⟩
    · exact ⟨[], rest, rfl, fun _ h => absurd h List.not_mem_nil⟩
    · exact ⟨first :: before, after, rfl, List.forall_mem_cons.mpr ⟨hne, hbefore⟩⟩

/-- The loop, from any state: a rule is old, or it is the rule of an entry that is the
first of its key and whose key was not seen. -/
theorem mem_foldl_addEntry (l : List RuleEntry) (acc : RuleAcc) (r : RuleWithOperations) :
    r ∈ (l.foldl addEntry acc).rules ↔
      r ∈ acc.rules ∨ ∃ e, FirstOfKey l e ∧ e.key ∉ acc.seen ∧ r = e.rule := by
  induction l generalizing acc with
  | nil =>
    refine ⟨.inl, fun h => h.elim id ?_⟩
    intro ⟨e, hfirst, _⟩
    exact absurd hfirst.mem List.not_mem_nil
  | cons first rest ih =>
    rw [List.foldl_cons, ih]
    by_cases hseen : first.key ∈ acc.seen
    · have hstep : addEntry acc first = acc := if_pos hseen
      rw [hstep]
      refine or_congr Iff.rfl (exists_congr fun e => ?_)
      rw [firstOfKey_cons]
      constructor
      · intro ⟨hfirst, hnew, heq⟩
        exact ⟨.inr ⟨fun hkey => hnew (hkey ▸ hseen), hfirst⟩, hnew, heq⟩
      · intro ⟨hor, hnew, heq⟩
        rcases hor with rfl | ⟨_, hfirst⟩
        · exact absurd hseen hnew
        · exact ⟨hfirst, hnew, heq⟩
    · have hstep : addEntry acc first =
          { seen := first.key :: acc.seen, rules := acc.rules ++ [first.rule] } := if_neg hseen
      rw [hstep]
      constructor
      · intro h
        rcases h with hold | ⟨e, hfirst, hnew, heq⟩
        · rcases List.mem_append.mp hold with hold | hrule
          · exact .inl hold
          · exact .inr ⟨first, firstOfKey_cons.mpr (.inl rfl), hseen, List.mem_singleton.mp hrule⟩
        · have hne : e.key ≠ first.key := List.ne_of_not_mem_cons hnew
          exact .inr ⟨e, firstOfKey_cons.mpr (.inr ⟨Ne.symm hne, hfirst⟩),
            List.not_mem_of_not_mem_cons hnew, heq⟩
      · intro h
        rcases h with hold | ⟨e, hfirst, hnew, heq⟩
        · exact .inl (List.mem_append_left _ hold)
        · rcases firstOfKey_cons.mp hfirst with rfl | ⟨hne, hfirst⟩
          · exact .inl (List.mem_append_right _ (List.mem_singleton.mpr heq))
          · exact .inr ⟨e, hfirst, List.not_mem_cons_of_ne_of_not_mem (Ne.symm hne) hnew, heq⟩

/-- The rules are those of the first entries of their key. -/
theorem mem_aggregateRules (r : RuleWithOperations) :
    r ∈ aggregateRules policies ↔ ∃ e, FirstOfKey (entries policies) e ∧ r = e.rule := by
  rw [aggregateRules_eq, mem_foldl_addEntry]
  constructor
  · intro h
    rcases h with hnone | ⟨e, hfirst, _, heq⟩
    · exact absurd hnone List.not_mem_nil
    · exact ⟨e, hfirst, heq⟩
  · intro ⟨e, hfirst, heq⟩
    exact .inr ⟨e, hfirst, List.not_mem_nil, heq⟩

/-! ## When the rules are exact -/

/-- Every operation and version of an entry is also listed, for its group and resource,
by an entry that is the first of its key. -/
def Unshadowed (l : List RuleEntry) : Prop :=
  ∀ e ∈ l, ∀ operation ∈ e.operations, ∀ version ∈ e.apiVersions,
    ∃ e', FirstOfKey l e' ∧ e'.rule.Covers ⟨operation, e.apiGroup, version, e.resource⟩

/-- The rules are exact for the policies if and only if no entry is shadowed. -/
theorem rulesExact_iff (policies : List PolicyObject) :
    RulesExact policies ↔ Unshadowed (entries policies) := by
  constructor
  · intro hexact e he operation hoperation version hversion
    have hlisted : e.rule.Covers ⟨operation, e.apiGroup, version, e.resource⟩ :=
      ⟨has_of_mem hoperation, has_of_mem (List.mem_singleton_self _), has_of_mem hversion,
        has_of_mem (List.mem_singleton_self _)⟩
    obtain ⟨r, hr, hcovers⟩ := (hexact _).mp ((lists_iff policies _).mpr ⟨e, he, hlisted⟩)
    obtain ⟨e', hfirst, rfl⟩ := (mem_aggregateRules policies r).mp hr
    exact ⟨e', hfirst, hcovers⟩
  · intro hunshadowed c
    rw [lists_iff]
    constructor
    · -- Take the values of the entry that stand for those of the combination.
      intro ⟨e, he, hop, hgroup, hversion, hresource⟩
      obtain ⟨operation, hoperation, hop'⟩ := (has_iff _ _).mp hop
      obtain ⟨version, hversions, hversion'⟩ := (has_iff _ _).mp hversion
      obtain ⟨group, hg, hg'⟩ := (has_iff _ _).mp hgroup
      obtain ⟨resource, hr, hr'⟩ := (has_iff _ _).mp hresource
      rw [List.mem_singleton.mp hg] at hg'
      rw [List.mem_singleton.mp hr] at hr'
      obtain ⟨e', hfirst, hop1, hgroup1, hversion1, hresource1⟩ :=
        hunshadowed e he operation hoperation version hversions
      exact ⟨e'.rule, (mem_aggregateRules policies _).mpr ⟨e', hfirst, rfl⟩, hop1.widen hop',
        hgroup1.widen hg', hversion1.widen hversion', hresource1.widen hr'⟩
    · intro ⟨r, hr, hcovers⟩
      obtain ⟨e, hfirst, rfl⟩ := (mem_aggregateRules policies r).mp hr
      exact ⟨e, hfirst.mem, hcovers⟩

/-! ## Two versions of one resource -/

/-- A Ready policy about the creation of one resource of the group `apps`. -/
def appsPolicy (name version : String) : PolicyObject where
  name := name
  spec := { PolicySpec.auditPods "package kubesentry" with matching :=
    { operations := ["CREATE"]
      resources := [{ apiGroups := ["apps"], apiVersions := [version]
                      resources := ["deployments"] }] } }
  status := { phase := .ready }

/-- Two Ready policies list different versions of one resource; the version of the
second one is covered by no rule. -/
theorem second_version_not_covered :
    ¬ RulesExact [appsPolicy "first" "v1", appsPolicy "second" "v1beta1"] := by
  intro hexact
  have hlisted : ∃ p ∈ [appsPolicy "first" "v1", appsPolicy "second" "v1beta1"],
      p.status.phase = .ready ∧
        Lists p.spec.matching ⟨"CREATE", "apps", "v1beta1", "deployments"⟩ := by
    refine ⟨appsPolicy "second" "v1beta1", by decide, rfl, .inl (by decide), _,
      List.mem_singleton_self _, .inl (by decide), .inl (by decide), .inl (by decide)⟩
  obtain ⟨r, hr, hcovers⟩ := (hexact _).mp hlisted
  have hnone : ∀ r ∈ aggregateRules [appsPolicy "first" "v1", appsPolicy "second" "v1beta1"],
      ¬ r.Covers ⟨"CREATE", "apps", "v1beta1", "deployments"⟩ := by
    decide
  exact hnone r hr hcovers

end KubeSentry.Operator
