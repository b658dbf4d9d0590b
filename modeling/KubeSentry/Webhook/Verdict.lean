import Mathlib.Data.List.Induction
import KubeSentry.Webhook.Handler

/-!
# The admission verdict

What the handler answers, without any of the orders it depends on.

`toEvaluate` is the set of policies that a request must pass: those that match
it, are a member of a group that applies, and are not exempt.  Each gives a
list of violations for its effective mode.  The response denies exactly when a
policy in mode enforce gives one (`Denies`), and its texts are the violations of
all these policies, in some order.
-/

namespace KubeSentry.Webhook

open GoLib

variable {Query : Type}

/-! ## Messages by mode -/

section

variable (evaluatePolicy : Query → AdmissionRequest → Except String (List String))
  (req : AdmissionRequest)

/-- The messages that a policy adds to the enforce results: its own, or one
about the failed evaluation. -/
def enforceMessages (r : Resolved Query) : List String :=
  match evaluatePolicy r.policy.query req with
  | .error _ =>
    if r.mode = .enforce then ["policy evaluation error: " ++ r.policy.name] else []
  | .ok msgs => if r.mode = .audit then [] else msgs

/-- The messages that a policy adds to the audit results. -/
def auditMessages (r : Resolved Query) : List String :=
  match evaluatePolicy r.policy.query req with
  | .error _ => []
  | .ok msgs => if r.mode = .audit then msgs else []

/-- One formatted entry for each message. -/
def entries (messages : Resolved Query → List String) (l : List (Resolved Query)) : List String :=
  l.flatMap fun r => (messages r).map (formatViolation r)

end

variable (messages : Resolved Query → List String) (c : PolicyCache Query) (key : RequestKey)
  (polName : String)

theorem entries_snoc (l : List (Resolved Query)) (r : Resolved Query) :
    entries messages (l ++ [r]) = entries messages l ++ (messages r).map (formatViolation r) := by
  simp [entries]

/-! ## The goroutines -/

section

/-- The results hold the messages of the policies in `finished`, and none is without a
message. -/
structure Collected (messages : Resolved Query → List String) (finished : List (Resolved Query))
    (results : List (ResolvedResult Query)) : Prop where
  msgs : ∀ rr ∈ results, rr.msgs ≠ []
  violations_eq : violations results = entries messages finished

variable {messages} {finished : List (Resolved Query)} {results : List (ResolvedResult Query)}
  {r : Resolved Query} (h : Collected messages finished results)

include h

theorem Collected.violations_eq_nil_iff : violations results = [] ↔ results = [] := by
  unfold violations
  rw [List.flatMap_eq_nil_iff, List.eq_nil_iff_forall_not_mem]
  refine forall_congr' fun rr => ⟨fun hnil hmem => ?_, fun hnot hmem => absurd hmem hnot⟩
  exact h.msgs rr hmem (List.map_eq_nil_iff.mp (hnil hmem))

/-- A goroutine that adds nothing. -/
theorem Collected.skip (hnil : messages r = []) : Collected messages (finished ++ [r]) results where
  msgs := h.msgs
  violations_eq := by rw [entries_snoc, hnil, List.map_nil, List.append_nil, h.violations_eq]

/-- A goroutine that appends its messages. -/
theorem Collected.add {msgs : List String} (hmsgs : msgs ≠ []) (heq : messages r = msgs) :
    Collected messages (finished ++ [r]) (results ++ [⟨r, msgs⟩]) where
  msgs := List.forall_mem_append.mpr ⟨h.msgs, List.forall_mem_singleton.mpr hmsgs⟩
  violations_eq := by
    rw [entries_snoc, heq, ← h.violations_eq]
    simp [violations]

end

section

variable {evaluatePolicy : Query → AdmissionRequest → Except String (List String)}
  {req : AdmissionRequest} {finished : List (Resolved Query)} {acc : Results Query}

/-- One goroutine adds the messages of its policy. -/
theorem collected_collect
    (henforce : Collected (enforceMessages evaluatePolicy req) finished acc.enforceResults)
    (haudit : Collected (auditMessages evaluatePolicy req) finished acc.auditResults)
    (r : Resolved Query) :
    Collected (enforceMessages evaluatePolicy req) (finished ++ [r])
        (acc.collect evaluatePolicy req r).enforceResults ∧
      Collected (auditMessages evaluatePolicy req) (finished ++ [r])
        (acc.collect evaluatePolicy req r).auditResults := by
  unfold Results.collect
  cases heval : evaluatePolicy r.policy.query req with
  | error err =>
    have hsilent := haudit.skip (r := r) (by simp [auditMessages, heval])
    by_cases hmode : r.mode = .enforce
    · simp only [hmode, if_true]
      refine ⟨henforce.add (List.cons_ne_nil _ _) ?_, hsilent⟩
      simp [enforceMessages, heval, hmode]
    · simp only [hmode, if_false]
      refine ⟨henforce.skip ?_, hsilent⟩
      simp [enforceMessages, heval, hmode]
  | ok msgs =>
    by_cases hempty : msgs.length = 0
    · simp only [hempty, if_true]
      have hnil := List.eq_nil_of_length_eq_zero hempty
      refine ⟨henforce.skip ?_, haudit.skip ?_⟩
      · simp [enforceMessages, heval, hnil]
      · simp [auditMessages, heval, hnil]
    · have hmsgs : msgs ≠ [] := fun hnil => hempty (by rw [hnil]; rfl)
      by_cases hmode : r.mode = .audit
      · simp only [hempty, hmode, if_true, if_false]
        refine ⟨henforce.skip ?_, haudit.add hmsgs ?_⟩
        · simp [enforceMessages, heval, hmode]
        · simp [auditMessages, heval, hmode]
      · simp only [hempty, hmode, if_false]
        refine ⟨henforce.add hmsgs ?_, haudit.skip ?_⟩
        · simp [enforceMessages, heval, hmode]
        · simp [auditMessages, heval, hmode]

/-- All goroutines, in the order in which they finish. -/
theorem collected_foldl (l : List (Resolved Query)) :
    Collected (enforceMessages evaluatePolicy req) l
        (l.foldl (Results.collect evaluatePolicy req) {}).enforceResults ∧
      Collected (auditMessages evaluatePolicy req) l
        (l.foldl (Results.collect evaluatePolicy req) {}).auditResults := by
  induction l using List.reverseRecOn with
  | nil => exact ⟨⟨nofun, rfl⟩, ⟨nofun, rfl⟩⟩
  | append_singleton l r ih =>
    rw [List.foldl_append]
    exact collected_collect ih.1 ih.2 r

/-- The shape of the response, by the violations of the policies in the order
in which they finish. -/
theorem evaluate_spec (evaluatePolicy : Query → AdmissionRequest → Except String (List String))
    (order : Shuffle) (req : AdmissionRequest) (resolved : List (Resolved Query)) :
    evaluate evaluatePolicy order req resolved =
      if entries (enforceMessages evaluatePolicy req) (order.run resolved) = [] then
        { uid := req.uid, allowed := true
          warnings := entries (auditMessages evaluatePolicy req) (order.run resolved) }
      else
        { uid := req.uid, allowed := false
          result := some
            { code := 403
              message := "\n\n".intercalate
                (entries (enforceMessages evaluatePolicy req) (order.run resolved) ++
                  entries (auditMessages evaluatePolicy req) (order.run resolved)) } } := by
  obtain ⟨henforce, haudit⟩ := @collected_foldl _ evaluatePolicy req (order.run resolved)
  unfold evaluate
  dsimp only
  split
  · rename_i hnone
    have hrun : order.run resolved = [] := by
      rw [List.eq_nil_of_length_eq_zero hnone]
      exact (order.perm []).eq_nil
    rw [hrun]
    rfl
  · rw [← henforce.violations_eq, ← haudit.violations_eq]
    by_cases hdeny :
        ((order.run resolved).foldl (Results.collect evaluatePolicy req) {}).enforceResults = []
    · rw [if_pos (henforce.violations_eq_nil_iff.mpr hdeny), hdeny]
      rw [if_neg (by simp)]
      split
      · rfl
      · rename_i hsilent
        have hnil : ((order.run resolved).foldl (Results.collect evaluatePolicy req)
            {}).auditResults = [] := List.eq_nil_of_length_eq_zero (by omega)
        rw [hnil]
        rfl
    · rw [if_neg (fun h => hdeny (henforce.violations_eq_nil_iff.mp h)),
        if_pos (List.length_pos_of_ne_nil hdeny)]

end

/-! ## The policies to evaluate -/

/-- The policy is a member of a group that applies, in this mode. -/
def MemberOf (c : PolicyCache Query) (key : RequestKey) (polName : String)
    (mode : EnforcementMode) : Prop :=
  ∃ (groupKey : String) (g : CompiledGroup), c.groups[groupKey]? = some g ∧
    groupApplies key.namespaceLabels g = true ∧ g.members[polName]? = some mode

theorem exists_membership_iff (mode : EnforcementMode) :
    (∃ hit ∈ memberships c key polName, hit.1 = mode) ↔ MemberOf c key polName mode := by
  constructor
  · intro h
    obtain ⟨hit, hhit, hmode⟩ := h
    obtain ⟨e, he, hmember⟩ := List.mem_filterMap.mp hhit
    obtain ⟨mode', hmode', hpair⟩ := Option.map_eq_some_iff.mp hmember
    obtain ⟨hgroup, happlies⟩ := List.mem_filter.mp he
    rw [← hpair] at hmode
    subst hmode
    exact ⟨e.1, e.2, (mem_toList_iff _ _ _).mp hgroup, happlies, hmode'⟩
  · intro h
    obtain ⟨groupKey, g, hgroup, happlies, hmode⟩ := h
    refine ⟨(mode, g.name), List.mem_filterMap.mpr ⟨(groupKey, g), ?_, ?_⟩, rfl⟩
    · exact List.mem_filter.mpr ⟨(mem_toList_iff _ _ _).mpr hgroup, happlies⟩
    · rw [hmode]
      rfl

theorem memberships_ne_nil_iff :
    memberships c key polName ≠ [] ↔ ∃ mode, MemberOf c key polName mode := by
  simp only [← exists_membership_iff]
  constructor
  · intro h
    obtain ⟨hit, hhit⟩ := List.exists_mem_of_ne_nil _ h
    exact ⟨hit.1, hit, hhit, rfl⟩
  · intro h
    obtain ⟨mode, hit, hhit, -⟩ := h
    exact List.ne_nil_of_mem hhit

theorem effectiveMode_eq_enforce_iff :
    effectiveMode c key polName = .enforce ↔ MemberOf c key polName .enforce := by
  rw [← exists_membership_iff]
  unfold effectiveMode
  split
  · rename_i h
    exact iff_of_true rfl h
  · rename_i h
    exact iff_of_false (by decide) h

theorem effectiveMode_isSet : (effectiveMode c key polName).IsSet := by
  unfold effectiveMode
  split
  · exact .inl rfl
  · exact .inr rfl

section

variable (h : Handler Query) (req : AdmissionRequest)

/-- The exempt names for the request. -/
def Handler.exempted : GoMap Bool :=
  h.exceptions.exemptedKeys (h.exemptQuery req)
    ((matched h.store (h.requestKey req)).map Prod.snd)

/-- The matched policies that are not exempt. -/
def Handler.toEvaluate : List (String × CompiledPolicy Query) :=
  (matched h.store (h.requestKey req)).filter fun e => !isExempt (h.exempted req) e.2.name

/-- A matched policy with its effective mode, and with the names of its groups
in a given order. -/
def Handler.resolvedAs (groupNames : String → List String)
    (e : String × CompiledPolicy Query) : Resolved Query where
  policy := e.2
  mode := effectiveMode h.store (h.requestKey req) e.1
  groups := groupNames e.1

end

/-- The exempt names depend on the set of policies only. -/
theorem isExempt_congr (c : ExceptionCache) (q : ExemptQuery)
    {policies policies' : List (CompiledPolicy Query)} (hperm : policies.Perm policies')
    (name : String) :
    isExempt (c.exemptedKeys q policies) name = isExempt (c.exemptedKeys q policies') name := by
  rw [Bool.eq_iff_iff, isExempt_exemptedKeys, isExempt_exemptedKeys]
  simp only [hperm.mem_iff]

variable (h : Handler Query)

/-- The two early outs of the exemption block change nothing. -/
theorem Handler.dropExempt_eq (req : AdmissionRequest) (resolved : List (Resolved Query)) :
    h.dropExempt req resolved = resolved.filter fun r =>
      !isExempt (h.exceptions.exemptedKeys (h.exemptQuery req) (resolved.map Resolved.policy))
        r.policy.name := by
  unfold Handler.dropExempt
  dsimp only
  split
  · split
    · rfl
    · rename_i hsize
      have hempty : h.exceptions.exemptedKeys (h.exemptQuery req)
          (resolved.map Resolved.policy) = ∅ := by
        rw [Std.ExtTreeMap.eq_empty_iff_size_eq_zero]
        omega
      rw [hempty]
      exact (List.filter_eq_self.mpr fun r _ => by simp [isExempt]).symm
  · rename_i hnone
    rw [List.eq_nil_of_length_eq_zero (by omega : resolved.length = 0)]
    rfl

/-- What the handler evaluates, up to the orders. -/
theorem Handler.dropExempt_perm (req : AdmissionRequest)
    {resolved : List (Resolved Query)} {groupNames : String → List String} (hperm : resolved.Perm
      ((matched h.store (h.requestKey req)).map (h.resolvedAs req groupNames))) :
    (h.dropExempt req resolved).Perm ((h.toEvaluate req).map (h.resolvedAs req groupNames)) := by
  have hpolicies : (resolved.map Resolved.policy).Perm
      ((matched h.store (h.requestKey req)).map Prod.snd) := by
    refine (hperm.map Resolved.policy).trans (List.Perm.of_eq ?_)
    rw [List.map_map]
    rfl
  rw [Handler.dropExempt_eq]
  simp only [isExempt_congr h.exceptions (h.exemptQuery req) hpolicies]
  refine (hperm.filter _).trans (List.Perm.of_eq ?_)
  rw [List.filter_map]
  rfl

/-! ## The verdict -/

/-- The evaluation fails or returns a message. -/
def Handler.Violates (req : AdmissionRequest) (p : CompiledPolicy Query) : Prop :=
  (∃ err, h.evaluatePolicy p.query req = .error err) ∨
    ∃ msgs, h.evaluatePolicy p.query req = .ok msgs ∧ msgs ≠ []

/-- The policy denies the request. -/
structure Handler.Denies (h : Handler Query) (req : AdmissionRequest) (polName : String)
    (p : CompiledPolicy Query) : Prop where
  cached : h.store.policies[polName]? = some p
  matching : matchesPolicy p.matching req.resource req.apiGroup req.operation = true
  member : ∃ mode, MemberOf h.store (h.requestKey req) polName mode
  enforced : MemberOf h.store (h.requestKey req) polName .enforce
  notExempt : isExempt (h.exempted req) p.name = false
  violated : h.Violates req p

theorem entries_ne_nil_iff (l : List (Resolved Query)) :
    entries messages l ≠ [] ↔ ∃ r ∈ l, messages r ≠ [] := by
  unfold entries
  simp [List.flatMap_eq_nil_iff]

theorem enforceMessages_ne_nil_iff (req : AdmissionRequest)
    (r : Resolved Query) (hmode : r.mode.IsSet) :
    enforceMessages h.evaluatePolicy req r ≠ [] ↔ r.mode = .enforce ∧ h.Violates req r.policy := by
  unfold enforceMessages Handler.Violates
  cases heval : h.evaluatePolicy r.policy.query req with
  | error err =>
    rcases hmode with hmode | hmode
    · simp [hmode]
    · simp [hmode]
  | ok msgs =>
    rcases hmode with hmode | hmode
    · simp [hmode]
    · simp [hmode]

/-- A policy among those to evaluate that gives a message in mode enforce is a
policy that denies. -/
theorem exists_enforceMessages_iff (req : AdmissionRequest) (groupNames : String → List String) :
    (∃ r ∈ (h.toEvaluate req).map (h.resolvedAs req groupNames),
        enforceMessages h.evaluatePolicy req r ≠ []) ↔
      ∃ polName p, h.Denies req polName p := by
  have hmessages : ∀ e, enforceMessages h.evaluatePolicy req (h.resolvedAs req groupNames e) ≠ [] ↔
      MemberOf h.store (h.requestKey req) e.1 .enforce ∧ h.Violates req e.2 := by
    intro e
    rw [enforceMessages_ne_nil_iff h req _ (effectiveMode_isSet _ _ _),
      ← effectiveMode_eq_enforce_iff]
    rfl
  simp only [List.mem_map, exists_exists_and_eq_and, hmessages]
  constructor
  · intro hdeny
    obtain ⟨e, he, henforced, hviolated⟩ := hdeny
    obtain ⟨hmatched, hexempt⟩ := List.mem_filter.mp he
    obtain ⟨hcached, hmatches, hmember⟩ := mem_matched_iff.mp hmatched
    rw [Bool.not_eq_true'] at hexempt
    exact ⟨e.1, e.2, hcached, hmatches, (memberships_ne_nil_iff _ _ _).mp hmember, henforced,
      hexempt, hviolated⟩
  · intro hdeny
    obtain ⟨polName, p, hd⟩ := hdeny
    refine ⟨(polName, p), List.mem_filter.mpr ⟨mem_matched_iff.mpr ⟨hd.cached, hd.matching,
      (memberships_ne_nil_iff _ _ _).mpr hd.member⟩, ?_⟩, hd.enforced, hd.violated⟩
    rw [Bool.not_eq_true']
    exact hd.notExempt

/-- The response of the handler, for every order.  It denies exactly when some
policy denies.  When it allows, the warnings are one entry for each message of
the audit policies to evaluate.  When it denies, the parts of the message are the
entries of the enforce policies and of the audit policies.  Entries are compared
up to their order and up to the order of the group names in a header. -/
theorem serveHTTP_verdict (h : Handler Query) (hstore : h.store.ready = true)
    (hexceptions : h.exceptions.ready = true) (hmodes : h.store.ModesSet)
    (order : HandlerOrder) (req : AdmissionRequest) :
    ∃ resp, h.serveHTTP order (.ok (some req)) = .review resp ∧ resp.uid = req.uid ∧
      (resp.allowed = false ↔ ∃ polName p, h.Denies req polName p) ∧
      ∃ groupNames : String → List String,
        (∀ polName, (groupNames polName).Perm
          ((memberships h.store (h.requestKey req) polName).map Prod.snd)) ∧
        (resp.allowed = true → resp.warnings.Perm (entries (auditMessages h.evaluatePolicy req)
          ((h.toEvaluate req).map (h.resolvedAs req groupNames)))) ∧
        (resp.allowed = false → ∃ parts,
          resp.result = some { code := 403, message := "\n\n".intercalate parts } ∧
          parts.Perm
            (entries (enforceMessages h.evaluatePolicy req)
                ((h.toEvaluate req).map (h.resolvedAs req groupNames)) ++
              entries (auditMessages h.evaluatePolicy req)
                ((h.toEvaluate req).map (h.resolvedAs req groupNames)))) := by
  obtain ⟨groupNames, hnames, hresolved⟩ :=
    matchingForRequest_perm hmodes order.matching (h.requestKey req)
  have hperm := (order.completion.perm _).trans (h.dropExempt_perm req hresolved)
  have hdeny : entries (enforceMessages h.evaluatePolicy req) (order.completion.run
      (h.dropExempt req (matchingForRequest h.store order.matching (h.requestKey req)))) ≠ [] ↔
      ∃ polName p, h.Denies req polName p := by
    rw [← exists_enforceMessages_iff h req groupNames, entries_ne_nil_iff]
    simp only [hperm.mem_iff]
  refine ⟨_, by rw [Handler.serveHTTP, hstore, hexceptions]; rfl, ?_⟩
  rw [evaluate_spec]
  split
  · rename_i hallow
    refine ⟨rfl, iff_of_false (by simp) fun hd => hdeny.mpr hd hallow, groupNames, hnames,
      fun _ => hperm.flatMap_right _, fun hfalse => absurd hfalse (by simp)⟩
  · rename_i hallow
    refine ⟨rfl, iff_of_true rfl (hdeny.mp hallow), groupNames, hnames,
      fun htrue => absurd htrue (by simp), fun _ => ⟨_, rfl, ?_⟩⟩
    exact (hperm.flatMap_right _).append (hperm.flatMap_right _)

/-- A handler with one policy, enforced by one group, that objects to every
request. -/
def strictHandler : Handler Unit where
  store :=
    { policies := (∅ : GoMap (CompiledPolicy Unit)).insert "no-root"
        { name := "no-root", query := ()
          matching := { operations := ["CREATE"]
                        resources := [{ apiGroups := [""], resources := ["pods"] }] } }
      groups := (∅ : GoMap CompiledGroup).insert "baseline"
        { name := "baseline", enabled := true
          members := (∅ : GoMap EnforcementMode).insert "no-root" .enforce }
      ready := true }
  exceptions := { ready := true }
  nsLister _ := none
  evaluatePolicy _ _ := .ok ["runs as root"]

/-- The request to create a pod. -/
def createPod : AdmissionRequest where
  uid := "1"
  namespaceName := "default"
  apiGroup := ""
  resource := "pods"
  operation := "CREATE"
  object := .empty

theorem strictHandler_modesSet : strictHandler.store.ModesSet := by
  intro groupKey g hg polName mode hmode
  rcases getElem?_insert_some.mp hg with ⟨_, heq⟩ | ⟨_, hnone⟩
  · subst heq
    rcases getElem?_insert_some.mp hmode with ⟨_, heq⟩ | ⟨_, hnone⟩
    · exact .inl heq
    · exact absurd hnone (by simp)
  · exact absurd hnone (by simp)

theorem strictHandler_denies : ∃ polName p, strictHandler.Denies createPod polName p := by
  refine ⟨"no-root", _, rfl, by decide, ⟨.enforce, ?_⟩, ?_, by decide, .inr ⟨_, rfl, by simp⟩⟩
  · exact ⟨"baseline", _, rfl, by decide, rfl⟩
  · exact ⟨"baseline", _, rfl, by decide, rfl⟩

/-- The handler denies the pod. -/
theorem serveHTTP_verdict_denies : ∃ resp, strictHandler.serveHTTP
        { matching := ⟨Shuffle.reverse, fun _ => Shuffle.id, Shuffle.id⟩
          completion := Shuffle.reverse } (.ok (some createPod)) = .review resp ∧
      resp.allowed = false := by
  obtain ⟨resp, hresp, -, hdenied, -⟩ := serveHTTP_verdict strictHandler rfl rfl
    strictHandler_modesSet ⟨⟨Shuffle.reverse, fun _ => Shuffle.id, Shuffle.id⟩, Shuffle.reverse⟩
    createPod
  exact ⟨resp, hresp, hdenied.mpr strictHandler_denies⟩

end KubeSentry.Webhook
