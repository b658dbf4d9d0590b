import KubeSentry.Api.Proto

/-!
# Storage rules for admission events

`internal/admission/policy`: the matcher that the gateway and the member share.
A rule set is an unordered allow-list, and the empty set stores everything.
-/

namespace KubeSentry.Admission

open GoLib

/-- `Rule`. -/
structure Rule where
  matchMode : MatchMode
  verdicts : List String
  clusters : List String
  gvks : List String
  namespaces : List String

/-- `Event`: what the matcher looks at. -/
structure RuleEvent where
  verdict : String
  clusterName : String
  apiGroup : String
  resource : String
  namespaceName : String

/-- The rule of a synced storage policy. -/
def ruleOf (policy : AdmissionStoragePolicy) : Rule where
  matchMode := policy.matchMode
  verdicts := policy.verdicts
  clusters := policy.clusters
  gvks := policy.gvks
  namespaces := policy.namespaces

/-- `NormalizedGVR`. -/
def normalizedGVR (apiGroup resource : String) : String :=
  if apiGroup = "" then resource else apiGroup ++ "/" ++ resource

/-- `matchesAny`. -/
def matchesAny (values : List String) (value : String) : Bool :=
  if values.length = 0 then true else values.any fun candidate => trimSpace candidate = value

/-- The body of the loop in `MatchIndex`. -/
def Rule.matchesEvent (rule : Rule) (event : RuleEvent) : Bool :=
  let conditionsMatch :=
    matchesAny rule.verdicts event.verdict && matchesAny rule.clusters event.clusterName &&
      matchesAny rule.gvks (normalizedGVR event.apiGroup event.resource) &&
      matchesAny rule.namespaces event.namespaceName
  if rule.matchMode = .exclude then !conditionsMatch else conditionsMatch

/-- `MatchIndex`, with none for -1. -/
def matchIndex (rules : List Rule) (event : RuleEvent) : Option Nat :=
  rules.findIdx? fun rule => rule.matchesEvent event

/-- `ShouldStore`. -/
def shouldStore (rules : List Rule) (event : RuleEvent) : Bool :=
  if rules.length = 0 then true else (matchIndex rules event).isSome

/-- An event is stored when there is no rule or when some rule matches; the
order of the rules does not matter. -/
theorem shouldStore_iff (rules : List Rule) (event : RuleEvent) :
    shouldStore rules event = true ↔
      rules = [] ∨ ∃ rule ∈ rules, rule.matchesEvent event = true := by
  unfold shouldStore matchIndex
  split
  · rename_i hnone
    simp [List.eq_nil_of_length_eq_zero hnone]
  · rename_i hsome
    have hne : rules ≠ [] := fun h => hsome (by rw [h]; rfl)
    simp [hne, List.findIdx?_isSome]

end KubeSentry.Admission
