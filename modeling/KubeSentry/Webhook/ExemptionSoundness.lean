import KubeSentry.Operator.ExceptionReconciler
import KubeSentry.Webhook.ExceptionIndex

/-!
# Soundness of exemptions

An exception exempts a policy for the requests that its `match` describes.  The
dimensions of `match` are joined by and, so a request must satisfy every one
that is declared.  `Satisfies` says this without looking at the cache.

The cache agrees as long as the declared selectors parse.  `compile` drops a
selector that does not parse and keeps the exception, and the reconciler never
parses a selector before it puts an exception in phase Active.  Such an
exception exempts more requests than it declares.  The main result says exactly
which exceptions are sound.
-/

namespace KubeSentry.Webhook

open GoLib Operator

variable {Query : Type}

section

variable [Apimachinery]

/-- The request satisfies every declared dimension of `spec.match`. -/
structure Satisfies (pex : PolicyException) (q : ExemptQuery) : Prop where
  namespaces : pex.spec.matching.namespaces ≠ [] →
    q.namespaceName ∈ pex.spec.matching.namespaces
  namespaceSelector : ∀ s, pex.spec.matching.namespaceSelector = some s →
    ∃ sel labels, Apimachinery.labelSelectorAsSelector s = .ok sel ∧
      q.namespaceLabels = some labels ∧ sel labels = true
  resourceSelector : ∀ s, pex.spec.matching.resourceSelector = some s →
    ∃ sel, Apimachinery.labelSelectorAsSelector s = .ok sel ∧ sel q.resourceLabels = true

/-- A declared selector parses. -/
def SelectorAccepted (declared : Option LabelSelector) : Prop :=
  ∀ s, declared = some s → ∃ sel, Apimachinery.labelSelectorAsSelector s = .ok sel

/-- Both selectors of the exception parse where they are declared. -/
def SelectorsAccepted (pex : PolicyException) : Prop :=
  SelectorAccepted pex.spec.matching.namespaceSelector ∧
    SelectorAccepted pex.spec.matching.resourceSelector

/-- After the history, the lookup exempts the policy because of the exception:
the exception is the latest of its name, and its entry is a candidate that
applies and targets the policy. -/
def ExemptsBecauseOf (ops : List CacheOp) (pex : PolicyException) (q : ExemptQuery)
    (p : CompiledPolicy Query) : Prop :=
  latestActive ops pex.name = some pex ∧
    ∃ e ∈ (cacheAfter ops).candidates q.namespaceName, e.value.name = pex.name ∧
      entryApplies e.value q = true ∧ entryTargets e.value p = true

theorem exemptsBecauseOf_iff (ops : List CacheOp) (pex : PolicyException) (q : ExemptQuery)
    (p : CompiledPolicy Query) :
    ExemptsBecauseOf ops pex q p ↔ latestActive ops pex.name = some pex ∧
      exceptionApplies pex q = true ∧ exceptionTargets pex p = true := by
  unfold ExemptsBecauseOf
  rw [exists_candidate_iff ops q.namespaceName (fun entry => entry.name = pex.name ∧
    entryApplies entry q = true ∧ entryTargets entry p = true), exceptionApplies_iff]
  constructor
  · intro h
    obtain ⟨hlatest, name, pex', hlatest', hnamespace, hname, happlies, htargets⟩ := h
    -- The entry was found by its name, so it is the entry of `pex`.
    have hname' : pex.name = name := by
      rw [← hname]
      exact (latestActive_spec hlatest').1
    rw [← hname', hlatest] at hlatest'
    cases hlatest'
    rw [entryTargets_compile] at htargets
    exact ⟨hlatest, ⟨hnamespace, happlies⟩, htargets⟩
  · intro h
    obtain ⟨hlatest, ⟨hnamespace, happlies⟩, htargets⟩ := h
    rw [← entryTargets_compile] at htargets
    exact ⟨hlatest, pex.name, pex, hlatest, hnamespace, rfl, happlies, htargets⟩

/-- Every exemption of the lookup is because of some exception. -/
theorem isExempt_iff_exemptsBecauseOf (ops : List CacheOp) (q : ExemptQuery)
    (policies : List (CompiledPolicy Query)) (name : String) :
    isExempt ((cacheAfter ops).exemptedKeys q policies) name = true ↔
      ∃ p ∈ policies, p.name = name ∧ ∃ pex, ExemptsBecauseOf ops pex q p := by
  simp only [isExempt_cacheAfter, scanExempts_iff, exemptsBecauseOf_iff]
  constructor
  · intro h
    obtain ⟨p, hp, hname, key, pex, hlatest, happlies, htargets⟩ := h
    obtain ⟨hkey, -, -⟩ := latestActive_spec hlatest
    rw [← hkey] at hlatest
    exact ⟨p, hp, hname, pex, hlatest, happlies, htargets⟩
  · intro h
    obtain ⟨p, hp, hname, pex, hlatest, happlies, htargets⟩ := h
    exact ⟨p, hp, hname, pex.name, pex, hlatest, happlies, htargets⟩

/-- A declared selector that parses and holds. -/
theorem selectorHolds_of_accepted {declared : Option LabelSelector} {labels : Option Labels}
    (haccepted : SelectorAccepted declared)
    (h : selectorHolds (compileSelector declared) labels = true) {s : LabelSelector}
    (hs : declared = some s) :
    ∃ sel found, Apimachinery.labelSelectorAsSelector s = .ok sel ∧ labels = some found ∧
      sel found = true := by
  obtain ⟨sel, hsel⟩ := haccepted s hs
  rw [hs] at h
  simp only [compileSelector, hsel] at h
  cases labels with
  | none => exact absurd h (by simp [selectorHolds])
  | some found => exact ⟨sel, found, hsel, rfl, h⟩

variable {pex : PolicyException}

/-- The checks of the cache cover the declared dimensions, if the selectors
parse. -/
theorem satisfies_of_exceptionApplies {q : ExemptQuery} (haccepted : SelectorsAccepted pex)
    (h : exceptionApplies pex q = true) : Satisfies pex q := by
  simp only [exceptionApplies, Bool.and_eq_true, Bool.or_eq_true, List.isEmpty_iff,
    List.contains_iff_mem] at h
  obtain ⟨⟨hnamespace, hresource⟩, hns⟩ := h
  refine ⟨fun hdeclared => hnamespace.resolve_left hdeclared, ?_, ?_⟩
  · intro s hs
    exact selectorHolds_of_accepted haccepted.1 hns hs
  · intro s hs
    obtain ⟨sel, found, hsel, hfound, hholds⟩ :=
      selectorHolds_of_accepted haccepted.2 hresource hs
    cases hfound
    exact ⟨sel, hsel, hholds⟩

/-- A declared selector that does not parse is satisfied by no request. -/
theorem SelectorsAccepted.of_satisfies {q : ExemptQuery} (h : Satisfies pex q) :
    SelectorsAccepted pex := by
  refine ⟨fun s hs => ?_, fun s hs => ?_⟩
  · obtain ⟨sel, -, hsel, -, -⟩ := h.namespaceSelector s hs
    exact ⟨sel, hsel⟩
  · obtain ⟨sel, hsel, -⟩ := h.resourceSelector s hs
    exact ⟨sel, hsel⟩

omit [Apimachinery] in
/-- A single upsert makes an active exception the latest of its name. -/
theorem latestActive_upsert (hactive : pex.status.phase = .active) :
    latestActive [.upsert Shuffle.id Shuffle.id pex] pex.name = some pex := by
  simp [latestActive, CacheOp.target, CacheOp.leaves, hactive]

omit [Apimachinery] in
/-- An exception that the reconciler accepts targets some policy. -/
theorem exists_target [Inhabited Query]
    (h : pex.spec.policyRefs ≠ [] ∨ pex.spec.policyGroupRefs ≠ [] ∨ pex.spec.allPolicies = true) :
    ∃ p : CompiledPolicy Query, exceptionTargets pex p = true := by
  rcases h with hrefs | hgroups | hall
  · obtain ⟨name, hname⟩ := List.exists_mem_of_ne_nil _ hrefs
    exact ⟨{ name := name, query := default }, by simp [exceptionTargets, hname]⟩
  · obtain ⟨group, hgroup⟩ := List.exists_mem_of_ne_nil _ hgroups
    exact ⟨{ name := "", query := default, referencedBy := [group] },
      by simp [exceptionTargets, hgroup]⟩
  · exact ⟨{ name := "", query := default }, by simp [exceptionTargets, hall]⟩

/-- Soundness at one history, request and policy. -/
theorem satisfies_of_exempts_iff (ops : List CacheOp) (pex : PolicyException) (q : ExemptQuery)
    (p : CompiledPolicy Query) :
    (ExemptsBecauseOf ops pex q p → Satisfies pex q) ↔
      SelectorsAccepted pex ∨ latestActive ops pex.name ≠ some pex ∨
        exceptionApplies pex q = false ∨ exceptionTargets pex p = false := by
  rw [exemptsBecauseOf_iff]
  constructor
  · intro hsound
    by_cases hexempt : latestActive ops pex.name = some pex ∧ exceptionApplies pex q = true ∧
        exceptionTargets pex p = true
    · exact .inl (SelectorsAccepted.of_satisfies (hsound hexempt))
    · rw [not_and_or, not_and_or, Bool.not_eq_true, Bool.not_eq_true] at hexempt
      exact .inr hexempt
  · intro hcondition hexempt
    obtain ⟨hlatest, happlies, htargets⟩ := hexempt
    rcases hcondition with haccepted | hlatest' | happlies' | htargets'
    · exact satisfies_of_exceptionApplies haccepted happlies
    · exact absurd hlatest hlatest'
    · exact absurd (happlies.symm.trans happlies') (by simp)
    · exact absurd (htargets.symm.trans htargets') (by simp)

/-- Whatever the history, the request and the policy: the exception exempts
only requests that satisfy it. -/
def Sound (Query : Type) (pex : PolicyException) : Prop :=
  ∀ (ops : List CacheOp) (q : ExemptQuery) (p : CompiledPolicy Query),
    ExemptsBecauseOf ops pex q p → Satisfies pex q

/-- An exception in phase Active is sound exactly when its declared selectors
parse, or when no request meets its namespaces and the selectors that do.  The
second part is the same at one history, request and policy. -/
theorem exemption_sound_iff [GoUnicode] [Inhabited Query] {pex : PolicyException}
    (hput : PutActive pex) :
    (Sound Query pex ↔ SelectorsAccepted pex ∨ ∀ q, exceptionApplies pex q = false) ∧
    ∀ (ops : List CacheOp) (q : ExemptQuery) (p : CompiledPolicy Query),
      (ExemptsBecauseOf ops pex q p → Satisfies pex q) ↔
        SelectorsAccepted pex ∨ latestActive ops pex.name ≠ some pex ∨
          exceptionApplies pex q = false ∨ exceptionTargets pex p = false := by
  refine ⟨⟨?_, ?_⟩, fun ops q p => satisfies_of_exempts_iff ops pex q p⟩
  · intro hsound
    -- The reconciler's validation gives a policy that the exception targets.
    obtain ⟨durations, hspec⟩ := hput.validateSpec
    obtain ⟨p, hp⟩ : ∃ p : CompiledPolicy Query, exceptionTargets pex p = true :=
      exists_target (validateSpec_target hspec)
    rw [or_iff_not_imp_left]
    intro hrejected q
    rcases (satisfies_of_exempts_iff [.upsert Shuffle.id Shuffle.id pex] pex q p).mp
      (hsound _ q p) with haccepted | hlatest | happlies | htargets
    · exact absurd haccepted hrejected
    · exact absurd (latestActive_upsert hput.active) hlatest
    · exact happlies
    · exact absurd (hp.symm.trans htargets) (by simp)
  · intro hcondition ops q p
    rw [satisfies_of_exempts_iff]
    rcases hcondition with haccepted | happlies
    · exact .inl haccepted
    · exact .inr (.inr (.inl (happlies q)))

end

/-! ## An exception that exempts too much -/

attribute [local instance] Apimachinery.basic GoUnicode.ascii

/-- The objects with label `app`, by the given operator. -/
def appSelector (operator : String) : LabelSelector where
  matchExpressions := [{ key := "app", operator := operator }]

/-- An exception for these objects. -/
def labelledException (operator : String) (status : PolicyExceptionStatus) : PolicyException where
  name := "legacy"
  spec :=
    { policyRefs := ["no-root"]
      matching := { resourceSelector := some (appSelector operator) }
      duration := "1h"
      reason := "migration" }
  status := status

/-- The exception once the reconciler has put it in phase Active. -/
def activeException (operator : String) : PolicyException :=
  labelledException operator
    { phase := .active, effectiveAt := some 0, expiresAt := some 3600000000000 }

/-- The member cluster before that reconcile. -/
def exceptionMember (operator : String) : Member where
  policies := (∅ : GoMap Policy).insert "no-root"
    { name := "no-root", spec := .auditPods "package kubesentry" }
  exceptions := (∅ : GoMap PolicyException).insert "legacy" (labelledException operator {})

/-- A request for an object without labels. -/
def unlabelledRequest : ExemptQuery where
  namespaceName := "default"
  namespaceLabels := some ∅
  resourceLabels := ∅

theorem putActive_of_reconcile {operator : String}
    (h : (reconcile (fun _ => none) 0 (exceptionMember operator) "legacy").1["legacy"]? =
      some (activeException operator))
    (hok : (reconcile (fun _ => none) 0 (exceptionMember operator) "legacy").2 =
      .ok { requeueAfter := some 3600000000000 }) : PutActive (activeException operator) := by
  refine ⟨fun _ => none, 0, exceptionMember operator, "legacy",
    (reconcile (fun _ => none) 0 (exceptionMember operator) "legacy").1,
    { requeueAfter := some 3600000000000 }, ?_, h, rfl⟩
  rw [← hok]

/-- The operator `HasLabel` does not exist, so the selector is dropped, and the
exception exempts an object without the label. -/
theorem rejected_selector_exempts :
    PutActive (activeException "HasLabel") ∧
      ExemptsBecauseOf [.upsert Shuffle.id Shuffle.id (activeException "HasLabel")]
        (activeException "HasLabel") unlabelledRequest
        ({ name := "no-root", query := () } : CompiledPolicy Unit) ∧
      ¬ Satisfies (activeException "HasLabel") unlabelledRequest := by
  refine ⟨putActive_of_reconcile (by decide +kernel) (by decide +kernel), ?_, ?_⟩
  · exact (exemptsBecauseOf_iff _ _ _ _).mpr ⟨by decide, by decide, by decide⟩
  · intro h
    obtain ⟨sel, hsel, -⟩ := h.resourceSelector (appSelector "HasLabel") rfl
    have hrejected : (Apimachinery.labelSelectorAsSelector (appSelector "HasLabel")).isOk =
      false := by decide +kernel
    rw [hsel] at hrejected
    exact absurd hrejected (by simp [Except.isOk, Except.toBool])

/-- With the operator `Exists` the same exception is sound. -/
theorem exemption_sound_iff_exists :
    PutActive (activeException "Exists") ∧ Sound Unit (activeException "Exists") := by
  have hput : PutActive (activeException "Exists") :=
    putActive_of_reconcile (by decide +kernel) (by decide +kernel)
  refine ⟨hput, (exemption_sound_iff hput).1.mpr (.inl ⟨?_, ?_⟩)⟩
  · intro s hs
    exact absurd hs (by simp [activeException, labelledException])
  · intro s hs
    cases hs
    exact ⟨_, rfl⟩

end KubeSentry.Webhook
