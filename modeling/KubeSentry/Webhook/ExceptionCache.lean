import KubeSentry.GoLib.Buckets
import KubeSentry.Webhook.PolicyCache

/-!
# The exception cache of the webhook

`internal/webhook/exception_cache.go`: the active exceptions, held three times.
`all` finds an entry by the exception's name.  `nsIndex` lists the entries of
each namespace, and `global` the entries without a namespace list.  The three
are kept in step by pointer identity, so an entry is a `Ptr` with the address
of its allocation, and `next` is the allocator.

A range over the namespaces of an entry has no fixed order; each operation
takes the orders of its ranges.

`isExempt_exemptedKeys` says what the lookup answers from the index lists alone.
Whether the lists hold the right entries is the business of `ExceptionIndex`.
-/

namespace KubeSentry.Webhook

open GoLib

variable {Query : Type}

/-! ## Entries -/

/-- `exemptEntry`.  The source keeps a flag beside each selector, which it sets
together with the selector; the two are one `Option` here. -/
structure ExemptEntry where
  name : String
  policyRefs : GoSet
  policyGroupRefs : GoSet
  allPolicies : Bool
  namespaces : GoSet
  namespaceSel : Option Selector
  resourceSel : Option Selector

/-- What `ExemptedKeys` asks about: `namespaceLabels` is nil where the caller
could not resolve them. -/
structure ExemptQuery where
  namespaceName : String
  namespaceLabels : Option Labels
  resourceLabels : Labels

section

variable [Apimachinery]

/-- The two selector blocks of `compile`: a selector that does not parse is
left out. -/
def compileSelector : Option LabelSelector → Option Selector
  | none => none
  | some s =>
    match Apimachinery.labelSelectorAsSelector s with
    | .ok sel => some sel
    | .error _ => none

/-- `compile`. -/
def compile (pex : PolicyException) : ExemptEntry where
  name := pex.name
  policyRefs := setOf pex.spec.policyRefs
  policyGroupRefs := setOf pex.spec.policyGroupRefs
  allPolicies := pex.spec.allPolicies
  namespaces := setOf pex.spec.matching.namespaces
  namespaceSel := compileSelector pex.spec.matching.namespaceSelector
  resourceSel := compileSelector pex.spec.matching.resourceSelector

end

/-! ## The cache -/

structure ExceptionCache where
  all : GoMap (Ptr ExemptEntry) := ∅
  nsIndex : GoMap (List (Ptr ExemptEntry)) := ∅
  global : List (Ptr ExemptEntry) := []
  ready : Bool := false
  /-- The next free address. -/
  next : Nat := 0

/-- The pointer comparison `e != target`. -/
def notSame (target e : Ptr ExemptEntry) : Bool :=
  e.addr ≠ target.addr

/-- `removeEntry`. -/
def removeEntry (list : List (Ptr ExemptEntry)) (target : Ptr ExemptEntry) :
    List (Ptr ExemptEntry) :=
  list.filter (notSame target)

variable (c : ExceptionCache)

/-- `removeUnlocked`.  In `nsIndex` it is `removeEntry` bucket by bucket. -/
def ExceptionCache.removeUnlocked (order : Shuffle) (name : String) : ExceptionCache :=
  match c.all[name]? with
  | none => c
  | some old =>
    let c := { c with all := c.all.erase name }
    if old.value.namespaces.isEmpty then { c with global := removeEntry c.global old }
    else
      { c with
        nsIndex := filterAt (order.run old.value.namespaces.keys) (notSame old) c.nsIndex }

/-- `Delete`. -/
def ExceptionCache.delete (order : Shuffle) (name : String) : ExceptionCache :=
  c.removeUnlocked order name

/-- The rest of `Upsert` once the old entry is gone. -/
def ExceptionCache.insertEntry (order : Shuffle) (name : String)
    (entry : Ptr ExemptEntry) : ExceptionCache :=
  let c := { c with all := c.all.insert name entry }
  if entry.value.namespaces.isEmpty then { c with global := c.global ++ [entry] }
  else
    { c with nsIndex := appendAt (order.run entry.value.namespaces.keys) entry c.nsIndex }

/-- The allocation in `compile`. -/
def ExceptionCache.alloc : ExceptionCache :=
  { c with next := c.next + 1 }

/-- `Upsert`.  A phase other than Active deletes. -/
def ExceptionCache.upsert [Apimachinery] (removal insertion : Shuffle)
    (pex : PolicyException) : ExceptionCache :=
  if pex.status.phase ≠ .active then c.delete removal pex.name
  else
    (c.alloc.removeUnlocked removal pex.name).insertEntry insertion pex.name
      ⟨c.next, compile pex⟩

/-! ## The lookup -/

/-- The three `continue` checks at the head of the loop in `ExemptedKeys`. -/
def entryApplies (entry : ExemptEntry) (q : ExemptQuery) : Bool :=
  selectorHolds entry.resourceSel (some q.resourceLabels) &&
    selectorHolds entry.namespaceSel q.namespaceLabels

/-- The entry targets the policy. -/
def entryTargets (entry : ExemptEntry) (p : CompiledPolicy Query) : Bool :=
  entry.allPolicies || entry.policyRefs.contains p.name ||
    p.referencedBy.any fun group => entry.policyGroupRefs.contains group

/-- One round of the loop. -/
def exemptStep (q : ExemptQuery) (policies : List (CompiledPolicy Query)) (out : GoMap Bool)
    (entry : Ptr ExemptEntry) : GoMap Bool :=
  if !entryApplies entry.value q then out
  else if entry.value.allPolicies then
    policies.foldl (fun out p => out.insert p.name true) out
  else
    policies.foldl
      (fun out p =>
        if entry.value.policyRefs.contains p.name then out.insert p.name true
        else if p.referencedBy.any fun group => entry.value.policyGroupRefs.contains group then
          out.insert p.name true
        else out)
      out

/-- The entries that `ExemptedKeys` looks at. -/
def ExceptionCache.candidates (namespaceName : String) : List (Ptr ExemptEntry) :=
  c.global ++ bucket c.nsIndex namespaceName

/-- `ExemptedKeys`.  The nil map of the early return reads like the empty one. -/
def ExceptionCache.exemptedKeys (q : ExemptQuery)
    (policies : List (CompiledPolicy Query)) : GoMap Bool :=
  let candidates := c.candidates q.namespaceName
  if candidates.length = 0 then ∅
  else candidates.foldl (exemptStep q policies) ∅

/-- The read `exempt[name]` of a Go map. -/
def isExempt (out : GoMap Bool) (name : String) : Bool :=
  out[name]?.getD false

theorem isExempt_insert (out : GoMap Bool) (key name : String) :
    isExempt (out.insert key true) name = true ↔ isExempt out name = true ∨ key = name := by
  unfold isExempt
  rw [getElem?_insert_key]
  split
  · rename_i h
    simp [h]
  · rename_i h
    simp [h]

/-- The loops over the policies: the names of those that pass a test. -/
theorem isExempt_foldl (test : CompiledPolicy Query → Bool)
    (policies : List (CompiledPolicy Query)) (out : GoMap Bool) (name : String) :
    isExempt (policies.foldl (fun out p => if test p then out.insert p.name true else out) out)
        name = true ↔
      isExempt out name = true ∨ ∃ p ∈ policies, p.name = name ∧ test p = true := by
  induction policies generalizing out with
  | nil => simp
  | cons p rest ih =>
    rw [List.foldl_cons, ih, List.exists_mem_cons_iff, ← or_assoc]
    refine or_congr_left ?_
    split
    · rename_i htest
      rw [isExempt_insert]
      simp [htest]
    · rename_i htest
      simp [htest]

theorem exemptStep_eq (q : ExemptQuery) (policies : List (CompiledPolicy Query))
    (out : GoMap Bool) (entry : Ptr ExemptEntry) :
    exemptStep q policies out entry =
      if entryApplies entry.value q then
        policies.foldl
          (fun out p => if entryTargets entry.value p then out.insert p.name true else out) out
      else out := by
  unfold exemptStep entryTargets
  cases entryApplies entry.value q with
  | false => rfl
  | true =>
    cases entry.value.allPolicies with
    | true => simp
    | false =>
      simp only [Bool.not_true, Bool.false_eq_true, if_false, if_true, Bool.false_or,
        Bool.or_eq_true]
      congr 1
      funext out p
      split
      · rename_i h
        simp [h]
      · rename_i h
        simp [h]

theorem isExempt_foldl_exemptStep (q : ExemptQuery) (policies : List (CompiledPolicy Query))
    (entries : List (Ptr ExemptEntry)) (out : GoMap Bool) (name : String) :
    isExempt (entries.foldl (exemptStep q policies) out) name = true ↔
      isExempt out name = true ∨ ∃ e ∈ entries, entryApplies e.value q = true ∧
        ∃ p ∈ policies, p.name = name ∧ entryTargets e.value p = true := by
  induction entries generalizing out with
  | nil => simp
  | cons e rest ih =>
    rw [List.foldl_cons, ih, List.exists_mem_cons_iff, ← or_assoc]
    refine or_congr_left ?_
    rw [exemptStep_eq]
    split
    · rename_i happlies
      rw [isExempt_foldl]
      simp [happlies]
    · rename_i happlies
      simp [happlies]

/-- A name is exempt when a candidate entry applies and targets a policy of
that name. -/
theorem isExempt_exemptedKeys (q : ExemptQuery)
    (policies : List (CompiledPolicy Query)) (name : String) :
    isExempt (c.exemptedKeys q policies) name = true ↔
      ∃ e ∈ c.candidates q.namespaceName, entryApplies e.value q = true ∧
        ∃ p ∈ policies, p.name = name ∧ entryTargets e.value p = true := by
  have hempty : isExempt ∅ name = false := by simp [isExempt]
  have hfold := isExempt_foldl_exemptStep q policies (c.candidates q.namespaceName) ∅ name
  rw [hempty] at hfold
  unfold ExceptionCache.exemptedKeys
  dsimp only
  split
  · rename_i hnone
    rw [List.eq_nil_of_length_eq_zero hnone, hempty]
    simp
  · rw [hfold]
    simp

end KubeSentry.Webhook
