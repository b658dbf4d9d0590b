import KubeSentry.GoLib.Map
import KubeSentry.GoLib.Text

/-!
# The `v1alpha1` types

The custom resources of `api/kubesentry/v1alpha1`, with the fields that the
modelled functions read or write.  A Go pointer that may be nil is an
`Option`.  A slice is a list, and a nil slice is the empty list: every
modelled reader goes through `len` or `range`.

`LabelSelectorAsSelector` belongs to `k8s.io/apimachinery`, which is not part
of the repository.  It is the one operation of the class `Apimachinery`, and
nothing is assumed about it.

Times are nanosecond counts.
-/

namespace KubeSentry

open GoLib

/-! ## Object metadata -/

/-- A label or annotation map. -/
abbrev Labels := GoMap String

/-- An instant, in nanoseconds. -/
abbrev Time := Int

/-- The part of `metav1.ObjectMeta` that the modelled code reads. -/
structure ObjectMeta where
  name : String
  labels : Labels := ∅
  annotations : Labels := ∅
  generation : Int := 0
  creationTimestamp : Time := 0
  deletionTimestamp : Option Time := none
  finalizers : List String := []
  deriving DecidableEq

/-- `metav1.LabelSelectorRequirement`. -/
structure LabelSelectorRequirement where
  key : String
  operator : String
  values : List String := []
  deriving DecidableEq

/-- `metav1.LabelSelector`. -/
structure LabelSelector where
  matchLabels : Labels := ∅
  matchExpressions : List LabelSelectorRequirement := []
  deriving DecidableEq

/-- The `Matches` method of a parsed `labels.Selector`. -/
abbrev Selector := Labels → Bool

/-- The operation of `k8s.io/apimachinery` that the repository calls. -/
class Apimachinery where
  /-- `metav1.LabelSelectorAsSelector`: the text of its error, or the parsed
  selector. -/
  labelSelectorAsSelector : LabelSelector → Except String Selector

/-- One requirement under the four documented operators. -/
def LabelSelectorRequirement.asSelector (r : LabelSelectorRequirement) : Except String Selector :=
  match r.operator with
  | "In" =>
    if r.values = [] then .error "for 'in', 'notin' operators, values set can't be empty"
    else .ok fun labels => r.values.any fun v => labels[r.key]? = some v
  | "NotIn" =>
    if r.values = [] then .error "for 'in', 'notin' operators, values set can't be empty"
    else .ok fun labels => !r.values.any fun v => labels[r.key]? = some v
  | "Exists" =>
    if r.values = [] then .ok fun labels => labels[r.key]?.isSome
    else .error "values set must be empty for exists and does not exist"
  | "DoesNotExist" =>
    if r.values = [] then .ok fun labels => labels[r.key]?.isNone
    else .error "values set must be empty for exists and does not exist"
  | operator => .error (operator ++ " is not a valid label selector operator")

/-- A concrete parser for runs on concrete inputs: the documented operators,
without the syntax checks on keys and values. -/
@[reducible] def Apimachinery.basic : Apimachinery where
  labelSelectorAsSelector s := do
    let requirements ← s.matchExpressions.mapM LabelSelectorRequirement.asSelector
    return fun labels =>
      s.matchLabels.toList.all (fun e => labels[e.1]? = some e.2) &&
        requirements.all fun matchesLabels => matchesLabels labels

/-! ## Modes and labels -/

/-- An `enforcementMode` field.  The Go field is a string; `unset` is the
empty one and `other` any text besides the two constants. -/
inductive EnforcementMode where
  | unset
  | enforce
  | audit
  | other (text : String)
  deriving DecidableEq, Repr

/-- `ModeEnforce` or `ModeAudit`. -/
def EnforcementMode.IsSet (m : EnforcementMode) : Prop :=
  m = .enforce ∨ m = .audit

/-- `ModeEnforce`, `ModeAudit` or empty. -/
def EnforcementMode.IsKnown (m : EnforcementMode) : Prop :=
  m = .unset ∨ m = .enforce ∨ m = .audit

instance (m : EnforcementMode) : Decidable m.IsSet :=
  inferInstanceAs (Decidable (_ ∨ _))

instance (m : EnforcementMode) : Decidable m.IsKnown :=
  inferInstanceAs (Decidable (_ ∨ _))

def managedByLabel : String := "kubesentry.io/managed-by"

def managedByPlatform : String := "platform"

def lastTraceIDAnnotation : String := "kubesentry.io/last-trace-id"

/-! ## Policies -/

structure MatchResource where
  apiGroups : List String := []
  apiVersions : List String := []
  resources : List String := []
  deriving DecidableEq

structure PolicyMatch where
  operations : List String := []
  resources : List MatchResource := []
  deriving DecidableEq

/-- `PolicySpec`.  The field `match` of the source is `matching` here,
because `match` is a keyword. -/
structure PolicySpec where
  matching : PolicyMatch := {}
  enforcementMode : EnforcementMode := .unset
  rego : String := ""
  description : String := ""
  rollbackTo : Option Int := none
  deriving DecidableEq

/-- A policy that audits new pods. -/
def PolicySpec.auditPods (rego : String) : PolicySpec where
  matching :=
    { operations := ["CREATE"]
      resources := [{ apiGroups := [""], apiVersions := ["v1"], resources := ["pods"] }] }
  enforcementMode := .audit
  rego := rego

structure Policy extends ObjectMeta where
  spec : PolicySpec := {}
  deriving DecidableEq

/-! ## Policy groups -/

structure PolicyRef where
  name : String
  enforcementMode : EnforcementMode := .unset
  deriving DecidableEq

structure PolicyGroupPolicies where
  byName : List PolicyRef := []
  bySelector : Option LabelSelector := none
  exclude : List String := []
  deriving DecidableEq

structure PolicyGroupSpec where
  displayName : String := ""
  description : String := ""
  enabled : Bool := false
  namespaceSelector : Option LabelSelector := none
  policies : PolicyGroupPolicies := {}
  selectorEnforcementMode : EnforcementMode := .unset
  deriving DecidableEq

structure PolicyGroup extends ObjectMeta where
  spec : PolicyGroupSpec := {}
  deriving DecidableEq

/-- `SourceByName` and `SourceBySelector`. -/
inductive MemberSource where
  | byName
  | bySelector
  deriving DecidableEq, Repr

structure EffectiveMember where
  name : String
  enforcementMode : EnforcementMode
  source : MemberSource
  deriving DecidableEq

/-! ## Policy exceptions -/

/-- The phases of a `PolicyException`.  `pending` is the empty text of an
object that no reconcile has seen yet. -/
inductive ExceptionPhase where
  | pending
  | active
  | expired
  | invalid
  deriving DecidableEq, Repr

structure PolicyExceptionMatch where
  namespaces : List String := []
  namespaceSelector : Option LabelSelector := none
  resourceSelector : Option LabelSelector := none
  deriving DecidableEq

/-- `PolicyExceptionSpec`, with `matching` for the source's `match`. -/
structure PolicyExceptionSpec where
  policyRefs : List String := []
  policyGroupRefs : List String := []
  allPolicies : Bool := false
  matching : PolicyExceptionMatch := {}
  duration : String := ""
  retainAfterExpiry : String := ""
  reason : String := ""
  deriving DecidableEq

structure PolicyExceptionStatus where
  phase : ExceptionPhase := .pending
  message : String := ""
  effectiveAt : Option Time := none
  expiresAt : Option Time := none
  observedGeneration : Int := 0
  deriving DecidableEq

structure PolicyException extends ObjectMeta where
  spec : PolicyExceptionSpec := {}
  status : PolicyExceptionStatus := {}
  deriving DecidableEq

end KubeSentry
