import KubeSentry.Webhook.ExceptionCache

/-!
# The admission handler

`internal/webhook/handler.go`: a review is answered by the policies that match
it, without the exempt ones, each evaluated in its own goroutine.

`EvaluatePolicy` runs OPA and is a parameter: for a query and a request it
gives an error or a list of messages.  A goroutine does one locked append at
most, so what the goroutines leave behind depends only on the order in which
they finish.  `HandlerOrder` holds that order next to the orders of the cache
lookup.

The orders show in the response only as the order of the violations and of the
group names in a header.  `Webhook.Verdict` compares the response with the
policies in `toEvaluate`, which has no order in it.
-/

namespace KubeSentry.Webhook

open GoLib

variable {Query : Type}

/-! ## Requests and responses -/

/-- The raw object of a request, as `extractObjectLabels` sees it. -/
inductive RawObject where
  | empty
  | malformed
  | decoded (labels : Labels)

structure AdmissionRequest where
  uid : String
  namespaceName : String
  apiGroup : String
  resource : String
  operation : String
  object : RawObject

/-- `metav1.Status`. -/
structure Status where
  code : Nat
  message : String
  deriving DecidableEq

structure AdmissionResponse where
  uid : String
  allowed : Bool
  result : Option Status := none
  warnings : List String := []
  deriving DecidableEq

/-- What `ServeHTTP` writes. -/
inductive HttpReply where
  | error (text : String) (status : Nat)
  | review (response : AdmissionResponse)
  deriving DecidableEq

/-- `Handler`.  The lister answers with labels, with a nil map, or not at all. -/
structure Handler (Query : Type) where
  store : PolicyCache Query
  exceptions : ExceptionCache
  nsLister : String → Option (Option Labels)
  evaluatePolicy : Query → AdmissionRequest → Except String (List String)

structure HandlerOrder where
  matching : MatchOrder
  completion : Shuffle

/-- `extractObjectLabels`; a nil map reads like the empty one. -/
def extractObjectLabels (req : AdmissionRequest) : Labels :=
  match req.object with
  | .empty => ∅
  | .malformed => ∅
  | .decoded labels => labels

/-- `formatViolation`. -/
def formatViolation (r : Resolved Query) (msg : String) : String :=
  let via := if r.groups.length > 0 then " via " ++ ",".intercalate r.groups else ""
  let s := "[" ++ r.policy.name ++ via ++ "] " ++ msg
  if r.policy.description ≠ "" then s ++ "\n  描述：" ++ r.policy.description else s

/-! ## Evaluation -/

/-- `resolvedResult`. -/
structure ResolvedResult (Query : Type) where
  resolved : Resolved Query
  msgs : List String

/-- The two result slices. -/
structure Results (Query : Type) where
  enforceResults : List (ResolvedResult Query) := []
  auditResults : List (ResolvedResult Query) := []

/-- The body of one goroutine. -/
def Results.collect (evaluatePolicy : Query → AdmissionRequest → Except String (List String))
    (req : AdmissionRequest) (acc : Results Query) (r : Resolved Query) : Results Query :=
  match evaluatePolicy r.policy.query req with
  | .error _ =>
    if r.mode = .enforce then
      { acc with
        enforceResults :=
          acc.enforceResults ++ [⟨r, ["policy evaluation error: " ++ r.policy.name]⟩] }
    else acc
  | .ok msgs =>
    if msgs.length = 0 then acc
    else if r.mode = .audit then { acc with auditResults := acc.auditResults ++ [⟨r, msgs⟩] }
    else { acc with enforceResults := acc.enforceResults ++ [⟨r, msgs⟩] }

/-- The violations of a result slice, in its order. -/
def violations (results : List (ResolvedResult Query)) : List String :=
  results.flatMap fun rr => rr.msgs.map (formatViolation rr.resolved)

/-- `evaluate`. -/
def evaluate (evaluatePolicy : Query → AdmissionRequest → Except String (List String))
    (order : Shuffle) (req : AdmissionRequest) (resolved : List (Resolved Query)) :
    AdmissionResponse :=
  if resolved.length = 0 then { uid := req.uid, allowed := true }
  else
    let results := (order.run resolved).foldl (Results.collect evaluatePolicy req) {}
    if results.enforceResults.length > 0 then
      let parts := violations results.enforceResults ++ violations results.auditResults
      { uid := req.uid, allowed := false
        result := some { code := 403, message := "\n\n".intercalate parts } }
    else if results.auditResults.length > 0 then
      { uid := req.uid, allowed := true, warnings := violations results.auditResults }
    else { uid := req.uid, allowed := true }

/-! ## The handler -/

/-- The namespace labels of a request: none where the lookup fails, and the
empty map for a cluster-scoped resource. -/
def namespaceLabels (nsLister : String → Option (Option Labels)) (req : AdmissionRequest) :
    Option Labels :=
  if req.namespaceName ≠ "" then
    match nsLister req.namespaceName with
    | some labels => some (labels.getD ∅)
    | none => none
  else some ∅

/-- The arguments of `MatchingForRequest`. -/
def Handler.requestKey (h : Handler Query) (req : AdmissionRequest) : RequestKey where
  resource := req.resource
  apiGroup := req.apiGroup
  operation := req.operation
  namespaceLabels := namespaceLabels h.nsLister req

/-- The arguments of `ExemptedKeys`, besides the policies. -/
def Handler.exemptQuery (h : Handler Query) (req : AdmissionRequest) : ExemptQuery where
  namespaceName := req.namespaceName
  namespaceLabels := namespaceLabels h.nsLister req
  resourceLabels := extractObjectLabels req

/-- The block of `ServeHTTP` that drops the exempt policies. -/
def Handler.dropExempt (h : Handler Query) (req : AdmissionRequest)
    (resolved : List (Resolved Query)) : List (Resolved Query) :=
  if resolved.length > 0 then
    let exempt := h.exceptions.exemptedKeys (h.exemptQuery req) (resolved.map Resolved.policy)
    if exempt.size > 0 then resolved.filter fun r => !isExempt exempt r.policy.name
    else resolved
  else resolved

/-- `ServeHTTP`.  The body is what the JSON decoder made of it. -/
def Handler.serveHTTP (h : Handler Query) (order : HandlerOrder)
    (body : Except String (Option AdmissionRequest)) : HttpReply :=
  if !h.store.ready || !h.exceptions.ready then .error "cache not ready" 503
  else
    match body with
    | .error _ => .error "invalid request body" 400
    | .ok none => .error "missing admission request" 400
    | .ok (some req) =>
      let resolved := matchingForRequest h.store order.matching (h.requestKey req)
      .review (evaluate h.evaluatePolicy order.completion req (h.dropExempt req resolved))

end KubeSentry.Webhook
