import KubeSentry.Webhook.Verdict

/-!
# Policy evaluation

`internal/webhook/evaluator.go`: `EvaluatePolicy` runs the prepared query
`data.kubesentry.deny` and turns what OPA returns into messages.  `Webhook.Handler`
takes the evaluation as a parameter; here it is filled in, with `Eval` of OPA as
the parameter that is left.

OPA hands a set over as a Go slice, like an array.  The loop keeps the strings
of the slice and drops every other element, and the handler takes an empty list
for a policy that allows.  So a set without a string is a violation that nobody
sees: `violation_kept_iff` says when the response still denies.
-/

namespace KubeSentry.Webhook

open GoLib

variable {Query : Type}

/-! ## The evaluation -/

/-- A value that OPA returns, as a Go `interface{}`.  A number is the text of a
`json.Number`, and a set is a slice. -/
inductive JsonValue where
  | null
  | bool (b : Bool)
  | number (text : String)
  | string (s : String)
  | array (items : List JsonValue)
  | object (fields : List (String × JsonValue))

/-- The type assertion `v.(string)`. -/
def JsonValue.asString : JsonValue → Option String
  | .string s => some s
  | _ => none

/-- `rego.Result`, with the values of its expressions. -/
structure RegoResult where
  expressions : List JsonValue

/-- `EvaluatePolicy`, on what `q.Eval` returns. -/
def evaluatePolicy (eval : Except String (List RegoResult)) : Except String (List String) :=
  match eval with
  | .error err => .error ("opa eval: " ++ err)
  | .ok [] => .ok []
  | .ok (r :: _) =>
    match r.expressions with
    | [] => .ok []
    | .array raw :: _ => if raw.length = 0 then .ok [] else .ok (raw.filterMap JsonValue.asString)
    | _ :: _ => .ok []

/-- `Eval` of the prepared query of a policy on the input built from a request. -/
abbrev OpaEval (Query : Type) := Query → AdmissionRequest → Except String (List RegoResult)

/-- The handler that evaluates with OPA. -/
def Handler.withOpa (h : Handler Query) (eval : OpaEval Query) : Handler Query :=
  { h with evaluatePolicy := fun query req => Webhook.evaluatePolicy (eval query req) }

/-- The policies that `ServeHTTP` hands to `evaluate`: resolved with a mode, and
not exempt. -/
def Handler.resolvedFor (h : Handler Query) (order : HandlerOrder) (req : AdmissionRequest) :
    List (Resolved Query) :=
  h.dropExempt req (matchingForRequest h.store order.matching (h.requestKey req))

/-! ## Deny sets -/

/-- The value of `data.kubesentry.deny` is this set. -/
def DenySet (eval : Except String (List RegoResult)) (elems : List JsonValue) : Prop :=
  ∃ r rest others, eval = .ok (r :: rest) ∧ r.expressions = .array elems :: others

theorem evaluatePolicy_of_denySet {eval : Except String (List RegoResult)}
    {elems : List JsonValue} (h : DenySet eval elems) :
    evaluatePolicy eval = .ok (elems.filterMap JsonValue.asString) := by
  obtain ⟨r, rest, others, heval, hexpr⟩ := h
  rw [heval]
  simp only [evaluatePolicy, hexpr]
  split
  · rename_i hlength
    rw [List.eq_nil_of_length_eq_zero hlength]
    rfl
  · rfl

/-- Where the evaluation returns a message, the value is a set with a string. -/
theorem denySet_of_evaluatePolicy {eval : Except String (List RegoResult)} {msgs : List String}
    (h : evaluatePolicy eval = .ok msgs) (hmsgs : msgs ≠ []) :
    ∃ elems, DenySet eval elems ∧ msgs = elems.filterMap JsonValue.asString := by
  unfold evaluatePolicy at h
  split at h
  · simp at h
  · simp only [Except.ok.injEq] at h
    exact absurd h.symm hmsgs
  · rename_i r rest
    split at h
    · simp only [Except.ok.injEq] at h
      exact absurd h.symm hmsgs
    · rename_i raw others hexpr
      refine ⟨raw, ⟨r, rest, others, rfl, hexpr⟩, ?_⟩
      split at h
      · simp only [Except.ok.injEq] at h
        exact absurd h.symm hmsgs
      · simp only [Except.ok.injEq] at h
        exact h.symm
    · simp only [Except.ok.injEq] at h
      exact absurd h.symm hmsgs

theorem asString_eq_some_iff (v : JsonValue) (s : String) :
    v.asString = some s ↔ v = .string s := by
  cases v with
  | string s' => simp [JsonValue.asString]
  | _ => simp [JsonValue.asString]

/-- The messages of a set are its strings. -/
theorem strings_ne_nil_iff (elems : List JsonValue) :
    elems.filterMap JsonValue.asString ≠ [] ↔ ∃ s, JsonValue.string s ∈ elems := by
  constructor
  · intro h
    obtain ⟨s, hs⟩ := List.exists_mem_of_ne_nil _ h
    obtain ⟨v, hv, hstring⟩ := List.mem_filterMap.mp hs
    rw [(asString_eq_some_iff v s).mp hstring] at hv
    exact ⟨s, hv⟩
  · intro h
    obtain ⟨s, hs⟩ := h
    exact List.ne_nil_of_mem (List.mem_filterMap.mpr ⟨_, hs, rfl⟩)

variable (eval : Except String (List RegoResult))

/-- The evaluation fails exactly when OPA does. -/
theorem evaluatePolicy_eq_error_iff :
    (∃ err, evaluatePolicy eval = .error err) ↔ ∃ err, eval = .error err := by
  constructor
  · intro h
    obtain ⟨err, herr⟩ := h
    unfold evaluatePolicy at herr
    split at herr
    · exact ⟨_, rfl⟩
    · cases herr
    · split at herr
      · cases herr
      · split at herr
        · cases herr
        · cases herr
      · cases herr
  · intro h
    obtain ⟨err, herr⟩ := h
    rw [herr]
    exact ⟨_, rfl⟩

/-- The evaluation returns a message exactly when the value is a set with a
string. -/
theorem evaluatePolicy_message_iff :
    (∃ msgs, evaluatePolicy eval = .ok msgs ∧ msgs ≠ []) ↔
      ∃ elems s, DenySet eval elems ∧ JsonValue.string s ∈ elems := by
  constructor
  · intro h
    obtain ⟨msgs, heval, hmsgs⟩ := h
    obtain ⟨elems, hset, heq⟩ := denySet_of_evaluatePolicy heval hmsgs
    rw [heq] at hmsgs
    obtain ⟨s, hs⟩ := (strings_ne_nil_iff elems).mp hmsgs
    exact ⟨elems, s, hset, hs⟩
  · intro h
    obtain ⟨elems, s, hset, hs⟩ := h
    exact ⟨_, evaluatePolicy_of_denySet hset, (strings_ne_nil_iff elems).mpr ⟨s, hs⟩⟩

/-! ## The response -/

/-- What makes a resolved policy count against the request: in mode enforce a
failed evaluation does, and outside mode audit a set with a string does. -/
def Resolved.Objects (eval : OpaEval Query) (req : AdmissionRequest) (r : Resolved Query) : Prop :=
  (r.mode = .enforce ∧ ∃ err, eval r.policy.query req = .error err) ∨
    (r.mode ≠ .audit ∧ ∃ elems s, DenySet (eval r.policy.query req) elems ∧
      JsonValue.string s ∈ elems)

theorem enforceMessages_ne_nil_iff_objects (eval : OpaEval Query) (req : AdmissionRequest)
    (r : Resolved Query) :
    enforceMessages (fun query req => evaluatePolicy (eval query req)) req r ≠ [] ↔
      r.Objects eval req := by
  unfold Resolved.Objects
  rw [← evaluatePolicy_eq_error_iff, ← evaluatePolicy_message_iff]
  unfold enforceMessages
  dsimp only
  cases evaluatePolicy (eval r.policy.query req) with
  | error err => by_cases hmode : r.mode = .enforce <;> simp [hmode]
  | ok msgs => by_cases hmode : r.mode = .audit <;> simp [hmode]

/-- The response denies exactly when a resolved policy objects. -/
theorem serveHTTP_denies_iff_objects (h : Handler Query) (eval : OpaEval Query)
    (hstore : h.store.ready = true) (hexceptions : h.exceptions.ready = true)
    (order : HandlerOrder) (req : AdmissionRequest) :
    ∃ resp, (h.withOpa eval).serveHTTP order (.ok (some req)) = .review resp ∧
      (resp.allowed = false ↔ ∃ r ∈ h.resolvedFor order req, r.Objects eval req) := by
  have hready : (h.withOpa eval).serveHTTP order (.ok (some req)) =
      .review (evaluate (fun query req => evaluatePolicy (eval query req)) order.completion req
        (h.resolvedFor order req)) := by
    rw [Handler.serveHTTP]
    simp only [Handler.withOpa, hstore, hexceptions]
    rfl
  refine ⟨_, hready, ?_⟩
  have hmem : ∀ r, r ∈ order.completion.run (h.resolvedFor order req) ↔
      r ∈ h.resolvedFor order req := fun r => (order.completion.perm _).mem_iff
  simp only [← enforceMessages_ne_nil_iff_objects, ← hmem]
  rw [evaluate_spec, ← entries_ne_nil_iff]
  split
  · rename_i hnone
    simp [hnone]
  · rename_i hsome
    simp [hsome]

/-- A policy in mode enforce with a deny set makes the response deny exactly
when the set has a string in it, or when another policy objects. -/
theorem violation_kept_iff (h : Handler Query) (eval : OpaEval Query)
    (hstore : h.store.ready = true) (hexceptions : h.exceptions.ready = true)
    (order : HandlerOrder) (req : AdmissionRequest) (r : Resolved Query)
    (hr : r ∈ h.resolvedFor order req) (hmode : r.mode = .enforce) (elems : List JsonValue)
    (hset : DenySet (eval r.policy.query req) elems) :
    ∃ resp, (h.withOpa eval).serveHTTP order (.ok (some req)) = .review resp ∧
      (resp.allowed = false ↔
        (∃ s, JsonValue.string s ∈ elems) ∨
          ∃ r' ∈ h.resolvedFor order req, r' ≠ r ∧ r'.Objects eval req) := by
  obtain ⟨resp, hresp, hdenies⟩ :=
    serveHTTP_denies_iff_objects h eval hstore hexceptions order req
  refine ⟨resp, hresp, hdenies.trans ?_⟩
  constructor
  · intro hobjects
    obtain ⟨r', hr', hobjects⟩ := hobjects
    by_cases hsame : r' = r
    · subst hsame
      rw [← enforceMessages_ne_nil_iff_objects] at hobjects
      simp only [enforceMessages, evaluatePolicy_of_denySet hset, hmode] at hobjects
      exact .inl ((strings_ne_nil_iff elems).mp hobjects)
    · exact .inr ⟨r', hr', hsame, hobjects⟩
  · intro hcases
    rcases hcases with hstring | hother
    · obtain ⟨s, hs⟩ := hstring
      refine ⟨r, hr, .inr ⟨?_, elems, s, hset, hs⟩⟩
      rw [hmode]
      decide
    · obtain ⟨r', hr', -, hobjects⟩ := hother
      exact ⟨r', hr', hobjects⟩

/-- Every order as it comes. -/
def plainOrder : HandlerOrder where
  matching := ⟨Shuffle.id, fun _ => Shuffle.id, Shuffle.id⟩
  completion := Shuffle.id

/-- A rule in the style `deny[obj]` with an object in place of a message. -/
def objectViolation : JsonValue :=
  .object [("msg", .string "runs as root")]

/-- OPA for a policy with this deny set. -/
def denyEval (elems : List JsonValue) : OpaEval Unit :=
  fun _ _ => .ok [{ expressions := [.array elems] }]

/-- The one policy of `strictHandler`, as it is resolved for the pod. -/
def noRootResolved : Resolved Unit where
  policy :=
    { name := "no-root", query := ()
      matching := { operations := ["CREATE"]
                    resources := [{ apiGroups := [""], resources := ["pods"] }] } }
  mode := .enforce
  groups := ["baseline"]

/-- The policy is in mode enforce and its deny set has an element, but the pod
is allowed without even a warning. -/
theorem object_violation_allows :
    ∃ r ∈ strictHandler.resolvedFor plainOrder createPod, r.mode = .enforce ∧
      DenySet (denyEval [objectViolation] r.policy.query createPod) [objectViolation] ∧
      (strictHandler.withOpa (denyEval [objectViolation])).serveHTTP plainOrder
        (.ok (some createPod)) = .review { uid := "1", allowed := true } := by
  refine ⟨noRootResolved, ?_, rfl, ⟨_, _, _, rfl, rfl⟩, rfl⟩
  exact List.mem_singleton_self _

/-- With a string in the set, next to the object, the pod is denied. -/
theorem violation_kept_iff_string :
    ∃ resp, (strictHandler.withOpa (denyEval [objectViolation, .string "runs as root"])).serveHTTP
        plainOrder (.ok (some createPod)) = .review resp ∧ resp.allowed = false := by
  have hr : noRootResolved ∈ strictHandler.resolvedFor plainOrder createPod := by
    exact List.mem_singleton_self _
  obtain ⟨resp, hresp, hdenied⟩ := violation_kept_iff strictHandler
    (denyEval [objectViolation, .string "runs as root"]) rfl rfl plainOrder createPod
    noRootResolved hr rfl _ ⟨_, _, _, rfl, rfl⟩
  exact ⟨resp, hresp, hdenied.mpr (.inl ⟨"runs as root", by simp⟩)⟩

end KubeSentry.Webhook
