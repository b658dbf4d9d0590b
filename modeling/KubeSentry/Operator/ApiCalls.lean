import KubeSentry.GoLib.Interleave
import KubeSentry.Api.Types

/-!
# Calls to the API server

A reconciler is a sequence of calls to the API server, and between two of them other
clients may change the objects.  A call can fail for reasons of its own, and then the
error has the reason `other`; the other reasons are answers of the server about the
objects it has.  A write that fails for a reason of its own may have been carried out.

The server refuses a write with a stale resource version as a conflict.
`retryOnConflict` is `retry.RetryOnConflict` with `DefaultBackoff`, which makes four
attempts.

The `ensures_` lemmas are the rules for these calls.
-/

namespace KubeSentry.Operator

open GoLib

/-- The reasons of an API error that the reconcilers look at. -/
inductive ApiReason where
  | notFound
  | alreadyExists
  | conflict
  | other
  deriving DecidableEq, Repr

structure ApiError where
  reason : ApiReason
  message : String
  deriving DecidableEq

/-- `fmt.Errorf` with `%w` at its end. -/
def ApiError.wrap (text : String) (err : ApiError) : ApiError :=
  { err with message := text ++ err.message }

/-- What the environment decides about a call: the time, the text of an error of its
own, and whether a write with such an error was carried out. -/
structure ApiInput where
  now : Time := 0
  fault : Option String := none
  carriedOut : Bool := false
  deriving DecidableEq

instance : Inhabited ApiInput := ⟨{}⟩

/-- Programs of API calls on the objects `S`. -/
abbrev ApiProg (S : Type) : Type → Type := Prog S ApiInput

abbrev ApiResult (R : Type) := Except ApiError R

variable {S R : Type}

def apiRead (f : S → ApiResult R) : ApiProg S (ApiResult R) :=
  .read fun s i =>
    match i.fault with
    | some text => .error ⟨.other, text⟩
    | none => f s

def apiWrite (f : S → ApiInput → ApiResult S) : ApiProg S (ApiResult Unit) :=
  .atomic fun s i =>
    match i.fault, f s i with
    | some text, .ok s' => (if i.carriedOut then s' else s, .error ⟨.other, text⟩)
    | some text, .error _ => (s, .error ⟨.other, text⟩)
    | none, .ok s' => (s', .ok ())
    | none, .error err => (s, .error err)

/-- `time.Now`. -/
def clock : ApiProg S Time :=
  .read fun _ i => i.now

def retryOnConflict (body : ApiProg S (ApiResult Unit)) : Nat → ApiProg S (ApiResult Unit)
  | 0 => body
  | retries + 1 => do
    match ← body with
    | .ok () => return .ok ()
    | .error err =>
      if err.reason = .conflict then retryOnConflict body retries else return .error err

/-- `client.IgnoreNotFound` around the error that a reconcile returns. -/
def ignoreNotFound (ok : R) (err : ApiError) : ApiResult R :=
  if err.reason = .notFound then .ok ok else .error err

/-! ## Rules -/

variable {rely : S → S → Prop} {ok : S → ApiInput → Prop} {does : S → S → Prop}
  {f : S → ApiResult R} {s0 : S}

theorem ensures_apiRead {post : S → ApiResult R → Prop} (hsame : ∀ s i, ok s i → does s s)
    (hfault : ∀ s text, rely s0 s → post s (.error ⟨.other, text⟩))
    (hread : ∀ s i, rely s0 s → ok s i → post s (f s)) :
    Prog.Ensures rely ok does post s0 (apiRead f) := by
  refine Prog.ensures_read fun s i hrely hok => ⟨hsame s i hok, ?_⟩
  cases i.fault with
  | none => exact hread s i hrely hok
  | some text => exact hfault s text hrely

variable {post : S → ApiResult Unit → Prop}

theorem ensures_apiWrite {f : S → ApiInput → ApiResult S} (hsame : ∀ s i, ok s i → does s s)
    (hfault : ∀ s text, rely s0 s → post s (.error ⟨.other, text⟩))
    (hrefused : ∀ s i err, rely s0 s → ok s i → f s i = .error err → post s (.error err))
    (hwrite : ∀ s i s', rely s0 s → ok s i → f s i = .ok s' →
      does s s' ∧ post s' (.ok ()) ∧ ∀ text, post s' (.error ⟨.other, text⟩)) :
    Prog.Ensures rely ok does post s0 (apiWrite f) := by
  refine Prog.ensures_atomic fun s i hrely hok => ?_
  cases i.fault with
  | none =>
    cases hf : f s i with
    | error err => exact ⟨hsame s i hok, hrefused s i err hrely hok hf⟩
    | ok s' =>
      obtain ⟨hdoes, hok', _⟩ := hwrite s i s' hrely hok hf
      exact ⟨hdoes, hok'⟩
  | some text =>
    cases hf : f s i with
    | error err => exact ⟨hsame s i hok, hfault s text hrely⟩
    | ok s' =>
      obtain ⟨hdoes, _, hlost⟩ := hwrite s i s' hrely hok hf
      cases i.carriedOut with
      | true => exact ⟨hdoes, hlost text⟩
      | false => exact ⟨hsame s i hok, hfault s text hrely⟩

/-- The rule for a write whose errors need no distinction. -/
theorem ensures_apiWrite_of_fail {f : S → ApiInput → ApiResult S} (hsame : ∀ s, does s s)
    (hfail : ∀ s err, rely s0 s → post s (.error err))
    (hwrite : ∀ s i s', rely s0 s → ok s i → f s i = .ok s' →
      does s s' ∧ post s' (.ok ()) ∧ ∀ text, post s' (.error ⟨.other, text⟩)) :
    Prog.Ensures rely ok does post s0 (apiWrite f) :=
  ensures_apiWrite (fun s _ _ => hsame s) (fun s _ hrely => hfail s _ hrely)
    (fun s _ err hrely _ _ => hfail s err hrely) hwrite

theorem ensures_clock {post : S → Time → Prop} (hsame : ∀ s i, ok s i → does s s)
    (h : ∀ s now, rely s0 s → post s now) : Prog.Ensures rely ok does post s0 clock :=
  Prog.ensures_read fun s i hrely hok => ⟨hsame s i hok, h s i.now hrely⟩

variable {body : ApiProg S (ApiResult Unit)}

/-- A retried body keeps what every round keeps and ends with one of its results. -/
theorem ensures_retryOnConflict {P : S → Prop} {Q : S → ApiResult Unit → Prop}
    (hbody : ∀ s0, P s0 → Prog.Ensures rely ok does
      (fun s r => Q s r ∧ ∀ err, r = .error err → err.reason = .conflict → P s) s0 body)
    (retries : Nat) : ∀ {s0 : S}, P s0 →
      Prog.Ensures rely ok does Q s0 (retryOnConflict body retries) := by
  induction retries with
  | zero =>
    intro s0 h
    exact Prog.ensures_mono (fun s r hr => hr.1) (hbody s0 h)
  | succ retries ih =>
    intro s0 h
    refine Prog.ensures_bind (Prog.ensures_mono (fun s r hr => ?_) (hbody s0 h))
    obtain ⟨hQ, hP⟩ := hr
    cases r with
    | ok u => exact hQ
    | error err =>
      change Prog.Ensures rely ok does Q s
        (if err.reason = .conflict then retryOnConflict body retries else .ret (.error err))
      split
      next hconflict => exact ih (hP err rfl hconflict)
      next => exact hQ

/-! ## Runs without others -/

variable {R' : Type} {input : ApiInput}

theorem exec_apiRead_ok (h : input.fault = none) (next : ApiResult R → ApiProg S R') (s : S)
    (rest : List ApiInput) :
    (apiRead f >>= next).exec s (input :: rest) = (next (f s)).exec s rest := by
  show (next (match input.fault with
    | some text => .error ⟨.other, text⟩
    | none => f s)).exec s rest = _
  rw [h]

theorem exec_apiRead_fault {text : String} (h : input.fault = some text)
    (next : ApiResult R → ApiProg S R') (s : S) (rest : List ApiInput) :
    (apiRead f >>= next).exec s (input :: rest) =
      (next (.error ⟨.other, text⟩)).exec s rest := by
  show (next (match input.fault with
    | some text => .error ⟨.other, text⟩
    | none => f s)).exec s rest = _
  rw [h]

/-- One round is enough if it does not end with a conflict. -/
theorem exec_retryOnConflict {s : S} {inputs : List ApiInput}
    (h : ∀ err, (body.exec s inputs).2.1 = .error err → err.reason ≠ .conflict) (retries : Nat) :
    (retryOnConflict body retries).exec s inputs = body.exec s inputs := by
  cases retries with
  | zero => rfl
  | succ retries =>
    rw [retryOnConflict, Prog.exec_bind]
    generalize body.exec s inputs = outcome at h
    obtain ⟨s', r, rest⟩ := outcome
    cases r with
    | ok u => rfl
    | error err =>
      show (if err.reason = .conflict then retryOnConflict body retries
        else .ret (.error err)).exec s' rest = _
      rw [if_neg (h err rfl)]
      rfl

end KubeSentry.Operator
