import KubeSentry.GoLib.Interleave

/-!
# Programs that stop at the first error

`Fallible S I E A` is a program of calls that returns a value or an error, in the
way of `if err != nil { return err }`: what follows an error is not run.

`Fallible.Ensures rely ok does good bad` has a postcondition for values and one for
errors, and `ensures_try` is the rule for one statement after another.  A part that
only reads is handled as a whole: `ensures_readOnly` carries a fact over it that the
other threads keep.
-/

namespace GoLib

namespace Prog

variable {S I R R' : Type}

/-- No call of the program changes the state. -/
def ReadOnly : Prog S I R → Prop
  | .ret _ => True
  | .call effect next => (∀ s i, effect s i = s) ∧ ∀ s i, (next s i).ReadOnly

theorem readOnly_read (f : S → I → R) : ReadOnly (read f) :=
  ⟨fun _ _ => rfl, fun _ _ => trivial⟩

theorem ReadOnly.bind {p : Prog S I R} {f : R → Prog S I R'} (hp : p.ReadOnly)
    (hf : ∀ r, (f r).ReadOnly) : (p >>= f).ReadOnly := by
  induction p with
  | ret r => exact hf r
  | call effect next ih => exact ⟨hp.1, fun s i => ih s i (hp.2 s i)⟩

/-- A program that only reads keeps what the other threads keep. -/
theorem ensures_readOnly {rely : S → S → Prop} {ok : S → I → Prop} {does : S → S → Prop}
    {P : S → Prop} (hrefl : ∀ s, does s s) (hstable : ∀ s s', P s → rely s s' → P s')
    {p : Prog S I R} (hp : p.ReadOnly) {s0 : S} (h : P s0) :
    Ensures rely ok does (fun s _ => P s) s0 p := by
  induction p generalizing s0 with
  | ret r => exact h
  | call effect next ih =>
    intro s i hrely _
    rw [hp.1]
    exact ⟨hrefl s, ih s i (hp.2 s i) (hstable s0 s h hrely)⟩

end Prog

/-- A program that returns a value or an error. -/
def Fallible (S I E A : Type) : Type :=
  Prog S I (Except E A)

namespace Fallible

variable {S I E E' A B : Type}

/-- What follows runs only after a value. -/
def andThen (f : A → Fallible S I E B) : Except E A → Fallible S I E B
  | .ok a => f a
  | .error e => Prog.ret (.error e)

instance : Monad (Fallible S I E) where
  pure a := Prog.ret (.ok a)
  bind p f := Prog.bind p (andThen f)

/-- `return err`. -/
def fail (e : E) : Fallible S I E A :=
  Prog.ret (.error e)

/-- A check that makes no call. -/
def ofExcept (r : Except E A) : Fallible S I E A :=
  Prog.ret r

/-- `if c { return err }`. -/
def refuseIf (c : Prop) [Decidable c] (e : E) : Fallible S I E Unit :=
  if c then fail e else pure ()

/-- The program with its error wrapped. -/
def mapError (f : E → E') (p : Fallible S I E A) : Fallible S I E' A :=
  Prog.bind p fun r => Prog.ret (r.mapError f)

/-- The program with its error as a value. -/
def attempt (p : Fallible S I E A) : Fallible S I E' (Except E A) :=
  Prog.bind p fun r => Prog.ret (.ok r)

/-- The program without its result. -/
def discard (p : Fallible S I E A) : Prog S I Unit :=
  Prog.bind p fun _ => Prog.ret ()

/-- A loop that ends at the first error. -/
def forEach (body : A → Fallible S I E Unit) : List A → Fallible S I E Unit
  | [] => pure ()
  | a :: rest => do
    body a
    forEach body rest

/-! ## Rules -/

/-- A postcondition for values and one for errors. -/
def Outcome (good : S → A → Prop) (bad : S → E → Prop) (s : S) : Except E A → Prop
  | .ok a => good s a
  | .error e => bad s e

/-- What the program ensures when it returns a value, and when it returns an error. -/
def Ensures (rely : S → S → Prop) (ok : S → I → Prop) (does : S → S → Prop)
    (good : S → A → Prop) (bad : S → E → Prop) (s0 : S) (p : Fallible S I E A) : Prop :=
  Prog.Ensures rely ok does (Outcome good bad) s0 p

/-- What the program ensures when it runs alone. -/
abbrev Alone (good : S → A → Prop) (bad : S → E → Prop) (s : S) (p : Fallible S I E A) : Prop :=
  Ensures (fun s s' => s' = s) Any Any good bad s p

section

variable {rely : S → S → Prop} {ok : S → I → Prop} {does : S → S → Prop} {good : S → B → Prop}
  {bad : S → E → Prop} {s0 : S} {mid : S → A → Prop} {f : A → Fallible S I E B}
  {p : Fallible S I E B} {e : E} {c : Prop}

/-- One statement after another. -/
theorem ensures_try {p : Fallible S I E A} (hp : Ensures rely ok does mid bad s0 p)
    (hf : ∀ s a, mid s a → Ensures rely ok does good bad s (f a)) :
    Ensures rely ok does good bad s0 (p >>= f) := by
  refine Prog.ensures_bind (Prog.ensures_mono ?_ hp)
  intro s r h
  cases r with
  | ok a => exact hf s a h
  | error e => exact h

theorem ensures_mono {good' : S → B → Prop} {bad' : S → E → Prop}
    (h : Ensures rely ok does good bad s0 p) (hgood : ∀ s b, good s b → good' s b)
    (hbad : ∀ s e, bad s e → bad' s e) : Ensures rely ok does good' bad' s0 p := by
  refine Prog.ensures_mono ?_ h
  intro s r hr
  cases r with
  | ok b => exact hgood s b hr
  | error e => exact hbad s e hr

theorem ensures_fail (h : bad s0 e) :
    Ensures rely ok does good bad s0 (fail e : Fallible S I E B) :=
  h

theorem ensures_pure {b : B} (h : good s0 b) :
    Ensures rely ok does good bad s0 (pure b : Fallible S I E B) :=
  h

/-- A check makes no call. -/
theorem ensures_ofExcept {r : Except E B} (hok : ∀ b, r = .ok b → good s0 b)
    (herror : ∀ e, r = .error e → bad s0 e) : Ensures rely ok does good bad s0 (ofExcept r) := by
  cases r with
  | ok b => exact hok b rfl
  | error e => exact herror e rfl

/-- A check, and what follows. -/
theorem ensures_check {r : Except E A}
    (hf : ∀ a, r = .ok a → Ensures rely ok does good bad s0 (f a))
    (hbad : ∀ e, r = .error e → bad s0 e := by exact fun _ _ => trivial) :
    Ensures rely ok does good bad s0 (ofExcept r >>= f) := by
  cases r with
  | ok a => exact hf a rfl
  | error e => exact hbad e rfl

theorem ensures_mapError {bad' : S → E' → Prop} {f : E → E'}
    (h : Ensures rely ok does good (fun s e => bad' s (f e)) s0 p) :
    Ensures rely ok does good bad' s0 (mapError f p) := by
  refine Prog.ensures_bind (Prog.ensures_mono ?_ h)
  intro s r hr
  cases r with
  | ok b => exact hr
  | error e => exact hr

theorem ensures_guard [Decidable c] {f : Unit → Fallible S I E B}
    (hf : ¬ c → Ensures rely ok does good bad s0 (f ()))
    (hbad : c → bad s0 e := by exact fun _ => trivial) :
    Ensures rely ok does good bad s0 (refuseIf c e >>= f) := by
  unfold refuseIf
  by_cases hc : c
  · rw [if_pos hc]
    exact hbad hc
  · rw [if_neg hc]
    exact hf hc

/-- Both outcomes of a program, and what follows. -/
theorem ensures_attempt {midBad : S → E' → Prop} {p : Fallible S I E' A}
    {f : Except E' A → Fallible S I E B} (hp : Ensures rely ok does mid midBad s0 p)
    (hok : ∀ s a, mid s a → Ensures rely ok does good bad s (f (.ok a)))
    (herror : ∀ s e, midBad s e → Ensures rely ok does good bad s (f (.error e))) :
    Ensures rely ok does good bad s0 (attempt p >>= f) := by
  refine Prog.ensures_bind (Prog.ensures_bind (Prog.ensures_mono ?_ hp))
  intro s r hr
  cases r with
  | ok a => exact hok s a hr
  | error e => exact herror s e hr

theorem ensures_discard (h : Ensures rely ok does good bad s0 p) :
    Prog.Ensures rely ok does Any s0 (discard p) :=
  Prog.ensures_bind (Prog.ensures_mono (fun _ _ _ => trivial) h)

/-- A branch. -/
theorem ensures_ite [Decidable c] {q : Fallible S I E B}
    (hp : c → Ensures rely ok does good bad s0 p) (hq : ¬ c → Ensures rely ok does good bad s0 q) :
    Ensures rely ok does good bad s0 (if c then p else q) := by
  by_cases hc : c
  · rw [if_pos hc]
    exact hp hc
  · rw [if_neg hc]
    exact hq hc

end

/-! ## A program alone -/

/-- The run on a list of inputs, with the inputs that it leaves. -/
def exec [Inhabited I] (p : Fallible S I E A) (s : S) (inputs : List I) : S × Except E A × List I :=
  Prog.exec p s inputs

variable {p : Fallible S I E A} {f : A → Fallible S I E B} {s : S} {P : S → Prop}
  {does : S → S → Prop} {s' s0 : S} {inputs rest : List I} {bad : S → E → Prop}
  {rely : S → S → Prop} {ok : S → I → Prop}

theorem exec_try_ok [Inhabited I] {a : A} (h : p.exec s inputs = (s', .ok a, rest)) :
    (p >>= f).exec s inputs = (f a).exec s' rest := by
  have hbind := Prog.exec_bind p (andThen f) s inputs
  have hp : Prog.exec p s inputs = (s', .ok a, rest) := h
  rw [hp] at hbind
  exact hbind

theorem exec_try_error [Inhabited I] {e : E} (h : p.exec s inputs = (s', .error e, rest)) :
    (p >>= f).exec s inputs = (s', .error e, rest) := by
  have hbind := Prog.exec_bind p (andThen f) s inputs
  have hp : Prog.exec p s inputs = (s', .error e, rest) := h
  rw [hp] at hbind
  exact hbind

theorem try_assoc {C : Type} (p : Fallible S I E A) (f : A → Fallible S I E B)
    (g : B → Fallible S I E C) : (p >>= f) >>= g = p >>= fun a => f a >>= g := by
  refine (Prog.bind_assoc p (andThen f) (andThen g)).trans (congrArg (Prog.bind p) ?_)
  funext r
  cases r <;> rfl

/-- Without other threads every fact stays. -/
theorem stable_alone (s s' : S) (h : P s) (heq : s' = s) : P s' :=
  heq ▸ h

/-- What a program ensures, its run meets. -/
theorem Ensures.exec [Inhabited I] {good : S → A → Prop}
    (h : Ensures (fun s s' => s' = s) Any does good bad s p) (inputs : List I) :
    Outcome good bad (p.exec s inputs).1 (p.exec s inputs).2.1 :=
  Prog.Ensures.runs (Prog.runs_exec p s inputs) h

/-! ## Parts that only read -/

/-- No call of the program changes the state. -/
def ReadOnly (p : Fallible S I E A) : Prop :=
  Prog.ReadOnly p

/-- A part that only reads keeps what the other threads keep. -/
theorem ensures_readOnly (hrefl : ∀ s, does s s) (hstable : ∀ s s', P s → rely s s' → P s')
    (hp : p.ReadOnly) (h : P s0) : Ensures rely ok does (fun s _ => P s) (fun s _ => P s) s0 p := by
  refine Prog.ensures_mono ?_ (Prog.ensures_readOnly hrefl hstable hp h)
  intro s r hs
  cases r with
  | ok a => exact hs
  | error e => exact hs

/-- A part that only reads, and what follows. -/
theorem ensures_past {good : S → B → Prop} (hrefl : ∀ s, does s s)
    (hstable : ∀ s s', P s → rely s s' → P s') (hbad : ∀ s e, P s → bad s e) (hp : p.ReadOnly)
    (h : P s0) (hf : ∀ s a, P s → Ensures rely ok does good bad s (f a)) :
    Ensures rely ok does good bad s0 (p >>= f) :=
  ensures_try (ensures_mono (ensures_readOnly hrefl hstable hp h) (fun _ _ hs => hs) hbad) hf

theorem readOnly_try (hp : p.ReadOnly) (hf : ∀ a, (f a).ReadOnly) : (p >>= f).ReadOnly := by
  refine Prog.ReadOnly.bind hp fun r => ?_
  cases r with
  | ok a => exact hf a
  | error e => exact trivial

theorem readOnly_ofExcept (r : Except E A) : (ofExcept r : Fallible S I E A).ReadOnly :=
  trivial

theorem readOnly_refuseIf (c : Prop) [Decidable c] (e : E) :
    (refuseIf c e : Fallible S I E Unit).ReadOnly := by
  unfold refuseIf
  split
  · exact trivial
  · exact trivial

theorem readOnly_ite {c : Prop} [Decidable c] {q : Fallible S I E A} (hp : p.ReadOnly)
    (hq : q.ReadOnly) : (if c then p else q).ReadOnly := by
  by_cases hc : c
  · rw [if_pos hc]
    exact hp
  · rw [if_neg hc]
    exact hq

theorem readOnly_mapError {f : E → E'} (hp : p.ReadOnly) : (mapError f p).ReadOnly :=
  Prog.ReadOnly.bind hp fun _ => trivial

theorem readOnly_attempt (hp : p.ReadOnly) : (attempt p : Fallible S I E' (Except E A)).ReadOnly :=
  Prog.ReadOnly.bind hp fun _ => trivial

theorem readOnly_forEach {body : A → Fallible S I E Unit} {items : List A}
    (hbody : ∀ a, (body a).ReadOnly) : (forEach body items).ReadOnly := by
  induction items with
  | nil => exact trivial
  | cons a rest ih => exact readOnly_try (hbody a) fun _ => ih

/-! ## Calls that return an error -/

/-- No call changes the view in a run that returns an error. -/
def KeepsOnError {V : Type} (view : S → V) (p : Fallible S I E A) : Prop :=
  ∀ calls e, Prog.Trace p calls (.error e) → ∀ call ∈ calls, view call.2 = view call.1

variable {V : Type} {view : S → V} {p : Fallible S I E A}

theorem ReadOnly.calls (hp : p.ReadOnly) {calls : List (S × S)} {r : Except E A}
    (h : Prog.Trace p calls r) : ∀ call ∈ calls, call.2 = call.1 := by
  induction h with
  | ret =>
    intro call hcall
    cases hcall
  | call s i _ ih =>
    exact List.forall_mem_cons.mpr ⟨hp.1 s i, ih (hp.2 s i)⟩

/-- Reads may come before. -/
theorem keepsOnError_past {f : A → Fallible S I E B} (hp : p.ReadOnly)
    (hf : ∀ a, KeepsOnError view (f a)) : KeepsOnError view (p >>= f) := by
  intro calls e h call hcall
  obtain ⟨first, second, r, heq, hfirst, hsecond⟩ := Prog.Trace.bind_cases h
  rw [heq] at hcall
  rcases List.mem_append.mp hcall with hread | hlater
  · rw [hp.calls hfirst call hread]
  · cases r with
    | ok a => exact hf a second e hsecond call hlater
    | error e' =>
      cases hsecond
      cases hlater

/-- A value may be computed at the end. -/
theorem keepsOnError_map (f : A → B) (hp : KeepsOnError view p) :
    KeepsOnError view (do let a ← p; return f a) := by
  intro calls e h call hcall
  obtain ⟨first, second, r, heq, hfirst, hsecond⟩ := Prog.Trace.bind_cases h
  cases r with
  | ok a => cases hsecond
  | error e' =>
    cases hsecond
    rw [heq, List.append_nil] at hcall
    exact hp first _ hfirst call hcall

theorem keepsOnError_mapError {f : E → E'} (hp : KeepsOnError view p) :
    KeepsOnError view (mapError f p) := by
  intro calls e h call hcall
  obtain ⟨first, second, r, heq, hfirst, hsecond⟩ := Prog.Trace.bind_cases h
  cases r with
  | ok a => cases hsecond
  | error e' =>
    cases hsecond
    rw [heq, List.append_nil] at hcall
    exact hp first _ hfirst call hcall

theorem keepsOnError_fail (e : E) : KeepsOnError view (fail e : Fallible S I E A) := by
  intro calls e' h call hcall
  cases h
  cases hcall

theorem keepsOnError_atomic {g : S → I → S × Except E A}
    (hg : ∀ s i e, (g s i).2 = .error e → (g s i).1 = s) :
    KeepsOnError view (Prog.atomic g : Fallible S I E A) := by
  intro calls e h call hcall
  cases h with
  | call s i h =>
    have hret : Prog.Trace (Prog.ret (g s i).2 : Prog S I (Except E A)) _ _ := h
    generalize hresult : (g s i).2 = r at hret
    cases hret
    rw [List.mem_singleton.mp hcall]
    exact congrArg view (hg s i e hresult)

end Fallible

end GoLib
