import Mathlib.Data.List.Basic
import Mathlib.Data.List.Induction
import Mathlib.Tactic.TypeStar

/-!
# Runs of a step function

A component that reacts to inputs is a function `step : S → A → S`, and a run
is a fold of it over a list of inputs.  `Guarded ok step s inputs` says that
every input of the run meets a condition on the state it arrives in.  The one
induction that invariant proofs need is `run_invariant`; `guarded_invariant` also
says something about every step, and `run_loses` finds the step at which a
property ends.  `run_filter` compares a run with the same
run without its hidden inputs.
-/

namespace GoLib

variable {S A : Type*}

/-- The condition that everything meets. -/
abbrev Any {A B : Type*} (_ : A) (_ : B) : Prop := True

/-- The state after a list of inputs. -/
def run (step : S → A → S) (s : S) (inputs : List A) : S :=
  inputs.foldl step s

@[simp] theorem run_nil (step : S → A → S) (s : S) : run step s [] = s := rfl

@[simp] theorem run_cons (step : S → A → S) (s : S) (a : A) (rest : List A) :
    run step s (a :: rest) = run step (step s a) rest := rfl

theorem run_append (step : S → A → S) (s : S) (l l' : List A) :
    run step s (l ++ l') = run step (run step s l) l' :=
  List.foldl_append

/-- Every input of the run meets `ok` in the state it arrives in. -/
def Guarded (ok : S → A → Prop) (step : S → A → S) : S → List A → Prop
  | _, [] => True
  | s, a :: rest => ok s a ∧ Guarded ok step (step s a) rest

instance decidableGuarded {ok : S → A → Prop} [∀ s a, Decidable (ok s a)] {step : S → A → S} :
    ∀ (s : S) (inputs : List A), Decidable (Guarded ok step s inputs)
  | _, [] => .isTrue trivial
  | s, a :: rest =>
    have : Decidable (Guarded ok step (step s a) rest) := decidableGuarded (step s a) rest
    inferInstanceAs (Decidable (ok s a ∧ Guarded ok step (step s a) rest))

/-- A run without a condition. -/
theorem guarded_true (step : S → A → S) (s : S) (inputs : List A) : Guarded Any step s inputs := by
  induction inputs generalizing s with
  | nil => exact trivial
  | cons a rest ih => exact ⟨trivial, ih (step s a)⟩

variable {ok : S → A → Prop} {step : S → A → S} {s : S} {inputs : List A} {I : S → Prop}

theorem guarded_mono {ok' : S → A → Prop} (h : ∀ s a, ok s a → ok' s a)
    (hguard : Guarded ok step s inputs) : Guarded ok' step s inputs := by
  induction inputs generalizing s with
  | nil => exact trivial
  | cons a rest ih => exact ⟨h s a hguard.1, ih hguard.2⟩

theorem guarded_append {l l' : List A} :
    Guarded ok step s (l ++ l') ↔ Guarded ok step s l ∧ Guarded ok step (run step s l) l' := by
  induction l generalizing s with
  | nil => exact ⟨fun h => ⟨trivial, h⟩, fun h => h.2⟩
  | cons a rest ih => exact (and_congr_right fun _ => ih).trans and_assoc.symm

/-- A property that every step keeps while a condition holds of the state. -/
theorem guarded_keeps {P Q : S → Prop}
    (hguard : Guarded (fun s a => P s → Q s → P (step s a)) step s inputs) (hs : P s)
    (hwhile : ∀ k < inputs.length, Q (run step s (inputs.take k))) : P (run step s inputs) := by
  induction inputs generalizing s with
  | nil => exact hs
  | cons a rest ih =>
    have hnow : Q s := hwhile 0 (Nat.zero_lt_succ _)
    exact ih hguard.2 (hguard.1 hs hnow) fun k hk => hwhile (k + 1) (Nat.succ_lt_succ hk)

/-- What one guarded step keeps, a guarded run keeps. -/
theorem run_invariant (hstep : ∀ s a, I s → ok s a → I (step s a)) (hs : I s)
    (hguard : Guarded ok step s inputs) : I (run step s inputs) := by
  induction inputs generalizing s with
  | nil => exact hs
  | cons a rest ih =>
    obtain ⟨hok, hrest⟩ := hguard
    exact ih (hstep s a hs hok) hrest

/-- What every guarded step keeps and shows, a guarded run keeps and shows. -/
theorem guarded_invariant {good : S → A → Prop}
    (hstep : ∀ s a, I s → ok s a → I (step s a) ∧ good s a) (hs : I s)
    (hguard : Guarded ok step s inputs) : Guarded good step s inputs ∧ I (run step s inputs) := by
  induction inputs generalizing s with
  | nil => exact ⟨trivial, hs⟩
  | cons a rest ih =>
    obtain ⟨hok, hrest⟩ := hguard
    obtain ⟨hnext, hgood⟩ := hstep s a hs hok
    obtain ⟨hall, hend⟩ := ih hnext hrest
    exact ⟨⟨hgood, hall⟩, hend⟩

/-- The invariant rule for runs without a condition. -/
theorem run_invariant_of_step (hstep : ∀ s a, I s → I (step s a)) (hs : I s) (inputs : List A) :
    I (run step s inputs) := by
  induction inputs generalizing s with
  | nil => exact hs
  | cons a rest ih => exact ih (hstep s a hs)

/-- An invariant that also speaks about the inputs so far. -/
theorem run_history {I : List A → S → Prop} (hs : I [] s)
    (hstep : ∀ before a, I before (run step s before) →
      I (before ++ [a]) (step (run step s before) a)) (inputs : List A) :
    I inputs (run step s inputs) := by
  induction inputs using List.reverseRecOn with
  | nil => exact hs
  | append_singleton before a ih =>
    rw [run_append, run_cons, run_nil]
    exact hstep before a ih

/-- A property that a run loses is lost in one of its steps. -/
theorem run_loses {P : S → Prop} (hs : P s) (hlost : ¬ P (run step s inputs)) :
    ∃ before a after, inputs = before ++ a :: after ∧ P (run step s before) ∧
      ¬ P (step (run step s before) a) := by
  induction inputs generalizing s with
  | nil => exact absurd hs hlost
  | cons a rest ih =>
    by_cases ha : P (step s a)
    · obtain ⟨before, b, after, heq, hbefore, hb⟩ := ih ha hlost
      exact ⟨a :: before, b, after, by rw [heq]; rfl, hbefore, hb⟩
    · exact ⟨[], a, rest, rfl, hs, ha⟩

/-- A run and the run of its visible inputs alone.  The relation between the
two states may look at the inputs that are still to come. -/
theorem run_filter {visible : A → Bool} {R : List A → S → S → Prop}
    (hhidden : ∀ a rest s s', visible a = false → R (a :: rest) s s' → R rest (step s a) s')
    (hvisible : ∀ a rest s s', visible a = true → R (a :: rest) s s' →
      R rest (step s a) (step s' a)) {s' : S} (h : R inputs s s') :
    R [] (run step s inputs) (run step s' (inputs.filter visible)) := by
  induction inputs generalizing s s' with
  | nil => exact h
  | cons a rest ih =>
    cases ha : visible a with
    | true =>
      rw [List.filter_cons_of_pos ha, run_cons, run_cons]
      exact ih (hvisible a rest s s' ha h)
    | false =>
      rw [List.filter_cons_of_neg (by simp [ha]), run_cons]
      exact ih (hhidden a rest s s' ha h)

end GoLib
