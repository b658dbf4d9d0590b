import KubeSentry.GoLib.Interleave

/-!
# One worker

A controller has one worker, which takes a task and runs the program of the task.
Between two calls of the program the environment may change the state, and the worker
may crash: what is left of the program is lost.

`Controller` says what the environment can do, which program a task runs, and what is
noted when a task starts, ends or is lost.  `Controller.Sound` collects what a proof
about a controller gives:

* `idle`, which holds while no task runs;
* `mid task start`, which holds while the task runs that started in the state `start`;
* `rely`, what the environment can do to the state between two calls;
* `does`, what a call of the program does;
* `post`, what is known when the program has returned.

`Controller.Sound.run` is the induction over the run: it keeps `idle` and `mid`, and
every call is a step of `does`.
-/

namespace GoLib

/-- A task that is being worked on: the state it started in and the calls left. -/
structure Job (T : Type*) (S I R : Type) where
  task : T
  start : S
  prog : Prog S I R

structure Worker (T : Type*) (S I R : Type) where
  shared : S
  job : Option (Job T S I R) := none

inductive WorkerEvent (T : Type*) (E I : Type) where
  | environment (e : E)
  | start (task : T)
  | call (input : I)
  | finish
  | crash

structure Controller (T : Type*) (E S I R : Type) where
  environment : S → E → S
  code : T → Prog S I R
  started : T → S → S := fun _ s => s
  finished : T → R → S → S := fun _ _ s => s
  crashed : T → S → S := fun _ s => s

namespace Controller

variable {T : Type*} {E S I R : Type} (c : Controller T E S I R)

/-- An event that does not fit the worker changes nothing. -/
def step (w : Worker T S I R) : WorkerEvent T E I → Worker T S I R
  | .environment e => { w with shared := c.environment w.shared e }
  | .start task =>
    match w.job with
    | none =>
      { shared := c.started task w.shared
        job := some { task := task, start := c.started task w.shared, prog := c.code task } }
    | some _ => w
  | .call i =>
    match w.job with
    | some ⟨task, start, .call effect next⟩ =>
      { shared := effect w.shared i, job := some ⟨task, start, next w.shared i⟩ }
    | _ => w
  | .finish =>
    match w.job with
    | some ⟨task, _, .ret r⟩ => { shared := c.finished task r w.shared }
    | _ => w
  | .crash =>
    match w.job with
    | some job => { shared := c.crashed job.task w.shared }
    | none => w

/-! ## The rule for a controller -/

/-- The parts of a proof about a controller whose runs keep to `allowed`. -/
structure Sound (allowed : Worker T S I R → WorkerEvent T E I → Prop) (idle : S → Prop)
    (mid : T → S → S → Prop) (rely : S → S → Prop) (does : T → S → S → S → Prop)
    (post : T → S → S → R → Prop) : Prop where
  refl : ∀ s, rely s s
  trans : ∀ s s' s'', rely s s' → rely s' s'' → rely s s''
  idle_environment : ∀ s e, allowed { shared := s } (.environment e) → idle s →
    idle (c.environment s e)
  mid_environment : ∀ job s e, allowed { shared := s, job := some job } (.environment e) →
    mid job.task job.start s →
      rely s (c.environment s e) ∧ mid job.task job.start (c.environment s e)
  starts : ∀ task s, idle s → mid task (c.started task s) (c.started task s) ∧
    Prog.Ensures rely (fun s' _ => mid task (c.started task s) s') (does task (c.started task s))
      (post task (c.started task s)) (c.started task s) (c.code task)
  mid_call : ∀ task start s s', mid task start s → does task start s s' → mid task start s'
  idle_finish : ∀ task start s1 s r, mid task start s → rely s1 s → post task start s1 r →
    allowed { shared := s, job := some ⟨task, start, .ret r⟩ } .finish →
      idle (c.finished task r s)
  idle_crash : ∀ job s, mid job.task job.start s →
    allowed { shared := s, job := some job } .crash → idle (c.crashed job.task s)

/-- What holds of the worker between two events. -/
def Holds (idle : S → Prop) (mid : T → S → S → Prop) (rely : S → S → Prop)
    (does : T → S → S → S → Prop) (post : T → S → S → R → Prop) (w : Worker T S I R) : Prop :=
  match w.job with
  | none => idle w.shared
  | some job => mid job.task job.start w.shared ∧ ∃ s1, rely s1 w.shared ∧
      Prog.Ensures rely (fun s _ => mid job.task job.start s) (does job.task job.start)
        (post job.task job.start) s1 job.prog

/-- A call of a running task is a step of `does` from a state in `mid`. -/
def Calls (mid : T → S → S → Prop) (does : T → S → S → S → Prop) (w : Worker T S I R)
    (e : WorkerEvent T E I) : Prop :=
  ∀ i, e = .call i → (c.step w e).shared = w.shared ∨
    ∃ job, w.job = some job ∧ mid job.task job.start w.shared ∧
      does job.task job.start w.shared (c.step w e).shared

variable {c} {allowed : Worker T S I R → WorkerEvent T E I → Prop} {idle : S → Prop}
  {mid : T → S → S → Prop} {rely : S → S → Prop} {does : T → S → S → S → Prop}
  {post : T → S → S → R → Prop}

theorem Sound.step (h : c.Sound allowed idle mid rely does post) {w : Worker T S I R}
    (hw : Holds idle mid rely does post w) {e : WorkerEvent T E I} (hallowed : allowed w e) :
    Holds idle mid rely does post (c.step w e) ∧ c.Calls mid does w e := by
  obtain ⟨shared, job⟩ := w
  cases job with
  | none =>
    cases e with
    | environment e => exact ⟨h.idle_environment shared e hallowed hw, fun _ he => by cases he⟩
    | start task =>
      obtain ⟨hmid, hcode⟩ := h.starts task shared hw
      exact ⟨⟨hmid, _, h.refl _, hcode⟩, fun _ he => by cases he⟩
    | call i => exact ⟨hw, fun _ _ => .inl rfl⟩
    | finish => exact ⟨hw, fun _ he => by cases he⟩
    | crash => exact ⟨hw, fun _ he => by cases he⟩
  | some job =>
    obtain ⟨hmid, s1, hrely, hcode⟩ := hw
    have hsame : Holds idle mid rely does post { shared := shared, job := some job } :=
      ⟨hmid, s1, hrely, hcode⟩
    cases e with
    | environment e =>
      obtain ⟨hnext, hmid'⟩ := h.mid_environment job shared e hallowed hmid
      exact ⟨⟨hmid', s1, h.trans _ _ _ hrely hnext, hcode⟩, fun _ he => by cases he⟩
    | start task => exact ⟨hsame, fun _ he => by cases he⟩
    | call i =>
      obtain ⟨task, start, prog⟩ := job
      cases prog with
      | ret r => exact ⟨hsame, fun _ _ => .inl rfl⟩
      | call effect next =>
        obtain ⟨hdoes, hrest⟩ := hcode shared i hrely hmid
        exact ⟨⟨h.mid_call task start _ _ hmid hdoes, _, h.refl _, hrest⟩,
          fun _ _ => .inr ⟨_, rfl, hmid, hdoes⟩⟩
    | finish =>
      obtain ⟨task, start, prog⟩ := job
      cases prog with
      | ret r =>
        exact ⟨h.idle_finish task start s1 shared r hmid hrely hcode hallowed,
          fun _ he => by cases he⟩
      | call effect next => exact ⟨hsame, fun _ he => by cases he⟩
    | crash => exact ⟨h.idle_crash job shared hmid hallowed, fun _ he => by cases he⟩

/-- What a sound controller keeps, and what its calls do, in every run. -/
theorem Sound.run (h : c.Sound allowed idle mid rely does post) {w : Worker T S I R}
    (hw : Holds idle mid rely does post w) {events : List (WorkerEvent T E I)}
    (hguard : Guarded allowed c.step w events) :
    Guarded (c.Calls mid does) c.step w events ∧
      Holds idle mid rely does post (run c.step w events) :=
  guarded_invariant (I := Holds idle mid rely does post)
    (fun _ _ hw hallowed => h.step hw hallowed) hw hguard

end Controller

end GoLib
