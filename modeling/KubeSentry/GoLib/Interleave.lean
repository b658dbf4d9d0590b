import KubeSentry.GoLib.Run

/-!
# Interleaved programs

Goroutines that share a state, at the granularity of single calls.  A `Prog` is
a sequence of calls; between two calls of one thread the others may make any
number of theirs.  A call sees the shared state and an input that the
environment chooses, such as the outcome of a database statement.

`Prog.Ensures rely ok does post s0 p` is what a proof about one thread
establishes: as long as the others lead from the state that its last call left
only to states in the relation `rely`, every call of `p` makes a step of `does`.
`s0` is the state that the last call of the thread left.  The rules follow the
program: `ensures_ret`, `ensures_bind`, `ensures_forEach`, `ensures_forWhile`.

Two theorems lift this to a pool of threads.

* `run_rely`: the steps of all threads stay inside `rely`, so every thread can
  count on it.
* `run_tracked`: a thread that has found a view of the state unchanged at each of
  its calls is `Fresh`, and its next call may count on the view as well.

`Prog.focus` runs a program on a part of the state.

`Prog.Trace` lists the calls of a program in any company, and `Prog.Runs` is a program
alone.  `Prog.Ensures.runs` leads from the rules to its
result, `Prog.exec` computes its run on a list of inputs, and `Prog.solo` the run in
which every call gets the same input.
-/

namespace GoLib

/-- A program of calls on a shared state `S` with inputs `I`. -/
inductive Prog (S I R : Type) where
  | ret (r : R)
  | call (effect : S → I → S) (next : S → I → Prog S I R)

namespace Prog

variable {S I R R' A : Type}

def bind : Prog S I R → (R → Prog S I R') → Prog S I R'
  | .ret r, f => f r
  | .call effect next, f => .call effect fun s i => (next s i).bind f

instance : Monad (Prog S I) where
  pure := .ret
  bind := bind

theorem bind_assoc {R'' : Type} (p : Prog S I R) (f : R → Prog S I R') (g : R' → Prog S I R'') :
    (p.bind f).bind g = p.bind fun r => (f r).bind g := by
  induction p with
  | ret r => rfl
  | call effect next ih =>
    show Prog.call effect _ = Prog.call effect _
    congr 1
    funext s i
    exact ih s i

/-- One call that changes the state and returns a value. -/
def atomic (f : S → I → S × R) : Prog S I R :=
  .call (fun s i => (f s i).1) fun s i => .ret (f s i).2

/-- One call that only reads. -/
def read (f : S → I → R) : Prog S I R :=
  .call (fun s _ => s) fun s i => .ret (f s i)

/-- A loop over a list. -/
def forEach (body : A → Prog S I Unit) : List A → Prog S I Unit
  | [] => .ret ()
  | a :: rest => do
    body a
    forEach body rest

/-- A loop that ends at the first round that says so. -/
def forWhile (body : A → Prog S I Bool) : List A → Prog S I Unit
  | [] => .ret ()
  | a :: rest => do
    match ← body a with
    | true => forWhile body rest
    | false => .ret ()

/-! ## What a thread ensures -/

/-- Every call of the program makes a step of `does`, and the result meets
`post`, if the others keep to `rely` and every call meets `ok`. -/
def Ensures (rely : S → S → Prop) (ok : S → I → Prop) (does : S → S → Prop)
    (post : S → R → Prop) : S → Prog S I R → Prop
  | s0, .ret r => post s0 r
  | s0, .call effect next =>
    ∀ s i, rely s0 s → ok s i →
      does s (effect s i) ∧ Ensures rely ok does post (effect s i) (next s i)

/-- What the program ensures when it runs alone. -/
abbrev Alone (post : S → R → Prop) (s : S) (p : Prog S I R) : Prop :=
  Ensures (fun s s' => s' = s) Any Any post s p

section

variable {rely : S → S → Prop} {ok : S → I → Prop} {does : S → S → Prop} {post : S → R → Prop}
  {s0 : S} {p : Prog S I R}

theorem ensures_ret {r : R} (h : post s0 r) : Ensures rely ok does post s0 (.ret r) := h

variable {ok' : S → I → Prop} {does' : S → S → Prop} {post' : S → R → Prop}

/-- The rule of consequence: more may be required of the calls, and less be known of the
steps and of the result. -/
theorem ensures_weaken (hok : ∀ s i, ok' s i → ok s i) (hdoes : ∀ s s', does s s' → does' s s')
    (hpost : ∀ s r, post s r → post' s r) :
    ∀ {s0 : S}, Ensures rely ok does post s0 p → Ensures rely ok' does' post' s0 p := by
  induction p with
  | ret r =>
    intro s0 h
    exact hpost s0 r h
  | call effect next ih =>
    intro s0 h s i hrely hok'
    obtain ⟨hcall, hnext⟩ := h s i hrely (hok s i hok')
    exact ⟨hdoes s _ hcall, ih s i hnext⟩

theorem ensures_mono (hpost : ∀ s r, post s r → post' s r) (h : Ensures rely ok does post s0 p) :
    Ensures rely ok does post' s0 p :=
  ensures_weaken (fun _ _ => id) (fun _ _ => id) hpost h

theorem ensures_of_ok (hok : ∀ s i, ok' s i → ok s i) (h : Ensures rely ok does post s0 p) :
    Ensures rely ok' does post s0 p :=
  ensures_weaken hok (fun _ _ => id) (fun _ _ => id) h

/-- Relations that hold of all states are ensured by every program. -/
theorem ensures_of_forall (hdoes : ∀ s s', does s s') (hpost : ∀ s r, post s r) (p : Prog S I R) :
    ∀ s0 : S, Ensures rely ok does post s0 p := by
  induction p with
  | ret r =>
    intro s0
    exact hpost s0 r
  | call effect next ih =>
    intro s0 s i _ _
    exact ⟨hdoes s _, ih s i _⟩

/-- In sequence: what the second part needs is the postcondition of the first. -/
theorem ensures_bind {post : S → R' → Prop} {f : R → Prog S I R'} :
    ∀ {s0 : S}, Ensures rely ok does (fun s r => Ensures rely ok does post s (f r)) s0 p →
      Ensures rely ok does post s0 (p >>= f) := by
  induction p with
  | ret r =>
    intro s0 h
    exact h
  | call effect next ih =>
    intro s0 h s i hrely hok
    obtain ⟨hdoes, hnext⟩ := h s i hrely hok
    exact ⟨hdoes, ih s i hnext⟩

variable {P : S → Prop} {items : List A}

/-- A loop keeps what every round keeps. -/
theorem ensures_forEach {body : A → Prog S I Unit}
    (hbody : ∀ a ∈ items, ∀ s0, P s0 → Ensures rely ok does (fun s _ => P s) s0 (body a)) :
    ∀ {s0 : S}, P s0 → Ensures rely ok does (fun s _ => P s) s0 (forEach body items) := by
  induction items with
  | nil =>
    intro s0 h
    exact h
  | cons a rest ih =>
    intro s0 h
    refine ensures_bind (ensures_mono ?_ (hbody a List.mem_cons_self s0 h))
    intro s _ hs
    exact ih (fun b hb => hbody b (List.mem_cons_of_mem _ hb)) hs

theorem ensures_forWhile {body : A → Prog S I Bool}
    (hbody : ∀ a ∈ items, ∀ s0, P s0 → Ensures rely ok does (fun s _ => P s) s0 (body a)) :
    ∀ {s0 : S}, P s0 → Ensures rely ok does (fun s _ => P s) s0 (forWhile body items) := by
  induction items with
  | nil =>
    intro s0 h
    exact h
  | cons a rest ih =>
    intro s0 h
    refine ensures_bind (ensures_mono ?_ (hbody a List.mem_cons_self s0 h))
    intro s more hs
    cases more with
    | true => exact ih (fun b hb => hbody b (List.mem_cons_of_mem _ hb)) hs
    | false => exact hs

theorem ensures_atomic {f : S → I → S × R}
    (h : ∀ s i, rely s0 s → ok s i → does s (f s i).1 ∧ post (f s i).1 (f s i).2) :
    Ensures rely ok does post s0 (atomic f) :=
  h

theorem ensures_read {f : S → I → R} (h : ∀ s i, rely s0 s → ok s i → does s s ∧ post s (f s i)) :
    Ensures rely ok does post s0 (read f) :=
  h

end

/-! ## A program on a part of the state -/

/-- The program works on the part of the state that `get` shows, and `put` stores what a
call leaves of it. -/
def focus (get : S → A) (put : S → A → S) : Prog A I R → Prog S I R
  | .ret r => .ret r
  | .call effect next =>
    .call (fun s i => put s (effect (get s) i)) fun s i => (next (get s) i).focus get put

variable {ok : S → I → Prop} {does : S → S → Prop} {post : S → R → Prop} {p : Prog S I R} {r : R}
  {s : S}

/-- What a program ensures on its part, it ensures on the whole.  What `put` stores need
not be what `get` shows next, but the program must be able to rely on it. -/
theorem ensures_focus (get : S → A) (put : S → A → S) {rely : S → S → Prop}
    {relyPart : A → A → Prop} {doesPart : A → A → Prop} {postPart : A → R → Prop}
    (htrans : ∀ a a' a'', relyPart a a' → relyPart a' a'' → relyPart a a'')
    (hrely : ∀ s s', rely s s' → relyPart (get s) (get s'))
    (hput : ∀ s a, doesPart (get s) a → does s (put s a) ∧ relyPart a (get (put s a)))
    (hpost : ∀ s a r, relyPart a (get s) → postPart a r → post s r) {p : Prog A I R} :
    ∀ {a0 : A} {s0 : S}, relyPart a0 (get s0) → Ensures relyPart Any doesPart postPart a0 p →
        Ensures rely ok does post s0 (p.focus get put) := by
  induction p with
  | ret r =>
    intro a0 s0 ha h
    exact hpost s0 a0 r ha h
  | call effect next ih =>
    intro a0 s0 ha h s i hs _
    obtain ⟨hdoes, hnext⟩ := h (get s) i (htrans _ _ _ ha (hrely _ _ hs)) trivial
    obtain ⟨hwhole, hseen⟩ := hput s _ hdoes
    exact ⟨hwhole, ih _ _ hseen hnext⟩

/-! ## A program in any company -/

/-- The program makes calls that lead from the first to the second state of each pair, and
returns `r`.  Nothing is said about what happens between two calls. -/
inductive Trace : Prog S I R → List (S × S) → R → Prop where
  | ret {r : R} : Trace (.ret r) [] r
  | call {effect : S → I → S} {next : S → I → Prog S I R} {calls : List (S × S)} {r : R} (s : S)
    (i : I) (h : Trace (next s i) calls r) : Trace (.call effect next) ((s, effect s i) :: calls) r

variable {calls : List (S × S)}

theorem Trace.bind_cases {f : R → Prog S I R'} {r' : R'} (h : Trace (p >>= f) calls r') :
    ∃ first second r, calls = first ++ second ∧
      Trace p first r ∧ Trace (f r) second r' := by
  induction p generalizing calls with
  | ret r => exact ⟨[], calls, r, rfl, .ret, h⟩
  | call effect next ih =>
    cases h with
    | call s i h =>
      obtain ⟨first, second, r, heq, hfirst, hsecond⟩ := ih s i h
      exact ⟨_ :: first, second, r, by rw [heq, List.cons_append], .call s i hfirst, hsecond⟩

/-- What a program ensures among threads that may do anything, holds of its result. -/
theorem Ensures.trace (htrace : Trace p calls r) :
    (∀ call ∈ calls, ∀ i, ok call.1 i) → ∀ s0, Ensures Any ok does post s0 p → ∃ s, post s r := by
  induction htrace with
  | ret =>
    intro _ s0 h
    exact ⟨s0, h⟩
  | call s i _ ih =>
    intro hok s0 h
    obtain ⟨_, hnext⟩ := h s i trivial (hok _ List.mem_cons_self i)
    exact ih (fun call hcall => hok call (List.mem_cons_of_mem _ hcall)) _ hnext

/-! ## A program alone -/

/-- With some inputs and no other thread, the program leads from `s` to `s'` and
returns `r`. -/
inductive Runs : Prog S I R → S → S → R → Prop where
  | ret {r : R} {s : S} : Runs (.ret r) s s r
  | call {effect : S → I → S} {next : S → I → Prog S I R} {s s' : S} {r : R} (i : I)
    (h : Runs (next s i) (effect s i) s' r) : Runs (.call effect next) s s' r

/-- A program alone ends in its postcondition. -/
theorem Ensures.runs {s' : S} (hrun : Runs p s s' r) :
    Ensures (fun s0 s => s = s0) Any does post s p → post s' r := by
  induction hrun with
  | ret =>
    intro h
    exact h
  | call i _ ih =>
    intro h
    exact ih (h _ i rfl trivial).2

/-- The steps of a program alone make one step of `does`. -/
theorem ensures_total (htrans : ∀ s s' s'', does s s' → does s' s'' → does s s'') :
    ∀ {s0 : S}, does s s0 → Ensures (fun s0 s => s = s0) ok does post s0 p →
      Ensures (fun s0 s => s = s0) ok Any (fun s' r => does s s' ∧ post s' r) s0 p := by
  induction p with
  | ret r =>
    intro s0 hs h
    exact ⟨hs, h⟩
  | call effect next ih =>
    intro s0 hs h s1 i hs1 hok
    obtain ⟨hdoes, hnext⟩ := h s1 i hs1 hok
    have hs1' : does s s1 := hs1.symm ▸ hs
    exact ⟨trivial, ih s1 i (htrans _ _ _ hs1' hdoes) hnext⟩

/-- A program alone takes steps of `does` only. -/
theorem Ensures.runs_rel (hrefl : ∀ s, does s s)
    (htrans : ∀ s s' s'', does s s' → does s' s'' → does s s'') {s' : S} (hrun : Runs p s s' r)
    (h : Ensures (fun s0 s => s = s0) Any does post s p) : does s s' :=
  (Ensures.runs hrun (ensures_total htrans (hrefl s) h)).1

/-- The run on a list of inputs, with the inputs that it leaves. -/
def exec [Inhabited I] : Prog S I R → S → List I → S × R × List I
  | .ret r, s, inputs => (s, r, inputs)
  | .call effect next, s, inputs =>
    (next s (inputs.headD default)).exec (effect s (inputs.headD default)) inputs.tail

theorem runs_exec [Inhabited I] (p : Prog S I R) (s : S) (inputs : List I) :
    Runs p s (p.exec s inputs).1 (p.exec s inputs).2.1 := by
  induction p generalizing s inputs with
  | ret r => exact .ret
  | call effect next ih => exact .call _ (ih s _ _ inputs.tail)

theorem exec_bind [Inhabited I] (p : Prog S I R) (f : R → Prog S I R') (s : S) (inputs : List I) :
    (p >>= f).exec s inputs =
      (f (p.exec s inputs).2.1).exec (p.exec s inputs).1 (p.exec s inputs).2.2 := by
  induction p generalizing s inputs with
  | ret r => rfl
  | call effect next ih => exact ih s _ _ inputs.tail

/-- The run in which every call gets the same input. -/
def solo (i : I) : Prog S I R → S → S × R
  | .ret r, s => (s, r)
  | .call effect next, s => (next s i).solo i (effect s i)

theorem runs_solo (i : I) (p : Prog S I R) (s : S) : Runs p s (p.solo i s).1 (p.solo i s).2 := by
  induction p generalizing s with
  | ret r => exact .ret
  | call effect next ih => exact .call i (ih s i (effect s i))

theorem solo_bind (i : I) (p : Prog S I R) (f : R → Prog S I R') (s : S) :
    (p >>= f).solo i s = (f (p.solo i s).2).solo i (p.solo i s).1 := by
  induction p generalizing s with
  | ret r => rfl
  | call effect next ih => exact ih s i (effect s i)

end Prog

/-! ## Pools of threads -/

/-- A thread: the operation it runs, what it still has to do, the state that its
last call left, and whether each of its calls so far has found the view as the
call before it left it. -/
structure Thread (T S I : Type) where
  op : T
  prog : Prog S I Unit
  seen : Option S := none
  fresh : Prop := True

structure Pool (T S I : Type) where
  shared : S
  threads : List (Thread T S I) := []

/-- An operation starts, or a thread makes its next call. -/
inductive PoolEvent (T I : Type) where
  | spawn (op : T)
  | advance (thread : Nat) (input : I)

variable {T S I V : Type} (view : S → V) (code : T → Prog S I Unit)

/-- The view is as the last call of the thread left it, and so it was before. -/
def Thread.Fresh (t : Thread T S I) (s : S) : Prop :=
  t.fresh ∧ ∀ s0, t.seen = some s0 → view s = view s0

/-- The thread after a call. -/
def Thread.after (t : Thread T S I) (s s' : S) (prog : Prog S I Unit) : Thread T S I :=
  { op := t.op, prog := prog, seen := some s', fresh := t.Fresh view s }

def Pool.step (pool : Pool T S I) : PoolEvent T I → Pool T S I
  | .spawn op => { pool with threads := pool.threads ++ [{ op := op, prog := code op }] }
  | .advance k i =>
    match pool.threads[k]? with
    | none => pool
    | some t =>
      match t.prog with
      | .ret _ => pool
      | .call effect next =>
        { shared := effect pool.shared i
          threads := pool.threads.set k
            (t.after view pool.shared (effect pool.shared i) (next pool.shared i)) }

/-- The pool after a call of the thread at `k`. -/
def Pool.advanced (pool : Pool T S I) (k : Nat) (t : Thread T S I) (s' : S)
    (prog : Prog S I Unit) : Pool T S I :=
  { shared := s', threads := pool.threads.set k (t.after view pool.shared s' prog) }

/-- The three things that an event can do to a pool. -/
theorem Pool.step_cases (pool : Pool T S I) (e : PoolEvent T I) :
    (∃ op, e = .spawn op ∧ pool.step view code e =
        { pool with threads := pool.threads ++ [{ op := op, prog := code op }] }) ∨
      pool.step view code e = pool ∨
      ∃ k i t effect next, e = .advance k i ∧ pool.threads[k]? = some t ∧
        t.prog = .call effect next ∧
        pool.step view code e =
          pool.advanced view k t (effect pool.shared i) (next pool.shared i) := by
  cases e with
  | spawn op => exact .inl ⟨op, rfl, rfl⟩
  | advance k i =>
    right
    cases ht : pool.threads[k]? with
    | none =>
      left
      simp only [Pool.step, ht]
    | some t =>
      cases hprog : t.prog with
      | ret r =>
        left
        simp only [Pool.step, ht, hprog]
      | call effect next =>
        right
        refine ⟨k, i, t, effect, next, rfl, ht, hprog, ?_⟩
        simp only [Pool.step, Pool.advanced, ht, hprog]

variable {view code}

variable {pool : Pool T S I} {op : T} {t : Thread T S I}

/-- A property of all threads, after a call of one of them. -/
theorem Pool.forall_advanced {P : Thread T S I → Prop} {k : Nat} {s' : S} {prog : Prog S I Unit}
    (h : ∀ u ∈ pool.threads, P u) (ht : P (t.after view pool.shared s' prog)) :
    ∀ u ∈ (pool.advanced view k t s' prog).threads, P u := by
  intro u hu
  rcases List.mem_or_eq_of_mem_set hu with hold | hnew
  · exact h u hold
  · rw [hnew]
    exact ht

/-! ## A thread that runs alone -/

/-- The pool is one thread that has seen no change. -/
def Pool.Solo (view : S → V) (op : T) (pool : Pool T S I) : Prop :=
  ∃ t, pool.threads = [t] ∧ t.op = op ∧ t.Fresh view pool.shared

theorem Pool.solo_spawn (s : S) (op : T) :
    (Pool.step view code { shared := s } (.spawn op)).Solo view op := by
  refine ⟨{ op := op, prog := code op }, rfl, rfl, trivial, ?_⟩
  intro s0 hseen
  cases hseen

theorem Pool.Solo.step (h : pool.Solo view op) (i : I) :
    (pool.step view code (.advance 0 i)).Solo view op := by
  obtain ⟨t, ht, hop, hfresh⟩ := h
  rcases pool.step_cases view code (.advance 0 i) with ⟨op', he, _⟩ | heq |
    ⟨k, i', t', effect, next, he, ht', _, heq⟩
  · cases he
  · rw [heq]
    exact ⟨t, ht, hop, hfresh⟩
  · cases he
    rw [ht] at ht'
    cases ht'
    rw [heq]
    refine ⟨t.after view pool.shared (effect pool.shared i) (next pool.shared i), ?_, hop,
      hfresh, ?_⟩
    · unfold Pool.advanced
      rw [ht]
      rfl
    · intro s0 hseen
      cases hseen
      rfl

/-- The thread that advances is the lone one. -/
theorem Pool.Solo.advances (h : pool.Solo view op) {i j : I} {k : Nat}
    (he : PoolEvent.advance (T := T) 0 i = .advance k j) (ht : pool.threads[k]? = some t) :
    t.op = op ∧ t.Fresh view pool.shared := by
  obtain ⟨t', hthreads, hop, hfresh⟩ := h
  cases he
  rw [hthreads] at ht
  cases ht
  exact ⟨hop, hfresh⟩

/-- A condition that a lone thread meets at each call holds throughout its run. -/
theorem guarded_solo {allowed ok : Pool T S I → PoolEvent T I → Prop}
    (hok : ∀ pool i, pool.Solo view op → allowed pool (.advance 0 i) → ok pool (.advance 0 i))
    (h : pool.Solo view op) {inputs : List I}
    (hguard : Guarded allowed (Pool.step view code) pool (inputs.map (.advance 0))) :
    Guarded ok (Pool.step view code) pool (inputs.map (.advance 0)) := by
  induction inputs generalizing pool with
  | nil => exact trivial
  | cons i rest ih =>
    obtain ⟨hallowed, hrest⟩ := hguard
    exact ⟨hok pool i h hallowed, ih (h.step i) hrest⟩

/-! ## Threads that rely on each other -/

section

variable {rely : S → S → Prop} {ok : S → I → Prop} {does : T → S → S → Prop}

/-- Every thread is at a point of its program that its past justifies. -/
def Pool.Relying (rely : S → S → Prop) (ok : S → I → Prop) (does : T → S → S → Prop)
    (pool : Pool T S I) : Prop :=
  ∀ t ∈ pool.threads, ∃ s0, rely s0 pool.shared ∧
    Prog.Ensures rely ok (does t.op) Any s0 t.prog

/-- The event changes nothing, or makes a call of a thread that does what its operation
does. -/
def Pool.Does (view : S → V) (code : T → Prog S I Unit) (does : T → S → S → Prop)
    (pool : Pool T S I) (e : PoolEvent T I) : Prop :=
  (pool.step view code e).shared = pool.shared ∨
    ∃ k i t, e = .advance k i ∧ pool.threads[k]? = some t ∧
      does t.op pool.shared (pool.step view code e).shared

variable (view) in
theorem Pool.Relying.step (hrefl : ∀ s, rely s s)
    (htrans : ∀ s s' s'', rely s s' → rely s' s'' → rely s s'')
    (hdoes : ∀ op s s', does op s s' → rely s s')
    (hcode : ∀ op s0, Prog.Ensures rely ok (does op) Any s0 (code op))
    {pool : Pool T S I} (h : pool.Relying rely ok does) {e : PoolEvent T I}
    (hok : ∀ k i, e = .advance k i → ok pool.shared i) :
    (pool.step view code e).Relying rely ok does ∧ pool.Does view code does e := by
  unfold Pool.Does
  rcases pool.step_cases view code e with ⟨op, _, heq⟩ | heq |
    ⟨k, i, t, effect, next, he, ht, hprog, heq⟩
  · rw [heq]
    exact ⟨List.forall_mem_append.mpr
      ⟨h, List.forall_mem_singleton.mpr ⟨pool.shared, hrefl _, hcode op _⟩⟩, .inl rfl⟩
  · rw [heq]
    exact ⟨h, .inl rfl⟩
  · rw [heq]
    obtain ⟨s0, hrely, hensures⟩ := h t (List.mem_of_getElem? ht)
    rw [hprog] at hensures
    obtain ⟨hstep, hnext⟩ := hensures pool.shared i hrely (hok k i he)
    refine ⟨?_, .inr ⟨k, i, t, he, ht, hstep⟩⟩
    refine Pool.forall_advanced (fun u hu => ?_) ⟨_, hrefl _, hnext⟩
    obtain ⟨s1, hrely', hensures'⟩ := h u hu
    exact ⟨s1, htrans _ _ _ hrely' (hdoes _ _ _ hstep), hensures'⟩

/-- In a run of relying threads every call does what its operation does, and what every such
call keeps, the run keeps. -/
theorem run_rely {inv : S → Prop} {allowed : S → I → Prop} (hrefl : ∀ s, rely s s)
    (htrans : ∀ s s' s'', rely s s' → rely s' s'' → rely s s'')
    (hdoes : ∀ op s s', does op s s' → rely s s')
    (hcode : ∀ op s0, Prog.Ensures rely (fun s i => inv s ∧ allowed s i) (does op) Any s0 (code op))
    (hinv : ∀ op s s', inv s → does op s s' → inv s') {start : S} (hstart : inv start)
    {events : List (PoolEvent T I)}
    (hguard : Guarded (fun pool e => ∀ k i, e = .advance k i → allowed pool.shared i)
      (Pool.step view code) { shared := start } events) :
    Guarded (Pool.Does view code does) (Pool.step view code) { shared := start } events ∧
      inv (run (Pool.step view code) { shared := start } events).shared := by
  refine (guarded_invariant (I := fun pool : Pool T S I => inv pool.shared ∧
    pool.Relying rely (fun s i => inv s ∧ allowed s i) does) ?_ ⟨hstart, ?_⟩ hguard).imp_right
    And.left
  · intro pool e ⟨hshared, hrelying⟩ hallowed
    obtain ⟨hnext, hchange⟩ := hrelying.step view hrefl htrans hdoes hcode
      fun k i he => ⟨hshared, hallowed k i he⟩
    refine ⟨⟨?_, hnext⟩, hchange⟩
    rcases hchange with hsame | ⟨_, _, t, _, _, hstep⟩
    · rw [hsame]
      exact hshared
    · exact hinv t.op _ _ hshared hstep
  · intro t ht
    cases ht

end

/-! ## Threads that have seen no change -/

variable {base : S → S → Prop} {known : S → Prop} {doesBase doesFresh : T → S → S → Prop}

/-- The others have not changed the view.  `known` is an invariant. -/
structure Unchanged (view : S → V) (base : S → S → Prop) (known : S → Prop) (s0 s : S) :
    Prop where
  base : base s0 s
  view : view s = view s0
  known : known s

theorem Unchanged.trans {view : S → V}
    (htrans : ∀ s s' s'', base s s' → base s' s'' → base s s'') (s s' s'' : S)
    (h : Unchanged view base known s s') (h' : Unchanged view base known s' s'') :
    Unchanged view base known s s'' :=
  ⟨htrans _ _ _ h.base h'.base, h'.view.trans h.view, h'.known⟩

/-- Every thread is where its past justifies, and a fresh one is where a past
without changes of the view justifies. -/
structure Pool.Tracked (view : S → V) (base : S → S → Prop) (known : S → Prop)
    (doesBase doesFresh : T → S → S → Prop) (pool : Pool T S I) : Prop where
  relying : pool.Relying base Any doesBase
  started : ∀ t ∈ pool.threads, t.fresh → t.seen = none → ∀ s0,
    Prog.Ensures (Unchanged view base known) Any (doesFresh t.op) Any s0 t.prog
  fresh : ∀ t ∈ pool.threads, t.fresh → ∀ s0, t.seen = some s0 → base s0 pool.shared ∧
    Prog.Ensures (Unchanged view base known) Any (doesFresh t.op) Any s0 t.prog

/-- What an event can do: nothing, or a call of a thread. -/
def Pool.Moves (view : S → V) (code : T → Prog S I Unit) (doesBase doesFresh : T → S → S → Prop)
    (pool : Pool T S I) (e : PoolEvent T I) : Prop :=
  (pool.step view code e).shared = pool.shared ∨
    ∃ k i t, e = .advance k i ∧ pool.threads[k]? = some t ∧
      doesBase t.op pool.shared (pool.step view code e).shared ∧
      (t.Fresh view pool.shared → doesFresh t.op pool.shared (pool.step view code e).shared)

variable {pool : Pool T S I}

/-- A fresh thread makes its next call as if the view were its own. -/
theorem Pool.Tracked.call (h : pool.Tracked view base known doesBase doesFresh)
    (hrefl : ∀ s, base s s) (hknown : known pool.shared) (ht : t ∈ pool.threads)
    (hfresh : t.Fresh view pool.shared) {effect : S → I → S} {next : S → I → Prog S I Unit}
    (hprog : t.prog = .call effect next) (i : I) :
    doesFresh t.op pool.shared (effect pool.shared i) ∧
      Prog.Ensures (Unchanged view base known) Any (doesFresh t.op) Any
        (effect pool.shared i) (next pool.shared i) := by
  cases hseen : t.seen with
  | none =>
    have hensures := h.started t ht hfresh.1 hseen pool.shared
    rw [hprog] at hensures
    exact hensures pool.shared i ⟨hrefl _, rfl, hknown⟩ trivial
  | some s0 =>
    obtain ⟨hbase, hensures⟩ := h.fresh t ht hfresh.1 s0 hseen
    rw [hprog] at hensures
    exact hensures pool.shared i ⟨hbase, hfresh.2 s0 hseen, hknown⟩ trivial

variable (hrefl : ∀ s, base s s) (htrans : ∀ s s' s'', base s s' → base s' s'' → base s s'')
  (hdoes : ∀ op s s', doesBase op s s' → base s s')
  (hbase : ∀ op s0, Prog.Ensures base Any (doesBase op) Any s0 (code op))
  (hfresh : ∀ op s0, Prog.Ensures (Unchanged view base known) Any (doesFresh op) Any s0 (code op))

include hrefl htrans hdoes hbase hfresh

theorem Pool.Tracked.step (h : pool.Tracked view base known doesBase doesFresh)
    (hknown : known pool.shared) (e : PoolEvent T I) :
    (pool.step view code e).Tracked view base known doesBase doesFresh ∧
      pool.Moves view code doesBase doesFresh e := by
  obtain ⟨hrelying, hchange⟩ := h.relying.step view hrefl htrans hdoes hbase (e := e)
    fun _ _ _ => trivial
  have hforward : base pool.shared (pool.step view code e).shared := by
    rcases hchange with hsame | ⟨_, _, t, _, _, hstep⟩
    · rw [hsame]
      exact hrefl _
    · exact hdoes _ _ _ hstep
  rcases pool.step_cases view code e with ⟨op, _, heq⟩ | heq |
    ⟨k, i, t, effect, next, he, ht, hprog, heq⟩
  · have hthreads : ∀ t ∈ (pool.step view code e).threads,
        t ∈ pool.threads ∨ t = { op := op, prog := code op } := by
      intro t ht
      rw [heq] at ht
      exact (List.mem_append.mp ht).imp_right List.mem_singleton.mp
    refine ⟨⟨hrelying, fun t ht => ?_, fun t ht => ?_⟩, .inl (by rw [heq])⟩
    · intro hfr hseen s0
      rcases hthreads t ht with hold | hnew
      · exact h.started t hold hfr hseen s0
      · rw [hnew]
        exact hfresh op s0
    · intro hfr s0 hseen
      rcases hthreads t ht with hold | hnew
      · rw [heq]
        exact h.fresh t hold hfr s0 hseen
      · rw [hnew] at hseen
        cases hseen
  · rw [heq]
    exact ⟨h, .inl (by rw [heq])⟩
  · have hcall := fun hview => h.call hrefl hknown (List.mem_of_getElem? ht) hview hprog i
    have hshared : (pool.step view code e).shared = effect pool.shared i := by
      rw [heq]
      rfl
    have hmem : ∀ u ∈ (pool.step view code e).threads, u ∈ pool.threads ∨
        u = t.after view pool.shared (effect pool.shared i) (next pool.shared i) := by
      intro u hu
      rw [heq] at hu
      exact List.mem_or_eq_of_mem_set hu
    refine ⟨⟨hrelying, fun u hu => ?_, fun u hu => ?_⟩, ?_⟩
    · intro hfr hseen s0
      rcases hmem u hu with hold | hnew
      · exact h.started u hold hfr hseen s0
      · rw [hnew] at hseen
        cases hseen
    · intro hfr s0 hseen
      rcases hmem u hu with hold | hnew
      · obtain ⟨hbefore, hensures⟩ := h.fresh u hold hfr s0 hseen
        exact ⟨htrans _ _ _ hbefore hforward, hensures⟩
      · rw [hnew] at hfr hseen ⊢
        cases hseen
        rw [hshared]
        exact ⟨hrefl _, (hcall hfr).2⟩
    · rcases hchange with hsame | ⟨k', i', t', he', ht', hstep⟩
      · exact .inl hsame
      · -- The thread that relies and the thread that is fresh are the same one.
        rw [he] at he'
        cases he'
        rw [ht] at ht'
        cases ht'
        refine .inr ⟨k, i, t, he, ht, hstep, fun hview => ?_⟩
        rw [hshared]
        exact (hcall hview).1

/-- The invariant rule for pools whose threads are tracked. -/
theorem run_tracked {inv : S → Prop} {allowed good : Pool T S I → PoolEvent T I → Prop}
    (hknown : ∀ s, inv s → known s)
    (hinv : ∀ pool e, inv pool.shared → allowed pool e → pool.Moves view code doesBase doesFresh e →
      inv (pool.step view code e).shared ∧ good pool e)
    {start : S} (hstart : inv start) {events : List (PoolEvent T I)}
    (hguard : Guarded allowed (Pool.step view code) { shared := start } events) :
    Guarded good (Pool.step view code) { shared := start } events ∧
      inv (run (Pool.step view code) { shared := start } events).shared := by
  have hrun := @guarded_invariant _ _ allowed (Pool.step view code) { shared := start } events
    (fun pool => inv pool.shared ∧ pool.Tracked view base known doesBase doesFresh) good
    ?_ ⟨hstart, ?_⟩ hguard
  · exact ⟨hrun.1, hrun.2.1⟩
  · intro pool e ⟨hshared, htracked⟩ hallowed
    obtain ⟨hnext, hmoves⟩ := htracked.step hrefl htrans hdoes hbase hfresh (hknown _ hshared) e
    obtain ⟨hinv', hgood⟩ := hinv pool e hshared hallowed hmoves
    exact ⟨⟨hinv', hnext⟩, hgood⟩
  · have hnone : ∀ t : Thread T S I, t ∉ ({ shared := start } : Pool T S I).threads :=
      fun _ => List.not_mem_nil
    exact ⟨fun t ht => absurd ht (hnone t), fun t ht => absurd ht (hnone t),
      fun t ht => absurd ht (hnone t)⟩

end GoLib
