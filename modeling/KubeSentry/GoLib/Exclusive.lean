import KubeSentry.GoLib.Interleave

/-!
# Operations that exclude each other

Some operations of a pool take a lock that others do not take.  `excludes` says which
operations cannot be under way together.  `Pool.Excluding` is the condition that the lock
imposes on a run: a thread makes a call only while no thread that it excludes is inside,
which is between the first call of the thread and its last one.

Every operation then has its own `rely`, which has to allow only for what operations
outside the lock do.  `Thread.Ready` is what is known of a thread between two calls, and
`run_exclusive` is the invariant rule.
-/

namespace GoLib

variable {T S I V : Type}

/-- The program has a call to make. -/
def Prog.unfinished {R : Type} : Prog S I R → Bool
  | .ret _ => false
  | .call _ _ => true

/-- The thread has made a call and has another one to make. -/
def Thread.inside (t : Thread T S I) : Bool :=
  t.seen.isSome && t.prog.unfinished

/-- A thread makes a call only while no other thread is inside that it excludes. -/
def Pool.Excluding (excludes : T → T → Bool) (pool : Pool T S I) : PoolEvent T I → Prop
  | .spawn _ => True
  | .advance k _ =>
    ∀ t ∈ pool.threads[k]?, ∀ j < pool.threads.length, j ≠ k → ∀ u ∈ pool.threads[j]?,
      excludes t.op u.op = true → u.inside = false

instance {excludes : T → T → Bool} (pool : Pool T S I) :
    ∀ e : PoolEvent T I, Decidable (pool.Excluding excludes e)
  | .spawn _ => .isTrue trivial
  | .advance k _ =>
    inferInstanceAs (Decidable (∀ t ∈ pool.threads[k]?, ∀ j < pool.threads.length, j ≠ k →
      ∀ u ∈ pool.threads[j]?, excludes t.op u.op = true → u.inside = false))

variable {rely does : T → S → S → Prop}

/-- The thread is at a point of its program that its past justifies.  A thread that has made
no call is so from every state. -/
def Thread.Ready (rely does : T → S → S → Prop) (s : S) (t : Thread T S I) : Prop :=
  t.seen = none ∧ (∀ s0, Prog.Ensures (rely t.op) Any (does t.op) Any s0 t.prog) ∨
    t.seen.isSome ∧ ∃ s0, rely t.op s0 s ∧ Prog.Ensures (rely t.op) Any (does t.op) Any s0 t.prog

theorem Thread.Ready.ensures (hrefl : ∀ op s, rely op s s) {s : S} {t : Thread T S I}
    (h : t.Ready rely does s) : ∃ s0, rely t.op s0 s ∧
      Prog.Ensures (rely t.op) Any (does t.op) Any s0 t.prog := by
  rcases h with ⟨_, hall⟩ | ⟨_, hsome⟩
  · exact ⟨s, hrefl _ s, hall s⟩
  · exact hsome

/-- A call of another thread. -/
theorem Thread.Ready.other (hrefl : ∀ op s, rely op s s)
    (htrans : ∀ op s s' s'', rely op s s' → rely op s' s'' → rely op s s'')
    {s s' : S} {t : Thread T S I} (h : t.Ready rely does s)
    (hstep : rely t.op s s' ∨ t.inside = false) : t.Ready rely does s' := by
  rcases h with hnone | ⟨hseen, s0, hrely, hensures⟩
  · exact .inl hnone
  · refine .inr ⟨hseen, ?_⟩
    rcases hstep with hstep | hinside
    · exact ⟨s0, htrans _ _ _ _ hrely hstep, hensures⟩
    · -- The thread has returned, so nothing is left to justify.
      cases hprog : t.prog with
      | ret r => exact ⟨s', hrefl _ s', trivial⟩
      | call effect next =>
        rw [Thread.inside, hseen, hprog] at hinside
        cases hinside

variable {view : S → V} {code : T → Prog S I Unit} {excludes : T → T → Bool}
  (hrefl : ∀ op s, rely op s s)
  (htrans : ∀ op s s' s'', rely op s s' → rely op s' s'' → rely op s s'')
  (hdoes : ∀ op op' s s', excludes op op' = false → does op s s' → rely op' s s')
  (hcode : ∀ op s0, Prog.Ensures (rely op) Any (does op) Any s0 (code op))

include hrefl htrans hdoes hcode

theorem Pool.ready_step {pool : Pool T S I}
    (h : ∀ t ∈ pool.threads, t.Ready rely does pool.shared) {e : PoolEvent T I}
    (hexcluding : pool.Excluding excludes e) :
    (∀ t ∈ (pool.step view code e).threads, t.Ready rely does (pool.step view code e).shared) ∧
      pool.Does view code does e := by
  rcases pool.step_cases view code e with ⟨op, _, heq⟩ | heq |
    ⟨k, i, t, effect, next, he, ht, hprog, heq⟩
  · refine ⟨?_, .inl (by rw [heq])⟩
    rw [heq]
    exact List.forall_mem_append.mpr ⟨h, List.forall_mem_singleton.mpr (.inl ⟨rfl, hcode op⟩)⟩
  · rw [heq]
    exact ⟨h, .inl (by rw [heq])⟩
  · obtain ⟨s0, hrely, hensures⟩ := (h t (List.mem_of_getElem? ht)).ensures hrefl
    rw [hprog] at hensures
    obtain ⟨hstep, hnext⟩ := hensures pool.shared i hrely trivial
    refine ⟨?_, .inr ⟨k, i, t, he, ht, heq ▸ hstep⟩⟩
    rw [heq]
    rw [he] at hexcluding
    intro u hu
    obtain ⟨j, hj⟩ := List.mem_iff_getElem?.mp hu
    rw [Pool.advanced, List.getElem?_set] at hj
    split at hj
    · split at hj
      · cases hj
        exact .inr ⟨rfl, _, hrefl _ _, hnext⟩
      · cases hj
    · rename_i hne
      refine (h u (List.mem_of_getElem? hj)).other hrefl htrans ?_
      cases hx : excludes t.op u.op with
      | false => exact .inl (hdoes _ _ _ _ hx hstep)
      | true =>
        have hlength := (List.getElem?_eq_some_iff.mp hj).1
        exact .inr (hexcluding t ht j hlength (Ne.symm hne) u hj hx)

/-- The invariant rule: the exclusion is part of what the run is allowed. -/
theorem run_exclusive {inv : S → Prop} {allowed good : Pool T S I → PoolEvent T I → Prop}
    (hallowed : ∀ pool e, allowed pool e → pool.Excluding excludes e)
    (hinv : ∀ pool e, inv pool.shared → allowed pool e → pool.Does view code does e →
      inv (pool.step view code e).shared ∧ good pool e)
    {start : S} (hstart : inv start) {events : List (PoolEvent T I)}
    (hguard : Guarded allowed (Pool.step view code) { shared := start } events) :
    Guarded good (Pool.step view code) { shared := start } events ∧
      inv (run (Pool.step view code) { shared := start } events).shared := by
  have hrun := @guarded_invariant _ _ allowed (Pool.step view code) { shared := start } events
    (fun pool => inv pool.shared ∧ ∀ t ∈ pool.threads, t.Ready rely does pool.shared) good
    ?_ ⟨hstart, ?_⟩ hguard
  · exact ⟨hrun.1, hrun.2.1⟩
  · intro pool e ⟨hshared, hready⟩ hok
    obtain ⟨hnext, hdone⟩ := Pool.ready_step hrefl htrans hdoes hcode hready (hallowed pool e hok)
    obtain ⟨hinv', hgood⟩ := hinv pool e hshared hok hdone
    exact ⟨⟨hinv', hnext⟩, hgood⟩
  · intro t ht
    cases ht

end GoLib
