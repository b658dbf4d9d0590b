import KubeSentry.GoLib.Fallible

/-!
# Programs that remember what they have found

`Prog.Ensures` lets a thread know the state that its last call left.  Some statements are
about more: that what a program checked in an earlier call still holds at a later one, or
that a state with some property has occurred while the program ran.

`Prog.Along rely ok good post past p` is about a program with a history: `past` has the
states that its calls found, each with the state that the call left.  Every further call
makes a step that `good` allows after this past, and the result meets `post`.  The
others lead from every state that a call left to every state that a later call finds by
steps of `rely`.

A `Server` runs any number of operations at once, and keeps the history and the result of
each.  Operations are listed in the order in which they started, so that an operation
that starts later has a larger index.  `Server.Justified.step` is the rule for one event.
-/

namespace GoLib

namespace Prog

variable {S I R R' : Type}

def Along (rely : S → S → Prop) (ok : S → I → Prop) (good : List (S × S) → S → S → Prop)
    (post : List (S × S) → R → Prop) : List (S × S) → Prog S I R → Prop
  | past, .ret r => post past r
  | past, .call effect next =>
    ∀ s i, (∀ c ∈ past, rely c.2 s) → ok s i →
      good past s (effect s i) ∧ Along rely ok good post (past ++ [(s, effect s i)]) (next s i)

variable {rely : S → S → Prop} {ok : S → I → Prop} {good : List (S × S) → S → S → Prop}
  {post : List (S × S) → R → Prop} {p : Prog S I R} {post' : List (S × S) → R → Prop}
  {good' : List (S × S) → S → S → Prop}

/-- The rule of consequence. -/
theorem along_weaken (hgood : ∀ past s s', good past s s' → good' past s s')
    (hpost : ∀ past r, post past r → post' past r) :
    ∀ {past : List (S × S)}, Along rely ok good post past p → Along rely ok good' post' past p := by
  induction p with
  | ret r =>
    intro past h
    exact hpost past r h
  | call effect next ih =>
    intro past h s i hrely hok
    obtain ⟨hcall, hnext⟩ := h s i hrely hok
    exact ⟨hgood past s _ hcall, ih s i hnext⟩

theorem along_mono (hpost : ∀ past r, post past r → post' past r) {past : List (S × S)}
    (h : Along rely ok good post past p) : Along rely ok good post' past p :=
  along_weaken (fun _ _ _ => id) hpost h

theorem along_bind {post : List (S × S) → R' → Prop} {f : R → Prog S I R'} :
    ∀ {past : List (S × S)},
      Along rely ok good (fun past r => Along rely ok good post past (f r)) past p →
        Along rely ok good post past (p >>= f) := by
  induction p with
  | ret r =>
    intro past h
    exact h
  | call effect next ih =>
    intro past h s i hrely hok
    obtain ⟨hgood, hnext⟩ := h s i hrely hok
    exact ⟨hgood, ih s i hnext⟩

/-- Two facts about one program are one fact. -/
theorem along_and :
    ∀ {past : List (S × S)}, Along rely ok good post past p → Along rely ok good' post' past p →
        Along rely ok (fun past s s' => good past s s' ∧ good' past s s')
          (fun past r => post past r ∧ post' past r) past p := by
  induction p with
  | ret r =>
    intro past h h'
    exact ⟨h, h'⟩
  | call effect next ih =>
    intro past h h' s i hrely hok
    obtain ⟨hgood, hnext⟩ := h s i hrely hok
    obtain ⟨hgood', hnext'⟩ := h' s i hrely hok
    exact ⟨⟨hgood, hgood'⟩, ih s i hnext hnext'⟩

/-- The state that the last call left. -/
def lastLeft (past : List (S × S)) : Option S :=
  past.getLast?.map (·.2)

theorem lastLeft_append (past : List (S × S)) (s s' : S) :
    lastLeft (past ++ [(s, s')]) = some s' := by
  simp [lastLeft]

variable {does : S → S → Prop} {P : List (S × S) → Prop}

/-- A program whose calls need no more than the last state of the history, and a fact that
the history keeps as it grows. -/
theorem along_of_ensures_last (hgood : ∀ past s s', does s s' → good past s s')
    (happend : ∀ past c, P past → P (past ++ [c])) {post : S → R → Prop} :
    ∀ {s0 : S} {past : List (S × S)}, lastLeft past = some s0 → P past →
      Ensures rely ok does post s0 p →
        Along rely ok good (fun past r => P past ∧ ∀ s, lastLeft past = some s → post s r)
          past p := by
  induction p with
  | ret r =>
    intro s0 past hlast hP h
    refine ⟨hP, fun s hs => ?_⟩
    rw [hlast] at hs
    cases hs
    exact h
  | call effect next ih =>
    intro s0 past hlast hP h s i hrely hok
    obtain ⟨pair, hpair, heq⟩ := Option.map_eq_some_iff.mp hlast
    have hfirst : rely s0 s := heq ▸ hrely pair (List.mem_of_getLast? hpair)
    obtain ⟨hdoes, hnext⟩ := h s i hfirst hok
    exact ⟨hgood past s _ hdoes, ih s i (lastLeft_append past s _) (happend past _ hP) hnext⟩

theorem along_of_ensures (hrefl : ∀ s, rely s s) (hgood : ∀ past s s', does s s' → good past s s')
    (happend : ∀ past c, P past → P (past ++ [c])) {post : S → R → Prop} {past : List (S × S)}
    (hP : P past) (h : ∀ s0, Ensures rely ok does post s0 p) :
    Along rely ok good (fun past r => P past ∧ ∀ s, lastLeft past = some s → post s r) past p := by
  cases p with
  | ret r => exact ⟨hP, fun s _ => h s⟩
  | call effect next =>
    intro s i _ hok
    obtain ⟨hdoes, hnext⟩ := h s s i (hrefl s) hok
    exact ⟨hgood past s _ hdoes,
      along_of_ensures_last hgood happend (lastLeft_append past s _) (happend past _ hP) hnext⟩

/-- Every state of the history was one that the condition allows. -/
theorem along_found {P : S → Prop} (hP : ∀ s i, ok s i → P s) :
    ∀ {past : List (S × S)}, (∀ c ∈ past, P c.1) →
      Along rely ok (fun _ _ _ => True) (fun past _ => ∀ c ∈ past, P c.1) past p := by
  induction p with
  | ret r =>
    intro past h
    exact h
  | call effect next ih =>
    intro past h s i _ hok
    exact ⟨trivial, ih s i
      (List.forall_mem_append.mpr ⟨h, List.forall_mem_singleton.mpr (hP s i hok)⟩)⟩

end Prog

namespace Fallible

variable {S I E E' A B : Type} {rely : S → S → Prop} {ok : S → I → Prop}
  {good : List (S × S) → S → S → Prop}

/-- A postcondition for values and one for errors. -/
def Along (rely : S → S → Prop) (ok : S → I → Prop) (good : List (S × S) → S → S → Prop)
    (fine : List (S × S) → A → Prop) (bad : List (S × S) → E → Prop) (past : List (S × S))
    (p : Fallible S I E A) : Prop :=
  Prog.Along rely ok good
    (fun past r => match r with
      | .ok a => fine past a
      | .error e => bad past e) past p

variable {fine : List (S × S) → B → Prop} {bad : List (S × S) → E → Prop} {past : List (S × S)}
  {mid : List (S × S) → A → Prop} {f : A → Fallible S I E B}

theorem along_try {p : Fallible S I E A} (hp : Along rely ok good mid bad past p)
    (hf : ∀ past a, mid past a → Along rely ok good fine bad past (f a)) :
    Along rely ok good fine bad past (p >>= f) := by
  refine Prog.along_bind (Prog.along_mono ?_ hp)
  intro past r h
  cases r with
  | ok a => exact hf past a h
  | error e => exact h

/-- A part that only matters for being there, and what follows. -/
theorem along_pass {does : S → S → Prop} (hrefl : ∀ s, rely s s)
    (hgood : ∀ past s s', does s s' → good past s s') {P : List (S × S) → Prop}
    (happend : ∀ past c, P past → P (past ++ [c])) (hP : P past) {p : Fallible S I E A}
    (hp : ∀ s0, Ensures rely ok does Any Any s0 p) (hbad : ∀ past e, P past → bad past e)
    (hf : ∀ past a, P past → Along rely ok good fine bad past (f a)) :
    Along rely ok good fine bad past (p >>= f) := by
  refine Prog.along_bind (Prog.along_mono ?_ (Prog.along_of_ensures hrefl hgood happend hP hp))
  intro past r h
  cases r with
  | ok a => exact hf past a h.1
  | error e => exact hbad past e h.1

/-- Both outcomes of a program, and what follows. -/
theorem along_attempt {midBad : List (S × S) → E' → Prop} {p : Fallible S I E' A}
    {f : Except E' A → Fallible S I E B} (hp : Along rely ok good mid midBad past p)
    (hok : ∀ past a, mid past a → Along rely ok good fine bad past (f (.ok a)))
    (herror : ∀ past e, midBad past e → Along rely ok good fine bad past (f (.error e))) :
    Along rely ok good fine bad past (attempt p >>= f) := by
  refine Prog.along_bind (Prog.along_bind (Prog.along_mono ?_ hp))
  intro past r h
  cases r with
  | ok a => exact hok past a h
  | error e => exact herror past e h

theorem along_fail {e : E} (h : bad past e) :
    Along rely ok good fine bad past (fail e : Fallible S I E B) :=
  h

theorem along_pure {b : B} (h : fine past b) :
    Along rely ok good fine bad past (pure b : Fallible S I E B) :=
  h

theorem along_ite {c : Prop} [Decidable c] {p q : Fallible S I E B}
    (hp : c → Along rely ok good fine bad past p) (hq : ¬ c → Along rely ok good fine bad past q) :
    Along rely ok good fine bad past (if c then p else q) := by
  by_cases hc : c
  · rw [if_pos hc]
    exact hp hc
  · rw [if_neg hc]
    exact hq hc

theorem along_guard {c : Prop} [Decidable c] {e : E} {f : Unit → Fallible S I E B}
    (hbad : c → bad past e) (hf : ¬ c → Along rely ok good fine bad past (f ())) :
    Along rely ok good fine bad past (refuseIf c e >>= f) := by
  unfold refuseIf
  by_cases hc : c
  · rw [if_pos hc]
    exact hbad hc
  · rw [if_neg hc]
    exact hf hc

end Fallible

/-! ## Servers -/

/-- An operation that has started: what it still has to do, and for each of its calls the
state that it found and the state that it left. -/
structure Call (T S I R : Type) where
  op : T
  prog : Prog S I R
  found : List (S × S) := []

/-- What the operation has returned. -/
def Call.result? {T S I R : Type} (c : Call T S I R) : Option R :=
  match c.prog with
  | .ret r => some r
  | .call _ _ => none

structure Server (T S I R : Type) where
  shared : S
  calls : List (Call T S I R) := []

namespace Server

variable {T S I R : Type} (code : T → Prog S I R)

def step (v : Server T S I R) : PoolEvent T I → Server T S I R
  | .spawn op => { v with calls := v.calls ++ [{ op := op, prog := code op }] }
  | .advance k i =>
    match v.calls[k]? with
    | none => v
    | some c =>
      match c.prog with
      | .ret _ => v
      | .call effect next =>
        { shared := effect v.shared i
          calls := v.calls.set k
            { c with
              prog := next v.shared i
              found := c.found ++ [(v.shared, effect v.shared i)] } }

/-- The server after a call of the operation at `k`. -/
def advanced (v : Server T S I R) (k : Nat) (c : Call T S I R) (s' : S) (prog : Prog S I R) :
    Server T S I R where
  shared := s'
  calls := v.calls.set k { c with prog := prog, found := c.found ++ [(v.shared, s')] }

theorem step_cases (v : Server T S I R) (e : PoolEvent T I) : (∃ op, e = .spawn op ∧ v.step code e =
        { v with calls := v.calls ++ [{ op := op, prog := code op }] }) ∨
      v.step code e = v ∨
      ∃ k i c effect next, e = .advance k i ∧ v.calls[k]? = some c ∧ c.prog = .call effect next ∧
        v.step code e = v.advanced k c (effect v.shared i) (next v.shared i) := by
  cases e with
  | spawn op => exact .inl ⟨op, rfl, rfl⟩
  | advance k i =>
    right
    cases hc : v.calls[k]? with
    | none =>
      left
      simp only [step, hc]
    | some c =>
      cases hprog : c.prog with
      | ret r =>
        left
        simp only [step, hc, hprog]
      | call effect next =>
        right
        refine ⟨k, i, c, effect, next, rfl, hc, hprog, ?_⟩
        simp only [step, advanced, hc, hprog]

/-- Operations stay in the list. -/
theorem exists_op_step {v : Server T S I R} {c : Call T S I R} (hc : c ∈ v.calls)
    (e : PoolEvent T I) : ∃ c' ∈ (v.step code e).calls, c'.op = c.op := by
  rcases v.step_cases code e with ⟨op, _, heq⟩ | heq | ⟨k, i, d, effect, next, _, hd, _, heq⟩
  · rw [heq]
    exact ⟨c, List.mem_append_left _ hc, rfl⟩
  · rw [heq]
    exact ⟨c, hc, rfl⟩
  · rw [heq]
    obtain ⟨j, hj⟩ := List.getElem?_of_mem hc
    by_cases hjk : k = j
    · rw [← hjk, hd] at hj
      cases hj
      have hlt := (List.getElem?_eq_some_iff.mp hd).1
      exact ⟨_, List.mem_of_getElem? (List.getElem?_set_self hlt), rfl⟩
    · refine ⟨c, List.mem_of_getElem? (i := j) ?_, rfl⟩
      exact (List.getElem?_set_ne hjk).trans hj

/-! ### The rule for one event -/

variable {code} (rely : S → S → Prop) (ok : T → S → I → Prop)
  (good : T → List (S × S) → S → S → Prop) (post : T → List (S × S) → R → Prop)

/-- The operation is at a point of its program that its history justifies. -/
def Sound (s : S) (c : Call T S I R) : Prop :=
  (∀ pair ∈ c.found, rely pair.2 s) ∧
    Prog.Along rely (ok c.op) (good c.op) (post c.op) c.found c.prog

/-- The operations from the index `first` on are sound. -/
def Justified (first : Nat) (v : Server T S I R) : Prop :=
  ∀ k c, first ≤ k → v.calls[k]? = some c → Sound rely ok good post v.shared c

variable {rely ok good post}

variable {first : Nat} {v : Server T S I R}

/-- What an operation has returned meets its postcondition. -/
theorem Justified.result (h : v.Justified rely ok good post first) {k : Nat} {c : Call T S I R}
    (hk : first ≤ k) (hc : v.calls[k]? = some c) {r : R} (hr : c.result? = some r) :
    post c.op c.found r := by
  have halong := (h k c hk hc).2
  unfold Call.result? at hr
  split at hr
  · rename_i r' hprog
    cases hr
    rw [hprog] at halong
    exact halong
  · cases hr

/-- What an event does to the shared state. -/
theorem Justified.moves (code : T → Prog S I R) (h : v.Justified rely ok good post first)
    (e : PoolEvent T I)
    (hok : ∀ k i c, e = .advance k i → v.calls[k]? = some c → first ≤ k → ok c.op v.shared i) :
    (v.step code e).shared = v.shared ∨ ∃ k i c, e = .advance k i ∧ v.calls[k]? = some c ∧
        (first ≤ k → good c.op c.found v.shared (v.step code e).shared) := by
  rcases v.step_cases code e with ⟨op, he, heq⟩ | heq | ⟨k, i, c, effect, next, he, hc, hprog, heq⟩
  · rw [heq]
    exact .inl rfl
  · rw [heq]
    exact .inl rfl
  · rw [heq]
    refine .inr ⟨k, i, c, he, hc, fun hk => ?_⟩
    obtain ⟨hfound, halong⟩ := h k c hk hc
    rw [hprog] at halong
    exact (halong v.shared i hfound (hok k i c he hc hk)).1

theorem Justified.step (hrefl : ∀ s, rely s s)
    (htrans : ∀ s s' s'', rely s s' → rely s' s'' → rely s s'')
    (hcode : ∀ op, Prog.Along rely (ok op) (good op) (post op) [] (code op))
    (h : v.Justified rely ok good post first) {e : PoolEvent T I}
    (hmoves : rely v.shared (v.step code e).shared)
    (hok : ∀ k i c, e = .advance k i → v.calls[k]? = some c → first ≤ k → ok c.op v.shared i) :
    (v.step code e).Justified rely ok good post first := by
  rcases v.step_cases code e with ⟨op, he, heq⟩ | heq | ⟨k, i, c, effect, next, he, hc, hprog, heq⟩
  · rw [heq]
    intro k c hk hc
    by_cases hlt : k < v.calls.length
    · rw [List.getElem?_append_left hlt] at hc
      exact h k c hk hc
    · rw [List.getElem?_append_right (by omega)] at hc
      rw [List.mem_singleton.mp (List.mem_of_getElem? hc)]
      refine ⟨?_, hcode op⟩
      intro pair hpair
      cases hpair
  · rw [heq]
    exact h
  · rw [heq] at hmoves ⊢
    have hlater : ∀ (d : Call T S I R), (∀ pair ∈ d.found, rely pair.2 v.shared) →
        ∀ pair ∈ d.found, rely pair.2 (effect v.shared i) := by
      intro d hd pair hpair
      exact htrans _ _ _ (hd pair hpair) hmoves
    intro j d hj hd
    unfold advanced at hd
    rw [List.getElem?_set] at hd
    split at hd
    · rename_i hjk
      split at hd
      · cases hd
        rw [← hjk] at hj
        obtain ⟨hfound, halong⟩ := h k c hj hc
        rw [hprog] at halong
        refine ⟨?_, (halong v.shared i hfound (hok k i c he hc hj)).2⟩
        exact List.forall_mem_append.mpr ⟨hlater c hfound, List.forall_mem_singleton.mpr (hrefl _)⟩
      · cases hd
    · obtain ⟨hfound, halong⟩ := h j d hj hd
      exact ⟨hlater d hfound, halong⟩

end Server

end GoLib
