import KubeSentry.GoLib.Run
import KubeSentry.Api.Types

/-!
# The namespace cache

`internal/webhook/namespace_cache.go`: the labels of namespaces, filled by an
informer and, on a miss, by a fetch from the API server.

`GetLabels` takes the lock twice, and fetches in between.  So a call has three
steps: it looks into the store, the fetch is answered, and the answer is stored.
Events of the informer, changes at the API server and steps of other calls come
at any place between them.

The states of a namespace at the API server are numbered.  An event describes one
of them, a fetch answers with the current one, and `source` remembers for every
stored entry which one it was taken from.  The answer is stored whatever has
happened in the meantime, so an entry may fall behind the informer
(`late_store_is_stale`).  It does not if no event for a newer state than the
fetched one comes in between (`labels_never_staler`).
-/

namespace KubeSentry.Webhook

open GoLib

/-! ## The cache -/

/-- `NamespaceCache`; `fetcher` says that one is installed. -/
structure NamespaceCache where
  store : GoMap Labels := ∅
  fetcher : Bool := true

/-- `Upsert`. -/
def NamespaceCache.upsert (c : NamespaceCache) (name : String) (labels : Labels) : NamespaceCache :=
  { c with store := c.store.insert name labels }

/-- `Delete`. -/
def NamespaceCache.delete (c : NamespaceCache) (name : String) : NamespaceCache :=
  { c with store := c.store.erase name }

/-- A call of `GetLabels` that has missed: its fetch is on the way, or was
answered with labels from the state with this number. -/
inductive GetLabelsCall where
  | missed (name : String)
  | fetched (name : String) (labels : Labels) (number : Nat)

/-- The cache, the calls and the API server. -/
structure NamespaceWorld where
  /-- The states of a namespace by number, none while it does not exist. -/
  states : String → Nat → Option Labels
  /-- The number of the current state. -/
  current : String → Nat := fun _ => 0
  /-- The number of the state that the last delivered event describes. -/
  delivered : String → Option Nat := fun _ => none
  cache : NamespaceCache := {}
  /-- The number of the state that an entry of the store was taken from. -/
  source : String → Nat := fun _ => 0
  calls : List GetLabelsCall := []
  /-- What `GetLabels` has returned, the latest last. -/
  answers : List (String × Option Labels) := []

namespace NamespaceWorld

variable (w : NamespaceWorld)

/-- The API server changes a namespace. -/
def change (name : String) (state : Option Labels) : NamespaceWorld :=
  { w with
    states := fun name' number =>
      if name' = name ∧ number = w.current name + 1 then state else w.states name' number
    current := fun name' => if name' = name then w.current name + 1 else w.current name' }

/-- Events come in order, and describe states that have been there. -/
def Deliverable (name : String) (number : Nat) : Prop :=
  number ≤ w.current name ∧ ∀ last ∈ w.delivered name, last ≤ number

instance (w : NamespaceWorld) (name : String) (number : Nat) :
    Decidable (w.Deliverable name number) :=
  inferInstanceAs (Decidable (_ ∧ _))

/-- The informer delivers the event for a state: `syncNamespace`, or the
`DeleteFunc`. -/
def deliver (name : String) (number : Nat) : NamespaceWorld :=
  if w.Deliverable name number then
    { w with
      delivered := fun name' => if name' = name then some number else w.delivered name'
      cache :=
        match w.states name number with
        | some labels => w.cache.upsert name labels
        | none => w.cache.delete name
      source := fun name' => if name' = name then number else w.source name' }
  else w

/-- `GetLabels` up to the fetch. -/
def lookup (name : String) : NamespaceWorld :=
  match w.cache.store[name]? with
  | some labels => { w with answers := w.answers ++ [(name, some labels)] }
  | none =>
    if w.cache.fetcher then { w with calls := w.calls ++ [.missed name] }
    else { w with answers := w.answers ++ [(name, none)] }

/-- The fetch of a call is answered with the current labels.  It fails if the
namespace does not exist, or because the API server is out of reach. -/
def fetch (place : Nat) (reachable : Bool) : NamespaceWorld :=
  match w.calls[place]? with
  | some (.missed name) =>
    match w.states name (w.current name), reachable with
    | some labels, true =>
      { w with calls := w.calls.set place (.fetched name labels (w.current name)) }
    | _, _ =>
      { w with calls := w.calls.eraseIdx place, answers := w.answers ++ [(name, none)] }
  | _ => w

/-- The answer of a call is stored, and the call returns. -/
def store (place : Nat) : NamespaceWorld :=
  match w.calls[place]? with
  | some (.fetched name labels number) =>
    { w with
      cache := w.cache.upsert name labels
      source := fun name' => if name' = name then number else w.source name'
      calls := w.calls.eraseIdx place
      answers := w.answers ++ [(name, some labels)] }
  | _ => w

end NamespaceWorld

inductive NamespaceInput where
  | change (name : String) (state : Option Labels)
  | deliver (name : String) (number : Nat)
  | lookup (name : String)
  | fetch (place : Nat) (reachable : Bool)
  | store (place : Nat)

variable (w : NamespaceWorld)

def NamespaceWorld.step : NamespaceInput → NamespaceWorld
  | .change name state => w.change name state
  | .deliver name number => w.deliver name number
  | .lookup name => w.lookup name
  | .fetch place reachable => w.fetch place reachable
  | .store place => w.store place

/-! ## Freshness -/

/-- The entry of a namespace is the labels of the last delivered event, or
labels of a later state. -/
def NamespaceWorld.EntryFresh (name : String) (last : Nat) : Prop :=
  ∀ labels, w.cache.store[name]? = some labels →
    w.states name last = some labels ∨
      (last < w.source name ∧ w.source name ≤ w.current name ∧
        w.states name (w.source name) = some labels)

/-- The last delivered event is a deletion, and the namespace has not come back. -/
def NamespaceWorld.Gone (name : String) (last : Nat) : Prop :=
  ∀ number, last ≤ number → number ≤ w.current name → w.states name number = none

/-- Once an event for a namespace has been delivered, its entry is no staler
than the event, and a namespace that is gone has none. -/
def NamespaceWorld.NeverStaler : Prop :=
  ∀ name last, w.delivered name = some last →
    w.EntryFresh name last ∧ (w.Gone name last → w.cache.store[name]? = none)

/-- A call stores what it fetched before the informer has delivered an event for
a newer state. -/
def NotOvertaken : NamespaceInput → Prop
  | .store place => ∀ name labels number,
      w.calls[place]? = some (.fetched name labels number) →
        ∀ last ∈ w.delivered name, last ≤ number
  | _ => True

/-- The invariant: entries and answers are labels of the states they name. -/
structure Dated (w : NamespaceWorld) : Prop where
  delivered : ∀ name, ∀ last ∈ w.delivered name, last ≤ w.current name
  entries : ∀ name labels, w.cache.store[name]? = some labels →
    w.source name ≤ w.current name ∧ w.states name (w.source name) = some labels ∧
      ∀ last ∈ w.delivered name, last ≤ w.source name
  calls : ∀ name labels number, .fetched name labels number ∈ w.calls →
    number ≤ w.current name ∧ w.states name number = some labels

namespace Dated

variable {w : NamespaceWorld} (h : Dated w)

include h

theorem neverStaler : w.NeverStaler := by
  intro name last hlast
  have hfresh : w.EntryFresh name last := by
    intro labels hentry
    obtain ⟨hcurrent, hstate, hsource⟩ := h.entries name labels hentry
    have hle := hsource last hlast
    by_cases heq : w.source name = last
    · rw [heq] at hstate
      exact .inl hstate
    · exact .inr ⟨by omega, hcurrent, hstate⟩
  refine ⟨hfresh, fun hgone => ?_⟩
  cases hentry : w.cache.store[name]? with
  | none => rfl
  | some labels =>
    obtain ⟨hcurrent, hstate, hsource⟩ := h.entries name labels hentry
    rw [hgone (w.source name) (hsource last hlast) hcurrent] at hstate
    cases hstate

/-- A change adds a state and leaves the others. -/
theorem change (name : String) (state : Option Labels) : Dated (w.change name state) := by
  have hcurrent : ∀ name', w.current name' ≤ (w.change name state).current name' := by
    intro name'
    show w.current name' ≤ if name' = name then w.current name + 1 else w.current name'
    split
    · rename_i heq
      rw [heq]
      omega
    · exact le_rfl
  have hstates : ∀ name' number, number ≤ w.current name' →
      (w.change name state).states name' number = w.states name' number := by
    intro name' number hle
    show (if name' = name ∧ number = w.current name + 1 then state else _) = _
    refine if_neg fun hnew => ?_
    rw [hnew.1] at hle
    omega
  refine ⟨?_, ?_, ?_⟩
  · intro name' last hlast
    exact (h.delivered name' last hlast).trans (hcurrent name')
  · intro name' labels hentry
    obtain ⟨hle, hstate, hlast⟩ := h.entries name' labels hentry
    exact ⟨hle.trans (hcurrent name'), (hstates name' _ hle).trans hstate, hlast⟩
  · intro name' labels number hcall
    obtain ⟨hle, hstate⟩ := h.calls name' labels number hcall
    exact ⟨hle.trans (hcurrent name'), (hstates name' _ hle).trans hstate⟩

theorem deliver (name : String) (number : Nat) : Dated (w.deliver name number) := by
  unfold NamespaceWorld.deliver
  split
  · rename_i hdeliverable
    refine ⟨?_, ?_, h.calls⟩
    · intro name' last hlast
      dsimp only at hlast ⊢
      split at hlast
      · rename_i heq
        rw [← Option.mem_some_iff.mp hlast, heq]
        exact hdeliverable.1
      · exact h.delivered name' last hlast
    · intro name' labels hentry
      dsimp only at hentry ⊢
      by_cases heq : name' = name
      · -- The entry is what the event brought.
        subst heq
        simp only [if_true]
        refine ⟨hdeliverable.1, ?_, fun last hlast => (Option.mem_some_iff.mp hlast).ge⟩
        cases hstate : w.states name' number with
        | none => simp [hstate, NamespaceCache.delete] at hentry
        | some labels' =>
          simp only [hstate, NamespaceCache.upsert, getElem?_insert_key, if_true] at hentry
          exact hentry
      · simp only [heq, if_false]
        have hold : w.cache.store[name']? = some labels := by
          cases hstate : w.states name number with
          | none => simpa [hstate, NamespaceCache.delete, Ne.symm heq] using hentry
          | some labels' => simpa [hstate, NamespaceCache.upsert, Ne.symm heq] using hentry
        exact h.entries name' labels hold
  · exact h

theorem lookup (name : String) : Dated (w.lookup name) := by
  unfold NamespaceWorld.lookup
  split
  · exact ⟨h.delivered, h.entries, h.calls⟩
  · split
    · refine ⟨h.delivered, h.entries, ?_⟩
      intro name' labels number hcall
      rcases List.mem_append.mp hcall with hold | hnew
      · exact h.calls name' labels number hold
      · cases List.mem_singleton.mp hnew
    · exact ⟨h.delivered, h.entries, h.calls⟩

theorem fetch (place : Nat) (reachable : Bool) : Dated (w.fetch place reachable) := by
  unfold NamespaceWorld.fetch
  split
  · split
    · rename_i name hplace labels hstate
      refine ⟨h.delivered, h.entries, ?_⟩
      intro name' labels' number hcall
      rcases List.mem_or_eq_of_mem_set hcall with hold | hnew
      · exact h.calls name' labels' number hold
      · injection hnew with hname hlabels hnumber
        rw [hname, hlabels, hnumber]
        exact ⟨le_rfl, hstate⟩
    · refine ⟨h.delivered, h.entries, ?_⟩
      intro name' labels' number hcall
      exact h.calls name' labels' number (List.mem_of_mem_eraseIdx hcall)
  · exact h

theorem store (place : Nat) (hok : NotOvertaken w (.store place)) : Dated (w.store place) := by
  unfold NamespaceWorld.store
  split
  · rename_i name labels number hplace
    obtain ⟨hle, hstate⟩ := h.calls name labels number (List.mem_of_getElem? hplace)
    refine ⟨h.delivered, ?_, ?_⟩
    · intro name' labels' hentry
      dsimp only at hentry ⊢
      by_cases heq : name' = name
      · subst heq
        simp only [if_true]
        simp only [NamespaceCache.upsert, getElem?_insert_key, if_true, Option.some.injEq] at hentry
        rw [← hentry]
        exact ⟨hle, hstate, hok name' labels number hplace⟩
      · simp only [heq, if_false]
        have hold : w.cache.store[name']? = some labels' := by
          simpa [NamespaceCache.upsert, Ne.symm heq] using hentry
        exact h.entries name' labels' hold
    · intro name' labels' number' hcall
      exact h.calls name' labels' number' (List.mem_of_mem_eraseIdx hcall)
  · exact h

theorem step (input : NamespaceInput) (hok : NotOvertaken w input) : Dated (w.step input) := by
  cases input with
  | change name state => exact h.change name state
  | deliver name number => exact h.deliver name number
  | lookup name => exact h.lookup name
  | fetch place reachable => exact h.fetch place reachable
  | store place => exact h.store place hok

end Dated

/-- The webhook starts with an empty cache, whatever the namespaces are. -/
def NamespaceWorld.start (states : String → Nat → Option Labels) (fetcher : Bool) :
    NamespaceWorld :=
  { states := states, cache := { fetcher := fetcher } }

theorem dated_start (states : String → Nat → Option Labels) (fetcher : Bool) :
    Dated (NamespaceWorld.start states fetcher) where
  delivered name last hlast := nomatch hlast
  entries name labels hentry := by simp [NamespaceWorld.start] at hentry
  calls name labels number hcall := nomatch hcall

/-- In every interleaving in which no call is overtaken, no entry is staler than
the informer. -/
theorem labels_never_staler (states : String → Nat → Option Labels) (fetcher : Bool)
    (inputs : List NamespaceInput)
    (hguard : Guarded NotOvertaken NamespaceWorld.step (.start states fetcher) inputs) :
    (run NamespaceWorld.step (.start states fetcher) inputs).NeverStaler := by
  have hdated : Dated (run NamespaceWorld.step (.start states fetcher) inputs) :=
    run_invariant (I := Dated) (fun _ input h hok => h.step input hok) (dated_start states fetcher)
      hguard
  exact hdated.neverStaler

/-! ## A late store -/

def envLabels (env : String) : Labels :=
  (∅ : Labels).insert "env" env

/-- Nothing exists at the start. -/
def emptyCluster : NamespaceWorld :=
  .start (fun _ _ => none) true

/-- A request comes in for a namespace that was just created.  Its labels are
fetched, the namespace changes, the informer delivers the change, and then the
fetched labels are stored. -/
def lateStore (state : Option Labels) : List NamespaceInput :=
  [.change "prod" (some (envLabels "dev")), .lookup "prod", .fetch 0 true, .change "prod" state,
    .deliver "prod" 2, .store 0]

/-- The same run with the store before the change. -/
def promptStore (state : Option Labels) : List NamespaceInput :=
  [.change "prod" (some (envLabels "dev")), .lookup "prod", .fetch 0 true, .store 0,
    .change "prod" state, .deliver "prod" 2]

/-- After a late store the entry is older than the last event, and a namespace
that was deleted has one again. -/
theorem late_store_is_stale :
    ¬ (run NamespaceWorld.step emptyCluster (lateStore (some (envLabels "prod")))).NeverStaler ∧
      ¬ (run NamespaceWorld.step emptyCluster (lateStore none)).NeverStaler := by
  refine ⟨fun h => ?_, fun h => ?_⟩
  · rcases (h "prod" 2 rfl).1 (envLabels "dev") (by decide +kernel) with hsame | hlater
    · exact absurd hsame (by decide +kernel)
    · exact absurd hlater.1 (by decide +kernel)
  · rcases (h "prod" 2 rfl).1 (envLabels "dev") (by decide +kernel) with hsame | hlater
    · exact absurd hsame (by decide +kernel)
    · exact absurd hlater.1 (by decide +kernel)

/-- The prompt store is not overtaken. -/
theorem labels_never_staler_prompt :
    (run NamespaceWorld.step emptyCluster (promptStore none)).NeverStaler := by
  refine labels_never_staler _ true (promptStore none) ?_
  refine ⟨trivial, trivial, trivial, ?_, trivial, trivial, trivial⟩
  intro name labels number hcall last hlast
  exact nomatch hlast

end KubeSentry.Webhook
