import KubeSentry.Admission.Incident
import Mathlib.Logic.Relation

/-!
# The incident tracker

`Tracker` of `internal/admission/observability`: failures with one reason are
gathered in one active incident, an incident that has been silent for a minute
is closed, and closed incidents wait in a bounded list until they are
acknowledged.

The identities come from `crypto/rand`.  Here they come from a sequence
`source`, and `drawn` counts how many have been used; an element `none` is a
failed read.  `evicted` is ghost data: the keys that were pushed out of the
pending list, with the number of entries that were pending then.

Each call is a chain of moves.  `Move` says what a move can do, and what holds
of every move holds of every call.  The one call that is not such a chain is a
`Record` for an incident that is open and goes on.
-/

namespace KubeSentry.Observability

open GoLib

/-- `DefaultSilencePeriod`. -/
def defaultSilencePeriod : Int := 60 * 1000000000

def defaultPendingLimit : Nat := 256

structure Tracker where
  component : Component
  instanceID : String
  limit : Nat := defaultPendingLimit
  active : GoMap Incident := ∅
  pending : GoMap Incident := ∅
  order : List String := []
  drawn : Nat := 0
  evicted : List (String × Nat) := []

/-- `NewTracker` for a valid component and a given instance id. -/
def newTracker (component : Component) (instanceID : String) : Tracker where
  component := component
  instanceID := truncate instanceID maxIdentityLength

/-! ## Changes of one incident -/

namespace Incident

/-- The changes that `Record` makes to an open incident. -/
def seen (i : Incident) (affected : Int) (sampleEventID detail : String) (now : Time) : Incident :=
  { i with
    revision := uint64 (i.revision + 1), lastSeenAt := now
    affectedCount := int64 (i.affectedCount + affected)
    detail := truncate detail maxDetailLength
    sampleEventIDs := appendSample i.sampleEventIDs sampleEventID }

/-- The changes that `recordDropLocked` makes to an open incident. -/
def dropSeen (i : Incident) (now : Time) : Incident :=
  { i with
    revision := uint64 (i.revision + 1), lastSeenAt := now
    affectedCount := int64 (i.affectedCount + 1) }

/-- The changes that `closeLocked` makes. -/
def close (i : Incident) : Incident :=
  { i with closed := true, revision := uint64 (i.revision + 1) }

/-- Silent for longer than the silence period. -/
def silent (i : Incident) (now : Time) : Bool :=
  now - i.lastSeenAt > defaultSilencePeriod

end Incident

/-! ## The calls -/

namespace Tracker

/-- The incident that the tracker opens under a new key. -/
def newIncident (t : Tracker) (reason : String) (affected : Int) (detail : String) (now : Time)
    (samples : List String) (key : String) : Incident where
  incidentKey := key
  reporterInstanceID := t.instanceID
  revision := 1
  component := t.component
  reason := reason
  startedAt := now
  lastSeenAt := now
  affectedCount := affected
  sampleEventIDs := samples
  detail := detail

/-- Set the active incident of a reason. -/
def setActive (t : Tracker) (reason : String) (incident : Incident) : Tracker :=
  { t with active := t.active.insert reason incident }

section

variable (source : Nat → Option String)

/-- Draw an identity and open an incident under it; nothing is opened when
`NewIdentity` fails. -/
def openIncident (t : Tracker) (reason : String) (affected : Int) (detail : String) (now : Time)
    (samples : List String) : Tracker :=
  match source t.drawn with
  | none => { t with drawn := t.drawn + 1 }
  | some key =>
    { t with
      drawn := t.drawn + 1
      active := t.active.insert reason (t.newIncident reason affected detail now samples key) }

def recordDropLocked (t : Tracker) (now : Time) : Tracker :=
  match t.active[reasonReportDropped]? with
  | none =>
    t.openIncident source reasonReportDropped 1 "pending incident queue reached capacity" now []
  | some current =>
    t.setActive reasonReportDropped (current.dropSeen now)

/-- The oldest pending incident leaves.  The list is not empty when this is
called; in the source `order[0]` would panic. -/
def evictOldest (t : Tracker) : Tracker × Option Incident :=
  match t.order with
  | [] => (t, none)
  | droppedKey :: rest =>
    ({ t with
        pending := t.pending.erase droppedKey, order := rest
        evicted := t.evicted ++ [(droppedKey, t.pending.size)] },
      t.pending[droppedKey]?)

/-- The part of `closeLocked` that makes room. -/
def makeRoom (t : Tracker) (reason : String) (now : Time) : Tracker :=
  if t.limit ≤ t.pending.size then
    match t.evictOldest with
    | (t, none) => t
    | (t, some dropped) =>
      if dropped.reason ≠ reasonReportDropped ∧ reason ≠ reasonReportDropped then
        t.recordDropLocked source now
      else t
  else t

def closeLocked (t : Tracker) (reason : String) (incident : Incident) (now : Time) : Tracker :=
  let t := { t with active := t.active.erase reason }
  let t := t.makeRoom source reason now
  { t with
    pending := t.pending.insert incident.incidentKey incident.close
    order := t.order ++ [incident.incidentKey] }

def record (t : Tracker) (reason : String) (affected : Int) (sampleEventID detail : String)
    (now : Time) : Tracker :=
  if !validReason reason then t
  else
    let affected := if affected ≤ 0 then 1 else affected
    let detail' := truncate detail maxDetailLength
    let samples := appendSample [] sampleEventID
    match t.active[reason]? with
    | none => t.openIncident source reason affected detail' now samples
    | some current =>
      if current.silent now then
        (t.closeLocked source reason current now).openIncident source reason affected detail' now
          samples
      else t.setActive reason (current.seen affected sampleEventID detail now)

/-- The reasons that a snapshot closes, in the order of the map iteration. -/
def expired (t : Tracker) (order : Shuffle) (now : Time) : List String :=
  ((order.run t.active.toList).filter fun e => e.2.silent now).map fun e => e.1

/-- A round of the loop of `Snapshot` that closes incidents. -/
def closeExpired (now : Time) (t : Tracker) (reason : String) : Tracker :=
  match t.active[reason]? with
  | none => t
  | some incident => t.closeLocked source reason incident now

/-- The state after a `Snapshot`. -/
def afterSnapshot (t : Tracker) (order : Shuffle) (now : Time) : Tracker :=
  (t.expired order now).foldl (closeExpired source now) t

end

/-- The order of a snapshot: by start, then by key. -/
def before (a b : Incident) : Bool :=
  if a.startedAt = b.startedAt then a.incidentKey ≤ b.incidentKey else a.startedAt < b.startedAt

/-- What a `Snapshot` returns. -/
def items (t : Tracker) : List Incident :=
  (t.active.toList.map (fun e => e.2) ++ t.order.filterMap fun key => t.pending[key]?).insertionSort
    fun a b => before a b = true

/-- `Acknowledge` with a terminal answer. -/
def acknowledge (t : Tracker) (key : String) (revision : Nat) : Tracker :=
  match t.pending[key]? with
  | none => t
  | some incident =>
    if revision < incident.revision then t
    else { t with pending := t.pending.erase key, order := t.order.erase key }

def reset (t : Tracker) : Tracker :=
  { t with active := ∅, pending := ∅, order := [] }

/-! ## Moves -/

/-- An active incident moves to the pending list. -/
def retire (t : Tracker) (reason : String) (incident : Incident) : Tracker :=
  { t with
    active := t.active.erase reason
    pending := t.pending.insert incident.incidentKey incident.close
    order := t.order ++ [incident.incidentKey] }

variable (source : Nat → Option String)

/-- One change of the tracker in a call at the time `now`. -/
inductive Move (now : Time) : Tracker → Tracker → Prop where
  | opened (t : Tracker) (reason : String) (affected : Int) (detail : String)
      (samples : List String) (habsent : t.active[reason]? = none) :
      Move now t (t.openIncident source reason affected detail now samples)
  | drop (t : Tracker) (current : Incident)
      (hcurrent : t.active[reasonReportDropped]? = some current) :
      Move now t (t.setActive reasonReportDropped (current.dropSeen now))
  | evict (t : Tracker) (hfull : t.limit ≤ t.pending.size) : Move now t t.evictOldest.1
  | retire (t : Tracker) (reason : String) (incident : Incident)
      (hactive : t.active[reason]? = some incident) : Move now t (t.retire reason incident)

/-- A chain of moves. -/
abbrev Moves (now : Time) : Tracker → Tracker → Prop :=
  Relation.ReflTransGen (Move source now)

theorem recordDropLocked_moves (t : Tracker) (now : Time) :
    Moves source now t (t.recordDropLocked source now) := by
  unfold recordDropLocked
  cases hcurrent : t.active[reasonReportDropped]? with
  | none => exact .single (.opened t _ _ _ _ hcurrent)
  | some current => exact .single (.drop t current hcurrent)

theorem makeRoom_moves (t : Tracker) (reason : String) (now : Time) :
    Moves source now t (t.makeRoom source reason now) := by
  unfold makeRoom
  split
  · rename_i hfull
    have hevict : Moves source now t t.evictOldest.1 := .single (.evict t hfull)
    split
    · rename_i t' h
      rw [h] at hevict
      exact hevict
    · rename_i t' dropped h
      rw [h] at hevict
      split
      · exact hevict.trans (recordDropLocked_moves source t' now)
      · exact hevict
  · exact .refl

/-- The tracker without the active incident of a reason. -/
def without (t : Tracker) (reason : String) : Tracker :=
  { t with active := t.active.erase reason }

variable {t t' : Tracker} {reason : String} {now : Time}

theorem recordDropLocked_without (hreason : reason ≠ reasonReportDropped) (now : Time) :
    (t.without reason).recordDropLocked source now =
      (t.recordDropLocked source now).without reason := by
  have hswap : ∀ i : Incident, (t.active.erase reason).insert reasonReportDropped i =
      (t.active.insert reasonReportDropped i).erase reason := by
    intro i
    apply Std.ExtTreeMap.ext_getElem?
    intro key
    rw [getElem?_insert_key, getElem?_erase_key, getElem?_erase_key, getElem?_insert_key]
    by_cases hkey : reason = key
    · rw [if_pos hkey, if_pos hkey, if_neg (fun h => hreason (hkey.trans h.symm))]
    · rw [if_neg hkey, if_neg hkey]
  unfold recordDropLocked without setActive
  rw [getElem?_erase_key, if_neg hreason]
  cases t.active[reasonReportDropped]? with
  | none =>
    unfold openIncident
    dsimp only
    cases source t.drawn with
    | none => rfl
    | some key =>
      rw [← hswap]
      rfl
  | some current =>
    rw [← hswap]

theorem evictOldest_without (t : Tracker) (reason : String) :
    (t.without reason).evictOldest = (t.evictOldest.1.without reason, t.evictOldest.2) := by
  unfold evictOldest without
  dsimp only
  split <;> rfl

/-- Making room does not look at the incident that is about to move. -/
theorem makeRoom_without (t : Tracker) (reason : String) (now : Time) :
    (t.without reason).makeRoom source reason now =
      (t.makeRoom source reason now).without reason := by
  unfold makeRoom
  show (if t.limit ≤ t.pending.size then _ else _) = _
  split
  · rw [evictOldest_without]
    rcases t.evictOldest with ⟨t', _ | dropped⟩
    · rfl
    · dsimp only
      split
      · rename_i hdrop
        exact recordDropLocked_without source hdrop.2 now
      · rfl
  · rfl

theorem recordDropLocked_active (hreason : reason ≠ reasonReportDropped) (now : Time) :
    (t.recordDropLocked source now).active[reason]? = t.active[reason]? := by
  unfold recordDropLocked
  split
  · unfold openIncident
    split
    · rfl
    · rw [getElem?_insert_key, if_neg (Ne.symm hreason)]
  · rw [setActive, getElem?_insert_key, if_neg (Ne.symm hreason)]

theorem evictOldest_active (t : Tracker) : t.evictOldest.1.active = t.active := by
  unfold evictOldest
  split <;> rfl

theorem makeRoom_active (t : Tracker) (reason : String) (now : Time) :
    (t.makeRoom source reason now).active[reason]? = t.active[reason]? := by
  unfold makeRoom
  split
  · have hevict := evictOldest_active t
    generalize t.evictOldest = out at hevict
    rcases out with ⟨t', _ | dropped⟩
    · rw [← hevict]
    · dsimp only at hevict ⊢
      split
      · rename_i hdrop
        rw [recordDropLocked_active source hdrop.2, hevict]
      · rw [hevict]
  · rfl

/-- Closing is making room and then moving the incident. -/
theorem closeLocked_eq (t : Tracker) (reason : String) (incident : Incident) (now : Time) :
    t.closeLocked source reason incident now =
      (t.makeRoom source reason now).retire reason incident := by
  have hwithout := makeRoom_without source t reason now
  unfold without at hwithout
  unfold closeLocked retire
  dsimp only
  rw [hwithout]

theorem closeLocked_moves {incident : Incident} (hactive : t.active[reason]? = some incident)
    (now : Time) : Moves source now t (t.closeLocked source reason incident now) := by
  rw [closeLocked_eq]
  refine (makeRoom_moves source t reason now).tail (.retire _ reason incident ?_)
  rw [makeRoom_active]
  exact hactive

/-- A `Record` that is accepted is a chain of moves, or it changes the open
incident of its reason. -/
theorem record_cases (t : Tracker) (reason : String) (affected : Int)
    (sampleEventID detail : String) (now : Time) :
    Moves source now t (t.record source reason affected sampleEventID detail now) ∨
      ∃ current, t.active[reason]? = some current ∧
        t.record source reason affected sampleEventID detail now =
          t.setActive reason
            (current.seen (if affected ≤ 0 then 1 else affected) sampleEventID detail now) := by
  unfold record
  split
  · exact .inl .refl
  · cases hcurrent : t.active[reason]? with
    | none => exact .inl (.single (.opened t _ _ _ _ hcurrent))
    | some current =>
      dsimp only
      split
      · refine .inl ((closeLocked_moves source hcurrent now).tail (.opened _ _ _ _ _ ?_))
        rw [closeLocked_eq, retire, getElem?_erase_key, if_pos rfl]
      · exact .inr ⟨current, rfl, rfl⟩

theorem afterSnapshot_moves (t : Tracker) (order : Shuffle) (now : Time) :
    Moves source now t (t.afterSnapshot source order now) := by
  refine List.foldlRecOn _ _ (motive := fun t' => Moves source now t t') .refl ?_
  intro t' hmoves reason _
  refine hmoves.trans ?_
  unfold closeExpired
  split
  · exact .refl
  · rename_i incident hactive
    exact closeLocked_moves source hactive now

/-! ## Invariant -/

/-- The identities that the random source yields are distinct. -/
def Distinct : Prop :=
  ∀ m n key, source m = some key → source n = some key → m = n

/-- The key has been drawn. -/
def Drawn (t : Tracker) (key : String) : Prop :=
  ∃ n, n < t.drawn ∧ source n = some key

/-- The list of pending keys fits the map, and no key is used twice. -/
structure Consistent (t : Tracker) : Prop where
  order_nodup : t.order.Nodup
  mem_order : ∀ key, key ∈ t.order ↔ key ∈ t.pending
  pending_key : ∀ (key : String) (i : Incident), t.pending[key]? = some i → i.incidentKey = key
  pending_drawn : ∀ key ∈ t.pending, t.Drawn source key
  active_drawn : ∀ (reason : String) (i : Incident),
    t.active[reason]? = some i → t.Drawn source i.incidentKey
  active_not_pending : ∀ (reason : String) (i : Incident),
    t.active[reason]? = some i → i.incidentKey ∉ t.pending
  active_distinct : ∀ (reason reason' : String) (i i' : Incident), t.active[reason]? = some i →
    t.active[reason']? = some i' → i.incidentKey = i'.incidentKey → reason = reason'
  evicted_full : ∀ e ∈ t.evicted, t.limit ≤ e.2

theorem newTracker_consistent (component : Component) (instanceID : String) :
    Consistent source (newTracker component instanceID) where
  order_nodup := List.nodup_nil
  mem_order key := by simp [newTracker]
  pending_key key i hi := by simp [newTracker] at hi
  pending_drawn key hkey := by simp [newTracker] at hkey
  active_drawn reason i hi := by simp [newTracker] at hi
  active_not_pending reason i hi := by simp [newTracker] at hi
  active_distinct reason reason' i i' hi := by simp [newTracker] at hi
  evicted_full e he := by simp [newTracker] at he

variable {source}

section

variable (h : Consistent source t)

include h

/-- A change of an active incident that keeps its key. -/
theorem Consistent.update {i i' : Incident} (hactive : t.active[reason]? = some i)
    (hkey : i'.incidentKey = i.incidentKey) : Consistent source (t.setActive reason i') := by
  -- Every active incident afterwards has the key of an active one before.
  have hbefore : ∀ (r : String) (j : Incident), (t.active.insert reason i')[r]? = some j →
      ∃ j' : Incident, t.active[r]? = some j' ∧ j.incidentKey = j'.incidentKey := by
    intro r j hj
    rcases getElem?_insert_some.mp hj with ⟨hr, heq⟩ | ⟨_, hold⟩
    · exact ⟨i, hr ▸ hactive, heq ▸ hkey⟩
    · exact ⟨j, hold, rfl⟩
  refine ⟨h.order_nodup, h.mem_order, h.pending_key, h.pending_drawn, ?_, ?_, ?_, h.evicted_full⟩
  · intro r j hj
    obtain ⟨j', hj', heq⟩ := hbefore r j hj
    rw [heq]
    exact h.active_drawn r j' hj'
  · intro r j hj
    obtain ⟨j', hj', heq⟩ := hbefore r j hj
    rw [heq]
    exact h.active_not_pending r j' hj'
  · intro r s j k hj hk hjk
    obtain ⟨j', hj', heq⟩ := hbefore r j hj
    obtain ⟨k', hk', heq'⟩ := hbefore s k hk
    exact h.active_distinct r s j' k' hj' hk' (heq ▸ heq' ▸ hjk)

/-- A pending incident leaves without changing the rest. -/
theorem Consistent.remove (key : String) (hpending : t'.pending = t.pending.erase key)
    (horder : t'.order = t.order.erase key) (hactive : t'.active = t.active)
    (hdrawn : t'.drawn = t.drawn) (hevicted : ∀ e ∈ t'.evicted, t'.limit ≤ e.2) :
    Consistent source t' := by
  have hmem : ∀ k, k ∈ t'.pending → k ∈ t.pending := by
    intro k hk
    rw [hpending] at hk
    exact Std.ExtTreeMap.mem_of_mem_erase hk
  have hdr : ∀ k, t.Drawn source k → t'.Drawn source k := by
    intro k hk
    unfold Drawn at hk ⊢
    rw [hdrawn]
    exact hk
  refine ⟨?_, ?_, ?_, ?_, ?_, ?_, ?_, hevicted⟩
  · rw [horder]
    exact h.order_nodup.erase key
  · intro k
    rw [horder, hpending, h.order_nodup.mem_erase_iff, Std.ExtTreeMap.mem_erase, h.mem_order,
      ne_eq, ne_eq, Std.LawfulEqCmp.compare_eq_iff_eq, eq_comm]
  · intro k i hi
    rw [hpending] at hi
    exact h.pending_key k i (getElem?_erase_some.mp hi).2
  · intro k hk
    exact hdr k (h.pending_drawn k (hmem k hk))
  · intro r i hi
    rw [hactive] at hi
    exact hdr _ (h.active_drawn r i hi)
  · intro r i hi hk
    rw [hactive] at hi
    exact h.active_not_pending r i hi (hmem _ hk)
  · intro r r' i i' hi hi'
    rw [hactive] at hi hi'
    exact h.active_distinct r r' i i' hi hi'

theorem Consistent.evictOldest (hfull : t.limit ≤ t.pending.size) :
    Consistent source t.evictOldest.1 := by
  unfold Tracker.evictOldest
  split
  · exact h
  · rename_i key rest horder
    refine h.remove key rfl ?_ rfl rfl ?_
    · rw [horder, List.erase_cons_head]
    · exact List.forall_mem_append.mpr ⟨h.evicted_full, List.forall_mem_singleton.mpr hfull⟩

theorem Consistent.acknowledge (key : String) (revision : Nat) :
    Consistent source (t.acknowledge key revision) := by
  unfold Tracker.acknowledge
  split
  · exact h
  · split
    · exact h
    · exact h.remove key rfl rfl rfl rfl h.evicted_full

theorem Consistent.retire {incident : Incident} (hactive : t.active[reason]? = some incident) :
    Consistent source (t.retire reason incident) := by
  have hnew := h.active_not_pending reason incident hactive
  have hmem : ∀ k, k ∈ t.pending.insert incident.incidentKey incident.close ↔
      incident.incidentKey = k ∨ k ∈ t.pending := by
    intro k
    simp
  refine ⟨?_, ?_, ?_, ?_, ?_, ?_, ?_, h.evicted_full⟩
  · refine List.nodup_append.mpr ⟨h.order_nodup, List.nodup_singleton _, ?_⟩
    intro a ha b hb hab
    rw [List.mem_singleton.mp hb] at hab
    exact hnew ((h.mem_order _).mp (hab ▸ ha))
  · intro k
    show k ∈ t.order ++ [incident.incidentKey] ↔ k ∈ t.pending.insert _ _
    rw [List.mem_append, List.mem_singleton, h.mem_order, hmem]
    constructor
    · intro hk
      rcases hk with hk | hk
      · exact .inr hk
      · exact .inl hk.symm
    · intro hk
      rcases hk with hk | hk
      · exact .inr hk.symm
      · exact .inl hk
  · intro k i hi
    rcases getElem?_insert_some.mp hi with ⟨hk, heq⟩ | ⟨_, hold⟩
    · exact heq ▸ hk
    · exact h.pending_key k i hold
  · intro k hk
    rcases (hmem k).mp hk with heq | hold
    · exact heq ▸ h.active_drawn reason incident hactive
    · exact h.pending_drawn k hold
  · intro r i hi
    exact h.active_drawn r i (getElem?_erase_some.mp hi).2
  · intro r i hi hk
    obtain ⟨hne, hi'⟩ := getElem?_erase_some.mp hi
    rcases (hmem _).mp hk with heq | hold
    · exact hne (h.active_distinct reason r incident i hactive hi' heq)
    · exact h.active_not_pending r i hi' hold
  · intro r r' i i' hi hi'
    exact h.active_distinct r r' i i' (getElem?_erase_some.mp hi).2 (getElem?_erase_some.mp hi').2

end

/-- A new identity is not in use. -/
theorem Consistent.openIncident (hdistinct : Distinct source) (h : Consistent source t)
    (reason : String) (affected : Int) (detail : String) (now : Time) (samples : List String) :
    Consistent source (t.openIncident source reason affected detail now samples) := by
  have hlater : ∀ k, t.Drawn source k → ∃ n, n < t.drawn + 1 ∧ source n = some k := by
    intro k hk
    obtain ⟨n, hn, hsource⟩ := hk
    exact ⟨n, by omega, hsource⟩
  unfold Tracker.openIncident
  split
  · exact ⟨h.order_nodup, h.mem_order, h.pending_key, fun k hk => hlater k (h.pending_drawn k hk),
      fun r i hi => hlater _ (h.active_drawn r i hi), h.active_not_pending, h.active_distinct,
      h.evicted_full⟩
  · rename_i key hkey
    have hfresh : ∀ k, t.Drawn source k → key ≠ k := by
      intro k hk heq
      obtain ⟨n, hn, hsource⟩ := hk
      have := hdistinct t.drawn n key hkey (heq ▸ hsource)
      omega
    have hbefore : ∀ (r : String) (i : Incident), (t.active.insert reason
        (t.newIncident reason affected detail now samples key))[r]? = some i →
        (reason = r ∧ i.incidentKey = key) ∨ t.active[r]? = some i := by
      intro r i hi
      rcases getElem?_insert_some.mp hi with ⟨hr, heq⟩ | ⟨_, hold⟩
      · exact .inl ⟨hr, heq ▸ rfl⟩
      · exact .inr hold
    refine ⟨h.order_nodup, h.mem_order, h.pending_key,
      fun k hk => hlater k (h.pending_drawn k hk), ?_, ?_, ?_, h.evicted_full⟩
    · intro r i hi
      rcases hbefore r i hi with ⟨_, heq⟩ | hold
      · exact ⟨t.drawn, Nat.lt_succ_self _, heq ▸ hkey⟩
      · exact hlater _ (h.active_drawn r i hold)
    · intro r i hi hk
      rcases hbefore r i hi with ⟨_, heq⟩ | hold
      · exact hfresh key (h.pending_drawn key (heq ▸ hk)) rfl
      · exact h.active_not_pending r i hold hk
    · intro r r' i i' hi hi' heq
      rcases hbefore r i hi with ⟨hr, hk⟩ | hold <;>
        rcases hbefore r' i' hi' with ⟨hr', hk'⟩ | hold'
      · exact hr.symm.trans hr'
      · exact absurd (hk.symm.trans heq) (hfresh _ (h.active_drawn r' i' hold'))
      · exact absurd (hk'.symm.trans heq.symm) (hfresh _ (h.active_drawn r i hold))
      · exact h.active_distinct r r' i i' hold hold' heq

theorem Move.consistent (hdistinct : Distinct source) (hmove : Move source now t t')
    (h : Consistent source t) : Consistent source t' := by
  cases hmove with
  | opened reason affected detail samples _ =>
    exact h.openIncident hdistinct reason affected detail now samples
  | drop current hcurrent => exact h.update hcurrent rfl
  | evict hfull => exact h.evictOldest hfull
  | retire reason incident hactive => exact h.retire hactive

/-! ## What is pending -/

/-- A pending incident stays as it is, or it is among the evicted ones. -/
structure PendingKept (t t' : Tracker) : Prop where
  evicted : t.evicted ⊆ t'.evicted
  pending : ∀ (key : String) (i : Incident), t.pending[key]? = some i →
    t'.pending[key]? = some i ∨ ∃ n, (key, n) ∈ t'.evicted

theorem PendingKept.refl (t : Tracker) : PendingKept t t :=
  ⟨List.Subset.refl _, fun _ _ h => .inl h⟩

theorem PendingKept.trans {t'' : Tracker} (h : PendingKept t t') (h' : PendingKept t' t'') :
    PendingKept t t'' := by
  refine ⟨fun _ he => h'.evicted (h.evicted he), ?_⟩
  intro key i hi
  rcases h.pending key i hi with hi' | ⟨n, hn⟩
  · exact h'.pending key i hi'
  · exact .inr ⟨n, h'.evicted hn⟩

/-- A change that leaves the pending incidents alone. -/
theorem PendingKept.of_eq (hpending : t'.pending = t.pending) (hevicted : t'.evicted = t.evicted) :
    PendingKept t t' := by
  refine ⟨hevicted ▸ List.Subset.refl _, ?_⟩
  intro key i hi
  rw [hpending]
  exact .inl hi

theorem evictOldest_pendingKept (t : Tracker) : PendingKept t t.evictOldest.1 := by
  unfold evictOldest
  split
  · exact .refl t
  · rename_i droppedKey rest _
    refine ⟨List.subset_append_left _ _, ?_⟩
    intro key i hi
    rw [getElem?_erase_key]
    by_cases hkey : droppedKey = key
    · exact .inr ⟨t.pending.size, hkey ▸ List.mem_append_right _ List.mem_cons_self⟩
    · rw [if_neg hkey]
      exact .inl hi

theorem Move.pendingKept (hmove : Move source now t t') (h : Consistent source t) :
    PendingKept t t' := by
  cases hmove with
  | opened reason affected detail samples _ =>
    unfold openIncident
    split <;> exact .of_eq rfl rfl
  | drop current _ => exact .of_eq rfl rfl
  | evict _ => exact evictOldest_pendingKept t
  | retire reason incident hactive =>
    refine ⟨List.Subset.refl _, ?_⟩
    intro key i hi
    -- The key of an active incident is not pending, so nothing is overwritten.
    have hne : incident.incidentKey ≠ key := by
      intro heq
      have hnew := h.active_not_pending reason incident hactive
      rw [heq] at hnew
      exact hnew ((mem_iff_getElem? _ _).mpr ⟨i, hi⟩)
    left
    show (t.pending.insert incident.incidentKey incident.close)[key]? = some i
    exact getElem?_insert_some.mpr (.inr ⟨hne, hi⟩)

/-- What holds of a move holds of a chain of moves. -/
theorem Moves.spec (hdistinct : Distinct source) (hmoves : Moves source now t t')
    (h : Consistent source t) : Consistent source t' ∧ PendingKept t t' := by
  induction hmoves with
  | refl => exact ⟨h, .refl t⟩
  | tail _ hmove ih =>
    obtain ⟨hconsistent, hkept⟩ := ih
    exact ⟨hmove.consistent hdistinct hconsistent, hkept.trans (hmove.pendingKept hconsistent)⟩

theorem record_spec (hdistinct : Distinct source) (h : Consistent source t) (reason : String)
    (affected : Int) (sampleEventID detail : String) (now : Time) :
    Consistent source (t.record source reason affected sampleEventID detail now) ∧
      PendingKept t (t.record source reason affected sampleEventID detail now) := by
  rcases t.record_cases source reason affected sampleEventID detail now with
    hmoves | ⟨current, hactive, heq⟩
  · exact Moves.spec hdistinct hmoves h
  · rw [heq]
    exact ⟨h.update hactive rfl, .of_eq rfl rfl⟩

/-- An acknowledged incident leaves if its revision is covered; the others
stay. -/
theorem acknowledge_pending (t : Tracker) (key : String) (revision : Nat) {k : String}
    {i : Incident} (hi : t.pending[k]? = some i) :
    (t.acknowledge key revision).pending[k]? = some i ∨ k = key ∧ i.revision ≤ revision := by
  unfold acknowledge
  cases hkey : t.pending[key]? with
  | none => exact .inl hi
  | some incident =>
    dsimp only
    split
    · exact .inl hi
    · rename_i hcovered
      rw [getElem?_erase_key]
      by_cases heq : key = k
      · rw [heq, hi] at hkey
        cases hkey
        exact .inr ⟨heq.symm, by omega⟩
      · rw [if_neg heq]
        exact .inl hi

end Tracker

end KubeSentry.Observability
