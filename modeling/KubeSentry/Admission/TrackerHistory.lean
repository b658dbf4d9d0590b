import KubeSentry.Admission.Tracker
import KubeSentry.GoLib.Run
import Mathlib.Algebra.Group.Int.Defs
import Mathlib.Data.List.Infix

/-!
# The revisions of an incident

A tracker changes an incident many times, and each change is a revision that may
be reported.  This file follows one incident through a history of calls and
shows that its revisions form a chain: `Older i j` says that `j` is `i` or comes
after it.

The history is taken apart into rounds.  A `Record` is one round, and so is each
pass of the loop in `Snapshot` that closes an incident.  In a round an incident
changes at most once (`round_changed`), so no revision is skipped.

The chain needs two conditions on the history.  The clock has to advance:
`Precedes` asks for later times at every `Record`, and for times that are not
earlier in a `Snapshot`.  And the counters must not wrap around.
-/

namespace KubeSentry.Observability

open GoLib

/-! ## Order of revisions -/

/-- `j` is the revision `i` or a later one. -/
structure Older (i j : Incident) : Prop where
  key : i.incidentKey = j.incidentKey
  revision : i.revision ≤ j.revision
  eq_of_revision : i.revision = j.revision → i = j
  affectedCount : i.affectedCount ≤ j.affectedCount
  lastSeenAt : i.lastSeenAt ≤ j.lastSeenAt
  detail : i.lastSeenAt = j.lastSeenAt → i.detail = j.detail
  sampleEventIDs : i.sampleEventIDs <+: j.sampleEventIDs
  closed : i.closed = true → j.closed = true

theorem Older.refl (i : Incident) : Older i i :=
  ⟨rfl, le_refl _, fun _ => rfl, le_refl _, le_refl _, fun _ => rfl, List.prefix_refl _, id⟩

theorem Older.trans {i j k : Incident} (hij : Older i j) (hjk : Older j k) : Older i k where
  key := hij.key.trans hjk.key
  revision := hij.revision.trans hjk.revision
  eq_of_revision heq := by
    have h1 := hij.revision
    have h2 := hjk.revision
    rw [hij.eq_of_revision (by omega), hjk.eq_of_revision (by omega)]
  affectedCount := hij.affectedCount.trans hjk.affectedCount
  lastSeenAt := hij.lastSeenAt.trans hjk.lastSeenAt
  detail heq := by
    have hmid : i.lastSeenAt = j.lastSeenAt :=
      le_antisymm hij.lastSeenAt (hjk.lastSeenAt.trans_eq heq.symm)
    rw [hij.detail hmid, hjk.detail (hmid.symm.trans heq)]
  sampleEventIDs := hij.sampleEventIDs.trans hjk.sampleEventIDs
  closed h := hjk.closed (hij.closed h)

/-- The counters have not wrapped around. -/
def Incident.Fits (i : Incident) : Prop :=
  i.revision ≠ 0 ∧ 0 < i.affectedCount

/-- The counters are in the range of their types, and the samples are as
`appendSample` builds them. -/
structure Incident.Typed (i : Incident) : Prop where
  revision : i.revision < 2 ^ 64
  affectedCount : i.affectedCount < 2 ^ 63
  samples : Samples i.sampleEventIDs

theorem uint64_succ {n : Nat} (hn : n < 2 ^ 64) (hne : uint64 (n + 1) ≠ 0) :
    uint64 (n + 1) = n + 1 := by
  unfold uint64 at hne ⊢
  omega

theorem int64_add {a b : Int} (ha : 0 < a) (ha' : a < 2 ^ 63) (hb : 0 < b) (hb' : b < 2 ^ 63)
    (hpos : 0 < int64 (a + b)) : int64 (a + b) = a + b := by
  unfold int64 at hpos ⊢
  rw [Int.bmod_def] at hpos ⊢
  split_ifs at hpos ⊢ <;> omega

theorem int64_lt (a : Int) : int64 a < 2 ^ 63 := by
  unfold int64
  rw [Int.bmod_def]
  split_ifs <;> omega

theorem uint64_lt (n : Nat) : uint64 n < 2 ^ 64 := Nat.mod_lt _ (by omega)

namespace Incident

variable {i : Incident}

variable (h : i.Typed)

include h

theorem seen_typed (affected : Int) (sampleEventID detail : String) (now : Time) :
    (i.seen affected sampleEventID detail now).Typed := by
  refine ⟨uint64_lt _, int64_lt (i.affectedCount + affected), ?_⟩
  dsimp only [seen]
  exact Samples.append h.samples sampleEventID

theorem older_close (hfits : i.close.Fits) : Older i i.close := by
  have hrevision : i.close.revision = i.revision + 1 := uint64_succ h.revision hfits.1
  refine ⟨rfl, ?_, ?_, le_refl _, le_refl _, fun _ => rfl, List.prefix_refl _, fun _ => rfl⟩
  · omega
  · intro heq
    omega

variable {now : Time}

theorem older_dropSeen (hi : i.Fits) (hfits : (i.dropSeen now).Fits) (hnow : i.lastSeenAt ≤ now) :
    Older i (i.dropSeen now) := by
  have hrevision : (i.dropSeen now).revision = i.revision + 1 := uint64_succ h.revision hfits.1
  have hpos : 0 < int64 (i.affectedCount + 1) := hfits.2
  have haffected : int64 (i.affectedCount + 1) = i.affectedCount + 1 :=
    int64_add hi.2 h.affectedCount (by omega) (by omega) hpos
  refine ⟨rfl, ?_, ?_, ?_, hnow, fun _ => rfl, List.prefix_refl _, id⟩
  · omega
  · intro heq
    omega
  · show i.affectedCount ≤ int64 (i.affectedCount + 1)
    omega

theorem older_seen {affected : Int} {sampleEventID detail : String} (hi : i.Fits)
    (hfits : (i.seen affected sampleEventID detail now).Fits) (hpos : 0 < affected)
    (hrange : affected < 2 ^ 63) (hnow : i.lastSeenAt < now) :
    Older i (i.seen affected sampleEventID detail now) := by
  have hrevision : (i.seen affected sampleEventID detail now).revision = i.revision + 1 :=
    uint64_succ h.revision hfits.1
  have hpos' : 0 < int64 (i.affectedCount + affected) := hfits.2
  have haffected : int64 (i.affectedCount + affected) = i.affectedCount + affected :=
    int64_add hi.2 h.affectedCount hpos hrange hpos'
  refine ⟨rfl, ?_, ?_, ?_, hnow.le, fun heq => absurd heq hnow.ne, ?_, id⟩
  · omega
  · intro heq
    omega
  · show i.affectedCount ≤ int64 (i.affectedCount + affected)
    omega
  · dsimp only [seen]
    exact prefix_appendSample i.sampleEventIDs sampleEventID

end Incident

/-! ## Rounds -/

/-- One round of a history.  The affected count is an `int64`. -/
inductive TrackerRound where
  | record (reason : String) (affected : Int) (hrange : affected < 2 ^ 63)
      (sampleEventID detail : String) (now : Time)
  | close (reason : String) (now : Time)
  | acknowledge (key : String) (revision : Nat)

namespace TrackerRound

def time : TrackerRound → Option Time
  | .record _ _ _ _ _ now => some now
  | .close _ now => some now
  | .acknowledge _ _ => none

/-- The second round may follow the first: a `Record` needs a later time, a
`Snapshot` one that is not earlier. -/
def Precedes (a b : TrackerRound) : Prop :=
  ∀ s, a.time = some s →
    match b with
    | .record _ _ _ _ _ now => s < now
    | .close _ now => s ≤ now
    | .acknowledge _ _ => True

theorem Precedes.le {a b : TrackerRound} (h : Precedes a b) {s now : Time} (ha : a.time = some s)
    (hb : b.time = some now) : s ≤ now := by
  have hs := h s ha
  cases b with
  | record reason affected hrange sampleEventID detail time =>
    cases hb
    exact le_of_lt hs
  | close reason time =>
    cases hb
    exact hs
  | acknowledge key revision => cases hb

end TrackerRound

namespace Tracker

/-- The tracker has this revision now. -/
def Holds (t : Tracker) (i : Incident) : Prop :=
  (∃ reason : String, t.active[reason]? = some i) ∨ ∃ key : String, t.pending[key]? = some i

/-- The revisions that the tracker has now. -/
def held (t : Tracker) : List Incident :=
  t.active.toList.map Prod.snd ++ t.pending.toList.map Prod.snd

theorem holds_iff_mem_held (t : Tracker) (i : Incident) : t.Holds i ↔ i ∈ t.held := by
  have hmap : ∀ m : GoMap Incident, (∃ k : String, m[k]? = some i) ↔ i ∈ m.toList.map Prod.snd := by
    intro m
    rw [List.mem_map]
    constructor
    · intro ⟨k, hk⟩
      exact ⟨(k, i), (mem_toList_iff m k i).mpr hk, rfl⟩
    · intro ⟨entry, hentry, heq⟩
      refine ⟨entry.1, ?_⟩
      rw [← heq]
      exact (mem_toList_iff m _ _).mp hentry
  unfold Holds held
  rw [List.mem_append, hmap, hmap]

variable {t : Tracker} {i j : Incident} {source : Nat → Option String}

/-- A tracker holds one revision of an incident. -/
theorem Consistent.holds_unique (h : Consistent source t) (hi : t.Holds i) (hj : t.Holds j)
    (hkey : i.incidentKey = j.incidentKey) : i = j := by
  have hmixed : ∀ (reason k : String) (a b : Incident), t.active[reason]? = some a →
      t.pending[k]? = some b → a.incidentKey ≠ b.incidentKey := by
    intro reason k a b ha hb heq
    refine h.active_not_pending reason a ha ?_
    rw [heq, h.pending_key k b hb]
    exact (mem_iff_getElem? _ _).mpr ⟨b, hb⟩
  rcases hi with ⟨reason, hi⟩ | ⟨k, hi⟩ <;> rcases hj with ⟨reason', hj⟩ | ⟨k', hj⟩
  · have heq := h.active_distinct reason reason' i j hi hj hkey
    rw [heq, hj] at hi
    exact (Option.some.inj hi).symm
  · exact absurd hkey (hmixed reason k' i j hi hj)
  · exact absurd hkey.symm (hmixed reason' k j i hj hi)
  · have heq : k = k' := (h.pending_key k i hi).symm.trans (hkey.trans (h.pending_key k' j hj))
    rw [heq, hj] at hi
    exact (Option.some.inj hi).symm

/-- The key of a held incident has been drawn. -/
theorem Consistent.holds_drawn (h : Consistent source t) (hi : t.Holds i) :
    t.Drawn source i.incidentKey := by
  rcases hi with ⟨reason, hi⟩ | ⟨key, hi⟩
  · exact h.active_drawn reason i hi
  · rw [h.pending_key key i hi]
    exact h.pending_drawn key ((mem_iff_getElem? _ _).mpr ⟨i, hi⟩)

variable {reason : String}

theorem setActive_holds (h : (t.setActive reason i).Holds j) : j = i ∨ t.Holds j := by
  rcases h with ⟨r, hr⟩ | hpending
  · rcases getElem?_insert_some.mp hr with ⟨_, heq⟩ | ⟨_, hold⟩
    · exact .inl heq
    · exact .inr (.inl ⟨r, hold⟩)
  · exact .inr (.inr hpending)

variable {t' : Tracker} {key : String}

/-- The tracker held before what it holds after a pending incident left. -/
theorem Holds.of_erase (h : t'.Holds j) (hactive : t'.active = t.active)
    (hpending : t'.pending = t.pending.erase key) : t.Holds j := by
  unfold Holds at h
  rw [hactive, hpending] at h
  refine h.imp_right fun ⟨k, hk⟩ => ⟨k, (getElem?_erase_some.mp hk).2⟩

theorem evictOldest_holds (h : t.evictOldest.1.Holds j) : t.Holds j := by
  unfold evictOldest at h
  split at h
  · exact h
  · exact h.of_erase rfl rfl

theorem acknowledge_holds {revision : Nat} (h : (t.acknowledge key revision).Holds j) :
    t.Holds j := by
  unfold acknowledge at h
  split at h
  · exact h
  · split at h
    · exact h
    · exact h.of_erase rfl rfl

theorem retire_holds (h : (t.retire reason i).Holds j) : j = i.close ∨ t.Holds j := by
  unfold retire at h
  rcases h with ⟨r, hr⟩ | ⟨key, hkey⟩
  · exact .inr (.inl ⟨r, (getElem?_erase_some.mp hr).2⟩)
  · rcases getElem?_insert_some.mp hkey with ⟨_, heq⟩ | ⟨_, hold⟩
    · exact .inl heq
    · exact .inr (.inr ⟨key, hold⟩)

variable {source : Nat → Option String} {t : Tracker} {reason : String} {now : Time} {j : Incident}
  {r : TrackerRound}

theorem openIncident_holds {affected : Int} {detail : String} {samples : List String}
    (hrange : affected < 2 ^ 63) (hsamples : Samples samples)
    (h : (t.openIncident source reason affected detail now samples).Holds j) :
    t.Holds j ∨ source t.drawn = some j.incidentKey ∧ j.lastSeenAt = now ∧ j.Typed := by
  unfold openIncident at h
  split at h
  · exact .inl h
  · rename_i key hkey
    rcases setActive_holds (t := t) h with heq | hold
    · subst heq
      exact .inr ⟨hkey, rfl, by dsimp only [newIncident]; omega, hrange, hsamples⟩
    · exact .inl hold

theorem openIncident_drawn (t : Tracker) (reason : String) (affected : Int) (detail : String)
    (now : Time) (samples : List String) :
    (t.openIncident source reason affected detail now samples).drawn = t.drawn + 1 := by
  unfold openIncident
  split <;> rfl

theorem Moves.drawn_le (h : Moves source now t t') : t.drawn ≤ t'.drawn := by
  induction h with
  | refl => exact le_refl _
  | tail _ hmove ih =>
    refine ih.trans ?_
    cases hmove with
    | opened reason affected detail samples _ =>
      rw [openIncident_drawn]
      omega
    | drop current _ => exact le_refl _
    | evict _ =>
      unfold evictOldest
      split <;> exact le_refl _
    | retire reason incident _ => exact le_refl _

/-- How a round brought about a revision that the tracker holds afterwards. -/
inductive Changed (source : Nat → Option String) (t : Tracker) (r : TrackerRound) (j : Incident) :
    Prop where
  | kept (h : t.Holds j)
  | opened (n : Nat) (hn : t.drawn ≤ n) (hkey : source n = some j.incidentKey)
      (htime : r.time = some j.lastSeenAt) (htyped : j.Typed)
  | closed (i : Incident) (h : t.Holds i) (hj : j = i.close)
  | dropped (i : Incident) (now : Time) (htime : r.time = some now) (h : t.Holds i)
      (hj : j = i.dropSeen now)
  | seen (reason : String) (i : Incident) (affected : Int) (hrange : affected < 2 ^ 63)
      (sampleEventID detail : String) (now : Time)
      (hround : r = .record reason affected hrange sampleEventID detail now) (h : t.Holds i)
      (hj : j = i.seen (if affected ≤ 0 then 1 else affected) sampleEventID detail now)

/-- From a tracker that holds nothing else and has drawn no less. -/
theorem Changed.mono (hholds : ∀ i, t'.Holds i → t.Holds i) (hdrawn : t.drawn ≤ t'.drawn)
    (h : Changed source t' r j) : Changed source t r j := by
  cases h with
  | kept h => exact .kept (hholds j h)
  | opened n hn hkey htime htyped => exact .opened n (hdrawn.trans hn) hkey htime htyped
  | closed i h hj => exact .closed i (hholds i h) hj
  | dropped i now htime h hj => exact .dropped i now htime (hholds i h) hj
  | seen reason i affected hrange sampleEventID detail now hround h hj =>
    exact .seen reason i affected hrange sampleEventID detail now hround (hholds i h) hj

theorem recordDropLocked_changed (htime : r.time = some now)
    (h : (t.recordDropLocked source now).Holds j) : Changed source t r j := by
  unfold recordDropLocked at h
  split at h
  · rcases openIncident_holds (by decide) Samples.nil h with hold | ⟨hkey, hnow, htyped⟩
    · exact .kept hold
    · exact .opened t.drawn (le_refl _) hkey (hnow ▸ htime) htyped
  · rename_i current hcurrent
    rcases setActive_holds h with heq | hold
    · exact .dropped current now htime (.inl ⟨_, hcurrent⟩) heq
    · exact .kept hold

theorem makeRoom_changed (htime : r.time = some now) (h : (t.makeRoom source reason now).Holds j) :
    Changed source t r j := by
  unfold makeRoom at h
  split at h
  · have hevict : ∀ i, t.evictOldest.1.Holds i → t.Holds i := fun _ => evictOldest_holds
    have hdrawn : t.evictOldest.1.drawn = t.drawn := by
      unfold evictOldest
      split <;> rfl
    generalize t.evictOldest = out at h hevict hdrawn
    rcases out with ⟨t', _ | dropped⟩
    · exact .kept (hevict j h)
    · dsimp only at h hevict hdrawn
      split at h
      · exact (recordDropLocked_changed htime h).mono hevict hdrawn.ge
      · exact .kept (hevict j h)
  · exact .kept h

theorem closeLocked_changed {i : Incident} (hactive : t.active[reason]? = some i)
    (htime : r.time = some now) (h : (t.closeLocked source reason i now).Holds j) :
    Changed source t r j := by
  rw [closeLocked_eq] at h
  rcases retire_holds h with heq | hold
  · exact .closed i (.inl ⟨reason, hactive⟩) heq
  · exact makeRoom_changed htime hold

/-- One round. -/
def round (source : Nat → Option String) (t : Tracker) : TrackerRound → Tracker
  | .record reason affected _ sampleEventID detail now =>
    t.record source reason affected sampleEventID detail now
  | .close reason now => t.closeExpired source now reason
  | .acknowledge key revision => t.acknowledge key revision

theorem round_changed (h : (t.round source r).Holds j) : Changed source t r j := by
  cases r with
  | record reason affected hrange sampleEventID detail now =>
    have hrange' : (if affected ≤ 0 then 1 else affected) < 2 ^ 63 := by
      split
      · omega
      · exact hrange
    have hsamples : Samples (appendSample [] sampleEventID) := Samples.nil.append sampleEventID
    unfold round record at h
    dsimp only at h
    split at h
    · exact .kept h
    · split at h
      · rcases openIncident_holds hrange' hsamples h with hold | ⟨hkey, hnow, htyped⟩
        · exact .kept hold
        · exact .opened t.drawn (le_refl _) hkey (hnow ▸ rfl) htyped
      · rename_i current hcurrent
        split at h
        · have hdrawn := (closeLocked_moves source hcurrent now).drawn_le
          rcases openIncident_holds hrange' hsamples h with hold | ⟨hkey, hnow, htyped⟩
          · exact closeLocked_changed hcurrent rfl hold
          · exact .opened _ hdrawn hkey (hnow ▸ rfl) htyped
        · rcases setActive_holds h with heq | hold
          · exact .seen reason current affected hrange sampleEventID detail now rfl
              (.inl ⟨reason, hcurrent⟩) heq
          · exact .kept hold
  | close reason now =>
    unfold round closeExpired at h
    dsimp only at h
    split at h
    · exact .kept h
    · rename_i i hactive
      exact closeLocked_changed hactive rfl h
  | acknowledge key revision => exact .kept (acknowledge_holds h)

theorem round_consistent (hdistinct : Distinct source) {t : Tracker} (h : Consistent source t)
    (r : TrackerRound) : Consistent source (t.round source r) := by
  cases r with
  | record reason affected hrange sampleEventID detail now =>
    exact (record_spec hdistinct h reason affected sampleEventID detail now).1
  | close reason now =>
    unfold round closeExpired
    dsimp only
    split
    · exact h
    · rename_i i hactive
      exact (Moves.spec hdistinct (closeLocked_moves source hactive now) h).1
  | acknowledge key revision => exact h.acknowledge key revision

theorem round_drawn_le (t : Tracker) (r : TrackerRound) : t.drawn ≤ (t.round source r).drawn := by
  cases r with
  | record reason affected hrange sampleEventID detail now =>
    rcases t.record_cases source reason affected sampleEventID detail now with
      hmoves | ⟨current, _, heq⟩
    · exact hmoves.drawn_le
    · show t.drawn ≤ (t.record source reason affected sampleEventID detail now).drawn
      rw [heq]
      exact le_refl _
  | close reason now =>
    unfold round closeExpired
    dsimp only
    split
    · exact le_refl _
    · rename_i i hactive
      exact (closeLocked_moves source hactive now).drawn_le
  | acknowledge key revision =>
    unfold round acknowledge
    dsimp only
    split
    · exact le_refl _
    · split <;> exact le_refl _

end Tracker

/-! ## Histories -/

section

variable (source : Nat → Option String)

/-- A revision that an incident goes through in the history. -/
def Produced (start : Tracker) (rounds : List TrackerRound) (i : Incident) : Prop :=
  ∃ before, before <+: rounds ∧ (run (Tracker.round source) start before).Holds i

/-- The revisions of a history can be listed. -/
theorem produced_iff_mem (start : Tracker) (rounds : List TrackerRound) (i : Incident) :
    Produced source start rounds i ↔
      i ∈ rounds.inits.flatMap fun before => (run (Tracker.round source) start before).held := by
  rw [List.mem_flatMap]
  exact exists_congr fun before =>
    and_congr (List.mem_inits before rounds).symm (Tracker.holds_iff_mem_held _ i)

variable {start t : Tracker} {rounds : List TrackerRound} {r : TrackerRound} {i j : Incident}
  {key : String}

theorem Produced.snoc (h : Produced source start (rounds ++ [r]) i) :
    Produced source start rounds i ∨
      ((run (Tracker.round source) start rounds).round source r).Holds i := by
  obtain ⟨before, hpre, hholds⟩ := h
  rcases List.prefix_concat_iff.mp hpre with heq | hshort
  · rw [heq, run_append, run_cons, run_nil] at hholds
    exact .inr hholds
  · exact .inl ⟨before, hshort, hholds⟩

theorem Produced.mono {rounds' : List TrackerRound} (h : Produced source start rounds i)
    (hpre : rounds <+: rounds') : Produced source start rounds' i := by
  obtain ⟨before, hbefore, hholds⟩ := h
  exact ⟨before, hbefore.trans hpre, hholds⟩

/-- What holds after a history, with the revisions of one incident. -/
structure History (key : String) (start : Tracker) (rounds : List TrackerRound) (t : Tracker) :
    Prop where
  consistent : t.Consistent source
  typed : ∀ i, t.Holds i → i.Typed
  times : ∀ i, t.Holds i → ∃ a ∈ rounds, TrackerRound.time a = some i.lastSeenAt
  drawn : ∀ i, Produced source start rounds i → t.Drawn source i.incidentKey
  current : ∀ i j, Produced source start rounds i → t.Holds j → i.incidentKey = key →
    j.incidentKey = key → Older i j
  chain : ∀ i j, Produced source start rounds i → Produced source start rounds j →
    i.incidentKey = key → j.incidentKey = key → Older i j ∨ Older j i

variable {source}

/-- A new revision comes after the revision that the tracker held. -/
theorem History.changed_older (h : History source key start rounds t)
    (htimes : ∀ a ∈ rounds, TrackerRound.Precedes a r)
    (hfits : ∀ i, t.Holds i → i.incidentKey = key → i.Fits) (hkey : j.incidentKey = key)
    (hj : j.Fits) (hchanged : t.Changed source r j) :
    (∃ i, t.Holds i ∧ i.incidentKey = key ∧ Older i j) ∨
      ∃ n, t.drawn ≤ n ∧ source n = some j.incidentKey := by
  cases hchanged with
  | kept hholds => exact .inl ⟨j, hholds, hkey, .refl j⟩
  | opened n hn hsource _ _ => exact .inr ⟨n, hn, hsource⟩
  | closed i hholds heq =>
    subst heq
    exact .inl ⟨i, hholds, hkey, Incident.older_close (h.typed i hholds) hj⟩
  | dropped i now htime hholds heq =>
    subst heq
    obtain ⟨a, ha, hseen⟩ := h.times i hholds
    have hnow : i.lastSeenAt ≤ now := (htimes a ha).le hseen htime
    exact .inl ⟨i, hholds, hkey,
      Incident.older_dropSeen (h.typed i hholds) (hfits i hholds hkey) hj hnow⟩
  | seen reason i affected hrange sampleEventID detail now hround hholds heq =>
    subst heq
    subst hround
    obtain ⟨a, ha, hseen⟩ := h.times i hholds
    have hnow : i.lastSeenAt < now := htimes a ha i.lastSeenAt hseen
    have hpos : 0 < (if affected ≤ 0 then 1 else affected) := by split <;> omega
    have hrange' : (if affected ≤ 0 then 1 else affected) < 2 ^ 63 := by split <;> omega
    exact .inl ⟨i, hholds, hkey,
      Incident.older_seen (h.typed i hholds) (hfits i hholds hkey) hj hpos hrange' hnow⟩

theorem Tracker.Changed.typed (htyped : ∀ i, t.Holds i → i.Typed) (h : t.Changed source r j) :
    j.Typed := by
  cases h with
  | kept hholds => exact htyped j hholds
  | opened n _ _ _ hj => exact hj
  | closed i hholds heq =>
    have hi := htyped i hholds
    exact heq ▸ ⟨uint64_lt _, hi.affectedCount, hi.samples⟩
  | dropped i now _ hholds heq => exact heq ▸ ⟨uint64_lt _, int64_lt _, (htyped i hholds).samples⟩
  | seen reason i affected hrange sampleEventID detail now _ hholds heq =>
    exact heq ▸ Incident.seen_typed (htyped i hholds) _ sampleEventID detail now

/-- The last-seen time of a revision is the time of a round. -/
theorem Tracker.Changed.times
    (htimes : ∀ i, t.Holds i → ∃ a ∈ rounds, TrackerRound.time a = some i.lastSeenAt)
    (h : t.Changed source r j) : ∃ a ∈ rounds ++ [r], TrackerRound.time a = some j.lastSeenAt := by
  have hnew : r ∈ rounds ++ [r] := List.mem_append_right _ List.mem_cons_self
  have hold : ∀ i, t.Holds i → ∃ a ∈ rounds ++ [r], TrackerRound.time a = some i.lastSeenAt := by
    intro i hi
    obtain ⟨a, ha, htime⟩ := htimes i hi
    exact ⟨a, List.mem_append_left _ ha, htime⟩
  cases h with
  | kept hholds => exact hold j hholds
  | opened n _ _ htime _ => exact ⟨r, hnew, htime⟩
  | closed i hholds heq => exact heq ▸ hold i hholds
  | dropped i now htime _ heq => exact ⟨r, hnew, heq ▸ htime⟩
  | seen reason i affected hrange sampleEventID detail now hround _ heq =>
    exact ⟨r, hnew, heq ▸ hround ▸ rfl⟩

variable (hdistinct : Tracker.Distinct source)

include hdistinct

theorem History.step (ht : run (Tracker.round source) start rounds = t)
    (h : History source key start rounds t) (htimes : ∀ a ∈ rounds, TrackerRound.Precedes a r)
    (hfits : ∀ i, Produced source start (rounds ++ [r]) i → i.incidentKey = key → i.Fits) :
    History source key start (rounds ++ [r]) (t.round source r) := by
  have hheld : ∀ i, t.Holds i → i.incidentKey = key → i.Fits :=
    fun i hi => hfits i ⟨rounds, List.prefix_append _ _, ht ▸ hi⟩
  have hnew : ∀ i, (t.round source r).Holds i → Produced source start (rounds ++ [r]) i := by
    intro i hi
    refine ⟨rounds ++ [r], List.prefix_refl _, ?_⟩
    rw [run_append, run_cons, run_nil, ht]
    exact hi
  have hsnoc : ∀ i, Produced source start (rounds ++ [r]) i →
      Produced source start rounds i ∨ (t.round source r).Holds i :=
    fun i hi => ht ▸ hi.snoc
  have hconsistent := Tracker.round_consistent hdistinct h.consistent r
  have hcurrent : ∀ i j, Produced source start (rounds ++ [r]) i → (t.round source r).Holds j →
      i.incidentKey = key → j.incidentKey = key → Older i j := by
    intro i j hi hj hikey hjkey
    rcases hsnoc i hi with hold | hholds
    · rcases h.changed_older htimes hheld hjkey (hfits j (hnew j hj) hjkey)
        (Tracker.round_changed hj) with ⟨i0, hi0, hkey0, holder⟩ | ⟨n, hn, hsource⟩
      · exact (h.current i i0 hold hi0 hikey hkey0).trans holder
      · -- A fresh key was not produced before.
        obtain ⟨m, hm, hsource'⟩ := h.drawn i hold
        rw [hikey] at hsource'
        rw [hjkey] at hsource
        have heq := hdistinct m n key hsource' hsource
        omega
    · rw [hconsistent.holds_unique hholds hj (hikey.trans hjkey.symm)]
      exact .refl j
  refine ⟨hconsistent, ?_, ?_, ?_, hcurrent, ?_⟩
  · intro i hi
    exact (Tracker.round_changed hi).typed h.typed
  · intro i hi
    exact (Tracker.round_changed hi).times h.times
  · intro i hi
    rcases hsnoc i hi with hold | hholds
    · obtain ⟨n, hn, hsource⟩ := h.drawn i hold
      exact ⟨n, hn.trans_le (Tracker.round_drawn_le _ r), hsource⟩
    · exact hconsistent.holds_drawn hholds
  · intro i j hi hj hikey hjkey
    rcases hsnoc j hj with hold | hholds
    · rcases hsnoc i hi with hold' | hholds'
      · exact h.chain i j hold' hold hikey hjkey
      · exact .inr (hcurrent j i hj hholds' hjkey hikey)
    · exact .inl (hcurrent i j hi hholds hikey hjkey)

theorem history_run (component : Component) (instanceID : String)
    (htimes : rounds.Pairwise TrackerRound.Precedes)
    (hfits : ∀ i, Produced source (newTracker component instanceID) rounds i →
      i.incidentKey = key → i.Fits) :
    History source key (newTracker component instanceID) rounds
      (run (Tracker.round source) (newTracker component instanceID) rounds) := by
  have hempty : ∀ i, ¬ (newTracker component instanceID).Holds i := by
    intro i hi
    rcases hi with ⟨r, hr⟩ | ⟨key, hkey⟩
    · simp [newTracker] at hr
    · simp [newTracker] at hkey
  have hnone : ∀ i, ¬ Produced source (newTracker component instanceID) [] i := by
    intro i hi
    obtain ⟨before, hpre, hholds⟩ := hi
    rw [List.prefix_nil.mp hpre] at hholds
    exact hempty i hholds
  refine run_history (I := fun rounds t => rounds.Pairwise TrackerRound.Precedes →
    (∀ i, Produced source (newTracker component instanceID) rounds i → i.incidentKey = key →
      i.Fits) →
    History source key (newTracker component instanceID) rounds t) ?_ ?_ rounds htimes hfits
  · intro _ _
    exact ⟨Tracker.newTracker_consistent source component instanceID,
      fun i hi => absurd hi (hempty i), fun i hi => absurd hi (hempty i),
      fun i hi => absurd hi (hnone i), fun i j hi => absurd hi (hnone i),
      fun i j hi => absurd hi (hnone i)⟩
  · intro before r ih htimes hfits
    obtain ⟨hbefore, _, hlast⟩ := List.pairwise_append.mp htimes
    refine (ih hbefore fun i hi => hfits i (hi.mono source (List.prefix_append _ _))).step hdistinct
      rfl ?_ hfits
    intro a ha
    exact hlast a ha r List.mem_cons_self

variable {component : Component} {instanceID : String}

/-- A revision is in the range of its types. -/
theorem produced_typed (htimes : rounds.Pairwise TrackerRound.Precedes)
    (hfits : ∀ i, Produced source (newTracker component instanceID) rounds i →
      i.incidentKey = key → i.Fits)
    (hi : Produced source (newTracker component instanceID) rounds i) : i.Typed := by
  obtain ⟨before, hpre, hholds⟩ := hi
  have h := history_run hdistinct component instanceID (htimes.sublist hpre.sublist)
    fun j hj => hfits j (hj.mono source hpre)
  exact h.typed i hholds

/-- The highest revision of an incident comes after all its other revisions. -/
theorem older_of_highest (htimes : rounds.Pairwise TrackerRound.Precedes) {top : Incident}
    (hfits : ∀ i, Produced source (newTracker component instanceID) rounds i →
      i.incidentKey = top.incidentKey → i.Fits)
    (htop : Produced source (newTracker component instanceID) rounds top)
    (hhighest : ∀ i, Produced source (newTracker component instanceID) rounds i →
      i.incidentKey = top.incidentKey → i.revision ≤ top.revision) :
    ∀ i, Produced source (newTracker component instanceID) rounds i →
      i.incidentKey = top.incidentKey → Older i top := by
  intro i hi hkey
  have h := history_run hdistinct component instanceID htimes hfits
  rcases h.chain i top hi htop hkey rfl with holder | holder
  · exact holder
  · rw [holder.eq_of_revision (le_antisymm holder.revision (hhighest i hi hkey))]
    exact .refl i

end

/-! ## Calls -/

/-- A call of the tracker. -/
inductive TrackerInput where
  | record (reason : String) (affected : Int) (hrange : affected < 2 ^ 63)
      (sampleEventID detail : String) (now : Time)
  | snapshot (order : Shuffle) (now : Time)
  | acknowledge (key : String) (revision : Nat)

namespace TrackerInput

def time : TrackerInput → Option Time
  | .record _ _ _ _ _ now => some now
  | .snapshot _ now => some now
  | .acknowledge _ _ => none

/-- The second call may follow the first: a `Record` needs a later time, a
`Snapshot` one that is not earlier. -/
def Precedes (a b : TrackerInput) : Prop :=
  ∀ s, a.time = some s →
    match b with
    | .record _ _ _ _ _ now => s < now
    | .snapshot _ now => s ≤ now
    | .acknowledge _ _ => True

/-- The rounds of a call. -/
def rounds (t : Tracker) : TrackerInput → List TrackerRound
  | .record reason affected hrange sampleEventID detail now =>
    [.record reason affected hrange sampleEventID detail now]
  | .snapshot order now => (t.expired order now).map fun reason => .close reason now
  | .acknowledge key revision => [.acknowledge key revision]

theorem rounds_pairwise (t : Tracker) (a : TrackerInput) :
    (a.rounds t).Pairwise TrackerRound.Precedes := by
  cases a with
  | record reason affected hrange sampleEventID detail now => exact List.pairwise_singleton _ _
  | snapshot order now =>
    unfold rounds
    rw [List.pairwise_map]
    refine List.pairwise_of_forall ?_
    intro reason reason' s hs
    exact (Option.some.inj hs).ge
  | acknowledge key revision => exact List.pairwise_singleton _ _

theorem Precedes.rounds {a b : TrackerInput} (h : Precedes a b) {t t' : Tracker}
    {x y : TrackerRound} (hx : x ∈ a.rounds t) (hy : y ∈ b.rounds t') :
    TrackerRound.Precedes x y := by
  intro s hs
  have ha : a.time = some s := by
    cases a with
    | record reason affected hrange sampleEventID detail now =>
      rw [List.mem_singleton.mp hx] at hs
      exact hs
    | snapshot order now =>
      obtain ⟨reason, _, heq⟩ := List.mem_map.mp hx
      rw [← heq] at hs
      exact hs
    | acknowledge key revision =>
      rw [List.mem_singleton.mp hx] at hs
      exact hs
  have hb := h s ha
  cases b with
  | record reason affected hrange sampleEventID detail now =>
    rw [List.mem_singleton.mp hy]
    exact hb
  | snapshot order now =>
    obtain ⟨reason, _, heq⟩ := List.mem_map.mp hy
    rw [← heq]
    exact hb
  | acknowledge key revision =>
    rw [List.mem_singleton.mp hy]
    trivial

end TrackerInput

variable (source : Nat → Option String)

/-- One call. -/
def Tracker.call (t : Tracker) : TrackerInput → Tracker
  | .record reason affected _ sampleEventID detail now =>
    t.record source reason affected sampleEventID detail now
  | .snapshot order now => t.afterSnapshot source order now
  | .acknowledge key revision => t.acknowledge key revision

/-- A call is the run of its rounds. -/
theorem Tracker.call_eq_run (t : Tracker) (a : TrackerInput) :
    t.call source a = run (Tracker.round source) t (a.rounds t) := by
  cases a with
  | record reason affected hrange sampleEventID detail now => rfl
  | snapshot order now =>
    unfold Tracker.call Tracker.afterSnapshot TrackerInput.rounds run
    rw [List.foldl_map]
    rfl
  | acknowledge key revision => rfl

/-- The rounds of a list of calls. -/
def callRounds (t : Tracker) : List TrackerInput → List TrackerRound
  | [] => []
  | a :: rest => a.rounds t ++ callRounds (t.call source a) rest

/-- A revision that an incident goes through in the calls. -/
def RevisionOf (start : Tracker) (calls : List TrackerInput) (i : Incident) : Prop :=
  Produced source start (callRounds source start calls) i

theorem run_callRounds (t : Tracker) (calls : List TrackerInput) :
    run (Tracker.call source) t calls =
      run (Tracker.round source) t (callRounds source t calls) := by
  induction calls generalizing t with
  | nil => rfl
  | cons a rest ih => rw [callRounds, run_append, ← Tracker.call_eq_run, run_cons, ih]

theorem callRounds_pairwise {calls : List TrackerInput} (h : calls.Pairwise TrackerInput.Precedes) :
    ∀ t, (callRounds source t calls).Pairwise TrackerRound.Precedes := by
  have hmem : ∀ (calls : List TrackerInput) (t : Tracker), ∀ y ∈ callRounds source t calls,
      ∃ b ∈ calls, ∃ t', y ∈ b.rounds t' := by
    intro calls
    induction calls with
    | nil =>
      intro t y hy
      cases hy
    | cons a rest ih =>
      intro t y hy
      rcases List.mem_append.mp hy with hfirst | hrest
      · exact ⟨a, List.mem_cons_self, t, hfirst⟩
      · obtain ⟨b, hb, t', hy'⟩ := ih _ y hrest
        exact ⟨b, List.mem_cons_of_mem _ hb, t', hy'⟩
  induction calls with
  | nil =>
    intro t
    exact List.Pairwise.nil
  | cons a rest ih =>
    intro t
    obtain ⟨hfirst, hrest⟩ := List.pairwise_cons.mp h
    refine List.pairwise_append.mpr ⟨a.rounds_pairwise t, ih hrest _, ?_⟩
    intro x hx y hy
    obtain ⟨b, hb, t', hy'⟩ := hmem rest _ y hy
    exact (hfirst b hb).rounds hx hy'

end KubeSentry.Observability
