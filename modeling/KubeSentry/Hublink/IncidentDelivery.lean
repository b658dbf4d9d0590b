import KubeSentry.Hublink.IncidentQueue

/-!
# No link incident is lost on the member

An incident exists in up to three places: in the tracker, in the map of queued
incidents, and on its way to the gateway.  The revisions in the three places
differ.  What has to be shown is that an answer to an old revision never removes
a newer one.

* `Grown` says what the sections under the lock do to the map, except the one
  for acks: every queued incident stays, at the same or a higher revision, and
  the map does not outgrow its capacity.
* `ackIncidents_kept` is the section for acks: what it removes is covered by a
  terminal result.
* The tracker's own lemmas say what leaves the pending list.  `Answered` ties
  the calls that a section still owes to the results that have arrived.
-/

namespace KubeSentry.Hublink

open GoLib Observability

/-! ## The map -/

/-- Every queued incident is still there, at its revision or a later one, and
the map is within its capacity if it was. -/
structure Grown (queue queue' : GoMap QueuedLinkIncident) : Prop where
  floor : ∀ (key : String) (q : QueuedLinkIncident), queue[key]? = some q →
    ∃ q', queue'[key]? = some q' ∧ q.incident.revision ≤ q'.incident.revision
  size : queue.size ≤ operatorIncidentCapacity → queue'.size ≤ operatorIncidentCapacity

theorem Grown.refl (queue : GoMap QueuedLinkIncident) : Grown queue queue :=
  ⟨fun _ q hq => ⟨q, hq, le_refl _⟩, id⟩

theorem Grown.trans {a b c : GoMap QueuedLinkIncident} (hab : Grown a b) (hbc : Grown b c) :
    Grown a c := by
  refine ⟨?_, fun h => hbc.size (hab.size h)⟩
  intro key q hq
  obtain ⟨q', hq', hle⟩ := hab.floor key q hq
  obtain ⟨q'', hq'', hle'⟩ := hbc.floor key q' hq'
  exact ⟨q'', hq'', hle.trans hle'⟩

variable {queue : GoMap QueuedLinkIncident} {key : String} {revision : Nat} {q : QueuedLinkIncident}
  {acc : GoMap QueuedLinkIncident × List TrackerCall} {now : Time}

/-- A queued incident is replaced by one that is not older. -/
theorem Grown.replace {q' : QueuedLinkIncident} (hq : queue[key]? = some q)
    (hle : q.incident.revision ≤ q'.incident.revision) : Grown queue (queue.insert key q') := by
  refine ⟨?_, ?_⟩
  · intro k found hfound
    rw [getElem?_insert_key]
    by_cases hk : key = k
    · rw [← hk, hq] at hfound
      cases hfound
      exact ⟨q', if_pos hk, hle⟩
    · exact ⟨found, (if_neg hk).trans hfound, le_refl _⟩
  · intro h
    have hmem : queue.contains key := (mem_iff_getElem? queue key).mpr ⟨q, hq⟩
    rw [Std.ExtTreeMap.size_insert]
    exact (if_pos hmem).trans_le h

/-- A new incident is added where there is room. -/
theorem Grown.add (hq : queue[key]? = none) (hroom : ¬ operatorIncidentCapacity ≤ queue.size)
    (q : QueuedLinkIncident) : Grown queue (queue.insert key q) := by
  refine ⟨?_, ?_⟩
  · intro k found hfound
    have hne : key ≠ k := by
      intro heq
      rw [← heq, hq] at hfound
      cases hfound
    exact ⟨found, by rw [getElem?_insert_key, if_neg hne, hfound], le_refl _⟩
  · intro _
    have hle := Std.ExtTreeMap.size_insert_le (t := queue) (k := key) (v := q)
    omega

/-- A loop grows the map if each round does. -/
theorem grown_foldl {A : Type} {round : GoMap QueuedLinkIncident → A → GoMap QueuedLinkIncident}
    (hround : ∀ queue a, Grown queue (round queue a)) (l : List A)
    (queue : GoMap QueuedLinkIncident) : Grown queue (l.foldl round queue) :=
  List.foldlRecOn l round (motive := Grown queue) (.refl queue)
    fun queue' h a _ => h.trans (hround queue' a)

theorem clearInFlight_grown (queue : GoMap QueuedLinkIncident) (key : String) :
    Grown queue (clearInFlight queue key) := by
  unfold clearInFlight
  split
  · exact .refl queue
  · rename_i q hq
    exact .replace hq (le_refl q.incident.revision)

theorem failIncident_grown (queue : GoMap QueuedLinkIncident) (key : String) :
    Grown queue (failIncident queue key) := by
  unfold failIncident
  split
  · exact .refl queue
  · rename_i q hq
    exact .replace hq (le_refl q.incident.revision)

theorem enqueueIncidents_grown (now : Time) (items : List Observability.Incident) :
    ∀ queue, Grown queue (enqueueIncidents now queue items).1 := by
  induction items with
  | nil => exact .refl
  | cons item rest ih =>
    intro queue
    unfold enqueueIncidents
    split
    · rename_i q hq
      split
      · rename_i hnewer
        refine .trans (.replace hq ?_) (ih _)
        exact hnewer.le
      · exact ih queue
    · rename_i hq
      split
      · exact .refl queue
      · rename_i hroom
        exact .trans (.add hq hroom _) (ih _)

theorem SendLoop.round_grown (now : Time) (acc : SendLoop) (key : String) :
    Grown acc.queue (acc.round now key).queue := by
  unfold SendLoop.round
  split
  · exact .refl acc.queue
  · rename_i q hq
    -- No branch touches the incident itself.
    have hreplace : ∀ q' : QueuedLinkIncident, q'.incident = q.incident →
        Grown acc.queue (acc.queue.insert key q') := by
      intro q' hsame
      exact .replace hq (le_of_eq (by rw [hsame]))
    dsimp only
    by_cases hlate : q.timedOut now
    · rw [if_pos hlate, if_pos hlate]
      split <;> exact hreplace _ rfl
    · rw [if_neg hlate, if_neg hlate]
      split <;> exact hreplace _ rfl

theorem sendIncidents_grown (order : Shuffle) (now : Time) (queue : GoMap QueuedLinkIncident) :
    Grown queue (sendIncidents order now queue).queue := by
  refine List.foldlRecOn _ _ (motive := fun acc : SendLoop => Grown queue acc.queue)
    (.refl queue) ?_
  intro acc h key _
  exact h.trans (acc.round_grown now key)

/-! ## Submitted incidents -/

section

variable [GoUnicode]

theorem submitIncident_grown (queue : GoMap QueuedLinkIncident)
    (incoming : Option LinkIncident) : Grown queue (submitIncident queue incoming).1 := by
  unfold submitIncident
  split
  · exact .refl queue
  · split
    · rename_i q hq
      split
      · rename_i hnewer
        exact .replace hq hnewer.le
      · exact .refl queue
    · rename_i hq
      split
      · exact .refl queue
      · rename_i hroom
        exact .add hq hroom _

/-- An accepted incident is in the map, at its revision or a later one. -/
theorem submitIncident_accepted {queue : GoMap QueuedLinkIncident} {incoming : Option LinkIncident}
    (haccepted : (submitIncident queue incoming).2.status = .accepted) :
    ∃ q, (submitIncident queue incoming).1[(submitIncident queue incoming).2.incidentKey]? =
      some q ∧
      (submitIncident queue incoming).2.revision ≤ q.incident.revision := by
  unfold submitIncident at haccepted ⊢
  cases hnormal : normalizeWebhookIncident incoming with
  | error err =>
    rw [hnormal] at haccepted
    cases haccepted
  | ok incident =>
    rw [hnormal] at haccepted
    dsimp only at haccepted ⊢
    cases hq : queue[incident.incidentKey]? with
    | some q =>
      by_cases hnewer : q.incident.revision < incident.revision
      · refine ⟨{ q with incident := incident }, ?_, le_refl incident.revision⟩
        dsimp only
        rw [if_pos hnewer]
        show (queue.insert incident.incidentKey _)[incident.incidentKey]? = _
        rw [getElem?_insert_key, if_pos rfl]
      · refine ⟨q, ?_, not_lt.mp hnewer⟩
        dsimp only
        rw [if_neg hnewer]
        exact hq
    | none =>
      rw [hq] at haccepted
      dsimp only at haccepted ⊢
      split at haccepted
      · cases haccepted
      · rename_i hroom
        refine ⟨{ incident := incident }, ?_, ?_⟩
        · rw [if_neg hroom]
          show (queue.insert incident.incidentKey _)[incident.incidentKey]? = _
          rw [getElem?_insert_key, if_pos rfl]
        · rw [if_neg hroom]
          exact le_refl incident.revision

theorem submitIncidents_spec (batch : List (Option LinkIncident)) :
    ∀ queue, Grown queue (submitIncidents queue batch).1 ∧
      ∀ result ∈ (submitIncidents queue batch).2, result.status = .accepted →
        ∃ q, (submitIncidents queue batch).1[result.incidentKey]? = some q ∧
          result.revision ≤ q.incident.revision := by
  induction batch with
  | nil =>
    intro queue
    refine ⟨.refl queue, ?_⟩
    intro result hresult
    cases hresult
  | cons incoming rest ih =>
    intro queue
    obtain ⟨hgrown, haccepted⟩ := ih (submitIncident queue incoming).1
    refine ⟨(submitIncident_grown queue incoming).trans hgrown, ?_⟩
    intro result hresult hstatus
    rcases List.mem_cons.mp hresult with heq | hrest
    · subst heq
      obtain ⟨q, hq, hle⟩ := submitIncident_accepted hstatus
      obtain ⟨q', hq', hle'⟩ := hgrown.floor _ q hq
      exact ⟨q', hq', hle.trans hle'⟩
    · exact haccepted result hrest hstatus

end

/-! ## Answered incidents -/

/-- A terminal result for the incident, at this revision or a later one. -/
def Covers (key : String) (revision : Nat) (result : LinkIncidentResult) : Prop :=
  terminal result = true ∧ result.incidentKey = key ∧ revision ≤ result.revision

/-- A round for an ack result leaves a queued incident as it is, or removes it
because the result covers it. -/
theorem ackIncident_kept (result : Option LinkIncidentResult) (hq : acc.1[key]? = some q) :
    (∃ q', (ackIncident acc result).1[key]? = some q' ∧ q'.incident = q.incident) ∨
      ∃ r, result = some r ∧ Covers key q.incident.revision r := by
  have hinsert : ∀ (key' : String) (found q' : QueuedLinkIncident), acc.1[key']? = some found →
      q'.incident = found.incident →
      ∃ q'', (acc.1.insert key' q')[key]? = some q'' ∧ q''.incident = q.incident := by
    intro key' found q' hfound hsame
    rw [getElem?_insert_key]
    by_cases hkey : key' = key
    · rw [hkey, hq] at hfound
      cases hfound
      exact ⟨q', if_pos hkey, hsame⟩
    · exact ⟨q, (if_neg hkey).trans hq, rfl⟩
  unfold ackIncident
  split
  · exact .inl ⟨q, hq, rfl⟩
  · rename_i r
    split
    · exact .inl ⟨q, hq, rfl⟩
    · rename_i found hfound
      split_ifs with hstale hterminal hcovered
      · exact .inl ⟨q, hq, rfl⟩
      · by_cases hkey : r.incidentKey = key
        · rw [hkey, hq] at hfound
          cases hfound
          exact .inr ⟨r, rfl, hterminal, hkey, hcovered⟩
        · left
          exact ⟨q, by rw [getElem?_erase_key, if_neg hkey, hq], rfl⟩
      · exact .inl (hinsert r.incidentKey found _ hfound rfl)
      · exact .inl (hinsert r.incidentKey found _ hfound rfl)

theorem ackIncident_size (acc : GoMap QueuedLinkIncident × List TrackerCall)
    (result : Option LinkIncidentResult) : (ackIncident acc result).1.size ≤ acc.1.size := by
  have hinsert : ∀ (key : String) (found q : QueuedLinkIncident), acc.1[key]? = some found →
      (acc.1.insert key q).size ≤ acc.1.size := by
    intro key found q hfound
    have hmem : acc.1.contains key := (mem_iff_getElem? acc.1 key).mpr ⟨found, hfound⟩
    rw [Std.ExtTreeMap.size_insert]
    exact (if_pos hmem).le
  unfold ackIncident
  split
  · exact le_refl _
  · rename_i r
    split
    · exact le_refl _
    · rename_i found hfound
      split_ifs
      · exact le_refl _
      · exact Std.ExtTreeMap.size_erase_le
      · exact hinsert r.incidentKey found _ hfound
      · exact hinsert r.incidentKey found _ hfound

/-- The calls that a round adds acknowledge what its result covers. -/
theorem ackIncident_calls {result : Option LinkIncidentResult} {call : TrackerCall}
    (hcall : call ∈ (ackIncident acc result).2) :
    call ∈ acc.2 ∨
      ∃ r, result = some r ∧ terminal r = true ∧ call = .acknowledge r.incidentKey r.revision := by
  unfold ackIncident at hcall
  split at hcall
  · exact .inl hcall
  · rename_i r
    split at hcall
    · exact .inl hcall
    · split at hcall
      · exact .inl hcall
      · split at hcall
        · rename_i hterminal
          rcases List.mem_append.mp hcall with hold | hnew
          · exact .inl hold
          · exact .inr ⟨r, rfl, hterminal, List.mem_singleton.mp hnew⟩
        · exact .inl hcall

variable (results : List (Option LinkIncidentResult))

/-- The section for acks. -/
theorem ackIncidents_kept :
    ∀ {acc : GoMap QueuedLinkIncident × List TrackerCall} {q : QueuedLinkIncident},
      acc.1[key]? = some q →
      (∃ q', (results.foldl ackIncident acc).1[key]? = some q' ∧ q'.incident = q.incident) ∨
        ∃ r, some r ∈ results ∧ Covers key q.incident.revision r := by
  induction results with
  | nil =>
    intro acc q hq
    exact .inl ⟨q, hq, rfl⟩
  | cons result rest ih =>
    intro acc q hq
    rcases ackIncident_kept result hq with ⟨q', hq', hsame⟩ | ⟨r, hr, hcovers⟩
    · rcases ih hq' with ⟨q'', hq'', hsame'⟩ | ⟨r, hr, hcovers⟩
      · exact .inl ⟨q'', hq'', hsame'.trans hsame⟩
      · exact .inr ⟨r, List.mem_cons_of_mem _ hr, hsame ▸ hcovers⟩
    · exact .inr ⟨r, hr ▸ List.mem_cons_self, hcovers⟩

theorem ackIncidents_size (acc : GoMap QueuedLinkIncident × List TrackerCall) :
    (results.foldl ackIncident acc).1.size ≤ acc.1.size :=
  List.foldlRecOn results ackIncident
    (motive := fun out : GoMap QueuedLinkIncident × List TrackerCall => out.1.size ≤ acc.1.size)
    (le_refl _) fun out h result _ => (ackIncident_size out result).trans h

theorem ackIncidents_calls {results : List (Option LinkIncidentResult)} :
    ∀ call ∈ (results.foldl ackIncident (queue, [])).2, ∃ r, some r ∈ results ∧ terminal r = true ∧
        call = .acknowledge r.incidentKey r.revision := by
  refine List.foldlRecOn results ackIncident
    (motive := fun out : GoMap QueuedLinkIncident × List TrackerCall => ∀ call ∈ out.2,
      ∃ r, some r ∈ results ∧ terminal r = true ∧ call = .acknowledge r.incidentKey r.revision)
    (fun call hcall => by cases hcall) ?_
  intro out h result hresult call hcall
  rcases ackIncident_calls hcall with hold | ⟨r, hr, hterminal, heq⟩
  · exact h call hold
  · exact ⟨r, hr ▸ hresult, hterminal, heq⟩

/-! ## One event -/

/-- The calls of the other sections record; they do not acknowledge. -/
theorem enqueueIncidents_calls (items : List Observability.Incident) :
    ∀ queue, .acknowledge key revision ∉ (enqueueIncidents now queue items).2 := by
  induction items with
  | nil => intro queue h; cases h
  | cons item rest ih =>
    intro queue
    unfold enqueueIncidents
    split
    · split
      · exact ih _
      · exact ih _
    · split
      · simp
      · exact ih _

theorem sendIncidents_calls {order : Shuffle} :
    .acknowledge key revision ∉ (sendIncidents order now queue).calls := by
  refine List.foldlRecOn _ _
    (motive := fun acc : SendLoop => .acknowledge key revision ∉ acc.calls) ?_ ?_
  · exact List.not_mem_nil
  intro acc h k _
  have hcalls : .acknowledge key revision ∉ acc.calls ++ [.record reasonACKTimeout 1 "" k now] := by
    simp [h]
  unfold SendLoop.round
  split
  · exact h
  · dsimp only
    split_ifs <;> assumption

/-- The event does not disable the observation. -/
def Enabled (a : IncidentEvent) : Prop :=
  ∀ config, a = .setEventConfig config → observing config = true

namespace IncidentLink

theorem locked_cases (l : IncidentLink) (change : IncidentLink → IncidentLink) :
    l.locked change = l ∨ l.owed = [] ∧ l.locked change = change l := by
  unfold locked
  split
  · rename_i howed
    exact .inr ⟨howed, rfl⟩
  · exact .inl rfl

/-- What an event does to the map, to the tracker and to the calls that are owed.  Only
an ack shrinks the map, only a call that is owed acknowledges, and the acknowledgements
that are owed come from the results of an ack. -/
structure StepSpec (source : Nat → Option String) (l : IncidentLink) (a : IncidentEvent)
    (l' : IncidentLink) : Prop where
  incidents : Grown l.incidents l'.incidents ∨ ∃ results, a = .ack (some results) ∧
    l'.incidents = (results.foldl ackIncident (l.incidents, [])).1
  tracker : l.tracker.Consistent source → l'.tracker.Consistent source ∧
    (Tracker.PendingKept l.tracker l'.tracker ∨
      ∃ key revision rest, l.owed = .acknowledge key revision :: rest ∧
        l'.tracker = l.tracker.acknowledge key revision)
  owed : ∀ key revision, .acknowledge key revision ∈ l'.owed →
    .acknowledge key revision ∈ l.owed ∨ ∃ results, a = .ack (some results) ∧
      ∃ r, some r ∈ results ∧ terminal r = true ∧ r.incidentKey = key ∧ r.revision = revision

variable {source : Nat → Option String} {a : IncidentEvent} {l l' : IncidentLink}

/-- An event that is not an answer. -/
theorem StepSpec.quiet (hgrown : Grown l.incidents l'.incidents)
    (htracker : l.tracker.Consistent source →
      l'.tracker.Consistent source ∧ Tracker.PendingKept l.tracker l'.tracker)
    (howed : ∀ key revision, .acknowledge key revision ∈ l'.owed →
      .acknowledge key revision ∈ l.owed) : StepSpec source l a l' :=
  ⟨.inl hgrown, fun h => (htracker h).imp_right .inl,
    fun key revision h => .inl (howed key revision h)⟩

/-- A section under the lock leaves the tracker alone. -/
theorem StepSpec.of_grown (hgrown : Grown l.incidents l'.incidents)
    (htracker : l'.tracker = l.tracker) (howed : ∀ key revision,
      .acknowledge key revision ∈ l'.owed → .acknowledge key revision ∈ l.owed) :
    StepSpec source l a l' := by
  refine .quiet hgrown (fun h => ?_) howed
  rw [htracker]
  exact ⟨h, .refl l.tracker⟩

theorem StepSpec.refl : StepSpec source l a l :=
  .of_grown (.refl _) rfl fun _ _ => id

variable [GoUnicode]

theorem step_spec (hdistinct : Tracker.Distinct source) (l : IncidentLink)
    (henabled : Enabled a) : StepSpec source l a (l.step source a) := by
  -- A section that waits changes nothing.
  have hlocked : ∀ change : IncidentLink → IncidentLink,
      StepSpec source l a (change l) → StepSpec source l a (l.locked change) := by
    intro change hchange
    rcases l.locked_cases change with heq | ⟨_, heq⟩
    · rw [heq]
      exact .refl
    · rw [heq]
      exact hchange
  have hrecord : ∀ reason affected sampleEventID detail now, StepSpec source l a
      (l.recordLinkIncident source reason affected sampleEventID detail now) := by
    intro reason affected sampleEventID detail now
    unfold recordLinkIncident
    split
    · exact .refl
    · exact .quiet (.refl _) (fun h => Tracker.record_spec hdistinct h reason affected
        sampleEventID detail now) fun _ _ => id
  cases a with
  | record reason affected sampleEventID detail now => exact hrecord ..
  | snapshot isLeader order now =>
    unfold step
    dsimp only
    split
    · exact .quiet (.refl _) (Tracker.Moves.spec hdistinct
        (l.tracker.afterSnapshot_moves source order now)) fun _ _ => id
    · exact .refl
  | enqueue =>
    unfold step
    dsimp only
    split
    · exact .refl
    · rename_i now items _
      exact hlocked _ (.of_grown (enqueueIncidents_grown now items l.incidents) rfl
        fun _ _ h => absurd h (enqueueIncidents_calls items l.incidents))
  | submit isLeader now batch =>
    unfold step
    refine hlocked _ ?_
    unfold submitLinkIncidents
    dsimp only
    split_ifs <;> try exact .refl
    · exact hrecord ..
    · exact .of_grown (submitIncidents_spec (batch.getD []) l.incidents).1 rfl fun _ _ => id
  | send order now =>
    unfold step
    exact hlocked _ (.of_grown (sendIncidents_grown order now l.incidents) rfl
      fun _ _ h => absurd h sendIncidents_calls)
  | sendReturned index ok =>
    unfold step
    dsimp only
    split
    · exact .refl
    · rename_i keys _
      split
      · exact .of_grown (.refl _) rfl fun _ _ => id
      · exact hlocked _ (.of_grown (grown_foldl clearInFlight_grown keys l.incidents) rfl
          fun _ _ => id)
  | ack results =>
    cases results with
    | none => exact .refl
    | some results =>
      unfold step
      refine hlocked _ ⟨.inr ⟨results, rfl, rfl⟩, fun h => ⟨h, .inl (.refl _)⟩,
        fun key revision h => ?_⟩
      obtain ⟨r, hr, hterminal, heq⟩ := ackIncidents_calls _ h
      cases heq
      exact .inr ⟨results, rfl, r, hr, hterminal, rfl, rfl⟩
  | failInFlight =>
    unfold step
    exact hlocked _ (.of_grown (grown_foldl failIncident_grown l.incidents.keys l.incidents) rfl
      fun _ _ => id)
  | trackerCall =>
    unfold step
    dsimp only
    split
    · exact .refl
    · rename_i call rest howed
      have hrest : ∀ key revision, .acknowledge key revision ∈ rest →
          .acknowledge key revision ∈ l.owed := by
        intro key revision h
        rw [howed]
        exact List.mem_cons_of_mem _ h
      cases call with
      | record reason affected sampleEventID detail now =>
        exact .quiet (.refl _) (fun h => Tracker.record_spec hdistinct h reason affected
          sampleEventID detail now) hrest
      | acknowledge key revision =>
        exact ⟨.inl (.refl _), fun h => ⟨h.acknowledge key revision,
          .inr ⟨key, revision, rest, howed, rfl⟩⟩, fun _ _ h => .inl (hrest _ _ h)⟩
  | setEventConfig config =>
    unfold step
    refine hlocked _ ?_
    unfold setEventConfig
    rw [if_pos (henabled config rfl)]
    exact .of_grown (.refl _) rfl fun _ _ => id

/-- What `SubmitLinkIncidents` accepts is in the map. -/
theorem submitLinkIncidents_accepted {isLeader : Bool} {now : Time}
    {batch : Option (List (Option LinkIncident))} {result : LinkIncidentResult}
    (hresult : result ∈ (l.submitLinkIncidents source isLeader now batch).2)
    (hstatus : result.status = .accepted) :
    ∃ q, (l.submitLinkIncidents source isLeader now batch).1.incidents[result.incidentKey]? =
      some q ∧ result.revision ≤ q.incident.revision := by
  have hall : ∀ status reason, status ≠ .accepted →
      result ∉ answerAll status reason (batch.getD []) := by
    intro status reason hne hmem
    obtain ⟨incoming, _, heq⟩ := List.mem_map.mp hmem
    rw [← heq] at hstatus
    exact hne hstatus
  unfold submitLinkIncidents at hresult ⊢
  dsimp only at hresult ⊢
  split_ifs at hresult ⊢
  · cases hresult
  · exact absurd hresult (hall _ _ (by decide))
  · exact absurd hresult (hall _ _ (by decide))
  · exact absurd hresult (hall _ _ (by decide))
  · exact (submitIncidents_spec (batch.getD []) l.incidents).2 result hresult hstatus

end IncidentLink

open IncidentLink

/-! ## Runs -/

/-- A terminal result that covers the incident has arrived. -/
def Answered (events : List IncidentEvent) (key : String) (revision : Nat) : Prop :=
  ∃ results, .ack (some results) ∈ events ∧ ∃ r, some r ∈ results ∧ Covers key revision r

theorem Answered.mono {events events' : List IncidentEvent} {revision' : Nat}
    (h : Answered events key revision) (hevents : events ⊆ events') (hle : revision' ≤ revision) :
    Answered events' key revision' := by
  obtain ⟨results, hmem, r, hr, hterminal, hkey, hrevision⟩ := h
  exact ⟨results, hevents hmem, r, hr, hterminal, hkey, hle.trans hrevision⟩

/-- What holds after the events. -/
structure Sound (source : Nat → Option String) (events : List IncidentEvent) (l : IncidentLink) :
    Prop where
  consistent : l.tracker.Consistent source
  size : l.incidents.size ≤ operatorIncidentCapacity
  owed : ∀ key revision, .acknowledge key revision ∈ l.owed → Answered events key revision

/-- The member at its start. -/
def startLink (instanceID : String) (config : Option AdmissionEventConfig) : IncidentLink where
  tracker := newTracker .operator instanceID
  eventConfig := config

section

variable [GoUnicode] {source : Nat → Option String} (hdistinct : Tracker.Distinct source)

include hdistinct

variable {l : IncidentLink} {key : String} {events after : List IncidentEvent} {a : IncidentEvent}
  {i : Observability.Incident}

theorem Sound.step (h : Sound source events l) (henabled : Enabled a) :
    Sound source (events ++ [a]) (l.step source a) := by
  have hstep := step_spec hdistinct l henabled
  refine ⟨(hstep.tracker h.consistent).1, ?_, ?_⟩
  · rcases hstep.incidents with hgrown | ⟨results, _, heq⟩
    · exact hgrown.size h.size
    · rw [heq]
      exact (ackIncidents_size results (l.incidents, [])).trans h.size
  · intro key revision howed
    rcases hstep.owed key revision howed with
      hold | ⟨results, ha, r, hr, hterminal, hkey, hrevision⟩
    · exact (h.owed key revision hold).mono (List.subset_append_left _ _) (le_refl _)
    · exact ⟨results, ha ▸ List.mem_append_right _ List.mem_cons_self, r, hr, hterminal, hkey,
        hrevision.ge⟩

theorem sound_run (instanceID : String) (config : Option AdmissionEventConfig)
    (events : List IncidentEvent) (henabled : ∀ a ∈ events, Enabled a) :
    Sound source events (run (step source) (startLink instanceID config) events) := by
  refine run_history (I := fun events l => (∀ a ∈ events, Enabled a) → Sound source events l)
    ?_ ?_ events henabled
  · intro _
    refine ⟨Tracker.newTracker_consistent source _ _, Nat.zero_le _, ?_⟩
    intro key revision howed
    cases howed
  · intro before a ih hall
    refine (ih fun b hb => hall b (List.mem_append_left _ hb)).step hdistinct ?_
    exact hall a (List.mem_append_right _ List.mem_cons_self)

/-- A queued incident stays until a terminal result covers the queued revision. -/
theorem queued_until_answered (henabled : ∀ a ∈ after, Enabled a) {revision : Nat}
    (hqueued : ∃ q, l.incidents[key]? = some q ∧ revision ≤ q.incident.revision) :
    (∃ q, (run (step source) l after).incidents[key]? = some q ∧
        revision ≤ q.incident.revision) ∨
      ∃ mid results rest q, after = mid ++ .ack (some results) :: rest ∧
        (run (step source) l mid).incidents[key]? = some q ∧
        revision ≤ q.incident.revision ∧
        ∃ r, some r ∈ results ∧ Covers key q.incident.revision r := by
  by_cases hend : ∃ q, (run (step source) l after).incidents[key]? = some q ∧
      revision ≤ q.incident.revision
  · exact .inl hend
  · obtain ⟨mid, a, rest, heq, ⟨q, hq, hle⟩, hlost⟩ :=
      run_loses (P := fun l : IncidentLink => ∃ q, l.incidents[key]? = some q ∧
        revision ≤ q.incident.revision) hqueued hend
    have ha : Enabled a := henabled a (heq ▸ List.mem_append_right _ List.mem_cons_self)
    rcases (step_spec hdistinct _ ha).incidents with hgrown | ⟨results, hack, hout⟩
    · obtain ⟨q', hq', hle'⟩ := hgrown.floor key q hq
      exact absurd ⟨q', hq', hle.trans hle'⟩ hlost
    · rw [hout] at hlost
      rcases @ackIncidents_kept key results (_, []) q hq with ⟨q', hq', hsame⟩ | hcovers
      · exact absurd ⟨q', hq', hsame ▸ hle⟩ hlost
      · exact .inr ⟨mid, results, rest, q, hack ▸ heq, hq, hle, hcovers⟩

/-- The incident is pending, has been answered, or has been evicted. -/
def Accounted (events : List IncidentEvent) (l : IncidentLink) (key : String)
    (i : Observability.Incident) : Prop :=
  l.tracker.pending[key]? = some i ∨ Answered events key i.revision ∨
    ∃ n, (key, n) ∈ l.tracker.evicted

theorem Accounted.step (h : Accounted events l key i) (hsound : Sound source events l)
    (henabled : Enabled a) : Accounted (events ++ [a]) (l.step source a) key i := by
  have hsub : events ⊆ events ++ [a] := List.subset_append_left _ _
  rcases (step_spec hdistinct l henabled).tracker hsound.consistent with
    ⟨_, hkept | ⟨key', revision, rest, howed, heq⟩⟩
  · rcases h with hpending | hanswered | ⟨n, hn⟩
    · rcases hkept.pending key i hpending with hstay | hevicted
      · exact .inl hstay
      · exact .inr (.inr hevicted)
    · exact .inr (.inl (hanswered.mono hsub (le_refl _)))
    · exact .inr (.inr ⟨n, hkept.evicted hn⟩)
  · rcases h with hpending | hanswered | ⟨n, hn⟩
    · rcases l.tracker.acknowledge_pending key' revision hpending with hstay | ⟨hkey, hcovered⟩
      · exact .inl (heq ▸ hstay)
      · have howed' := hsound.owed key' revision (howed ▸ List.mem_cons_self)
        exact .inr (.inl (hkey ▸ howed'.mono hsub hcovered))
    · exact .inr (.inl (hanswered.mono hsub (le_refl _)))
    · refine .inr (.inr ⟨n, ?_⟩)
      rw [heq]
      unfold Tracker.acknowledge
      split
      · exact hn
      · split <;> exact hn

/-- A pending incident stays until it is answered or evicted. -/
theorem accounted_run {before : List IncidentEvent} (hsound : Sound source before l)
    (henabled : ∀ a ∈ after, Enabled a) (h : Accounted before l key i) :
    Accounted (before ++ after) (run (step source) l after) key i := by
  induction after generalizing before l with
  | nil =>
    rw [List.append_nil]
    exact h
  | cons a rest ih =>
    have ha := henabled a List.mem_cons_self
    have hrest := ih (hsound.step hdistinct ha) (fun b hb => henabled b (List.mem_cons_of_mem _ hb))
      (h.step hdistinct hsound ha)
    rw [List.append_assoc, List.singleton_append] at hrest
    exact hrest

/-- On the member no link incident is lost while the observation is enabled.

An incident that `SubmitLinkIncidents` accepts stays in the map, at its revision
or a later one, until a terminal result covers the revision that is queued.  A
pending incident leaves the tracker only after a terminal result that covers it,
or when it is pushed out of a full list.  The map stays within its capacity. -/
theorem link_incidents_kept (instanceID : String) (config : Option AdmissionEventConfig)
    (before after : List IncidentEvent) (henabled : ∀ a ∈ before ++ after, Enabled a) :
    let l := run (step source) (startLink instanceID config) before
    let l' := run (step source) l after
    l'.incidents.size ≤ operatorIncidentCapacity ∧
      (∀ isLeader now batch, ∀ result ∈ (l.submitLinkIncidents source isLeader now batch).2,
        result.status = .accepted →
        let accepted := (l.submitLinkIncidents source isLeader now batch).1
        (∃ q, (run (step source) accepted after).incidents[result.incidentKey]? =
            some q ∧ result.revision ≤ q.incident.revision) ∨
          ∃ mid results rest q, after = mid ++ .ack (some results) :: rest ∧
            (run (step source) accepted mid).incidents[result.incidentKey]? = some q ∧
            result.revision ≤ q.incident.revision ∧
            ∃ r, some r ∈ results ∧ Covers result.incidentKey q.incident.revision r) ∧
      ∀ (key : String) (i : Observability.Incident), l.tracker.pending[key]? = some i →
        l'.tracker.pending[key]? = some i ∨ Answered (before ++ after) key i.revision ∨
          ∃ n, l'.tracker.limit ≤ n ∧ (key, n) ∈ l'.tracker.evicted := by
  intro l l'
  have hafter : ∀ a ∈ after, Enabled a := fun a ha => henabled a (List.mem_append_right _ ha)
  have hsound : Sound source before l :=
    sound_run hdistinct instanceID config before fun a ha => henabled a (List.mem_append_left _ ha)
  have hsound' : Sound source (before ++ after) l' := by
    have h := sound_run hdistinct instanceID config (before ++ after) henabled
    rw [run_append] at h
    exact h
  refine ⟨hsound'.size, ?_, ?_⟩
  · intro isLeader now batch result hresult hstatus
    refine queued_until_answered hdistinct hafter ?_
    exact submitLinkIncidents_accepted hresult hstatus
  · intro key i hpending
    rcases accounted_run hdistinct hsound hafter (.inl hpending) with hstay | hanswered | ⟨n, hn⟩
    · exact .inl hstay
    · exact .inr (.inl hanswered)
    · exact .inr (.inr ⟨n, hsound'.consistent.evicted_full _ hn, hn⟩)

end

attribute [local instance] GoUnicode.ascii

/-- A configuration that enables the observation. -/
def observingConfig : AdmissionEventConfig where
  version := "1"
  defaultRetentionDays := 30
  storagePolicies := []
  retryEnabled := true
  maxRetryAttempts := 3
  queueCapacity := 100
  observationEnabled := true
  platformObservationEnabled := false

/-- A report of the webhook. -/
def webhookReport (revision : Nat) : LinkIncident where
  incidentKey := "w1"
  reporterInstanceID := "webhook-0"
  revision := revision
  component := "webhook"
  reason := "queue_full"
  startedAt := some { seconds := 100, nanos := 0 }
  lastSeenAt := some { seconds := 100, nanos := 0 }
  affectedCount := 1
  detail := "full"

/-- Revision 2 is accepted and sent, and an answer to revision 1 arrives late:
the incident stays queued at revision 2. -/
theorem link_incidents_kept_stale_answer :
    let start := startLink "operator-0" (some observingConfig)
    let source := fun n : Nat => if n = 0 then some "o1" else none
    let after := [IncidentEvent.send .id 1000, .ack (some [some
      { incidentKey := "w1", revision := 1, status := .accepted }]), .failInFlight]
    (start.submitLinkIncidents source true 0 (some [some (webhookReport 2)])).2 =
        [{ incidentKey := "w1", revision := 2, status := .accepted }] ∧
      ∃ q, (run (step source)
          (start.submitLinkIncidents source true 0 (some [some (webhookReport 2)])).1
          after).incidents["w1"]? = some q ∧ 2 ≤ q.incident.revision := by
  intro start source after
  have hdistinct : Tracker.Distinct source := by
    intro m n key hm hn
    simp only [source, Option.ite_none_right_eq_some] at hm hn
    omega
  have henabled : ∀ a ∈ [] ++ after, Enabled a := by
    intro a ha config heq
    subst heq
    simp [after] at ha
  have hresults : (start.submitLinkIncidents source true 0 (some [some (webhookReport 2)])).2 =
      [{ incidentKey := "w1", revision := 2, status := .accepted }] := by decide +kernel
  refine ⟨hresults, ?_⟩
  have hkept := (link_incidents_kept hdistinct "operator-0" (some observingConfig) [] after
    henabled).2.1 true 0 (some [some (webhookReport 2)])
    { incidentKey := "w1", revision := 2, status := .accepted } (hresults ▸ List.mem_cons_self) rfl
  rcases hkept with h | ⟨mid, results, rest, q, heq, hq, hle, r, hr, hcovers⟩
  · exact h
  · -- The one ack of the run answers revision 1.
    have hack : IncidentEvent.ack (some results) ∈ after := by
      rw [heq]
      exact List.mem_append_right _ List.mem_cons_self
    simp only [after, List.mem_cons, List.not_mem_nil, or_false, reduceCtorEq, false_or,
      IncidentEvent.ack.injEq, Option.some.injEq] at hack
    subst hack
    simp only [List.mem_singleton, Option.some.injEq] at hr
    subst hr
    have hrevision := hcovers.2.2
    dsimp only at hle hrevision
    omega

end KubeSentry.Hublink
