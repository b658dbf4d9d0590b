import KubeSentry.Gateway.Sessions

/-!
# One pusher per cluster

While no `updateRole` call of a cluster is in progress, at most one session of the
cluster should have a running push loop, and it should be the one that
`sessionRegistry.leader` returns.

The code loses this in two ways.  `put` stops the leaders of the other instances,
but a session that it replaces under its own instance keeps its loop.  And a
session that has been found leading can be demoted before its `startPush`.
`InOrder` excludes both at the step where they happen.

`Paired` is the invariant.  At most one entry leads, and a session that pushes
either leads or is about to be stopped by an `updateRole` call in progress.  Each
small step of `Hub.step` has a lemma; `paired_step` puts them together.
-/

namespace KubeSentry.Gateway

open GoLib SyncPoint

/-! ## The registry, one entry at a time -/

namespace SessionRegistry

variable {r : SessionRegistry} {cluster : String}

/-- Some entry of the cluster leads and belongs to the session. -/
def Leads (r : SessionRegistry) (cluster : String) (session : Nat) : Prop :=
  ∃ (key : String) (entry : SessionEntry), (r.instances cluster)[key]? = some entry ∧
    entry.role = .leader ∧ entry.session = session

/-- At most one entry of the cluster leads. -/
def OneLeader (r : SessionRegistry) (cluster : String) : Prop :=
  ∀ (key key' : String) (entry entry' : SessionEntry),
    (r.instances cluster)[key]? = some entry → (r.instances cluster)[key']? = some entry' →
    entry.role = .leader → entry'.role = .leader → key = key'

theorem instances_insert (r : SessionRegistry) (cluster cluster' : String)
    (entries : GoMap SessionEntry) :
    SessionRegistry.instances (r.insert cluster entries) cluster' =
      if cluster = cluster' then entries else r.instances cluster' := by
  unfold instances
  rw [getElem?_insert_key]
  split <;> rfl

/-- What `put` makes of the entry of another instance. -/
def lowered : MemberRole → SessionEntry → SessionEntry
  | .leader, entry => { entry with role := .standby }
  | .standby, entry => entry

theorem getElem?_put (r : SessionRegistry) (cluster key : String) (role : MemberRole)
    (session : Nat) (now : Time) (key' : String) :
    ((r.put cluster key role session now).1.instances cluster)[key']? =
      if key = key' then some { session, role, updatedAt := now }
      else (r.instances cluster)[key']?.map (lowered role) := by
  cases role with
  | standby =>
    show (SessionRegistry.instances (r.insert cluster _) cluster)[key']? = _
    rw [instances_insert, if_pos rfl, getElem?_insert_key]
    split
    · rfl
    · exact Option.map_id'.symm
  | leader =>
    show (SessionRegistry.instances (r.insert cluster _) cluster)[key']? = _
    rw [instances_insert, if_pos rfl, Std.ExtTreeMap.getElem?_map, getElem?_insert_key]
    by_cases hkey : key = key'
    · rw [if_pos hkey, if_pos hkey]
      refine congrArg some (if_neg fun hdemotes => ?_)
      exact hdemotes.1 hkey.symm
    · rw [if_neg hkey, if_neg hkey]
      refine congrArg (Option.map · _) (funext fun entry => ?_)
      unfold lowered
      split
      · rfl
      · rename_i hkept
        have hstandby : entry.role = .standby := by
          cases hrole : entry.role with
          | standby => rfl
          | leader => exact absurd ⟨Ne.symm hkey, hrole⟩ hkept
        rw [← hstandby]

theorem instances_put_of_ne (r : SessionRegistry) {cluster cluster' : String}
    (hne : cluster ≠ cluster') (key : String) (role : MemberRole) (session : Nat) (now : Time) :
    (r.put cluster key role session now).1.instances cluster' = r.instances cluster' := by
  cases role <;> exact (instances_insert r cluster cluster' _).trans (if_neg hne)

/-- `put` returns the sessions of the leading entries of the other instances. -/
theorem mem_put_of_leads {key key' : String} (hne : key' ≠ key) {entry : SessionEntry}
    (hentry : (r.instances cluster)[key']? = some entry) (hrole : entry.role = .leader)
    (session : Nat) (now : Time) : entry.session ∈ (r.put cluster key .leader session now).2 := by
  refine List.mem_map.mpr ⟨(key', entry), List.mem_filter.mpr ⟨?_, ?_⟩, rfl⟩
  · rw [mem_toList_iff, getElem?_insert_key, if_neg (Ne.symm hne)]
    exact hentry
  · exact decide_eq_true ⟨hne, hrole⟩

/-- A selection stays or is replaced. -/
theorem foldl_selectLeader_some (entries : List SessionEntry) (best : SessionEntry) :
    entries.foldl selectLeader (some best) ≠ none := by
  induction entries generalizing best with
  | nil => exact Option.some_ne_none best
  | cons first rest ih =>
    rw [List.foldl_cons]
    unfold selectLeader
    dsimp only
    split
    · exact ih first
    · exact ih best

/-- The loop of `leader` finds a leading entry if there is one. -/
theorem foldl_selectLeader (entries : List SessionEntry) (selected : Option SessionEntry)
    (hselected : ∀ entry, selected = some entry → entry.role = .leader) :
    (entries.foldl selectLeader selected = none ∧ ∀ entry ∈ entries, entry.role ≠ .leader) ∨
      ∃ entry, entries.foldl selectLeader selected = some entry ∧ entry.role = .leader ∧
        (selected = some entry ∨ entry ∈ entries) := by
  induction entries generalizing selected with
  | nil =>
    cases selected with
    | none => exact .inl ⟨rfl, fun _ h => absurd h List.not_mem_nil⟩
    | some entry => exact .inr ⟨entry, rfl, hselected entry rfl, .inl rfl⟩
  | cons first rest ih =>
    have hnext : ∀ entry, selectLeader selected first = some entry →
        entry.role = .leader ∧ (selected = some entry ∨ entry = first) := by
      intro entry hentry
      unfold selectLeader at hentry
      split at hentry
      · split at hentry
        · rename_i hrole
          cases hentry
          exact ⟨hrole, .inr rfl⟩
        · cases hentry
      · split at hentry
        · rename_i hlater
          cases hentry
          exact ⟨hlater.1, .inr rfl⟩
        · cases hentry
          exact ⟨hselected _ rfl, .inl rfl⟩
    rcases ih (selectLeader selected first) fun entry h => (hnext entry h).1 with
      ⟨hnone, hothers⟩ | ⟨entry, hsome, hrole, hfrom⟩
    · left
      refine ⟨hnone, fun entry hentry => ?_⟩
      rcases List.mem_cons.mp hentry with rfl | hrest
      · -- A leading first entry would have been selected, and a selection stays.
        intro hrole
        have hfirst : ∃ best, selectLeader selected entry = some best := by
          unfold selectLeader
          split
          · exact ⟨entry, if_pos hrole⟩
          · split <;> exact ⟨_, rfl⟩
        obtain ⟨best, hbest⟩ := hfirst
        rw [hbest] at hnone
        exact absurd hnone (foldl_selectLeader_some rest best)
      · exact hothers entry hrest
    · right
      refine ⟨entry, hsome, hrole, ?_⟩
      rcases hfrom with hselected' | hrest
      · rcases (hnext entry hselected').2 with hold | rfl
        · exact .inl hold
        · exact .inr List.mem_cons_self
      · exact .inr (List.mem_cons_of_mem _ hrest)

/-- `leader` returns the session of the leading entry. -/
theorem leader_eq_some_iff (hone : r.OneLeader cluster) {session : Nat} :
    r.leader cluster = some session ↔ r.Leads cluster session := by
  have hmem : ∀ entry, entry ∈ (r.instances cluster).toList.map (fun e => e.2) ↔
      ∃ key : String, (r.instances cluster)[key]? = some entry := by
    intro entry
    constructor
    · intro h
      obtain ⟨e, he, rfl⟩ := List.mem_map.mp h
      exact ⟨e.1, (mem_toList_iff _ _ _).mp he⟩
    · intro ⟨key, hkey⟩
      exact List.mem_map.mpr ⟨(key, entry), (mem_toList_iff _ _ _).mpr hkey, rfl⟩
  unfold leader
  rcases foldl_selectLeader ((r.instances cluster).toList.map fun e => e.2) none
      (fun _ h => absurd h (Option.some_ne_none _).symm) with
    ⟨hnone, hothers⟩ | ⟨best, hsome, hrole, hfrom⟩
  · rw [hnone]
    refine ⟨fun h => absurd h (Option.some_ne_none _).symm, ?_⟩
    intro ⟨key, entry, hentry, hleads, _⟩
    exact absurd hleads (hothers entry ((hmem entry).mpr ⟨key, hentry⟩))
  · obtain ⟨key, hkey⟩ := (hmem best).mp (hfrom.resolve_left (Option.some_ne_none _).symm)
    rw [hsome]
    constructor
    · intro h
      exact ⟨key, best, hkey, hrole, Option.some.inj h⟩
    · intro ⟨key', entry, hentry, hleads, hsession⟩
      cases hone key key' best entry hkey hentry hrole hleads
      rw [hkey] at hentry
      cases hentry
      exact congrArg some hsession

/-- `remove` erases the entry of the instance if it is the session's own. -/
theorem instances_remove (r : SessionRegistry) (cluster cluster' key : String) (session : Nat) :
    (r.remove cluster key session).instances cluster' = r.instances cluster' ∨ cluster = cluster' ∧
        (∃ entry : SessionEntry, (r.instances cluster)[key]? = some entry ∧
          entry.session = session) ∧
        (r.remove cluster key session).instances cluster' = (r.instances cluster).erase key := by
  unfold remove
  cases hentry : (r.instances cluster)[key]? with
  | none => exact .inl rfl
  | some entry =>
    dsimp only
    by_cases hsession : entry.session = session
    · rw [if_neg (not_not.mpr hsession)]
      have hinstances : SessionRegistry.instances
          (if ((r.instances cluster).erase key).isEmpty then r.erase cluster
            else r.insert cluster ((r.instances cluster).erase key)) cluster' =
          if cluster = cluster' then (r.instances cluster).erase key
            else r.instances cluster' := by
        split
        · rename_i hempty
          unfold instances
          rw [getElem?_erase_key]
          split
          · exact (Std.ExtTreeMap.isEmpty_iff.mp hempty).symm
          · rfl
        · exact instances_insert r cluster cluster' _
      rw [hinstances]
      by_cases hcluster : cluster = cluster'
      · exact .inr ⟨hcluster, ⟨entry, rfl, hsession⟩, if_pos hcluster⟩
      · exact .inl (if_neg hcluster)
    · rw [if_pos hsession]
      exact .inl rfl

end SessionRegistry

/-! ## The invariant -/

/-- The sessions that a stream at this point is about to stop. -/
def SyncPoint.stops (k : Nat) : SyncPoint → List Nat
  | .demoting session rest => session :: rest
  | .stopping => [k]
  | _ => []

/-- The stream has stopped its own loop for good. -/
def SyncPoint.Ended (point : SyncPoint) : Prop :=
  point = .removing ∨ point = .closed

namespace Hub

/-- The session is one of the cluster, and it has a running push loop. -/
def Pushing (hub : Hub) (cluster : String) (k : Nat) : Prop :=
  ∃ ss, hub.sessions[k]? = some ss ∧ ss.cluster = cluster ∧ ss.push.Pushing

/-- An `updateRole` call of the cluster is about to stop the session. -/
def StopPending (hub : Hub) (cluster : String) (k : Nat) : Prop :=
  ∃ (j : Nat) (ss : SyncSession), hub.sessions[j]? = some ss ∧ ss.cluster = cluster ∧
    k ∈ ss.point.stops j

/-- At most one entry leads, and a session that pushes leads or will be
stopped. -/
structure Paired (cluster : String) (hub : Hub) : Prop where
  oneLeader : hub.registry.OneLeader cluster
  accounted : ∀ k, hub.Pushing cluster k →
    hub.registry.Leads cluster k ∨ hub.StopPending cluster k
  ended : ∀ (k : Nat) (ss : SyncSession), hub.sessions[k]? = some ss → ss.point.Ended →
    ¬ ss.push.Pushing

/-- No `updateRole` call of the cluster is in progress. -/
def Idle (hub : Hub) (cluster : String) : Prop :=
  ∀ ss ∈ hub.sessions, ss.cluster = cluster → ¬ ss.point.Updating

/-- The law: while no `updateRole` call is in progress, a session that pushes is the
one that `leader` returns, so there is at most one. -/
def SinglePusher (hub : Hub) (cluster : String) : Prop :=
  hub.Idle cluster →
    (∀ k, hub.Pushing cluster k → hub.registry.leader cluster = some k) ∧
    ∀ k k', hub.Pushing cluster k → hub.Pushing cluster k' → k = k'

theorem singlePusher_of_paired {cluster : String} {hub : Hub} (h : Paired cluster hub) :
    hub.SinglePusher cluster := by
  intro hidle
  have hleader : ∀ k, hub.Pushing cluster k → hub.registry.leader cluster = some k := by
    intro k hpushing
    rcases h.accounted k hpushing with hleads | ⟨j, ss, hss, hcluster, hstops⟩
    · exact (SessionRegistry.leader_eq_some_iff h.oneLeader).mpr hleads
    · have hpoint := hidle ss (List.mem_of_getElem? hss) hcluster
      unfold SyncPoint.stops at hstops
      split at hstops
      · rename_i heq
        exact absurd (by rw [heq]; exact trivial) hpoint
      · rename_i heq
        exact absurd (by rw [heq]; exact trivial) hpoint
      · exact absurd hstops List.not_mem_nil
  refine ⟨hleader, fun k k' hk hk' => ?_⟩
  exact Option.some.inj ((hleader k hk).symm.trans (hleader k' hk'))

/-! ## Small steps -/

variable {cluster : String} {hub : Hub}

theorem getElem?_modify (hub : Hub) (k j : Nat) (f : SyncSession → SyncSession) :
    (hub.modify k f).sessions[j]? = if k = j then hub.sessions[j]?.map f else hub.sessions[j]? := by
  show (hub.sessions.modify k f)[j]? = _
  rw [List.getElem?_modify]
  split <;> cases hub.sessions[j]? <;> rfl

variable {k : Nat} {ss : SyncSession} {f : SyncSession → SyncSession}

/-- A session after a change of one session was there before. -/
theorem exists_of_modify {j : Nat} {ss' : SyncSession}
    (h : (hub.modify k f).sessions[j]? = some ss') :
    ∃ ss, hub.sessions[j]? = some ss ∧ ((k = j ∧ ss' = f ss) ∨ (k ≠ j ∧ ss' = ss)) := by
  rw [getElem?_modify] at h
  split at h
  · rename_i hkj
    obtain ⟨ss, hss, rfl⟩ := Option.map_eq_some_iff.mp h
    exact ⟨ss, hss, .inl ⟨hkj, rfl⟩⟩
  · rename_i hkj
    exact ⟨ss', h, .inr ⟨hkj, rfl⟩⟩

section

variable (h : Paired cluster hub)

include h

/-- A change of one session: a loop that it starts is that of the leader, a stream that is
still to stop a session goes on to do so, and a stream that has ended has no loop. -/
theorem Paired.modify (k : Nat) (hcluster : ∀ ss, (f ss).cluster = ss.cluster)
    (hchange : ∀ ss, hub.sessions[k]? = some ss →
      (ss.cluster = cluster → (f ss).push.Pushing →
        ss.push.Pushing ∨ hub.registry.Leads cluster k) ∧
      (ss.cluster = cluster → ∀ j ∈ ss.point.stops k, hub.Pushing cluster j →
        j ∈ (f ss).point.stops k) ∧
      ((f ss).point.Ended → ¬ (f ss).push.Pushing)) : Paired cluster (hub.modify k f) := by
  refine ⟨h.oneLeader, fun j hpushing => ?_, fun j ss' hss' hended => ?_⟩
  · obtain ⟨ss', hss', hcl, hpush⟩ := hpushing
    have hwas : hub.Pushing cluster j ∨ hub.registry.Leads cluster j := by
      obtain ⟨ss, hss, ⟨rfl, rfl⟩ | ⟨_, rfl⟩⟩ := exists_of_modify hss'
      · rw [hcluster] at hcl
        exact ((hchange ss hss).1 hcl hpush).imp_left fun hpush => ⟨ss, hss, hcl, hpush⟩
      · exact .inl ⟨_, hss, hcl, hpush⟩
    rcases hwas with hwas | hleads
    · refine (h.accounted j hwas).imp_right ?_
      intro ⟨i, si, hsi, hcl', hstops⟩
      by_cases hki : k = i
      · subst hki
        refine ⟨k, f si, ?_, (hcluster si).trans hcl', (hchange si hsi).2.1 hcl' j hstops hwas⟩
        rw [getElem?_modify, if_pos rfl, hsi]
        rfl
      · refine ⟨i, si, ?_, hcl', hstops⟩
        rw [getElem?_modify, if_neg hki]
        exact hsi
    · exact .inl hleads
  · obtain ⟨ss, hss, ⟨rfl, rfl⟩ | ⟨_, rfl⟩⟩ := exists_of_modify hss'
    · exact (hchange ss hss).2.2 hended
    · exact h.ended j _ hss hended

/-- A change that starts no loop and moves no stream. -/
theorem Paired.quieter (k : Nat) (hcluster : ∀ ss, (f ss).cluster = ss.cluster)
    (hpoint : ∀ ss, (f ss).point = ss.point) (hpush : ∀ ss, (f ss).push.Pushing → ss.push.Pushing) :
    Paired cluster (hub.modify k f) := by
  refine h.modify k hcluster fun ss hss => ?_
  rw [hpoint]
  exact ⟨fun _ hpushing => .inl (hpush ss hpushing), fun _ j hj _ => hj,
    fun hended hpushing => h.ended k ss hss hended (hpush ss hpushing)⟩

theorem Paired.stopPush (k : Nat) : Paired cluster (hub.stopPush k) :=
  h.quieter k (fun _ => rfl) (fun _ => rfl)
    fun ss hpushing => absurd hpushing ss.push.not_pushing_stopPush

end

theorem not_pushing_stopPush (hub : Hub) (cluster : String) (k : Nat) :
    ¬ (hub.stopPush k).Pushing cluster k := by
  intro ⟨ss', hss', _, hpushing⟩
  obtain ⟨ss, _, ⟨_, rfl⟩ | ⟨hne, _⟩⟩ := exists_of_modify hss'
  · exact ss.push.not_pushing_stopPush hpushing
  · exact hne rfl

variable {point : SyncPoint}

section

variable (h : Paired cluster hub)

include h

/-- A stream moves on: the sessions that it does not stop any more do not push, and
neither does it itself once it has ended. -/
theorem Paired.moveTo (hss : hub.sessions[k]? = some ss)
    (hstops : ss.cluster = cluster → ∀ j ∈ ss.point.stops k, hub.Pushing cluster j →
      j ∈ point.stops k) (hended : point.Ended → ¬ ss.push.Pushing) :
    Paired cluster (hub.moveTo k point) := by
  refine h.modify k (fun _ => rfl) fun ss' hss' => ?_
  rw [hss] at hss'
  cases hss'
  exact ⟨fun _ => .inl, hstops, hended⟩

/-- A stream that was to stop no session moves on. -/
theorem Paired.moveOn (hss : hub.sessions[k]? = some ss) (hstops : ss.point.stops k = [])
    (hended : point.Ended → ¬ ss.push.Pushing) : Paired cluster (hub.moveTo k point) := by
  refine h.moveTo hss (fun _ j hj => ?_) hended
  rw [hstops] at hj
  exact absurd hj List.not_mem_nil

/-- A leading session may start its loop. -/
theorem Paired.startPush (hss : hub.sessions[k]? = some ss)
    (hleads : ss.cluster = cluster → hub.registry.Leads cluster k) (hpoint : ¬ ss.point.Ended) :
    Paired cluster (hub.startPush k) := by
  refine h.modify k (fun _ => rfl) fun ss' hss' => ?_
  rw [hss] at hss'
  cases hss'
  exact ⟨fun hcl _ => .inr (hleads hcl), fun _ j hj _ => hj, fun hended => absurd hended hpoint⟩

/-- A change of the registry that leaves the cluster alone. -/
theorem Paired.otherCluster {registry : SessionRegistry}
    (hsame : registry.instances cluster = hub.registry.instances cluster) :
    Paired cluster { hub with registry := registry } := by
  refine ⟨?_, fun j hpushing => ?_, h.ended⟩
  · unfold SessionRegistry.OneLeader
    rw [hsame]
    exact h.oneLeader
  · refine (h.accounted j hpushing).imp_left fun hleads => ?_
    unfold SessionRegistry.Leads
    rw [hsame]
    exact hleads

/-- The registry loses the entry of a session that does not push. -/
theorem Paired.remove (hquiet : ¬ hub.Pushing cluster k) (cluster' key : String) :
    Paired cluster { hub with registry := hub.registry.remove cluster' key k } := by
  rcases SessionRegistry.instances_remove hub.registry cluster' cluster key k with
    hsame | ⟨rfl, ⟨own, hown, hsession⟩, herased⟩
  · exact h.otherCluster hsame
  · have hafter : ∀ key' : String,
        ((hub.registry.remove cluster' key k).instances cluster')[key']? =
          if key = key' then none else (hub.registry.instances cluster')[key']? := by
      intro key'
      rw [herased, getElem?_erase_key]
    refine ⟨?_, fun j hpushing => ?_, h.ended⟩
    · intro key1 key2 e1 e2 h1 h2
      rw [hafter] at h1 h2
      split at h1
      · cases h1
      · split at h2
        · cases h2
        · exact h.oneLeader key1 key2 e1 e2 h1 h2
    · refine (h.accounted j hpushing).imp_left ?_
      intro ⟨key', entry, hentry, hrole, hj⟩
      refine ⟨key', entry, ?_, hrole, hj⟩
      rw [hafter, if_neg]
      · exact hentry
      · intro hkey
        subst hkey
        rw [hown] at hentry
        cases hentry
        rw [hsession] at hj
        subst hj
        exact hquiet hpushing

/-- A new stream has not started a loop. -/
theorem Paired.opened (cluster' key : String) (role : MemberRole) :
    Paired cluster { hub with
      sessions := hub.sessions ++
        [{ cluster := cluster', key := key, point := .putting role }] } := by
  have hbefore : ∀ (j : Nat) (ss : SyncSession),
      (hub.sessions ++ [({ cluster := cluster', key := key, point := .putting role } :
        SyncSession)])[j]? = some ss →
      hub.sessions[j]? = some ss ∨ (¬ ss.push.Pushing ∧ ¬ ss.point.Ended) := by
    intro j ss hss
    rcases Nat.lt_or_ge j hub.sessions.length with hlt | hge
    · rw [List.getElem?_append_left hlt] at hss
      exact .inl hss
    · rw [List.getElem?_append_right hge] at hss
      have hnew := List.mem_singleton.mp (List.mem_of_getElem? hss)
      subst hnew
      right
      constructor
      · intro ⟨l, hl, _⟩
        exact absurd hl List.not_mem_nil
      · simp [Ended]
  refine ⟨h.oneLeader, fun j hpushing => ?_, fun j ss hss hended hpushing => ?_⟩
  · obtain ⟨ss, hss, hcl, hpush⟩ := hpushing
    have hold := (hbefore j ss hss).resolve_right fun hnot => hnot.1 hpush
    refine (h.accounted j ⟨ss, hold, hcl, hpush⟩).imp_right ?_
    intro ⟨i, si, hsi, hcl', hmem⟩
    refine ⟨i, si, ?_, hcl', hmem⟩
    rw [← hsi]
    exact List.getElem?_append_left (List.getElem?_eq_some_iff.mp hsi).1
  · exact h.ended j ss ((hbefore j ss hss).resolve_right fun hnot => hnot.2 hended) hended hpushing

end

theorem stops_afterPut (k : Nat) (demoted : List Nat) :
    (afterPut .leader demoted).stops k = demoted := by
  cases demoted <;> rfl

theorem not_ended_afterPut (role : MemberRole) (demoted : List Nat) :
    ¬ (afterPut role demoted).Ended := by
  intro hended
  cases role <;> cases demoted <;> rcases hended with h | h <;> cases h

/-- After `put` at most one entry leads. -/
theorem oneLeader_put {r : SessionRegistry} (h : r.OneLeader cluster) (key : String)
    (role : MemberRole) (session : Nat) (now : Time) :
    (r.put cluster key role session now).1.OneLeader cluster := by
  intro key1 key2 e1 e2 h1 h2 hrole1 hrole2
  rw [SessionRegistry.getElem?_put] at h1 h2
  cases role with
  | leader =>
    have hown : ∀ (key' : String) (e : SessionEntry), e.role = .leader →
        (if key = key' then some ⟨session, .leader, now⟩
          else (r.instances cluster)[key']?.map (SessionRegistry.lowered .leader)) = some e →
        key = key' := by
      intro key' e hrole he
      by_contra hne
      rw [if_neg hne] at he
      obtain ⟨e0, _, rfl⟩ := Option.map_eq_some_iff.mp he
      cases hrole
    exact (hown key1 e1 hrole1 h1).symm.trans (hown key2 e2 hrole2 h2)
  | standby =>
    have hold : ∀ (key' : String) (e : SessionEntry), e.role = .leader →
        (if key = key' then some ⟨session, .standby, now⟩
          else (r.instances cluster)[key']?.map (SessionRegistry.lowered .standby)) = some e →
        (r.instances cluster)[key']? = some e := by
      intro key' e hrole he
      split at he
      · cases he
        cases hrole
      · obtain ⟨e0, he0, rfl⟩ := Option.map_eq_some_iff.mp he
        exact he0
    exact h key1 key2 e1 e2 (hold key1 e1 hrole1 h1) (hold key2 e2 hrole2 h2) hrole1 hrole2

/-- `put`: a session that it takes the lead from is among those that the stream stops
next, or was replaced, and then does not push. -/
theorem Paired.put (h : Paired cluster hub) {role : MemberRole} (hss : hub.sessions[k]? = some ss)
    (hpoint : ss.point = .putting role) (now : Time)
    (hreplaced : ss.cluster = cluster → ∀ entry : SessionEntry,
      (hub.registry.instances cluster)[ss.key]? = some entry → entry.session ≠ k →
      ¬ hub.Pushing cluster entry.session) :
    Paired cluster
      ({ hub with registry := (hub.registry.put ss.cluster ss.key role k now).1 }.moveTo k
        (.afterPut role (hub.registry.put ss.cluster ss.key role k now).2)) := by
  by_cases hcluster : ss.cluster = cluster
  · subst hcluster
    have hput := SessionRegistry.getElem?_put hub.registry ss.cluster ss.key role k now
    have hnew : ((hub.registry.put ss.cluster ss.key role k now).1.instances
        ss.cluster)[ss.key]? = some ⟨k, role, now⟩ := (hput ss.key).trans (if_pos rfl)
    have hmoved : ∀ registry point,
        ({ hub with registry := registry }.moveTo k point).sessions[k]? =
          some { ss with point := point } := by
      intro registry point
      rw [Hub.moveTo, getElem?_modify, if_pos rfl, hss]
      rfl
    refine ⟨oneLeader_put h.oneLeader ss.key role k now, fun j hpushing => ?_,
      fun j ss' hss' hended => ?_⟩
    · have hwas : hub.Pushing ss.cluster j := by
        obtain ⟨ss', hss', hcl, hpush⟩ := hpushing
        obtain ⟨ss0, hss0, ⟨_, rfl⟩ | ⟨_, rfl⟩⟩ := exists_of_modify hss'
        · exact ⟨ss0, hss0, hcl, hpush⟩
        · exact ⟨_, hss0, hcl, hpush⟩
      rcases h.accounted j hwas with ⟨key', entry, hentry, hrole, hj⟩ | ⟨i, si, hsi, hcl, hmem⟩
      · by_cases hkey : ss.key = key'
        · subst hkey
          have hjk : j = k := by
            by_contra hne
            exact hreplaced rfl entry hentry (hj ▸ hne) (hj ▸ hwas)
          subst hjk
          cases role with
          | leader => exact .inl ⟨ss.key, _, hnew, rfl, rfl⟩
          | standby => exact .inr ⟨j, _, hmoved _ _, rfl, List.mem_singleton_self j⟩
        · cases role with
          | leader =>
            refine .inr ⟨k, _, hmoved _ _, rfl, ?_⟩
            show j ∈ (afterPut .leader _).stops k
            rw [stops_afterPut, ← hj]
            exact SessionRegistry.mem_put_of_leads (Ne.symm hkey) hentry hrole k now
          | standby =>
            refine .inl ⟨key', entry, (hput key').trans ?_, hrole, hj⟩
            rw [if_neg hkey, hentry]
            rfl
      · have hne : k ≠ i := by
          intro hki
          subst hki
          rw [hss] at hsi
          cases hsi
          rw [hpoint] at hmem
          exact absurd hmem List.not_mem_nil
        refine .inr ⟨i, si, ?_, hcl, hmem⟩
        rw [Hub.moveTo, getElem?_modify, if_neg hne]
        exact hsi
    · obtain ⟨ss0, hss0, ⟨_, rfl⟩ | ⟨_, rfl⟩⟩ := exists_of_modify hss'
      · exact absurd hended (not_ended_afterPut role _)
      · exact h.ended j _ hss0 hended
  · have hother := h.otherCluster
      (SessionRegistry.instances_put_of_ne hub.registry hcluster ss.key role k now)
    exact hother.moveTo hss (fun hcl => absurd hcl hcluster)
      fun hended => absurd hended (not_ended_afterPut role _)

/-! ## Runs -/

/-- A stream of the cluster may make the step at this point: `put` replaces no session
that pushes, and a session that starts its loop still leads. -/
def MayPass (cluster : String) (hub : Hub) (k : Nat) (key : String) : SyncPoint → Prop
  | .putting _ => ∀ entry ∈ (hub.registry.instances cluster)[key]?,
    entry.session ≠ k → ¬ hub.Pushing cluster entry.session
  | .starting => hub.registry.leader cluster = some k
  | _ => True

/-- The condition on an event, for one cluster. -/
def InOrder (cluster : String) (hub : Hub) : SyncEvent → Prop
  | .advance k _ => ∀ ss ∈ hub.sessions[k]?, ss.cluster = cluster →
    MayPass cluster hub k ss.key ss.point
  | _ => True

/-- The next step of a stream keeps the invariant. -/
theorem paired_advance (h : Paired cluster hub) (now : Time) (hss : hub.sessions[k]? = some ss)
    (horder : InOrder cluster hub (.advance k now)) : Paired cluster (hub.advance k ss now) := by
  have hstopped : ∀ j, (hub.stopPush j).sessions[k]? = some
      (if j = k then { ss with push := ss.push.stopPush } else ss) := by
    intro j
    rw [Hub.stopPush, getElem?_modify, hss]
    split <;> rfl
  have hpass := horder ss hss
  unfold Hub.advance
  cases hpoint : ss.point with
  | receiving => exact h
  | closed => exact h
  | putting role =>
    rw [hpoint] at hpass
    exact h.put hss hpoint now fun hcluster => hpass hcluster
  | demoting session rest =>
    refine (h.stopPush session).moveTo (hstopped session) (fun _ j hj hpushing => ?_)
      fun hended => absurd hended (not_ended_afterPut .leader rest)
    rw [stops_afterPut]
    have hpoint' : (if session = k then { ss with push := ss.push.stopPush } else ss).point =
        .demoting session rest := by
      split <;> exact hpoint
    rw [hpoint'] at hj
    rcases List.mem_cons.mp hj with rfl | hrest
    · exact absurd hpushing (not_pushing_stopPush hub cluster j)
    · exact hrest
  | checking =>
    refine h.moveOn hss (by rw [hpoint]; rfl) fun hended => ?_
    split at hended <;> rcases hended with heq | heq <;> cases heq
  | starting =>
    rw [hpoint] at hpass
    have hstart := h.startPush hss
      (fun hcluster => (SessionRegistry.leader_eq_some_iff h.oneLeader).mp (hpass hcluster))
      (by simp [hpoint, Ended])
    have hk : (hub.startPush k).sessions[k]? =
        some { ss with push := ss.push.startPush ss.contextDone } := by
      rw [Hub.startPush, getElem?_modify, if_pos rfl, hss]
      rfl
    exact hstart.moveOn hk (show ss.point.stops k = [] by rw [hpoint]; rfl)
      (by simp [Ended])
  | stopping =>
    have hquiet := not_pushing_stopPush hub cluster k
    have hk := hstopped k
    rw [if_pos rfl] at hk
    refine (h.stopPush k).moveTo hk (fun _ j hj hpushing => ?_) (by simp [Ended])
    change j ∈ ss.point.stops k at hj
    rw [hpoint] at hj
    rw [List.mem_singleton.mp hj] at hpushing
    exact absurd hpushing hquiet
  | closing =>
    have hk := hstopped k
    rw [if_pos rfl] at hk
    exact (h.stopPush k).moveOn hk (show ss.point.stops k = [] by rw [hpoint]; rfl)
      fun _ => ss.push.not_pushing_stopPush
  | removing =>
    have hquiet := h.ended k ss hss (.inl hpoint)
    have hremoved : Paired cluster
        { hub with registry := hub.registry.remove ss.cluster ss.key k } := by
      refine h.remove (fun hpushing => ?_) ss.cluster ss.key
      obtain ⟨ss', hss', _, hpush⟩ := hpushing
      rw [hss] at hss'
      cases hss'
      exact hquiet hpush
    exact hremoved.moveOn hss (by rw [hpoint]; rfl) fun _ => hquiet

theorem paired_step (h : Paired cluster hub) (e : SyncEvent) (horder : InOrder cluster hub e) :
    Paired cluster (hub.step e) := by
  have hidle : ∀ (k : Nat) (ss : SyncSession) (point : SyncPoint), hub.sessions[k]? = some ss →
      ss.point = .receiving → ¬ point.Ended → Paired cluster (hub.moveTo k point) := by
    intro k ss point hss hpoint hnot
    exact h.moveOn hss (by rw [hpoint]; rfl) fun hended => absurd hended hnot
  cases e with
  | opened cluster' first =>
    unfold Hub.step
    dsimp only
    split
    · exact h
    · exact h.opened cluster' _ _
  | heartbeat k role =>
    unfold Hub.step
    dsimp only
    split
    · rename_i ss role hss _
      split
      · rename_i hpoint
        exact hidle k ss _ hss hpoint (by simp [Ended])
      · exact h
    · exact h
  | advance k now =>
    unfold Hub.step
    dsimp only
    split
    · rename_i ss hss
      exact paired_advance h now hss horder
    · exact h
  | ended k =>
    unfold Hub.step
    dsimp only
    split
    · rename_i ss hss
      split
      · rename_i hpoint
        exact hidle k ss _ hss hpoint (by simp [Ended])
      · exact h
    · exact h
  | contextDone k =>
    exact h.quieter k (fun _ => rfl) (fun _ => rfl) fun _ => PushState.pushing_of_contextDone
  | loopReturned k sequence =>
    exact h.quieter k (fun _ => rfl) (fun _ => rfl) fun _ => PushState.pushing_of_loopReturned
  | loopFinished k sequence =>
    exact h.quieter k (fun _ => rfl) (fun _ => rfl) fun _ => PushState.pushing_of_loopFinished

theorem paired_init (cluster : String) : Paired cluster {} := by
  refine ⟨fun key _ entry _ hentry => ?_, fun k hpushing => ?_, fun k ss hss => ?_⟩
  · cases (Std.ExtTreeMap.getElem?_empty (a := key)).symm.trans hentry
  · obtain ⟨ss, hss, _⟩ := hpushing
    cases hss
  · cases hss

/-- In every run whose steps are in order, a cluster has a single pusher whenever none
of its `updateRole` calls is in progress. -/
theorem single_pusher (cluster : String) {events : List SyncEvent}
    (hguard : Guarded (InOrder cluster) Hub.step {} events) :
    (run Hub.step {} events).SinglePusher cluster := by
  have hpaired := run_invariant (I := Paired cluster) (fun _ e h horder => paired_step h e horder)
    (paired_init cluster) hguard
  exact singlePusher_of_paired hpaired

/-! ## A replaced session, and a claim that is overtaken -/

instance (hub : Hub) (cluster : String) : Decidable (hub.Idle cluster) :=
  inferInstanceAs (Decidable (∀ ss ∈ hub.sessions, _))

instance (hub : Hub) (cluster : String) (k : Nat) : Decidable (hub.Pushing cluster k) :=
  match h : hub.sessions[k]? with
  | none => .isFalse fun ⟨_, hss, _⟩ => Option.some_ne_none _ (hss.symm.trans h)
  | some ss => decidable_of_iff (ss.cluster = cluster ∧ ss.push.Pushing)
      ⟨fun hpushing => ⟨ss, h, hpushing⟩, fun ⟨_, hss, hpushing⟩ =>
        Option.some.inj (h.symm.trans hss) ▸ hpushing⟩

instance (cluster : String) (hub : Hub) (k : Nat) (key : String) :
    (point : SyncPoint) → Decidable (MayPass cluster hub k key point)
  | .putting _ => inferInstanceAs (Decidable (∀ entry ∈ (hub.registry.instances cluster)[key]?, _))
  | .starting => inferInstanceAs (Decidable (hub.registry.leader cluster = some k))
  | .receiving | .demoting _ _ | .checking | .stopping | .closing | .removing | .closed =>
    .isTrue trivial

instance (cluster : String) (hub : Hub) : (e : SyncEvent) → Decidable (InOrder cluster hub e)
  | .advance k _ => inferInstanceAs (Decidable (∀ ss ∈ hub.sessions[k]?, _))
  | .opened _ _ | .heartbeat _ _ | .ended _ | .contextDone _ | .loopReturned _ _
  | .loopFinished _ _ => .isTrue trivial

/-- A leading stream of an instance opens and makes the steps of its first
`updateRole`. -/
def leads (k : Nat) (instanceName : String) : List SyncEvent :=
  [.opened "prod" (.identity instanceName "leader"), .advance k 0, .advance k 0, .advance k 0]

/-- A leader is replaced by another instance, one stream after the other. -/
theorem single_pusher_handover :
    let hub := run Hub.step {} (leads 0 "a" ++ leads 1 "b" ++ [.advance 1 0])
    hub.Pushing "prod" 1 ∧ hub.SinglePusher "prod" := by
  intro hub
  exact ⟨by decide +kernel, single_pusher "prod" (by decide +kernel)⟩

/-- A second stream of an instance opens while the first one is still open. -/
def secondStream : List SyncEvent :=
  leads 0 "a" ++ leads 1 "a"

/-- The first instance has found itself leading when the second one takes over, and
starts its loop afterwards. -/
def overtaken : List SyncEvent :=
  [.opened "prod" (.identity "a" "leader"), .advance 0 0, .advance 0 0] ++
    leads 1 "b" ++ [.advance 1 0, .advance 0 0]

/-- In both runs two sessions push, although no `updateRole` call is in progress. -/
theorem two_pushers : ¬ (run Hub.step {} secondStream).SinglePusher "prod" ∧
      ¬ (run Hub.step {} overtaken).SinglePusher "prod" := by
  constructor
  · intro h
    exact absurd ((h (by decide +kernel)).2 0 1 (by decide +kernel) (by decide +kernel))
      Nat.zero_ne_one
  · intro h
    exact absurd ((h (by decide +kernel)).2 0 1 (by decide +kernel) (by decide +kernel))
      Nat.zero_ne_one

end Hub

end KubeSentry.Gateway
