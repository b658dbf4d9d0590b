import KubeSentry.Hublink.Apply

/-!
# Applying a snapshot keeps statuses

The status of an exception belongs to the reconciler.  A snapshot writes
labels, annotations and specs, and it prunes.  `StatusKept` says what that
leaves of a status: under a name, the later store holds nothing, or an object
with the status the earlier store had.

The one write of `applyDesiredState` that makes a new status is a create, so
the result `applyDesiredState_statusKept` has one condition: an exception that
the snapshot carries is already on the member.
-/

namespace KubeSentry.Hublink

open GoLib Operator Gateway

/-- Under `name` the later store holds nothing, or an object with the status of
the earlier one. -/
def StatusKept (name : String) (before after : GoMap PolicyException) : Prop :=
  ∀ e', after[name]? = some e' → ∃ e, before[name]? = some e ∧ e'.status = e.status

theorem StatusKept.refl (name : String) (store : GoMap PolicyException) :
    StatusKept name store store :=
  fun e' he' => ⟨e', he', rfl⟩

variable {name key : String} {before store : GoMap PolicyException} {e : PolicyException}
  {a b c : GoMap PolicyException}

theorem StatusKept.trans (hab : StatusKept name a b) (hbc : StatusKept name b c) :
    StatusKept name a c := by
  intro e' he'
  obtain ⟨e, he, hstatus⟩ := hbc e' he'
  obtain ⟨e0, he0, hstatus0⟩ := hab e he
  exact ⟨e0, he0, hstatus.trans hstatus0⟩

variable {e' : PolicyException}

section

variable (h : StatusKept name before store)

include h

/-- An insert keeps statuses when it takes its status from the earlier store. -/
theorem StatusKept.insert (hbefore : key = name → before[name]? = some e)
    (hstatus : e'.status = e.status) : StatusKept name before (store.insert key e') := by
  intro found hfound
  rcases getElem?_insert_some.mp hfound with ⟨hkey, heq⟩ | ⟨_, hold⟩
  · exact ⟨e, hbefore hkey, heq ▸ hstatus⟩
  · exact h found hold

/-! ## Prune -/

/-- A delete keeps statuses, relative to a store that holds the object. -/
theorem StatusKept.delete {store' : GoMap PolicyException} {faults : ApiFaults} {now : Time}
    (he : before[key]? = some e)
    (hdelete : policyExceptions.delete faults now key e store = .ok store') :
    StatusKept name before store' := by
  rcases policyExceptions.delete_cases faults now key e store with ⟨err, herr⟩ | hgone | ⟨t, hmark⟩
  · rw [herr] at hdelete
    exact absurd hdelete (by simp)
  · rw [hgone] at hdelete
    cases hdelete
    exact fun found hfound => h found (getElem?_erase_some.mp hfound).2
  · rw [hmark] at hdelete
    cases hdelete
    refine h.insert (e := e) ?_ rfl
    intro hkey
    rw [← hkey]
    exact he

end

theorem pruneStore_statusKept (name : String) (faults : ApiFaults) (now : Time)
    (text : String) (keep : String → Bool) (store : GoMap PolicyException) :
    StatusKept name store (pruneStore policyExceptions faults now text keep store).1 := by
  refine List.foldlRecOn _ _
    (motive := fun acc : GoMap PolicyException × List String => StatusKept name store acc.1)
    (.refl name store) ?_
  intro acc hacc e he
  have hstored : store[e.1]? = some e.2 :=
    (mem_toList_iff store e.1 e.2).mp (List.mem_of_mem_filter he)
  split
  · exact hacc
  · split
    · rename_i store' hdelete
      exact hacc.delete hstored hdelete
    · exact hacc

theorem pruneManaged_statusKept (name : String) (faults : ApiFaults) (now : Time)
    (inSnapshot : Kind → String → Bool) (m : Member) :
    StatusKept name m.exceptions (pruneManaged faults now inSnapshot m).1.exceptions := by
  rw [pruneManaged]
  split
  · exact .refl _ _
  · dsimp only
    split
    · exact .refl _ _
    · split
      · exact .refl _ _
      · exact pruneStore_statusKept name faults now _ _ m.exceptions

/-! ## Upsert -/

/-- What the upserts of a snapshot keep under `name`: the status, and the
object itself. -/
structure Kept (name : String) (before after : GoMap PolicyException) : Prop where
  status : StatusKept name before after
  present : name ∈ before → name ∈ after

theorem Kept.refl (name : String) (store : GoMap PolicyException) : Kept name store store :=
  ⟨.refl name store, id⟩

theorem Kept.trans (hab : Kept name a b) (hbc : Kept name b c) : Kept name a c :=
  ⟨hab.status.trans hbc.status, fun h => hbc.present (hab.present h)⟩

/-- An insert that keeps the status of a stored object. -/
theorem kept_insert (hbefore : key = name → store[name]? = some e)
    (hstatus : e'.status = e.status) : Kept name store (store.insert key e') where
  status := (StatusKept.refl name store).insert hbefore hstatus
  present h := Std.ExtTreeMap.mem_insert.mpr (.inr h)

variable [SpecDecoder] {obj : ManagedObject}

/-- An upsert of another name, or of a stored object, keeps what stands under
`name`. -/
theorem upsertPolicyException_kept (hpresent : obj.name = name → name ∈ store) (faults : ApiFaults)
    (now : Time) (traceID : String) :
    Kept name store (upsertPolicyException faults now traceID obj store).1 := by
  unfold upsertPolicyException upsertWith
  cases SpecDecoder.policyException obj.spec with
  | error err => exact Kept.refl name store
  | ok spec =>
    cases faults ⟨.get, policyExceptions.kind, obj.name⟩ with
    | some err => exact Kept.refl name store
    | none =>
      cases hstored : store[obj.name]? with
      | none =>
        -- A create: by the hypothesis it is the create of another name.
        have hne : obj.name ≠ name := by
          intro heq
          obtain ⟨e, he⟩ := (mem_iff_getElem? store name).mp (hpresent heq)
          rw [heq, he] at hstored
          exact absurd hstored (by simp)
        dsimp only
        rw [Resource.create]
        split
        · exact Kept.refl name store
        · refine kept_insert (e := policyExceptions.fresh _ spec) ?_ rfl
          intro heq
          exact absurd heq hne
      | some existing =>
        dsimp only
        split
        · exact Kept.refl name store
        · rw [Resource.update]
          split
          · exact Kept.refl name store
          · refine kept_insert (e := existing) ?_ rfl
            intro heq
            rw [← heq]
            exact hstored

variable [GoUnicode]

theorem upsertObject_kept {acc : Member × List String}
    (hpresent : obj.kind = .policyException → obj.name = name → name ∈ acc.1.exceptions)
    (faults : ApiFaults) (now : Time) (traceID : String) :
    Kept name acc.1.exceptions (upsertObject faults now traceID acc obj).1.exceptions := by
  rw [upsertObject]
  cases hkind : obj.kind with
  | policyException => exact upsertPolicyException_kept (hpresent hkind) faults now traceID
  | _ => exact Kept.refl name _

/-- A snapshot keeps the status under a name, if the name is on the member
whenever the snapshot carries it. -/
theorem applyDesiredState_statusKept {m : Member} {ds : DesiredState}
    (hpresent : (∃ o ∈ ds.objects, o.kind = .policyException ∧ o.name = name) → name ∈ m.exceptions)
    (faults : ApiFaults) (now : Time) :
    StatusKept name m.exceptions (applyDesiredState faults now m ds).1.exceptions := by
  unfold applyDesiredState
  refine StatusKept.trans ?_ (pruneManaged_statusKept name faults now _ _)
  refine (List.foldlRecOn _ _ (motive := fun acc : Member × List String =>
    Kept name m.exceptions acc.1.exceptions) (Kept.refl name m.exceptions) ?_).status
  intro acc hacc obj hobj
  refine hacc.trans (upsertObject_kept ?_ faults now ds.traceID)
  intro hkind hname
  apply hacc.present
  refine hpresent ⟨obj, ?_, hkind, hname⟩
  simp only [List.mem_append, List.mem_filter] at hobj
  tauto

end KubeSentry.Hublink
