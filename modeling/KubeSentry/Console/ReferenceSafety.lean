import KubeSentry.Console.PolicyReferences

/-!
# What the policy reference lock protects

Operations on policies and on groups run interleaved, call by call, and operations that take
the lock exclude each other.

* A policy of a tenant that a group of another owner uses is frozen: as long as it is used,
  its row stays as it is.  The reason is that every write of a policy was preceded, under
  the lock, by a check that found no such group, and no operation outside of the lock can
  make one.
* Members of groups are not always kept.  `Delete` asks for the effective members, and a
  policy that a group names and also excludes is none, so it can be deleted and leaves a name
  that `Resolve` reports as missing.  Runs that delete no such policy leave no missing
  member.
-/

namespace KubeSentry.Console

open GoLib Database PolicyService
open Operator.PolicyReconciler (RegoCompiler)

namespace ReferenceOp

section

variable [Apimachinery]

/-! ## One step -/

variable {op : ReferenceOp} {s s' : ConsoleState} {p : Stored PolicyColumns}

theorem Step.keeps_shared (h : Step op s s') (hp : p ∈ s.policies.rows) (hshared : Shared s p) :
    p ∈ s'.policies.rows := by
  cases h with
  | outside h => exact h.policies p hp
  | edited _ q _ _ hfree _ _ hothers =>
    refine hothers p hp fun heq => ?_
    rw [heq] at hshared
    exact hfree hshared
  | deleted _ q hq hfree _ hothers =>
    refine hothers p hp fun heq => ?_
    rw [heq] at hshared
    exact hfree.not_shared hq hshared
  | grouped _ hpolicies => exact hpolicies ▸ hp

/-- No group names the policy and excludes it. -/
def NotHidden (s : ConsoleState) (p : Stored PolicyColumns) : Prop :=
  ∀ g ∈ s.groups.rows, p.row.name ∈ g.row.spec.policies.exclude →
    ∀ ref ∈ g.row.spec.policies.byName, ref.name ≠ p.row.name

/-- A policy that is neither a member nor hidden is not named. -/
theorem NotHidden.not_named (h : NotHidden s p) (hfree : Unreferenced s p) {g : Stored GroupRow}
    (hg : g ∈ s.groups.rows) : ∀ ref ∈ g.row.spec.policies.byName, ref.name ≠ p.row.name := by
  intro ref href hname
  have hmember := hfree g hg
  by_cases hexclude : p.row.name ∈ g.row.spec.policies.exclude
  · exact h g hg hexclude ref href hname
  · unfold isMember at hmember
    rw [decide_eq_true hexclude, decide_eq_true ⟨ref, href, hname⟩] at hmember
    cases hmember

theorem Step.named (h : Step op s s') (hnamed : ∀ g ∈ s.groups.rows, Named s.policies g.row.spec)
    (hdeletes : ∀ p ∈ s.policies.rows, (∀ q ∈ s'.policies.rows, q.id ≠ p.id) → NotHidden s p) :
    ∀ g ∈ s'.groups.rows, Named s'.policies g.row.spec := by
  cases h with
  | outside h =>
    intro g' hg' ref href
    obtain ⟨g, hg, _, hspec⟩ := h.groups g' hg'
    exact (hnamed g hg).outside h ref (hspec ▸ href)
  | edited _ p p' _ _ hp' hname hothers hgroups =>
    intro g hg ref href
    rw [hgroups] at hg
    obtain ⟨q, hq, hqname⟩ := hnamed g hg ref href
    by_cases heq : q = p
    · exact ⟨p', hp', hname.trans (heq ▸ hqname)⟩
    · exact ⟨q, hothers q hq heq, hqname⟩
  | deleted _ p hp hfree hgone hothers hgroups =>
    intro g hg ref href
    rw [hgroups] at hg
    obtain ⟨q, hq, hqname⟩ := hnamed g hg ref href
    have hne : q ≠ p := fun heq =>
      (hdeletes p hp hgone).not_named hfree hg ref href (heq ▸ hqname.symm)
    exact ⟨q, hothers q hq hne, hqname⟩
  | grouped _ hpolicies hgroups =>
    intro g' hg'
    rw [hpolicies]
    rcases hgroups g' hg' with hold | hnew
    · exact hnamed g' hold
    · exact hnew

end

/-! ## Runs -/

section

variable [GoUnicode] [Apimachinery] [NameValidation] [RegoCompiler]

/-- Operations run interleaved. -/
def step (pool : Pool ReferenceOp ConsoleState DbInput) (e : PoolEvent ReferenceOp DbInput) :
    Pool ReferenceOp ConsoleState DbInput :=
  pool.step (fun _ => ()) code e

/-- Every event of a run under the lock is a step. -/
theorem run_step {I : ConsoleState → Prop}
    {allowed good : Pool ReferenceOp ConsoleState DbInput → PoolEvent ReferenceOp DbInput → Prop}
    (hallowed : ∀ pool e, allowed pool e → pool.Excluding excludes e)
    (hstep : ∀ pool e op, I pool.shared → allowed pool e →
      Step op pool.shared (step pool e).shared → I (step pool e).shared ∧ good pool e)
    {start : ConsoleState} (hstart : I start) {events : List (PoolEvent ReferenceOp DbInput)}
    (hguard : Guarded allowed step { shared := start } events) :
    Guarded good step { shared := start } events ∧
      I (run step { shared := start } events).shared := by
  refine run_exclusive Relies.refl Relies.trans (fun op => Does.relies op) ensures_code hallowed ?_
    hstart hguard
  intro pool e hshared hok htakes
  rcases htakes with hsame | ⟨_, _, t, _, _, hdoes⟩
  · have hnothing : Step (.deleteGroup .systemAdmin "") pool.shared (step pool e).shared := by
      have heq : (step pool e).shared = pool.shared := hsame
      rw [heq]
      exact .outside (.refl _)
    exact hstep pool e _ hshared hok hnothing
  · exact hstep pool e t.op hshared hok hdoes.2

/-- While a policy of a tenant is a member of a group of another owner, its row stays as it
is, with the stamp and every column.  The step that ends the membership keeps it too. -/
theorem shared_policy_frozen {start : ConsoleState}
    {before after : List (PoolEvent ReferenceOp DbInput)}
    (hlock : Guarded (Pool.Excluding excludes) step { shared := start } (before ++ after))
    {p : Stored PolicyColumns} (hp : p ∈ (run step { shared := start } before).shared.policies.rows)
    (hshared : ∀ k < after.length,
      Shared (run step { shared := start } (before ++ after.take k)).shared p) :
    p ∈ (run step { shared := start } (before ++ after)).shared.policies.rows := by
  have hsteps : Guarded (fun pool e => p ∈ pool.shared.policies.rows → Shared pool.shared p →
      p ∈ (step pool e).shared.policies.rows) step { shared := start } (before ++ after) :=
    (run_step (I := fun _ => True) (fun _ _ h => h)
      (fun _ _ _ _ _ h => ⟨trivial, fun hp hshared => h.keeps_shared hp hshared⟩) trivial hlock).1
  rw [run_append]
  refine guarded_keeps
    (P := fun pool : Pool ReferenceOp ConsoleState DbInput => p ∈ pool.shared.policies.rows)
    (Q := fun pool => Shared pool.shared p) (guarded_append.mp hsteps).2 hp fun k hk => ?_
  rw [← run_append]
  exact hshared k hk

end

section

attribute [local instance] GoUnicode.ascii Apimachinery.basic NameValidation.lenient
  RegoCompiler.lenient

/-- The next `n` calls of a thread. -/
def calls (thread n : Nat) : List (PoolEvent ReferenceOp DbInput) :=
  List.replicate n (.advance thread [])

def groupRequest (exclude : List String) : PolicyGroupService.PolicyGroupInput :=
  { name := some "g"
    enabled := true
    policies := { byName := [{ name := "p" }], exclude := exclude }
    allClusters := some true }

/-- A tenant creates a policy, and a group of the system names it. -/
def share (exclude : List String) : List (PoolEvent ReferenceOp DbInput) :=
  [.spawn (.policy (.create (.tenantAdmin 1) (policyRequest "package a"))),
    .spawn (.createGroup .systemAdmin (groupRequest exclude))] ++ calls 0 1 ++ calls 1 5

/-- The tenant updates the policy while the group is switched off. -/
def updateShared : List (PoolEvent ReferenceOp DbInput) :=
  [.spawn (.policy (.update (.tenantAdmin 1) "p" (policyRequest "package b"))),
    .spawn (.setGroupEnabled .systemAdmin "g" false)] ++ calls 2 2 ++ calls 3 2 ++ calls 2 3

theorem shared_policy_frozen_update : ∃ p : Stored PolicyColumns, p.row.rego = "package a" ∧
    p ∈ (run step { shared := .empty } (share [] ++ updateShared)).shared.policies.rows := by
  have hrows : ((run step { shared := .empty } (share [])).shared.policies.rows.map fun p =>
      (p.row.owner, p.row.name, p.row.rego)) = [(.tenant 1, "p", "package a")] := by
    decide +kernel
  obtain ⟨p, hp, heq⟩ := List.mem_map.mp (hrows ▸ List.mem_singleton_self _)
  obtain ⟨howner, hname, hrego⟩ :
      p.row.owner = .tenant 1 ∧ p.row.name = "p" ∧ p.row.rego = "package a" := by
    simpa only [Prod.mk.injEq] using heq
  have hmember : ∀ k < updateShared.length,
      ∃ g ∈ (run step { shared := .empty } (share [] ++ updateShared.take k)).shared.groups.rows,
        g.row.owner ≠ .tenant 1 ∧ hasMember g.row.spec (policyList
          (run step { shared := .empty }
            (share [] ++ updateShared.take k)).shared.policies.rows) "p" = true := by
    decide +kernel
  refine ⟨p, hrego, shared_policy_frozen (by decide +kernel) hp fun k hk => ⟨1, howner, ?_⟩⟩
  rw [hname]
  exact hmember k hk

end

/-! ## Missing members -/

section

variable [GoUnicode] [Apimachinery] [NameValidation] [RegoCompiler]

/-- The event deletes no policy that a group names and excludes. -/
def DeletesNoHidden (pool : Pool ReferenceOp ConsoleState DbInput)
    (e : PoolEvent ReferenceOp DbInput) : Prop :=
  ∀ p ∈ pool.shared.policies.rows,
    (∀ q ∈ (step pool e).shared.policies.rows, q.id ≠ p.id) → NotHidden pool.shared p

/-- In every run under the lock that deletes no policy that a group names and excludes, every
stored group resolves without a missing member. -/
theorem no_missing_member {start : ConsoleState}
    (hstart : ∀ g ∈ start.groups.rows, Resolves start.policies g.row.spec)
    {events : List (PoolEvent ReferenceOp DbInput)}
    (hguard : Guarded (fun pool e => pool.Excluding excludes e ∧ DeletesNoHidden pool e) step
      { shared := start } events) :
    ∀ g ∈ (run step { shared := start } events).shared.groups.rows,
      Resolves (run step { shared := start } events).shared.policies g.row.spec := by
  have hnamed : ∀ g ∈ start.groups.rows, Named start.policies g.row.spec := fun g hg =>
    (resolves_iff_named _ _).mp (hstart g hg)
  have hrun := (run_step (I := fun s => ∀ g ∈ s.groups.rows, Named s.policies g.row.spec)
    (fun _ _ h => h.1) (fun _ _ _ hI hok h => ⟨h.named hI hok.2, trivial⟩) hnamed
    hguard : Guarded Any step _ events ∧ _).2
  exact fun g hg => (resolves_iff_named _ _).mpr (hrun g hg)

instance (pool : Pool ReferenceOp ConsoleState DbInput) (e : PoolEvent ReferenceOp DbInput) :
    Decidable (DeletesNoHidden pool e) :=
  inferInstanceAs (Decidable (∀ p ∈ pool.shared.policies.rows,
    (∀ q ∈ (step pool e).shared.policies.rows, q.id ≠ p.id) →
      ∀ g ∈ pool.shared.groups.rows, p.row.name ∈ g.row.spec.policies.exclude →
        ∀ ref ∈ g.row.spec.policies.byName, ref.name ≠ p.row.name))

end

attribute [local instance] GoUnicode.ascii Apimachinery.basic NameValidation.lenient
  RegoCompiler.lenient

/-- The tenant deletes the policy. -/
def deleteShared : List (PoolEvent ReferenceOp DbInput) :=
  .spawn (.policy (.delete (.tenantAdmin 1) "p")) :: calls 2 5

/-- The policy that a group names cannot be deleted. -/
theorem no_missing_member_named :
    (run step { shared := .empty } (share [] ++ deleteShared)).shared.groups.rows.length = 1 ∧
      ∀ g ∈ (run step { shared := .empty } (share [] ++ deleteShared)).shared.groups.rows,
        Resolves (run step { shared := .empty } (share [] ++ deleteShared)).shared.policies
          g.row.spec :=
  ⟨by decide +kernel,
    no_missing_member (fun _ hg => absurd hg List.not_mem_nil) (by decide +kernel)⟩

/-- A group names a policy and excludes it.  It resolves, and the policy can be deleted. -/
theorem excluded_member_missing :
    Guarded (Pool.Excluding excludes) step { shared := .empty } (share ["p"] ++ deleteShared) ∧
      (∀ g ∈ (run step { shared := .empty } (share ["p"])).shared.groups.rows,
        Resolves (run step { shared := .empty } (share ["p"])).shared.policies g.row.spec) ∧
      ∃ g ∈ (run step { shared := .empty } (share ["p"] ++ deleteShared)).shared.groups.rows,
        ¬ Resolves (run step { shared := .empty } (share ["p"] ++ deleteShared)).shared.policies
          g.row.spec := by
  unfold Resolves
  decide +kernel

end ReferenceOp

end KubeSentry.Console
