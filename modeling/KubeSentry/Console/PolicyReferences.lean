import KubeSentry.Console.GroupService
import KubeSentry.GoLib.Exclusive

/-!
# Groups that refer to policies

A group names policies and selects others by label, and its effective members are what
`Resolve` makes of both.  `PolicyService` asks for the members before it writes a policy,
and `PolicyGroupService` asks for the policies before it writes a group.  Between such a
read and the write other operations run.

Membership of a policy depends on the row of the policy and on the member list of the
group, and on nothing else (`hasMember_eq_isMember`).  The operations that do not take the
policy reference lock keep every policy and give no group a new member list (`Outside`).  So
what was read under the lock still holds at the write.

* `Step` is what one call of an operation does to policies and groups.
* `ensures_code` says so for every operation, whatever the others do in between.
-/

namespace KubeSentry.Console

open GoLib Fallible Database GroupResolve PolicyService PolicyGroupService RowStore
open Operator.PolicyReconciler (RegoCompiler)

/-! ## Membership -/

/-- The names of the policies in a table are distinct. -/
theorem nodup_names (t : RowStore policyKeys) : (t.rows.map fun p => p.row.name).Nodup := by
  rw [List.map_eq_flatMap]
  exact t.unique

theorem isSome_lastRef (refs : List PolicyRef) (name : String) :
    (lastRef refs name).isSome = decide (∃ ref ∈ refs, ref.name = name) := by
  rw [lastRef, Bool.eq_iff_iff, List.find?_isSome, decide_eq_true_eq]
  simp only [List.mem_reverse, decide_eq_true_eq]

theorem isNone_indexBy_policyList (policies : RowStore policyKeys) (name : String) :
    (indexBy (fun p : Policy => p.name) (policyList policies.rows))[name]?.isNone = true ↔
      ∀ p ∈ policies.rows, p.row.name ≠ name := by
  rw [isNone_getElem?_indexBy, decide_eq_true_eq]
  simp [policyList]

section

variable [Apimachinery]

/-- Whether a group makes a policy a member. -/
def isMember (spec : PolicyGroupSpec) (p : PolicyColumns) : Bool :=
  decide (p.name ∉ spec.policies.exclude) &&
    (decide (∃ ref ∈ spec.policies.byName, ref.name = p.name) ||
      selects spec { name := p.name, labels := p.labels })

theorem isMember_congr {spec spec' : PolicyGroupSpec} (h : spec'.policies = spec.policies)
    (p : PolicyColumns) : isMember spec' p = isMember spec p := by
  unfold isMember selects
  rw [h]

theorem isSome_memberOf (spec : PolicyGroupSpec) {pol : Policy} {p : PolicyColumns}
    (hname : pol.name = p.name) (hlabels : pol.labels = p.labels) :
    (memberOf spec pol).isSome = (decide (∃ ref ∈ spec.policies.byName, ref.name = p.name) ||
        selects spec { name := p.name, labels := p.labels }) := by
  have hselects : selects spec pol = selects spec { name := p.name, labels := p.labels } := by
    unfold selects
    rw [hlabels]
  have hlast := isSome_lastRef spec.policies.byName p.name
  unfold memberOf
  rw [hname, hselects, ← hlast]
  cases lastRef spec.policies.byName p.name with
  | some ref => rfl
  | none =>
    cases selects spec { name := p.name, labels := p.labels } <;> rfl

variable {p : Stored PolicyColumns} {t : RowStore policyKeys}

theorem hasMember_eq_isMember {f : Stored PolicyColumns → Policy}
    (hname : ∀ p, (f p).name = p.row.name) (hlabels : ∀ p, (f p).labels = p.row.labels)
    (spec : PolicyGroupSpec) (hp : p ∈ t.rows) :
    hasMember spec (t.rows.map f) p.row.name = isMember spec p.row := by
  have hnames : (t.rows.map f).map (fun p => p.name) = t.rows.map fun p => p.row.name := by
    rw [List.map_map]
    exact List.map_congr_left fun p _ => hname p
  have hnodup : ((t.rows.map f).map fun p => p.name).Nodup := hnames ▸ nodup_names t
  have hfind : (t.rows.map f).find? (fun q => q.name = p.row.name) = some (f p) := by
    rw [← hname p]
    exact Table.lookup_of_mem hnodup (List.mem_map_of_mem hp)
  have hmember : hasMember spec (t.rows.map f) p.row.name = true ↔
      ((resolvedMembers spec (t.rows.map f)).1[p.row.name]?).isSome := by
    rw [← Std.ExtTreeMap.mem_iff_isSome_getElem?, ← mem_names_resolve_iff spec hnodup]
    unfold hasMember
    rw [List.any_eq_true, List.mem_map]
    simp only [decide_eq_true_eq]
  rw [Bool.eq_iff_iff, hmember, getElem?_resolvedMembers spec hnodup, hfind, Option.bind_some]
  unfold isMember
  rw [← isSome_memberOf spec (hname p) (hlabels p)]
  by_cases hexclude : p.row.name ∈ spec.policies.exclude
  · simp [hexclude]
  · simp [hexclude]

theorem hasMember_policyList (spec : PolicyGroupSpec) (hp : p ∈ t.rows) :
    hasMember spec (policyList t.rows) p.row.name = isMember spec p.row :=
  hasMember_eq_isMember (fun _ => rfl) (fun _ => rfl) spec hp

theorem hasMember_resolvePolicies (spec : PolicyGroupSpec) (hp : p ∈ t.rows) :
    hasMember spec (resolvePolicies t.rows) p.row.name = isMember spec p.row :=
  hasMember_eq_isMember (fun _ => rfl) (fun _ => rfl) spec hp

/-! ## Named policies -/

/-- `Resolve` reports no missing member. -/
def Resolves (policies : RowStore policyKeys) (spec : PolicyGroupSpec) : Prop :=
  ∀ condition ∈ (resolve spec (policyList policies.rows)).2, condition.type ≠ .missingMember

/-- Every policy that the group names is stored. -/
def Named (policies : RowStore policyKeys) (spec : PolicyGroupSpec) : Prop :=
  ∀ ref ∈ spec.policies.byName, ∃ p ∈ policies.rows, p.row.name = ref.name

theorem resolves_iff_named (policies : RowStore policyKeys) (spec : PolicyGroupSpec) :
    Resolves policies spec ↔ Named policies spec := by
  unfold Resolves
  rw [show (resolve spec (policyList policies.rows)).2 =
    (resolvedMembers spec (policyList policies.rows)).2 from rfl, resolvedMembers_conditions]
  constructor
  · intro h ref href
    by_contra hmissing
    have hnone : ∀ p ∈ policies.rows, p.row.name ≠ ref.name := fun p hp hname =>
      hmissing ⟨p, hp, hname⟩
    refine h (missingMember ref.name) (List.mem_append_left _ (List.mem_map.mpr ⟨ref, ?_, rfl⟩)) rfl
    exact List.mem_filter.mpr ⟨href, (isNone_indexBy_policyList policies ref.name).mpr hnone⟩
  · intro h condition hcondition
    rcases List.mem_append.mp hcondition with hmissing | hselector
    · obtain ⟨ref, href, _⟩ := List.mem_map.mp hmissing
      obtain ⟨hmem, hnone⟩ := List.mem_filter.mp href
      obtain ⟨p, hp, hname⟩ := h ref hmem
      exact absurd hname ((isNone_indexBy_policyList policies ref.name).mp hnone p hp)
    · split at hselector
      · cases hselector
      · split at hselector
        · rw [List.mem_singleton.mp hselector]
          intro htype
          cases htype
        · cases hselector

/-! ## Shared policies -/

/-- A policy of a tenant is an effective member of a group of another owner. -/
def Shared (s : ConsoleState) (p : Stored PolicyColumns) : Prop :=
  ∃ tenant, p.row.owner = .tenant tenant ∧ ∃ g ∈ s.groups.rows, g.row.owner ≠ .tenant tenant ∧
    hasMember g.row.spec (policyList s.policies.rows) p.row.name = true

/-- No group has the policy as a member. -/
def Unreferenced (s : ConsoleState) (p : Stored PolicyColumns) : Prop :=
  ∀ g ∈ s.groups.rows, isMember g.row.spec p.row = false

theorem Unreferenced.not_shared {s : ConsoleState} {p : Stored PolicyColumns}
    (h : Unreferenced s p) (hp : p ∈ s.policies.rows) : ¬ Shared s p := by
  intro ⟨_, _, g, hg, _, hmember⟩
  rw [hasMember_policyList g.row.spec hp, h g hg] at hmember
  cases hmember

end

/-! ## Steps -/

/-- What the operations that do not take the lock do: they keep every policy, and a group
keeps its owner and its member list. -/
structure Outside (s s' : ConsoleState) : Prop where
  policies : ∀ p ∈ s.policies.rows, p ∈ s'.policies.rows
  groups : ∀ g' ∈ s'.groups.rows, ∃ g ∈ s.groups.rows, g'.row.owner = g.row.owner ∧
    g'.row.spec.policies = g.row.spec.policies

theorem Outside.refl (s : ConsoleState) : Outside s s :=
  ⟨fun _ hp => hp, fun g hg => ⟨g, hg, rfl, rfl⟩⟩

variable {s s' : ConsoleState}

theorem Outside.trans {s'' : ConsoleState} (h : Outside s s') (h' : Outside s' s'') :
    Outside s s'' := by
  refine ⟨fun p hp => h'.policies p (h.policies p hp), fun g'' hg'' => ?_⟩
  obtain ⟨g', hg', howner', hspec'⟩ := h'.groups g'' hg''
  obtain ⟨g, hg, howner, hspec⟩ := h.groups g' hg'
  exact ⟨g, hg, howner'.trans howner, hspec'.trans hspec⟩

theorem Named.outside {spec : PolicyGroupSpec} (hs : Outside s s') (h : Named s.policies spec) :
    Named s'.policies spec := by
  intro ref href
  obtain ⟨p, hp, hname⟩ := h ref href
  exact ⟨p, hs.policies p hp, hname⟩

section

variable [Apimachinery] {p : Stored PolicyColumns}

/-- A policy that is shared now was shared before. -/
theorem Shared.outside (hs : Outside s s') (hp : p ∈ s.policies.rows) (h : Shared s' p) :
    Shared s p := by
  obtain ⟨tenant, htenant, g', hg', howner', hmember⟩ := h
  obtain ⟨g, hg, howner, hspec⟩ := hs.groups g' hg'
  refine ⟨tenant, htenant, g, hg, howner ▸ howner', ?_⟩
  rw [hasMember_policyList _ (hs.policies p hp), isMember_congr hspec] at hmember
  rw [hasMember_policyList _ hp]
  exact hmember

theorem Unreferenced.outside (hs : Outside s s') (h : Unreferenced s p) : Unreferenced s' p := by
  intro g' hg'
  obtain ⟨g, hg, _, hspec⟩ := hs.groups g' hg'
  rw [isMember_congr hspec]
  exact h g hg

end

/-- The operations on policies and on groups. -/
inductive ReferenceOp where
  | policy (op : PolicyOp)
  | createGroup (actor : Principal) (req : PolicyGroupInput)
  | updateGroup (actor : Principal) (name : String) (req : PolicyGroupInput)
  | setGroupEnabled (actor : Principal) (name : String) (enabled : Bool)
  | deleteGroup (actor : Principal) (name : String)

namespace ReferenceOp

/-- The operation takes the policy reference lock. -/
def locked : ReferenceOp → Bool
  | .policy (.create _ _) => false
  | .policy _ => true
  | .createGroup _ _ => true
  | .updateGroup _ _ _ => true
  | .setGroupEnabled _ _ _ => false
  | .deleteGroup _ _ => false

variable (op : ReferenceOp)

/-- Two operations that take the lock are not under way together. -/
def excludes (op' : ReferenceOp) : Bool :=
  op.locked && op'.locked

section

variable [GoUnicode] [Apimachinery] [NameValidation] [RegoCompiler]

def prog : ReferenceOp → ServiceProg Unit
  | .policy op => op.prog
  | .createGroup actor req => PolicyGroupService.lockedCreate actor req
  | .updateGroup actor name req => PolicyGroupService.lockedUpdate actor name req
  | .setGroupEnabled actor name enabled => PolicyGroupService.setEnabled actor name enabled
  | .deleteGroup actor name => PolicyGroupService.delete actor name

def code (op : ReferenceOp) : Prog ConsoleState DbInput Unit :=
  op.prog.discard

end

/-- What an operation relies on while it runs. -/
def Relies (s s' : ConsoleState) : Prop :=
  s.groups.Evolves s'.groups ∧ (op.locked = true → Outside s s')

theorem Relies.refl (s : ConsoleState) : Relies op s s :=
  ⟨.refl _, fun _ => .refl s⟩

theorem Relies.trans (s s' s'' : ConsoleState) (h : Relies op s s')
    (h' : Relies op s' s'') : Relies op s s'' :=
  ⟨h.1.trans h'.1, fun hlocked => (h.2 hlocked).trans (h'.2 hlocked)⟩

variable [Apimachinery]

/-- What one call of an operation does to policies and groups. -/
inductive Step (op : ReferenceOp) (s s' : ConsoleState) : Prop where
  | outside (h : Outside s s')
  /-- A policy that is not shared gets new content. -/
  | edited (hlocked : op.locked = true) (p p' : Stored PolicyColumns) (hp : p ∈ s.policies.rows)
    (hfree : ¬ Shared s p) (hp' : p' ∈ s'.policies.rows) (hname : p'.row.name = p.row.name)
    (hothers : ∀ q ∈ s.policies.rows, q ≠ p → q ∈ s'.policies.rows) (hgroups : s'.groups = s.groups)
  /-- A policy that no group has as a member is deleted. -/
  | deleted (hlocked : op.locked = true) (p : Stored PolicyColumns) (hp : p ∈ s.policies.rows)
    (hfree : Unreferenced s p) (hgone : ∀ q ∈ s'.policies.rows, q.id ≠ p.id)
    (hothers : ∀ q ∈ s.policies.rows, q ≠ p → q ∈ s'.policies.rows) (hgroups : s'.groups = s.groups)
  /-- A group gets a member list that names stored policies. -/
  | grouped (hlocked : op.locked = true) (hpolicies : s'.policies = s.policies)
    (hgroups : ∀ g' ∈ s'.groups.rows, g' ∈ s.groups.rows ∨ Named s.policies g'.row.spec)

/-- Stamps of groups grow with every call. -/
def Does (s s' : ConsoleState) : Prop :=
  s.groups.Evolves s'.groups ∧ Step op s s'

theorem Does.refl (s : ConsoleState) : Does op s s :=
  ⟨.refl _, .outside (.refl s)⟩

/-- Operations that do not exclude each other can rely on each other. -/
theorem Does.relies (op' : ReferenceOp) (s s' : ConsoleState) (hx : excludes op op' = false)
    (h : Does op s s') : Relies op' s s' := by
  refine ⟨h.1, fun hlocked' => ?_⟩
  have hunlocked : op.locked = false := by
    rw [excludes, hlocked', Bool.and_true] at hx
    exact hx
  cases h.2 with
  | outside h => exact h
  | edited hlocked => exact absurd (hlocked.symm.trans hunlocked) Bool.noConfusion
  | deleted hlocked => exact absurd (hlocked.symm.trans hunlocked) Bool.noConfusion
  | grouped hlocked => exact absurd (hlocked.symm.trans hunlocked) Bool.noConfusion

/-! ## What the operations ensure -/

/-- What a part of an operation ensures while other operations run. -/
abbrev Ensures {E A : Type} (good : ConsoleState → A → Prop)
    (s0 : ConsoleState) (p : Fallible ConsoleState DbInput E A) : Prop :=
  Fallible.Ensures (Relies op) Any (Does op) good Any s0 p

variable {op : ReferenceOp} {s0 : ConsoleState} {A B : Type} {good : ConsoleState → B → Prop}
  {g : DbError → ServiceError}

/-- Under the lock, a part that only reads keeps what the others keep. -/
theorem ensures_past {E : Type} {P : ConsoleState → Prop} {p : Fallible ConsoleState DbInput E A}
    {f : A → Fallible ConsoleState DbInput E B} (hstable : ∀ s s', P s → Relies op s s' → P s')
    (hp : p.ReadOnly) (h : P s0) (hf : ∀ s a, P s → Ensures op good s (f a)) :
    Ensures op good s0 (p >>= f) :=
  Fallible.ensures_past (Does.refl op) hstable (fun _ _ _ => trivial) hp h hf

/-- A part whose result does not matter. -/
theorem ensures_pass {p : ServiceProg A} {f : A → ServiceProg B} (hp : p.ReadOnly)
    (hf : ∀ s a, Ensures op good s (f a)) : Ensures op good s0 (p >>= f) :=
  ensures_past (P := fun _ => True) (fun _ _ _ _ => trivial) hp trivial fun s a _ => hf s a

theorem ensures_withPolicyReferenceLock {good : ConsoleState → A → Prop} {body : ServiceProg A}
    (hbody : ∀ s, Ensures op good s body) : Ensures op good s0 (withPolicyReferenceLock body) :=
  ensures_pass (readOnly_mapError (readOnly_query _)) fun s _ => hbody s

/-! ### Without the lock -/

theorem ensures_createPolicy [NameValidation] [RegoCompiler] (actor : Principal)
    (req : PolicyInput) : Ensures op Any s0 (PolicyService.create actor req) := by
  refine ensures_check fun _ _ => ?_
  refine ensures_check fun _ _ => ?_
  refine ensures_mapError (ensures_createWithVersion (Does.refl op) ?_ fun _ _ _ _ _ => trivial)
  intro s i elapsed elapsed' policies versions _ _ hpolicies _
  refine ⟨⟨.refl _, .outside ⟨fun p hp => ?_, (Outside.refl s).groups⟩⟩, trivial⟩
  rw [(rows_insert hpolicies).1]
  exact List.mem_append_left _ hp

theorem ensures_getPolicy [GoUnicode] (name : String) :
    Ensures op (fun s p => p ∈ s.policies.rows) s0 ((getPolicyByName name).mapError g) :=
  ensures_mapError (ensures_getPolicyByName name (Does.refl op)
    (fun _ _ _ _ _ hp _ => hp) fun _ _ _ _ _ => trivial)

/-- The group that is switched is the one that was read, because its stamp is. -/
theorem ensures_setGroupEnabled (actor : Principal) (name : String) (enabled : Bool) :
    Ensures op Any s0 (PolicyGroupService.setEnabled actor name enabled) := by
  have hvisible : Ensures op (fun s g => g ∈ s.groups.rows) s0
      ((visibleGroup actor name).mapError (notFoundOr "")) :=
    ensures_mapError (ensures_visibleIn actor name rfl (Does.refl op)
      (fun _ _ _ _ _ hg _ => hg) fun _ _ _ _ _ => trivial)
  refine ensures_try hvisible ?_
  intro s1 g hg
  refine ensures_check fun _ _ => ?_
  refine ensures_ite (fun _ => trivial) fun _ => ?_
  refine ensures_mapError (ensures_execute (Does.refl op) ?_)
  intro s i s' a hs _ hwrite
  obtain ⟨groups, hcas, hreturn⟩ := bind_ok hwrite
  cases hreturn
  have hwritten := orError_ok hcas
  obtain ⟨⟨r, hr, hid, hstamp⟩, _⟩ := cas_some hwritten
  have hsame : r = g := hs.1.eq_of_stamp hg hr hid hstamp
  refine ⟨⟨evolves_cas hwritten, .outside ⟨fun _ hp => hp, fun g' hg' => ?_⟩⟩, trivial⟩
  obtain ⟨old, hold, heq⟩ := (mem_rows_cas hwritten).mp hg'
  refine ⟨old, hold, ?_⟩
  rw [heq]
  split
  · rename_i hid'
    have hold' : old = g := hsame ▸ s.groups.eq_of_id hold hr (hid'.trans hid.symm)
    rw [hold']
    exact ⟨rfl, rfl⟩
  · exact ⟨rfl, rfl⟩

theorem ensures_deleteGroup (actor : Principal) (name : String) :
    Ensures op Any s0 (PolicyGroupService.delete actor name) := by
  refine ensures_try (?_ : Ensures op Any s0 _) fun _ _ _ => ?_
  · refine ensures_guard fun _ => ?_
    refine ensures_pass (readOnly_mapError (readOnly_visibleGroup _ _))
      fun s1 g => ?_
    refine ensures_check fun _ _ => ?_
    have hdelete : Ensures op Any s1
        ((Console.deleteGroup g.id).mapError ServiceError.database) := by
      refine ensures_mapError (ensures_execute (Does.refl op) ?_)
      intro s i s' a _ _ hwrite
      cases hwrite
      refine ⟨⟨evolves_delete _ _, .outside ⟨fun _ hp => hp, fun g' hg' => ?_⟩⟩, trivial⟩
      exact ⟨g', (mem_rows_delete.mp hg').1, rfl, rfl⟩
    exact ensures_try hdelete fun _ _ _ => trivial
  · exact ensures_mapError (ensures_deleteScopeRow
      (P := fun _ => True) (Does.refl op)
      (fun s _ => ⟨.refl _, .outside ⟨fun _ hp => hp, (Outside.refl s).groups⟩⟩)
      (fun _ _ _ _ => trivial) (fun _ _ _ => trivial) trivial)

theorem named_of_validatePolicyGroupMembers [GoUnicode] {spec : PolicyGroupSpec}
    {policies : RowStore policyKeys}
    (h : validatePolicyGroupMembers spec (policyList policies.rows) = .ok ()) :
    Named policies spec := by
  unfold validatePolicyGroupMembers at h
  dsimp only at h
  split at h
  · cases h
  · rename_i hissues
    have hnone : (resolve spec (policyList policies.rows)).2 = [] :=
      List.map_eq_nil_iff.mp (not_not.mp hissues)
    refine (resolves_iff_named policies spec).mp fun condition hcondition => ?_
    rw [hnone] at hcondition
    cases hcondition

theorem ensures_validateMembers [GoUnicode] (spec : PolicyGroupSpec) :
    Ensures op (fun s _ => Named s.policies spec) s0 (validateMembers spec) := by
  have hlist : Ensures op (fun s policies => policies = s.policies.rows) s0
      (listPolicies.mapError ServiceError.database) :=
    ensures_mapError (ensures_list rfl (Does.refl op) fun _ _ _ _ => rfl)
  refine ensures_try hlist ?_
  intro s policies hpolicies
  rw [hpolicies]
  exact ensures_ofExcept (fun _ h => named_of_validatePolicyGroupMembers h) fun _ _ => trivial

/-- The scope of a group is none of its members. -/
theorem ensures_syncScope [GoUnicode] {name : String} {owner : Owner} {all : Bool}
    {names : List String} : Ensures op Any s0 (syncScope name owner all names) :=
  PolicyGroupService.ensures_syncScope (P := fun _ => True) (Does.refl op)
    (fun s _ => ⟨.refl _, .outside ⟨fun _ hp => hp, (Outside.refl s).groups⟩⟩)
    (fun _ _ _ _ => trivial) (fun _ _ _ => trivial) trivial

/-! ### Under the lock -/

variable {p : Stored PolicyColumns} {spec : PolicyGroupSpec} (hlocked : op.locked = true)

include hlocked

section

variable (hp : p ∈ s0.policies.rows)

include hp

/-- The two lists that the reference checks read.  Every group that is there at the second
read was there at the first, with the same member list. -/
theorem ensures_listBoth {f : List (Stored GroupRow) → List (Stored PolicyColumns) → RepoProg B}
    (hf : ∀ s groups, p ∈ s.policies.rows →
      (∀ g ∈ s.groups.rows, ∃ g1 ∈ groups, g.row.owner = g1.row.owner ∧
        g.row.spec.policies = g1.row.spec.policies) →
      Ensures op good s (f groups s.policies.rows)) :
    Ensures op good s0 (listGroups >>= fun groups => listPolicies >>= f groups) := by
  have hgroups : Ensures op (fun s groups => p ∈ s.policies.rows ∧ groups = s.groups.rows) s0
      listGroups :=
    ensures_list rfl (Does.refl op) fun s _ hs _ => ⟨(hs.2 hlocked).policies p hp, rfl⟩
  refine ensures_try hgroups ?_
  intro s1 groups ⟨hp1, hgroups⟩
  have hpolicies : Ensures op (fun s policies => Outside s1 s ∧ policies = s.policies.rows) s1
      listPolicies :=
    ensures_list rfl (Does.refl op) fun s _ hs _ => ⟨hs.2 hlocked, rfl⟩
  refine ensures_try hpolicies ?_
  intro s policies ⟨hs, hpolicies⟩
  rw [hgroups, hpolicies]
  exact hf s _ (hs.policies p hp1) hs.groups

/-- The answer `false` holds at the time of the last read. -/
theorem ensures_referencedByOtherTenant :
    Ensures op (fun s blocked => p ∈ s.policies.rows ∧ (blocked = false → ¬ Shared s p)) s0
      (referencedByOtherTenant p) := by
  unfold referencedByOtherTenant
  split
  · rename_i hsystem
    refine ensures_pure ⟨hp, fun _ ⟨tenant, htenant, _⟩ => ?_⟩
    rw [hsystem] at htenant
    cases htenant
  · rename_i tenant htenant
    refine ensures_listBoth hlocked hp fun s groups hp hgroups => ?_
    refine ensures_pure ⟨hp, fun hblocked hshared => ?_⟩
    obtain ⟨tenant', htenant', g, hg, howner, hmember⟩ := hshared
    rw [htenant] at htenant'
    cases htenant'
    obtain ⟨g1, hg1, howner1, hspec⟩ := hgroups g hg
    rw [hasMember_policyList _ hp, isMember_congr hspec, ← hasMember_policyList _ hp] at hmember
    rw [List.any_eq_false] at hblocked
    refine hblocked g1 hg1 ?_
    rw [hmember, Bool.and_true, decide_eq_true_eq, ← howner1]
    exact howner

theorem ensures_referencingGroups :
    Ensures op (fun s refs => p ∈ s.policies.rows ∧ (refs = [] → Unreferenced s p)) s0
      (referencingGroups p.row.name) := by
  refine ensures_listBoth hlocked hp fun s groups hp hgroups => ?_
  refine ensures_pure ⟨hp, fun hrefs g hg => ?_⟩
  obtain ⟨g1, hg1, _, hspec⟩ := hgroups g hg
  have hnone : (groups.filter fun g =>
      hasMember g.row.spec (resolvePolicies s.policies.rows) p.row.name) = [] := by
    have hperm := sortStrings_perm ((groups.filter fun g =>
      hasMember g.row.spec (resolvePolicies s.policies.rows) p.row.name).map fun g => g.row.name)
    rw [hrefs] at hperm
    exact List.map_eq_nil_iff.mp hperm.symm.eq_nil
  rw [isMember_congr hspec, ← hasMember_resolvePolicies _ hp]
  exact Bool.eq_false_iff.mpr (List.filter_eq_nil_iff.mp hnone g1 hg1)

end

/-- The policy is stored and not shared. -/
def Editable (s : ConsoleState) (p : Stored PolicyColumns) : Prop :=
  p ∈ s.policies.rows ∧ ¬ Shared s p

theorem Editable.relies (s s' : ConsoleState) (h : Editable s p) (hs : Relies op s s') :
    Editable s' p :=
  ⟨(hs.2 hlocked).policies p h.1, fun hshared => h.2 (hshared.outside (hs.2 hlocked) h.1)⟩

theorem ensures_editPolicy (h : Editable s0 p) {fields : PolicyFields} {v : VersionColumns} :
    Ensures op Any s0 ((updateWithVersion p.id p.updatedAt fields v).mapError g) := by
  refine ensures_mapError (ensures_updateWithVersion (Does.refl op) ?_)
  intro s i elapsed elapsed' versions hs _ _ _
  have hnow := h.relies hlocked _ _ hs
  exact ⟨⟨.refl _, .edited hlocked p _ hnow.1 hnow.2
    (touched_mem_update hnow.1 elapsed fields.apply fields.keys_apply) rfl
    (fun q hq hne => mem_update_of_ne hnow.1 hq hne elapsed fields.apply fields.keys_apply)
    rfl⟩, trivial⟩

omit [Apimachinery] in
theorem named_relies (s s' : ConsoleState) (h : Named s.policies spec) (hs : Relies op s s') :
    Named s'.policies spec :=
  h.outside (hs.2 hlocked)

theorem ensures_insertGroup {g : GroupRow} (h : Named s0.policies g.spec) :
    Ensures op Any s0 (Console.createGroup g) := by
  refine ensures_execute (Does.refl op) ?_
  intro s i s' a hs _ hwrite
  obtain ⟨groups, hinsert, hreturn⟩ := bind_ok hwrite
  cases hreturn
  have hrows := orError_ok hinsert
  refine ⟨⟨evolves_insert hrows, .grouped hlocked rfl ?_⟩, trivial⟩
  show ∀ g' ∈ groups.rows, _
  rw [(rows_insert hrows).1]
  exact List.forall_mem_append.mpr
    ⟨fun _ => .inl, List.forall_mem_singleton.mpr (.inr (named_relies hlocked _ _ h hs))⟩

theorem ensures_writeGroup {id expected : Int} (h : Named s0.policies spec) :
    Ensures op Any s0 (updateGroupCAS id expected spec) := by
  refine ensures_execute (Does.refl op) ?_
  intro s i s' a hs _ hwrite
  obtain ⟨groups, hcas, hreturn⟩ := bind_ok hwrite
  cases hreturn
  have hwritten := orError_ok hcas
  refine ⟨⟨evolves_cas hwritten, .grouped hlocked rfl fun g' hg' => ?_⟩, trivial⟩
  obtain ⟨g, hg, heq⟩ := (mem_rows_cas hwritten).mp hg'
  rw [heq]
  split
  · exact .inr (named_relies hlocked _ _ h hs)
  · exact .inl hg

variable [GoUnicode] (actor : Principal)

theorem ensures_editablePolicy_free (name : String) :
    Ensures op Editable s0 (editablePolicy actor name) := by
  refine ensures_try (ensures_getPolicy name) ?_
  intro s1 p hp
  refine ensures_check fun _ _ => ?_
  refine ensures_try (ensures_mapError (ensures_referencedByOtherTenant hlocked hp)) ?_
  intro s2 blocked ⟨hp, hfree⟩
  refine ensures_guard fun hblocked => ?_
  exact ensures_pure ⟨hp, hfree (Bool.eq_false_iff.mpr hblocked)⟩

theorem ensures_updatePolicy [NameValidation] [RegoCompiler] (name : String) (req : PolicyInput) :
    Ensures op Any s0 (PolicyService.update actor name req) := by
  refine ensures_check fun _ _ => ?_
  refine ensures_try (ensures_editablePolicy_free hlocked actor name) ?_
  intro s1 p hp
  refine ensures_guard fun _ => ?_
  refine ensures_past (Editable.relies hlocked)
    (readOnly_mapError (readOnly_query _)) hp fun s2 versions hp => ?_
  exact ensures_editPolicy hlocked hp

theorem ensures_rollbackPolicy (name : String) (direction : Direction) :
    Ensures op Any s0 (PolicyService.rollback actor name direction) := by
  refine ensures_guard fun _ => ?_
  refine ensures_try (ensures_editablePolicy_free hlocked actor name) ?_
  intro s1 p hp
  refine ensures_guard fun _ => ?_
  refine ensures_past (Editable.relies hlocked)
    (readOnly_mapError (readOnly_query _)) hp fun s2 versions hp => ?_
  refine ensures_guard fun _ => ?_
  split
  · exact trivial
  · exact ensures_try (ensures_editPolicy hlocked hp) fun _ _ _ => trivial

theorem ensures_deletePolicy (name : String) :
    Ensures op Any s0 (PolicyService.delete actor name) := by
  refine ensures_try (ensures_getPolicy name) ?_
  intro s1 p hp
  refine ensures_check fun _ _ => ?_
  refine ensures_try (ensures_mapError (ensures_referencingGroups hlocked hp)) ?_
  intro s2 refs ⟨hp, hfree⟩
  refine ensures_guard fun hrefs => ?_
  refine ensures_mapError (ensures_execute (Does.refl _) ?_)
  intro s i s' a hs _ hwrite
  cases hwrite
  have houtside := hs.2 hlocked
  have hnow := houtside.policies p hp
  have hunreferenced := (hfree (not_not.mp hrefs)).outside houtside
  exact ⟨⟨.refl _, .deleted hlocked p hnow hunreferenced
    (fun q hq => (mem_rows_delete.mp hq).2)
    (fun q hq hne => mem_delete_of_ne hnow hq hne) rfl⟩, trivial⟩

theorem ensures_createGroup [NameValidation] (req : PolicyGroupInput) :
    Ensures op Any s0 (PolicyGroupService.create actor req) := by
  refine ensures_try (?_ : Ensures op Any s0 _) fun _ _ _ => ensures_syncScope
  refine ensures_check fun _ _ => ?_
  refine ensures_guard fun _ => ?_
  refine ensures_guard fun _ => ?_
  refine ensures_check fun _ _ => ?_
  refine ensures_try (ensures_validateMembers _) ?_
  intro s1 _ hnamed
  refine ensures_check fun _ _ => ?_
  refine ensures_past (named_relies hlocked)
    (readOnly_validateGroupClusterTargets _ _) hnamed fun s2 _ hnamed => ?_
  refine ensures_try (ensures_mapError (ensures_insertGroup hlocked hnamed)) fun _ _ _ => trivial

theorem ensures_updateGroup (name : String) (req : PolicyGroupInput) :
    Ensures op Any s0 (PolicyGroupService.update actor name req) := by
  refine ensures_try (?_ : Ensures op Any s0 _) fun _ _ _ => ensures_syncScope
  refine ensures_check fun _ _ => ?_
  refine ensures_check fun _ _ => ?_
  refine ensures_pass (readOnly_validateGroupClusterTargets _ _) fun s1 _ => ?_
  refine ensures_pass (readOnly_mapError (readOnly_visibleGroup _ _))
    fun s2 g => ?_
  refine ensures_check fun _ _ => ?_
  refine ensures_guard fun _ => ?_
  refine ensures_try (ensures_validateMembers _) ?_
  intro s3 _ hnamed
  refine ensures_try (ensures_mapError (ensures_writeGroup hlocked hnamed)) fun _ _ _ => trivial

omit hlocked

/-- Every call of an operation is a step, whatever the others do in between. -/
theorem ensures_code [NameValidation] [RegoCompiler] (op : ReferenceOp) (s0 : ConsoleState) :
    Prog.Ensures (Relies op) Any (Does op) Any s0 op.code := by
  refine ensures_discard (?_ : Ensures op Any s0 op.prog)
  cases op with
  | policy op =>
    cases op with
    | create actor req => exact ensures_createPolicy actor req
    | update actor name req =>
      exact ensures_withPolicyReferenceLock fun s => ensures_updatePolicy rfl actor name req
    | rollback actor name direction =>
      exact ensures_try (ensures_withPolicyReferenceLock fun s =>
        ensures_rollbackPolicy rfl actor name direction) fun _ _ _ => trivial
    | delete actor name =>
      exact ensures_withPolicyReferenceLock fun s => ensures_deletePolicy rfl actor name
  | createGroup actor req =>
    exact ensures_withPolicyReferenceLock fun s => ensures_createGroup rfl actor req
  | updateGroup actor name req =>
    exact ensures_withPolicyReferenceLock fun s => ensures_updateGroup rfl actor name req
  | setGroupEnabled actor name enabled => exact ensures_setGroupEnabled actor name enabled
  | deleteGroup actor name => exact ensures_deleteGroup actor name

end ReferenceOp

end KubeSentry.Console
