import KubeSentry.Api.Types

/-!
# Group resolution

`internal/groupresolve/resolve.go` computes the effective members of a policy
group.  The gateway calls it while it renders a snapshot, and the operator of
a member cluster calls it on the objects that the snapshot left there, so the
same function is read at two places of this development.

`resolve` follows the source: a loop over `byName`, a loop over the policies
that the selector matches, and a loop over `exclude`, all on one map from
policy name to member.  `getElem?_resolvedMembers` is the one lemma about the
three loops: it gives the member under one name in closed form.  Everything
else about resolution follows from it.

The transition time of a condition is left out.
-/

namespace KubeSentry.GroupResolve

open GoLib

variable [Apimachinery]

/-! ## The code -/

/-- `CondTypeMissingMember` and `CondTypeInvalidSelector`. -/
inductive ConditionType where
  | missingMember
  | invalidSelector
  deriving DecidableEq, Repr

/-- A `metav1.Condition` with status `True`. -/
structure Condition where
  type : ConditionType
  reason : String
  message : String
  deriving DecidableEq, Repr

def missingMember (name : String) : Condition :=
  { type := .missingMember, reason := "PolicyNotFound", message := name }

def invalidSelector (err : String) : Condition :=
  { type := .invalidSelector, reason := "MalformedSelector", message := err }

/-- `if mode == "" { mode = fallback }`. -/
def orDefault (mode fallback : EnforcementMode) : EnforcementMode :=
  if mode = .unset then fallback else mode

/-- One round of the `byName` loop. -/
def resolveRef (byName : GoMap Policy) (acc : GoMap EffectiveMember × List Condition)
    (ref : PolicyRef) : GoMap EffectiveMember × List Condition :=
  match byName[ref.name]? with
  | none => (acc.1, acc.2 ++ [missingMember ref.name])
  | some pol =>
    (acc.1.insert ref.name
      { name := ref.name
        enforcementMode := orDefault ref.enforcementMode pol.spec.enforcementMode
        source := .byName }, acc.2)

/-- One round of the selector loop. -/
def resolveSelected (sel : Selector) (mode : EnforcementMode)
    (resolved : GoMap EffectiveMember) (pol : Policy) : GoMap EffectiveMember :=
  if !sel pol.labels then resolved
  else if pol.name ∈ resolved then resolved
  else
    resolved.insert pol.name
      { name := pol.name
        enforcementMode := orDefault mode pol.spec.enforcementMode
        source := .bySelector }

variable (spec : PolicyGroupSpec)

/-- The selector part of `Resolve`. -/
def resolveSelector (policies : List Policy)
    (acc : GoMap EffectiveMember × List Condition) : GoMap EffectiveMember × List Condition :=
  match spec.policies.bySelector with
  | none => acc
  | some bySelector =>
    match Apimachinery.labelSelectorAsSelector bySelector with
    | .error err => (acc.1, acc.2 ++ [invalidSelector err])
    | .ok sel =>
      (policies.foldl (resolveSelected sel spec.selectorEnforcementMode) acc.1, acc.2)

/-- The map `resolved` when `Resolve` has left its loops, and the conditions. -/
def resolvedMembers (policies : List Policy) : GoMap EffectiveMember × List Condition :=
  let byName := indexBy (fun p : Policy => p.name) policies
  let acc := spec.policies.byName.foldl (resolveRef byName) (∅, [])
  let acc := resolveSelector spec policies acc
  (spec.policies.exclude.foldl (fun m name => m.erase name) acc.1, acc.2)

/-- `Resolve`.  The source collects the map's values and sorts them by name;
the key of a member is its name, so this is the key order of the map. -/
def resolve (policies : List Policy) : List EffectiveMember × List Condition :=
  let (resolved, conditions) := resolvedMembers spec policies
  (resolved.toList.map Prod.snd, conditions)

/-! ## The three loops, one name at a time -/

/-- The last `byName` entry of a name, which is the one that counts. -/
def lastRef (refs : List PolicyRef) (name : String) : Option PolicyRef :=
  refs.reverse.find? (fun r => r.name = name)

variable {policies : List Policy}

section

omit [Apimachinery]

theorem lastRef_cons (r : PolicyRef) (refs : List PolicyRef) (name : String) :
    lastRef (r :: refs) name = (lastRef refs name).or (if r.name = name then some r else none) := by
  rw [lastRef, lastRef, List.reverse_cons, List.find?_append]
  by_cases h : r.name = name <;> simp [h]

/-- The `byName` loop: the last entry of a name wins, and an entry that names
no policy binds nothing. -/
theorem getElem?_foldl_resolveRef (byName : GoMap Policy) (refs : List PolicyRef)
    (acc : GoMap EffectiveMember × List Condition) (k : String) :
    (refs.foldl (resolveRef byName) acc).1[k]? = match byName[k]?, lastRef refs k with
      | some pol, some ref =>
        some { name := k
               enforcementMode := orDefault ref.enforcementMode pol.spec.enforcementMode
               source := .byName }
      | _, _ => acc.1[k]? := by
  induction refs generalizing acc with
  | nil => cases h : byName[k]? <;> simp [lastRef]
  | cons r rest ih =>
    rw [List.foldl_cons, ih, lastRef_cons]
    by_cases hk : r.name = k
    · subst hk
      cases hpol : byName[r.name]? with
      | none => simp [resolveRef, hpol]
      | some pol => cases hlast : lastRef rest r.name <;> simp [resolveRef, hpol]
    · have hstep : (resolveRef byName acc r).1[k]? = acc.1[k]? := by
        rw [resolveRef]
        split
        · rfl
        · simp [hk]
      rw [hstep, if_neg hk, Option.or_none]

/-- The `byName` loop reports the entries that name no policy, in order. -/
theorem foldl_resolveRef_conditions (byName : GoMap Policy) (refs : List PolicyRef)
    (acc : GoMap EffectiveMember × List Condition) :
    (refs.foldl (resolveRef byName) acc).2 =
      acc.2 ++ (refs.filter (fun r => byName[r.name]?.isNone)).map
        (fun r => missingMember r.name) := by
  induction refs generalizing acc with
  | nil => simp
  | cons r rest ih =>
    rw [List.foldl_cons, ih]
    cases hpol : byName[r.name]? <;> simp [resolveRef, hpol]

/-- The selector loop keeps a name that is bound already, and binds the name
of a policy that the selector matches. -/
theorem getElem?_foldl_resolveSelected (sel : Selector) (mode : EnforcementMode)
    (hnodup : (policies.map (fun p => p.name)).Nodup) (resolved : GoMap EffectiveMember)
    (k : String) :
    (policies.foldl (resolveSelected sel mode) resolved)[k]? = resolved[k]?.or
        ((policies.find? (fun p => p.name = k)).bind fun pol =>
          if sel pol.labels then
            some { name := k
                   enforcementMode := orDefault mode pol.spec.enforcementMode
                   source := .bySelector }
          else none) := by
  induction policies generalizing resolved with
  | nil => simp
  | cons p rest ih =>
    obtain ⟨hfresh, hrest⟩ := List.nodup_cons.mp hnodup
    rw [List.foldl_cons, ih hrest]
    by_cases hk : p.name = k
    · subst hk
      have hnone : rest.find? (fun q => q.name = p.name) = none := by
        rw [List.find?_eq_none]
        intro q hq hname
        exact hfresh (List.mem_map.mpr ⟨q, hq, by simpa using hname⟩)
      rw [hnone, resolveSelected]
      cases hbound : resolved[p.name]? with
      | none =>
        have hmem : p.name ∉ resolved := by simp [mem_iff_getElem?, hbound]
        cases hsel : sel p.labels <;> simp [hmem, hsel]
      | some m =>
        have hmem : p.name ∈ resolved := (mem_iff_getElem? _ _).mpr ⟨m, hbound⟩
        simp only [hmem, if_true, ite_self, hbound, Option.some_or]
    · have hstep : (resolveSelected sel mode resolved p)[k]? = resolved[k]? := by
        rw [resolveSelected]
        split
        · rfl
        · split
          · rfl
          · simp [hk]
      rw [hstep, List.find?_cons_of_neg (by simpa using hk)]

/-- The exclude loop drops exactly the listed names. -/
theorem getElem?_foldl_erase (exclude : List String) (m : GoMap EffectiveMember) (k : String) :
    (exclude.foldl (fun m name => m.erase name) m)[k]? = if k ∈ exclude then none else m[k]? := by
  induction exclude generalizing m with
  | nil => simp
  | cons name rest ih =>
    rw [List.foldl_cons, ih, getElem?_erase_key]
    by_cases hk : name = k
    · simp [hk]
    · have hk' : ¬ k = name := fun h => hk h.symm
      simp [hk, hk']

end

/-! ## The member under one name -/

/-- Whether the group's selector is well formed and matches the policy. -/
def selects (pol : Policy) : Bool :=
  match spec.policies.bySelector with
  | none => false
  | some bySelector =>
    match Apimachinery.labelSelectorAsSelector bySelector with
    | .error _ => false
    | .ok sel => sel pol.labels

/-- The member that a group makes of a policy, before `exclude`. -/
def memberOf (pol : Policy) : Option EffectiveMember :=
  match lastRef spec.policies.byName pol.name with
  | some ref =>
    some { name := pol.name
           enforcementMode := orDefault ref.enforcementMode pol.spec.enforcementMode
           source := .byName }
  | none =>
    if selects spec pol then
      some { name := pol.name
             enforcementMode := orDefault spec.selectorEnforcementMode pol.spec.enforcementMode
             source := .bySelector }
    else none

variable (spec : PolicyGroupSpec)

/-- The selector part keeps the names that `byName` bound and adds the policies
that the group selects. -/
theorem getElem?_resolveSelector (hnodup : (policies.map (fun p => p.name)).Nodup)
    (acc : GoMap EffectiveMember × List Condition) (k : String) :
    (resolveSelector spec policies acc).1[k]? = acc.1[k]?.or
        ((policies.find? (fun p => p.name = k)).bind fun pol =>
          if selects spec pol then
            some { name := k
                   enforcementMode :=
                     orDefault spec.selectorEnforcementMode pol.spec.enforcementMode
                   source := .bySelector }
          else none) := by
  cases hby : spec.policies.bySelector with
  | none => simp [resolveSelector, selects, hby]
  | some bySelector =>
    cases hparse : Apimachinery.labelSelectorAsSelector bySelector with
    | error err => simp [resolveSelector, selects, hby, hparse]
    | ok sel =>
      simp [resolveSelector, selects, hby, hparse, getElem?_foldl_resolveSelected _ _ hnodup]

/-- The conditions: the `byName` entries that name no policy, and the parse
error of the selector. -/
theorem resolvedMembers_conditions (policies : List Policy) :
    (resolvedMembers spec policies).2 = ((spec.policies.byName.filter fun r =>
        (indexBy (fun p : Policy => p.name) policies)[r.name]?.isNone).map
          fun r => missingMember r.name) ++
      match spec.policies.bySelector with
      | none => []
      | some bySelector =>
        match Apimachinery.labelSelectorAsSelector bySelector with
        | .error err => [invalidSelector err]
        | .ok _ => [] := by
  rw [resolvedMembers, resolveSelector]
  cases hby : spec.policies.bySelector with
  | none => simp [foldl_resolveRef_conditions]
  | some bySelector =>
    cases hparse : Apimachinery.labelSelectorAsSelector bySelector <;>
      simp [foldl_resolveRef_conditions, hparse]

variable (hnodup : (policies.map (fun p => p.name)).Nodup)

include hnodup

/-- What `Resolve` computes for one name, when the policy names are distinct. -/
theorem getElem?_resolvedMembers (k : String) :
    (resolvedMembers spec policies).1[k]? =
      if k ∈ spec.policies.exclude then none
      else (policies.find? (fun p => p.name = k)).bind (memberOf spec) := by
  simp only [resolvedMembers, getElem?_foldl_erase, getElem?_resolveSelector _ hnodup,
    getElem?_foldl_resolveRef, getElem?_indexBy_eq_find? hnodup]
  split
  · rfl
  · cases hfind : policies.find? (fun p => p.name = k) with
    | none => simp
    | some pol =>
      have hname : pol.name = k := by simpa using List.find?_some hfind
      subst hname
      simp only [Option.bind_some, memberOf]
      cases hlast : lastRef spec.policies.byName pol.name <;> simp

/-- A member stands under its own name and comes from the policy of that name.
Its mode is the one of the reference, of the selector, or of the policy. -/
theorem mem_of_getElem?_resolvedMembers {spec : PolicyGroupSpec} {k : String} {m : EffectiveMember}
    (h : (resolvedMembers spec policies).1[k]? = some m) :
    m.name = k ∧ ∃ pol ∈ policies, pol.name = k ∧ ∃ own, (own = spec.selectorEnforcementMode ∨
          ∃ r ∈ spec.policies.byName, own = r.enforcementMode) ∧
        m.enforcementMode = orDefault own pol.spec.enforcementMode := by
  rw [getElem?_resolvedMembers spec hnodup] at h
  split at h
  · exact absurd h (by simp)
  · obtain ⟨pol, hfind, hmember⟩ := Option.bind_eq_some_iff.mp h
    have hname : pol.name = k := by simpa using List.find?_some hfind
    have hpol := List.mem_of_find?_eq_some hfind
    rw [memberOf] at hmember
    split at hmember
    · rename_i ref hlast
      have href : ref ∈ spec.policies.byName := by
        simpa using List.mem_of_find?_eq_some hlast
      cases hmember
      exact ⟨hname, pol, hpol, hname, _, .inr ⟨ref, href, rfl⟩, rfl⟩
    · split at hmember
      · cases hmember
        exact ⟨hname, pol, hpol, hname, _, .inl rfl, rfl⟩
      · exact absurd hmember (by simp)

/-- The member list, keyed by name, is the entry list of the map. -/
theorem map_name_resolve :
    (resolve spec policies).1.map (fun m => (m.name, m)) =
      (resolvedMembers spec policies).1.toList := by
  rw [resolve, List.map_map]
  conv_rhs => rw [← List.map_id (resolvedMembers spec policies).1.toList]
  apply List.map_congr_left
  rintro ⟨k, m⟩ hmem
  have hname := (mem_of_getElem?_resolvedMembers hnodup ((mem_toList_iff _ _ _).mp hmem)).1
  simp [hname]

/-- The names in the member list are the keys of the map. -/
theorem names_resolve :
    (resolve spec policies).1.map (fun m => m.name) = (resolvedMembers spec policies).1.keys := by
  rw [← Std.ExtTreeMap.map_fst_toList_eq_keys, ← map_name_resolve spec hnodup, List.map_map]
  rfl

theorem mem_names_resolve_iff (k : String) :
    k ∈ (resolve spec policies).1.map (fun m => m.name) ↔
      k ∈ (resolvedMembers spec policies).1 := by
  rw [names_resolve spec hnodup, Std.ExtTreeMap.mem_keys]

theorem mem_resolve_iff (m : EffectiveMember) :
    m ∈ (resolve spec policies).1 ↔ (resolvedMembers spec policies).1[m.name]? = some m := by
  rw [← mem_toList_iff, ← map_name_resolve spec hnodup, List.mem_map]
  constructor
  · intro hm
    exact ⟨m, hm, rfl⟩
  · intro hx
    obtain ⟨m', hm', heq⟩ := hx
    rw [← (Prod.mk.inj heq).2]
    exact hm'

end KubeSentry.GroupResolve
