import KubeSentry.GoLib.Run
import KubeSentry.Webhook.ExceptionCache

/-!
# The index of the exception cache

The exception cache against its purpose: a lookup must answer as if it scanned
the exceptions themselves.

`ExceptionCache.Valid` is the representation invariant.  The live entries have
distinct addresses, `global` lists those without namespaces, and `nsIndex`
indexes the others.  Every call keeps it, because a call removes the old entry
by its address before it adds the new one under a fresh address.

`latestActive` reads the exceptions off the history of calls.  `cacheAfter_all`
connects it to `all`, and the last section compares the lookup with the scan.
-/

namespace KubeSentry.Webhook

open GoLib

variable {Query : Type}

/-! ## The representation invariant -/

/-- The entry is in the cache. -/
def ExceptionCache.Live (c : ExceptionCache) (e : Ptr ExemptEntry) : Prop :=
  ∃ name : String, c.all[name]? = some e

/-- The namespaces of an entry, as keys of `nsIndex`. -/
def indexKeys (e : Ptr ExemptEntry) : List String :=
  e.value.namespaces.keys

theorem isEmpty_iff_indexKeys (e : Ptr ExemptEntry) :
    e.value.namespaces.isEmpty = true ↔ indexKeys e = [] := by
  rw [indexKeys, Std.ExtTreeMap.isEmpty_iff, Std.ExtTreeMap.keys_eq_nil_iff]

namespace ExceptionCache

structure Valid (c : ExceptionCache) : Prop where
  allocated : ∀ (name : String) (e : Ptr ExemptEntry), c.all[name]? = some e → e.addr < c.next
  distinct : ∀ (name name' : String) (e e' : Ptr ExemptEntry), c.all[name]? = some e →
    c.all[name']? = some e' → e.addr = e'.addr → name = name'
  global : Lists (fun e => c.Live e ∧ indexKeys e = []) c.global
  nsIndex : Indexes c.Live indexKeys c.nsIndex

theorem valid_empty : ({} : ExceptionCache).Valid where
  allocated name e h := by simp at h
  distinct name name' e e' h := by simp at h
  global := Lists.nil fun e h => by simp [Live] at h
  nsIndex := Indexes.empty fun e h => by simp [Live] at h

variable {c : ExceptionCache} {name : String}

/-- Two live entries with one address are the same entry. -/
theorem Valid.eq_of_addr (h : c.Valid) {e e' : Ptr ExemptEntry} (he : c.Live e)
    (he' : c.Live e') (haddr : e.addr = e'.addr) : e = e' := by
  obtain ⟨name, hname⟩ := he
  obtain ⟨name', hname'⟩ := he'
  have heq := h.distinct name name' e e' hname hname' haddr
  rw [← heq, hname] at hname'
  exact Option.some.inj hname'

theorem Valid.alloc (h : c.Valid) : c.alloc.Valid where
  allocated name e he := Nat.lt_succ_of_lt (h.allocated name e he)
  distinct := h.distinct
  global := h.global
  nsIndex := h.nsIndex

variable {old entry : Ptr ExemptEntry} {c' : ExceptionCache}

/-- After a removal the live entries are the others. -/
theorem Valid.live_erase (h : c.Valid) (hold : c.all[name]? = some old) (e : Ptr ExemptEntry) :
    (∃ key : String, (c.all.erase name)[key]? = some e) ↔ c.Live e ∧ notSame old e = true := by
  unfold notSame
  rw [decide_eq_true_iff]
  constructor
  · intro hlive
    obtain ⟨key, hkey⟩ := hlive
    obtain ⟨hne, hkey⟩ := getElem?_erase_some.mp hkey
    exact ⟨⟨key, hkey⟩, fun haddr => hne (h.distinct key name e old hkey hold haddr).symm⟩
  · intro hlive
    obtain ⟨⟨key, hkey⟩, haddr⟩ := hlive
    refine ⟨key, ?_⟩
    have hne : name ≠ key := by
      intro heq
      rw [← heq, hold] at hkey
      exact haddr (congrArg Ptr.addr (Option.some.inj hkey).symm)
    exact getElem?_erase_some.mpr ⟨hne, hkey⟩

theorem removeUnlocked_all (c : ExceptionCache) (order : Shuffle) (name : String) :
    (c.removeUnlocked order name).all = c.all.erase name := by
  unfold removeUnlocked
  cases hold : c.all[name]? with
  | none =>
    dsimp only
    apply Std.ExtTreeMap.ext_getElem?
    intro key
    rw [getElem?_erase_key]
    split
    · rename_i heq
      rw [← heq, hold]
    · rfl
  | some old =>
    dsimp only
    split
    · rfl
    · rfl

theorem removeUnlocked_next (c : ExceptionCache) (order : Shuffle)
    (name : String) : (c.removeUnlocked order name).next = c.next := by
  unfold removeUnlocked
  split
  · rfl
  · split
    · rfl
    · rfl

/-- A cache without the entry `old`, from the invariant with it. -/
theorem Valid.of_erase (h : c.Valid) (hold : c.all[name]? = some old)
    (hall : c'.all = c.all.erase name) (hnext : c'.next = c.next)
    (hglobal : Lists (fun e => (c.Live e ∧ notSame old e = true) ∧ indexKeys e = []) c'.global)
    (hindex : Indexes (fun e => c.Live e ∧ notSame old e = true) indexKeys c'.nsIndex) :
    c'.Valid := by
  have hkept : ∀ (key : String) (e : Ptr ExemptEntry), c'.all[key]? = some e →
      c.all[key]? = some e := by
    intro key e he
    rw [hall] at he
    exact (getElem?_erase_some.mp he).2
  have hlive : ∀ e, c.Live e ∧ notSame old e = true ↔ c'.Live e := by
    intro e
    unfold Live
    rw [hall]
    exact (h.live_erase hold e).symm
  refine ⟨?_, ?_, hglobal.congr fun e => by rw [hlive], hindex.congr hlive⟩
  · intro key e he
    rw [hnext]
    exact h.allocated key e (hkept key e he)
  · intro key key' e e' he he'
    exact h.distinct key key' e e' (hkept key e he) (hkept key' e' he')

theorem Valid.removeUnlocked (h : c.Valid) (order : Shuffle) (name : String) :
    (c.removeUnlocked order name).Valid := by
  unfold ExceptionCache.removeUnlocked
  cases hold : c.all[name]? with
  | none => exact h
  | some old =>
    -- What `notSame old` drops is `old` itself.
    have hdropped : ∀ e, c.Live e → notSame old e = false → e = old := by
      intro e he hsame
      refine h.eq_of_addr he ⟨name, hold⟩ ?_
      simpa [notSame] using hsame
    by_cases hempty : old.value.namespaces.isEmpty = true
    · simp only [hempty, if_true]
      refine h.of_erase hold rfl rfl ?_ ?_
      · exact h.global.filter (notSame old)
      · have hindex : Indexes (fun e => c.Live e ∧ notSame old e = true) indexKeys
            (filterAt [] (notSame old) c.nsIndex) := by
          refine h.nsIndex.filterAt fun e he hsame k hk => ?_
          rw [hdropped e he hsame, (isEmpty_iff_indexKeys old).mp hempty] at hk
          exact hk
        exact hindex
    · simp only [hempty]
      refine h.of_erase hold rfl rfl ?_ ?_
      · refine h.global.filter_other fun e he hsame hkeys => ?_
        rw [hdropped e he hsame] at hkeys
        exact hempty ((isEmpty_iff_indexKeys old).mpr hkeys)
      · refine h.nsIndex.filterAt fun e he hsame k hk => ?_
        rw [hdropped e he hsame] at hk
        exact ((order.perm _).mem_iff).mpr hk

theorem insertEntry_all (c : ExceptionCache) (order : Shuffle) (name : String)
    (entry : Ptr ExemptEntry) : (c.insertEntry order name entry).all = c.all.insert name entry := by
  unfold insertEntry
  split
  · rfl
  · rfl

/-- A cache with one more entry, under a fresh address and a free name. -/
theorem Valid.of_insert (h : c.Valid) (hfree : c.all[name]? = none)
    (hfresh : ∀ (key : String) (e : Ptr ExemptEntry), c.all[key]? = some e → e.addr ≠ entry.addr)
    (hnext : entry.addr < c.next) (hall : c'.all = c.all.insert name entry)
    (hnext' : c'.next = c.next)
    (hglobal : Lists (fun e => (c.Live e ∨ e = entry) ∧ indexKeys e = []) c'.global)
    (hindex : Indexes (fun e => c.Live e ∨ e = entry) indexKeys c'.nsIndex) : c'.Valid := by
  have hcases : ∀ (key : String) (e : Ptr ExemptEntry), c'.all[key]? = some e →
      name = key ∧ e = entry ∨ c.all[key]? = some e := by
    intro key e he
    rw [hall] at he
    exact (getElem?_insert_some.mp he).imp_right And.right
  have hlive : ∀ e, c.Live e ∨ e = entry ↔ c'.Live e := by
    intro e
    constructor
    · intro he
      rcases he with ⟨key, hkey⟩ | he
      · refine ⟨key, ?_⟩
        have hne : name ≠ key := by
          intro heq
          rw [← heq, hfree] at hkey
          exact absurd hkey (by simp)
        rw [hall]
        exact getElem?_insert_some.mpr (.inr ⟨hne, hkey⟩)
      · exact ⟨name, by rw [hall, he, getElem?_insert_key, if_pos rfl]⟩
    · intro he
      obtain ⟨key, hkey⟩ := he
      rcases hcases key e hkey with ⟨-, heq⟩ | hold
      · exact .inr heq
      · exact .inl ⟨key, hold⟩
  refine ⟨?_, ?_, hglobal.congr fun e => by rw [hlive], hindex.congr hlive⟩
  · intro key e he
    rw [hnext']
    rcases hcases key e he with ⟨-, heq⟩ | hold
    · rw [heq]
      exact hnext
    · exact h.allocated key e hold
  · intro key key' e e' he he' haddr
    rcases hcases key e he with ⟨hkey, heq⟩ | hold
    · rcases hcases key' e' he' with ⟨hkey', -⟩ | hold'
      · exact hkey.symm.trans hkey'
      · exact absurd (by rw [← haddr, heq]) (hfresh key' e' hold')
    · rcases hcases key' e' he' with ⟨-, heq'⟩ | hold'
      · exact absurd (by rw [haddr, heq']) (hfresh key e hold)
      · exact h.distinct key key' e e' hold hold' haddr

theorem Valid.insertEntry (h : c.Valid) (order : Shuffle) (hfree : c.all[name]? = none)
    (hfresh : ∀ (key : String) (e : Ptr ExemptEntry), c.all[key]? = some e → e.addr ≠ entry.addr)
    (hnext : entry.addr < c.next) : (c.insertEntry order name entry).Valid := by
  have hnew : ¬ c.Live entry := by
    intro hlive
    obtain ⟨key, hkey⟩ := hlive
    exact hfresh key entry hkey rfl
  unfold ExceptionCache.insertEntry
  by_cases hempty : entry.value.namespaces.isEmpty = true
  · have hkeys := (isEmpty_iff_indexKeys entry).mp hempty
    simp only [hempty, if_true]
    refine h.of_insert hfree hfresh hnext rfl rfl ?_ ?_
    · exact h.global.append hnew hkeys
    · have hindex : Indexes (fun e => c.Live e ∨ e = entry) indexKeys
          (appendAt [] entry c.nsIndex) := by
        refine h.nsIndex.appendAt hnew List.nodup_nil fun k => ?_
        rw [hkeys]
      exact hindex
  · simp only [hempty]
    refine h.of_insert hfree hfresh hnext rfl rfl ?_ ?_
    · exact h.global.append_other fun hkeys => hempty ((isEmpty_iff_indexKeys entry).mpr hkeys)
    · refine h.nsIndex.appendAt hnew ?_ fun k => ?_
      · exact ((order.perm _).nodup_iff).mpr (keys_nodup _)
      · exact (order.perm _).mem_iff

/-- The candidates of a namespace are the live entries that name it or that
name none. -/
theorem Valid.mem_candidates (h : c.Valid) (namespaceName : String)
    (e : Ptr ExemptEntry) : e ∈ c.candidates namespaceName ↔
      c.Live e ∧ (indexKeys e = [] ∨ namespaceName ∈ indexKeys e) := by
  unfold candidates
  rw [List.mem_append, h.global.mem, (h.nsIndex.lists namespaceName).mem, ← and_or_left]

/-- A list of live entries holds no pointer twice. -/
theorem Valid.addr_nodup (h : c.Valid) {keep : Ptr ExemptEntry → Prop}
    {l : List (Ptr ExemptEntry)} (hl : Lists (fun e => c.Live e ∧ keep e) l) :
    (l.map Ptr.addr).Nodup := by
  refine hl.nodup.map_on fun e he e' he' haddr => ?_
  exact h.eq_of_addr ((hl.mem e).mp he).1 ((hl.mem e').mp he').1 haddr

variable [Apimachinery]

theorem Valid.upsert {c : ExceptionCache} (h : c.Valid)
    (removal insertion : Shuffle) (pex : PolicyException) :
    (c.upsert removal insertion pex).Valid := by
  unfold ExceptionCache.upsert
  split
  · exact h.removeUnlocked removal pex.name
  · have hremoved := h.alloc.removeUnlocked removal pex.name
    refine hremoved.insertEntry insertion ?_ ?_ ?_
    · rw [removeUnlocked_all, getElem?_erase_key, if_pos rfl]
    · intro key e he
      rw [removeUnlocked_all] at he
      exact Nat.ne_of_lt (h.allocated key e (getElem?_erase_some.mp he).2)
    · rw [removeUnlocked_next]
      exact Nat.lt_succ_self c.next

/-- `all` after an upsert. -/
theorem upsert_all (c : ExceptionCache) (removal insertion : Shuffle) (pex : PolicyException) :
    (c.upsert removal insertion pex).all =
      if pex.status.phase = .active then
        (c.all.erase pex.name).insert pex.name ⟨c.next, compile pex⟩
      else c.all.erase pex.name := by
  unfold upsert
  by_cases hactive : pex.status.phase = .active
  · rw [if_neg (fun h => h hactive), if_pos hactive, insertEntry_all,
      removeUnlocked_all]
    rfl
  · rw [if_pos hactive, if_neg hactive]
    exact c.removeUnlocked_all removal pex.name

end ExceptionCache

/-! ## Histories -/

variable [Apimachinery] {c : ExceptionCache} {name : String}

/-- A call that changes the cache, with the orders of its ranges. -/
inductive CacheOp where
  | upsert (removal insertion : Shuffle) (pex : PolicyException)
  | delete (order : Shuffle) (name : String)

/-- The exception that a call is about. -/
def CacheOp.target : CacheOp → String
  | .upsert _ _ pex => pex.name
  | .delete _ name => name

/-- One call. -/
def ExceptionCache.step (c : ExceptionCache) : CacheOp → ExceptionCache
  | .upsert removal insertion pex => c.upsert removal insertion pex
  | .delete order name => c.delete order name

/-- The exception that a call leaves under its target. -/
def CacheOp.leaves : CacheOp → Option PolicyException
  | .upsert _ _ pex => if pex.status.phase = .active then some pex else none
  | .delete _ _ => none

/-- The exception of a name after a history: the one that the latest call about
the name leaves. -/
def latestActive (ops : List CacheOp) (name : String) : Option PolicyException :=
  (ops.reverse.find? fun op => op.target = name).bind CacheOp.leaves

/-- The exception's own conditions on a request, with its selectors as
`compile` parses them: one that does not parse is no condition. -/
def exceptionApplies (pex : PolicyException) (q : ExemptQuery) : Bool :=
  (pex.spec.matching.namespaces.isEmpty ||
      pex.spec.matching.namespaces.contains q.namespaceName) &&
    selectorHolds (compileSelector pex.spec.matching.resourceSelector) (some q.resourceLabels) &&
    selectorHolds (compileSelector pex.spec.matching.namespaceSelector) q.namespaceLabels

/-- The exception's own target. -/
def exceptionTargets (pex : PolicyException) (p : CompiledPolicy Query) : Bool :=
  pex.spec.allPolicies || pex.spec.policyRefs.contains p.name ||
    p.referencedBy.any fun group => pex.spec.policyGroupRefs.contains group

/-- The lookup without an index: a scan over the names of the history. -/
def scanExempts (ops : List CacheOp) (q : ExemptQuery) (p : CompiledPolicy Query) : Bool :=
  (ops.map CacheOp.target).any fun name =>
    (latestActive ops name).any fun pex => exceptionApplies pex q && exceptionTargets pex p

variable (ops : List CacheOp) (pex : PolicyException) (q : ExemptQuery)

omit [Apimachinery] in
theorem latestActive_snoc (op : CacheOp) (name : String) :
    latestActive (ops ++ [op]) name =
      if op.target = name then op.leaves else latestActive ops name := by
  unfold latestActive
  by_cases h : op.target = name
  · simp [h]
  · simp [h]

omit [Apimachinery] in
/-- The latest exception of a name carries that name, and is active. -/
theorem latestActive_spec {ops : List CacheOp} {name : String} {pex : PolicyException}
    (h : latestActive ops name = some pex) :
    pex.name = name ∧ pex.status.phase = .active ∧ name ∈ ops.map CacheOp.target := by
  obtain ⟨op, hop, hleaves⟩ := Option.bind_eq_some_iff.mp h
  have htarget : op.target = name := by simpa using List.find?_some hop
  have hmem : op ∈ ops := by simpa using List.mem_of_find?_eq_some hop
  cases op with
  | delete order key => exact absurd hleaves (by simp [CacheOp.leaves])
  | upsert removal insertion pex' =>
    simp only [CacheOp.leaves] at hleaves
    split at hleaves
    · rename_i hactive
      cases hleaves
      exact ⟨htarget, hactive, htarget ▸ List.mem_map_of_mem hmem⟩
    · exact absurd hleaves (by simp)

theorem scanExempts_iff (p : CompiledPolicy Query) :
    scanExempts ops q p = true ↔ ∃ name pex, latestActive ops name = some pex ∧
      exceptionApplies pex q = true ∧ exceptionTargets pex p = true := by
  unfold scanExempts
  rw [List.any_eq_true]
  constructor
  · intro h
    obtain ⟨name, -, hany⟩ := h
    cases hlatest : latestActive ops name with
    | none => simp [hlatest] at hany
    | some pex =>
      rw [hlatest] at hany
      simp only [Option.any_some, Bool.and_eq_true] at hany
      exact ⟨name, pex, hlatest, hany⟩
  · intro h
    obtain ⟨name, pex, hlatest, happlies, htargets⟩ := h
    obtain ⟨-, -, hname⟩ := latestActive_spec hlatest
    refine ⟨name, hname, ?_⟩
    rw [hlatest]
    simp [happlies, htargets]

/-- The cache after a history of calls. -/
def cacheAfter (ops : List CacheOp) : ExceptionCache :=
  run ExceptionCache.step {} ops

theorem cacheAfter_valid : (cacheAfter ops).Valid := by
  refine run_invariant_of_step ?_ ExceptionCache.valid_empty ops
  intro c op h
  cases op with
  | upsert removal insertion pex => exact h.upsert removal insertion pex
  | delete order name => exact h.removeUnlocked order name

/-- One call: under its target `all` holds what the call leaves, and under
every other name what it held. -/
theorem ExceptionCache.step_all (c : ExceptionCache) (op : CacheOp) (name : String) :
    (c.step op).all[name]?.map Ptr.value =
      if op.target = name then op.leaves.map compile else c.all[name]?.map Ptr.value := by
  cases op with
  | upsert removal insertion pex =>
    show (c.upsert removal insertion pex).all[name]?.map Ptr.value = _
    rw [ExceptionCache.upsert_all]
    by_cases hname : pex.name = name
    · by_cases hactive : pex.status.phase = .active
      · simp [CacheOp.target, CacheOp.leaves, hname, hactive]
      · simp [CacheOp.target, CacheOp.leaves, hname, hactive]
    · by_cases hactive : pex.status.phase = .active
      · simp [CacheOp.target, hname, hactive]
      · simp [CacheOp.target, hname, hactive]
  | delete order key =>
    show (c.removeUnlocked order key).all[name]?.map Ptr.value = _
    rw [ExceptionCache.removeUnlocked_all, getElem?_erase_key]
    by_cases hname : key = name
    · simp [CacheOp.target, CacheOp.leaves, hname]
    · simp [CacheOp.target, hname]

/-- `all` holds the compiled form of the latest active exceptions. -/
theorem cacheAfter_all (name : String) :
    (cacheAfter ops).all[name]?.map Ptr.value = (latestActive ops name).map compile := by
  induction ops using List.reverseRecOn with
  | nil => simp [cacheAfter, latestActive]
  | append_singleton ops op ih =>
    unfold cacheAfter at ih ⊢
    rw [run_append, latestActive_snoc]
    show ((run ExceptionCache.step {} ops).step op).all[name]?.map Ptr.value = _
    rw [ExceptionCache.step_all, ih]
    split
    · rfl
    · rfl

/-- The namespaces that an exception lists, as the index sees them. -/
theorem mem_namespaces_compile (addr : Nat) (namespaceName : String) :
    (indexKeys ⟨addr, compile pex⟩ = [] ∨ namespaceName ∈ indexKeys ⟨addr, compile pex⟩) ↔
      pex.spec.matching.namespaces = [] ∨ namespaceName ∈ pex.spec.matching.namespaces := by
  have hkeys : indexKeys ⟨addr, compile pex⟩ = [] ↔ pex.spec.matching.namespaces = [] := by
    rw [← isEmpty_iff_indexKeys, Std.ExtTreeMap.isEmpty_iff]
    exact setOf_eq_empty_iff _
  have hmem : namespaceName ∈ indexKeys ⟨addr, compile pex⟩ ↔
      namespaceName ∈ pex.spec.matching.namespaces := by
    rw [indexKeys, Std.ExtTreeMap.mem_keys]
    exact mem_setOf_iff _ _
  rw [hkeys, hmem]

/-- A candidate entry is the compiled form of a latest active exception that
covers the namespace. -/
theorem exists_candidate_iff (namespaceName : String) (P : ExemptEntry → Prop) :
    (∃ e ∈ (cacheAfter ops).candidates namespaceName, P e.value) ↔
      ∃ name pex, latestActive ops name = some pex ∧
        (pex.spec.matching.namespaces = [] ∨ namespaceName ∈ pex.spec.matching.namespaces) ∧
        P (compile pex) := by
  have hvalid := cacheAfter_valid ops
  constructor
  · intro h
    obtain ⟨e, he, hP⟩ := h
    obtain ⟨⟨name, hname⟩, hkeys⟩ := (hvalid.mem_candidates namespaceName e).mp he
    have hall := cacheAfter_all ops name
    rw [hname] at hall
    obtain ⟨pex, hlatest, hcompile⟩ := Option.map_eq_some_iff.mp hall.symm
    obtain ⟨addr, value⟩ := e
    simp only at hcompile hP
    subst hcompile
    exact ⟨name, pex, hlatest, (mem_namespaces_compile pex addr namespaceName).mp hkeys, hP⟩
  · intro h
    obtain ⟨name, pex, hlatest, hnamespace, hP⟩ := h
    have hall := cacheAfter_all ops name
    rw [hlatest] at hall
    obtain ⟨e, hname, hvalue⟩ := Option.map_eq_some_iff.mp hall
    obtain ⟨addr, value⟩ := e
    simp only at hvalue
    subst hvalue
    exact ⟨⟨addr, compile pex⟩, (hvalid.mem_candidates namespaceName _).mpr
      ⟨⟨name, hname⟩, (mem_namespaces_compile pex addr namespaceName).mpr hnamespace⟩, hP⟩

theorem entryTargets_compile (p : CompiledPolicy Query) :
    entryTargets (compile pex) p = exceptionTargets pex p := by
  simp only [entryTargets, exceptionTargets, compile, contains_setOf]

theorem exceptionApplies_iff :
    exceptionApplies pex q = true ↔
      (pex.spec.matching.namespaces = [] ∨
        q.namespaceName ∈ pex.spec.matching.namespaces) ∧
      entryApplies (compile pex) q = true := by
  simp [exceptionApplies, entryApplies, compile, and_assoc]

/-- The indexed lookup returns what the scan returns, after every history. -/
theorem isExempt_cacheAfter (policies : List (CompiledPolicy Query)) (name : String) :
    isExempt ((cacheAfter ops).exemptedKeys q policies) name = true ↔
      ∃ p ∈ policies, p.name = name ∧ scanExempts ops q p = true := by
  rw [isExempt_exemptedKeys, exists_candidate_iff ops q.namespaceName
    (fun entry => entryApplies entry q = true ∧
      ∃ p ∈ policies, p.name = name ∧ entryTargets entry p = true)]
  simp only [scanExempts_iff, exceptionApplies_iff, entryTargets_compile]
  constructor
  · intro h
    obtain ⟨key, pex, hlatest, hnamespace, happlies, p, hp, hname, htargets⟩ := h
    exact ⟨p, hp, hname, key, pex, hlatest, ⟨hnamespace, happlies⟩, htargets⟩
  · intro h
    obtain ⟨p, hp, hname, key, pex, hlatest, ⟨hnamespace, happlies⟩, htargets⟩ := h
    exact ⟨key, pex, hlatest, hnamespace, happlies, p, hp, hname, htargets⟩

/-- The cache against the scan, after every history: the lookup returns the
same names, and the two index structures hold the live entries exactly, with no
stale and no repeated pointer and no empty list. -/
theorem exemptedKeys_eq_scan (ops : List CacheOp) :
    (∀ (q : ExemptQuery) (policies : List (CompiledPolicy Query)) (name : String),
      isExempt ((cacheAfter ops).exemptedKeys q policies) name = true ↔
        ∃ p ∈ policies, p.name = name ∧ scanExempts ops q p = true) ∧
    Lists (fun e => (cacheAfter ops).Live e ∧ indexKeys e = []) (cacheAfter ops).global ∧
    Indexes (cacheAfter ops).Live indexKeys (cacheAfter ops).nsIndex ∧
    ((cacheAfter ops).global.map Ptr.addr).Nodup ∧
    ∀ namespaceName, ((bucket (cacheAfter ops).nsIndex namespaceName).map Ptr.addr).Nodup := by
  have hvalid := cacheAfter_valid ops
  refine ⟨fun q policies name => isExempt_cacheAfter ops q policies name, hvalid.global,
    hvalid.nsIndex, hvalid.addr_nodup hvalid.global, ?_⟩
  intro namespaceName
  exact hvalid.addr_nodup (hvalid.nsIndex.lists namespaceName)

end KubeSentry.Webhook
