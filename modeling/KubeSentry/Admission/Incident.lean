import KubeSentry.Api.Proto

/-!
# Link incidents

The incident record of `internal/admission/observability`, its validation, and
the bounded sample list.  A revision is a `uint64` and the affected count an
`int64`; both wrap around.

Go measures a string in bytes and `truncate` cuts at runes.  A Lean string is a
sequence of runes, so `length` counts runes and `utf8ByteSize` counts bytes.
-/

namespace KubeSentry.Observability

open GoLib

def maxSampleEventIDs : Nat := 5

def maxDetailLength : Nat := 200

def maxIdentityLength : Nat := 128

/-- The conversion to `uint64`. -/
def uint64 (n : Nat) : Nat := n % 2 ^ 64

/-- The conversion to `int64`. -/
def int64 (x : Int) : Int := Int.bmod x (2 ^ 64)

/-- The zero `time.Time`, the first of January of the year 1. -/
def zeroTime : Time := -62135596800000000000

/-! ## Components and reasons -/

/-- `Component`; the Go type is a string. -/
inductive Component where
  | webhook
  | operator
  | gateway
  | other (text : String)
  deriving DecidableEq, Repr

namespace Component

def text : Component → String
  | .webhook => "webhook"
  | .operator => "operator"
  | .gateway => "gateway"
  | .other text => text

/-- The conversion `Component(text)`. -/
def ofText (text : String) : Component :=
  if text = "webhook" then .webhook
  else if text = "operator" then .operator
  else if text = "gateway" then .gateway
  else .other text

def valid : Component → Bool
  | .other _ => false
  | _ => true

/-- `ValidMember`: the components that run on a member cluster. -/
def validMember : Component → Bool
  | .webhook | .operator => true
  | _ => false

theorem ofText_text {c : Component} (hvalid : c.valid = true) : ofText c.text = c := by
  cases c with
  | other text => cases hvalid
  | _ => rfl

end Component

def reasonACKTimeout : String := "ack_timeout"

def reasonBatchFailure : String := "batch_failure"

def reasonReportDropped : String := "report_dropped"

/-- `validReasons`. -/
def validReasons : List String :=
  ["queue_full", "retry_exhausted", reasonACKTimeout, "auth_failure", reasonBatchFailure,
    "write_failed", reasonReportDropped]

/-- `ValidReason`. -/
def validReason (reason : String) : Bool := reason ∈ validReasons

/-! ## Incidents -/

structure Incident where
  incidentKey : String
  reporterInstanceID : String
  revision : Nat
  component : Component
  reason : String
  startedAt : Time
  lastSeenAt : Time
  affectedCount : Int
  sampleEventIDs : List String := []
  detail : String
  closed : Bool := false
  deriving DecidableEq

/-- `Validate`: the error, if there is one. -/
def Incident.validate [GoUnicode] (i : Incident) : Option String :=
  if i.incidentKey = "" ∨ maxIdentityLength < i.incidentKey.utf8ByteSize then
    some "incident key is required and must not exceed 128 characters"
  else if i.reporterInstanceID = "" ∨ maxIdentityLength < i.reporterInstanceID.utf8ByteSize then
    some "reporter instance id is required and must not exceed 128 characters"
  else if i.revision = 0 then some "revision must be positive"
  else if !i.component.valid then some ("invalid component " ++ quote i.component.text)
  else if !validReason i.reason then some ("invalid reason " ++ quote i.reason)
  else if i.startedAt = zeroTime ∨ i.lastSeenAt = zeroTime then
    some "incident timestamps are required"
  else if i.lastSeenAt < i.startedAt then some "last_seen_at must not precede started_at"
  else if i.affectedCount ≤ 0 then some "affected_count must be positive"
  else if maxSampleEventIDs < i.sampleEventIDs.length then some "too many sample event ids"
  else if maxDetailLength < i.detail.utf8ByteSize then some "detail is too long"
  else none

/-- What `Validate` asks for. -/
structure Incident.Valid (i : Incident) : Prop where
  key : ¬ (i.incidentKey = "" ∨ maxIdentityLength < i.incidentKey.utf8ByteSize)
  reporter :
    ¬ (i.reporterInstanceID = "" ∨ maxIdentityLength < i.reporterInstanceID.utf8ByteSize)
  revision : i.revision ≠ 0
  component : i.component.valid = true
  reason : validReason i.reason = true
  times : ¬ (i.startedAt = zeroTime ∨ i.lastSeenAt = zeroTime)
  order : i.startedAt ≤ i.lastSeenAt
  count : 0 < i.affectedCount
  samples : i.sampleEventIDs.length ≤ maxSampleEventIDs
  detail : i.detail.utf8ByteSize ≤ maxDetailLength

/-- A check that has found nothing, and the checks after it. -/
theorem check_eq_none {c : Prop} [Decidable c] {text : String} {rest : Option String} :
    (if c then some text else rest) = none ↔ ¬ c ∧ rest = none := by
  by_cases hc : c
  · simp [hc]
  · simp [hc]

variable {i : Incident} {values oldValues newValues : List String}

theorem validate_eq_none_iff [GoUnicode] : i.validate = none ↔ i.Valid := by
  unfold Incident.validate
  simp only [check_eq_none, Bool.not_eq_true', Bool.not_eq_false, not_lt, not_le, and_true]
  constructor
  · intro h
    obtain ⟨hkey, hreporter, hrevision, hcomponent, hreason, htimes, horder, hcount, hsamples,
      hdetail⟩ := h
    exact ⟨hkey, hreporter, hrevision, hcomponent, hreason, htimes, horder, hcount, hsamples,
      hdetail⟩
  · intro h
    exact ⟨h.key, h.reporter, h.revision, h.component, h.reason, h.times, h.order, h.count,
      h.samples, h.detail⟩

/-- The first `limit` runes. -/
def truncate (value : String) (limit : Nat) : String :=
  if value.length ≤ limit then value else String.ofList (value.toList.take limit)

/-! ## Sample event ids -/

/-- `appendSample`: at most five ids, without blanks and repetitions. -/
def appendSample (values : List String) (value : String) : List String :=
  let value := trimSpace value
  if value = "" ∨ maxSampleEventIDs ≤ values.length then values
  else if value ∈ values then values
  else values ++ [value]

/-- `MergeSampleEventIDs`. -/
def mergeSampleEventIDs (oldValues newValues : List String) : List String :=
  newValues.foldl appendSample oldValues

/-- A list as `appendSample` builds it. -/
structure Samples (values : List String) : Prop where
  nodup : values.Nodup
  length : values.length ≤ maxSampleEventIDs
  trimmed : ∀ v ∈ values, v ≠ "" ∧ trimSpace v = v

theorem Samples.nil : Samples [] :=
  ⟨List.nodup_nil, Nat.zero_le _, by simp⟩

theorem Samples.initial {values' : List String} (h : Samples values') (hpre : values <+: values') :
    Samples values :=
  ⟨h.nodup.sublist hpre.sublist, hpre.length_le.trans h.length,
    fun v hv => h.trimmed v (hpre.subset hv)⟩

theorem Samples.append (h : Samples values) (value : String) :
    Samples (appendSample values value) := by
  unfold appendSample
  dsimp only
  split_ifs with hskip hmem
  · exact h
  · exact h
  · rw [not_or, not_le] at hskip
    refine ⟨?_, ?_, ?_⟩
    · refine List.nodup_append.mpr ⟨h.nodup, List.nodup_singleton _, ?_⟩
      intro a ha b hb hab
      rw [List.mem_singleton.mp hb] at hab
      exact hmem (hab ▸ ha)
    · rw [List.length_append, List.length_singleton]
      exact hskip.2
    · exact List.forall_mem_append.mpr
        ⟨h.trimmed, List.forall_mem_singleton.mpr ⟨hskip.1, trimSpace_trimSpace value⟩⟩

/-- Samples are only added at the end. -/
theorem prefix_appendSample (values : List String) (value : String) :
    values <+: appendSample values value := by
  unfold appendSample
  dsimp only
  split_ifs
  · exact List.prefix_refl _
  · exact List.prefix_refl _
  · exact List.prefix_append _ _

theorem mergeSampleEventIDs_of_subset (hsubset : newValues ⊆ oldValues)
    (htrimmed : ∀ v ∈ newValues, trimSpace v = v) :
    mergeSampleEventIDs oldValues newValues = oldValues := by
  unfold mergeSampleEventIDs
  induction newValues with
  | nil => rfl
  | cons v rest ih =>
    have hv : appendSample oldValues v = oldValues := by
      unfold appendSample
      dsimp only
      rw [htrimmed v List.mem_cons_self]
      split_ifs with hskip hmem
      · rfl
      · rfl
      · exact absurd (hsubset List.mem_cons_self) hmem
    rw [List.foldl_cons, hv]
    exact ih (fun w hw => hsubset (List.mem_cons_of_mem _ hw))
      fun w hw => htrimmed w (List.mem_cons_of_mem _ hw)

/-- Samples that extend the old ones are appended one by one. -/
theorem foldl_appendSample {rest : List String} (h : Samples (oldValues ++ rest)) :
    rest.foldl appendSample oldValues = oldValues ++ rest := by
  induction rest generalizing oldValues with
  | nil => rw [List.append_nil, List.foldl_nil]
  | cons v rest ih =>
    have hv : appendSample oldValues v = oldValues ++ [v] := by
      have hlength := h.length
      have hnodup := h.nodup
      obtain ⟨hne, htrim⟩ := h.trimmed v (List.mem_append_right _ List.mem_cons_self)
      rw [List.length_append, List.length_cons] at hlength
      unfold appendSample
      rw [htrim, if_neg, if_neg]
      · intro hmem
        exact (List.nodup_append.mp hnodup).2.2 v hmem v List.mem_cons_self rfl
      · rw [not_or]
        exact ⟨hne, by omega⟩
    rw [List.foldl_cons, hv, ih]
    · rw [List.append_assoc, List.singleton_append]
    · rw [List.append_assoc, List.singleton_append]
      exact h

theorem mergeSampleEventIDs_extend (hpre : oldValues <+: newValues) (h : Samples newValues) :
    mergeSampleEventIDs oldValues newValues = newValues := by
  obtain ⟨rest, hrest⟩ := hpre
  rw [← hrest] at h ⊢
  have hold : mergeSampleEventIDs oldValues oldValues = oldValues :=
    mergeSampleEventIDs_of_subset (List.Subset.refl _)
      fun v hv => (h.trimmed v (List.mem_append_left _ hv)).2
  unfold mergeSampleEventIDs at hold ⊢
  rw [List.foldl_append, hold]
  exact foldl_appendSample h

/-- Two prefixes of one sample list merge to the longer one. -/
theorem mergeSampleEventIDs_prefixes {a b : List String} (ha : a <+: values) (hb : b <+: values)
    (h : Samples values) :
    mergeSampleEventIDs a b = a ∧ b <+: a ∨ mergeSampleEventIDs a b = b ∧ a <+: b := by
  rcases List.prefix_or_prefix_of_prefix ha hb with hab | hba
  · exact .inr ⟨mergeSampleEventIDs_extend hab (h.initial hb), hab⟩
  · refine .inl ⟨mergeSampleEventIDs_of_subset hba.subset ?_, hba⟩
    intro v hv
    exact (h.trimmed v (hb.subset hv)).2

/-! ## Incidents on the wire

The member and the gateway each have a copy of these functions. -/

/-- `MaxBatchSize`. -/
def maxBatchSize : Nat := 256

/-- The errors of `incidentModel`. -/
inductive IncidentError where
  | missingFields
  | timestamp (err : TimestampError)
  | invalid (text : String)
  deriving DecidableEq

/-- The fields of a wire incident, with the times already read. -/
def incidentOfWire (wire : LinkIncident) (startedAt lastSeenAt : Time) : Incident where
  incidentKey := wire.incidentKey
  reporterInstanceID := wire.reporterInstanceID
  revision := wire.revision
  component := .ofText wire.component
  reason := wire.reason
  startedAt := startedAt
  lastSeenAt := lastSeenAt
  affectedCount := wire.affectedCount
  sampleEventIDs := wire.sampleEventIDs
  detail := wire.detail
  closed := wire.closed

/-- An incident that passes `Validate`, or its error. -/
def validated [GoUnicode] (i : Incident) : Except IncidentError Incident :=
  match i.validate with
  | some text => .error (.invalid text)
  | none => .ok i

def incidentModel [GoUnicode] (wire : Option LinkIncident) : Except IncidentError Incident :=
  match wire with
  | none => .error .missingFields
  | some wire =>
    match wire.startedAt, wire.lastSeenAt with
    | some startedAt, some lastSeenAt =>
      match startedAt.checkValid, lastSeenAt.checkValid with
      | some err, _ => .error (.timestamp err)
      | none, some err => .error (.timestamp err)
      | none, none => validated (incidentOfWire wire startedAt.asTime lastSeenAt.asTime)
    | _, _ => .error .missingFields

def incidentProto (i : Incident) : LinkIncident where
  incidentKey := i.incidentKey
  reporterInstanceID := i.reporterInstanceID
  revision := i.revision
  component := i.component.text
  reason := i.reason
  startedAt := some (.ofTime i.startedAt)
  lastSeenAt := some (.ofTime i.lastSeenAt)
  affectedCount := i.affectedCount
  sampleEventIDs := i.sampleEventIDs
  detail := i.detail
  closed := i.closed

/-- `incidentIdentity`: the getter tolerates nil. -/
def incidentIdentity : Option LinkIncident → String
  | none => ""
  | some wire => wire.incidentKey

/-- `incidentRevision`. -/
def incidentRevision : Option LinkIncident → Nat
  | none => 0
  | some wire => wire.revision

/-- The result that `linkIncidentACK` makes for a wire incident. -/
def linkIncidentACK (wire : Option LinkIncident) (status : AckStatus) (reason : String) :
    LinkIncidentResult where
  incidentKey := incidentIdentity wire
  revision := incidentRevision wire
  status := status
  reason := reason

/-- Every result of a batch that is not looked at. -/
def answerAll (status : AckStatus) (reason : String) (batch : List (Option LinkIncident)) :
    List LinkIncidentResult :=
  batch.map fun incoming => linkIncidentACK incoming status reason

/-- The receiver reads the incident that was sent, if it is valid and its times
can be written. -/
theorem incidentModel_incidentProto [GoUnicode] (hvalid : i.validate = none)
    (hstarted : (Timestamp.ofTime i.startedAt).checkValid = none)
    (hseen : (Timestamp.ofTime i.lastSeenAt).checkValid = none) :
    incidentModel (some (incidentProto i)) = .ok i := by
  have hread : incidentOfWire (incidentProto i) (Timestamp.ofTime i.startedAt).asTime
      (Timestamp.ofTime i.lastSeenAt).asTime = i := by
    rw [Timestamp.asTime_ofTime, Timestamp.asTime_ofTime]
    unfold incidentOfWire incidentProto
    rw [Component.ofText_text (validate_eq_none_iff.mp hvalid).component]
  unfold incidentModel
  dsimp only [incidentProto]
  rw [hstarted, hseen]
  unfold incidentProto at hread
  rw [hread, validated, hvalid]

end KubeSentry.Observability
