import KubeSentry.GoLib.Split
import KubeSentry.Webhook.Handler

/-!
# References in violations

`AdmissionEventReferences` of `internal/webhook/admission_events.go` reads the
policies and groups of an event back from the texts that `formatViolation`
wrote: `[<policy> via <group>,<group>] <message>`, with the description of the
policy on a line of its own.

The reader looks at every line of every text, and a message or a description is
free text that may hold line breaks.  A line of it that looks like a header is
read as one (`Violation.strayLines`).  `references_exact_iff` says that these
lines are the only trouble.
-/

namespace KubeSentry.Webhook

open GoLib

variable {Query : Type}

/-! ## The reader -/

/-- The closure `add`; the set of seen values is the list itself. -/
def addReference (values : List String) (value : String) : List String :=
  let value := trimSpace value
  if value = "" then values else if value ∈ values then values else values ++ [value]

/-- The text between the brackets at the front of a line. -/
def bracketText (line : String) : Option String :=
  let line := trimSpace line
  if line.toList.head? ≠ some '[' then none
  else
    match indexByte line ']' with
    | none => none
    | some stop => if stop ≤ 1 then none else some (slice line 1 stop)

/-- The policy and the groups of a header line, before they are trimmed. -/
def parseHeader (line : String) : Option (String × List String) :=
  match bracketText line with
  | none => none
  | some text =>
    match cut text " via " with
    | none => some (text, [])
    | some (policy, rawGroups) => some (policy, split rawGroups ',')

/-- The two results of `AdmissionEventReferences`. -/
structure References where
  policies : List String := []
  groups : List String := []
  deriving DecidableEq

/-- The body of the loop over the lines. -/
def References.addLine (acc : References) (line : String) : References :=
  match parseHeader line with
  | none => acc
  | some (policy, groups) =>
    { policies := addReference acc.policies policy
      groups := groups.foldl addReference acc.groups }

/-- `AdmissionEventReferences`. -/
def admissionEventReferences (violations : List String) : References :=
  violations.foldl (fun acc violation => (split violation '\n').foldl References.addLine acc) {}

/-! ## What a line names -/

/-- Policies and groups are read in the same way. -/
inductive Side where
  | policy
  | group

/-- What a header has for a side, before it is trimmed. -/
def Side.raw : Side → String × List String → List String
  | .policy, header => [header.1]
  | .group, header => header.2

def Side.of : Side → References → List String
  | .policy, refs => refs.policies
  | .group, refs => refs.groups

/-- The line is read as a header that has the name on this side. -/
def Side.Names (side : Side) (line name : String) : Prop :=
  ∃ header, parseHeader line = some header ∧
    ∃ raw ∈ side.raw header, name = trimSpace raw ∧ name ≠ ""

/-- What one raw name adds. -/
theorem lists_addReference {live : String → Prop} {values : List String} (value : String)
    (h : Lists live values) :
    Lists (fun x => live x ∨ x = trimSpace value ∧ x ≠ "") (addReference values value) := by
  unfold addReference
  dsimp only
  split
  · rename_i hempty
    exact h.congr fun x => (or_iff_left fun hx => hx.2 (hx.1.trans hempty)).symm
  · rename_i hne
    split
    · rename_i hmem
      refine h.congr fun x => (or_iff_left_of_imp fun hx => ?_).symm
      rw [hx.1]
      exact (h.mem _).mp hmem
    · rename_i hnot
      refine ⟨fun x => ?_, List.concat_eq_append ▸ h.nodup.concat hnot⟩
      rw [List.mem_append, List.mem_singleton, h.mem]
      refine or_congr_right ⟨fun hx => ⟨hx, ?_⟩, And.left⟩
      rw [hx]
      exact hne

/-- What one line adds. -/
theorem lists_addLine (side : Side) {live : String → Prop} {acc : References} (line : String)
    (h : Lists live (side.of acc)) :
    Lists (fun x => live x ∨ side.Names line x) (side.of (acc.addLine line)) := by
  unfold References.addLine Side.Names
  cases parseHeader line with
  | none => exact h.congr fun x => by simp
  | some header =>
    have hside : side.of
        { policies := addReference acc.policies header.1
          groups := header.2.foldl addReference acc.groups } =
        (side.raw header).foldl addReference (side.of acc) := by
      cases side with
      | policy => simp only [Side.of, Side.raw, List.foldl_cons, List.foldl_nil]
      | group => rfl
    have hloop : Lists (fun x => live x ∨ ∃ raw ∈ side.raw header, x = trimSpace raw ∧ x ≠ "")
        ((side.raw header).foldl addReference (side.of acc)) :=
      Lists.foldl id lists_addReference h (side.raw header)
    simpa [hside] using hloop

/-- All the lines of the texts. -/
def linesOf (violations : List String) : List String :=
  violations.flatMap fun violation => split violation '\n'

theorem lists_admissionEventReferences (side : Side) (violations : List String) :
    Lists (fun x => ∃ line ∈ linesOf violations, side.Names line x)
      (side.of (admissionEventReferences violations)) := by
  have hempty : Lists (fun _ => False) (side.of {}) := by
    cases side <;> exact Lists.nil fun _ => id
  have heq : admissionEventReferences violations =
      (linesOf violations).foldl References.addLine {} := List.foldl_flatMap.symm
  rw [heq]
  exact (Lists.foldl side.of (lists_addLine side) hempty _).congr fun x => iff_of_eq (false_or _)

/-! ## What the writer writes -/

/-- What a DNS subdomain has to offer here: it is not empty, and it consists of
lower case letters, digits, hyphens and dots. -/
def IsSubdomain (name : String) : Prop :=
  name ≠ "" ∧ ∀ c ∈ name.toList, c.isLower ∨ c.isDigit ∨ c = '-' ∨ c = '.'

instance (name : String) : Decidable (IsSubdomain name) :=
  inferInstanceAs (Decidable (_ ∧ _))

/-- A message of a resolved policy. -/
structure Violation (Query : Type) where
  resolved : Resolved Query
  msg : String

namespace Violation

variable (v : Violation Query)

def text : String :=
  formatViolation v.resolved v.msg

def policy : String :=
  v.resolved.policy.name

def groups : List String :=
  v.resolved.groups

/-- What the violation names on a side. -/
def named : Side → List String
  | .policy => [v.policy]
  | .group => v.groups

def WellNamed : Prop :=
  IsSubdomain v.policy ∧ ∀ g ∈ v.groups, IsSubdomain g

/-- The lines of the free text that start a line of the violation: all but the
first of the message, and all but the first of the description. -/
def strayLines : List String :=
  (split v.msg '\n').tail ++ (split v.resolved.policy.description '\n').tail

/-- The text between the brackets. -/
def headerText : String :=
  v.policy ++ if v.groups.length > 0 then " via " ++ ",".intercalate v.groups else ""

end Violation

section

variable {name : String}

/-- A character that no subdomain has. -/
theorem IsSubdomain.not_mem (h : IsSubdomain name) {d : Char}
    (hd : ¬ (d.isLower ∨ d.isDigit ∨ d = '-' ∨ d = '.')) : d ∉ name.toList :=
  fun hmem => hd (h.2 d hmem)

theorem IsSubdomain.isSpace_eq_false (h : IsSubdomain name) :
    ∀ c ∈ name.toList, isSpace c = false := by
  intro c hc
  have hval : c.val.toNat = c.toNat := rfl
  have hrange : 45 ≤ c.toNat ∧ c.toNat ≤ 122 := by
    rcases h.2 c hc with hl | hl | hl | hl
    · change (c.val ≥ 'a'.val && c.val ≤ 'z'.val) = true at hl
      simp [UInt32.le_iff_toNat_le] at hl
      omega
    · simp [Char.isDigit, UInt32.le_iff_toNat_le] at hl
      omega
    · rw [hl]
      decide
    · rw [hl]
      decide
  have hspace : c ≠ ' ' := by
    intro heq
    rw [heq] at hrange
    exact absurd hrange.1 (by decide)
  simp only [isSpace, hspace, decide_false, Bool.false_or, Bool.or_eq_false_iff,
    Bool.and_eq_false_iff, decide_eq_false_iff_not]
  omega

theorem IsSubdomain.trimSpace_eq (h : IsSubdomain name) : trimSpace name = name :=
  trimSpace_eq_self h.isSpace_eq_false

end

section

variable {v : Violation Query}

theorem Violation.toList_headerText (v : Violation Query) : v.headerText.toList = v.policy.toList ++
      if v.groups.length > 0 then " via ".toList ++ (",".intercalate v.groups).toList else [] := by
  unfold Violation.headerText
  split <;> simp

/-- Neither a closing bracket nor a line break can come from the names. -/
theorem Violation.WellNamed.not_mem_headerText (h : v.WellNamed) {d : Char}
    (hd : ¬ (d.isLower ∨ d.isDigit ∨ d = '-' ∨ d = '.')) (hvia : d ∉ " via ".toList)
    (hcomma : d ∉ ",".toList) : d ∉ v.headerText.toList := by
  intro hmem
  rw [Violation.toList_headerText, List.mem_append] at hmem
  rcases hmem with hpolicy | hgroups
  · exact h.1.not_mem hd hpolicy
  · split at hgroups
    · rcases List.mem_append.mp hgroups with hsep | hjoin
      · exact hvia hsep
      · rcases mem_toList_intercalate hjoin with hsep | hgroup
        · exact hcomma hsep
        · obtain ⟨g, hg, hd'⟩ := hgroup
          exact (h.2 g hg).not_mem hd hd'
    · exact List.not_mem_nil hgroups

/-- The line that `formatViolation` starts with, for the first line of the
message. -/
def Violation.headerLine (v : Violation Query) (first : String) : String :=
  "[" ++ v.headerText ++ "] " ++ first

theorem bracketText_headerLine (h : v.WellNamed) (first : String) :
    bracketText (v.headerLine first) = some v.headerText := by
  have hbracket : isSpace '[' = false := by decide
  have hclose : isSpace ']' = false := by decide
  have hline : (v.headerLine first).toList =
      ('[' :: v.headerText.toList) ++ ']' :: ' ' :: first.toList := by
    simp [Violation.headerLine]
  -- Trimming cannot get past the brackets.
  have htrimmed : (trimSpace (v.headerLine first)).toList =
      ('[' :: v.headerText.toList) ++ ']' :: (' ' :: first.toList).rdropWhile isSpace := by
    rw [toList_trimSpace, hline, List.cons_append, List.dropWhile_cons_of_neg (by simp [hbracket]),
      ← List.cons_append, rdropWhile_append_cons hclose]
  have hnot : ']' ∉ '[' :: v.headerText.toList := by
    have hinner := h.not_mem_headerText (d := ']') (by decide) (by decide) (by decide)
    simpa using hinner
  have hindex := indexByte_eq_some htrimmed hnot
  have hne : v.headerText.toList ≠ [] := by
    rw [Violation.toList_headerText]
    intro hnil
    have hpolicy := (List.append_eq_nil_iff.mp hnil).1
    exact h.1.1 (String.toList_injective hpolicy)
  have hlength : ¬ ('[' :: v.headerText.toList).length ≤ 1 := by
    have := List.length_pos_of_ne_nil hne
    simp only [List.length_cons]
    omega
  unfold bracketText
  dsimp only
  rw [hindex]
  simp only [if_neg hlength]
  rw [if_neg (by rw [htrimmed]; simp)]
  unfold slice
  rw [htrimmed, List.take_left]
  simp

/-- The header comes back as it was written. -/
theorem parseHeader_headerLine (h : v.WellNamed) (first : String) :
    parseHeader (v.headerLine first) = some (v.policy, v.groups) := by
  have hblank : ' ' ∉ v.policy.toList := h.1.not_mem (by decide)
  unfold parseHeader
  rw [bracketText_headerLine h]
  by_cases hgroups : v.groups.length > 0
  · have hcut : cut v.headerText " via " = some (v.policy, ",".intercalate v.groups) := by
      have hvia : " via ".toList = ' ' :: "via ".toList := by decide
      unfold cut
      rw [Violation.toList_headerText, if_pos hgroups, hvia, cutList_append hblank, cutList_self]
      simp only [Option.map_some, List.append_nil, String.ofList_toList]
    have hsplit : split (",".intercalate v.groups) ',' = v.groups := by
      refine split_intercalate (List.ne_nil_of_length_pos hgroups) fun g hg => ?_
      exact (h.2 g hg).not_mem (by decide)
    simp only [hcut, hsplit]
  · have hnone : v.groups = [] := List.eq_nil_of_length_eq_zero (by omega)
    have hcut : cut v.headerText " via " = none := by
      have hvia : " via ".toList = ' ' :: "via ".toList := by decide
      unfold cut
      rw [Violation.toList_headerText, if_neg hgroups, List.append_nil, hvia,
        cutList_eq_none hblank]
      rfl
    have htext : v.headerText = v.policy := by
      apply String.toList_injective
      rw [Violation.toList_headerText, if_neg hgroups, List.append_nil]
    simp only [hcut]
    rw [htext, hnone]

/-- The first line of a description is not read. -/
theorem parseHeader_description (first : String) : parseHeader ("  描述：" ++ first) = none := by
  have hhead : (trimSpace ("  描述：" ++ first)).toList.head? = some '描' := by
    have hline : ("  描述：" ++ first).toList = ' ' :: ' ' :: '描' :: ("述：" ++ first).toList := by
      simp
    have hdrop : ("  描述：" ++ first).toList.dropWhile isSpace =
        [] ++ '描' :: ("述：" ++ first).toList := by
      rw [hline, List.dropWhile_cons_of_pos (by decide), List.dropWhile_cons_of_pos (by decide),
        List.dropWhile_cons_of_neg (by decide)]
      rfl
    rw [toList_trimSpace, hdrop, rdropWhile_append_cons (by decide)]
    rfl
  unfold parseHeader bracketText
  dsimp only
  rw [hhead]
  rfl

/-- The lines of a violation. -/
theorem split_text (h : v.WellNamed) : ∃ first described, split v.text '\n' =
        v.headerLine first :: (split v.msg '\n').tail ++ described ∧
      ∀ N : String → Prop, (∀ first, ¬ N ("  描述：" ++ first)) → ((∃ line ∈ described, N line) ↔
          ∃ line ∈ (split v.resolved.policy.description '\n').tail, N line) := by
  obtain ⟨first, rest, hmsg⟩ := List.exists_cons_of_ne_nil (split_ne_nil v.msg '\n')
  obtain ⟨dfirst, drest, hdescription⟩ :=
    List.exists_cons_of_ne_nil (split_ne_nil v.resolved.policy.description '\n')
  have hheader : split (v.headerLine v.msg) '\n' = v.headerLine first :: rest := by
    refine split_append_of_not_mem ?_ hmsg
    have hinner := h.not_mem_headerText (d := '\n') (by decide) (by decide) (by decide)
    simpa using hinner
  have htext : v.text = if v.resolved.policy.description ≠ "" then
      v.headerLine v.msg ++ "\n  描述：" ++ v.resolved.policy.description
      else v.headerLine v.msg := by
    show formatViolation v.resolved v.msg = _
    unfold formatViolation Violation.headerLine Violation.headerText
    rfl
  by_cases hempty : v.resolved.policy.description = ""
  · refine ⟨first, [], ?_, ?_⟩
    · rw [htext, if_neg (not_not.mpr hempty), hheader, hmsg]
      simp
    · intro N hN
      rw [hempty]
      simp [split]
  · refine ⟨first, ("  描述：" ++ dfirst) :: drest, ?_, ?_⟩
    · have hlabel : "\n  描述：" = String.singleton '\n' ++ "  描述：" := by decide
      rw [htext, if_pos hempty, hlabel, ← String.append_assoc, @String.append_assoc _ "  描述：",
        split_append_sep, hheader, split_append_of_not_mem (by decide) hdescription, hmsg]
      rfl
    · intro N hN
      rw [hdescription]
      simp [hN dfirst]

/-- What the lines of a violation say: the header, and what strays into it. -/
theorem exists_line_iff (h : v.WellNamed) (N : String → Prop) {header : Prop}
    (hheader : ∀ first, N (v.headerLine first) ↔ header)
    (hdescription : ∀ first, ¬ N ("  描述：" ++ first)) :
    (∃ line ∈ split v.text '\n', N line) ↔ header ∨ ∃ line ∈ v.strayLines, N line := by
  obtain ⟨first, described, hlines, hdescribed⟩ := split_text h
  have hstray := hdescribed N hdescription
  unfold Violation.strayLines
  rw [hlines]
  simp only [List.cons_append, List.mem_cons, List.mem_append, or_and_right, exists_or,
    exists_eq_left, hheader, hstray]

theorem names_headerLine (h : v.WellNamed) (side : Side) (first x : String) :
    side.Names (v.headerLine first) x ↔ x ∈ v.named side := by
  have hraw : side.raw (v.policy, v.groups) = v.named side := by cases side <;> rfl
  have hnames : ∀ raw ∈ v.named side, IsSubdomain raw := by
    cases side with
    | policy => simpa [Violation.named] using h.1
    | group => exact h.2
  unfold Side.Names
  rw [parseHeader_headerLine h]
  simp only [Option.some.injEq, exists_eq_left', hraw]
  constructor
  · intro hx
    obtain ⟨raw, hmem, heq, -⟩ := hx
    rw [heq, (hnames raw hmem).trimSpace_eq]
    exact hmem
  · intro hx
    exact ⟨x, hx, (hnames x hx).trimSpace_eq.symm, (hnames x hx).1⟩

end

theorem not_names {line : String} (h : parseHeader line = none) (side : Side) (x : String) :
    ¬ side.Names line x := by
  intro hx
  obtain ⟨header, hheader, -⟩ := hx
  rw [h] at hheader
  cases hheader

theorem parseHeader_empty : parseHeader "" = none := by
  simp [parseHeader, bracketText, trimSpace]

/-! ## Reading back what was written -/

/-- How the violations reach the event: as the one message of a deny, or as the
warnings. -/
inductive Layout where
  | deny
  | warnings

def Layout.violations : Layout → List (Violation Query) → List String
  | .deny, vs => ["\n\n".intercalate (vs.map Violation.text)]
  | .warnings, vs => vs.map Violation.text

/-- Joining with a blank line adds no line but empty ones. -/
theorem exists_line_intercalate (texts : List String) (N : String → Prop) (hN : ¬ N "") :
    (∃ line ∈ split ("\n\n".intercalate texts) '\n', N line) ↔
      ∃ text ∈ texts, ∃ line ∈ split text '\n', N line := by
  induction texts with
  | nil => simp [split, hN]
  | cons text texts ih =>
    cases texts with
    | nil => simp
    | cons next texts =>
      have hbreak : "\n\n" = String.singleton '\n' ++ "" ++ String.singleton '\n' := by decide
      have hsplit : split (text ++ "\n\n" ++ "\n\n".intercalate (next :: texts)) '\n' =
          split text '\n' ++ [""] ++ split ("\n\n".intercalate (next :: texts)) '\n' := by
        rw [hbreak, ← String.append_assoc, ← String.append_assoc, split_append_sep,
          split_append_sep]
        rfl
      rw [String.intercalate_cons_cons, hsplit]
      simp only [List.mem_append, List.mem_cons, List.not_mem_nil, or_and_right, exists_or,
        exists_eq_left, hN, or_false, ih]

theorem exists_line_layout (layout : Layout) (vs : List (Violation Query)) (N : String → Prop)
    (hN : ¬ N "") :
    (∃ line ∈ linesOf (layout.violations vs), N line) ↔
      ∃ v ∈ vs, ∃ line ∈ split v.text '\n', N line := by
  cases layout with
  | deny =>
    simp only [linesOf, Layout.violations, List.flatMap_cons, List.flatMap_nil, List.append_nil]
    rw [exists_line_intercalate _ N hN]
    simp
  | warnings =>
    simp only [linesOf, Layout.violations, List.mem_flatMap, List.mem_map]
    constructor
    · intro h
      obtain ⟨line, ⟨text, ⟨v, hv, htext⟩, hline⟩, hnamed⟩ := h
      rw [← htext] at hline
      exact ⟨v, hv, line, hline, hnamed⟩
    · intro h
      obtain ⟨v, hv, line, hline, hnamed⟩ := h
      exact ⟨line, ⟨v.text, ⟨v, hv, rfl⟩, hline⟩, hnamed⟩

/-- The references are the policies of the violations and their groups, each
once. -/
structure ReferencesExact (vs : List (Violation Query)) (refs : References) : Prop where
  nodup : ∀ side : Side, (side.of refs).Nodup
  mem : ∀ (side : Side) x, x ∈ side.of refs ↔ ∃ v ∈ vs, x ∈ v.named side

/-- No line of a message or description, other than a first one, is read as a
header that names something else. -/
def NothingStray (vs : List (Violation Query)) : Prop :=
  ∀ v ∈ vs, ∀ line ∈ v.strayLines, ∀ (side : Side) x, side.Names line x →
    ∃ w ∈ vs, x ∈ w.named side

theorem mem_references_iff {vs : List (Violation Query)} (hnames : ∀ v ∈ vs, v.WellNamed)
    (layout : Layout) (side : Side) (x : String) :
    x ∈ side.of (admissionEventReferences (layout.violations vs)) ↔
      ∃ v ∈ vs, x ∈ v.named side ∨ ∃ line ∈ v.strayLines, side.Names line x := by
  have hblank : ¬ side.Names "" x := not_names parseHeader_empty side x
  rw [(lists_admissionEventReferences side _).mem, exists_line_layout layout vs _ hblank]
  refine exists_congr fun v => and_congr_right fun hv => ?_
  exact exists_line_iff (hnames v hv) _ (fun first => names_headerLine (hnames v hv) side first x)
    fun first => not_names (parseHeader_description first) side x

/-- The references of an event are exact, in either layout, as long as nothing
strays, and only then. -/
theorem references_exact_iff (vs : List (Violation Query)) (hnames : ∀ v ∈ vs, v.WellNamed)
    (layout : Layout) :
    ReferencesExact vs (admissionEventReferences (layout.violations vs)) ↔ NothingStray vs := by
  constructor
  · intro hexact v hv line hline side x hx
    rw [← hexact.mem side x, mem_references_iff hnames]
    exact ⟨v, hv, .inr ⟨line, hline, hx⟩⟩
  · intro hstray
    refine ⟨fun side => (lists_admissionEventReferences side _).nodup, fun side x => ?_⟩
    rw [mem_references_iff hnames]
    constructor
    · intro h
      obtain ⟨v, hv, hnamed | ⟨line, hline, hx⟩⟩ := h
      · exact ⟨v, hv, hnamed⟩
      · exact hstray v hv line hline side x hx
    · intro h
      obtain ⟨v, hv, hnamed⟩ := h
      exact ⟨v, hv, .inl hnamed⟩

/-- A violation of `no-root`, brought in by two groups. -/
def noRootViolation (msg : String) : Violation Unit where
  resolved :=
    { policy := { name := "no-root", query := (), description := "pods must not\nrun as root" }
      mode := .enforce
      groups := ["baseline", "restricted"] }
  msg := msg

theorem noRootViolation_wellNamed (msg : String) : (noRootViolation msg).WellNamed := by
  show IsSubdomain "no-root" ∧ ∀ g ∈ ["baseline", "restricted"], IsSubdomain g
  simp [IsSubdomain]

/-- A message that quotes a field of the object, with a second line that looks
like a header. -/
def quotedViolation : Violation Unit :=
  noRootViolation "owner x\n[evil via other]"

/-- The event then names a policy and a group that have nothing to do with it. -/
theorem quoted_header_is_read : quotedViolation.WellNamed ∧
      admissionEventReferences (Layout.deny.violations [quotedViolation]) =
        { policies := ["no-root", "evil"], groups := ["baseline", "restricted", "other"] } ∧
      ¬ ReferencesExact [quotedViolation]
        (admissionEventReferences (Layout.deny.violations [quotedViolation])) := by
  have hread : admissionEventReferences (Layout.deny.violations [quotedViolation]) =
      { policies := ["no-root", "evil"], groups := ["baseline", "restricted", "other"] } := by
    decide +kernel
  refine ⟨noRootViolation_wellNamed _, hread, fun hexact => ?_⟩
  rw [hread] at hexact
  obtain ⟨v, hv, hpolicy⟩ := (hexact.mem .policy "evil").mp (by simp [Side.of])
  rw [List.mem_singleton.mp hv] at hpolicy
  exact absurd hpolicy (by decide)

/-- A message of two lines, read back from the warnings. -/
theorem references_exact_iff_two_lines : ReferencesExact [noRootViolation "runs as root\n(uid 0)"]
      (admissionEventReferences (Layout.warnings.violations
        [noRootViolation "runs as root\n(uid 0)"])) := by
  refine (references_exact_iff _ ?_ .warnings).mpr ?_
  · intro v hv
    rw [List.mem_singleton.mp hv]
    exact noRootViolation_wellNamed _
  · have hlines : ∀ line ∈ (noRootViolation "runs as root\n(uid 0)").strayLines,
        parseHeader line = none := by decide +kernel
    intro v hv line hline side x hx
    rw [List.mem_singleton.mp hv] at hline
    exact absurd hx (not_names (hlines line hline) side x)

end KubeSentry.Webhook
