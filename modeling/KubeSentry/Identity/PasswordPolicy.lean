import KubeSentry.GoLib.Recent
import KubeSentry.Identity.PasswordCalls

/-!
# The password policy

Histories of the four calls that set a password, one call after the other.

An `Audit` watches one user from outside.  Its log has the passwords that were current, the
most recent first and each one once, and says which of them a reset has set.

`ResetPassword` asks for twelve bytes whatever the settings say, and it leaves nothing in
the history.  So the policy holds in the histories whose calls are `Lawful`: a reset that
succeeds keeps to the length of the settings, and no change that succeeds goes back to a
recent password that a reset had set.
-/

namespace KubeSentry.Identity

open GoLib Fallible IdentityRepo

/-! ## The audit of one user -/

/-- A password that was current. -/
structure PasswordEntry where
  password : String
  byReset : Bool
  deriving DecidableEq

structure Audit where
  state : IdentityState
  log : List PasswordEntry := []

/-- A call with the inputs that it meets. -/
structure PasswordEvent where
  call : PasswordCall
  inputs : List IdentityInput := []

section

variable [Credentials]

namespace Audit

/-- As many of the most recent passwords as the settings ask for. -/
def recent (a : Audit) : List PasswordEntry :=
  a.log.take a.state.settings.passwordHistoryCount.toNat

/-- What the call leaves and returns. -/
def after (a : Audit) (e : PasswordEvent) : IdentityState × Except IdentityError Unit :=
  ((e.call.code.exec a.state e.inputs).1, (e.call.code.exec a.state e.inputs).2.1)

/-- The call runs, and the password that it has set is the most recent one. -/
def step (userID : Int) (a : Audit) (e : PasswordEvent) : Audit where
  state := (a.after e).1
  log :=
    if (a.after e).1.passwordHash userID = a.state.passwordHash userID then a.log
    else Recent.push (·.password) ⟨e.call.password, e.call.isReset⟩ a.log

/-- A reset keeps to the length of the settings, and a recent password that a reset had set
is not set again. -/
def Keeps (userID : Int) (a : Audit) : PasswordCall → Prop
  | .resetPassword _ target password =>
    target = userID → a.state.settings.passwordMinLength ≤ byteLength password
  | .changePassword principal _ _ newPassword =>
    principal.userID = userID →
      ∀ entry ∈ a.recent, entry.byReset = true → entry.password ≠ newPassword
  | _ => True

/-- The same of a call that succeeds. -/
def Lawful (userID : Int) (a : Audit) (e : PasswordEvent) : Prop :=
  (a.after e).2 = .ok () → a.Keeps userID e.call

/-- The policy for one call: a password that becomes current has the length of the settings,
and an accepted change of the password is to one that is neither current nor recent. -/
structure Complies (userID : Int) (a : Audit) (e : PasswordEvent) : Prop where
  length : (a.step userID e).state.passwordHash userID ≠ a.state.passwordHash userID →
    a.state.settings.passwordMinLength ≤ byteLength e.call.password ∧
      (a.step userID e).state.HasPassword userID e.call.password
  change : ∀ principal sessionToken currentPassword newPassword,
    e.call = .changePassword principal sessionToken currentPassword newPassword →
    principal.userID = userID → (a.after e).2 = .ok () →
      ¬ a.state.HasPassword userID newPassword ∧
        ∀ entry ∈ a.recent, entry.password ≠ newPassword

/-- The first entry of the log is the current password, and the recent passwords that no
reset has set are in the history. -/
structure Audited (userID : Int) (a : Audit) : Prop where
  current : ∀ password, a.state.HasPassword userID password ↔
    ∃ entry, a.log.head? = some entry ∧ entry.password = password
  recorded : Recent.Covered a.state.settings.passwordHistoryCount.toNat
    (fun entry => entry.byReset = false)
    (fun entry hash => Credentials.compare hash entry.password = true) a.log
    (a.state.hashesOf userID)

end Audit

/-! ## One call -/

omit [Credentials] in
theorem passwordMinLength_le_requiredLength (settings : SecuritySettings) :
    settings.passwordMinLength ≤ requiredLength settings := by
  unfold requiredLength minimumPasswordLength
  split <;> omega

theorem compare_of_unused {password : String} {hashes : List String}
    (h : passwordWasUsed password hashes = false) {hash : String} (hhash : hash ∈ hashes) :
    Credentials.compare hash password = false := by
  by_cases hempty : hash = ""
  · rw [hempty]
    exact Credentials.compare_empty password
  · have hnot := List.any_eq_false.mp h hash hhash
    simpa [hempty] using hnot

/-- All but a reset have found that the password is not the current one. -/
theorem PasswordCall.compare_old {c : PasswordCall} {s : IdentityState} {userID : Int}
    {old : String} (hcount : 1 ≤ s.settings.passwordHistoryCount)
    (hchecked : c.Checked s userID old) (hreset : c.isReset = false) :
    Credentials.compare old c.password = false := by
  cases c with
  | initializeAdmin password =>
    rw [hchecked.2]
    exact Credentials.compare_empty password
  | activate code password =>
    rw [hchecked.2]
    exact Credentials.compare_empty password
  | changePassword principal sessionToken currentPassword newPassword =>
    exact compare_of_unused (hchecked.2.2 hcount) (List.mem_append_right _ List.mem_cons_self)
  | resetPassword actor target password => cases hreset

namespace Audit

variable {userID : Int} {a : Audit} {e : PasswordEvent} {s' : IdentityState}
  {old hash salt : String}

/-- What a call does to the user: nothing, or it sets the password. -/
theorem after_cases (userID : Int) (a : Audit) (e : PasswordEvent) :
    (a.after e).1.settings = a.state.settings ∧
    (((a.after e).1.passwordHash userID = a.state.passwordHash userID ∧
      (a.after e).1.hashesOf userID = a.state.hashesOf userID ∧
      ∀ principal sessionToken currentPassword newPassword,
        e.call = .changePassword principal sessionToken currentPassword newPassword →
        (a.after e).2 = .ok () → principal.userID ≠ userID) ∨
    ∃ old hash salt, (a.after e).2 = .ok () ∧ a.state.passwordHash userID = some old ∧
      Credentials.generate e.call.password salt = some hash ∧
      e.call.Checked a.state userID old ∧
      Sets a.state (a.after e).1 userID hash (!e.call.isReset)) := by
  have houtcome : Outcome (fun s' _ => e.call.Writes a.state s')
      (fun s' _ => Unchanged a.state s') (a.after e).1 (a.after e).2 :=
    e.call.outcome a.state e.inputs
  cases hresult : (a.after e).2 with
  | error err =>
    rw [hresult] at houtcome
    refine ⟨houtcome.settings, .inl ⟨houtcome.passwordHash userID, houtcome.hashesOf userID, ?_⟩⟩
    intro principal sessionToken currentPassword newPassword _ hok
    cases hok
  | ok done =>
    rw [hresult] at houtcome
    obtain ⟨id, old, hash, salt, hold, hgenerate, hchecked, hsets⟩ := houtcome
    refine ⟨hsets.settings, ?_⟩
    by_cases hid : id = userID
    · rw [hid] at hold hchecked hsets
      exact .inr ⟨old, hash, salt, rfl, hold, hgenerate, hchecked, hsets⟩
    · refine .inl ⟨?_, ?_, ?_⟩
      · rw [hsets.passwordHash, if_neg (Ne.symm hid)]
      · rw [hsets.hashesOf, if_neg fun h => hid h.2.symm]
      · intro principal sessionToken currentPassword newPassword hcall _ huser
        rw [hcall] at hchecked
        exact hid (hchecked.2.1.symm.trans huser)

theorem passwordMinLength_le (hkeeps : a.Keeps userID e.call)
    (hchecked : e.call.Checked a.state userID old) :
    a.state.settings.passwordMinLength ≤ byteLength e.call.password := by
  have hrequired := passwordMinLength_le_requiredLength a.state.settings
  obtain ⟨call, inputs⟩ := e
  cases call with
  | initializeAdmin password => exact hrequired.trans hchecked.1
  | activate code password => exact hrequired.trans hchecked.1
  | changePassword principal sessionToken currentPassword newPassword =>
    exact hrequired.trans hchecked.1
  | resetPassword actor target password => exact hkeeps hchecked

variable (h : Audited userID a)

include h

/-- Without a hash the log is empty. -/
theorem Audited.log_eq_nil (hhash : a.state.passwordHash userID = some "") : a.log = [] := by
  cases hlog : a.log with
  | nil => rfl
  | cons entry rest =>
    have hhead : a.log.head? = some entry := by
      rw [hlog]
      rfl
    have hcurrent := (h.current entry.password).mpr ⟨entry, hhead, rfl⟩
    rw [IdentityState.hasPassword_iff hhash, Credentials.compare_empty] at hcurrent
    cases hcurrent

/-- The rows of the user are as they were. -/
theorem Audited.same (hsettings : s'.settings = a.state.settings)
    (hhash : s'.passwordHash userID = a.state.passwordHash userID)
    (hhashes : s'.hashesOf userID = a.state.hashesOf userID) :
    Audited userID { a with state := s' } := by
  constructor
  · intro password
    unfold IdentityState.HasPassword
    rw [hhash]
    exact h.current password
  · show Recent.Covered s'.settings.passwordHistoryCount.toNat _ _ a.log (s'.hashesOf userID)
    rw [hsettings, hhashes]
    exact h.recorded

/-- The user has a new password. -/
theorem Audited.set {password : String} {byReset : Bool}
    (hsets : Sets a.state s' userID hash (!byReset)) (hold : a.state.passwordHash userID = some old)
    (hgenerate : Credentials.generate password salt = some hash)
    (hfresh : byReset = false → ∀ entry ∈ a.recent, entry.password ≠ password) :
    Audited userID { state := s', log := Recent.push (·.password) ⟨password, byReset⟩ a.log } := by
  have hmatch := Credentials.compare_generate hgenerate
  constructor
  · intro candidate
    show s'.HasPassword userID candidate ↔ _
    rw [IdentityState.hasPassword_iff (hsets.passwordHash_self hold), hmatch]
    constructor
    · intro heq
      exact ⟨_, rfl, heq.symm⟩
    · intro hhead
      obtain ⟨entry, hentry, heq⟩ := hhead
      cases hentry
      exact heq.symm
  · show Recent.Covered s'.settings.passwordHistoryCount.toNat _ _ _ (s'.hashesOf userID)
    rw [hsets.settings, hsets.hashesOf]
    cases byReset with
    | true =>
      exact Recent.covered_push_other h.recorded (by simp)
    | false =>
      rw [if_pos (by simp)]
      refine Recent.covered_push_kept h.recorded ?_ ((hmatch password).mpr rfl)
      exact hfresh rfl

variable (hcount : 1 ≤ a.state.settings.passwordHistoryCount)

include hcount

/-- What `ChangePassword` accepts is not one of the recent passwords. -/
theorem Audited.not_recent {newPassword : String}
    (hunused : 0 < a.state.settings.passwordHistoryCount → passwordWasUsed newPassword
      ((a.state.hashesOf userID).take a.state.settings.passwordHistoryCount.toNat ++ [old]) = false)
    (hkeeps : ∀ entry ∈ a.recent, entry.byReset = true → entry.password ≠ newPassword) :
    ∀ entry ∈ a.recent, entry.password ≠ newPassword := by
  intro entry hentry heq
  cases hreset : entry.byReset with
  | true => exact hkeeps entry hentry hreset heq
  | false =>
    obtain ⟨hash, hhash, hmatch⟩ := h.recorded _ (Nat.le_refl _) entry hentry hreset
    have hno := compare_of_unused (hunused hcount) (List.mem_append_left [old] hhash)
    rw [heq, hno] at hmatch
    cases hmatch

/-- A password that gets a row in the history is not one of the recent ones. -/
theorem Audited.fresh (hkeeps : a.Keeps userID e.call)
    (hold : a.state.passwordHash userID = some old)
    (hchecked : e.call.Checked a.state userID old) (hreset : e.call.isReset = false) :
    ∀ entry ∈ a.recent, entry.password ≠ e.call.password := by
  have hfirst : old = "" → ∀ entry ∈ a.recent, entry.password ≠ e.call.password := by
    intro hempty entry hentry
    rw [hempty] at hold
    have hmem := List.mem_of_mem_take hentry
    rw [h.log_eq_nil hold] at hmem
    cases hmem
  obtain ⟨call, inputs⟩ := e
  cases call with
  | initializeAdmin password => exact hfirst hchecked.2
  | activate code password => exact hfirst hchecked.2
  | changePassword principal sessionToken currentPassword newPassword =>
    exact h.not_recent hcount hchecked.2.2 (hkeeps hchecked.2.1)
  | resetPassword actor target password => cases hreset

/-- The log is right after a call that sets the password. -/
theorem Audited.step_set (hkeeps : a.Keeps userID e.call)
    (hold : a.state.passwordHash userID = some old)
    (hgenerate : Credentials.generate e.call.password salt = some hash)
    (hchecked : e.call.Checked a.state userID old)
    (hsets : Sets a.state (a.after e).1 userID hash (!e.call.isReset)) :
    Audited userID (a.step userID e) := by
  have hhash := hsets.passwordHash_self hold
  unfold step
  by_cases heq : hash = old
  · -- only a reset can leave the hash as it was
    have hreset : e.call.isReset = true := by
      by_contra hnot
      have hno := PasswordCall.compare_old hcount hchecked (Bool.eq_false_iff.mpr hnot)
      rw [← heq, (Credentials.compare_generate hgenerate _).mpr rfl] at hno
      cases hno
    have hsame : (a.after e).1.passwordHash userID = a.state.passwordHash userID := by
      rw [hhash, hold, heq]
    rw [if_pos hsame]
    refine h.same hsets.settings hsame ?_
    rw [hsets.hashesOf, hreset, if_neg (by simp)]
  · have hne : (a.after e).1.passwordHash userID ≠ a.state.passwordHash userID := by
      rw [hhash, hold]
      exact fun hsome => heq (Option.some.inj hsome)
    rw [if_neg hne]
    exact h.set hsets hold hgenerate (h.fresh hcount hkeeps hold hchecked)

theorem Audited.step (hlawful : a.Lawful userID e) :
    Audited userID (a.step userID e) ∧ a.Complies userID e := by
  obtain ⟨hsettings, hcases⟩ := after_cases userID a e
  rcases hcases with ⟨hhash, hhashes, hother⟩ |
    ⟨old, hash, salt, hok, hold, hgenerate, hchecked, hsets⟩
  · constructor
    · unfold Audit.step
      rw [if_pos hhash]
      exact h.same hsettings hhash hhashes
    · constructor
      · intro hne
        exact absurd hhash hne
      · intro principal sessionToken currentPassword newPassword hcall huser hok
        exact absurd huser (hother _ _ _ _ hcall hok)
  · have hkeeps := hlawful hok
    refine ⟨h.step_set hcount hkeeps hold hgenerate hchecked hsets, ?_, ?_⟩
    · intro _
      have hcurrent := IdentityState.hasPassword_iff (hsets.passwordHash_self hold) e.call.password
      exact ⟨passwordMinLength_le hkeeps hchecked,
        hcurrent.mpr ((Credentials.compare_generate hgenerate _).mpr rfl)⟩
    · intro principal sessionToken currentPassword newPassword hcall _ _
      have hreset : e.call.isReset = false := by
        rw [hcall]
        rfl
      have hpassword : e.call.password = newPassword := by
        rw [hcall]
        rfl
      have hno := PasswordCall.compare_old hcount hchecked hreset
      have hfresh := h.fresh hcount hkeeps hold hchecked hreset
      rw [hpassword] at hno hfresh
      rw [IdentityState.hasPassword_iff hold, hno]
      exact ⟨Bool.false_ne_true, hfresh⟩

end Audit

/-! ## Histories -/

/-- In a history of lawful calls every call complies with the policy, and the log of the
audit stays right. -/
theorem passwords_follow_policy (userID : Int) (a : Audit) (events : List PasswordEvent)
    (hcount : 1 ≤ a.state.settings.passwordHistoryCount) (hstart : a.Audited userID)
    (hlawful : Guarded (Audit.Lawful userID) (Audit.step userID) a events) :
    Guarded (Audit.Complies userID) (Audit.step userID) a events ∧
      (run (Audit.step userID) a events).Audited userID := by
  have hstep : ∀ (b : Audit) (e : PasswordEvent),
      1 ≤ b.state.settings.passwordHistoryCount ∧ b.Audited userID → b.Lawful userID e →
        (1 ≤ (b.step userID e).state.settings.passwordHistoryCount ∧
          (b.step userID e).Audited userID) ∧ b.Complies userID e := by
    intro b e hb hok
    obtain ⟨haudited, hcomplies⟩ := hb.2.step hb.1 hok
    refine ⟨⟨?_, haudited⟩, hcomplies⟩
    show 1 ≤ (b.after e).1.settings.passwordHistoryCount
    rw [(Audit.after_cases userID b e).1]
    exact hb.1
  obtain ⟨hcomplies, _, hend⟩ := guarded_invariant hstep ⟨hcount, hstart⟩ hlawful
  exact ⟨hcomplies, hend⟩

end

/-! ## Two histories -/

attribute [local instance] Credentials.plain

instance (userID : Int) (a : Audit) (call : PasswordCall) : Decidable (a.Keeps userID call) :=
  match call with
  | .initializeAdmin _ => .isTrue trivial
  | .activate _ _ => .isTrue trivial
  | .changePassword _ _ _ _ => inferInstanceAs (Decidable (_ → ∀ entry ∈ a.recent, _))
  | .resetPassword _ _ _ => inferInstanceAs (Decidable (_ → _))

instance (userID : Int) (a : Audit) (e : PasswordEvent) : Decidable (a.Lawful userID e) :=
  inferInstanceAs (Decidable (_ → _))

/-- The console before its first start, with settings that ask for sixteen bytes and compare
with two passwords. -/
def uninitialized : Audit where
  state :=
    { users := (RowStore.empty.insert 0
        { username := "admin", role := .systemAdmin, status := .active }).getD .empty
      settings := { passwordMinLength := 16, passwordHistoryCount := 2 } }

theorem audited_uninitialized : uninitialized.Audited 1 := by
  have hempty : uninitialized.state.passwordHash 1 = some "" := by decide +kernel
  refine ⟨fun password => ⟨fun hcurrent => ?_, fun hhead => ?_⟩, Recent.covered_nil⟩
  · rw [IdentityState.hasPassword_iff hempty, Credentials.compare_empty] at hcurrent
    cases hcurrent
  · obtain ⟨entry, hentry, _⟩ := hhead
    cases hentry

def firstStart : PasswordEvent := ⟨.initializeAdmin "initial password", []⟩

def resetTo (password : String) : PasswordEvent :=
  ⟨.resetPassword { userID := 2, role := .systemAdmin } 1 password, []⟩

def changeTo (currentPassword newPassword : String) : PasswordEvent :=
  ⟨.changePassword { userID := 1, role := .systemAdmin } "" currentPassword newPassword, []⟩

/-- The administrator changes a password that a reset has set. -/
def lawfulHistory : List PasswordEvent :=
  [firstStart, resetTo "password by reset", changeTo "password by reset" "another password"]

theorem passwords_follow_policy_after_reset :
    Guarded (Audit.Lawful 1) (Audit.step 1) uninitialized lawfulHistory ∧
      Guarded (Audit.Complies 1) (Audit.step 1) uninitialized lawfulHistory ∧
      (run (Audit.step 1) uninitialized lawfulHistory).state.passwordHash 1 =
        some "#another password" := by
  have hlawful : Guarded (Audit.Lawful 1) (Audit.step 1) uninitialized lawfulHistory := by
    decide +kernel
  exact ⟨hlawful, (passwords_follow_policy 1 uninitialized lawfulHistory (by decide)
    audited_uninitialized hlawful).1, by decide +kernel⟩

/-- A reset to twelve bytes is accepted, and so is the return to a password that a reset has
set and that is one of the two most recent ones. -/
theorem reset_evades_policy :
    ¬ Guarded (Audit.Complies 1) (Audit.step 1) uninitialized
        [firstStart, resetTo "twelve bytes"] ∧
      ¬ Guarded (Audit.Complies 1) (Audit.step 1) uninitialized
        (lawfulHistory ++ [changeTo "another password" "password by reset"]) := by
  constructor
  · intro hguard
    have hlength := (hguard.2.1.length (by decide +kernel)).1
    exact absurd hlength (by decide +kernel)
  · intro hguard
    have hchange := (guarded_append.mp hguard).2.1.change _ _ _ _ rfl rfl (by decide +kernel)
    exact hchange.2 ⟨"password by reset", true⟩ (by decide +kernel) rfl

end KubeSentry.Identity
