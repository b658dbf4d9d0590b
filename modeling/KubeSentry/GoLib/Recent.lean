import Mathlib.Data.List.Basic

/-!
# Most recent first

A list of items with the most recent one first, in which an item that is used again moves
to the front.  `Covered window kept hit items rows` compares it with a second list, which
has a row for some of the items only: the `kept` ones among the first `n` items are hit by
one of the first `n` rows, for every `n` up to the window.

The two rules say which uses keep this.

* `covered_push_kept`: an item that gets a row may not be one of the window already.
* `covered_push_other`: an item that gets no row may be any.
-/

namespace GoLib.Recent

variable {A B K : Type} [DecidableEq K] (key : A → K)

/-- The item of the same key gives way to the new one. -/
def push (a : A) (items : List A) : List A :=
  a :: items.eraseP fun b => key b = key a

variable {key}

theorem take_eraseP_subset {p : A → Bool} (items : List A) (n : Nat) :
    ∀ a ∈ (items.eraseP p).take n, a ∈ items.take (n + 1) := by
  induction items generalizing n with
  | nil =>
    intro a ha
    simp at ha
  | cons b rest ih =>
    intro a ha
    by_cases hb : p b = true
    · rw [List.eraseP_cons_of_pos hb] at ha
      exact List.mem_cons_of_mem b ha
    · rw [List.eraseP_cons_of_neg hb] at ha
      cases n with
      | zero => simp at ha
      | succ n =>
        rcases List.mem_cons.mp ha with heq | hrest
        · rw [heq]
          exact List.mem_cons_self
        · exact List.mem_cons_of_mem b (ih n a hrest)

theorem take_eraseP_of_forall {p : A → Bool} {items : List A} {n : Nat}
    (h : ∀ a ∈ items.take n, p a = false) : (items.eraseP p).take n = items.take n := by
  induction items generalizing n with
  | nil => rfl
  | cons b rest ih =>
    cases n with
    | zero => rfl
    | succ n =>
      have hb : p b = false := h b List.mem_cons_self
      rw [List.eraseP_cons_of_neg (by simp [hb]), List.take_succ_cons, List.take_succ_cons,
        ih fun a ha => h a (List.mem_cons_of_mem b ha)]

/-! ## Rows for some of the items -/

variable {window : Nat} {kept : A → Prop} {hit : A → B → Prop} {items : List A} {rows : List B}

def Covered (window : Nat) (kept : A → Prop) (hit : A → B → Prop) (items : List A)
    (rows : List B) : Prop :=
  ∀ n ≤ window, ∀ a ∈ items.take n, kept a → ∃ b ∈ rows.take n, hit a b

theorem covered_nil : Covered window kept hit [] rows := by
  intro n _ a ha
  simp at ha

theorem covered_push_kept (h : Covered window kept hit items rows) {a : A}
    (hnew : ∀ a' ∈ items.take window, key a' ≠ key a) {b : B} (hb : hit a b) :
    Covered window kept hit (push key a items) (b :: rows) := by
  intro n hn a' ha' hkept
  cases n with
  | zero => simp at ha'
  | succ n =>
    rcases List.mem_cons.mp ha' with heq | hrest
    · rw [heq]
      exact ⟨b, List.mem_cons_self, hb⟩
    · have hle : n ≤ window := Nat.le_of_succ_le hn
      -- nothing has given way before the end of the window
      have hsame : (items.eraseP fun b => key b = key a).take n = items.take n := by
        refine take_eraseP_of_forall fun c hc => ?_
        simpa using hnew c (List.take_subset_take_left items hle hc)
      rw [hsame] at hrest
      obtain ⟨b', hb', hhit⟩ := h n hle a' hrest hkept
      exact ⟨b', List.mem_cons_of_mem b hb', hhit⟩

theorem covered_push_other (h : Covered window kept hit items rows) {a : A} (ha : ¬ kept a) :
    Covered window kept hit (push key a items) rows := by
  intro n hn a' ha' hkept
  cases n with
  | zero => simp at ha'
  | succ n =>
    rcases List.mem_cons.mp ha' with heq | hrest
    · rw [heq] at hkept
      exact absurd hkept ha
    · exact h (n + 1) hn a' (take_eraseP_subset items n a' hrest) hkept

end GoLib.Recent
