import Mathlib.Data.List.Basic
import Mathlib.Algebra.Order.Ring.Nat

/-!
# Positional notation

`digits` writes a number with a fixed number of digits, the highest one first.  If the
digits are in the order of their values, the texts of one length are in the order of the
numbers (`digits_lt`).
-/

namespace GoLib

variable {A : Type} {base : Nat} {digit : Nat → A}

/-- The last `n` digits of `v`. -/
def digits (base : Nat) (digit : Nat → A) : Nat → Nat → List A
  | 0, _ => []
  | n + 1, v => digits base digit n (v / base) ++ [digit (v % base)]

theorem length_digits (n v : Nat) : (digits base digit n v).length = n := by
  induction n generalizing v with
  | zero => rfl
  | succ n ih =>
    rw [digits, List.length_append, ih]
    rfl

theorem exists_digit (hbase : 0 < base) {n v : Nat} {a : A} (h : a ∈ digits base digit n v) :
    ∃ d < base, a = digit d := by
  induction n generalizing v with
  | zero => cases h
  | succ n ih =>
    rcases List.mem_append.mp h with hinit | hlast
    · exact ih hinit
    · exact ⟨v % base, Nat.mod_lt v hbase, List.mem_singleton.mp hlast⟩

variable [LT A]

/-- What follows two texts of one length does not matter for their order. -/
theorem append_lt_append {a b : List A} (h : a < b) (hlength : a.length = b.length)
    (c d : List A) : a ++ c < b ++ d := by
  induction h with
  | nil => cases hlength
  | rel hrel => exact .rel hrel
  | cons _ ih => exact .cons (ih (Nat.succ.inj hlength))

/-- Texts of one length are in the order of the numbers. -/
theorem digits_lt (hdigit : ∀ i j, i < j → j < base → digit i < digit j) {n v w : Nat}
    (h : v < w) (hw : w < base ^ n) : digits base digit n v < digits base digit n w := by
  induction n generalizing v w with
  | zero =>
    rw [pow_zero] at hw
    omega
  | succ n ih =>
    have hbase : 0 < base := Nat.pos_of_ne_zero fun hzero => by simp [hzero] at hw
    rcases Nat.lt_or_eq_of_le (Nat.div_le_div_right (c := base) h.le) with hlt | heq
    · have hw' : w / base < base ^ n := Nat.div_lt_of_lt_mul (by rwa [← pow_succ'])
      exact append_lt_append (ih hlt hw') (by rw [length_digits, length_digits]) _ _
    · have hv := Nat.div_add_mod v base
      have hw' := Nat.div_add_mod w base
      rw [heq] at hv
      rw [digits, digits, heq]
      exact List.append_left_lt (.rel (hdigit _ _ (by omega) (Nat.mod_lt w hbase)))

/-- Different numbers have different texts. -/
theorem digits_inj [@Std.Irrefl A (· < ·)]
    (hdigit : ∀ i j, i < j → j < base → digit i < digit j) {n v w : Nat} (hv : v < base ^ n)
    (hw : w < base ^ n) (h : digits base digit n v = digits base digit n w) : v = w := by
  rcases Nat.lt_trichotomy v w with hlt | heq | hlt
  · have hless := digits_lt hdigit hlt hw
    rw [h] at hless
    exact absurd hless (List.lt_irrefl _)
  · exact heq
  · have hless := digits_lt hdigit hlt hv
    rw [h] at hless
    exact absurd hless (List.lt_irrefl _)

end GoLib
