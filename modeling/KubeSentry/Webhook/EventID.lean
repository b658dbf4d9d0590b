import Mathlib.Data.Nat.Digits.Defs
import Mathlib.Data.Nat.ModEq
import KubeSentry.GoLib.Radix

/-!
# Event ids

`newAdmissionEventULID` writes 50 bits of the time and 80 random bits as 26 characters of
five bits.  The random bytes go through a 64-bit word that loses its upper bits, but only
the lowest `bits` of them are still to be written.  The invariant is `Packed`: the
characters so far are the digits of the number that has been read, without these bits,
and the word agrees with the number on them.
-/

namespace KubeSentry.Webhook

open GoLib

def crockford32 : String := "0123456789ABCDEFGHJKMNPQRSTVWXYZ"

/-- `crockford32[v&31]`. -/
def crockfordChar (v : BitVec 64) : Option Char :=
  crockford32.toList[(v &&& 31#64).toNat]?

/-- `out[i] = c`, and none where Go panics. -/
def writeAt (out : List Char) (i : Nat) (c : Char) : Option (List Char) :=
  if i < out.length then some (out.set i c) else none

/-- The loop over the time, at the positions below the given one. -/
def writeTime : Nat → BitVec 64 → List Char → Option (List Char)
  | 0, _, out => some out
  | i + 1, ms, out => do
    let out ← writeAt out i (← crockfordChar ms)
    writeTime i (ms >>> 5) out

structure Packer where
  value : BitVec 64 := 0
  bits : Nat := 0
  pos : Nat := 10
  out : List Char

/-- The inner loop, `for bits >= 5`. -/
def drain (value : BitVec 64) : (bits pos : Nat) → List Char → Option Packer
  | bits + 5, pos, out => do
    let out ← writeAt out pos (← crockfordChar (value >>> bits))
    drain value bits (pos + 1) out
  | bits, pos, out => some { value, bits, pos, out }

def Packer.pack (p : Packer) (b : BitVec 8) : Option Packer :=
  drain (p.value <<< 8 ||| b.setWidth 64) (p.bits + 8) p.pos p.out

/-- `newAdmissionEventULID`, at a time and for the bytes that `rand.Read` leaves. -/
def newAdmissionEventULID (ms : BitVec 64) (random : Vector (BitVec 8) 10) : Option String := do
  let out ← writeTime 10 ms (List.replicate 26 '\x00')
  let p ← random.toList.foldlM Packer.pack { out := out }
  return String.ofList p.out

/-! ## Characters -/

def crockfordDigit (d : Nat) : Char :=
  crockford32.toList.getD d '0'

/-- The last `n` characters of a number. -/
abbrev crockford (n v : Nat) : List Char :=
  digits 32 crockfordDigit n v

theorem crockfordChar_eq (v : BitVec 64) :
    crockfordChar v = some (crockfordDigit (v.toNat % 32)) := by
  have hindex : (v &&& 31#64).toNat = v.toNat % 32 := Nat.and_two_pow_sub_one_eq_mod v.toNat 5
  have hlength : v.toNat % 32 < crockford32.toList.length := Nat.mod_lt _ (by decide)
  rw [crockfordChar, crockfordDigit, hindex, List.getElem?_eq_getElem hlength,
    List.getD_eq_getElem?_getD, List.getElem?_eq_getElem hlength]
  rfl

theorem writeTime_eq {n : Nat} {out : List Char} (ms : BitVec 64) (h : n ≤ out.length) :
    writeTime n ms out = some (crockford n ms.toNat ++ out.drop n) := by
  induction n generalizing ms out with
  | zero => rfl
  | succ n ih =>
    have hset : ∀ c, (out.set n c).drop n = c :: out.drop (n + 1) := by
      intro c
      rw [List.drop_eq_getElem_cons (by simpa using Nat.lt_of_succ_le h), List.getElem_set_self,
        List.drop_set_of_lt (Nat.lt_succ_self n)]
    have hshift : (ms >>> 5).toNat = ms.toNat / 32 := Nat.shiftRight_eq_div_pow ms.toNat 5
    simp only [writeTime, crockfordChar_eq, writeAt, Option.bind_eq_bind, Option.bind_some,
      Nat.lt_of_succ_le h, if_true]
    rw [ih _ (by simpa using Nat.le_of_succ_le h), hshift, hset]
    simp [digits]

/-! ## The random part -/

/-- The state after `total` bits, with the number `acc`. -/
structure Packed (acc total : Nat) (p : Packer) : Prop where
  length : p.out.length = 26
  count : 5 * p.pos + p.bits = total
  text : p.out.take p.pos = crockford p.pos (acc / 2 ^ p.bits)
  live : p.value.toNat % 2 ^ p.bits = acc % 2 ^ p.bits

variable {acc total bits : Nat} {value : BitVec 64} {p : Packer}

theorem drain_spec {pos : Nat} {out : List Char} (h : Packed acc total ⟨value, bits, pos, out⟩)
    (hroom : total ≤ 130) :
    ∃ p, drain value bits pos out = some p ∧ Packed acc total p ∧ p.bits < 5 := by
  fun_induction drain value bits pos out with
  | case2 bits pos out hsmall =>
    have hbits : bits < 5 := Nat.lt_of_not_le fun hle => hsmall (bits - 5) (by omega)
    exact ⟨_, rfl, h, hbits⟩
  | case1 bits pos out ih =>
    obtain ⟨hlength, hcount, htext, hlive⟩ := h
    dsimp only at hlength hcount
    have hpow : 2 ^ (bits + 5) = 2 ^ bits * 32 := pow_add 2 bits 5
    have hlive' : value.toNat % (2 ^ bits * 32) = acc % (2 ^ bits * 32) := hpow ▸ hlive
    have htext' : out.take pos = crockford pos (acc / (2 ^ bits * 32)) := hpow ▸ htext
    -- the five bits above the lowest `bits` are still in the word
    have hchar : (value >>> bits).toNat % 32 = acc / 2 ^ bits % 32 := by
      rw [BitVec.toNat_ushiftRight, Nat.shiftRight_eq_div_pow, ← Nat.mod_mul_right_div_self, hlive',
        Nat.mod_mul_right_div_self]
    have hpos : pos < out.length := by omega
    simp only [crockfordChar_eq, writeAt, Option.bind_eq_bind, Option.bind_some, hpos, if_true,
      hchar]
    have htext'' : (out.set pos (crockfordDigit (acc / 2 ^ bits % 32))).take (pos + 1) =
        crockford (pos + 1) (acc / 2 ^ bits) := by
      rw [List.take_add_one, List.take_set_of_le le_rfl, List.getElem?_set_self hpos, htext',
        ← Nat.div_div_eq_div_mul]
      rfl
    have hlive'' : value.toNat % 2 ^ bits = acc % 2 ^ bits := by
      rw [← Nat.mod_mul_right_mod _ _ 32, hlive', Nat.mod_mul_right_mod]
    have hcount' : 5 * (pos + 1) + bits = total := by omega
    exact ih _ ⟨List.length_set.trans hlength, hcount', htext'', hlive''⟩

/-- The word and the number agree on one more byte. -/
theorem live_append (b : BitVec 8) (hbits : bits + 8 ≤ 64)
    (h : value.toNat % 2 ^ bits = acc % 2 ^ bits) :
    (value <<< 8 ||| b.setWidth 64).toNat % 2 ^ (bits + 8) =
      (b.toNat + 256 * acc) % 2 ^ (bits + 8) := by
  have hword : (value <<< 8 ||| b.setWidth 64).toNat % 2 ^ (bits + 8) =
      (b.toNat + 256 * value.toNat) % 2 ^ (bits + 8) := by
    have hb : b.toNat % 2 ^ 64 = b.toNat := Nat.mod_eq_of_lt (by omega)
    rw [BitVec.toNat_or, BitVec.toNat_shiftLeft, BitVec.toNat_setWidth, hb, Nat.or_mod_two_pow,
      Nat.mod_mod_of_dvd _ (pow_dvd_pow 2 hbits), ← Nat.or_mod_two_pow,
      ← Nat.shiftLeft_add_eq_or_of_lt b.isLt, Nat.shiftLeft_eq, Nat.add_comm, Nat.mul_comm]
  rw [hword, Nat.add_comm bits 8, pow_add]
  exact (Nat.ModEq.mul_left' 256 h).add_left b.toNat

theorem pack_spec (b : BitVec 8) (h : Packed acc total p) (hbits : p.bits < 5)
    (hroom : total + 8 ≤ 130) :
    ∃ p', p.pack b = some p' ∧ Packed (b.toNat + 256 * acc) (total + 8) p' ∧ p'.bits < 5 := by
  have hcount : 5 * p.pos + (p.bits + 8) = total + 8 := by rw [← h.count, Nat.add_assoc]
  refine drain_spec ⟨h.length, hcount, ?_, live_append b (by omega) h.live⟩ hroom
  have hdiv : (b.toNat + 256 * acc) / 2 ^ (p.bits + 8) = acc / 2 ^ p.bits := by
    have hbyte : (b.toNat + 256 * acc) / 256 = acc := by omega
    rw [Nat.add_comm p.bits 8, pow_add, ← Nat.div_div_eq_div_mul]
    exact congrArg (· / 2 ^ p.bits) hbyte
  dsimp only
  rw [hdiv]
  exact h.text

theorem foldlM_pack_spec {ds : List Nat} (bytes : List (BitVec 8))
    (h : Packed (Nat.ofDigits 256 ds) total p) (hbits : p.bits < 5)
    (hroom : total + 8 * bytes.length ≤ 130) :
    ∃ p', bytes.foldlM Packer.pack p = some p' ∧
      Packed (Nat.ofDigits 256 ((bytes.map (·.toNat)).reverse ++ ds)) (total + 8 * bytes.length)
        p' ∧ p'.bits < 5 := by
  induction bytes generalizing ds total p with
  | nil => exact ⟨p, rfl, h, hbits⟩
  | cons b bytes ih =>
    have hlength : total + 8 * (b :: bytes).length = total + 8 + 8 * bytes.length := by
      rw [List.length_cons]
      ring
    rw [hlength] at hroom ⊢
    obtain ⟨p1, hpack, hpacked, hbits1⟩ := pack_spec b h hbits (by omega)
    change Packed (Nat.ofDigits 256 (b.toNat :: ds)) _ p1 at hpacked
    rw [List.foldlM_cons, hpack, List.map_cons, List.reverse_cons, List.append_assoc]
    exact ih hpacked hbits1 hroom

/-! ## The id -/

variable (random : Vector (BitVec 8) 10)

/-- The random bytes, the last one first. -/
def lowBytes : List Nat :=
  (random.toList.map (·.toNat)).reverse

/-- The time and the random bytes as one number. -/
def idNumber (ms : BitVec 64) (random : Vector (BitVec 8) 10) : Nat :=
  Nat.ofDigits 256 (lowBytes random ++ [ms.toNat])

theorem newAdmissionEventULID_eq (ms : BitVec 64) (random : Vector (BitVec 8) 10) :
    newAdmissionEventULID ms random = some (String.ofList (crockford 26 (idNumber ms random))) := by
  have htime : writeTime 10 ms (List.replicate 26 '\x00') = _ := writeTime_eq ms (by decide)
  have hstart : Packed (Nat.ofDigits 256 [ms.toNat]) 50
      { out := crockford 10 ms.toNat ++ (List.replicate 26 '\x00').drop 10 } := by
    rw [Nat.ofDigits_singleton]
    refine ⟨?_, rfl, ?_, ?_⟩
    · simp [length_digits]
    · simp [length_digits]
    · simp [Nat.mod_one]
  obtain ⟨p, hpack, hpacked, hbits⟩ :=
    foldlM_pack_spec random.toList hstart (Nat.zero_lt_succ 4) (by simp)
  have hcount : 5 * p.pos + p.bits = 130 := by simpa using hpacked.count
  have hpos : p.pos = 26 := by omega
  have hnone : p.bits = 0 := by omega
  have htext : p.out = crockford 26 (idNumber ms random) := by
    have htake := hpacked.text
    rw [hpos, hnone, List.take_of_length_le hpacked.length.le, pow_zero, Nat.div_one] at htake
    exact htake
  unfold newAdmissionEventULID
  rw [htime, Option.bind_eq_bind, Option.bind_some, hpack, ← htext]
  rfl

theorem length_lowBytes : (lowBytes random).length = 10 := by
  simp [lowBytes]

theorem lowBytes_lt : ∀ d ∈ lowBytes random, d < 256 := by
  intro d hd
  obtain ⟨b, -, rfl⟩ := List.mem_map.mp (List.mem_reverse.mp hd)
  exact b.isLt

/-- The random bytes fill the lower 80 bits. -/
theorem idNumber_eq (ms : BitVec 64) (random : Vector (BitVec 8) 10) :
    ∃ low < 256 ^ 10, low = Nat.ofDigits 256 (lowBytes random) ∧
      idNumber ms random = low + 256 ^ 10 * ms.toNat := by
  refine ⟨_, ?_, rfl, ?_⟩
  · rw [← length_lowBytes random]
    exact Nat.ofDigits_lt_base_pow_length (by decide) (lowBytes_lt random)
  · rw [idNumber, Nat.ofDigits_append, length_lowBytes, Nat.ofDigits_singleton]

theorem crockfordDigit_lt (i j : Nat) (hij : i < j) (hj : j < 32) :
    crockfordDigit i < crockfordDigit j := by
  have hall : ∀ j < 32, ∀ i < j, crockfordDigit i < crockfordDigit j := by decide +kernel
  exact hall j hj i hij

theorem idNumber_lt {ms : BitVec 64} (h : ms.toNat < 2 ^ 50) : idNumber ms random < 32 ^ 26 := by
  obtain ⟨low, hlow, -, hnumber⟩ := idNumber_eq ms random
  rw [hnumber]
  omega

/-- For times below `2 ^ 50` the encoder writes 26 characters of its alphabet and never
past the end.  Different times or bytes give different ids, and an earlier time gives a
lower id. -/
theorem event_ids_ordered (ms : BitVec 64) (hms : ms.toNat < 2 ^ 50)
    (random : Vector (BitVec 8) 10) :
    ∃ id, newAdmissionEventULID ms random = some id ∧ id.length = 26 ∧
      (∀ c ∈ id.toList, c ∈ crockford32.toList) ∧
      ∀ (ms' : BitVec 64) (random' : Vector (BitVec 8) 10) (id' : String), ms'.toNat < 2 ^ 50 →
        newAdmissionEventULID ms' random' = some id' →
        (id = id' → ms = ms' ∧ random = random') ∧ (ms.toNat < ms'.toNat → id < id') := by
  refine ⟨_, newAdmissionEventULID_eq ms random, ?_, ?_, ?_⟩
  · rw [String.length_ofList, length_digits]
  · intro c hc
    rw [String.toList_ofList] at hc
    obtain ⟨d, hd, rfl⟩ := exists_digit (by decide) hc
    have hall : ∀ d < 32, crockfordDigit d ∈ crockford32.toList := by decide +kernel
    exact hall d hd
  · intro ms' random' id' hms' hid'
    rw [newAdmissionEventULID_eq, Option.some.injEq] at hid'
    subst hid'
    obtain ⟨low, hlow, hbytes, hnumber⟩ := idNumber_eq ms random
    obtain ⟨low', hlow', hbytes', hnumber'⟩ := idNumber_eq ms' random'
    constructor
    · intro heq
      have heqNumber := digits_inj crockfordDigit_lt (idNumber_lt random hms)
        (idNumber_lt random' hms') (String.ofList_injective heq)
      rw [hnumber, hnumber'] at heqNumber
      have htime : ms.toNat = ms'.toNat := by omega
      have hbytes : lowBytes random = lowBytes random' := by
        refine Nat.ofDigits_inj_of_len_eq (by decide : 1 < 256) ?_ (lowBytes_lt random)
          (lowBytes_lt random') (by omega)
        rw [length_lowBytes, length_lowBytes]
      refine ⟨BitVec.eq_of_toNat_eq htime, Vector.toList_inj.mp ?_⟩
      exact List.map_injective_iff.mpr (fun _ _ => BitVec.eq_of_toNat_eq)
        (List.reverse_injective hbytes)
    · intro hlt
      rw [String.lt_iff, String.toList_ofList, String.toList_ofList]
      exact digits_lt crockfordDigit_lt (by omega) (idNumber_lt random' hms')

/-- Two ids of the first two milliseconds, the earlier one with the higher bytes. -/
theorem event_ids_ordered_next :
    ∃ id id', newAdmissionEventULID 0 (.replicate 10 255) = some id ∧
      newAdmissionEventULID 1 (.replicate 10 0) = some id' ∧ id < id' := by
  obtain ⟨id, hid, _, _, horder⟩ := event_ids_ordered 0 (by decide) (.replicate 10 255)
  have hid' := newAdmissionEventULID_eq 1 (.replicate 10 0)
  exact ⟨id, _, hid, hid', (horder 1 _ _ (by decide) hid').2 (by decide)⟩

end KubeSentry.Webhook
